/-
# A loop that stops at its first find

The loop walks a list with a state.  A visit may change the state and may find something; the
first find ends the loop.  `search_rule` is its rule: what every visit without a find preserves
holds of the state in which the find is made, or of the last state.
-/
import Mathlib.Data.List.Basic

namespace Search

variable {σ α β : Type*}

def search (visit : σ → α → σ × Option β) : σ → List α → σ × Option β
  | s, [] => (s, none)
  | s, a :: l =>
    match visit s a with
    | (s', some b) => (s', some b)
    | (s', none) => search visit s' l

variable {visit : σ → α → σ × Option β}

@[simp] theorem search_nil (s : σ) : search visit s [] = (s, none) := rfl

theorem search_cons_some {s s' : σ} {a : α} {b : β} (h : visit s a = (s', some b)) (l : List α) :
    search visit s (a :: l) = (s', some b) := by
  rw [search, h]

theorem search_cons_none {s s' : σ} {a : α} (h : visit s a = (s', none)) (l : List α) :
    search visit s (a :: l) = search visit s' l := by
  rw [search, h]

/-- The find was made by a visit, in a state the finds that failed lead to. -/
def Found (visit : σ → α → σ × Option β) (P : σ → Prop) (l : List α) (result : σ × Option β) :
    Prop :=
  (result.2 = none ∧ P result.1) ∨ ∃ s a, P s ∧ a ∈ l ∧ (visit s a).2 ≠ none ∧ result = visit s a

/-- **The rule of the loop.** -/
theorem search_rule {P : σ → Prop}
    (hvisit : ∀ s a, P s → (visit s a).2 = none → P (visit s a).1) :
    ∀ (l : List α) {s : σ}, P s → Found visit P l (search visit s l)
  | [], s, hs => Or.inl ⟨rfl, hs⟩
  | a :: l, s, hs => by
    rcases hfind : visit s a with ⟨s', found⟩
    cases found with
    | none =>
      have hnext : P s' := by
        have h := hvisit s a hs (by rw [hfind])
        rwa [hfind] at h
      rw [search_cons_none hfind]
      rcases search_rule hvisit l hnext with hnone | ⟨t, c, ht, hc, hsome, heq⟩
      · exact Or.inl hnone
      · exact Or.inr ⟨t, c, ht, List.mem_cons_of_mem a hc, hsome, heq⟩
    | some b =>
      rw [search_cons_some hfind]
      exact Or.inr ⟨s, a, hs, List.mem_cons_self, by simp [hfind], hfind.symm⟩

/-- What every visit preserves, find or not, the loop preserves. -/
theorem search_invariant {P : σ → Prop} (hvisit : ∀ s a, P s → P (visit s a).1) (l : List α)
    {s : σ} (hs : P s) : P (search visit s l).1 := by
  rcases search_rule (fun s a h _ => hvisit s a h) l hs with ⟨-, h⟩ | ⟨t, a, ht, -, -, heq⟩
  · exact h
  · rw [heq]
    exact hvisit t a ht

end Search
