/-
# A machine with a ratchet

A machine takes some of its events and lets the others pass.  What it takes has a rank, and the
machine has a level that no event lowers; what is taken ranks above the level it was met with and
lifts the level to its rank.  Then a run takes things in strictly increasing rank (`pairwise_log`),
whatever the events that passed have done to the level in between.

`log_since` looks back instead: it says what can be told of the log behind an entry.
-/
import MobileBimanual.Lib.Machine
import Mathlib.Order.Basic

namespace Ratchet

open Machine

variable {σ ε α ι : Type*} [Preorder ι]

/-- What a run takes, in order. -/
def log (step : σ → ε → σ) (taken : σ → ε → Option α) : σ → List ε → List α
  | _, [] => []
  | s, e :: l => (taken s e).toList ++ log step taken (step s e) l

variable {step : σ → ε → σ} {taken : σ → ε → Option α}

@[simp] theorem log_nil (s : σ) : log step taken s [] = [] := rfl

theorem log_cons (s : σ) (e : ε) (l : List ε) :
    log step taken s (e :: l) = (taken s e).toList ++ log step taken (step s e) l := rfl

theorem log_append (l₁ l₂ : List ε) : ∀ s : σ,
    log step taken s (l₁ ++ l₂) = log step taken s l₁ ++ log step taken (run step s l₁) l₂ := by
  induction l₁ with
  | nil =>
    intro s
    rfl
  | cons e l₁ ih =>
    intro s
    rw [List.cons_append, log_cons, log_cons, ih, List.append_assoc, run_cons]

section Since

variable {J : σ → Prop} {I : σ → List α → Prop}

theorem log_keeps (invariant : ∀ s e, J s → J (step s e))
    (keep : ∀ s e back, J s → I s back → I (step s e) (back ++ (taken s e).toList)) :
    ∀ (l : List ε) (s : σ) (back : List α), J s → I s back →
      I (run step s l) (back ++ log step taken s l) := by
  intro l
  induction l with
  | nil =>
    intro s back _ h
    simpa using h
  | cons e l ih =>
    intro s back hJ h
    have hnext := ih (step s e) _ (invariant s e hJ) (keep s e back hJ h)
    rwa [List.append_assoc, ← log_cons] at hnext

/-- **What starts with an entry and is kept by every step holds of all that was logged since that
entry**, wherever in the log it stands. -/
theorem log_since {first : α} (invariant : ∀ s e, J s → J (step s e))
    (start : ∀ s e, J s → taken s e = some first → I (step s e) [])
    (keep : ∀ s e back, J s → I s back → I (step s e) (back ++ (taken s e).toList)) :
    ∀ (l : List ε) (s : σ) (before back : List α), J s →
      log step taken s l = before ++ first :: back → I (run step s l) back := by
  intro l
  induction l with
  | nil =>
    intro s before back _ h
    simp at h
  | cons e l ih =>
    intro s before back hJ h
    have hnext := invariant s e hJ
    rw [log_cons] at h
    rcases htaken : taken s e with _ | a
    · rw [htaken] at h
      exact ih (step s e) before back hnext h
    · rw [htaken, Option.toList_some, List.singleton_append] at h
      cases before with
      | nil =>
        obtain ⟨rfl, rfl⟩ := List.cons.inj h
        exact log_keeps invariant keep l (step s e) [] hnext (start s e hJ htaken)
      | cons b before =>
        exact ih (step s e) before back hnext (List.cons.inj h).2

end Since

/-- What holds of everything that can be taken holds of everything in the log. -/
theorem forall_log {P : α → Prop} (h : ∀ s e a, taken s e = some a → P a) :
    ∀ (s : σ) (l : List ε), ∀ a ∈ log step taken s l, P a
  | s, [], a, ha => by simp at ha
  | s, e :: l, a, ha => by
    rw [log_cons, List.mem_append, Option.mem_toList] at ha
    rcases ha with ha | ha
    · exact h s e a ha
    · exact forall_log h (step s e) l a ha

/-- `level` is a ratchet for the things taken, ranked by `rank`. -/
structure Holds (step : σ → ε → σ) (taken : σ → ε → Option α) (level : σ → ι) (rank : α → ι) :
    Prop where
  rises : ∀ s e, level s ≤ level (step s e)
  above : ∀ s e a, taken s e = some a → level s < rank a
  reaches : ∀ s e a, taken s e = some a → rank a ≤ level (step s e)

namespace Holds

variable {level : σ → ι} {rank : α → ι}

/-- Everything a run takes ranks above the level it starts from. -/
theorem above_log (h : Holds step taken level rank) :
    ∀ (l : List ε) (s : σ), ∀ a ∈ log step taken s l, level s < rank a := by
  intro l
  induction l with
  | nil =>
    intro s a ha
    simp at ha
  | cons e l ih =>
    intro s a ha
    rw [log_cons, List.mem_append, Option.mem_toList] at ha
    rcases ha with ha | ha
    · exact h.above s e a ha
    · exact lt_of_le_of_lt (h.rises s e) (ih (step s e) a ha)

/-- **What a run takes comes in strictly increasing rank.** -/
theorem pairwise_log (h : Holds step taken level rank) :
    ∀ (l : List ε) (s : σ), (log step taken s l).Pairwise fun a b => rank a < rank b := by
  intro l
  induction l with
  | nil => exact fun s => List.Pairwise.nil
  | cons e l ih =>
    intro s
    rw [log_cons, List.pairwise_append]
    refine ⟨?_, ih (step s e), ?_⟩
    · cases taken s e <;> simp
    · intro a ha b hb
      rw [Option.mem_toList] at ha
      exact lt_of_le_of_lt (h.reaches s e a ha) (h.above_log l (step s e) b hb)

end Holds

end Ratchet
