/-
# Histories, newest first

A history is a list to which what happens next is put in front, so that the tail behind an entry
is all that had happened by then.

* `Since P Q`: a `P` has happened, and no `Q` after it;
* `Until Q`: the part after the last `Q`;
* `Lawful ok`: every entry was in order by what had happened before it (`lawful_iff_suffix`).
-/
import Mathlib.Data.List.Infix

namespace History

variable {ε : Type*} {P P' Q Q' : ε → Prop} {ok : List ε → ε → Prop}

/-! ## Since -/

def Since (P Q : ε → Prop) : List ε → Prop
  | [] => False
  | e :: earlier => P e ∨ ¬ Q e ∧ Since P Q earlier

@[simp] theorem since_nil : ¬ Since P Q [] := id

variable {e : ε} {earlier : List ε}

@[simp] theorem since_cons : Since P Q (e :: earlier) ↔ P e ∨ ¬ Q e ∧ Since P Q earlier := Iff.rfl

theorem Since.now (h : P e) (earlier : List ε) : Since P Q (e :: earlier) := .inl h

/-- What is not a `Q` lets it stand. -/
theorem Since.after (h : Since P Q earlier) (he : ¬ Q e) : Since P Q (e :: earlier) := .inr ⟨he, h⟩

/-- Neither a `P` nor a `Q` makes a difference. -/
theorem since_cons_of_not (hP : ¬ P e) (hQ : ¬ Q e) :
    Since P Q (e :: earlier) ↔ Since P Q earlier := by
  rw [since_cons, or_iff_right hP, and_iff_right hQ]

/-! ## Until -/

variable [DecidablePred Q]

def Until (Q : ε → Prop) [DecidablePred Q] (history : List ε) : List ε :=
  history.takeWhile fun e => ¬ Q e

@[simp] theorem until_nil : Until Q [] = [] := rfl

theorem until_cons_of (h : Q e) (earlier : List ε) : Until Q (e :: earlier) = [] := by
  rw [Until, List.takeWhile_cons_of_neg (by simpa using h)]

theorem until_cons_of_not (h : ¬ Q e) (earlier : List ε) :
    Until Q (e :: earlier) = e :: Until Q earlier := by
  rw [Until, List.takeWhile_cons_of_pos (by simpa using h), Until]

/-! ## Lawful -/

def Lawful (ok : List ε → ε → Prop) : List ε → Prop
  | [] => True
  | e :: earlier => ok earlier e ∧ Lawful ok earlier

@[simp] theorem lawful_nil : Lawful ok [] := trivial

@[simp] theorem lawful_cons : Lawful ok (e :: earlier) ↔ ok earlier e ∧ Lawful ok earlier := Iff.rfl

theorem lawful_iff_suffix : ∀ {history : List ε},
    Lawful ok history ↔ ∀ e earlier, e :: earlier <:+ history → ok earlier e
  | [] => by simp
  | e :: history => by
    have ih : Lawful ok history ↔ _ := lawful_iff_suffix
    rw [lawful_cons, ih]
    constructor
    · rintro ⟨hnow, hbefore⟩ e' earlier hsuffix
      rcases List.suffix_cons_iff.mp hsuffix with heq | hsuffix
      · obtain ⟨rfl, rfl⟩ := List.cons.inj heq
        exact hnow
      · exact hbefore e' earlier hsuffix
    · intro h
      exact ⟨h e history List.suffix_rfl, fun e' earlier hsuffix =>
        h e' earlier (hsuffix.trans (List.suffix_cons e history))⟩

end History
