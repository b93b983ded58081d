/-
# Truncated linear interpolation

Going from a start to an end `delta` away over `span` units of time, integer code stands after
`elapsed` of them at the start plus `delta * elapsed / span`, the division truncating towards
zero.  `travel` is that way.  Truncation makes it the mirror image of itself under a change of
sign, so everything reduces to the floor of a quotient of natural numbers (`travel_eq`):

* it stays between its ends (`travel_hull`) and arrives (`travel_end`);
* over a further stretch of time it moves by at most `m` if the exact way over that stretch is
  at most `m` (`natAbs_travel_sub_le`): the two roundings cost nothing when `m` is an integer.
-/
import Mathlib.Algebra.Order.Ring.Int
import Mathlib.Data.Nat.Basic
import Mathlib.Tactic.Ring
import Mathlib.Tactic.Linarith

namespace Interp

/-- The way covered after `elapsed` of `span`. -/
def travel (delta : Int) (elapsed span : Nat) : Int := Int.tdiv (delta * elapsed) span

variable (delta : Int)

/-- **The way is the floor of the absolute way, under the sign of the whole.** -/
theorem travel_eq (elapsed span : Nat) :
    travel delta elapsed span = delta.sign * ((delta.natAbs * elapsed / span : Nat) : Int) := by
  unfold travel
  rcases Int.natAbs_eq delta with h | h
  · rw [h, ← Nat.cast_mul, ← Int.ofNat_tdiv, Int.natAbs_natCast]
    rcases Nat.eq_zero_or_pos delta.natAbs with h0 | h0
    · simp [h0]
    · rw [Int.sign_eq_one_of_pos (by exact_mod_cast h0), one_mul]
  · rw [h, Int.neg_mul, ← Nat.cast_mul, Int.neg_tdiv, ← Int.ofNat_tdiv, Int.natAbs_neg,
      Int.natAbs_natCast, Int.sign_neg]
    rcases Nat.eq_zero_or_pos delta.natAbs with h0 | h0
    · simp [h0]
    · rw [Int.sign_eq_one_of_pos (by exact_mod_cast h0), neg_one_mul]

theorem natAbs_travel (elapsed span : Nat) :
    (travel delta elapsed span).natAbs = delta.natAbs * elapsed / span := by
  rw [travel_eq, Int.natAbs_mul, Int.natAbs_natCast]
  rcases eq_or_ne delta 0 with rfl | h
  · simp
  · rw [Int.natAbs_sign_of_ne_zero h, one_mul]

@[simp] theorem travel_zero (span : Nat) : travel delta 0 span = 0 := by
  simp [travel]

variable {span : Nat}

/-- At the end of the span the whole way is covered. -/
theorem travel_end (h : 0 < span) : travel delta span span = delta :=
  Int.mul_tdiv_cancel _ (by omega)

variable {elapsed : Nat}

theorem natAbs_travel_le (h : elapsed ≤ span) :
    (travel delta elapsed span).natAbs ≤ delta.natAbs := by
  rw [natAbs_travel]
  rcases Nat.eq_zero_or_pos span with h0 | h0
  · simp [h0]
  · exact Nat.div_le_of_le_mul (by rw [Nat.mul_comm]; exact Nat.mul_le_mul_right _ h)

/-- **The way stays between its ends.** -/
theorem travel_hull (h : elapsed ≤ span) :
    min 0 delta ≤ travel delta elapsed span ∧ travel delta elapsed span ≤ max 0 delta := by
  have habs := natAbs_travel_le delta h
  have hsign := travel_eq delta elapsed span
  rw [natAbs_travel] at habs
  generalize delta.natAbs * elapsed / span = way at habs hsign
  rcases lt_trichotomy delta 0 with hneg | rfl | hpos
  · rw [Int.sign_eq_neg_one_of_neg hneg] at hsign
    omega
  · simp at hsign
    omega
  · rw [Int.sign_eq_one_of_pos hpos] at hsign
    omega

/-- The way over a stretch of time: the roundings at its two ends do not add up. -/
theorem natAbs_travel_sub_le {e e' m : Nat} (hspan : 0 < span) (he : e ≤ e')
    (h : delta.natAbs * (e' - e) ≤ m * span) :
    (travel delta e' span - travel delta e span).natAbs ≤ m := by
  have hmono : delta.natAbs * e / span ≤ delta.natAbs * e' / span :=
    Nat.div_le_div_right (Nat.mul_le_mul_left _ he)
  have hstep : delta.natAbs * e' / span ≤ delta.natAbs * e / span + m := by
    have hsum : delta.natAbs * e' = delta.natAbs * e + delta.natAbs * (e' - e) := by
      rw [← Nat.mul_add, Nat.add_sub_cancel' he]
    calc delta.natAbs * e' / span
        ≤ (delta.natAbs * e + m * span) / span :=
          Nat.div_le_div_right (by rw [hsum]; exact Nat.add_le_add_left h _)
      _ = delta.natAbs * e / span + m := Nat.add_mul_div_right _ _ hspan
  rw [travel_eq, travel_eq, ← mul_sub, Int.natAbs_mul]
  have hsign : delta.sign.natAbs ≤ 1 := by
    rcases eq_or_ne delta 0 with rfl | hne
    · simp
    · rw [Int.natAbs_sign_of_ne_zero hne]
  calc delta.sign.natAbs *
        (((delta.natAbs * e' / span : Nat) : Int) - ((delta.natAbs * e / span : Nat) : Int)).natAbs
      ≤ 1 * m := Nat.mul_le_mul hsign (by omega)
    _ = m := Nat.one_mul m

/-- The way is shorter than `m + 1` exactly when the exact way is. -/
theorem natAbs_travel_le_iff {m : Nat} (hspan : 0 < span) :
    (travel delta elapsed span).natAbs ≤ m ↔ delta.natAbs * elapsed < (m + 1) * span := by
  rw [natAbs_travel, ← Nat.lt_succ_iff, Nat.div_lt_iff_lt_mul hspan]

end Interp
