/-
# Division rounded to the nearest, halves away from zero

Integer code rounds a quotient by adding half of the divisor to the absolute value of the dividend
and cutting off.  `roundDivide` is that.  Two facts are all that is used of it: it is an odd
function (`roundDivide_neg`), and it is within half a unit of the quotient, which whatever is
closer than half a unit determines (`roundDivide_eq_of_near`).

A scale by `fine / coarse` followed by one by `coarse / fine`, both rounded, is the identity as
soon as the fine scale is the finer one (`roundDivide_roundDivide`): the first rounding loses at
most half a fine unit, and that is less than half a coarse one.
-/
import Mathlib.Algebra.Order.Ring.Abs
import Mathlib.Algebra.Order.Ring.Int
import Mathlib.Tactic.Linarith
import Mathlib.Tactic.Ring

namespace Rounding

def roundDivide (numerator denominator : ℤ) : ℤ :=
  if 0 ≤ numerator then (numerator + denominator.tdiv 2).tdiv denominator
  else -((-numerator + denominator.tdiv 2).tdiv denominator)

variable {n d : ℤ}

theorem roundDivide_of_nonneg (hn : 0 ≤ n) (hd : 0 < d) : roundDivide n d = (n + d / 2) / d := by
  have hhalf : 0 ≤ d / 2 := Int.ediv_nonneg hd.le (by decide)
  rw [roundDivide, if_pos hn, Int.tdiv_eq_ediv_of_nonneg hd.le,
    Int.tdiv_eq_ediv_of_nonneg (Int.add_nonneg hn hhalf)]

theorem roundDivide_zero (hd : 0 < d) : roundDivide 0 d = 0 := by
  rw [roundDivide_of_nonneg le_rfl hd, Int.zero_add]
  exact Int.ediv_eq_zero_of_lt (Int.ediv_nonneg hd.le (by decide)) (by omega)

/-- **Rounding does not know the sign.** -/
theorem roundDivide_neg (hd : 0 < d) : roundDivide (-n) d = -roundDivide n d := by
  rcases lt_trichotomy n 0 with hn | rfl | hn
  · rw [roundDivide, roundDivide, if_pos (by omega), if_neg (by omega), neg_neg]
  · rw [neg_zero, roundDivide_zero hd, neg_zero]
  · rw [roundDivide, roundDivide, if_neg (by omega), if_pos (by omega), neg_neg]

/-- **Within half a unit.** -/
theorem roundDivide_near (n : ℤ) (hd : 0 < d) : |2 * (d * roundDivide n d - n)| ≤ d := by
  have hnonneg : ∀ n, 0 ≤ n → |2 * (d * roundDivide n d - n)| ≤ d := by
    intro n hn
    rw [roundDivide_of_nonneg hn hd]
    have hrest := Int.emod_add_mul_ediv (n + d / 2) d
    have hlow := Int.emod_nonneg (n + d / 2) hd.ne'
    have hhigh := Int.emod_lt_of_pos (n + d / 2) hd
    rw [abs_le]
    omega
  rcases le_total 0 n with hn | hn
  · exact hnonneg n hn
  · have h := hnonneg (-n) (by omega)
    rw [roundDivide_neg hd] at h
    calc |2 * (d * roundDivide n d - n)| = |-(2 * (d * -roundDivide n d - -n))| := by
          congr 1
          ring
      _ ≤ d := by rwa [abs_neg]

/-- **What is closer than half a unit is the rounded quotient.** -/
theorem roundDivide_eq_of_near {q : ℤ} (hd : 0 < d) (h : |2 * (d * q - n)| < d) :
    roundDivide n d = q := by
  have hnear := roundDivide_near n hd
  have hclose : |d * (roundDivide n d - q)| < d * 1 := by
    rw [abs_le] at hnear
    rw [abs_lt] at h ⊢
    rw [Int.mul_sub]
    omega
  rw [abs_mul, abs_of_pos hd] at hclose
  have hone := lt_of_mul_lt_mul_left hclose hd.le
  have hzero : roundDivide n d - q = 0 := Int.abs_lt_one_iff.mp hone
  omega

/-- Rounding keeps the order. -/
theorem roundDivide_mono {m : ℤ} (hd : 0 < d) (h : n ≤ m) : roundDivide n d ≤ roundDivide m d := by
  have hnonneg : ∀ {n m : ℤ}, 0 ≤ n → n ≤ m → roundDivide n d ≤ roundDivide m d := by
    intro n m hn hm
    rw [roundDivide_of_nonneg hn hd, roundDivide_of_nonneg (hn.trans hm) hd]
    exact Int.ediv_le_ediv hd (by omega)
  rcases le_total 0 n with hn | hn
  · exact hnonneg hn h
  · rcases le_total 0 m with hm | hm
    · have hlow := hnonneg le_rfl (show 0 ≤ -n by omega)
      have hhigh := hnonneg le_rfl hm
      rw [roundDivide_zero hd] at hlow hhigh
      rw [roundDivide_neg hd] at hlow
      omega
    · have hmirror := hnonneg (show 0 ≤ -m by omega) (show -m ≤ -n by omega)
      rw [roundDivide_neg hd, roundDivide_neg hd] at hmirror
      omega

/-- **To a finer scale and back.** -/
theorem roundDivide_roundDivide {coarse fine : ℤ} (k : ℤ) (hcoarse : 0 < coarse)
    (hfine : coarse < fine) :
    roundDivide (roundDivide (k * fine) coarse * coarse) fine = k := by
  refine roundDivide_eq_of_near (hcoarse.trans hfine) ?_
  have h := roundDivide_near (k * fine) hcoarse
  rw [Int.mul_comm (roundDivide _ _), Int.mul_comm fine, ← abs_neg]
  calc |-(2 * (k * fine - coarse * roundDivide (k * fine) coarse))|
      = |2 * (coarse * roundDivide (k * fine) coarse - k * fine)| := by
        congr 1
        ring
    _ ≤ coarse := h
    _ < fine := hfine

end Rounding
