/-
# From rest to rest along a quintic

`blend` goes from 0 to 1 without speed or acceleration at either end.  Between two places it climbs
(`slope_nonneg`), by at most `15 / 8` of the way between them (`slope_le`).  So what goes from one
value to another by a blend stays between the two (`mem_of_blend`), and its speed is bounded over
any part of the way (`abs_blend_sub_le`).
-/
import Mathlib.Algebra.Order.Field.Basic
import Mathlib.Tactic.Linarith
import Mathlib.Tactic.Ring

namespace Quintic

variable {K : Type*} [Field K] [LinearOrder K] [IsStrictOrderedRing K] {u v : K}

def blend (u : K) : K := u * u * u * (10 + u * (-15 + 6 * u))

omit [LinearOrder K] [IsStrictOrderedRing K] in
@[simp] theorem blend_zero : blend (0 : K) = 0 := by
  simp [blend]

omit [LinearOrder K] [IsStrictOrderedRing K] in
@[simp] theorem blend_one : blend (1 : K) = 1 := by
  unfold blend
  ring

/-- The mean slope between two places. -/
def slope (u v : K) : K :=
  10 * (u ^ 2 + u * v + v ^ 2) - 15 * (u ^ 3 + u ^ 2 * v + u * v ^ 2 + v ^ 3) +
    6 * (u ^ 4 + u ^ 3 * v + u ^ 2 * v ^ 2 + u * v ^ 3 + v ^ 4)

omit [LinearOrder K] [IsStrictOrderedRing K] in
theorem blend_sub (u v : K) : blend v - blend u = (v - u) * slope u v := by
  unfold blend slope
  ring

/-- The slope at a place is a square, and the mean of squares is one of squares: by the middle `m`
and half the way `d`. -/
theorem slope_nonneg (u v : K) : 0 ≤ slope u v := by
  have hsquares : ∀ m d : K, slope (m - d) (m + d) =
      30 * (m * (1 - m) - d ^ 2 / 3) ^ 2 + 10 * (d * (1 - 2 * m)) ^ 2 + 8 / 3 * (d ^ 2) ^ 2 := by
    intro m d
    unfold slope
    ring
  have hends : slope u v = slope ((u + v) / 2 - (v - u) / 2) ((u + v) / 2 + (v - u) / 2) := by
    congr 1 <;> ring
  rw [hends, hsquares]
  positivity

/-- By how far the two places are from the middle of the way, where the slope is greatest. -/
theorem slope_le (hu : 0 ≤ u) (hu' : u ≤ 1) (hv : 0 ≤ v) (hv' : v ≤ 1) : slope u v ≤ 15 / 8 := by
  obtain ⟨p, rfl⟩ : ∃ p, u = p + 1 / 2 := ⟨u - 1 / 2, by ring⟩
  obtain ⟨q, rfl⟩ : ∃ q, v = q + 1 / 2 := ⟨v - 1 / 2, by ring⟩
  have hp : p ^ 2 ≤ 1 / 4 := by nlinarith
  have hq : q ^ 2 ≤ 1 / 4 := by nlinarith
  have hsum : 0 ≤ p ^ 2 + p * q + q ^ 2 := by nlinarith [sq_nonneg (p + q), sq_nonneg p, sq_nonneg q]
  have heq : 15 / 8 - slope (p + 1 / 2) (q + 1 / 2) =
      (p ^ 2 + p * q + q ^ 2) * (5 - 6 * (p ^ 2 + q ^ 2)) + 6 * (p * q) ^ 2 := by
    unfold slope
    ring
  have hprod : 0 ≤ (p ^ 2 + p * q + q ^ 2) * (5 - 6 * (p ^ 2 + q ^ 2)) :=
    mul_nonneg hsum (by linarith)
  have hsquare : 0 ≤ (p * q) ^ 2 := sq_nonneg _
  linarith

/-- **The blend climbs.** -/
theorem blend_mono (h : u ≤ v) : blend u ≤ blend v := by
  have hprod : 0 ≤ (v - u) * slope u v := mul_nonneg (sub_nonneg.mpr h) (slope_nonneg u v)
  rw [← blend_sub] at hprod
  exact sub_nonneg.mp hprod

theorem blend_nonneg (h : 0 ≤ u) : 0 ≤ blend u := blend_zero (K := K) ▸ blend_mono h

theorem blend_le_one (h : u ≤ 1) : blend u ≤ 1 := blend_one (K := K) ▸ blend_mono h

variable {a b lo hi : K}

/-- **What goes from one value to another stays between them**, and within what holds both. -/
theorem mem_of_blend (ha : lo ≤ a ∧ a ≤ hi) (hb : lo ≤ b ∧ b ≤ hi) (hu : 0 ≤ u) (hu' : u ≤ 1) :
    lo ≤ a + (b - a) * blend u ∧ a + (b - a) * blend u ≤ hi := by
  have hlow := blend_nonneg hu
  have hhigh := blend_le_one hu'
  have hmean : a + (b - a) * blend u = a * (1 - blend u) + b * blend u := by ring
  rw [hmean]
  have hrest : 0 ≤ 1 - blend u := sub_nonneg.mpr hhigh
  constructor
  · have hfrom := mul_le_mul_of_nonneg_right ha.1 hrest
    have hto := mul_le_mul_of_nonneg_right hb.1 hlow
    calc lo = lo * (1 - blend u) + lo * blend u := by ring
      _ ≤ a * (1 - blend u) + b * blend u := add_le_add hfrom hto
  · have hfrom := mul_le_mul_of_nonneg_right ha.2 hrest
    have hto := mul_le_mul_of_nonneg_right hb.2 hlow
    calc a * (1 - blend u) + b * blend u ≤ hi * (1 - blend u) + hi * blend u :=
          add_le_add hfrom hto
      _ = hi := by ring

/-- **The speed is bounded over any part of the way.** -/
theorem abs_blend_sub_le (a b : K) (hu : 0 ≤ u) (huv : u ≤ v) (hv : v ≤ 1) :
    |(a + (b - a) * blend v) - (a + (b - a) * blend u)| ≤ 15 / 8 * |b - a| * (v - u) := by
  have heq : (a + (b - a) * blend v) - (a + (b - a) * blend u) =
      (b - a) * ((v - u) * slope u v) := by
    rw [← blend_sub]
    ring
  have hslope := slope_le hu (huv.trans hv) (hu.trans huv) hv
  rw [heq, abs_mul, abs_of_nonneg (mul_nonneg (sub_nonneg.mpr huv) (slope_nonneg u v))]
  calc |b - a| * ((v - u) * slope u v) ≤ |b - a| * ((v - u) * (15 / 8)) :=
        mul_le_mul_of_nonneg_left
          (mul_le_mul_of_nonneg_left hslope (sub_nonneg.mpr huv)) (abs_nonneg _)
    _ = 15 / 8 * |b - a| * (v - u) := by ring

end Quintic
