/-
# Slewing and rounding

A vector moves from `a` towards `b`, each component by a step of its own at most, and all by the
same fraction of their way, so that the direction stays.  What it comes to is then rounded to
counts, half to even.
-/
import Mathlib.Algebra.Order.Floor.Ring
import Mathlib.Algebra.Order.Round
import Mathlib.Data.Finset.Fold
import Mathlib.Data.Fintype.Basic
import Mathlib.Tactic.Linarith
import Mathlib.Tactic.FieldSimp

namespace Slew

variable {K ι : Type*} [Field K] [LinearOrder K] [IsStrictOrderedRing K]

section Round

variable [FloorRing K]

/-- To the nearest integer, half to even. -/
def roundEven (x : K) : ℤ :=
  if x - ⌊x⌋ < 1 / 2 then ⌊x⌋
  else if 1 / 2 < x - ⌊x⌋ then ⌊x⌋ + 1
  else if ⌊x⌋ % 2 = 0 then ⌊x⌋
  else ⌊x⌋ + 1

theorem abs_roundEven_sub_le (x : K) : |(roundEven x : K) - x| ≤ 1 / 2 := by
  have hlow : (⌊x⌋ : K) ≤ x := Int.floor_le x
  have hhigh : x < ⌊x⌋ + 1 := Int.lt_floor_add_one x
  rw [abs_le]
  unfold roundEven
  split_ifs with hbelow habove heven <;> push_cast <;> constructor <;> linarith

/-- Half a count at most is lost by rounding to counts. -/
theorem abs_counts_sub_le {factor : K} (hfactor : 0 < factor) (x : K) :
    |(roundEven (x * factor) : K) / factor - x| ≤ 1 / 2 / factor := by
  have heq : (roundEven (x * factor) : K) / factor - x =
      ((roundEven (x * factor) : K) - x * factor) / factor := by
    field_simp
  rw [heq, abs_div, abs_of_pos hfactor]
  exact div_le_div_of_nonneg_right (abs_roundEven_sub_le _) hfactor.le

end Round

section Slewed

variable [Fintype ι]

/-- How many times over the way exceeds the steps, at least once. -/
def stretch (a b step : ι → K) : K := Finset.univ.fold max 1 fun i => |b i - a i| / step i

/-- One step of the way from `a` to `b`. -/
def slewed (a b step : ι → K) (i : ι) : K := a i + (b i - a i) / stretch a b step

omit [IsStrictOrderedRing K] in
theorem one_le_stretch (a b step : ι → K) : 1 ≤ stretch a b step :=
  (Finset.le_fold_max 1).mpr (.inl le_rfl)

omit [IsStrictOrderedRing K] in
theorem le_stretch (a b step : ι → K) (i : ι) : |b i - a i| / step i ≤ stretch a b step :=
  (Finset.le_fold_max _).mpr (.inr ⟨i, Finset.mem_univ i, le_rfl⟩)

/-- **No component moves by more than its step.** -/
theorem abs_slewed_sub_le {a b step : ι → K} {i : ι} (hstep : 0 < step i) :
    |slewed a b step i - a i| ≤ step i := by
  have hpos : 0 < stretch a b step := one_pos.trans_le (one_le_stretch a b step)
  have hle : |b i - a i| ≤ stretch a b step * step i := (div_le_iff₀ hstep).mp (le_stretch a b step i)
  have heq : slewed a b step i - a i = (b i - a i) / stretch a b step := by
    unfold slewed
    exact add_sub_cancel_left _ _
  rw [heq, abs_div, abs_of_pos hpos, div_le_iff₀ hpos, mul_comm]
  exact hle

theorem abs_counted_slewed_sub_le [FloorRing K] {a b step : ι → K} {i : ι} {factor : K}
    (hstep : 0 < step i) (hfactor : 0 < factor) :
    |(roundEven (slewed a b step i * factor) : K) / factor - a i| ≤ step i + 1 / 2 / factor := by
  have hround := abs_counts_sub_le hfactor (slewed a b step i)
  have hslew := abs_slewed_sub_le (a := a) (b := b) hstep
  calc |(roundEven (slewed a b step i * factor) : K) / factor - a i|
      ≤ |(roundEven (slewed a b step i * factor) : K) / factor - slewed a b step i| +
          |slewed a b step i - a i| := abs_sub_le _ _ _
    _ ≤ step i + 1 / 2 / factor := by linarith

end Slewed

end Slew
