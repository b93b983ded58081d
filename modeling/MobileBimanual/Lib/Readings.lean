/-
# Readings of a running clock

A clock is a function of true time; what a program sees of it is its whole part, in a word of a
fixed width.  `reading` is the whole part and `counter` the word.

A deadline on such a counter is open while the difference to the reading is positive and no more
than a limit (`Open`): the words cannot tell more than that.  `open_of_between` and
`not_open_of_past` say when it is in terms of the true difference.  Where the clock keeps its
pace, up to a drift, a reading taken once bounds every later one (`reading_sub_le`,
`lt_reading_sub`).
-/
import Mathlib.Data.BitVec
import Mathlib.Data.Rat.Floor
import Mathlib.Tactic

namespace Readings

/-! ## 1. Counters -/

section Counter

/-- What is seen of the clock at an instant. -/
def reading (clock : ℚ → ℚ) (instant : ℚ) : ℤ := ⌊clock instant⌋

/-- The same in a word of the given width. -/
def counter (width : ℕ) (clock : ℚ → ℚ) (instant : ℚ) : BitVec width :=
  BitVec.ofInt width (reading clock instant)

variable {width : ℕ}

/-- A deadline that is `remaining` away is open: ahead, by no more than the limit. -/
def Open (limit remaining : BitVec width) : Prop := remaining ≠ 0 ∧ remaining ≤ limit

instance (limit remaining : BitVec width) : Decidable (Open limit remaining) :=
  inferInstanceAs (Decidable (_ ∧ _))

variable {difference : ℤ}

theorem toNat_ofInt_of_lt (hpos : 0 ≤ difference) (hlt : difference < 2 ^ width) :
    ((BitVec.ofInt width difference).toNat : ℤ) = difference := by
  rw [BitVec.toNat_ofInt, Int.toNat_of_nonneg (Int.emod_nonneg _ (by positivity))]
  exact Int.emod_eq_of_lt hpos (by exact_mod_cast hlt)

theorem ofInt_sub (a b : ℤ) :
    BitVec.ofInt width (a - b) = BitVec.ofInt width a - BitVec.ofInt width b := by
  rw [sub_eq_add_neg, BitVec.ofInt_add, BitVec.ofInt_neg, BitVec.sub_eq_add_neg]

theorem open_of_between {limit : BitVec width} (hahead : 0 < difference)
    (hlimit : difference ≤ limit.toNat) : Open limit (BitVec.ofInt width difference) := by
  have hlt : difference < 2 ^ width := by
    have hword : ((limit.toNat : ℕ) : ℤ) < ((2 ^ width : ℕ) : ℤ) := by exact_mod_cast limit.isLt
    push_cast at hword
    omega
  have hvalue := toNat_ofInt_of_lt hahead.le hlt
  constructor
  · intro hzero
    rw [hzero] at hvalue
    simp at hvalue
    omega
  · rw [BitVec.le_def]
    omega

/-- A deadline that is reached or past is not open again before the counter comes round. -/
theorem not_open_of_past {limit : BitVec width} (hpast : difference ≤ 0)
    (hround : limit.toNat - 2 ^ width < difference) :
    ¬ Open limit (BitVec.ofInt width difference) := by
  rintro ⟨hne, hle⟩
  rcases hpast.eq_or_lt with rfl | hpast
  · exact hne (by simp)
  · have hlimit : (0 : ℤ) ≤ limit.toNat := Int.natCast_nonneg _
    have hturn : BitVec.ofInt width difference = BitVec.ofInt width (difference + 2 ^ width) := by
      apply BitVec.eq_of_toNat_eq
      rw [BitVec.toNat_ofInt, BitVec.toNat_ofInt]
      push_cast
      rw [Int.add_emod_right]
    have hvalue : ((BitVec.ofInt width (difference + 2 ^ width)).toNat : ℤ) =
        difference + 2 ^ width := toNat_ofInt_of_lt (by omega) (by omega)
    rw [← hturn] at hvalue
    rw [BitVec.le_def] at hle
    omega

end Counter

/-! ## 2. Pace -/

/-- Over any stretch of time the clock gains or loses no more than this part of it. -/
def Paced (clock : ℚ → ℚ) (rate : ℚ) : Prop :=
  ∀ a b, a ≤ b → |clock b - clock a - (b - a)| ≤ rate * (b - a)

section Pace

variable {clock : ℚ → ℚ} {rate : ℚ} {sampled instant lag drift : ℚ} {count limit : ℤ}

/-- A reading taken at some instant plus the time passed since, and what truncation and drift may
hide, is no more than the reading now. -/
theorem reading_sub_le (hpaced : Paced clock rate) (hlater : sampled ≤ instant)
    (hdrift : rate * (instant - sampled) ≤ drift)
    (hlag : count - limit + drift ≤ instant - sampled) :
    reading clock sampled + count - reading clock instant ≤ limit := by
  have hpace := (abs_le.mp (hpaced sampled instant hlater)).1
  have hfloor : (reading clock sampled : ℚ) ≤ clock sampled := Int.floor_le _
  have hreached : reading clock sampled + count - limit ≤ reading clock instant := by
    refine Int.le_floor.mpr ?_
    push_cast
    linarith
  linarith

/-- It is more than the reading now while the time passed falls short of it by a tick. -/
theorem lt_reading_sub (hpaced : Paced clock rate) (hlater : sampled ≤ instant)
    (hdrift : rate * (instant - sampled) ≤ drift)
    (hlag : instant - sampled + drift + 1 ≤ count - limit) :
    limit < reading clock sampled + count - reading clock instant := by
  have hpace := (abs_le.mp (hpaced sampled instant hlater)).2
  have hfloor : clock sampled < reading clock sampled + 1 := Int.lt_floor_add_one _
  have hreached : reading clock instant < reading clock sampled + count - limit := by
    refine Int.floor_lt.mpr ?_
    push_cast
    linarith
  linarith

end Pace

end Readings
