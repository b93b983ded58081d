/-
# Reflected cyclic redundancy checks

The remainder of a message by a generator of degree `w`, taken one bit at a time with the low end of
the register first.  `step` shifts the register by one, `feed` takes a message bit by bit.

Everything is exclusive or: `step` and `feed` are linear (`step_xor`, `feed_xor`), so what an error
does to the remainder does not depend on the message.  A register not wider than its message has
taken in is the message itself shifted (`feed_word`), and a generator whose top bit is set never
shifts anything to nothing (`step_ne_zero`); so an error confined to `w` bits in a row never goes
unnoticed (`feed_burst_ne_zero`).
-/
import Mathlib.Data.BitVec
import Mathlib.Logic.Function.Iterate

namespace ReflectedCrc

variable {w : Nat} (generator : BitVec w)

/-! ## 1. The register -/

/-- One bit, at the low end. -/
def bit (w : Nat) (b : Bool) : BitVec w := if b then 1#w else 0#w

def step (s : BitVec w) : BitVec w := (s >>> 1) ^^^ (if s.getLsbD 0 then generator else 0#w)

def feed (s : BitVec w) (message : List Bool) : BitVec w :=
  message.foldl (fun s b => step generator (s ^^^ bit w b)) s

variable (s : BitVec w)

@[simp] theorem feed_nil : feed generator s [] = s := rfl

@[simp] theorem feed_cons (b : Bool) (message : List Bool) :
    feed generator s (b :: message) = feed generator (step generator (s ^^^ bit w b)) message := rfl

theorem feed_append (message rest : List Bool) :
    feed generator s (message ++ rest) = feed generator (feed generator s message) rest :=
  List.foldl_append

@[simp] theorem bit_false : bit w false = 0#w := rfl

theorem bit_xor (a b : Bool) : bit w (a ^^ b) = bit w a ^^^ bit w b := by
  cases a <;> cases b <;> simp [bit]

/-- What a complemented remainder leaves. -/
theorem xor_complement : s ^^^ ~~~s = BitVec.allOnes w := by
  apply BitVec.eq_of_getLsbD_eq
  intro i hi
  simp [hi]

/-! ## 2. Linearity -/

@[simp] theorem step_zero : step generator 0#w = 0#w := by simp [step]

theorem step_xor (t : BitVec w) :
    step generator (s ^^^ t) = step generator s ^^^ step generator t := by
  unfold step
  rw [BitVec.getLsbD_xor, BitVec.ushiftRight_xor_distrib]
  cases s.getLsbD 0 <;> cases t.getLsbD 0
  all_goals
    apply BitVec.eq_of_getLsbD_eq
    intro i hi
    simp
    try grind

variable {message : List Bool}

theorem feed_xor (t : BitVec w) {error : List Bool} (h : message.length = error.length) :
    feed generator (s ^^^ t) (List.zipWith xor message error) =
      feed generator s message ^^^ feed generator t error := by
  induction message generalizing s t error with
  | nil =>
    obtain rfl := List.length_eq_zero_iff.mp h.symm
    rfl
  | cons b message ih =>
    cases error with
    | nil => simp at h
    | cons e error =>
      have hstep : s ^^^ t ^^^ bit w (b ^^ e) = (s ^^^ bit w b) ^^^ (t ^^^ bit w e) := by
        rw [bit_xor]
        ac_rfl
      rw [List.zipWith_cons_cons, feed_cons, feed_cons, feed_cons, hstep, step_xor]
      exact ih _ _ (by simpa using h)

/-! ## 3. Words -/

/-- The first bits of a message as a word, the first at the low end. -/
def word (w : Nat) : List Bool → BitVec w
  | [] => 0#w
  | b :: message => (word w message <<< 1) ^^^ bit w b

theorem getLsbD_bit (b : Bool) {i : Nat} (hi : i < w) :
    (bit w b).getLsbD i = (decide (i = 0) && b) := by
  cases b
  · simp [bit]
  · have hpositive : 0 < w := by omega
    simp [bit, hpositive]

theorem getLsbD_word (message : List Bool) {i : Nat} (hi : i < w) :
    (word w message).getLsbD i = message.getD i false := by
  induction message generalizing i with
  | nil => simp [word]
  | cons b message ih =>
    rw [word, BitVec.getLsbD_xor, BitVec.getLsbD_shiftLeft, getLsbD_bit _ hi]
    cases i with
    | zero => simp [hi]
    | succ i =>
      rw [Nat.add_sub_cancel, ih (by omega)]
      simp [hi]

theorem word_ne_zero (hlength : message.length ≤ w) (h : true ∈ message) :
    word w message ≠ 0#w := by
  obtain ⟨i, hi, hbit⟩ := List.getElem_of_mem h
  intro hzero
  have hword := getLsbD_word message (show i < w by omega)
  rw [hzero, List.getD_eq_getElem?_getD, List.getElem?_eq_getElem hi, hbit] at hword
  simp at hword

/-- A bit shifted in at the low end of a register with room at the top comes straight out. -/
theorem step_shiftLeft (h : s.getLsbD (w - 1) = false) : step generator (s <<< 1) = s := by
  apply BitVec.eq_of_getLsbD_eq
  intro i hi
  have hlow : (s <<< 1).getLsbD 0 = false := by simp
  rw [step, hlow, if_neg (by decide), BitVec.xor_zero, BitVec.getLsbD_ushiftRight,
    BitVec.getLsbD_shiftLeft, Nat.add_sub_cancel_left]
  by_cases hlast : i = w - 1
  · rw [hlast, h, Bool.and_false]
  · simp [show 1 + i < w by omega]

/-- **A register that has taken in no more than it holds** is what it held with the message on top,
shifted as often. -/
theorem feed_word (h : message.length ≤ w) :
    feed generator s message = (step generator)^[message.length] (s ^^^ word w message) := by
  induction message generalizing s with
  | nil => simp [word]
  | cons b message ih =>
    have hlength : message.length + 1 ≤ w := h
    have htop : (word w message).getLsbD (w - 1) = false := by
      rw [getLsbD_word _ (by omega), List.getD_eq_getElem?_getD,
        List.getElem?_eq_none (by omega), Option.getD_none]
    have hshift : step generator (s ^^^ word w (b :: message)) =
        step generator (s ^^^ bit w b) ^^^ word w message := by
      rw [word, ← BitVec.xor_assoc, BitVec.xor_comm s, BitVec.xor_assoc, step_xor,
        step_shiftLeft _ _ htop, BitVec.xor_comm]
    rw [feed_cons, ih _ (by omega), List.length_cons, Function.iterate_succ_apply, hshift]

/-- Bits that are not set only shift. -/
theorem feed_replicate (n : Nat) :
    feed generator s (List.replicate n false) = (step generator)^[n] s := by
  induction n generalizing s with
  | zero => rfl
  | succ n ih =>
    rw [List.replicate_succ, feed_cons, bit_false, BitVec.xor_zero, ih,
      Function.iterate_succ_apply]

theorem iterate_step_zero (n : Nat) : (step generator)^[n] 0#w = 0#w :=
  Function.iterate_fixed (step_zero generator) n

/-! ## 4. Bursts -/

section Burst

variable (hgenerator : generator.getLsbD (w - 1) = true)

include hgenerator

/-- **Nothing is shifted to nothing.** -/
theorem step_ne_zero {s : BitVec w} (h : s ≠ 0#w) : step generator s ≠ 0#w := by
  intro hzero
  rw [step] at hzero
  cases hlow : s.getLsbD 0 with
  | true =>
    -- the top bit of the generator has nothing to cancel it
    have htop := congrArg (fun word => word.getLsbD (w - 1)) hzero
    have hpositive : 0 < w := Nat.pos_of_ne_zero fun hw => by
      subst hw
      exact h (BitVec.of_length_zero)
    simp only [hlow, if_true, BitVec.getLsbD_xor, BitVec.getLsbD_ushiftRight, hgenerator,
      show 1 + (w - 1) = w by omega, BitVec.getLsbD_of_ge s w le_rfl] at htop
    simp at htop
  | false =>
    rw [hlow, if_neg (by decide), BitVec.xor_zero] at hzero
    refine h (BitVec.eq_of_getLsbD_eq fun i hi => ?_)
    cases i with
    | zero => simpa using hlow
    | succ i =>
      have hbit := congrArg (fun word => word.getLsbD i) hzero
      simpa [Nat.add_comm 1 i] using hbit

theorem iterate_step_ne_zero {s : BitVec w} (h : s ≠ 0#w) (n : Nat) :
    (step generator)^[n] s ≠ 0#w := by
  induction n generalizing s with
  | zero => exact h
  | succ n ih =>
    rw [Function.iterate_succ_apply]
    exact ih (step_ne_zero generator hgenerator h)

/-- **An error of at most `w` bits in a row is noticed**, wherever it lies. -/
theorem feed_burst_ne_zero {burst : List Bool} (hlength : burst.length ≤ w) (h : true ∈ burst)
    (before after : Nat) :
    feed generator 0#w
      (List.replicate before false ++ burst ++ List.replicate after false) ≠ 0#w := by
  have hword := word_ne_zero hlength h
  rw [feed_append, feed_append, feed_replicate, feed_replicate, iterate_step_zero,
    feed_word generator _ hlength, BitVec.zero_xor]
  exact iterate_step_ne_zero generator hgenerator
    (iterate_step_ne_zero generator hgenerator hword _) _

end Burst

end ReflectedCrc
