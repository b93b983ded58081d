/-
# Joints that turn past the end of their encoder

`joint_unwrap.c` in full.  A servo reports a position modulo 4096; the arm counts turns.

* `bind` finds the turn of the first reading from a reference position, `update` follows the
  readings from there;
* `unwrappedRawToUrad` and `unwrappedUradToRaw` convert to micro-radians of the joint and back.

The intermediate results of the C are 64 bits wide and stay below `2^55`, so they are integers
here.  The NULL arguments have no counterpart; every other result has, and a call that fails
says so beside the unwrapper it leaves.
-/
import Mathlib.Data.BitVec
import Mathlib.Data.Int.ModEq
import Mathlib.Tactic.Push
import MobileBimanual.Lib.Machine
import MobileBimanual.Lib.Rounding

namespace MobileBimanual.Servo

open Rounding (roundDivide)

/-! ## 1. The data -/

/-- A position as a servo reports it. -/
abbrev Raw := BitVec 16

/-- A position that counts turns, and one in micro-radians. -/
abbrev UnwrappedRaw := BitVec 32
abbrev Urad := BitVec 32

def unwrapRawModulus : ℤ := 4096
def unwrapHalfTurnRaw : ℤ := 2048
def rawUnitsPerTurn : ℤ := 4096
def turnUrad : ℤ := 6283185

inductive UnwrapError where
  | rawOutOfRange
  | badReferenceWindow
  | referenceTooFar
  | ambiguousDelta
  | badDirection
  | limitViolation
  | overflow
  deriving DecidableEq

structure JointUnwrapper where
  bound : Bool
  previousRaw : Raw
  unwrappedRaw : UnwrappedRaw

structure UnwrappedJointLimit where
  minimumUnwrappedRaw : UnwrappedRaw
  maximumUnwrappedRaw : UnwrappedRaw

/-- `INT32_MIN` to `INT32_MAX`. -/
def FitsInt32 (value : ℤ) : Prop := -2 ^ 31 ≤ value ∧ value < 2 ^ 31

instance (value : ℤ) : Decidable (FitsInt32 value) := inferInstanceAs (Decidable (_ ∧ _))

def directionIsValid (direction : BitVec 8) : Bool :=
  direction.toInt == 1 || direction.toInt == -1

/-! ## 2. The unwrapper -/

/-- The search of `bind`: the closest candidate so far and whether another is as close. -/
@[ext] structure Nearest where
  candidate : ℤ
  distance : ℤ
  tied : Bool

def Nearest.start : Nearest where
  candidate := 0
  distance := 2 ^ 63 - 1
  tied := false

def Nearest.consider (nearest : Nearest) (reference candidate : ℤ) : Nearest :=
  if |candidate - reference| < nearest.distance then
    { candidate := candidate, distance := |candidate - reference|, tied := false }
  else if |candidate - reference| = nearest.distance then { nearest with tied := true }
  else nearest

/-- The candidates lie on the three turns around the approximate one. -/
def nearest (observedRaw reference : ℤ) : Nearest :=
  let approximateTurn := (reference - observedRaw).tdiv unwrapRawModulus
  ([-1, 0, 1] : List ℤ).foldl
    (fun nearest offset =>
      nearest.consider reference (observedRaw + (approximateTurn + offset) * unwrapRawModulus))
    Nearest.start

namespace JointUnwrapper

def reset : JointUnwrapper where
  bound := false
  previousRaw := 0
  unwrappedRaw := 0

def bind (state : JointUnwrapper) (observedRaw : Raw) (referenceUnwrappedRaw : UnwrappedRaw)
    (maximumReferenceDeltaRaw : BitVec 16) : JointUnwrapper × Except UnwrapError Unit :=
  let nearest := nearest observedRaw.toNat referenceUnwrappedRaw.toInt
  if (observedRaw.toNat : ℤ) ≥ unwrapRawModulus then (state, .error .rawOutOfRange)
  else if maximumReferenceDeltaRaw = 0 ∨
      (maximumReferenceDeltaRaw.toNat : ℤ) ≥ unwrapHalfTurnRaw then
    (state, .error .badReferenceWindow)
  else if nearest.tied then (state, .error .ambiguousDelta)
  else if nearest.distance > maximumReferenceDeltaRaw.toNat then
    (state, .error .referenceTooFar)
  else if ¬ FitsInt32 nearest.candidate then (state, .error .overflow)
  else
    ({ bound := true
       previousRaw := observedRaw
       unwrappedRaw := BitVec.ofInt 32 nearest.candidate }, .ok ())

/-- The difference of two readings, taken the short way round. -/
def shortWay (delta : ℤ) : ℤ :=
  if delta > unwrapHalfTurnRaw then delta - unwrapRawModulus
  else if delta < -unwrapHalfTurnRaw then delta + unwrapRawModulus
  else delta

def update (state : JointUnwrapper) (observedRaw : Raw) :
    JointUnwrapper × Except UnwrapError UnwrappedRaw :=
  let delta := (observedRaw.toNat : ℤ) - state.previousRaw.toNat
  let updated := state.unwrappedRaw.toInt + shortWay delta
  if !state.bound then (state, .error .referenceTooFar)
  else if (observedRaw.toNat : ℤ) ≥ unwrapRawModulus then (state, .error .rawOutOfRange)
  else if delta = unwrapHalfTurnRaw ∨ delta = -unwrapHalfTurnRaw then
    (state, .error .ambiguousDelta)
  else if ¬ FitsInt32 updated then (state, .error .overflow)
  else
    ({ state with previousRaw := observedRaw, unwrappedRaw := BitVec.ofInt 32 updated },
      .ok (BitVec.ofInt 32 updated))

end JointUnwrapper

/-! ## 3. The conversions -/

def unwrappedRawToUrad (zeroRaw : Raw) (positiveRawDirection : BitVec 8)
    (unwrappedRaw : UnwrappedRaw) : Except UnwrapError Urad :=
  let urad := roundDivide
    ((unwrappedRaw.toInt - zeroRaw.toNat) * positiveRawDirection.toInt * turnUrad)
    rawUnitsPerTurn
  if (zeroRaw.toNat : ℤ) ≥ unwrapRawModulus then .error .rawOutOfRange
  else if !directionIsValid positiveRawDirection then .error .badDirection
  else if ¬ FitsInt32 urad then .error .overflow
  else .ok (BitVec.ofInt 32 urad)

/-- The position a joint's goal stands for, before any check. -/
def goalCandidate (zeroRaw : Raw) (positiveRawDirection : BitVec 8) (positionUrad : Urad) : ℤ :=
  zeroRaw.toNat + positiveRawDirection.toInt *
    roundDivide (positionUrad.toInt * rawUnitsPerTurn) turnUrad

/-- The remainder of C, made positive. -/
def moduloRaw (unwrappedRaw : ℤ) : Raw :=
  let modulo := unwrappedRaw.tmod unwrapRawModulus
  BitVec.ofInt 16 (if modulo < 0 then modulo + unwrapRawModulus else modulo)

def unwrappedUradToRaw (zeroRaw : Raw) (positiveRawDirection : BitVec 8) (positionUrad : Urad)
    (limit : UnwrappedJointLimit) : Except UnwrapError (UnwrappedRaw × Raw) :=
  let candidate := goalCandidate zeroRaw positiveRawDirection positionUrad
  if (zeroRaw.toNat : ℤ) ≥ unwrapRawModulus then .error .rawOutOfRange
  else if !directionIsValid positiveRawDirection then .error .badDirection
  else if limit.minimumUnwrappedRaw.toInt > limit.maximumUnwrappedRaw.toInt then
    .error .limitViolation
  else if ¬ FitsInt32 candidate then .error .overflow
  else if candidate < limit.minimumUnwrappedRaw.toInt ∨
      candidate > limit.maximumUnwrappedRaw.toInt then .error .limitViolation
  else .ok (BitVec.ofInt 32 candidate, moduloRaw candidate)

/-! ## 4. The search finds the closest turn -/

/-- A search that has seen `considered` knows the closest of them, and ties do not go unnoticed. -/
structure Closest (reference : ℤ) (considered : List ℤ) (nearest : Nearest) : Prop where
  mem : nearest.candidate ∈ considered
  distance : nearest.distance = |nearest.candidate - reference|
  least : ∀ candidate ∈ considered, nearest.distance ≤ |candidate - reference|
  tie : nearest.tied = true → ∃ candidate ∈ considered,
    candidate ≠ nearest.candidate ∧ |candidate - reference| = nearest.distance

theorem Closest.first {reference candidate : ℤ} (h : |candidate - reference| < 2 ^ 63 - 1) :
    Closest reference [candidate] (Nearest.start.consider reference candidate) := by
  rw [Nearest.consider, if_pos (by exact h)]
  exact ⟨by simp, rfl, by simp, by simp⟩

theorem Closest.consider {reference candidate : ℤ} {considered : List ℤ} {nearest : Nearest}
    (h : Closest reference considered nearest) (hnew : candidate ∉ considered) :
    Closest reference (candidate :: considered) (nearest.consider reference candidate) := by
  rw [Nearest.consider]
  split_ifs with hcloser heq
  · refine ⟨List.mem_cons_self, rfl, ?_, by simp⟩
    intro other hother
    rcases List.mem_cons.mp hother with rfl | hother
    · exact le_rfl
    · exact hcloser.le.trans (h.least other hother)
  · refine ⟨List.mem_cons_of_mem _ h.mem, h.distance, ?_, fun _ => ?_⟩
    · intro other hother
      rcases List.mem_cons.mp hother with rfl | hother
      · exact heq.ge
      · exact h.least other hother
    · exact ⟨candidate, List.mem_cons_self, fun hsame => hnew (hsame ▸ h.mem), heq⟩
  · refine ⟨List.mem_cons_of_mem _ h.mem, h.distance, ?_, fun htied => ?_⟩
    · intro other hother
      rcases List.mem_cons.mp hother with rfl | hother
      · exact not_lt.mp hcloser
      · exact h.least other hother
    · obtain ⟨other, hother, htie⟩ := h.tie htied
      exact ⟨other, List.mem_cons_of_mem _ hother, htie⟩

/-- The turns tried are the nearest ones: the middle one is less than a turn away. -/
theorem nearest_closest (observed reference : ℤ) :
    ∃ middle, |observed + middle * unwrapRawModulus - reference| < unwrapRawModulus ∧
      Closest reference
        [observed + (middle + 1) * unwrapRawModulus, observed + (middle + 0) * unwrapRawModulus,
          observed + (middle + -1) * unwrapRawModulus] (nearest observed reference) := by
  have hdivides := Int.mul_tdiv_add_tmod (reference - observed) unwrapRawModulus
  have hlow := Int.lt_tmod_of_pos (reference - observed) (show 0 < unwrapRawModulus by decide)
  have hhigh := Int.tmod_lt_of_pos (reference - observed) (show 0 < unwrapRawModulus by decide)
  refine ⟨(reference - observed).tdiv unwrapRawModulus, ?_, ?_⟩
  · simp only [unwrapRawModulus, abs_lt] at *
    omega
  · refine Closest.consider (.consider (.first ?_) ?_) ?_
    · simp only [unwrapRawModulus, abs_lt] at *
      omega
    all_goals
      simp only [unwrapRawModulus, List.mem_cons, List.not_mem_nil, or_false]
      omega

/-- **Less than half a turn away there is one candidate, and the search finds it.** -/
theorem nearest_of_near {observed reference turn : ℤ}
    (h : |observed + turn * unwrapRawModulus - reference| < unwrapHalfTurnRaw) :
    nearest observed reference =
      { candidate := observed + turn * unwrapRawModulus
        distance := |observed + turn * unwrapRawModulus - reference|
        tied := false } := by
  obtain ⟨middle, hmiddle, hclosest⟩ := nearest_closest observed reference
  have hmem : observed + turn * unwrapRawModulus ∈
      [observed + (middle + 1) * unwrapRawModulus, observed + (middle + 0) * unwrapRawModulus,
          observed + (middle + -1) * unwrapRawModulus] := by
    simp only [unwrapRawModulus, unwrapHalfTurnRaw, abs_lt, List.mem_cons, List.not_mem_nil,
      or_false] at *
    omega
  have hleast := hclosest.least _ hmem
  have hwhere := hclosest.mem
  have hdistance := hclosest.distance
  have hcandidate :
      (nearest observed reference).candidate = observed + turn * unwrapRawModulus := by
    rw [hdistance] at hleast
    simp only [unwrapRawModulus, unwrapHalfTurnRaw, List.mem_cons, List.not_mem_nil,
      or_false, Int.abs_eq_natAbs] at *
    omega
  have htied : (nearest observed reference).tied = false := by
    by_contra htied
    obtain ⟨other, hother, hne, hsame⟩ := hclosest.tie (by simpa using htied)
    rw [hdistance] at hsame hleast
    simp only [unwrapRawModulus, unwrapHalfTurnRaw, List.mem_cons, List.not_mem_nil,
      or_false, Int.abs_eq_natAbs] at *
    omega
  rw [hcandidate] at hdistance
  exact Nearest.ext hcandidate hdistance htied

/-! ## 5. Binding -/

/-- A position the reading can stand for, in the window around the reference. -/
def InWindow (observedRaw : Raw) (referenceUnwrappedRaw : UnwrappedRaw) (window : BitVec 16)
    (position : ℤ) : Prop :=
  position ≡ observedRaw.toNat [ZMOD unwrapRawModulus] ∧
    |position - referenceUnwrappedRaw.toInt| ≤ window.toNat

section Binding

variable {state : JointUnwrapper} {observedRaw : Raw} {reference : UnwrappedRaw}
  {window : BitVec 16} {position other : ℤ}

theorem InWindow.unique (hwindow : (window.toNat : ℤ) < unwrapHalfTurnRaw)
    (h : InWindow observedRaw reference window position)
    (hother : InWindow observedRaw reference window other) : other = position := by
  have hmod := hother.1.trans h.1.symm
  have hnear := h.2
  have hnear' := hother.2
  rw [Int.modEq_iff_dvd] at hmod
  obtain ⟨turns, hturns⟩ := hmod
  simp only [unwrapRawModulus, unwrapHalfTurnRaw, abs_le] at *
  omega

theorem InWindow.nearest (hwindow : (window.toNat : ℤ) < unwrapHalfTurnRaw)
    (h : InWindow observedRaw reference window position) :
    nearest observedRaw.toNat reference.toInt =
      { candidate := position, distance := |position - reference.toInt|, tied := false } := by
  obtain ⟨turn, hturn⟩ := (Int.modEq_iff_dvd.mp h.1.symm)
  obtain rfl : position = observedRaw.toNat + turn * unwrapRawModulus := by
    rw [Int.mul_comm]
    omega
  exact nearest_of_near (lt_of_le_of_lt h.2 hwindow)

/-- **The position in the window is the one bound**, if the unwrapper can hold it. -/
theorem JointUnwrapper.bind_of_inWindow (hreading : (observedRaw.toNat : ℤ) < unwrapRawModulus)
    (hpositive : 0 < window.toNat) (hwindow : (window.toNat : ℤ) < unwrapHalfTurnRaw)
    (h : InWindow observedRaw reference window position) :
    state.bind observedRaw reference window =
      if FitsInt32 position then
        ({ bound := true, previousRaw := observedRaw, unwrappedRaw := BitVec.ofInt 32 position },
          .ok ())
      else (state, .error .overflow) := by
  have hzero : window ≠ 0 := by
    rintro rfl
    exact absurd hpositive (by decide)
  have hnear := h.2
  simp only [JointUnwrapper.bind, h.nearest hwindow]
  rw [if_neg (not_le.mpr hreading), if_neg (by simp only [hzero, false_or]; omega),
    if_neg (by decide), if_neg (by omega)]
  split_ifs
  · rfl
  · rfl

/-- A bound unwrapper was given a reading and a window, and a position in it. -/
theorem JointUnwrapper.bind_ok (h : (state.bind observedRaw reference window).2 = .ok ()) :
    (observedRaw.toNat : ℤ) < unwrapRawModulus ∧ 0 < window.toNat ∧
      (window.toNat : ℤ) < unwrapHalfTurnRaw ∧
      ∃ position, InWindow observedRaw reference window position ∧ FitsInt32 position := by
  simp only [JointUnwrapper.bind] at h
  split_ifs at h with hreading hwindow htied hdistance hfits
  push Not at hwindow
  obtain ⟨middle, -, hclosest⟩ := nearest_closest observedRaw.toNat reference.toInt
  have hpositive : window.toNat ≠ 0 := fun hzero => hwindow.1 (BitVec.eq_of_toNat_eq hzero)
  refine ⟨not_le.mp hreading, Nat.pos_of_ne_zero hpositive, hwindow.2, _, ⟨?_, ?_⟩, hfits⟩
  · have hmem := hclosest.mem
    simp only [List.mem_cons, List.not_mem_nil, or_false] at hmem
    rw [Int.modEq_comm, Int.modEq_iff_dvd]
    rcases hmem with hmem | hmem | hmem
    all_goals exact ⟨_, by rw [hmem, add_sub_cancel_left, Int.mul_comm]⟩
  · rw [← hclosest.distance]
    exact not_lt.mp hdistance

theorem JointUnwrapper.bind_error {error : UnwrapError}
    (h : (state.bind observedRaw reference window).2 = .error error) :
    (state.bind observedRaw reference window).1 = state := by
  simp only [JointUnwrapper.bind] at h ⊢
  split_ifs at h ⊢
  all_goals rfl

end Binding

/-! ## 6. Tracking -/

/-- What the encoder of a joint at `position` reports. -/
def reading (position : ℤ) : Raw := BitVec.ofInt 16 (position % 4096)

theorem toNat_reading (position : ℤ) : ((reading position).toNat : ℤ) = position % 4096 := by
  rw [reading, BitVec.toNat_ofInt]
  omega

theorem reading_eq {observedRaw : Raw} {position : ℤ}
    (hreading : (observedRaw.toNat : ℤ) < unwrapRawModulus)
    (h : position ≡ observedRaw.toNat [ZMOD unwrapRawModulus]) :
    reading position = observedRaw := by
  refine BitVec.eq_of_toNat_eq (Int.ofNat_inj.mp ?_)
  rw [toNat_reading]
  exact Eq.trans h (Int.emod_eq_of_lt (Int.natCast_nonneg _) hreading)

theorem toInt_ofInt {value : ℤ} (h : FitsInt32 value) : (BitVec.ofInt 32 value).toInt = value := by
  rw [BitVec.toInt_ofInt]
  exact Int.bmod_eq_of_le_mul_two (by have := h.1; omega) (by have := h.2; omega)

namespace JointUnwrapper

/-- The unwrapper knows where its joint is. -/
structure Knows (state : JointUnwrapper) (position : ℤ) : Prop where
  bound : state.bound = true
  previous : state.previousRaw = reading position
  unwrapped : state.unwrappedRaw.toInt = position

variable {state : JointUnwrapper} {position next : ℤ}

/-- Less than half a turn, the short way round is the way the joint went. -/
theorem shortWay_reading (h : |next - position| < unwrapHalfTurnRaw) :
    shortWay (next % 4096 - position % 4096) = next - position ∧
      next % 4096 - position % 4096 ≠ unwrapHalfTurnRaw ∧
      next % 4096 - position % 4096 ≠ -unwrapHalfTurnRaw := by
  simp only [shortWay, unwrapHalfTurnRaw, unwrapRawModulus, abs_lt] at *
  split_ifs <;> omega

/-- **A reading less than half a turn on is followed.** -/
theorem Knows.update (h : state.Knows position) (hnear : |next - position| < unwrapHalfTurnRaw)
    (hfits : FitsInt32 next) :
    (state.update (reading next)).1.Knows next ∧
      (state.update (reading next)).2 = .ok (BitVec.ofInt 32 next) := by
  obtain ⟨hway, hplus, hminus⟩ := shortWay_reading hnear
  have hupdated : state.unwrappedRaw.toInt + (next - position) = next := by
    rw [h.unwrapped]
    omega
  have hrange : ¬ ((reading next).toNat : ℤ) ≥ unwrapRawModulus := by
    rw [toNat_reading, unwrapRawModulus]
    omega
  have hupdate : state.update (reading next) =
      ({ state with previousRaw := reading next, unwrappedRaw := BitVec.ofInt 32 next },
        .ok (BitVec.ofInt 32 next)) := by
    simp only [JointUnwrapper.update]
    rw [h.bound, if_neg (by decide), if_neg hrange, h.previous, toNat_reading, toNat_reading,
      if_neg (not_or.mpr ⟨hplus, hminus⟩), hway, hupdated, if_neg (not_not.mpr hfits)]
  rw [hupdate]
  exact ⟨⟨h.bound, rfl, toInt_ofInt hfits⟩, rfl⟩

theorem update_error {observedRaw : Raw} {error : UnwrapError}
    (h : (state.update observedRaw).2 = .error error) : (state.update observedRaw).1 = state := by
  simp only [JointUnwrapper.update] at h ⊢
  split_ifs at h ⊢
  all_goals rfl

/-- The answers of the unwrapper to a sequence of readings. -/
def answers (state : JointUnwrapper) (readings : List Raw) :
    List (Except UnwrapError UnwrappedRaw) :=
  Machine.trace (fun state observedRaw => (state.update observedRaw).1)
    (fun state observedRaw => (state.update observedRaw).2) state readings

/-- **A joint that never turns half a turn between readings is never lost.** -/
theorem Knows.answers {positions : List ℤ} (h : state.Knows position)
    (hnear : List.IsChain (fun position next => |next - position| < unwrapHalfTurnRaw)
      (position :: positions))
    (hfits : ∀ position ∈ positions, FitsInt32 position) :
    state.answers (positions.map reading) =
      positions.map fun position => .ok (BitVec.ofInt 32 position) := by
  induction positions generalizing state position with
  | nil => rfl
  | cons next positions ih =>
    obtain ⟨hfirst, hrest⟩ := List.isChain_cons_cons.mp hnear
    obtain ⟨hknows, hanswer⟩ := h.update hfirst (hfits next List.mem_cons_self)
    have hlater := ih hknows hrest fun position hmem => hfits position (List.mem_cons_of_mem _ hmem)
    simp only [JointUnwrapper.answers, List.map_cons, Machine.trace] at hlater ⊢
    rw [hanswer, hlater]

/-- **Binding, tracking and refusing.** -/
theorem tracks_from_window (state : JointUnwrapper) (observedRaw : Raw) (reference : UnwrappedRaw)
    (window : BitVec 16) :
    ((state.bind observedRaw reference window).2 = .ok () ↔
        ((observedRaw.toNat : ℤ) < unwrapRawModulus ∧ 0 < window.toNat ∧
          (window.toNat : ℤ) < unwrapHalfTurnRaw) ∧
        ∃ position, FitsInt32 position ∧
          ∀ other, InWindow observedRaw reference window other ↔ other = position) ∧
      ((state.bind observedRaw reference window).2 = .ok () →
        ∀ position, InWindow observedRaw reference window position →
          (state.bind observedRaw reference window).1 =
              { bound := true, previousRaw := observedRaw,
                unwrappedRaw := BitVec.ofInt 32 position } ∧
            ∀ positions : List ℤ,
              List.IsChain (fun position next => |next - position| < unwrapHalfTurnRaw)
                (position :: positions) →
              (∀ position ∈ positions, FitsInt32 position) →
              (state.bind observedRaw reference window).1.answers (positions.map reading) =
                positions.map fun position => .ok (BitVec.ofInt 32 position)) ∧
      (∀ error, (state.bind observedRaw reference window).2 = .error error →
        (state.bind observedRaw reference window).1 = state) ∧
      ∀ error, (state.update observedRaw).2 = .error error →
        (state.update observedRaw).1 = state := by
  refine ⟨⟨fun h => ?_, ?_⟩, fun h position hposition => ?_, fun _ => bind_error, fun _ =>
    update_error⟩
  · obtain ⟨hreading, hpositive, hwindow, position, hposition, hfits⟩ := bind_ok h
    refine ⟨⟨hreading, hpositive, hwindow⟩, position, hfits, fun other => ⟨?_, ?_⟩⟩
    · exact hposition.unique hwindow
    · rintro rfl
      exact hposition
  · rintro ⟨⟨hreading, hpositive, hwindow⟩, position, hfits, honly⟩
    rw [bind_of_inWindow hreading hpositive hwindow ((honly position).mpr rfl), if_pos hfits]
  · obtain ⟨hreading, hpositive, hwindow, position', hposition', hfits⟩ := bind_ok h
    obtain rfl := hposition'.unique hwindow hposition
    rw [bind_of_inWindow hreading hpositive hwindow hposition, if_pos hfits]
    exact ⟨rfl, fun positions hnear hall => Knows.answers
      ⟨rfl, (reading_eq hreading hposition.1).symm, toInt_ofInt hfits⟩ hnear hall⟩

/-- A window of half a turn holds one position too, and is refused. -/
theorem bind_half_turn :
    (reset.bind 0 0 2048).2 = .error .badReferenceWindow ∧
      ∃! position, InWindow 0 0 2048 position := by
  refine ⟨by decide, 0, ⟨by decide, by decide⟩, ?_⟩
  rintro other ⟨hmod, hnear⟩
  obtain ⟨turns, hturns⟩ := Int.modEq_iff_dvd.mp hmod
  rw [show ((2048 : BitVec 16).toNat : ℤ) = 2048 from rfl,
    show (0 : UnwrappedRaw).toInt = 0 from rfl, abs_le] at hnear
  rw [show ((0 : Raw).toNat : ℤ) = 0 from rfl, unwrapRawModulus] at hturns
  omega

end JointUnwrapper

/-! ## 7. Raw to micro-radians and back -/

variable {direction : BitVec 8}

theorem directionIsValid_iff :
    directionIsValid direction = true ↔ direction.toInt = 1 ∨ direction.toInt = -1 := by
  simp [directionIsValid]

variable {zeroRaw : Raw}

/-- **A goal is converted exactly when it is within limits**, which are 32 bits wide. -/
theorem unwrappedUradToRaw_ok_iff {positionUrad : Urad} {limit : UnwrappedJointLimit}
    {goal : UnwrappedRaw × Raw} :
    unwrappedUradToRaw zeroRaw direction positionUrad limit = .ok goal ↔
      ((zeroRaw.toNat : ℤ) < unwrapRawModulus ∧ directionIsValid direction = true) ∧
        (limit.minimumUnwrappedRaw.toInt ≤ goalCandidate zeroRaw direction positionUrad ∧
          goalCandidate zeroRaw direction positionUrad ≤ limit.maximumUnwrappedRaw.toInt) ∧
        goal = (BitVec.ofInt 32 (goalCandidate zeroRaw direction positionUrad),
          moduloRaw (goalCandidate zeroRaw direction positionUrad)) := by
  have hminimum := BitVec.le_toInt limit.minimumUnwrappedRaw
  have hmaximum := BitVec.toInt_lt (x := limit.maximumUnwrappedRaw)
  constructor
  · intro h
    simp only [unwrappedUradToRaw] at h
    split_ifs at h with hzero hdirection hordered hfits hlimit
    push Not at hlimit
    exact ⟨⟨not_le.mp hzero, by simpa using hdirection⟩, hlimit, (Except.ok.inj h).symm⟩
  · rintro ⟨⟨hzero, hdirection⟩, hlimit, rfl⟩
    have hfits : FitsInt32 (goalCandidate zeroRaw direction positionUrad) :=
      ⟨by omega, by omega⟩
    simp only [unwrappedUradToRaw]
    rw [if_neg (not_le.mpr hzero), if_neg (by simp [hdirection]), if_neg (by omega),
      if_neg (not_not.mpr hfits), if_neg (by omega)]

theorem moduloRaw_eq (position : ℤ) : moduloRaw position = reading position := by
  have hrest : position.tmod 4096 = _ := Int.tmod_eq_emod
  have hmodulo : (if position.tmod 4096 < 0 then position.tmod 4096 + 4096
      else position.tmod 4096) = position % 4096 := by
    generalize position.tmod 4096 = rest at hrest
    split_ifs at hrest ⊢ <;> omega
  exact congrArg (BitVec.ofInt 16) hmodulo

/-- **Micro-radians are the finer scale**: the two roundings bring a position back to itself. -/
theorem goalCandidate_roundDivide {position : ℤ} {positionUrad : Urad}
    (hdirection : direction.toInt = 1 ∨ direction.toInt = -1)
    (h : positionUrad.toInt =
      roundDivide ((position - zeroRaw.toNat) * direction.toInt * turnUrad) rawUnitsPerTurn) :
    goalCandidate zeroRaw direction positionUrad = position := by
  have hback : roundDivide (positionUrad.toInt * rawUnitsPerTurn) turnUrad =
      (position - zeroRaw.toNat) * direction.toInt := by
    rw [h]
    exact Rounding.roundDivide_roundDivide _ (by decide) (by decide)
  have hsquare : direction.toInt * direction.toInt = 1 := by
    rcases hdirection with h | h
    all_goals rw [h]; rfl
  rw [goalCandidate, hback, Int.mul_comm (position - _), ← Int.mul_assoc, hsquare]
  omega

/-- **Converted and converted back, a position within the limits is itself**, and the servo is sent
its remainder. -/
theorem raw_urad_raw {direction : BitVec 8} {unwrappedRaw : UnwrappedRaw} {positionUrad : Urad}
    {limit : UnwrappedJointLimit}
    (hconverted : unwrappedRawToUrad zeroRaw direction unwrappedRaw = .ok positionUrad)
    (hminimum : limit.minimumUnwrappedRaw.toInt ≤ unwrappedRaw.toInt)
    (hmaximum : unwrappedRaw.toInt ≤ limit.maximumUnwrappedRaw.toInt) :
    ∃ modulo, unwrappedUradToRaw zeroRaw direction positionUrad limit = .ok (unwrappedRaw, modulo) ∧
      modulo.toNat < 4096 ∧ (modulo.toNat : ℤ) ≡ unwrappedRaw.toInt [ZMOD 4096] := by
  simp only [unwrappedRawToUrad] at hconverted
  split_ifs at hconverted with hzero hdirection hoverflow
  have hback : goalCandidate zeroRaw direction positionUrad = unwrappedRaw.toInt := by
    refine goalCandidate_roundDivide (directionIsValid_iff.mp (by simpa using hdirection)) ?_
    rw [← Except.ok.inj hconverted, toInt_ofInt hoverflow]
  have hreading := toNat_reading unwrappedRaw.toInt
  refine ⟨reading unwrappedRaw.toInt, ?_, by omega, ?_⟩
  · rw [unwrappedUradToRaw_ok_iff, hback, BitVec.ofInt_toInt, moduloRaw_eq]
    exact ⟨⟨not_le.mp hzero, by simpa using hdirection⟩, ⟨hminimum, hmaximum⟩, rfl⟩
  · rw [hreading]
    exact Int.mod_modEq _ _

theorem raw_urad_raw_backwards :
    ∃ modulo, unwrappedUradToRaw 1000 (-1) 9203884 ⟨-6000, 6000⟩ = .ok (-5000, modulo) ∧
      modulo.toNat < 4096 ∧ (modulo.toNat : ℤ) ≡ (-5000 : UnwrappedRaw).toInt [ZMOD 4096] :=
  raw_urad_raw (by decide) (by decide) (by decide)

end MobileBimanual.Servo
