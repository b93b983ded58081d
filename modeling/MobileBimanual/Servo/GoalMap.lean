/-
# The goals of twelve joints

`bimanual_goal_map.c` and `calibration.c`, the two other places that turn micro-radians into servo
positions.

* `bimanualGoalMap` maps the twelve outputs of the executor to the goals of the two arm buses, all
  or none.  It has its own copy of the conversion, and refines the one of `JointUnwrap` joint by
  joint (`goalMap_refines`): it does not look for an overflow, but the limits are 32 bits wide;
* `uradToRaw` and `rawToUrad` are the conversion of an arm that stays within one turn.

The destination of the failed joint may be NULL in C; here it is always there.
-/
import Mathlib.Logic.Function.Basic
import MobileBimanual.Servo.JointUnwrap

namespace MobileBimanual.Servo

open Rounding (roundDivide)

/-! ## 1. The goal map -/

abbrev Joint := Fin 12
abbrev ArmJoint := Fin 6

/-- The left arm's joints come first. -/
def leftJoint (joint : ArmJoint) : Joint := joint.castAdd 6
def rightJoint (joint : ArmJoint) : Joint := joint.natAdd 6

structure BimanualJointMap where
  zeroRaw : Raw
  positiveRawDirection : BitVec 8
  minimumUnwrappedRaw : UnwrappedRaw
  maximumUnwrappedRaw : UnwrappedRaw

def BimanualJointMap.limit (map : BimanualJointMap) : UnwrappedJointLimit where
  minimumUnwrappedRaw := map.minimumUnwrappedRaw
  maximumUnwrappedRaw := map.maximumUnwrappedRaw

inductive GoalMapResult where
  | ok
  | invalidConfig
  | limitViolation

/-- The arrays a call may write. -/
structure GoalDestinations where
  leftRaw : ArmJoint → Raw
  rightRaw : ArmJoint → Raw
  failedJoint : BitVec 8

/-- The body of the loop: the checks of one joint. -/
def checkJoint (map : BimanualJointMap) (positionUrad : Urad) : GoalMapResult :=
  let unwrappedRaw := goalCandidate map.zeroRaw map.positiveRawDirection positionUrad
  if (map.zeroRaw.toNat : ℤ) ≥ unwrapRawModulus ∨
      (map.positiveRawDirection.toInt ≠ 1 ∧ map.positiveRawDirection.toInt ≠ -1) ∨
      map.minimumUnwrappedRaw.toInt > map.maximumUnwrappedRaw.toInt then .invalidConfig
  else if unwrappedRaw < map.minimumUnwrappedRaw.toInt ∨
      unwrappedRaw > map.maximumUnwrappedRaw.toInt then .limitViolation
  else .ok

/-- The candidates written so far, or the joint that failed. -/
def mapJoints (maps : Joint → BimanualJointMap) (positionsUrad : Joint → Urad) :
    List Joint → (Joint → Raw) → Except (Joint × GoalMapResult) (Joint → Raw)
  | [], candidate => .ok candidate
  | joint :: joints, candidate =>
    match checkJoint (maps joint) (positionsUrad joint) with
    | .ok =>
      mapJoints maps positionsUrad joints (Function.update candidate joint
        (moduloRaw (goalCandidate (maps joint).zeroRaw (maps joint).positiveRawDirection
          (positionsUrad joint))))
    | result => .error (joint, result)

def bimanualGoalMap (maps : Joint → BimanualJointMap) (positionsUrad : Joint → Urad)
    (destinations : GoalDestinations) : GoalDestinations × GoalMapResult :=
  match mapJoints maps positionsUrad (List.finRange 12) fun _ => 0 with
  | .error (joint, result) =>
    ({ destinations with failedJoint := BitVec.ofNat 8 joint }, result)
  | .ok candidate =>
    ({ leftRaw := fun joint => candidate (leftJoint joint)
       rightRaw := fun joint => candidate (rightJoint joint)
       failedJoint := BitVec.allOnes 8 }, .ok)

/-! ## 2. One joint -/

/-- What the conversion of `JointUnwrap` says of a joint. -/
def jointAnswer (map : BimanualJointMap) (positionUrad : Urad) :
    Except UnwrapError (UnwrappedRaw × Raw) :=
  unwrappedUradToRaw map.zeroRaw map.positiveRawDirection positionUrad map.limit

/-- **The two copies of the checks agree**: within 32-bit limits nothing overflows. -/
theorem jointAnswer_ok_iff {map : BimanualJointMap} {positionUrad : Urad}
    {goal : UnwrappedRaw × Raw} :
    jointAnswer map positionUrad = .ok goal ↔
      checkJoint map positionUrad = .ok ∧
        goal =
          (BitVec.ofInt 32 (goalCandidate map.zeroRaw map.positiveRawDirection positionUrad),
            moduloRaw (goalCandidate map.zeroRaw map.positiveRawDirection positionUrad)) := by
  rw [jointAnswer, unwrappedUradToRaw_ok_iff, directionIsValid_iff, ← and_assoc]
  refine and_congr ⟨?_, fun h => ?_⟩ Iff.rfl
  · rintro ⟨⟨hzero, hdirection⟩, hminimum, hmaximum⟩
    change map.minimumUnwrappedRaw.toInt ≤ _ at hminimum
    change _ ≤ map.maximumUnwrappedRaw.toInt at hmaximum
    simp only [checkJoint]
    rw [if_neg (by omega), if_neg (by omega)]
  · simp only [checkJoint] at h
    split_ifs at h with hconfig hlimit
    push Not at hconfig hlimit
    exact ⟨⟨hconfig.1, or_iff_not_imp_left.mpr hconfig.2.1⟩, hlimit⟩

/-! ## 3. All of them -/

section Joints

variable {maps : Joint → BimanualJointMap} {positionsUrad : Joint → Urad}

variable {joints : List Joint} {candidate : Joint → Raw}

/-- A loop that ends has written the goal of every joint it went over, and no other. -/
theorem mapJoints_ok {candidate' : Joint → Raw}
    (h : mapJoints maps positionsUrad joints candidate = .ok candidate') (joint : Joint) :
    (joint ∈ joints → ∃ unwrappedRaw,
      jointAnswer (maps joint) (positionsUrad joint) = .ok (unwrappedRaw, candidate' joint)) ∧
      (joint ∉ joints → candidate' joint = candidate joint) := by
  induction joints generalizing candidate with
  | nil => exact ⟨fun hmem => absurd hmem List.not_mem_nil, fun _ => by rw [← Except.ok.inj h]⟩
  | cons first joints ih =>
    rw [mapJoints] at h
    split at h
    · next hcheck =>
      obtain ⟨hwritten, hkept⟩ := ih h
      constructor
      · intro hmem
        rcases List.mem_cons.mp hmem with rfl | hmem
        · by_cases hagain : joint ∈ joints
          · exact hwritten hagain
          · rw [hkept hagain, Function.update_self]
            exact ⟨_, jointAnswer_ok_iff.mpr ⟨hcheck, rfl⟩⟩
        · exact hwritten hmem
      · intro hmem
        obtain ⟨hne, hmem⟩ := not_or.mp (mt List.mem_cons.mpr hmem)
        rw [hkept hmem, Function.update_of_ne hne]
    · exact absurd h (by simp)

theorem mapJoints_of_answers
    (h : ∀ joint ∈ joints, ∃ goal, jointAnswer (maps joint) (positionsUrad joint) = .ok goal) :
    ∃ candidate', mapJoints maps positionsUrad joints candidate = .ok candidate' := by
  induction joints generalizing candidate with
  | nil => exact ⟨candidate, rfl⟩
  | cons first joints ih =>
    obtain ⟨goal, hgoal⟩ := h first List.mem_cons_self
    rw [mapJoints, (jointAnswer_ok_iff.mp hgoal).1]
    exact ih fun joint hmem => h joint (List.mem_cons_of_mem _ hmem)

theorem mapJoints_error {joint : Joint} {result : GoalMapResult}
    (h : mapJoints maps positionsUrad joints candidate = .error (joint, result)) :
    result = checkJoint (maps joint) (positionsUrad joint) ∧ result ≠ .ok := by
  induction joints generalizing candidate with
  | nil => exact absurd h (by simp [mapJoints])
  | cons first joints ih =>
    rw [mapJoints] at h
    split at h
    · exact ih h
    · next hfailed =>
      obtain ⟨rfl, rfl⟩ := Prod.mk.inj (Except.error.inj h)
      exact ⟨rfl, fun hok => hfailed hok⟩

/-- **The goal map is the map of each joint, all or none.** -/
theorem goalMap_refines (maps : Joint → BimanualJointMap) (positionsUrad : Joint → Urad)
    (destinations : GoalDestinations) :
    ((bimanualGoalMap maps positionsUrad destinations).2 = .ok ↔
        ∀ joint, ∃ goal, jointAnswer (maps joint) (positionsUrad joint) = .ok goal) ∧
      ((bimanualGoalMap maps positionsUrad destinations).2 = .ok → ∀ joint : ArmJoint,
        (∃ unwrappedRaw, jointAnswer (maps (leftJoint joint)) (positionsUrad (leftJoint joint)) =
          .ok (unwrappedRaw,
            (bimanualGoalMap maps positionsUrad destinations).1.leftRaw joint)) ∧
        ∃ unwrappedRaw, jointAnswer (maps (rightJoint joint)) (positionsUrad (rightJoint joint)) =
          .ok (unwrappedRaw,
            (bimanualGoalMap maps positionsUrad destinations).1.rightRaw joint)) ∧
      ((bimanualGoalMap maps positionsUrad destinations).2 ≠ .ok →
        (bimanualGoalMap maps positionsUrad destinations).1.leftRaw = destinations.leftRaw ∧
          (bimanualGoalMap maps positionsUrad destinations).1.rightRaw =
            destinations.rightRaw) := by
  cases hmap : mapJoints maps positionsUrad (List.finRange 12) fun _ => 0 with
  | error failure =>
    obtain ⟨joint, result⟩ := failure
    have hfailed := (mapJoints_error hmap).2
    simp only [bimanualGoalMap, hmap]
    refine ⟨⟨fun h => absurd h hfailed, fun h => ?_⟩, fun h => absurd h hfailed,
      fun _ => ⟨trivial, trivial⟩⟩
    obtain ⟨candidate, hok⟩ := mapJoints_of_answers fun joint _ => h joint
    exact absurd (hmap.symm.trans hok) (by simp)
  | ok candidate =>
    have hjoint := fun joint => (mapJoints_ok hmap joint).1 (List.mem_finRange joint)
    simp only [bimanualGoalMap, hmap]
    refine ⟨⟨fun _ joint => ?_, fun _ => trivial⟩, fun _ joint => ⟨hjoint _, hjoint _⟩, ?_⟩
    · obtain ⟨unwrappedRaw, hanswer⟩ := hjoint joint
      exact ⟨_, hanswer⟩
    · intro h
      exact absurd rfl h

end Joints

/-! ## 4. An arm within one turn -/

structure JointCalibration where
  zeroRaw : Raw
  minimumRaw : Raw
  maximumRaw : Raw
  positiveRawDirection : BitVec 8

inductive CalibrationError where
  | badConfig
  | limitViolation

namespace JointCalibration

/-- `validate_calibration`. -/
def valid (calibration : JointCalibration) : Bool :=
  directionIsValid calibration.positiveRawDirection &&
    !decide (calibration.minimumRaw > calibration.zeroRaw ∨
      calibration.zeroRaw > calibration.maximumRaw ∨ calibration.maximumRaw > 4095)

def uradToRaw (calibration : JointCalibration) (positionUrad : Urad) :
    Except CalibrationError Raw :=
  let raw := goalCandidate calibration.zeroRaw calibration.positiveRawDirection positionUrad
  if !calibration.valid then .error .badConfig
  else if raw < calibration.minimumRaw.toNat ∨ raw > calibration.maximumRaw.toNat then
    .error .limitViolation
  else .ok (BitVec.ofInt 16 raw)

def rawToUrad (calibration : JointCalibration) (rawPosition : Raw) : Except CalibrationError Urad :=
  let positiveRawDelta :=
    ((rawPosition.toNat : ℤ) - calibration.zeroRaw.toNat) * calibration.positiveRawDirection.toInt
  if !calibration.valid then .error .badConfig
  else if rawPosition < calibration.minimumRaw ∨ rawPosition > calibration.maximumRaw then
    .error .limitViolation
  else .ok (BitVec.ofInt 32 (roundDivide (positiveRawDelta * turnUrad) rawUnitsPerTurn))

end JointCalibration

end MobileBimanual.Servo
