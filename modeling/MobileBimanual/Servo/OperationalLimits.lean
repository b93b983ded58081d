/-
# The operational limits

`bimanual_operational_limits.c`: for each joint the raw positions it may take, counted over the
turns, and the micro-radians they stand for.  The executor is given the micro-radians, and its
output is mapped back under the raw limits; `unwrapModuloRaw` finds the turn of a raw position from
the limits alone.

The canonical table is compiled in; two builds take theirs from a generated header.  In all of them
the micro-radians are those of the raw limits (`Derived`), so what the executor may command can be
sent, and what is sent is on one turn (`limits_reachable`).
-/
import MobileBimanual.Servo.GoalMap
import MobileBimanual.Stream.Executor

namespace MobileBimanual.Servo

open MobileBimanual.Stream (JointLimit)
open Rounding (roundDivide roundDivide_mono)

/-! ## 1. The tables -/

inductive BimanualArm where
  | left
  | right

structure BimanualOperationalLimit where
  zeroRaw : Raw
  positiveRawDirection : BitVec 8
  raw : UnwrappedJointLimit
  urad : JointLimit

/-- A row of a table. -/
def limitRow (zeroRaw direction minimumRaw maximumRaw minimumUrad maximumUrad : ℤ) :
    BimanualOperationalLimit where
  zeroRaw := BitVec.ofInt 16 zeroRaw
  positiveRawDirection := BitVec.ofInt 8 direction
  raw := ⟨BitVec.ofInt 32 minimumRaw, BitVec.ofInt 32 maximumRaw⟩
  urad := ⟨BitVec.ofInt 32 minimumUrad, BitVec.ofInt 32 maximumUrad⟩

abbrev LimitTable := BimanualArm → ArmJoint → BimanualOperationalLimit

def canonicalLimits : LimitTable
  | .left => ![
      limitRow 2048 1 983 3041 (-1633689) 1523243,
      limitRow 2048 1 1899 4187 (-228563) 3281185,
      limitRow 2048 (-1) 286 2492 (-681087) 2702874,
      limitRow 2048 (-1) 170 2384 (-515418) 2880816,
      limitRow 2048 1 587 2838 (-2241146) 1211845,
      limitRow 2048 (-1) 1872 3257 (-1854583) 269981]
  | .right => ![
      limitRow 2048 1 1108 2996 (-1441942) 1454214,
      limitRow 2048 1 1859 4188 (-289922) 3282719,
      limitRow 2048 (-1) 297 2523 (-728641) 2686000,
      limitRow 2048 (-1) 377 2438 (-598252) 2563282,
      limitRow 2048 1 749 2970 (-1992641) 1414330,
      limitRow 2048 (-1) 1907 3299 (-1919010) 216291]

/-- The right arm of the taught build does not move. -/
def restingLimits : ArmJoint → BimanualOperationalLimit :=
  ![limitRow 2048 1 2048 2048 0 0, limitRow 2048 1 2048 2048 0 0, limitRow 2048 (-1) 2048 2048 0 0,
    limitRow 2048 (-1) 2048 2048 0 0, limitRow 2048 1 2048 2048 0 0, limitRow 2048 (-1) 2048 2048 0 0]

/-- The builds, with what their generated headers say. -/
inductive LimitBuild where
  | canonical
  | armRange (left right : ArmJoint → BimanualOperationalLimit)
  | taughtPose (left : ArmJoint → BimanualOperationalLimit)

def operationalLimits : LimitBuild → LimitTable
  | .canonical => canonicalLimits
  | .armRange left right => fun
    | .left => left
    | .right => right
  | .taughtPose left => fun
    | .left => left
    | .right => restingLimits

/-! ## 2. The calls -/

section Calls

variable (table : LimitTable)

def limitOf (arm : BimanualArm) (jointIndex : BitVec 8) : Option BimanualOperationalLimit :=
  if h : jointIndex.toNat < 6 then some (table arm ⟨jointIndex.toNat, h⟩) else none

def containsUnwrappedRaw (arm : BimanualArm) (jointIndex : BitVec 8) (unwrappedRaw : ℤ) : Bool :=
  (limitOf table arm jointIndex).any fun limit =>
    decide (limit.raw.minimumUnwrappedRaw.toInt ≤ unwrappedRaw ∧
      unwrappedRaw ≤ limit.raw.maximumUnwrappedRaw.toInt)

/-- The positions on the three turns that a raw position can stand for. -/
def turnCandidates (arm : BimanualArm) (jointIndex : BitVec 8) (moduloRaw : Raw) : List ℤ :=
  (([-1, 0, 1] : List ℤ).map fun turn => (moduloRaw.toNat : ℤ) + turn * unwrapRawModulus).filter
    (containsUnwrappedRaw table arm jointIndex)

/-- The candidates are well within 32 bits. -/
def unwrapModuloRaw (arm : BimanualArm) (jointIndex : BitVec 8) (moduloRaw : Raw) : Option ℤ :=
  if unwrapRawModulus ≤ moduloRaw.toNat then none
  else match turnCandidates table arm jointIndex moduloRaw with
  | [unwrappedRaw] => some unwrappedRaw
  | _ => none

def stepModuloRaw (arm : BimanualArm) (jointIndex : BitVec 8) (presentModuloRaw : Raw)
    (deltaRaw : BitVec 16) : Option Raw :=
  match unwrapModuloRaw table arm jointIndex presentModuloRaw with
  | none => none
  | some presentUnwrapped =>
    let targetUnwrapped := presentUnwrapped + deltaRaw.toInt
    if containsUnwrappedRaw table arm jointIndex targetUnwrapped then
      some (moduloRaw targetUnwrapped)
    else none

/-- The arm and the place in it of a joint of the executor. -/
def jointPlace (joint : Joint) : BimanualArm × ArmJoint :=
  (if joint.val < 6 then .left else .right, ⟨joint.val % 6, Nat.mod_lt _ (by decide)⟩)

def jointLimit (joint : Joint) : BimanualOperationalLimit :=
  table (jointPlace joint).1 (jointPlace joint).2

def loadExecutorLimits : Joint → JointLimit := fun joint => (jointLimit table joint).urad

def BimanualOperationalLimit.goalMap (limit : BimanualOperationalLimit) : BimanualJointMap where
  zeroRaw := limit.zeroRaw
  positiveRawDirection := limit.positiveRawDirection
  minimumUnwrappedRaw := limit.raw.minimumUnwrappedRaw
  maximumUnwrappedRaw := limit.raw.maximumUnwrappedRaw

def loadGoalMaps : Joint → BimanualJointMap := fun joint => (jointLimit table joint).goalMap

def mapExecutorOutput (positionsUrad : Joint → Urad) (destinations : GoalDestinations) :
    GoalDestinations × GoalMapResult :=
  bimanualGoalMap (loadGoalMaps table) positionsUrad destinations

end Calls

/-! ## 3. Derived limits -/

/-- The micro-radians of a raw position. -/
def BimanualOperationalLimit.uradOf (limit : BimanualOperationalLimit) (raw : ℤ) : ℤ :=
  roundDivide ((raw - limit.zeroRaw.toNat) * limit.positiveRawDirection.toInt * turnUrad)
    rawUnitsPerTurn

/-- The raw limits are less than a turn apart and on the three turns that are looked at, and the
micro-radians are theirs, the smaller one first. -/
structure Derived (limit : BimanualOperationalLimit) : Prop where
  zero : (limit.zeroRaw.toNat : ℤ) < unwrapRawModulus
  direction : limit.positiveRawDirection.toInt = 1 ∨ limit.positiveRawDirection.toInt = -1
  order : limit.raw.minimumUnwrappedRaw.toInt ≤ limit.raw.maximumUnwrappedRaw.toInt
  turn : limit.raw.maximumUnwrappedRaw.toInt - limit.raw.minimumUnwrappedRaw.toInt <
    unwrapRawModulus
  low : -unwrapRawModulus ≤ limit.raw.minimumUnwrappedRaw.toInt
  high : limit.raw.maximumUnwrappedRaw.toInt < 2 * unwrapRawModulus
  minimum : limit.urad.minimumUrad.toInt =
    min (limit.uradOf limit.raw.minimumUnwrappedRaw.toInt)
      (limit.uradOf limit.raw.maximumUnwrappedRaw.toInt)
  maximum : limit.urad.maximumUrad.toInt =
    max (limit.uradOf limit.raw.minimumUnwrappedRaw.toInt)
      (limit.uradOf limit.raw.maximumUnwrappedRaw.toInt)

theorem derived_iff (limit : BimanualOperationalLimit) :
    Derived limit ↔
      (limit.zeroRaw.toNat : ℤ) < unwrapRawModulus ∧
        (limit.positiveRawDirection.toInt = 1 ∨ limit.positiveRawDirection.toInt = -1) ∧
        limit.raw.minimumUnwrappedRaw.toInt ≤ limit.raw.maximumUnwrappedRaw.toInt ∧
        limit.raw.maximumUnwrappedRaw.toInt - limit.raw.minimumUnwrappedRaw.toInt <
          unwrapRawModulus ∧
        -unwrapRawModulus ≤ limit.raw.minimumUnwrappedRaw.toInt ∧
        limit.raw.maximumUnwrappedRaw.toInt < 2 * unwrapRawModulus ∧
        limit.urad.minimumUrad.toInt =
          min (limit.uradOf limit.raw.minimumUnwrappedRaw.toInt)
            (limit.uradOf limit.raw.maximumUnwrappedRaw.toInt) ∧
        limit.urad.maximumUrad.toInt =
          max (limit.uradOf limit.raw.minimumUnwrappedRaw.toInt)
            (limit.uradOf limit.raw.maximumUnwrappedRaw.toInt) :=
  ⟨fun h => ⟨h.zero, h.direction, h.order, h.turn, h.low, h.high, h.minimum, h.maximum⟩,
    fun ⟨zero, direction, order, turn, low, high, minimum, maximum⟩ =>
      ⟨zero, direction, order, turn, low, high, minimum, maximum⟩⟩

instance (limit : BimanualOperationalLimit) : Decidable (Derived limit) :=
  decidable_of_iff' _ (derived_iff limit)

theorem canonical_derived : ∀ arm joint, Derived (canonicalLimits arm joint)
  | .left => by decide +kernel
  | .right => by decide +kernel

theorem resting_derived : ∀ joint, Derived (restingLimits joint) := by decide +kernel

/-- The limits of a generated header are derived as the canonical ones are. -/
def LimitBuild.HeaderDerived : LimitBuild → Prop
  | .canonical => True
  | .armRange left right => ∀ joint, Derived (left joint) ∧ Derived (right joint)
  | .taughtPose left => ∀ joint, Derived (left joint)

theorem LimitBuild.HeaderDerived.derived {build : LimitBuild} (h : build.HeaderDerived) :
    ∀ arm joint, Derived (operationalLimits build arm joint) := by
  intro arm joint
  cases build with
  | canonical => exact canonical_derived arm joint
  | armRange left right =>
    cases arm with
    | left => exact (h joint).1
    | right => exact (h joint).2
  | taughtPose left =>
    cases arm with
    | left => exact h joint
    | right => exact resting_derived joint

/-! ## 4. One joint -/

section Joint

variable {l : BimanualOperationalLimit}

/-- Where a position is sent. -/
def BimanualOperationalLimit.goal (l : BimanualOperationalLimit) (positionUrad : Urad) : ℤ :=
  goalCandidate l.zeroRaw l.positiveRawDirection positionUrad

variable {u : Urad}

theorem goal_mono (hdirection : l.positiveRawDirection.toInt = 1) {u' : Urad}
    (h : u.toInt ≤ u'.toInt) : l.goal u ≤ l.goal u' := by
  have hround := roundDivide_mono (show 0 < turnUrad by decide)
    (Int.mul_le_mul_of_nonneg_right h (show 0 ≤ rawUnitsPerTurn by decide))
  rw [BimanualOperationalLimit.goal, BimanualOperationalLimit.goal, goalCandidate, goalCandidate,
    hdirection]
  omega

theorem goal_anti (hdirection : l.positiveRawDirection.toInt = -1) {u' : Urad}
    (h : u.toInt ≤ u'.toInt) : l.goal u' ≤ l.goal u := by
  have hround := roundDivide_mono (show 0 < turnUrad by decide)
    (Int.mul_le_mul_of_nonneg_right h (show 0 ≤ rawUnitsPerTurn by decide))
  rw [BimanualOperationalLimit.goal, BimanualOperationalLimit.goal, goalCandidate, goalCandidate,
    hdirection]
  omega

/-- The order of the micro-radians is that of the raw positions, or the opposite one. -/
theorem uradOf_order {direction : ℤ} (hdirection : l.positiveRawDirection.toInt = direction)
    {raw raw' : ℤ} (h : raw * direction ≤ raw' * direction) : l.uradOf raw ≤ l.uradOf raw' := by
  refine roundDivide_mono (by decide) (Int.mul_le_mul_of_nonneg_right ?_ (by decide))
  rw [hdirection, Int.sub_mul, Int.sub_mul]
  omega

/-- A limit in micro-radians is sent to the raw limit it is derived from. -/
theorem Derived.goal_of_uradOf (h : Derived l) {raw : ℤ} (hu : u.toInt = l.uradOf raw) :
    l.goal u = raw :=
  goalCandidate_roundDivide h.direction hu

/-- **What is within the micro-radians is sent within the raw limits.** -/
theorem Derived.goal_within (h : Derived l) (hlow : l.urad.minimumUrad.toInt ≤ u.toInt)
    (hhigh : u.toInt ≤ l.urad.maximumUrad.toInt) :
    l.raw.minimumUnwrappedRaw.toInt ≤ l.goal u ∧
      l.goal u ≤ l.raw.maximumUnwrappedRaw.toInt := by
  have horder := h.order
  have hminimum := h.minimum
  have hmaximum := h.maximum
  rcases h.direction with hdirection | hdirection
  · have hends := uradOf_order hdirection
      (show l.raw.minimumUnwrappedRaw.toInt * 1 ≤ l.raw.maximumUnwrappedRaw.toInt * 1 by omega)
    rw [min_eq_left hends] at hminimum
    rw [max_eq_right hends] at hmaximum
    rw [← h.goal_of_uradOf hminimum, ← h.goal_of_uradOf hmaximum]
    exact ⟨goal_mono hdirection hlow, goal_mono hdirection hhigh⟩
  · have hends := uradOf_order hdirection
      (show l.raw.maximumUnwrappedRaw.toInt * -1 ≤ l.raw.minimumUnwrappedRaw.toInt * -1 by omega)
    rw [min_eq_right hends] at hminimum
    rw [max_eq_left hends] at hmaximum
    rw [← h.goal_of_uradOf hminimum, ← h.goal_of_uradOf hmaximum]
    exact ⟨goal_anti hdirection hhigh, goal_anti hdirection hlow⟩

theorem Derived.checkJoint (h : Derived l) {u : Urad} (hlow : l.urad.minimumUrad.toInt ≤ u.toInt)
    (hhigh : u.toInt ≤ l.urad.maximumUrad.toInt) : checkJoint l.goalMap u = .ok := by
  obtain ⟨hmin, hmax⟩ := h.goal_within hlow hhigh
  have hzero := h.zero
  have horder := h.order
  have hconfig : ¬ ((l.goalMap.zeroRaw.toNat : ℤ) ≥ unwrapRawModulus ∨
      (l.goalMap.positiveRawDirection.toInt ≠ 1 ∧ l.goalMap.positiveRawDirection.toInt ≠ -1) ∨
      l.goalMap.minimumUnwrappedRaw.toInt > l.goalMap.maximumUnwrappedRaw.toInt) := by
    have hdirection := h.direction
    simp only [BimanualOperationalLimit.goalMap]
    omega
  have hlimit : ¬ (goalCandidate l.goalMap.zeroRaw l.goalMap.positiveRawDirection u <
      l.goalMap.minimumUnwrappedRaw.toInt ∨
      goalCandidate l.goalMap.zeroRaw l.goalMap.positiveRawDirection u >
        l.goalMap.maximumUnwrappedRaw.toInt) :=
    not_or.mpr ⟨Int.not_lt.mpr hmin, Int.not_lt.mpr hmax⟩
  simp only [Servo.checkJoint]
  rw [if_neg hconfig, if_neg hlimit]

end Joint

/-! ## 5. The turn of a raw position -/

section Turn

variable {table : LimitTable} {arm : BimanualArm} {joint : ArmJoint} {position : ℤ}

theorem limitOf_joint (table : LimitTable) (arm : BimanualArm) (joint : ArmJoint) :
    limitOf table arm (BitVec.ofNat 8 joint) = some (table arm joint) := by
  have hindex : (BitVec.ofNat 8 joint).toNat = joint.val := by
    rw [BitVec.toNat_ofNat]
    omega
  rw [limitOf, dif_pos (by rw [hindex]; exact joint.isLt)]
  congr 2
  exact Fin.ext hindex

theorem contains_iff (position : ℤ) :
    containsUnwrappedRaw table arm (BitVec.ofNat 8 joint) position = true ↔
      (table arm joint).raw.minimumUnwrappedRaw.toInt ≤ position ∧
        position ≤ (table arm joint).raw.maximumUnwrappedRaw.toInt := by
  rw [containsUnwrappedRaw, limitOf_joint]
  simp

/-- **A position within the limits is the one its remainder is unwrapped to.** -/
theorem Derived.unwrapModuloRaw (h : Derived (table arm joint))
    (hlow : (table arm joint).raw.minimumUnwrappedRaw.toInt ≤ position)
    (hhigh : position ≤ (table arm joint).raw.maximumUnwrappedRaw.toInt) :
    unwrapModuloRaw table arm (BitVec.ofNat 8 joint) (moduloRaw position) = some position := by
  have hmodulo : ((moduloRaw position).toNat : ℤ) = position % 4096 := by
    rw [moduloRaw_eq, toNat_reading]
  have hrange : ¬ unwrapRawModulus ≤ ((moduloRaw position).toNat : ℤ) := by
    rw [hmodulo, unwrapRawModulus]
    omega
  have hthe : containsUnwrappedRaw table arm (BitVec.ofNat 8 joint) position = true :=
    (contains_iff position).mpr ⟨hlow, hhigh⟩
  -- a turn away is out of the limits
  have hother : ∀ other : ℤ, unwrapRawModulus ≤ |other - position| →
      ¬ containsUnwrappedRaw table arm (BitVec.ofNat 8 joint) other = true := by
    intro other hfar hcontains
    have hturn := h.turn
    rw [contains_iff] at hcontains
    rw [unwrapRawModulus] at hturn hfar
    rw [le_abs] at hfar
    omega
  have hcandidates :
      turnCandidates table arm (BitVec.ofNat 8 joint) (moduloRaw position) = [position] := by
    have hsmall := h.low
    have hlarge := h.high
    rw [unwrapRawModulus] at hsmall hlarge
    have hturns : position = position % 4096 + -1 * 4096 ∨ position = position % 4096 + 0 * 4096 ∨
        position = position % 4096 + 1 * 4096 := by omega
    rw [turnCandidates, hmodulo]
    simp only [List.map_cons, List.map_nil, unwrapRawModulus] at *
    rcases hturns with hposition | hposition | hposition
    · rw [← hposition, List.filter_cons_of_pos hthe,
        List.filter_cons_of_neg (hother _ (by rw [le_abs]; omega)),
        List.filter_cons_of_neg (hother _ (by rw [le_abs]; omega)), List.filter_nil]
    · rw [← hposition, List.filter_cons_of_neg (hother _ (by rw [le_abs]; omega)),
        List.filter_cons_of_pos hthe,
        List.filter_cons_of_neg (hother _ (by rw [le_abs]; omega)), List.filter_nil]
    · rw [← hposition, List.filter_cons_of_neg (hother _ (by rw [le_abs]; omega)),
        List.filter_cons_of_neg (hother _ (by rw [le_abs]; omega)),
        List.filter_cons_of_pos hthe, List.filter_nil]
  rw [Servo.unwrapModuloRaw, if_neg hrange, hcandidates]

end Turn

/-! ## 6. Twelve joints -/

/-- The joint of the executor at a place of an arm. -/
def BimanualArm.joint : BimanualArm → ArmJoint → Joint
  | .left => leftJoint
  | .right => rightJoint

def GoalDestinations.raw (destinations : GoalDestinations) : BimanualArm → ArmJoint → Raw
  | .left => destinations.leftRaw
  | .right => destinations.rightRaw

theorem jointLimit_joint (table : LimitTable) (arm : BimanualArm) (joint : ArmJoint) :
    jointLimit table (arm.joint joint) = table arm joint := by
  have hlt := joint.isLt
  have hplace : jointPlace (arm.joint joint) = (arm, joint) := by
    cases arm with
    | left =>
      refine Prod.ext (if_pos ?_) (Fin.ext ?_)
      · exact hlt
      · exact Nat.mod_eq_of_lt hlt
    | right =>
      have hval : (BimanualArm.right.joint joint).val = 6 + joint.val := rfl
      refine Prod.ext (if_neg ?_) (Fin.ext ?_)
      · omega
      · simp only [jointPlace, hval]
        omega
  rw [jointLimit, hplace]

section Reachable

variable {build : LimitBuild} {positionsUrad : Joint → Urad}

/-- A vector within the limits that the executor is given. -/
def WithinLimits (build : LimitBuild) (positionsUrad : Joint → Urad) : Prop :=
  ∀ joint,
    (loadExecutorLimits (operationalLimits build) joint).minimumUrad.toInt ≤
        (positionsUrad joint).toInt ∧
      (positionsUrad joint).toInt ≤
        (loadExecutorLimits (operationalLimits build) joint).maximumUrad.toInt

theorem goals_map (hbuild : build.HeaderDerived) (hwithin : WithinLimits build positionsUrad)
    (destinations : GoalDestinations) :
    (mapExecutorOutput (operationalLimits build) positionsUrad destinations).2 = .ok := by
  refine (goalMap_refines _ _ _).1.mpr fun joint => ⟨_, jointAnswer_ok_iff.mpr ⟨?_, rfl⟩⟩
  exact (hbuild.derived _ _).checkJoint (hwithin joint).1 (hwithin joint).2

/-- The goal of each joint of a mapped vector. -/
theorem goals_raw {destinations : GoalDestinations}
    (h : (mapExecutorOutput (operationalLimits build) positionsUrad destinations).2 = .ok)
    (arm : BimanualArm) (joint : ArmJoint) :
    (mapExecutorOutput (operationalLimits build) positionsUrad destinations).1.raw arm joint =
      moduloRaw ((operationalLimits build arm joint).goal (positionsUrad (arm.joint joint))) := by
  have hanswers := (goalMap_refines _ _ _).2.1 h joint
  rw [← jointLimit_joint (operationalLimits build) arm joint]
  cases arm with
  | left =>
    obtain ⟨unwrappedRaw, hanswer⟩ := hanswers.1
    exact (Prod.mk.inj (jointAnswer_ok_iff.mp hanswer).2).2
  | right =>
    obtain ⟨unwrappedRaw, hanswer⟩ := hanswers.2
    exact (Prod.mk.inj (jointAnswer_ok_iff.mp hanswer).2).2

/-- **Whatever the executor may command can be sent, and is on one turn.**  Every position within
the limits in micro-radians is mapped, all twelve joints of it, and each goal that is sent is
unwrapped to the position it was sent for. -/
theorem limits_reachable (build : LimitBuild) (hbuild : build.HeaderDerived)
    (positionsUrad : Joint → Urad) (hwithin : WithinLimits build positionsUrad)
    (destinations : GoalDestinations) :
    let mapped := mapExecutorOutput (operationalLimits build) positionsUrad destinations
    mapped.2 = .ok ∧
      ∀ (arm : BimanualArm) (joint : ArmJoint),
        unwrapModuloRaw (operationalLimits build) arm (BitVec.ofNat 8 joint)
            (mapped.1.raw arm joint) =
          some ((operationalLimits build arm joint).goal (positionsUrad (arm.joint joint))) := by
  intro mapped
  have hmapped := goals_map hbuild hwithin destinations
  refine ⟨hmapped, fun arm joint => ?_⟩
  have hderived := hbuild.derived arm joint
  have hlimits := hwithin (arm.joint joint)
  rw [loadExecutorLimits, jointLimit_joint] at hlimits
  obtain ⟨hlow, hhigh⟩ := hderived.goal_within hlimits.1 hlimits.2
  rw [goals_raw hmapped arm joint]
  exact hderived.unwrapModuloRaw hlow hhigh

end Reachable

/-- The canonical build at its upper limits: the second joint of each arm is past the turn. -/
theorem limits_reachable_bench :
    let mapped := mapExecutorOutput canonicalLimits
      (fun joint => (jointLimit canonicalLimits joint).urad.maximumUrad)
      ⟨fun _ => 0, fun _ => 0, 0⟩
    mapped.2 = .ok ∧ unwrapModuloRaw canonicalLimits .left 1 (mapped.1.leftRaw 1) = some 4187 := by
  have h := limits_reachable .canonical trivial
    (fun joint => (jointLimit canonicalLimits joint).urad.maximumUrad)
    (by unfold WithinLimits; decide +kernel) ⟨fun _ => 0, fun _ => 0, 0⟩
  exact ⟨h.1, (h.2 .left 1).trans (by decide +kernel)⟩

end MobileBimanual.Servo
