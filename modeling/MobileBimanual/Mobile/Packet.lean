/-
# Servo packets of the mobile axes

The sync-write builder of `sts3215_packet.c` and the two builders of `motor_groups.c`, with
the identifiers of `mobile_ids.h`.  `syncWords` reads the words of a packet back
(`syncWords_build`): it is how the later modules say what a packet tells a servo.
-/
import MobileBimanual.Mobile.Supervisor

namespace MobileBimanual.Mobile

open MobileBimanual.Stream (Byte)

abbrev Word := BitVec 16

/-! ## 1. The sync write -/

inductive PacketError where
  | invalidCount
  | invalidServoId
  | duplicateServoId
  | invalidRegisterRange

/-- The inverted byte sum. -/
def checksum (fields : List Byte) : Byte := ~~~ fields.foldl (· + ·) 0

def maxSyncWriteServos : Nat := 6

/-- The identifiers in turn: each unicast, and none seen before. -/
def checkIds : List Byte → List Byte → Except PacketError Unit
  | _, [] => .ok ()
  | seen, id :: ids =>
    if id == 0 || 0xFE ≤ id then .error .invalidServoId
    else if seen.contains id then .error .duplicateServoId
    else checkIds (id :: seen) ids

def servoFields (servo : Byte × Word) : List Byte :=
  [servo.1, servo.2.setWidth 8, (servo.2 >>> 8).setWidth 8]

/-- The fields from the broadcast identifier on, without the checksum. -/
def syncFields (address : Byte) (servos : List (Byte × Word)) : List Byte :=
  [0xFE, BitVec.ofNat 8 (4 + servos.length * 3), 0x83, address, 2] ++ servos.flatMap servoFields

def buildSyncWriteWords (address : Byte) (servos : List (Byte × Word)) :
    Except PacketError (List Byte) :=
  if servos.length = 0 ∨ maxSyncWriteServos < servos.length then .error .invalidCount
  else if address = 0xFF then .error .invalidRegisterRange
  else
    match checkIds [] (servos.map Prod.fst) with
    | .error error => .error error
    | .ok () =>
      .ok ([0xFF, 0xFF] ++ syncFields address servos ++ [checksum (syncFields address servos)])

/-- The register the velocities go to. -/
def velocityAddress : Byte := 46

/-- The words of a packet, from the eighth byte on, three bytes a servo. -/
def wordsOf : List Byte → List (Byte × Word)
  | id :: low :: high :: rest => (id, high ++ low) :: wordsOf rest
  | _ => []

def syncWords (packet : List Byte) : List (Byte × Word) := wordsOf (packet.drop 7)

theorem word_bytes (word : Word) : ((word >>> 8).setWidth 8 ++ word.setWidth 8 : Word) = word := by
  ext i hi
  rw [BitVec.getElem_append]
  split
  · rename_i h
    simp only [BitVec.getElem_setWidth]
    exact BitVec.getLsbD_eq_getElem _
  · rename_i h
    have hhigh : 8 + (i - 8) = i := by omega
    simp only [BitVec.getElem_setWidth, BitVec.getLsbD_ushiftRight, hhigh]
    exact BitVec.getLsbD_eq_getElem _

theorem wordsOf_flatMap (servos : List (Byte × Word)) (last : Byte) :
    wordsOf (servos.flatMap servoFields ++ [last]) = servos := by
  induction servos with
  | nil => rfl
  | cons servo servos ih =>
    simp only [List.flatMap_cons, servoFields, List.cons_append, List.nil_append, wordsOf,
      word_bytes]
    exact congrArg _ ih

/-- **A packet says what it was built from.** -/
theorem syncWords_build {address : Byte} {servos : List (Byte × Word)} {packet : List Byte}
    (h : buildSyncWriteWords address servos = .ok packet) : syncWords packet = servos := by
  unfold buildSyncWriteWords at h
  split_ifs at h
  split at h
  · cases h
  · cases h
    exact wordsOf_flatMap servos _

/-! ## 2. The motor groups -/

/-- `ACTUATOR_MOBILE_FIRST_ID` of a build. -/
structure MobileIds where
  first : Nat
  above : 7 ≤ first
  below : first ≤ 250

namespace MobileIds

/-- The reference builds. -/
def reference : MobileIds := ⟨8, by decide, by decide⟩

variable (ids : MobileIds)

def servo (axis : Axis) : Byte := BitVec.ofNat 8 (ids.first + axis)

def liftId : Byte := ids.servo liftAxis

theorem servo_toNat (axis : Axis) : (ids.servo axis).toNat = ids.first + axis := by
  have h := ids.below
  have haxis := axis.isLt
  rw [servo, BitVec.toNat_ofNat, Nat.mod_eq_of_lt (by omega)]

theorem servo_ne {axis other : Axis} (h : axis ≠ other) : ids.servo axis ≠ ids.servo other := by
  intro heq
  have hnat := congrArg BitVec.toNat heq
  rw [servo_toNat, servo_toNat] at hnat
  exact h (Fin.ext (by omega))

end MobileIds

inductive MotorGroup where
  | leftArm
  | rightArm
  | baseWheels
  | lift

structure MotorGroupSpec where
  operatingMode : Nat
  servos : List Byte

def MotorGroup.spec (ids : MobileIds) : MotorGroup → MotorGroupSpec
  | .leftArm => ⟨0, [1, 2, 3, 4, 5, 6]⟩
  | .rightArm => ⟨0, [1, 2, 3, 4, 5, 6]⟩
  | .baseWheels => ⟨1, [ids.servo 0, ids.servo 1, ids.servo 2]⟩
  | .lift => ⟨1, [ids.liftId]⟩

inductive GroupError where
  | wrongMode
  | invalidCount
  | velocityOutOfRange
  | packet

/-- Sign and magnitude, the sign in the top bit. -/
def velocityWord (velocity : Int) : Word :=
  if velocity < 0 then BitVec.ofInt 16 (-velocity) ||| 0x8000 else BitVec.ofInt 16 velocity

def motorGroupVelocities (ids : MobileIds) (group : MotorGroup) (velocities : List Int) :
    Except GroupError (List Byte) :=
  let spec := group.spec ids
  if spec.operatingMode ≠ 1 then .error .wrongMode
  else if velocities.length ≠ spec.servos.length then .error .invalidCount
  else if velocities.any fun v => v < -32767 || 32767 < v then .error .velocityOutOfRange
  else
    match buildSyncWriteWords velocityAddress (spec.servos.zip (velocities.map velocityWord)) with
    | .error _ => .error .packet
    | .ok packet => .ok packet

/-- The register the positions go to. -/
def positionAddress : Byte := 42

def buildSyncWritePositions (servos : List (Byte × Word)) : Except PacketError (List Byte) :=
  buildSyncWriteWords positionAddress servos

def motorGroupPositions (ids : MobileIds) (group : MotorGroup) (positions : List Word) :
    Except GroupError (List Byte) :=
  let spec := group.spec ids
  if spec.operatingMode ≠ 0 then .error .wrongMode
  else if positions.length ≠ spec.servos.length then .error .invalidCount
  else
    match buildSyncWritePositions (spec.servos.zip positions) with
    | .error _ => .error .packet
    | .ok packet => .ok packet

end MobileBimanual.Mobile
