/-
# Torque on the servo buses

The writes that the two bus drivers, `servo_bus.c` for the left arm and `right_servo_bus.c` for
the right, make to a servo's torque register (address 40), with the answers of the bus as
readings.  A write counts when it is attempted: whether the servo acted on it is the bus's
answer.

The left driver configures and energises a servo in one go and rolls its own failures back
(`servoConfigureAllForTrajectory`); the right one configures with the torque off and energises
in a second pass.
-/
import Mathlib.Data.List.FinRange
import MobileBimanual.Lib.Release

namespace MobileBimanual.Firmware

/-! ## 1. Torque writes -/

inductive Arm where
  | left
  | right
  deriving DecidableEq

/-- `servo_joints[0 .. servo_joint_count]`. -/
abbrev Servo := Fin 6

def servoJoints : List Servo := List.finRange 6

structure TorqueWrite where
  arm : Arm
  servo : Servo
  enable : Bool
  deriving DecidableEq

def torqueOn (arm : Arm) (servo : Servo) : TorqueWrite :=
  { arm := arm, servo := servo, enable := true }

def torqueOff (arm : Arm) (servo : Servo) : TorqueWrite :=
  { arm := arm, servo := servo, enable := false }

def Energises (write : TorqueWrite) (arm : Arm) : Prop := write.enable = true ∧ write.arm = arm

def Deenergises (write : TorqueWrite) (arm : Arm) : Prop :=
  write.enable = false ∧ write.arm = arm

/-- Every torque-enable write is followed by a torque-off attempt for the same arm. -/
abbrev TorqueReleased (writes : List TorqueWrite) : Prop :=
  Release.Released Energises Deenergises writes

/-! ## 2. The left driver -/

/-- The answers to one `Servo_ConfigureForTrajectory`: the position read, the six writes in
order, and the readback. -/
structure ConfigureReplies where
  positionRead : Bool := true
  torqueOffWritten : Bool := true
  lockWritten : Bool := true
  modeWritten : Bool := true
  gainsWritten : Bool := true
  runtimeWritten : Bool := true
  torqueOnWritten : Bool := true
  readbackMatches : Bool := true

/-- `Servo_ConfigureForTrajectory`: the first failing write is the last one made. -/
def servoConfigureForTrajectory (serviceAllowed : Bool) (servo : Servo)
    (replies : ConfigureReplies) : List TorqueWrite × Bool :=
  if !serviceAllowed || !replies.positionRead then ([], false)
  else if !replies.torqueOffWritten || !replies.lockWritten || !replies.modeWritten ||
      !replies.gainsWritten || !replies.runtimeWritten then
    ([torqueOff .left servo], false)
  else
    ([torqueOff .left servo, torqueOn .left servo],
      replies.torqueOnWritten && replies.readbackMatches)

/-- The loop of `Servo_ConfigureAllForTrajectory`, with the servos behind it: a failure rolls
back those and the one that failed. -/
def configureServos (serviceAllowed : Bool) (replies : Servo → ConfigureReplies) :
    List Servo → List Servo → List TorqueWrite × Bool
  | _, [] => ([], true)
  | configured, servo :: servos =>
    match servoConfigureForTrajectory serviceAllowed servo (replies servo) with
    | (writes, false) => (writes ++ (configured ++ [servo]).map (torqueOff .left), false)
    | (writes, true) =>
      let rest := configureServos serviceAllowed replies (configured ++ [servo]) servos
      (writes ++ rest.1, rest.2)

def servoConfigureAllForTrajectory (serviceAllowed : Bool) (replies : Servo → ConfigureReplies) :
    List TorqueWrite × Bool :=
  configureServos serviceAllowed replies [] servoJoints

/-- The answers to a torque-off sweep: each servo's write, its readback as zero, and the second
readback where there is one. -/
structure TorqueOffReplies where
  written : Servo → Bool := fun _ => true
  readZero : Servo → Bool := fun _ => true
  rereadZero : Servo → Bool := fun _ => true

/-- `Servo_DisableTorqueAll`.  With readback recovery a servo that does not read back as off is
written and read once more. -/
def servoDisableTorqueAll (readbackRecovery serviceAllowed : Bool) (replies : TorqueOffReplies) :
    List TorqueWrite × Bool :=
  if !serviceAllowed then ([], false)
  else if readbackRecovery then
    (servoJoints.map (torqueOff .left) ++
        (servoJoints.filter fun servo => !replies.readZero servo).map (torqueOff .left),
      servoJoints.all fun servo => replies.readZero servo || replies.rereadZero servo)
  else
    (servoJoints.map (torqueOff .left),
      servoJoints.all fun servo => replies.written servo && replies.readZero servo)

/-! ## 3. The right driver -/

inductive RightServoConfigureStatus where
  | ok
  | invalidRequest
  | readTorqueFailed
  | torqueNotDisabled
  | readPositionFailed
  | writeFailed
  | readbackFailed
  deriving DecidableEq

structure RightConfigureReplies where
  torqueRead : Bool := true
  torqueEnabled : Bool := false
  positionRead : Bool := true
  configurationWritten : Bool := true
  torqueOffWritten : Bool := true
  readbackRead : Bool := true
  readbackMatches : Bool := true

/-- `RightServoBus_ConfigureAtPresentPositionOnce`: the torque is forced off before any verdict
on the configuration. -/
def rightServoConfigureAtPresentPositionOnce (busPresent : Bool) (servo : Servo)
    (replies : RightConfigureReplies) : List TorqueWrite × RightServoConfigureStatus :=
  if !busPresent then ([], .invalidRequest)
  else if !replies.torqueRead then ([], .readTorqueFailed)
  else if replies.torqueEnabled then ([], .torqueNotDisabled)
  else if !replies.positionRead then ([], .readPositionFailed)
  else
    ([torqueOff .right servo],
      if !replies.torqueOffWritten then .writeFailed
      else if !replies.readbackRead then .readbackFailed
      else if !replies.configurationWritten then .writeFailed
      else if !replies.readbackMatches then .readbackFailed
      else .ok)

inductive RightServoTorqueEnableStatus where
  | ok
  | invalidRequest
  | readTorqueFailed
  | alreadyEnabled
  | readPositionFailed
  | positionOutOfRange
  | holdWriteFailed
  | writeFailed
  | readbackFailed
  deriving DecidableEq

structure RightTorqueEnableReplies where
  torqueRead : Bool := true
  torqueEnabled : Bool := false
  positionRead : Bool := true
  positionInRange : Bool := true
  holdWritten : Bool := true
  torqueOnWritten : Bool := true
  readbackOn : Bool := true
  positionReread : Bool := true

/-- `RightServoBus_EnableTorqueAtPresentPositionOnce`. -/
def rightServoEnableTorqueAtPresentPositionOnce (busPresent : Bool) (servo : Servo)
    (replies : RightTorqueEnableReplies) : List TorqueWrite × RightServoTorqueEnableStatus :=
  if !busPresent then ([], .invalidRequest)
  else if !replies.torqueRead then ([], .readTorqueFailed)
  else if replies.torqueEnabled then ([], .alreadyEnabled)
  else if !replies.positionRead then ([], .readPositionFailed)
  else if !replies.positionInRange then ([], .positionOutOfRange)
  else if !replies.holdWritten then ([], .holdWriteFailed)
  else
    ([torqueOn .right servo],
      if !replies.torqueOnWritten then .writeFailed
      else if !replies.readbackOn || !replies.positionReread then .readbackFailed
      else .ok)

/-- `RightServoBus_DisableTorqueAll`. -/
def rightServoDisableTorqueAll (busPresent : Bool) (replies : TorqueOffReplies) :
    List TorqueWrite × Bool :=
  if !busPresent then ([], false)
  else
    (servoJoints.map (torqueOff .right),
      servoJoints.all fun servo => replies.written servo && replies.readZero servo)

/-- One of the two passes over the right arm, up to the first servo that is not done. -/
def rightServoPass (act : Servo → List TorqueWrite × Bool) : List Servo → List TorqueWrite × Bool
  | [] => ([], true)
  | servo :: servos =>
    match act servo with
    | (writes, false) => (writes, false)
    | (writes, true) =>
      let rest := rightServoPass act servos
      (writes ++ rest.1, rest.2)

end MobileBimanual.Firmware
