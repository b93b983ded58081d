/-
# The host control of the firmware

The state of `binary_control.c` in the v2 images, and the operations on it that more than one
command shares: the stop latch, the coordinated stop, and the configuration of the arms.

How the C is read:

* the compile-time switches that decide between code paths are the record `Build`;
* whatever a function learns from outside (the HAL clock, the servo buses, the mobile board, the
  interrupts) is a reading it is given, in a record of replies, so that a statement about all
  replies is a statement about every behaviour of the hardware;
* the buffered and the single-motion paths of the v1 protocol never become active in a v2 image
  and are left out, as is the ASCII console that is left for good on entering binary mode;
* `actions` is no variable of the firmware: it is the log of what the firmware has done.
-/
import MobileBimanual.Firmware.Dispatch
import MobileBimanual.Firmware.Safety
import MobileBimanual.Firmware.Servos
import MobileBimanual.Stream.Executor

namespace MobileBimanual.Firmware

open MobileBimanual.Stream

/-! ## 1. The image and the state -/

/-- The switches of the build, and the tables that depend on them. -/
structure Build where
  executorValidation : Bool
  shadowValidation : Bool
  unwrapShadowValidation : Bool
  dmaDispatch : Bool
  trackingFeedback : Bool
  residentFinite : Bool
  terminalSettle : Bool
  leftOnly : Bool
  taughtPose : Bool
  s1ArmRange : Bool
  f25ValidationOnly : Bool
  s1RangeVerifyOnly : Bool
  disableReadbackRecovery : Bool
  calibrationHash : BitVec 32
  hardCaps : StreamHardCaps
  jointLimits : JointLimits
  gripperToleranceUrad : Nat

def hostBinaryHeartbeatTimeoutMs : Tick := 500
def terminalSettleConsecutivePairs : BitVec 32 := 12
def terminalSettleMaxMs : Tick := 1000
def terminalSettleArmToleranceUrad : Nat := 46020
def singleArmJointCount : Byte := 6

/-- What the firmware did, for the record. -/
inductive HostAction where
  | stopLatched
  | latchCleared
  | armed
  | enabled
  | streamOpened
  | streamStarted
  | goalLaunched
  | torque (write : TorqueWrite)
  deriving DecidableEq

/-- `control_tick.c`: the event waiting for the main loop, and how many more arrived since. -/
structure ControlTick where
  pendingMs : Option Tick
  missedCount : BitVec 32

def controlTickCleared : ControlTick where
  pendingMs := none
  missedCount := 0

/-- `ControlTick_OnInterrupt`: the count saturates. -/
def controlTickOnInterrupt (tick : ControlTick) (nowMs : Tick) : ControlTick :=
  match tick.pendingMs with
  | some _ =>
    if tick.missedCount ≠ BitVec.allOnes 32 then { tick with missedCount := tick.missedCount + 1 }
    else tick
  | none => { tick with pendingMs := some nowMs }

structure HostControl where
  stopLatched : Bool
  heartbeatCount : BitVec 32
  rejectedFrameCount : BitVec 32
  lastHeartbeatMs : Tick
  safety : ActuatorSafety
  servosConfigured : Bool
  rightArmOutputActive : Bool
  armWatchdogGraceStartedMs : Tick
  executorReady : Bool
  executorClockActive : Bool
  executorNextTick : Tick
  coordinatedStopPending : Bool
  executorStartPending : Bool
  shadowAnchorReady : Bool
  shadowExecutorAnchorUrad : Joints
  trackingNextJoint : Byte
  trackingLastDispatchCompleted : BitVec 32
  terminalSettleActive : Bool
  terminalSettleBaselineCompletedPairs : BitVec 32
  terminalSettleStartedMs : Tick
  outputUrad : Joints
  streamExecutor : StreamExecutor
  streamSession : StreamSession
  dispatch : BimanualDispatch
  controlTick : ControlTick
  actions : List HostAction

/-- `BinaryControl_Init`. -/
def binaryControlInit (build : Build) : HostControl where
  stopLatched := false
  heartbeatCount := 0
  rejectedFrameCount := 0
  lastHeartbeatMs := 0
  safety := (safetyCompleteBoot (safetyInit hostBinaryHeartbeatTimeoutMs) true).1
  servosConfigured := false
  rightArmOutputActive := false
  armWatchdogGraceStartedMs := 0
  executorReady :=
    match streamExecutorInit build.hardCaps build.jointLimits with
    | .ok _ => true
    | .error _ => false
  executorClockActive := false
  executorNextTick := 0
  coordinatedStopPending := false
  executorStartPending := false
  shadowAnchorReady := false
  shadowExecutorAnchorUrad := fun _ => 0
  trackingNextJoint := 0
  trackingLastDispatchCompleted := 0
  terminalSettleActive := false
  terminalSettleBaselineCompletedPairs := 0
  terminalSettleStartedMs := 0
  outputUrad := fun _ => 0
  streamExecutor := closedExecutor build.hardCaps build.jointLimits
  streamSession := streamSessionInit
  dispatch := dispatchInit
  controlTick := controlTickCleared
  actions := []

def HostControl.note (host : HostControl) (action : HostAction) : HostControl :=
  { host with actions := host.actions ++ [action] }

def HostControl.noteTorque (host : HostControl) (writes : List TorqueWrite) : HostControl :=
  { host with actions := host.actions ++ writes.map .torque }

/-- The arms the watchdog answers for are powered. -/
def outputsActive (build : Build) (host : HostControl) : Bool :=
  host.rightArmOutputActive || (build.leftOnly && host.servosConfigured)

/-! ## 2. Stopping -/

/-- `BinaryControl_LatchStop`. -/
def latchStop (host : HostControl) : HostControl :=
  { host with stopLatched := true }.note .stopLatched

/-- The `request_hold` that goes with a latched stop. -/
def holdIfAccepting (host : HostControl) : HostControl :=
  if safetyAcceptsSetpoint host.safety then
    { host with safety := (safetyRequestHold host.safety).1 }
  else host

/-- `Host_RequestV2CoordinatedStop`. -/
def requestV2CoordinatedStop (build : Build) (host : HostControl) : HostControl :=
  let host :=
    if build.dmaDispatch then
      { host with
        dispatch := dispatchFail host.dispatch
        coordinatedStopPending := true
        executorStartPending := false }
    else host
  latchStop { host with executorClockActive := false }

structure StopReplies where
  mobileConfigured : Bool := false
  mobileStopConfirmed : Bool := false
  serviceAllowed : Bool := true
  rightBusPresent : Bool := true
  busEvents : BusEvents := {}
  busHeld : Bool := false
  leftTorqueOff : TorqueOffReplies := {}
  rightTorqueOff : TorqueOffReplies := {}

/-- The torque-off sweeps of both arms, with whether both succeeded. -/
def disableTorqueBothArms (build : Build) (replies : StopReplies) : List TorqueWrite × Bool :=
  let left := servoDisableTorqueAll build.disableReadbackRecovery replies.serviceAllowed
    replies.leftTorqueOff
  if build.leftOnly then left
  else
    let right := rightServoDisableTorqueAll replies.rightBusPresent replies.rightTorqueOff
    (left.1 ++ right.1, left.2 && right.2)

/-- The dispatcher and the tracking of `Host_PerformV2CoordinatedStop`. -/
def stopDispatch (build : Build) (dispatchFault : Bool) (replies : StopReplies)
    (host : HostControl) : HostControl :=
  let host :=
    { host with
      dispatch :=
        if dispatchFault then dispatchFail host.dispatch
        else dispatchStop build.leftOnly host.dispatch replies.busEvents replies.busHeld }
  if build.trackingFeedback && build.terminalSettle then
    { host with terminalSettleActive := false, terminalSettleBaselineCompletedPairs := 0 }
  else host

/-- The torque of `Host_PerformV2CoordinatedStop`, with whether it is confirmed off. -/
def stopTorque (build : Build) (replies : StopReplies) (host : HostControl) :
    HostControl × Bool :=
  if replies.mobileConfigured then (host, replies.mobileStopConfirmed)
  else
    let sweep := disableTorqueBothArms build replies
    (host.noteTorque sweep.1, sweep.2)

/-- `Host_PerformV2CoordinatedStop`, with whether the stop is confirmed. -/
def performV2CoordinatedStop (build : Build) (dispatchFault : Bool) (replies : StopReplies)
    (host : HostControl) : HostControl × Bool :=
  let host := stopDispatch build dispatchFault replies host
  let (host, confirmed) := stopTorque build replies host
  let host := latchStop
    { host with
      servosConfigured := false
      rightArmOutputActive := false
      armWatchdogGraceStartedMs := 0
      coordinatedStopPending := false
      executorStartPending := false }
  if confirmed then (host, true)
  else ({ host with safety := safetyReportFault host.safety 0xFF06 }, false)

/-! ## 3. Arming -/

structure ArmReplies where
  mobileStopActive : Bool := false
  taughtPoseMatches : Bool := true
  mobileStopActiveAfterReads : Bool := false
  serviceAllowed : Bool := true
  rightBusPresent : Bool := true
  left : Servo → ConfigureReplies := fun _ => {}
  right : Servo → RightConfigureReplies := fun _ => {}
  rightEnable : Servo → RightTorqueEnableReplies := fun _ => {}
  leftTorqueOff : TorqueOffReplies := {}
  rightTorqueOff : TorqueOffReplies := {}
  armsPrepared : Bool := true
  now : Tick := 0

/-- Both sweeps of a configuration that failed; their results are discarded. -/
def abandonConfiguration (build : Build) (replies : ArmReplies) : List TorqueWrite :=
  (servoDisableTorqueAll build.disableReadbackRecovery replies.serviceAllowed
      replies.leftTorqueOff).1 ++
    if build.leftOnly then []
    else (rightServoDisableTorqueAll replies.rightBusPresent replies.rightTorqueOff).1

def configureRightServo (replies : ArmReplies) (servo : Servo) : List TorqueWrite × Bool :=
  let configured := rightServoConfigureAtPresentPositionOnce replies.rightBusPresent servo
    (replies.right servo)
  (configured.1, configured.2 == .ok)

def energiseRightServo (replies : ArmReplies) (servo : Servo) : List TorqueWrite × Bool :=
  let enabled := rightServoEnableTorqueAtPresentPositionOnce replies.rightBusPresent servo
    (replies.rightEnable servo)
  (enabled.1, enabled.2 == .ok)

/-- The servo sequence of `Host_ConfigureBimanualForTrajectory`: the left arm, then the two
passes over the right one.  A failure anywhere ends in a sweep of both arms. -/
def energiseArms (build : Build) (replies : ArmReplies) : List TorqueWrite × Bool :=
  let left := servoConfigureAllForTrajectory replies.serviceAllowed replies.left
  let configured := rightServoPass (configureRightServo replies) servoJoints
  let enabled := rightServoPass (energiseRightServo replies) servoJoints
  if !left.2 then (left.1 ++ abandonConfiguration build replies, false)
  else if build.leftOnly then (left.1, true)
  else if !configured.2 then
    (left.1 ++ configured.1 ++ abandonConfiguration build replies, false)
  else if !enabled.2 then
    (left.1 ++ configured.1 ++ enabled.1 ++ abandonConfiguration build replies, false)
  else (left.1 ++ configured.1 ++ enabled.1, true)

/-- A stream is open and not over, or its clock runs. -/
def streamLive (host : HostControl) : Bool :=
  host.executorClockActive ||
    host.streamExecutor.diagnostics.state == .priming ||
    host.streamExecutor.diagnostics.state == .running ||
    host.streamExecutor.diagnostics.state == .hold

/-- The refusals of `Host_ConfigureBimanualForTrajectory` in front of the first torque write. -/
def configurationRefused (build : Build) (replies : ArmReplies) (host : HostControl) : Bool :=
  !host.executorReady || streamLive host || replies.mobileStopActive ||
    (build.taughtPose && !replies.taughtPoseMatches) || replies.mobileStopActiveAfterReads

/-- `Host_ConfigureBimanualForTrajectory`. -/
def configureBimanualForTrajectory (build : Build) (replies : ArmReplies) (host : HostControl) :
    HostControl × Bool :=
  if configurationRefused build replies host then (host, false)
  else
    let energised := energiseArms build replies
    let host := host.noteTorque energised.1
    if !energised.2 || !replies.armsPrepared then (host, false)
    else
      ({ host with
          armWatchdogGraceStartedMs := replies.now
          rightArmOutputActive := !build.leftOnly },
        true)

/-- The configuration step of ARM_REQUEST, with the health it reports. -/
def configureForArm (build : Build) (replies : ArmReplies) (host : HostControl) :
    HostControl × Bool :=
  let (host, configured) :=
    if build.dmaDispatch then configureBimanualForTrajectory build replies host
    else
      let left := servoConfigureAllForTrajectory replies.serviceAllowed replies.left
      (host.noteTorque left.1, left.2)
  if configured then ({ host with servosConfigured := true }, true) else (host, false)

/-- The ARM_REQUEST case of `Host_HandleBinaryFrame`, with the result it responds. -/
def armRequest (build : Build) (payload : List Byte) (replies : ArmReplies)
    (host : HostControl) : HostControl × SafetyResult :=
  if payload.length ≠ 4 then (host, .configMismatch)
  else
    let hashMatches := readU32Le payload 0 == build.calibrationHash
    let (host, healthOk) :=
      if hashMatches && !host.servosConfigured then configureForArm build replies host
      else (host, true)
    let (safety, result) := safetyRequestArm host.safety healthOk hashMatches
    let host := { host with safety := safety }
    (if result = .ok then host.note .armed else host, result)

end MobileBimanual.Firmware
