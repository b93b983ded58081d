/-
# The service loop of the host

`BinaryControl_Service` and what it calls on every pass of the main loop: the watchdogs, the
tracking feedback and the executor, which in the DMA image takes one control tick, steps the
stream and launches one goal packet.  `hostStep` adds the other things that can happen to the
host control; a run of the firmware is a run of it (`Machine.run`).
-/
import MobileBimanual.Firmware.HostFrames
import MobileBimanual.Lib.Machine
import MobileBimanual.Stream.Payload

namespace MobileBimanual.Firmware

open MobileBimanual.Stream

/-! ## 1. Tracking feedback -/

/-- One pair of measured joints; a position that does not convert is `none`. -/
structure TrackingSample where
  jointIndex : Byte
  leftCommandedUrad : Urad
  rightCommandedUrad : Urad
  leftMeasuredUrad : Option Urad
  rightMeasuredUrad : Option Urad

inductive TrackingPoll where
  | none
  | fault
  | sample (sample : TrackingSample)

structure TrackingReplies where
  suspended : Bool := false
  active : Bool := false
  now : Tick := 0
  poll : TrackingPoll := .none
  completedPairs : BitVec 32 := 0
  requestedPairs : BitVec 32 := 0
  pending : Bool := false
  busEvents : BusEvents := {}
  canStart : Bool := false
  started : Bool := true
  settleNow : Tick := 0
  feedbackComplete : Bool := true
  feedbackUrad : Joints := fun _ => 0

/-- `check_joint_feedback` on one arm's joint; `false` when it does not return OK. -/
def checkTrackedJoint (now : Tick) (joint : Byte) (commandedUrad : Urad)
    (measuredUrad : Option Urad) (host : HostControl) : HostControl × Bool :=
  match measuredUrad with
  | none => (host, false)
  | some measuredUrad =>
    let checked :=
      streamExecutorCheckJointFeedback host.streamExecutor now joint commandedUrad measuredUrad
    ({ host with streamExecutor := checked.1 }, checked.2 == .ok)

/-- A joint that has not settled starts the count of the terminal settle anew. -/
def settleSample (build : Build) (replies : TrackingReplies) (sample : TrackingSample)
    (host : HostControl) : HostControl :=
  let tolerance :=
    if sample.jointIndex = singleArmJointCount - 1 then build.gripperToleranceUrad
    else terminalSettleArmToleranceUrad
  let leftError := absoluteDifference (sample.leftMeasuredUrad.getD 0) sample.leftCommandedUrad
  let rightError :=
    absoluteDifference (sample.rightMeasuredUrad.getD 0) sample.rightCommandedUrad
  if build.terminalSettle ∧ host.terminalSettleActive ∧
      (leftError > tolerance ∨ !build.leftOnly ∧ rightError > tolerance) then
    { host with terminalSettleBaselineCompletedPairs := replies.completedPairs }
  else host

/-- The sample of the poll; `false` when it stops the host.  Both conversions come before the
first check. -/
def trackSample (build : Build) (replies : TrackingReplies) (sample : TrackingSample)
    (host : HostControl) : HostControl × Bool :=
  if sample.leftMeasuredUrad.isNone || (!build.leftOnly && sample.rightMeasuredUrad.isNone) then
    (host, false)
  else
    match checkTrackedJoint replies.now sample.jointIndex sample.leftCommandedUrad
        sample.leftMeasuredUrad host with
    | (host, false) => (host, false)
    | (host, true) =>
      if build.leftOnly then (settleSample build replies sample host, true)
      else
        match checkTrackedJoint replies.now (sample.jointIndex + singleArmJointCount)
            sample.rightCommandedUrad sample.rightMeasuredUrad host with
        | (host, false) => (host, false)
        | (host, true) => (settleSample build replies sample host, true)

/-- The terminal settle still wants pairs, or a packet went out since the last read. -/
def trackingWanted (build : Build) (replies : TrackingReplies) (host : HostControl) : Bool :=
  if build.terminalSettle && host.terminalSettleActive then
    decide (replies.completedPairs - host.terminalSettleBaselineCompletedPairs <
      terminalSettleConsecutivePairs)
  else decide (host.dispatch.completedCount > host.trackingLastDispatchCompleted)

/-- The next read is started between two packets. -/
def trackingStarts (build : Build) (replies : TrackingReplies) (host : HostControl) : Bool :=
  replies.canStart && !host.dispatch.active && !host.dispatch.faulted &&
    host.streamExecutor.outputValid && trackingWanted build replies host &&
    (host.streamExecutor.diagnostics.state == .running ||
      host.streamExecutor.diagnostics.state == .succeeded)

/-- The bookkeeping of a started read. -/
def noteTrackingRead (build : Build) (host : HostControl) : HostControl :=
  { host with
    trackingLastDispatchCompleted :=
      if build.terminalSettle && host.terminalSettleActive then host.trackingLastDispatchCompleted
      else host.dispatch.completedCount
    trackingNextJoint := (host.trackingNextJoint + 1) % singleArmJointCount }

/-- The next read, where one is due; `false` when it cannot be started. -/
def startTrackingRead (build : Build) (replies : TrackingReplies) (host : HostControl) :
    HostControl × Bool :=
  if !trackingStarts build replies host then (host, true)
  else if !replies.started then (host, false)
  else (noteTrackingRead build host, true)

/-- All packets out and none under way. -/
def dispatchIdle (host : HostControl) : Bool :=
  !host.dispatch.active && !host.dispatch.faulted &&
    host.dispatch.launchCount == host.dispatch.completedCount

/-- The end of a finite stream in the image with a terminal settle; `false` when it stops the
host. -/
def finishSettle (build : Build) (replies : TrackingReplies) (host : HostControl) :
    HostControl × Bool :=
  if !host.terminalSettleActive then (host, true)
  else if replies.settleNow - host.terminalSettleStartedMs > terminalSettleMaxMs then
    (host, false)
  else if decide (replies.completedPairs - host.terminalSettleBaselineCompletedPairs ≥
      terminalSettleConsecutivePairs) && !replies.pending && dispatchIdle host then
    if !replies.feedbackComplete then (host, false)
    else
      ({ host with
          shadowExecutorAnchorUrad :=
            if build.taughtPose then host.outputUrad else replies.feedbackUrad
          shadowAnchorReady := true
          terminalSettleActive := false },
        true)
  else (host, true)

/-- The end of a finite stream in the image without one. -/
def finishResident (replies : TrackingReplies) (host : HostControl) : HostControl :=
  if !host.executorClockActive && host.streamExecutor.diagnostics.state == .succeeded &&
      !replies.pending && replies.requestedPairs == replies.completedPairs && dispatchIdle host &&
      host.dispatch.completedCount == host.trackingLastDispatchCompleted then
    { host with shadowExecutorAnchorUrad := host.outputUrad, shadowAnchorReady := true }
  else host

/-- The end of a finite stream; only a resident image has one. -/
def finishStream (build : Build) (replies : TrackingReplies) (host : HostControl) :
    HostControl × Bool :=
  if !build.residentFinite then (host, true)
  else if build.terminalSettle then finishSettle build replies host
  else (finishResident replies host, true)

/-- What follows the sample: the next read, and the end of a finite stream. -/
def continueTracking (build : Build) (replies : TrackingReplies) (host : HostControl) :
    HostControl × Bool :=
  let host := { host with dispatch := dispatchPoll build.leftOnly host.dispatch replies.busEvents }
  match startTrackingRead build replies host with
  | (host, false) => (host, false)
  | (host, true) => finishStream build replies host

/-- The polled feedback; `false` when it stops the host. -/
def pollTracking (build : Build) (replies : TrackingReplies) (host : HostControl) :
    HostControl × Bool :=
  match replies.poll with
  | .fault => (host, false)
  | .none => continueTracking build replies host
  | .sample sample =>
    match trackSample build replies sample host with
    | (host, false) => (host, false)
    | (host, true) => continueTracking build replies host

/-- `Host_ServiceV2TrackingFeedback`. -/
def serviceV2TrackingFeedback (build : Build) (replies : TrackingReplies) (host : HostControl) :
    HostControl :=
  if replies.suspended || !replies.active then host
  else match pollTracking build replies host with
  | (host, false) => requestV2CoordinatedStop build host
  | (host, true) => host

/-! ## 2. The executor -/

structure ExecutorReplies where
  now : Tick := 0
  busEvents : BusEvents := {}
  transportIdle : Bool := true
  trackingPending : Bool := false
  taughtPoseAllows : Bool := true
  transitionFailedJoint : Option Byte := none
  mapFailedJoint : Option Byte := none
  launch : LaunchReplies := {}
  completedPairs : BitVec 32 := 0

def noteHostFailedJoint (host : HostControl) (joint : Byte) : HostControl :=
  { host with
    streamExecutor :=
      { host.streamExecutor with
        diagnostics := { host.streamExecutor.diagnostics with trackingErrorJoint := joint } } }

/-- The step went on, or ended where it should. -/
def stepDelivers (executor : StreamExecutor) (result : ExecutorResult) : Bool :=
  result == .outputReady || (result == .terminal && executor.diagnostics.state == .succeeded)

/-- The clock of a stream that has just ended. -/
def endStreamClock (build : Build) (replies : ExecutorReplies) (host : HostControl) :
    HostControl :=
  let host := { host with executorClockActive := false }
  if build.terminalSettle then
    { host with
      terminalSettleActive := true
      terminalSettleBaselineCompletedPairs := replies.completedPairs
      terminalSettleStartedMs := replies.now
      trackingNextJoint := 0 }
  else host

/-- The launch at the end of the tick. -/
def launchOutput (build : Build) (result : ExecutorResult) (replies : ExecutorReplies)
    (host : HostControl) : HostControl :=
  let launched := dispatchLaunch build.leftOnly host.dispatch replies.launch
  let host := { host with dispatch := launched.1 }.note .goalLaunched
  if !launched.2 then requestV2CoordinatedStop build host
  else if result = .terminal then endStreamClock build replies host
  else host

/-- The checks of an output between the step and the launch; the first that fails. -/
def checkOutput (build : Build) (replies : ExecutorReplies) (host : HostControl) :
    HostControl × Bool :=
  if build.taughtPose && !replies.taughtPoseAllows then (host, false)
  else match (if build.s1ArmRange then replies.transitionFailedJoint else none),
      replies.mapFailedJoint with
  | some joint, _ => (noteHostFailedJoint host joint, false)
  | none, some joint => (noteHostFailedJoint host joint, false)
  | none, none => (host, true)

/-- The executor's step on the tick, and the launch of its output. -/
def stepAndLaunch (build : Build) (tickMs : Tick) (replies : ExecutorReplies)
    (host : HostControl) : HostControl :=
  match streamExecutorStep host.streamExecutor tickMs with
  | (executor, result, output) =>
    let host :=
      { host with streamExecutor := executor, outputUrad := output.getD host.outputUrad }
    if !stepDelivers executor result then requestV2CoordinatedStop build host
    else match checkOutput build replies host with
    | (host, false) => requestV2CoordinatedStop build host
    | (host, true) => launchOutput build result replies host

/-- A pending start is made on the first control tick; `false` when it fails. -/
def startOnTick (tickMs : Tick) (host : HostControl) : HostControl × Bool :=
  if !host.executorStartPending then (host, true)
  else match streamExecutorStart host.streamExecutor tickMs host.shadowExecutorAnchorUrad with
  | (executor, .ok) =>
    ({ host with
        streamExecutor := executor
        executorStartPending := false
        shadowAnchorReady := false }.note .streamStarted,
      true)
  | (executor, _) => ({ host with streamExecutor := executor }, false)

/-- A control tick whose predecessors were all taken. -/
def serviceControlTick (build : Build) (tickMs : Tick) (replies : ExecutorReplies)
    (host : HostControl) : HostControl :=
  let host := { host with dispatch := dispatchPoll build.leftOnly host.dispatch replies.busEvents }
  if !dispatchCanLaunch host.dispatch || !replies.transportIdle ||
      (build.trackingFeedback && replies.trackingPending) then
    requestV2CoordinatedStop build host
  else match startOnTick tickMs host with
  | (host, false) => requestV2CoordinatedStop build host
  | (host, true) => stepAndLaunch build tickMs replies host

/-- `Host_V2TickReached`. -/
def v2TickReached (now target : Tick) : Bool := decide (0 ≤ (now - target).toInt)

/-- The catch-up loop of the image without the dispatcher, with the steps it may still take. -/
def catchUp (now : Tick) : Nat → HostControl → HostControl
  | 0, host => host
  | steps + 1, host =>
    if !v2TickReached now host.executorNextTick then host
    else
      let stepped := streamExecutorStep host.streamExecutor host.executorNextTick
      let host :=
        { host with
          streamExecutor := stepped.1
          executorNextTick := host.executorNextTick + controlTickMs }
      if stepped.2.1 ≠ .outputReady then { host with executorClockActive := false }
      else catchUp now steps host

/-- `Host_ServiceV2Executor`. -/
def serviceV2Executor (build : Build) (replies : ExecutorReplies) (host : HostControl) :
    HostControl :=
  if !host.executorClockActive then host
  else if build.dmaDispatch then
    match host.controlTick.pendingMs with
    | none => host
    | some tickMs =>
      let missed := host.controlTick.missedCount
      let host := { host with controlTick := controlTickCleared }
      if missed ≠ 0 then requestV2CoordinatedStop build host
      else serviceControlTick build tickMs replies host
  else catchUp replies.now 8 host

/-! ## 3. The service loop -/

structure ServiceReplies where
  now : Tick := 0
  busEvents : BusEvents := {}
  faultStop : StopReplies := {}
  uartTxFault : Bool := false
  watchdogStop : StopReplies := {}
  latchStop : StopReplies := {}
  tracking : TrackingReplies := {}
  executor : ExecutorReplies := {}

/-- A requested stop, or a fault the dispatcher reports: the poll comes second. -/
def serviceDispatchFault (build : Build) (replies : ServiceReplies) (host : HostControl) :
    HostControl :=
  if !build.dmaDispatch then host
  else if host.coordinatedStopPending then
    (performV2CoordinatedStop build true replies.faultStop host).1
  else
    let host :=
      { host with dispatch := dispatchPoll build.leftOnly host.dispatch replies.busEvents }
    if host.dispatch.faulted then (performV2CoordinatedStop build true replies.faultStop host).1
    else host

/-- `HostUartTx_TakeFault`. -/
def serviceUartFault (replies : ServiceReplies) (host : HostControl) : HostControl :=
  if replies.uartTxFault then holdIfAccepting (latchStop host) else host

/-- No heartbeat within the timeout. -/
def heartbeatOverdue (now : Tick) (host : HostControl) : Bool :=
  decide (now - host.lastHeartbeatMs > hostBinaryHeartbeatTimeoutMs)

def serviceHeartbeatLoss (now : Tick) (host : HostControl) : HostControl :=
  if host.heartbeatCount ≠ 0 ∧ host.safety.state = .active ∧ !host.stopLatched ∧
      heartbeatOverdue now host then
    latchStop host
  else host

/-- The DMA image grants a grace period from the configuration of the arms. -/
def watchdogExpired (build : Build) (now : Tick) (host : HostControl) : Bool :=
  host.heartbeatCount == 0 ||
    ((!build.dmaDispatch ||
        decide (now - host.armWatchdogGraceStartedMs > hostBinaryHeartbeatTimeoutMs)) &&
      heartbeatOverdue now host)

/-- The arm watchdog. -/
def serviceWatchdog (build : Build) (replies : ServiceReplies) (host : HostControl) :
    HostControl :=
  if !outputsActive build host || !watchdogExpired build replies.now host then host
  else
    let host := latchStop host
    if build.dmaDispatch then (performV2CoordinatedStop build true replies.watchdogStop host).1
    else
      let right := rightServoDisableTorqueAll replies.watchdogStop.rightBusPresent
        replies.watchdogStop.rightTorqueOff
      let host := host.noteTorque right.1
      { host with
        safety := if right.2 then host.safety else safetyReportFault host.safety 0xFF03
        rightArmOutputActive := false }

/-- `actuator_safety_tick`, and the latch that goes with HOLD. -/
def serviceSafety (now : Tick) (host : HostControl) : HostControl :=
  let host := { host with safety := safetyTick host.safety now }
  if host.safety.state = .hold then latchStop host else host

/-- A latched stop over powered arms. -/
def serviceLatchedOutputs (build : Build) (replies : ServiceReplies) (host : HostControl) :
    HostControl :=
  if build.dmaDispatch && host.stopLatched && outputsActive build host then
    (performV2CoordinatedStop build true replies.latchStop host).1
  else host

/-- The part of `BinaryControl_Service` that looks after stops. -/
def serviceStops (build : Build) (replies : ServiceReplies) (host : HostControl) : HostControl :=
  serviceLatchedOutputs build replies
    (serviceSafety replies.now
      (serviceWatchdog build replies
        (serviceHeartbeatLoss replies.now
          (serviceUartFault replies (serviceDispatchFault build replies host)))))

/-- `BinaryControl_Service`. -/
def binaryControlService (build : Build) (replies : ServiceReplies) (host : HostControl) :
    HostControl :=
  let host := serviceStops build replies host
  if !build.executorValidation then host
  else
    serviceV2Executor build replies.executor
      (if build.trackingFeedback then serviceV2TrackingFeedback build replies.tracking host
        else host)

/-! ## 4. One event -/

inductive HostEvent where
  | frame (message : HostMessage) (payload : List Byte) (replies : FrameReplies)
  | service (replies : ServiceReplies)
  | controlTick (nowMs : Tick)
  | hostUartError
  | mobileStop

/-- `BinaryControl_HandleHostUartError`. -/
def handleHostUartError (host : HostControl) : HostControl :=
  latchStop (holdIfAccepting (countRejected host))

/-- The next thing that happens: a frame, a pass of the main loop, a control tick, a fault of the
host line, or a stop that the mobile board latches. -/
def hostStep (build : Build) (host : HostControl) : HostEvent → HostControl
  | .frame message payload replies => handleBinaryFrame build message payload replies host
  | .service replies => binaryControlService build replies host
  | .controlTick nowMs => { host with controlTick := controlTickOnInterrupt host.controlTick nowMs }
  | .hostUartError => handleHostUartError host
  | .mobileStop => latchStop host

/-! ## 5. The bench -/

namespace Bench

/-- The two-arm DMA image, without the tracking feedback, on the stream bench. -/
def build : Build where
  executorValidation := true
  shadowValidation := true
  unwrapShadowValidation := true
  dmaDispatch := true
  trackingFeedback := false
  residentFinite := false
  terminalSettle := false
  leftOnly := false
  taughtPose := false
  s1ArmRange := false
  f25ValidationOnly := false
  s1RangeVerifyOnly := false
  disableReadbackRecovery := false
  calibrationHash := 0
  hardCaps := Stream.Bench.hardCaps
  jointLimits := Stream.Bench.jointLimits
  gripperToleranceUrad := 0

/-- A frame on hardware that answers as it should. -/
def frame (message : HostMessage) (payload : List Byte) : HostEvent := .frame message payload {}

/-- The host after a number of events. -/
def after (events : List HostEvent) : HostControl :=
  Machine.run (hostStep build) (binaryControlInit build) events

/-- A heartbeat and the two requests that bring the host to ACTIVE. -/
def activate : List HostEvent :=
  [frame .heartbeat [], frame .armRequest [0, 0, 0, 0], frame .enable []]

end Bench

end MobileBimanual.Firmware
