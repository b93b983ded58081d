/-
# The frames of the host

`Host_HandleBinaryFrame` for the frames that can change the host control: each case of its
switch is a function of the same name, and `handleBinaryFrame` is the switch with the filters in
front of it.  The frames that only get an answer are told apart as far as a filter does.

The payload decides as in the source; what the handler reads from the hardware comes in
`FrameReplies`.
-/
import MobileBimanual.Firmware.HostControl

namespace MobileBimanual.Firmware

open MobileBimanual.Stream

/-! ## 1. Streams -/

/-- `Host_V2ExecutorSessionResult`. -/
def executorSessionResult (session : StreamSession) (statusCode : StreamStatusCode)
    (contractResult : ContractResult) : StreamSessionResult :=
  if session.isOpen then resultFromSession session statusCode contractResult
  else
    { statusCode := statusCode
      contractResult := contractResult
      armMask := 0
      arbiterEpoch := 0
      horizonEndTick := 0
      validatedTailTick := 0
      validatedSampleCount := 0 }

def countRejected (host : HostControl) : HostControl :=
  { host with rejectedFrameCount := host.rejectedFrameCount + 1 }

def rejectStreamOpen (host : HostControl) (contractResult : ContractResult) :
    HostControl × StreamSessionResult :=
  (countRejected host,
    executorSessionResult host.streamExecutor.session .contractRejected contractResult)

/-- The flags that a successful STREAM_OPEN resets. -/
def resetStreamClock (build : Build) (host : HostControl) : HostControl :=
  let host := { host with executorClockActive := false }
  if build.dmaDispatch then
    let host := { host with executorStartPending := false }
    if build.terminalSettle then
      { host with terminalSettleActive := false, terminalSettleBaselineCompletedPairs := 0 }
    else host
  else host

/-- `Host_ValidateV2StreamOpen`. -/
def validateV2StreamOpen (build : Build) (payload : List Byte) (now : Tick)
    (host : HostControl) : HostControl × StreamSessionResult :=
  if build.executorValidation then
    if !host.executorReady then rejectStreamOpen host .nullArgument
    else if build.leftOnly && (payload.length < 3 || payload.getD 2 0 ≠ armMaskLeft) then
      rejectStreamOpen host .invalidArmMask
    else match streamExecutorOpen host.streamExecutor payload now with
    | (executor, .ok) =>
      (resetStreamClock build ({ host with streamExecutor := executor }.note .streamOpened),
        executorSessionResult executor.session .ok .ok)
    | (executor, _) =>
      rejectStreamOpen { host with streamExecutor := executor }
        executor.diagnostics.lastContractResult
  else
    let opened := streamSessionOpen host.streamSession payload build.hardCaps now
    let host := { host with streamSession := opened.1 }
    (if opened.2.statusCode ≠ .validationOnly then countRejected host else host, opened.2)

structure BatchReplies where
  now : Tick := 0
  startTick : Tick := 0
  referencePrepared : Bool := true
  feedbackBegun : Bool := true
  mobileConfigured : Bool := false
  busEvents : BusEvents := {}

/-- The guard of the DMA image: both arms are powered and commanded. -/
def outputsReady (build : Build) (host : HostControl) : Bool :=
  host.servosConfigured && (build.leftOnly || host.rightArmOutputActive) &&
    safetyAcceptsSetpoint host.safety

/-- The executor is PRIMING and its queue long enough to start. -/
def readyToStart (executor : StreamExecutor) : Bool :=
  executor.diagnostics.state == .priming &&
    decide (executor.session.policy.minimumStartSamples.toNat ≤ executor.queue.length)

/-- The DMA image leaves the start to the next control tick. -/
def deferStart (host : HostControl) : HostControl :=
  { host with
    controlTick := controlTickCleared
    executorStartPending := true
    executorClockActive := true }

/-- The counters of the tracking feedback at the start of a stream. -/
def beginTracking (build : Build) (replies : BatchReplies) (host : HostControl) : HostControl :=
  let dispatch := dispatchPoll build.leftOnly host.dispatch replies.busEvents
  let host :=
    { host with
      dispatch := dispatch
      trackingNextJoint := 0
      trackingLastDispatchCompleted := dispatch.completedCount }
  if build.terminalSettle then
    { host with terminalSettleActive := false, terminalSettleBaselineCompletedPairs := 0 }
  else host

/-- The start from an anchor on this very tick; the synthetic anchor of the image without a
shadow is zero, and nothing is consumed. -/
def startStream (build : Build) (replies : BatchReplies) (host : HostControl) :
    HostControl × ExecutorResult :=
  let anchor : Joints := if build.shadowValidation then host.shadowExecutorAnchorUrad else fun _ => 0
  match streamExecutorStart host.streamExecutor replies.startTick anchor with
  | (executor, .ok) =>
    ({ host with
        streamExecutor := executor
        shadowAnchorReady := if build.shadowValidation then false else host.shadowAnchorReady
        executorNextTick := replies.startTick
        executorClockActive := true }.note .streamStarted,
      .ok)
  | (executor, result) => ({ host with streamExecutor := executor }, result)

/-- The part of `Host_ValidateV2Batch` that gets a filled queue going. -/
def primeStream (build : Build) (replies : BatchReplies) (host : HostControl) :
    HostControl × ExecutorResult :=
  if build.shadowValidation && !host.shadowAnchorReady then (host, .invalidAnchor)
  else if build.shadowValidation && build.dmaDispatch then
    if build.trackingFeedback then
      if !replies.referencePrepared || !replies.feedbackBegun then
        (if replies.mobileConfigured then latchStop host else host, .badState)
      else (deferStart (beginTracking build replies host), .ok)
    else (deferStart host, .ok)
  else startStream build replies host

/-- The answer to a batch under the result reached so far. -/
def answerBatch (host : HostControl) (result : ExecutorResult) :
    HostControl × StreamSessionResult :=
  if result = .ok then (host, executorSessionResult host.streamExecutor.session .ok .ok)
  else
    let contractResult := host.streamExecutor.diagnostics.lastContractResult
    (countRejected host,
      executorSessionResult host.streamExecutor.session .contractRejected
        (if contractResult = .ok then .sampleDiscontinuity else contractResult))

/-- What the host makes of a batch after the executor's own verdict: its guard, and the start. -/
def hostBatchResult (build : Build) (replies : BatchReplies) (admitted : ExecutorResult)
    (host : HostControl) : HostControl × ExecutorResult :=
  let result :=
    if admitted = .ok ∧ build.dmaDispatch ∧ !outputsReady build host then .badState else admitted
  if result = .ok ∧ readyToStart host.streamExecutor then primeStream build replies host
  else (host, result)

/-- `Host_ValidateV2Batch`. -/
def validateV2Batch (build : Build) (payload : List Byte) (kind : BatchKind)
    (replies : BatchReplies) (host : HostControl) : HostControl × StreamSessionResult :=
  if build.executorValidation then
    let admission := streamExecutorAdmit host.streamExecutor payload kind replies.now
    let taken := hostBatchResult build replies admission.2
      { host with streamExecutor := admission.1 }
    answerBatch taken.1 taken.2
  else
    let batch := streamSessionBatch host.streamSession payload kind replies.now
    let host := { host with streamSession := batch.1 }
    (if batch.2.statusCode ≠ .validationOnly then countRejected host else host, batch.2)

/-! ## 2. The shadow anchor -/

structure ShadowReplies where
  serviceAllowed : Bool := true
  rightBusPresent : Bool := true
  leftTorqueOff : TorqueOffReplies := {}
  rightTorqueOff : TorqueOffReplies := {}
  leftPositionsRead : Bool := true
  rightDiscovered : Bool := true
  anchorUrad : Joints := fun _ => 0
  anchorConverted : Bool := true

/-- The request binds the anchor anew: always without the unwrapping, else with a reference or,
in the DMA image, without one. -/
def bindsAnchor (build : Build) (payload : List Byte) : Bool :=
  !build.unwrapShadowValidation || payload.length == 52 ||
    (payload.length == 0 && build.dmaDispatch)

/-- The 52-byte reference of a binding request: a reserved word and a window. -/
def badReference (payload : List Byte) : Bool :=
  readU16Le payload 2 != 0 || readU16Le payload 0 == 0 || !decide ((readU16Le payload 0).toNat < 2048)

/-- The request is unusable as it stands: `status` 7. -/
def shadowRequestInvalid (build : Build) (payload : List Byte) (host : HostControl) : Bool :=
  build.unwrapShadowValidation &&
    (if payload.length == 52 then badReference payload
      else !build.dmaDispatch && !host.shadowAnchorReady)

/-- The anchor that a binding request forgets. -/
def clearAnchor (build : Build) (payload : List Byte) (host : HostControl) : HostControl :=
  if bindsAnchor build payload then
    { host with shadowAnchorReady := false, shadowExecutorAnchorUrad := fun _ => 0 }
  else host

/-- The `status` of the snapshot in front of the conversion of the positions: the first of the
checks that fails. -/
def shadowStatus (build : Build) (invalid streaming leftOff rightOff : Bool)
    (replies : ShadowReplies) : Byte :=
  if invalid then 7
  else if streaming then 1
  else if !leftOff then 2
  else if !rightOff then 3
  else if !replies.leftPositionsRead then 4
  else if !build.leftOnly && !replies.rightDiscovered then 5
  else 0

/-- A snapshot that could not be taken stops the host. -/
def refuseShadow (status : Byte) (host : HostControl) : HostControl × Byte :=
  let host := latchStop host
  ({ host with safety := safetyReportFault host.safety 0xFF05 }, status)

/-- `Host_SendV2ShadowSnapshot`, with the status it sends.  The left torque is taken off only
from a usable request without a stream, the right torque from every request. -/
def sendV2ShadowSnapshot (build : Build) (payload : List Byte) (replies : ShadowReplies)
    (host : HostControl) : HostControl × Byte :=
  let host := clearAnchor build payload host
  let invalid := shadowRequestInvalid build payload host
  let streaming :=
    host.streamExecutor.diagnostics.state == .running || host.executorClockActive
  let left :=
    if invalid || streaming then ([], true)
    else servoDisableTorqueAll build.disableReadbackRecovery replies.serviceAllowed
      replies.leftTorqueOff
  let right :=
    if build.leftOnly then ([], true)
    else rightServoDisableTorqueAll replies.rightBusPresent replies.rightTorqueOff
  let host :=
    { host with servosConfigured := false, rightArmOutputActive := false }.noteTorque
      (left.1 ++ right.1)
  let status := shadowStatus build invalid streaming left.2 right.2 replies
  if status ≠ 0 then refuseShadow status host
  else
    let host := { host with shadowExecutorAnchorUrad := replies.anchorUrad }
    if replies.anchorConverted then ({ host with shadowAnchorReady := true }, 0)
    else refuseShadow (if build.unwrapShadowValidation then 8 else 6) host

/-! ## 3. Safety commands -/

def heartbeat (receivedAtMs : Tick) (host : HostControl) : HostControl :=
  { host with
    lastHeartbeatMs := receivedAtMs
    heartbeatCount := host.heartbeatCount + 1
    safety := safetyOnHeartbeat host.safety receivedAtMs }

def enableRequest (now : Tick) (host : HostControl) : HostControl :=
  let (safety, result) := safetyRequestEnable host.safety now
  let host := { host with safety := safety }
  if result = .ok then host.note .enabled else host

/-- SAFE_STOP.  Without the DMA dispatcher only the right arm is switched off here. -/
def safeStop (build : Build) (replies : StopReplies) (host : HostControl) : HostControl :=
  let host := latchStop (holdIfAccepting host)
  if build.dmaDispatch then (performV2CoordinatedStop build false replies host).1
  else if !host.rightArmOutputActive then { host with rightArmOutputActive := false }
  else
    let right := rightServoDisableTorqueAll replies.rightBusPresent replies.rightTorqueOff
    let host := host.noteTorque right.1
    if right.2 then { host with rightArmOutputActive := false }
    else { host with safety := safetyReportFault host.safety 0xFF03 }

/-- The safety request of CLEAR_FAULT that fits the state. -/
def clearSafety (safety : ActuatorSafety) : ActuatorSafety × SafetyResult :=
  if safety.state = .fault ∨ safety.state = .estopped then safetyClearLatchedStop safety true
  else if safety.state ≠ .safeDisabled then safetyRequestDisable safety
  else (safety, .ok)

/-- CLEAR_FAULT; `stopIsSafe` is the verdict of `Host_BinaryClearStopIsSafe`. -/
def clearFault (stopIsSafe : Bool) (host : HostControl) : HostControl :=
  if !host.stopLatched || !stopIsSafe then host
  else match clearSafety host.safety with
  | (safety, .ok) => { host with safety := safety, stopLatched := false }.note .latchCleared
  | (safety, _) => { host with safety := safety }

def holdRequest (host : HostControl) : HostControl :=
  if safetyAcceptsSetpoint host.safety then latchStop (holdIfAccepting host) else host

/-- The left arm's part of DISABLE. -/
def disableLeft (build : Build) (replies : StopReplies) (host : HostControl) : HostControl :=
  let left := servoDisableTorqueAll build.disableReadbackRecovery replies.serviceAllowed
    replies.leftTorqueOff
  let host := { host with servosConfigured := false }.noteTorque left.1
  if left.2 then host
  else
    let host := latchStop host
    { host with safety := safetyReportFault host.safety 0xFF02 }

/-- The right arm's part of DISABLE. -/
def disableRight (replies : StopReplies) (host : HostControl) : HostControl :=
  if !host.rightArmOutputActive then { host with rightArmOutputActive := false }
  else
    let right := rightServoDisableTorqueAll replies.rightBusPresent replies.rightTorqueOff
    let host := host.noteTorque right.1
    if right.2 then { host with rightArmOutputActive := false }
    else
      let host := latchStop host
      { host with safety := safetyReportFault host.safety 0xFF03 }

/-- The safety state that DISABLE leaves: a latched fault is kept. -/
def disableSafety (safety : ActuatorSafety) : ActuatorSafety :=
  if safety.state ≠ .fault ∧ safety.state ≠ .estopped then (safetyRequestDisable safety).1
  else safety

def disableRequest (build : Build) (replies : StopReplies) (host : HostControl) : HostControl :=
  if replies.mobileConfigured then latchStop host
  else
    disableRight replies
      (disableLeft build replies { host with safety := disableSafety host.safety })

/-! ## 4. The right arm's own commands -/

structure RightArmReplies where
  now : Tick := 0
  jogMoved : Bool := true
  busPresent : Bool := true
  configure : RightConfigureReplies := {}
  torqueEnable : RightTorqueEnableReplies := {}
  disableVerified : Bool := true

/-- `Host_RightArmOneShotPermitted`. -/
def rightArmOneShotPermitted (now : Tick) (host : HostControl) : Bool :=
  host.safety.state == .safeDisabled && !host.stopLatched && host.heartbeatCount != 0 &&
    decide (now - host.lastHeartbeatMs ≤ hostBinaryHeartbeatTimeoutMs)

/-- The servo of a one-byte id, if it is one of the arm's. -/
def servoOfId (id : Byte) : Option Servo :=
  if h : 0 < id.toNat ∧ id.toNat ≤ 6 then some ⟨id.toNat - 1, by omega⟩ else none

/-- `Host_SendRightArmJogOnce`: a jog that moved the arm found its torque on. -/
def rightArmJogOnce (replies : RightArmReplies) (host : HostControl) : HostControl :=
  if rightArmOneShotPermitted replies.now host && replies.jogMoved then
    { host with rightArmOutputActive := true }
  else host

/-- `Host_SendRightArmTorqueEnableOnce`. -/
def rightArmTorqueEnableOnce (servoId : Byte) (replies : RightArmReplies) (host : HostControl) :
    HostControl :=
  match rightArmOneShotPermitted replies.now host, servoOfId servoId with
  | true, some servo =>
    let enabled := rightServoEnableTorqueAtPresentPositionOnce replies.busPresent servo
      replies.torqueEnable
    let host := host.noteTorque enabled.1
    if enabled.2 = .ok ∨ enabled.2 = .alreadyEnabled then
      { host with rightArmOutputActive := true }
    else host
  | _, _ => host

/-- `Host_SendRightArmConfigureOnce`: the arm counts as powered from the attempt on. -/
def rightArmConfigureOnce (servoId : Byte) (replies : RightArmReplies) (host : HostControl) :
    HostControl :=
  match rightArmOneShotPermitted replies.now host, servoOfId servoId with
  | true, some servo =>
    { host with rightArmOutputActive := true }.noteTorque
      (rightServoConfigureAtPresentPositionOnce replies.busPresent servo replies.configure).1
  | _, _ => host

/-- `Host_SendRightArmDisableVerified`. -/
def rightArmDisableVerified (replies : RightArmReplies) (host : HostControl) : HostControl :=
  let host :=
    if replies.busPresent then host.noteTorque (servoJoints.map (torqueOff .right)) else host
  if replies.busPresent && replies.disableVerified then
    { host with rightArmOutputActive := false }
  else
    let host := latchStop host
    { host with safety := safetyReportFault host.safety 0xFF04 }

/-! ## 5. The switch -/

inductive HostMessage where
  | query
  | rightArmReport
  | mobileRequest
  | unknown
  | heartbeat
  | streamOpen
  | setpointBatch
  | splice
  | prepareShadow
  | armRequest
  | enable
  | safeStop
  | clearFault
  | hold
  | disable
  | rightArmJogOnce
  | rightArmTorqueEnableOnce
  | rightArmConfigureOnce
  | rightArmDisable
  deriving DecidableEq

/-- The one-shot commands of the right arm. -/
def HostMessage.isRightArmOneShot : HostMessage → Bool
  | .rightArmJogOnce | .rightArmTorqueEnableOnce | .rightArmConfigureOnce => true
  | _ => false

/-- What the left-only image has no hardware for. -/
def HostMessage.isBeyondLeftArm : HostMessage → Bool
  | .rightArmReport | .mobileRequest | .rightArmDisable => true
  | message => message.isRightArmOneShot

/-- The messages that the image of a taught pose lets through. -/
def HostMessage.isTaughtPose : HostMessage → Bool
  | .query | .heartbeat | .armRequest | .enable | .safeStop | .setpointBatch | .streamOpen
  | .prepareShadow => true
  | _ => false

/-- The filters in front of the switch. -/
def frameFiltered (build : Build) (message : HostMessage) : Bool :=
  (build.f25ValidationOnly &&
      (message == .armRequest || message == .enable || message.isRightArmOneShot)) ||
    (build.s1RangeVerifyOnly && !(message == .query || message == .heartbeat)) ||
    (build.leftOnly && message.isBeyondLeftArm) ||
    (build.taughtPose && !message.isTaughtPose)

structure FrameReplies where
  receivedAtMs : Tick := 0
  now : Tick := 0
  stopIsSafe : Bool := true
  arm : ArmReplies := {}
  batch : BatchReplies := {}
  shadow : ShadowReplies := {}
  stop : StopReplies := {}
  rightArm : RightArmReplies := {}

/-- PREPARE_SHADOW exists in the shadow images, with a reference only where it is unwrapped. -/
def prepareShadow (build : Build) (payload : List Byte) (replies : ShadowReplies)
    (host : HostControl) : HostControl :=
  if build.executorValidation && build.shadowValidation &&
      (payload.length == 0 || (build.unwrapShadowValidation && payload.length == 52)) then
    (sendV2ShadowSnapshot build payload replies host).1
  else host

/-- `Host_HandleBinaryFrame`. -/
def handleBinaryFrame (build : Build) (message : HostMessage) (payload : List Byte)
    (replies : FrameReplies) (host : HostControl) : HostControl :=
  if frameFiltered build message then countRejected host
  else match message with
  | .query | .rightArmReport | .mobileRequest | .unknown => host
  | .heartbeat => if payload = [] then heartbeat replies.receivedAtMs host else host
  | .streamOpen => (validateV2StreamOpen build payload replies.now host).1
  | .setpointBatch => (validateV2Batch build payload .append replies.batch host).1
  | .splice => (validateV2Batch build payload .splice replies.batch host).1
  | .prepareShadow => prepareShadow build payload replies.shadow host
  | .armRequest => (armRequest build payload replies.arm host).1
  | .enable => if payload = [] then enableRequest replies.now host else host
  | .safeStop => if payload = [] then safeStop build replies.stop host else host
  | .clearFault => clearFault replies.stopIsSafe host
  | .hold => if payload = [] then holdRequest host else host
  | .disable => if payload = [] then disableRequest build replies.stop host else host
  | .rightArmJogOnce =>
    if payload.length = 2 then rightArmJogOnce replies.rightArm host else host
  | .rightArmTorqueEnableOnce =>
    if payload.length = 1 then
      rightArmTorqueEnableOnce (payload.getD 0 0) replies.rightArm host
    else host
  | .rightArmConfigureOnce =>
    if payload.length = 1 then rightArmConfigureOnce (payload.getD 0 0) replies.rightArm host
    else host
  | .rightArmDisable =>
    if payload = [] then rightArmDisableVerified replies.rightArm host else host

end MobileBimanual.Firmware
