/-
# The buffered execution of the host

The part of `binary_control.c` that drives the executor of a v1 trajectory: the frame that fills
and starts it (`executeBufferedCandidate`), the service that steps it once a millisecond tick and
writes its output to the servos (`serviceBufferedExecution`), and the two ways out
(`finalizeBufferedExecution`, `abortBufferedExecution`).

What the servo bus answers is an argument of the service, and what the host does outside the
record is a list of effects.  The metrics that are reset by a BEGIN and the part of the status
frame that is not about the executor are left out.
-/
import MobileBimanual.Buffered.CommandRoute
import MobileBimanual.Firmware.Safety
import MobileBimanual.Servo.GoalMap
import MobileBimanual.Transport.Gate

namespace MobileBimanual.Buffered

open MobileBimanual.Stream (Byte Tick Urad)
open MobileBimanual.Servo (Raw JointCalibration)
open MobileBimanual.Transport (HalStatus)
open MobileBimanual.Firmware (ActuatorSafety safetyAcceptsSetpoint safetyRequestHold)

/-! ## 1. The data -/

def executionMinimumLeadMs : Tick := 60
def executionMaximumLeadMs : Tick := 400
def executionMinimumStartSamples : Nat := 16
def executionAnchorOffsetMs : Tick := 20
def executionOutputPeriodMs : Tick := 5
def executionMaximumApplyLatenessMs : Tick := 5
def bufferedStatusTerminal : Byte := 6
def servoJointCount : Byte := 6

/-- The fields of the joint table that the execution reads. -/
structure ServoJointConfig where
  id : Byte
  homePosition : Raw
  minPosition : Raw
  maxPosition : Raw
  testDirection : BitVec 8

abbrev ServoJoints := Joint → ServoJointConfig

def jointCalibration (servoJoints : ServoJoints) (joint : Joint) : JointCalibration where
  zeroRaw := (servoJoints joint).homePosition
  minimumRaw := (servoJoints joint).minPosition
  maximumRaw := (servoJoints joint).maxPosition
  positiveRawDirection := (servoJoints joint).testDirection

structure BufferedMotion where
  active : Bool
  lastStepValid : Bool
  nextTelemetryJoint : Byte
  requestSequence : BitVec 32
  anchorTick : Tick
  lastStepTick : Tick
  anchorPositionsUrad : Joints

/-- What `memset(.., 0, ..)` leaves. -/
def BufferedMotion.zero : BufferedMotion where
  active := false
  lastStepValid := false
  nextTelemetryJoint := 0
  requestSequence := 0
  anchorTick := 0
  lastStepTick := 0
  anchorPositionsUrad := fun _ => 0

structure ExecutionHost where
  motion : BufferedMotion
  route : CommandRoute
  routeReady : Bool
  stopLatched : Bool
  safety : ActuatorSafety
  servosConfigured : Bool
  binaryMotionActive : Bool

inductive HostEffect where
  | syncWrite (positionsRaw : Joint → Raw)
  | telemetryBegin
  | telemetryStart (joint : Byte)
  | telemetryEnd
  | motionSafetyEnd
  | latchStop
  | status (sequence : BitVec 32) (statusCode sampleCount : Byte) (applyTick : Tick)
    (detail : Byte) (diagnostics : BufferedDiagnostics)

/-- A record and what was done on the way to it. -/
abbrev Served := ExecutionHost × List HostEffect

def Served.after (served : Served) (effects : List HostEffect) : Served :=
  (served.1, effects ++ served.2)

/-! ## 2. The route -/

/-- The limits of a joint are those of its raw positions, the smaller one first. -/
def routeLimit (calibration : JointCalibration) (minPosition maxPosition : Raw) :
    Option JointLimit :=
  match calibration.rawToUrad minPosition, calibration.rawToUrad maxPosition with
  | .ok firstLimit, .ok secondLimit =>
    if firstLimit.sle secondLimit then some ⟨firstLimit, secondLimit⟩
    else some ⟨secondLimit, firstLimit⟩
  | _, _ => none

def routeLimits (servoJoints : ServoJoints) : Option JointLimits :=
  let limit := fun joint =>
    routeLimit (jointCalibration servoJoints joint) (servoJoints joint).minPosition
      (servoJoints joint).maxPosition
  if ∀ joint, (limit joint).isSome then some fun joint => (limit joint).getD ⟨0, 0⟩ else none

def initBufferedExecutionRoute (servoJoints : ServoJoints) : Option CommandRoute :=
  match routeLimits servoJoints with
  | none => none
  | some limits =>
    (CommandRoute.init executionMinimumStartSamples executionMaximumApplyLatenessMs limits).toOption

/-! ## 3. The calls -/

/-- The ticks read and what the servo bus answers. -/
structure ServiceInputs where
  now : Tick
  abortTick : Tick
  telemetryPoll : HalStatus
  telemetryPending : Bool
  syncWrite : HalStatus
  telemetryStart : HalStatus

/-- The codes of the source are the places in its enumerations. -/
def stateCode (safety : ActuatorSafety) : Byte := BitVec.ofNat 8 safety.state.ctorIdx
def reasonCode (reason : BufferedReason) : Byte := BitVec.ofNat 8 reason.ctorIdx
def resultCode (result : BufferedResult) : Byte := BitVec.ofNat 8 result.ctorIdx

def latenessCode (maximumLateness : Tick) : Byte :=
  if 255 < maximumLateness then 255 else maximumLateness.setWidth 8

structure SetpointRequest where
  sequence : BitVec 32
  flags : BitVec 16
  payload : List Byte

def SetpointRequest.has (request : SetpointRequest) (flag : BitVec 16) : Bool :=
  request.flags &&& flag != 0

def commandResultCode : CommandResult → Byte
  | .ok => 0
  | .invalidLength => 2
  | .invalidFlags => 3
  | .invalidArmMask => 4
  | .invalidReserved => 5
  | .nonMonotonicTick => 6
  | .unsupportedRightSlot => 7
  | .badState => 8
  | .queueRejected => 9

/-- The header as far as there is one. -/
def SetpointRequest.firstApplyTick (request : SetpointRequest) : Tick :=
  if bufferedWireHeaderSize ≤ request.payload.length then Stream.readU32Le request.payload 0 else 0

def SetpointRequest.sampleCount (request : SetpointRequest) : Byte :=
  if bufferedWireHeaderSize ≤ request.payload.length then request.payload.getD 4 0 else 0

def SetpointRequest.reply (request : SetpointRequest) (statusCode : Byte) (result : CommandResult)
    (diagnostics : BufferedDiagnostics) : HostEffect :=
  .status request.sequence statusCode request.sampleCount request.firstApplyTick
    (commandResultCode result) diagnostics

/-! ## 4. The end of an execution -/

namespace ExecutionHost

variable (servoJoints : ServoJoints) (host : ExecutionHost)

def executor : BufferedExecutor := host.route.executor

def withRoute (route : CommandRoute) : ExecutionHost := { host with route := route }

def latch : ExecutionHost := { host with stopLatched := true }

def resetBufferedExecution : ExecutionHost :=
  { host with
    motion := .zero
    route := (initBufferedExecutionRoute servoJoints).getD host.route
    routeReady := (initBufferedExecutionRoute servoJoints).isSome }

/-- A latched stop is a hold too, as long as the arms may be commanded. -/
def holdSafely : ExecutionHost :=
  let host := host.latch
  if safetyAcceptsSetpoint host.safety then
    { host with safety := (safetyRequestHold host.safety).1 }
  else host

def finalizeBufferedExecution (detail : Byte) : Served :=
  let diagnostics := host.executor.diagnostics
  let applyTick :=
    if diagnostics.lastAppliedTick ≠ 0 then diagnostics.lastAppliedTick else diagnostics.terminalTick
  let stopped := if diagnostics.safeStopRequired then host.holdSafely else host
  (stopped.resetBufferedExecution servoJoints,
    (if diagnostics.safeStopRequired then [.latchStop] else []) ++
      [.motionSafetyEnd,
        .status host.motion.requestSequence bufferedStatusTerminal 0 applyTick detail diagnostics,
        .telemetryEnd])

/-- The call of the route that a reason stands for. -/
def endRoute (reason : BufferedReason) (now : Tick) : CommandRoute × BufferedResult :=
  match reason with
  | .plannedHold => host.route.plannedHold now
  | .operatorCancel => host.route.cancel now
  | .connectionLoss => host.route.connectionLoss now
  | _ => host.route.trackingError now

/-- `now` is read here again, after what led to the abort. -/
def abortBufferedExecution (now : Tick) (reason : BufferedReason) (detail : Byte) : Served :=
  if !host.motion.active then (host, [])
  else
    let (route, result) := host.endRoute reason now
    if result = .terminal then
      (host.withRoute route).finalizeBufferedExecution servoJoints detail
    else
      ((host.withRoute route).latch.resetBufferedExecution servoJoints,
        [.latchStop, .motionSafetyEnd])

/-! ## 5. The service -/

/-- The raw positions of an output, or the first joint that has none. -/
def outputPositionsRaw (positionsUrad : Joints) : Except Joint (Joint → Raw) :=
  let raw := fun joint => (jointCalibration servoJoints joint).uradToRaw (positionsUrad joint)
  match (List.finRange 6).find? fun joint => !(raw joint).toBool with
  | some joint => .error joint
  | none => .ok fun joint => (raw joint).toOption.getD 0

def succeeded : Bool := host.executor.diagnostics.state == .succeeded

/-- An output is written in the slots of the anchor's grid, and the last one always. -/
def writeDue (now : Tick) : Bool :=
  (now - host.motion.anchorTick) % executionOutputPeriodMs == 0 || host.succeeded

/-- The end of a service call that has an output. -/
def concludeOutput : Served :=
  if host.succeeded then
    host.finalizeBufferedExecution servoJoints
      (latenessCode host.executor.diagnostics.maximumApplyLatenessTicks)
  else (host, [])

def turnTelemetry : ExecutionHost :=
  { host with
    motion :=
      { host.motion with
        nextTelemetryJoint := (host.motion.nextTelemetryJoint + 1) % servoJointCount } }

/-- The output is written, and a query of one joint goes out behind it. -/
def writeOutput (inputs : ServiceInputs) (positionsRaw : Joint → Raw) : Served :=
  if inputs.syncWrite ≠ .ok then
    (host.abortBufferedExecution servoJoints inputs.abortTick .trackingError 0).after
      [.syncWrite positionsRaw]
  else if host.succeeded then
    (host.concludeOutput servoJoints).after [.syncWrite positionsRaw]
  else if inputs.telemetryStart ≠ .ok then
    (host.abortBufferedExecution servoJoints inputs.abortTick .trackingError 0).after
      [.syncWrite positionsRaw, .telemetryStart host.motion.nextTelemetryJoint]
  else
    (host.turnTelemetry.concludeOutput servoJoints).after
      [.syncWrite positionsRaw, .telemetryStart host.motion.nextTelemetryJoint]

/-- The executor has an output. -/
def serviceOutput (inputs : ServiceInputs) (positionsUrad : Joints) : Served :=
  match outputPositionsRaw servoJoints positionsUrad with
  | .error joint =>
    host.abortBufferedExecution servoJoints inputs.abortTick .trackingError (servoJoints joint).id
  | .ok positionsRaw =>
    if inputs.telemetryPoll = .error ∨ inputs.telemetryPoll = .timeout then
      host.abortBufferedExecution servoJoints inputs.abortTick .trackingError 0
    else if host.writeDue inputs.now && inputs.telemetryPending then
      host.abortBufferedExecution servoJoints inputs.abortTick .trackingError 0
    else if host.writeDue inputs.now then host.writeOutput servoJoints inputs positionsRaw
    else host.concludeOutput servoJoints

def stepped (now : Tick) : ExecutionHost :=
  { host with
    motion := { host.motion with lastStepTick := now, lastStepValid := true }
    route := (host.route.step now).1 }

def serviceStep (inputs : ServiceInputs) : Served :=
  let host' := host.stepped inputs.now
  match (host.route.step inputs.now).2 with
  | (.output, positionsUrad) =>
    host'.serviceOutput servoJoints inputs (positionsUrad.getD fun _ => 0)
  | (.terminal, _) =>
    host'.finalizeBufferedExecution servoJoints (reasonCode host'.executor.diagnostics.reason)
  | (.waiting, _) => (host', [])
  | (result, _) =>
    host'.abortBufferedExecution servoJoints inputs.abortTick .trackingError (resultCode result)

/-- `(int32_t)(now - anchor_tick) < 0`. -/
def beforeAnchor (now : Tick) : Bool := decide ((now - host.motion.anchorTick).toInt < 0)

def serviceBufferedExecution (inputs : ServiceInputs) : Served :=
  if !host.motion.active then (host, [])
  else if host.stopLatched || !safetyAcceptsSetpoint host.safety then
    host.abortBufferedExecution servoJoints inputs.abortTick .connectionLoss (stateCode host.safety)
  else if !host.route.started then
    -- a lost START must not leave the trajectory waiting
    if host.beforeAnchor inputs.now then (host, [])
    else
      host.abortBufferedExecution servoJoints inputs.abortTick .trackingError
        (reasonCode .missedApplyTick)
  else if host.beforeAnchor inputs.now then (host, [])
  else if host.motion.lastStepValid && host.motion.lastStepTick == inputs.now then (host, [])
  else host.serviceStep servoJoints inputs

/-! ## 6. The frames -/

/-- The host may not take a frame now. -/
def outOfPlace (begin_ : Bool) : Bool :=
  !safetyAcceptsSetpoint host.safety || host.stopLatched || !host.servosConfigured ||
    host.binaryMotionActive || (begin_ && host.motion.active) || (!begin_ && !host.motion.active)

/-- A BEGIN says where the execution starts. -/
def beginAt (sequence : BitVec 32) (first : Setpoint) : ExecutionHost :=
  { host with
    motion :=
      { host.motion with
        requestSequence := sequence
        anchorTick := first.applyTick - executionAnchorOffsetMs
        anchorPositionsUrad := first.positionUrad } }

/-- The samples are in: the execution is active, and a START starts it. -/
def startAdmitted (request : SetpointRequest) (now : Tick) : Served :=
  let host :=
    { host with
      motion := { host.motion with active := host.motion.active || request.has flagBegin } }
  let accepted := fun (host : ExecutionHost) => request.reply 0 .ok host.executor.diagnostics
  if request.has flagStart then
    match host.route.start host.motion.anchorTick host.motion.anchorPositionsUrad with
    | (route, .ok) =>
      (host.withRoute route, [.telemetryBegin, accepted (host.withRoute route)])
    | (route, _) =>
      let host := ((host.withRoute route).withRoute (route.trackingError now).1).latch
      (host.resetBufferedExecution servoJoints,
        [.latchStop, request.reply 2 .badState host.executor.diagnostics, .motionSafetyEnd])
  else (host, [accepted host])

def executeBufferedCandidate (request : SetpointRequest) (now : Tick) : Served :=
  let refused := fun (statusCode : Byte) (result : CommandResult) (host : ExecutionHost) =>
    (host, [request.reply statusCode result host.executor.diagnostics])
  if request.has flagValidationOnly then refused 1 .invalidFlags host
  else if !host.routeReady then refused 7 .badState host
  else if host.outOfPlace (request.has flagBegin) then refused 2 .badState host
  else match bufferedCommandDecode request.payload request.flags with
  | .error result => refused 1 result host
  | .ok command =>
    let host :=
      if request.has flagBegin then
        host.beginAt request.sequence (command.samples.headD Setpoint.zero)
      else host
    match host.route.admitCommand command
        ⟨request.sequence, now, executionMinimumLeadMs, executionMaximumLeadMs⟩ with
    | (route, .ok) => (host.withRoute route).startAdmitted servoJoints request now
    | (route, result) => refused 1 result (host.withRoute route)

end ExecutionHost

end MobileBimanual.Buffered
