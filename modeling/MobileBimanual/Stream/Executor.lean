/-
# The v2 stream executor

`stream_executor_v2.c` in full: the state machine that turns a session's queue into one output
for every 5 ms control tick.

* `streamExecutorOpen` makes the executor PRIMING, `streamExecutorAdmit` fills the queue while it
  is PRIMING or RUNNING, `streamExecutorStart` anchors it and makes it RUNNING;
* `streamExecutorStep` either applies the first sample, whose position becomes the anchor, or
  interpolates from the anchor towards it, both on the control grid laid down by the start
  (`firstControlTickAtOrAfter`);
* `terminate` writes a terminal state and its reason.

An output buffer is written on some paths of the C `step` and left alone on others; here the
step returns `some` output exactly on the paths that write it.  The record of diagnostics is
kept whole, since the guards read it.
-/
import MobileBimanual.Stream.Session

namespace MobileBimanual.Stream

/-! ## 1. The data -/

structure JointLimit where
  minimumUrad : Urad
  maximumUrad : Urad

abbrev JointLimits := Joint → JointLimit

inductive ExecutorState where
  | closed
  | priming
  | running
  | hold
  | succeeded
  | aborted
  deriving DecidableEq

inductive TerminalReason where
  | none
  | plannedHorizon
  | queueUnderflow
  | commandTimeout
  | missedApplyTick
  | trackingError
  | jointLimit
  | invalidTimeline

inductive ExecutorResult where
  | ok
  | waiting
  | outputReady
  | terminal
  | nullArgument
  | badState
  | invalidLimit
  | contractRejected
  | batchRejected
  | jointLimitRejected
  | insufficientPrime
  | invalidAnchor
  deriving DecidableEq

structure ExecutorDiagnostics where
  state : ExecutorState
  terminalReason : TerminalReason
  lastStreamStatus : StreamStatusCode
  lastContractResult : ContractResult
  acceptedSamples : BitVec 32
  appliedSamples : BitVec 32
  controlOutputs : BitVec 32
  spliceCount : BitVec 32
  lastCommandTick : Tick
  terminalTick : Tick
  maximumApplyLatenessMs : Tick
  maximumTrackingErrorUrad : Joint → BitVec 32
  queuedSamples : Byte
  peakQueuedSamples : Byte
  trackingErrorJoint : Byte
  safeStopRequired : Bool

structure StreamExecutor where
  session : StreamSession
  hardCaps : StreamHardCaps
  jointLimits : JointLimits
  anchor : Setpoint
  lastOutputUrad : Joints
  diagnostics : ExecutorDiagnostics
  controlEpochTick : Tick
  lastStepTick : Tick
  anchorValid : Bool
  outputValid : Bool
  lastStepValid : Bool

def ExecutorDiagnostics.zero : ExecutorDiagnostics where
  state := .closed
  terminalReason := .none
  lastStreamStatus := .ok
  lastContractResult := .ok
  acceptedSamples := 0
  appliedSamples := 0
  controlOutputs := 0
  spliceCount := 0
  lastCommandTick := 0
  terminalTick := 0
  maximumApplyLatenessMs := 0
  maximumTrackingErrorUrad := fun _ => 0
  queuedSamples := 0
  peakQueuedSamples := 0
  trackingErrorJoint := 0
  safeStopRequired := false

/-! ## 2. Helpers -/

/-- The queued samples, in order. -/
abbrev StreamExecutor.queue (executor : StreamExecutor) : List Setpoint :=
  executor.session.validatedSamples.samples

/-- The `uint32_t` sum and product of the source wrap. -/
def firstControlTickAtOrAfter (controlEpochTick applyTick : Tick) : Tick :=
  let elapsed := applyTick - controlEpochTick
  let controlTicks := (elapsed + controlTickMs - 1) / controlTickMs
  controlEpochTick + controlTicks * controlTickMs

/-- The control tick on which the executor's grid has a sample. -/
abbrev StreamExecutor.due (executor : StreamExecutor) (sample : Setpoint) : Tick :=
  firstControlTickAtOrAfter executor.controlEpochTick sample.applyTick

def positionsWithinLimits (jointLimits : JointLimits) (positions : Joints) : Bool :=
  decide (∀ joint, (jointLimits joint).minimumUrad.toInt ≤ (positions joint).toInt ∧
    (positions joint).toInt ≤ (jointLimits joint).maximumUrad.toInt)

/-- `(uint64_t)` of an `int32_t`: sign extension. -/
def uint64OfInt32 (value : Urad) : Nat := (value.toInt % 2 ^ 64).toNat

/-- A joint moves by more than its `maximum_step_urad_per_tick` for each of `outputTicks`; the
product is taken in `uint64_t`. -/
def exceedsRate (policy : StreamPolicy) (target start : Joints) (outputTicks : Tick) : Bool :=
  decide (∃ joint : Joint, absoluteDifference (target joint) (start joint) >
    uint64OfInt32 (policy.maximumStepUradPerTick joint) * outputTicks.toNat % 2 ^ 64)

def updateQueueDiagnostics (executor : StreamExecutor) : StreamExecutor :=
  let queued : Byte := BitVec.ofNat 8 executor.queue.length
  { executor with
    diagnostics :=
      { executor.diagnostics with
        queuedSamples := queued
        peakQueuedSamples :=
          if queued > executor.diagnostics.peakQueuedSamples then queued
          else executor.diagnostics.peakQueuedSamples } }

def recordOutput (executor : StreamExecutor) (outputUrad : Joints) : StreamExecutor :=
  { executor with
    lastOutputUrad := outputUrad
    outputValid := true
    diagnostics :=
      { executor.diagnostics with controlOutputs := executor.diagnostics.controlOutputs + 1 } }

/-- The source returns TERMINAL from here; the callers do so below. -/
def terminate (executor : StreamExecutor) (state : ExecutorState) (reason : TerminalReason)
    (currentTick : Tick) (safeStopRequired : Bool) : StreamExecutor :=
  { executor with
    diagnostics :=
      { executor.diagnostics with
        state := state
        terminalReason := reason
        terminalTick := currentTick
        safeStopRequired := safeStopRequired } }

def consumeFirstSample (executor : StreamExecutor) : StreamExecutor :=
  updateQueueDiagnostics
    { executor with
      session :=
        { executor.session with validatedSamples := executor.session.validatedSamples.tail } }

/-! ## 3. Initialisation and opening -/

/-- A cleared executor under its caps and limits. -/
def closedExecutor (hardCaps : StreamHardCaps) (jointLimits : JointLimits) : StreamExecutor where
  session := streamSessionInit
  hardCaps := hardCaps
  jointLimits := jointLimits
  anchor := Setpoint.zero
  lastOutputUrad := fun _ => 0
  diagnostics := { ExecutorDiagnostics.zero with lastStreamStatus := .notOpen }
  controlEpochTick := 0
  lastStepTick := 0
  anchorValid := false
  outputValid := false
  lastStepValid := false

def streamExecutorInit (hardCaps : StreamHardCaps) (jointLimits : JointLimits) :
    Except ExecutorResult StreamExecutor :=
  if ∃ joint, (jointLimits joint).minimumUrad.toInt > (jointLimits joint).maximumUrad.toInt then
    .error .invalidLimit
  else .ok (closedExecutor hardCaps jointLimits)

/-- The session that a session call leaves, and the two diagnostic fields that even a rejected
command writes. -/
def recordSession (executor : StreamExecutor) (session : StreamSession)
    (result : StreamSessionResult) : StreamExecutor :=
  { executor with
    session := session
    diagnostics :=
      { executor.diagnostics with
        lastStreamStatus := result.statusCode
        lastContractResult := result.contractResult } }

def recordContractResult (executor : StreamExecutor) (result : ContractResult) :
    StreamExecutor :=
  { executor with
    diagnostics := { executor.diagnostics with lastContractResult := result } }

/-- An executor whose session was just opened, PRIMING under cleared diagnostics. -/
def primed (executor : StreamExecutor) (session : StreamSession)
    (result : StreamSessionResult) : StreamExecutor :=
  { executor with
    session := session
    anchor := Setpoint.zero
    diagnostics :=
      { ExecutorDiagnostics.zero with
        state := .priming
        lastStreamStatus := result.statusCode
        lastContractResult := result.contractResult }
    anchorValid := false
    outputValid := false
    lastStepValid := false }

def streamExecutorOpen (executor : StreamExecutor) (payload : List Byte) (currentTick : Tick) :
    StreamExecutor × ExecutorResult :=
  if executor.diagnostics.state = .running then (executor, .badState)
  else match streamSessionOpen executor.session payload executor.hardCaps currentTick with
  | (session, result) =>
    if result.contractResult ≠ .ok then
      (recordSession executor session result, .contractRejected)
    else (primed executor session result, .ok)

/-! ## 4. Admission and start -/

/-- The check of an APPEND against the queue tail: off the control grid, or too fast. -/
def appendTailDiscontinuous (session : StreamSession) (decoded : Batch) (kind : BatchKind) :
    Bool :=
  match kind, session.tailSample with
  | .append, some tail =>
    let deltaMs := decoded.firstApplyTick - tail.applyTick
    tickIsAfter decoded.firstApplyTick tail.applyTick &&
      (deltaMs % controlTickMs != 0 ||
        exceedsRate session.policy decoded.firstSample.positionUrad tail.positionUrad
          (deltaMs / controlTickMs))
  | _, _ => false

/-- The bookkeeping of an accepted batch. -/
def countAdmission (executor : StreamExecutor) (decoded : Batch) (kind : BatchKind)
    (currentTick : Tick) : StreamExecutor :=
  updateQueueDiagnostics
    { executor with
      diagnostics :=
        { executor.diagnostics with
          acceptedSamples := executor.diagnostics.acceptedSamples +
            BitVec.ofNat 32 decoded.samples.length
          spliceCount :=
            if kind = .splice then executor.diagnostics.spliceCount + 1
            else executor.diagnostics.spliceCount
          lastCommandTick := currentTick } }

def streamExecutorAdmit (executor : StreamExecutor) (payload : List Byte) (kind : BatchKind)
    (currentTick : Tick) : StreamExecutor × ExecutorResult :=
  if executor.diagnostics.state ≠ .priming ∧ executor.diagnostics.state ≠ .running then
    (executor, .badState)
  else match batchDecode payload kind with
  | .error result => (recordContractResult executor result, .contractRejected)
  | .ok decoded =>
    if decoded.samples.any fun sample =>
        !positionsWithinLimits executor.jointLimits sample.positionUrad then
      (executor, .jointLimitRejected)
    else if appendTailDiscontinuous executor.session decoded kind then
      (recordContractResult executor .sampleDiscontinuity, .batchRejected)
    else match streamSessionBatch executor.session payload kind currentTick with
    | (session, result) =>
      if result.contractResult ≠ .ok ∨ result.statusCode ≠ .validationOnly then
        (recordSession executor session result, .batchRejected)
      else
        (countAdmission (recordSession executor session result) decoded kind currentTick, .ok)

/-- `validated_samples[0]`: a PRIMING executor with enough samples has one, and the others do
not read it. -/
def StreamExecutor.firstSample (executor : StreamExecutor) : Setpoint :=
  executor.queue.headD Setpoint.zero

/-- The executor anchored at the present. -/
def started (executor : StreamExecutor) (currentTick : Tick) (positionUrad : Joints) :
    StreamExecutor :=
  { executor with
    anchor := { applyTick := currentTick, positionUrad := positionUrad }
    anchorValid := true
    controlEpochTick := currentTick
    lastStepTick := currentTick
    lastStepValid := true
    diagnostics := { executor.diagnostics with state := .running } }

/-- `output_ticks`: the control ticks from the start to the first sample. -/
def startOutputTicks (executor : StreamExecutor) (currentTick : Tick) : Tick :=
  (executor.firstSample.applyTick - currentTick + controlTickMs - 1) / controlTickMs

def streamExecutorStart (executor : StreamExecutor) (currentTick : Tick)
    (positionUrad : Joints) : StreamExecutor × ExecutorResult :=
  if executor.diagnostics.state ≠ .priming then (executor, .badState)
  else if executor.queue.length < executor.session.policy.minimumStartSamples.toNat then
    (executor, .insufficientPrime)
  else if !positionsWithinLimits executor.jointLimits positionUrad ||
      !tickIsAfter executor.firstSample.applyTick currentTick then (executor, .invalidAnchor)
  else if exceedsRate executor.session.policy executor.firstSample.positionUrad positionUrad
      (startOutputTicks executor currentTick) then (executor, .invalidAnchor)
  else (started executor currentTick positionUrad, .ok)

/-! ## 5. The control step -/

/-- The first sample is due: it becomes the anchor and the output. -/
def applyFirstSample (executor : StreamExecutor) (next : Setpoint) (lateness : Tick) :
    StreamExecutor :=
  let executor :=
    { executor with
      anchor := next
      diagnostics :=
        { executor.diagnostics with
          maximumApplyLatenessMs :=
            if lateness > executor.diagnostics.maximumApplyLatenessMs then lateness
            else executor.diagnostics.maximumApplyLatenessMs } }
  let executor := consumeFirstSample executor
  let executor :=
    { executor with
      diagnostics :=
        { executor.diagnostics with appliedSamples := executor.diagnostics.appliedSamples + 1 } }
  recordOutput executor next.positionUrad

/-- The queue has run empty on the sample of the planned horizon. -/
def horizonReached (executor : StreamExecutor) : Bool :=
  executor.session.horizonEndTick != 0 &&
    executor.anchor.applyTick == executor.session.horizonEndTick && executor.queue.isEmpty

/-- The position `elapsed` after the anchor's control tick on the way to `next`. -/
def StreamExecutor.towards (executor : StreamExecutor) (next : Setpoint) (currentTick : Tick) :
    Joints := fun joint =>
  interpolateUrad (executor.anchor.positionUrad joint) (next.positionUrad joint)
    (currentTick - executor.due executor.anchor) (executor.due next - executor.due executor.anchor)

/-- The first queued sample is due on this control tick or was due on an earlier one. -/
def stepApply (executor : StreamExecutor) (next : Setpoint) (currentTick : Tick) :
    StreamExecutor × ExecutorResult × Option Joints :=
  if currentTick - executor.due next > executor.session.policy.maximumApplyLatenessMs then
    (terminate executor .aborted .missedApplyTick currentTick true, .terminal, none)
  else if horizonReached (applyFirstSample executor next (currentTick - executor.due next)) then
    (terminate (applyFirstSample executor next (currentTick - executor.due next))
        .succeeded .plannedHorizon currentTick false,
      .terminal, some next.positionUrad)
  else
    (applyFirstSample executor next (currentTick - executor.due next), .outputReady,
      some next.positionUrad)

/-- The first queued sample is still ahead: `span` and `elapsed` are on the control grid. -/
def stepInterpolate (executor : StreamExecutor) (next : Setpoint) (currentTick : Tick) :
    StreamExecutor × ExecutorResult × Option Joints :=
  if executor.due next - executor.due executor.anchor = 0 ∨
      currentTick - executor.due executor.anchor >
        executor.due next - executor.due executor.anchor then
    (terminate executor .aborted .invalidTimeline currentTick true, .terminal, none)
  else
    (recordOutput executor (executor.towards next currentTick), .outputReady,
      some (executor.towards next currentTick))

/-- The step of a RUNNING executor whose clock did not run backwards. -/
def stepRunning (executor : StreamExecutor) (currentTick : Tick) :
    StreamExecutor × ExecutorResult × Option Joints :=
  if executor.session.horizonEndTick = 0 ∧
      currentTick - executor.diagnostics.lastCommandTick >
        executor.session.policy.commandTimeoutMs then
    (terminate (recordOutput executor executor.anchor.positionUrad) .hold .commandTimeout
        currentTick true,
      .terminal, some executor.anchor.positionUrad)
  else match executor.queue with
  | [] =>
    if executor.session.horizonEndTick ≠ 0 then
      (terminate executor .aborted .queueUnderflow currentTick true, .terminal, none)
    else
      (recordOutput executor executor.anchor.positionUrad, .outputReady,
        some executor.anchor.positionUrad)
  | next :: _ =>
    if !tickIsBefore currentTick (executor.due next) then stepApply executor next currentTick
    else stepInterpolate executor next currentTick

/-- The executor that has noted the tick of the step. -/
def ticked (executor : StreamExecutor) (currentTick : Tick) : StreamExecutor :=
  { executor with lastStepTick := currentTick, lastStepValid := true }

def streamExecutorStep (executor : StreamExecutor) (currentTick : Tick) :
    StreamExecutor × ExecutorResult × Option Joints :=
  if executor.diagnostics.state = .priming then (executor, .waiting, none)
  else if executor.diagnostics.state ≠ .running ∨ !executor.anchorValid then
    (executor, .badState, none)
  else if (executor.lastStepValid ∧ tickIsBefore currentTick executor.lastStepTick) ∨
      tickIsBefore currentTick executor.anchor.applyTick then
    (terminate executor .aborted .invalidTimeline currentTick true, .terminal, none)
  else stepRunning (ticked executor currentTick) currentTick

/-! ## 6. Tracking feedback -/

def recordTrackingError (executor : StreamExecutor) (joint : Joint) (error : BitVec 32) :
    StreamExecutor :=
  { executor with
    diagnostics :=
      { executor.diagnostics with
        maximumTrackingErrorUrad := fun j =>
          if j = joint ∧ error > executor.diagnostics.maximumTrackingErrorUrad joint then error
          else executor.diagnostics.maximumTrackingErrorUrad j } }

/-- One joint's commanded and measured position against the policy's limit; `true` when the
executor was terminated. -/
def checkTrackingError (executor : StreamExecutor) (currentTick : Tick) (joint : Joint)
    (commandedUrad measuredUrad : Urad) : StreamExecutor × Bool :=
  let error : BitVec 32 := BitVec.ofNat 32 (absoluteDifference commandedUrad measuredUrad)
  let executor := recordTrackingError executor joint error
  if error > executor.session.policy.trackingErrorLimitUrad joint then
    (terminate
        { executor with
          diagnostics :=
            { executor.diagnostics with trackingErrorJoint := BitVec.ofNat 8 joint } }
        .aborted .trackingError currentTick true,
      true)
  else (executor, false)

def streamExecutorCheckJointFeedback (executor : StreamExecutor) (currentTick : Tick)
    (joint : Byte) (commandedUrad measuredUrad : Urad) : StreamExecutor × ExecutorResult :=
  if h : joint.toNat < 12 then
    if (executor.diagnostics.state ≠ .running ∧ executor.diagnostics.state ≠ .succeeded) ∨
        !executor.outputValid then (executor, .badState)
    else
      match checkTrackingError executor currentTick ⟨joint.toNat, h⟩ commandedUrad
          measuredUrad with
      | (executor, true) => (executor, .terminal)
      | (executor, false) => (executor, .ok)
  else (executor, .badState)

/-- The joint loop of `check_feedback`, from the first of the joints left. -/
def checkFeedbackJoints (currentTick : Tick) (measuredUrad : Joints) :
    List Joint → StreamExecutor → StreamExecutor × ExecutorResult
  | [], executor => (executor, .ok)
  | joint :: joints, executor =>
    match checkTrackingError executor currentTick joint (executor.lastOutputUrad joint)
        (measuredUrad joint) with
    | (executor, true) => (executor, .terminal)
    | (executor, false) => checkFeedbackJoints currentTick measuredUrad joints executor

def streamExecutorCheckFeedback (executor : StreamExecutor) (currentTick : Tick)
    (measuredUrad : Joints) : StreamExecutor × ExecutorResult :=
  if executor.diagnostics.state ≠ .running ∨ !executor.outputValid then (executor, .badState)
  else checkFeedbackJoints currentTick measuredUrad (List.finRange 12) executor

end MobileBimanual.Stream
