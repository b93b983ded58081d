/-
# The v1 buffered executor

`buffered_executor.c` in full: a queue of setpoints that is filled while the executor is PRIMING
or RUNNING, anchored by the start, and turned into one output for every step.

* `admitBatch` and `markInputComplete` take input, `start` anchors the executor at a measured
  position and makes it RUNNING;
* `step` applies the front of the queue when it is due, or interpolates from the anchor towards
  it; the applied sample becomes the anchor;
* `transitionTerminal` throws the queue away and writes the terminal state; the four operator
  and supervisor calls are it under their own state and reason.

An output buffer is written on some paths of the C `step` and left alone on others; here the step
returns `some` output exactly on the paths that write it.  `size_t` counts are natural numbers.
-/
import MobileBimanual.Buffered.SetpointQueue

namespace MobileBimanual.Buffered

open MobileBimanual.Stream (Tick Urad tickIsAfter)

/-! ## 1. The data -/

def bufferedLatenessBuckets : Nat := 6

inductive BufferedState where
  | priming
  | running
  | hold
  | succeeded
  | canceled
  | aborted
  deriving DecidableEq

inductive BufferedReason where
  | none
  | plannedHold
  | operatorCancel
  | queueUnderflow
  | missedApplyTick
  | connectionLoss
  | trackingError

inductive BufferedResult where
  | ok
  | waiting
  | output
  | terminal
  | nullArgument
  | badState
  | notPrimed
  | queueRejected
  | invalidAnchor
  deriving DecidableEq

structure BufferedDiagnostics where
  state : BufferedState
  reason : BufferedReason
  lastQueueResult : QueueResult
  queuedSamples : Nat
  peakQueuedSamples : Nat
  acceptedSamples : BitVec 32
  appliedSamples : BitVec 32
  lastAppliedTick : Tick
  lastApplyLatenessTicks : Tick
  maximumApplyLatenessTicks : Tick
  maximumApplyLatenessSampleIndex : BitVec 32
  applyLatenessHistogram : Fin 6 → BitVec 32
  terminalTick : Tick
  inputComplete : Bool
  safeStopRequired : Bool

structure BufferedExecutor where
  queue : SetpointQueue
  anchor : Setpoint
  diagnostics : BufferedDiagnostics
  minimumStartSamples : Nat
  maximumApplyLatenessTicks : Tick
  anchorValid : Bool

/-- What `memset(.., 0, ..)` leaves. -/
def BufferedDiagnostics.zero : BufferedDiagnostics where
  state := .priming
  reason := .none
  lastQueueResult := .ok
  queuedSamples := 0
  peakQueuedSamples := 0
  acceptedSamples := 0
  appliedSamples := 0
  lastAppliedTick := 0
  lastApplyLatenessTicks := 0
  maximumApplyLatenessTicks := 0
  maximumApplyLatenessSampleIndex := 0
  applyLatenessHistogram := fun _ => 0
  terminalTick := 0
  inputComplete := false
  safeStopRequired := false

/-! ## 2. Helpers -/

def stateAcceptsCommands (state : BufferedState) : Bool :=
  state == .priming || state == .running

/-- The 32-bit counters of samples stop at their maximum. -/
def saturatingAdd (counter : BitVec 32) (count : Nat) : BitVec 32 :=
  if count > (BitVec.allOnes 32 - counter).toNat then BitVec.allOnes 32
  else counter + BitVec.ofNat 32 count

namespace BufferedExecutor

def updateQueueDepth (executor : BufferedExecutor) : BufferedExecutor :=
  { executor with
    diagnostics :=
      { executor.diagnostics with
        queuedSamples := executor.queue.count
        peakQueuedSamples :=
          if executor.queue.count > executor.diagnostics.peakQueuedSamples then
            executor.queue.count
          else executor.diagnostics.peakQueuedSamples } }

/-- The source returns TERMINAL from here; the callers do so below. -/
def transitionTerminal (executor : BufferedExecutor) (state : BufferedState)
    (reason : BufferedReason) (safeStopRequired : Bool) (currentTick : Tick) : BufferedExecutor :=
  updateQueueDepth
    { executor with
      queue := executor.queue.clear
      diagnostics :=
        { executor.diagnostics with
          state := state
          reason := reason
          safeStopRequired := safeStopRequired
          terminalTick := currentTick } }

/-! ## 3. Initialisation, input and start -/

def init (minimumStartSamples : Nat) (maximumApplyLatenessTicks : Tick) :
    Except BufferedResult BufferedExecutor :=
  if minimumStartSamples = 0 ∨ minimumStartSamples > setpointQueueCapacity then .error .notPrimed
  else .ok
    { queue := SetpointQueue.init
      anchor := Setpoint.zero
      diagnostics := BufferedDiagnostics.zero
      minimumStartSamples := minimumStartSamples
      maximumApplyLatenessTicks := maximumApplyLatenessTicks
      anchorValid := false }

/-- What every answer of the queue leaves: the queue, the answer and the depth. -/
def recordQueue (executor : BufferedExecutor) (queue : SetpointQueue) (result : QueueResult) :
    BufferedExecutor :=
  updateQueueDepth
    { executor with
      queue := queue
      diagnostics := { executor.diagnostics with lastQueueResult := result } }

def countAccepted (executor : BufferedExecutor) (sampleCount : Nat) : BufferedExecutor :=
  { executor with
    diagnostics :=
      { executor.diagnostics with
        acceptedSamples := saturatingAdd executor.diagnostics.acceptedSamples sampleCount } }

def admitBatch (executor : BufferedExecutor) (samples : List Setpoint)
    (currentTick minimumLeadTicks maximumLeadTicks : Tick) (limits : JointLimits) :
    BufferedExecutor × BufferedResult :=
  if !stateAcceptsCommands executor.diagnostics.state || executor.diagnostics.inputComplete then
    (executor, .badState)
  else match pushBatch executor.queue samples currentTick minimumLeadTicks maximumLeadTicks
      limits with
  | (queue, .ok) => (countAccepted (recordQueue executor queue .ok) samples.length, .ok)
  | (queue, result) => (recordQueue executor queue result, .queueRejected)

def markInputComplete (executor : BufferedExecutor) : BufferedExecutor × BufferedResult :=
  if !stateAcceptsCommands executor.diagnostics.state then (executor, .badState)
  else
    ({ executor with diagnostics := { executor.diagnostics with inputComplete := true } }, .ok)

/-- The executor anchored at a measured position. -/
def anchored (executor : BufferedExecutor) (anchorTick : Tick) (anchorPositionsUrad : Joints) :
    BufferedExecutor :=
  { executor with
    anchor := { applyTick := anchorTick, positionUrad := anchorPositionsUrad }
    anchorValid := true
    diagnostics := { executor.diagnostics with state := .running } }

def start (executor : BufferedExecutor) (anchorTick : Tick) (anchorPositionsUrad : Joints)
    (limits : JointLimits) : BufferedExecutor × BufferedResult :=
  if executor.diagnostics.state ≠ .priming then (executor, .badState)
  else if executor.queue.count = 0 ∨
      (executor.queue.count < executor.minimumStartSamples ∧
        !executor.diagnostics.inputComplete) then (executor, .notPrimed)
  else match peek executor.queue with
  | none => (executor, .invalidAnchor)
  | some first =>
    if !tickIsAfter first.applyTick anchorTick then (executor, .invalidAnchor)
    else if !positionsAreValid anchorPositionsUrad limits then (executor, .invalidAnchor)
    else (executor.anchored anchorTick anchorPositionsUrad, .ok)

/-! ## 4. The step -/

/-- The bucket of a lateness: the last one takes all that is later. -/
def latenessBucket (applyLateness : Tick) : Nat :=
  if applyLateness.toNat ≥ bufferedLatenessBuckets then bufferedLatenessBuckets - 1
  else applyLateness.toNat

/-- The diagnostics of an application. -/
def noteApplied (diagnostics : BufferedDiagnostics) (currentTick applyLateness : Tick) :
    BufferedDiagnostics :=
  let appliedSamples := saturatingAdd diagnostics.appliedSamples 1
  { diagnostics with
    lastAppliedTick := currentTick
    lastApplyLatenessTicks := applyLateness
    appliedSamples := appliedSamples
    maximumApplyLatenessTicks :=
      if applyLateness > diagnostics.maximumApplyLatenessTicks then applyLateness
      else diagnostics.maximumApplyLatenessTicks
    maximumApplyLatenessSampleIndex :=
      if applyLateness > diagnostics.maximumApplyLatenessTicks then appliedSamples
      else diagnostics.maximumApplyLatenessSampleIndex
    applyLatenessHistogram := fun bucket =>
      if bucket = latenessBucket applyLateness then
        saturatingAdd (diagnostics.applyLatenessHistogram bucket) 1
      else diagnostics.applyLatenessHistogram bucket }

/-- The executor that has taken `next` from its queue. -/
def applied (executor : BufferedExecutor) (queue : SetpointQueue) (next : Setpoint)
    (currentTick : Tick) : BufferedExecutor :=
  updateQueueDepth
    { executor with
      queue := queue
      anchor := next
      diagnostics :=
        noteApplied { executor.diagnostics with lastQueueResult := .ok } currentTick
          (currentTick - next.applyTick) }

/-- A queue that has run empty ends the execution, well or not. -/
def finishIfEmpty (executor : BufferedExecutor) (currentTick : Tick) : BufferedExecutor :=
  if executor.queue.count = 0 then
    if executor.diagnostics.inputComplete then
      { executor with
        diagnostics :=
          { executor.diagnostics with state := .succeeded, terminalTick := currentTick } }
    else executor.transitionTerminal .hold .queueUnderflow true currentTick
  else executor

/-- The front is due. -/
def stepApply (executor : BufferedExecutor) (next : Setpoint) (currentTick : Tick) :
    BufferedExecutor × BufferedResult × Option Joints :=
  if currentTick - next.applyTick > executor.maximumApplyLatenessTicks then
    (executor.transitionTerminal .hold .missedApplyTick true currentTick, .terminal, none)
  else match takeDue executor.queue next.applyTick with
  | (queue, .ok, some next) =>
    ((executor.applied queue next currentTick).finishIfEmpty currentTick, .output,
      some next.positionUrad)
  | (queue, result, _) =>
    ({ executor with
        queue := queue
        diagnostics := { executor.diagnostics with lastQueueResult := result } },
      .queueRejected, none)

/-- `start + (delta * elapsed) / segment` in `int64_t`, cut to 32 bits. -/
def interpolate (start next : Urad) (elapsedTicks segmentTicks : Tick) : Urad :=
  BitVec.ofInt 32 (start.toInt +
    Int.tdiv (Int.bmod ((next.toInt - start.toInt) * elapsedTicks.toNat) (2 ^ 64))
      segmentTicks.toNat)

/-- The front is still ahead. -/
def stepInterpolate (executor : BufferedExecutor) (next : Setpoint) (currentTick : Tick) :
    BufferedExecutor × BufferedResult × Option Joints :=
  if currentTick ≠ executor.anchor.applyTick ∧
      !tickIsAfter currentTick executor.anchor.applyTick then (executor, .invalidAnchor, none)
  else if currentTick - executor.anchor.applyTick >
      next.applyTick - executor.anchor.applyTick then
    (executor.transitionTerminal .hold .missedApplyTick true currentTick, .terminal, none)
  else
    (executor, .output, some fun joint =>
      interpolate (executor.anchor.positionUrad joint) (next.positionUrad joint)
        (currentTick - executor.anchor.applyTick)
        (next.applyTick - executor.anchor.applyTick))

def step (executor : BufferedExecutor) (currentTick : Tick) :
    BufferedExecutor × BufferedResult × Option Joints :=
  if executor.diagnostics.state ≠ .running ∨ !executor.anchorValid then
    (executor, .badState, none)
  else if executor.queue.count = 0 then
    if executor.diagnostics.inputComplete then
      (executor.transitionTerminal .succeeded .none false currentTick, .terminal, none)
    else (executor.transitionTerminal .hold .queueUnderflow true currentTick, .terminal, none)
  else match peek executor.queue with
  | none => (executor, .queueRejected, none)
  | some next =>
    if currentTick = next.applyTick ∨ tickIsAfter currentTick next.applyTick then
      executor.stepApply next currentTick
    else executor.stepInterpolate next currentTick

/-! ## 5. The calls that end an execution -/

/-- The common body: an execution that takes commands is ended. -/
def endExecution (executor : BufferedExecutor) (state : BufferedState) (reason : BufferedReason)
    (safeStopRequired : Bool) (currentTick : Tick) : BufferedExecutor × BufferedResult :=
  if !stateAcceptsCommands executor.diagnostics.state then (executor, .badState)
  else (executor.transitionTerminal state reason safeStopRequired currentTick, .terminal)

def plannedHold (executor : BufferedExecutor) (currentTick : Tick) :
    BufferedExecutor × BufferedResult :=
  executor.endExecution .hold .plannedHold false currentTick

def cancel (executor : BufferedExecutor) (currentTick : Tick) :
    BufferedExecutor × BufferedResult :=
  executor.endExecution .canceled .operatorCancel true currentTick

def connectionLoss (executor : BufferedExecutor) (currentTick : Tick) :
    BufferedExecutor × BufferedResult :=
  executor.endExecution .aborted .connectionLoss true currentTick

def trackingError (executor : BufferedExecutor) (currentTick : Tick) :
    BufferedExecutor × BufferedResult :=
  executor.endExecution .aborted .trackingError true currentTick

end BufferedExecutor

end MobileBimanual.Buffered
