/-
# The v2 stream session: the queue of validated samples

`stream_session_v2.c` in full.  A session is opened by a policy and then edited by batches: an
APPEND puts its samples behind the queue, a SPLICE cuts the queue at the splice tick and puts
its samples there.  A batch is decoded, checked against the contract and measured against the
capacity before anything is written.

The array `validated_samples` with `validated_sample_count` is `SampleQueue`, which carries the
capacity as a field: a queue longer than the array cannot be built, and the capacity test of
`streamSessionBatch` is what provides the proof.
-/
import MobileBimanual.Stream.Contract

namespace MobileBimanual.Stream

/-! ## 1. The queue and the session -/

/-- The counted part of `validated_samples[ACTUATOR_V2_QUEUE_CAPACITY]`. -/
structure SampleQueue where
  samples : List Setpoint
  fits : samples.length ≤ queueCapacity

def SampleQueue.empty : SampleQueue := ⟨[], by decide⟩

/-- The queue without its first sample, or the empty queue. -/
def SampleQueue.tail (queue : SampleQueue) : SampleQueue :=
  ⟨queue.samples.tail, by
    have h := queue.fits
    rw [List.length_tail]
    omega⟩

@[simp] theorem SampleQueue.tail_samples (queue : SampleQueue) :
    queue.tail.samples = queue.samples.tail := rfl

@[simp] theorem SampleQueue.empty_samples : SampleQueue.empty.samples = [] := rfl

structure StreamSession where
  isOpen : Bool
  epochEstablished : Bool
  policy : StreamPolicy
  arbiterEpoch : BitVec 32
  horizonEndTick : Tick
  validatedSamples : SampleQueue

structure StreamSessionResult where
  statusCode : StreamStatusCode
  contractResult : ContractResult
  armMask : Byte
  arbiterEpoch : BitVec 32
  horizonEndTick : Tick
  validatedTailTick : Tick
  validatedSampleCount : Nat

/-- `validated_samples[validated_sample_count - 1]`, where the queue has one. -/
def StreamSession.tailSample (session : StreamSession) : Option Setpoint :=
  session.validatedSamples.samples.getLast?

def resultFromSession (session : StreamSession) (statusCode : StreamStatusCode)
    (contractResult : ContractResult) : StreamSessionResult where
  statusCode := statusCode
  contractResult := contractResult
  armMask := if session.isOpen then session.policy.armMask else 0
  arbiterEpoch := session.arbiterEpoch
  horizonEndTick := session.horizonEndTick
  validatedTailTick := (session.tailSample.map Setpoint.applyTick).getD 0
  validatedSampleCount := session.validatedSamples.samples.length

/-! ## 2. Interpolation -/

/-- `(int32_t)((delta * (int64_t)elapsed) / (int64_t)span)` added to the start: the product wraps
in `int64_t`, the division truncates towards zero, the sum wraps in `int32_t`. -/
def interpolateUrad (start next : Urad) (elapsed span : Tick) : Urad :=
  let delta := next.toInt - start.toInt
  start + BitVec.ofInt 32 (Int.tdiv (Int.bmod (delta * elapsed.toNat) (2 ^ 64)) span.toNat)

/-- The position of the queue at `tick`: a sample's own, or between two neighbours. -/
def interpolatePosition (tick : Tick) : List Setpoint → Option Joints
  | [] => none
  | [sample] => if sample.applyTick = tick then some sample.positionUrad else none
  | sample :: next :: rest =>
    if sample.applyTick = tick then some sample.positionUrad
    else if tickIsAfter tick sample.applyTick && tickIsBefore tick next.applyTick then
      some fun joint => interpolateUrad (sample.positionUrad joint) (next.positionUrad joint)
        (tick - sample.applyTick) (next.applyTick - sample.applyTick)
    else interpolatePosition tick (next :: rest)

/-! ## 3. Opening and batches -/

def streamSessionInit : StreamSession where
  isOpen := false
  epochEstablished := false
  policy := StreamPolicy.zero
  arbiterEpoch := 0
  horizonEndTick := 0
  validatedSamples := SampleQueue.empty

/-- Decode, then validate: the policy of an acceptable STREAM_OPEN. -/
def acceptPolicy (payload : List Byte) (hardCaps : StreamHardCaps) (currentTick : Tick) :
    Except ContractResult StreamPolicy :=
  match streamPolicyDecode payload with
  | .error result => .error result
  | .ok policy =>
    if streamPolicyValidate policy hardCaps currentTick ≠ .ok then
      .error (streamPolicyValidate policy hardCaps currentTick)
    else .ok policy

/-- A cleared session under the policy. -/
def openedSession (policy : StreamPolicy) : StreamSession :=
  { streamSessionInit with
    isOpen := true
    policy := policy
    horizonEndTick := policy.horizonEndTick }

def streamSessionOpen (session : StreamSession) (payload : List Byte) (hardCaps : StreamHardCaps)
    (currentTick : Tick) : StreamSession × StreamSessionResult :=
  match acceptPolicy payload hardCaps currentTick with
  | .error result => (session, resultFromSession session .contractRejected result)
  | .ok policy =>
    (openedSession policy, resultFromSession (openedSession policy) .validationOnly .ok)

/-- The first batch of a session establishes its epoch. -/
def StreamSession.currentEpoch (session : StreamSession) (batch : Batch) : BitVec 32 :=
  if session.epochEstablished then session.arbiterEpoch else batch.arbiterEpoch

/-- `last_tick`: the tail of the queue, or the present when it is empty. -/
def StreamSession.lastTick (session : StreamSession) (currentTick : Tick) : Tick :=
  (session.tailSample.map Setpoint.applyTick).getD currentTick

/-- The samples a batch leaves in front of its own: all of them, or those before the splice. -/
def retainedSamples (session : StreamSession) (batch : Batch) (kind : BatchKind) :
    List Setpoint :=
  match kind with
  | .splice => session.validatedSamples.samples.takeWhile
      fun sample => tickIsBefore sample.applyTick batch.spliceAtTick
  | .append => session.validatedSamples.samples

/-- `transition_position`: the interpolated splice position, or zeros for an APPEND. -/
def transitionPosition (session : StreamSession) (batch : Batch) (kind : BatchKind) :
    Option Joints :=
  match kind with
  | .splice => interpolatePosition batch.spliceAtTick session.validatedSamples.samples
  | .append => some fun _ => 0

/-- The session with the batch behind what it retains. -/
def StreamSession.edit (session : StreamSession) (batch : Batch) (kind : BatchKind)
    (fits : (retainedSamples session batch kind ++ batch.samples).length ≤ queueCapacity) :
    StreamSession :=
  { session with
    validatedSamples := ⟨retainedSamples session batch kind ++ batch.samples, fits⟩
    epochEstablished := true
    arbiterEpoch := batch.arbiterEpoch
    horizonEndTick := batch.horizonEndTick }

/-- The contract's verdict on the batch under what the session already holds. -/
def StreamSession.transitionResult (session : StreamSession) (batch : Batch) (kind : BatchKind)
    (currentTick : Tick) (position : Joints) : ContractResult :=
  batchValidateTransition batch kind session.policy currentTick (session.currentEpoch batch)
    session.horizonEndTick (session.lastTick currentTick) position

def streamSessionBatch (session : StreamSession) (payload : List Byte) (kind : BatchKind)
    (currentTick : Tick) : StreamSession × StreamSessionResult :=
  if !session.isOpen then (session, resultFromSession session .notOpen .ok)
  else match batchDecode payload kind with
  | .error result => (session, resultFromSession session .contractRejected result)
  | .ok batch =>
    match transitionPosition session batch kind with
    | none => (session, resultFromSession session .splicePositionUnavailable .ok)
    | some position =>
      if session.transitionResult batch kind currentTick position ≠ .ok then
        (session, resultFromSession session .contractRejected
          (session.transitionResult batch kind currentTick position))
      else if fits : (retainedSamples session batch kind ++ batch.samples).length ≤
          queueCapacity then
        (session.edit batch kind fits,
          resultFromSession (session.edit batch kind fits) .validationOnly .ok)
      else (session, resultFromSession session .queueOverflow .ok)

end MobileBimanual.Stream
