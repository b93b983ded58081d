/-
# The v2 stream contract: payloads, policies, batches and the admission checks

`stream_contract_v2.c` in full.  A STREAM_OPEN payload decodes to a policy, an APPEND or SPLICE
payload decodes to a batch, and `batchValidateTransition` decides whether a batch may follow
what the session already holds.  Nothing here has a state of its own.

How the C types are read:

* `uint32_t` ticks are `BitVec 32`, and so are the `int32_t` positions, read through `toInt`;
* a payload is the list of its bytes, so `payload_length` is its length; the decoders check it
  before they read, and a read is a `getD` at the source's own offset;
* `samples[]` with `sample_count` is the list of the counted samples;
* a loop over the joints that returns from its first bad joint with one fixed result is a test
  for the existence of a bad joint; where the result depends on the joint it is a `findSome?`
  in joint order.

The NULL arguments of the C functions have no counterpart.
-/
import MobileBimanual.Lib.Serial

namespace MobileBimanual.Stream

/-! ## 1. Constants and machine words -/

abbrev Byte := BitVec 8
abbrev Tick := BitVec 32
abbrev Urad := BitVec 32

def armMaskLeft : Byte := 0x01
def armMaskRight : Byte := 0x02
def armMaskBoth : Byte := 0x03
def jointCount : Nat := 12
def queueCapacity : Nat := 16
def wireMaxSamples : Nat := 9
def streamOpenWireSize : Nat := 120
def batchHeaderSize : Nat := 20
def sampleWireSize : Nat := 52
def minimumSpliceLeadMs : Tick := 20
def controlTickMs : Tick := 5

abbrev Joint := Fin 12
abbrev Joints := Joint → Urad

def readU16Le (payload : List Byte) (offset : Nat) : BitVec 16 :=
  (payload.getD offset 0).setWidth 16 ||| ((payload.getD (offset + 1) 0).setWidth 16 <<< 8)

def readU32Le (payload : List Byte) (offset : Nat) : BitVec 32 :=
  (payload.getD offset 0).setWidth 32 |||
    ((payload.getD (offset + 1) 0).setWidth 32 <<< 8) |||
    ((payload.getD (offset + 2) 0).setWidth 32 <<< 16) |||
    ((payload.getD (offset + 3) 0).setWidth 32 <<< 24)

/-- `(int32_t)(candidate - reference) > 0`. -/
def tickIsAfter (candidate reference : Tick) : Bool :=
  decide (0 < (candidate - reference).toInt)

def tickIsBefore (candidate reference : Tick) : Bool := tickIsAfter reference candidate

/-- The difference is taken in `int64_t`, so it is exact. -/
def absoluteDifference (left right : Urad) : Nat := (left.toInt - right.toInt).natAbs

variable (candidate reference : Tick)

@[simp] theorem tickIsAfter_iff :
    tickIsAfter candidate reference = true ↔ Serial.After candidate reference := by
  simp [tickIsAfter, Serial.After]

@[simp] theorem tickIsAfter_eq_false_iff :
    tickIsAfter candidate reference = false ↔ ¬ Serial.After candidate reference := by
  rw [← tickIsAfter_iff, Bool.not_eq_true]

@[simp] theorem tickIsBefore_iff :
    tickIsBefore candidate reference = true ↔ Serial.After reference candidate :=
  tickIsAfter_iff reference candidate

@[simp] theorem tickIsBefore_eq_false_iff :
    tickIsBefore candidate reference = false ↔ ¬ Serial.After reference candidate :=
  tickIsAfter_eq_false_iff reference candidate

/-! ## 2. The data -/

inductive StreamStatusCode where
  | ok
  | contractRejected
  | notOpen
  | queueOverflow
  | splicePositionUnavailable
  | validationOnly
  deriving DecidableEq

inductive ContractResult where
  | ok
  | nullArgument
  | invalidLength
  | invalidArmMask
  | invalidReserved
  | invalidMinimumStartSamples
  | minimumLeadTooSmall
  | maximumLeadTooLarge
  | leadWindowInverted
  | commandTimeoutTooLarge
  | openTimeoutTooLarge
  | applyLatenessTooLarge
  | trackingErrorTooLarge
  | maximumStepTooLarge
  | staleHorizon
  | invalidSampleCount
  | nonMonotonicTick
  | appendEpochMismatch
  | horizonRegression
  | horizonBeforeLastSample
  | spliceFieldMismatch
  | spliceTooLate
  | spliceAfterLastSample
  | spliceFirstTickMismatch
  | spliceDiscontinuity
  | firstSampleTooEarly
  | lastSampleTooLate
  | sampleDiscontinuity
  deriving DecidableEq

inductive BatchKind where
  | append
  | splice
  deriving DecidableEq

structure StreamPolicy where
  minimumStartSamples : BitVec 16
  minimumLeadMs : Tick
  horizonEndTick : Tick
  maximumLeadMs : Tick
  commandTimeoutMs : Tick
  maximumApplyLatenessMs : Tick
  trackingErrorLimitUrad : Joints
  maximumStepUradPerTick : Joints
  armMask : Byte

structure StreamHardCaps where
  minimumLeadMs : Tick
  maximumLeadMs : Tick
  maximumCommandTimeoutMs : Tick
  maximumOpenCommandTimeoutMs : Tick
  maximumApplyLatenessMs : Tick
  trackingErrorLimitUrad : Joints
  maximumStepUradPerTick : Joints

structure Setpoint where
  applyTick : Tick
  positionUrad : Joints

structure Batch where
  firstApplyTick : Tick
  horizonEndTick : Tick
  arbiterEpoch : BitVec 32
  spliceAtTick : Tick
  armMask : Byte
  samples : List Setpoint

/-- Equality of records of functions is decided field by field: the derived instance would cast
along an equality of functions, and the casts do not compute. -/
instance : DecidableEq Setpoint := fun a b =>
  decidable_of_iff (a.applyTick = b.applyTick ∧ a.positionUrad = b.positionUrad) (by
    cases a
    cases b
    simp)

instance : DecidableEq Batch := fun a b =>
  decidable_of_iff (a.firstApplyTick = b.firstApplyTick ∧ a.horizonEndTick = b.horizonEndTick ∧
      a.arbiterEpoch = b.arbiterEpoch ∧ a.spliceAtTick = b.spliceAtTick ∧
      a.armMask = b.armMask ∧ a.samples = b.samples) (by
    cases a
    cases b
    simp)

/-- For the same reason a decoder's answer is compared as an option. -/
theorem eq_ok_of_toOption {α : Type} {answer : Except ContractResult α} {a : α}
    (h : answer.toOption = some a) : answer = .ok a := by
  cases answer with
  | error result => cases h
  | ok a' => exact congrArg Except.ok (Option.some.inj h)

/-- What `memset(.., 0, ..)` leaves in a policy. -/
def StreamPolicy.zero : StreamPolicy where
  minimumStartSamples := 0
  minimumLeadMs := 0
  horizonEndTick := 0
  maximumLeadMs := 0
  commandTimeoutMs := 0
  maximumApplyLatenessMs := 0
  trackingErrorLimitUrad := fun _ => 0
  maximumStepUradPerTick := fun _ => 0
  armMask := 0

def Setpoint.zero : Setpoint where
  applyTick := 0
  positionUrad := fun _ => 0

/-! ## 3. The policy -/

def armMaskIsValid (armMask : Byte) : Bool :=
  armMask != 0 && (armMask &&& ~~~armMaskBoth) == 0

def streamPolicyDecode (payload : List Byte) : Except ContractResult StreamPolicy :=
  if payload.length ≠ streamOpenWireSize then .error .invalidLength
  else if !armMaskIsValid (payload.getD 2 0) then .error .invalidArmMask
  else if payload.getD 3 0 ≠ 0 then .error .invalidReserved
  else .ok
    { minimumStartSamples := readU16Le payload 0
      armMask := payload.getD 2 0
      minimumLeadMs := readU32Le payload 4
      horizonEndTick := readU32Le payload 8
      maximumLeadMs := readU32Le payload 12
      commandTimeoutMs := readU32Le payload 16
      maximumApplyLatenessMs := readU32Le payload 20
      trackingErrorLimitUrad := fun joint => readU32Le payload (24 + joint * 4)
      maximumStepUradPerTick := fun joint => readU32Le payload (72 + joint * 4) }

/-- The body of the policy's joint loop: the first of its two checks that fails. -/
def policyJointCheck (policy : StreamPolicy) (hardCaps : StreamHardCaps) (joint : Joint) :
    Option ContractResult :=
  if (policy.trackingErrorLimitUrad joint).toInt ≤ 0 ∨
      (hardCaps.trackingErrorLimitUrad joint).toInt ≤ 0 ∨
      (policy.trackingErrorLimitUrad joint).toInt >
        (hardCaps.trackingErrorLimitUrad joint).toInt then
    some .trackingErrorTooLarge
  else if (policy.maximumStepUradPerTick joint).toInt ≤ 0 ∨
      (hardCaps.maximumStepUradPerTick joint).toInt ≤ 0 ∨
      (policy.maximumStepUradPerTick joint).toInt >
        (hardCaps.maximumStepUradPerTick joint).toInt then
    some .maximumStepTooLarge
  else none

def streamPolicyValidate (policy : StreamPolicy) (hardCaps : StreamHardCaps)
    (currentTick : Tick) : ContractResult :=
  if !armMaskIsValid policy.armMask then .invalidArmMask
  else if policy.minimumStartSamples = 0 ∨
      policy.minimumStartSamples.toNat > queueCapacity then .invalidMinimumStartSamples
  else if policy.minimumLeadMs < hardCaps.minimumLeadMs then .minimumLeadTooSmall
  else if policy.maximumLeadMs > hardCaps.maximumLeadMs then .maximumLeadTooLarge
  else if policy.minimumLeadMs > policy.maximumLeadMs then .leadWindowInverted
  else if policy.commandTimeoutMs = 0 ∨
      policy.commandTimeoutMs > hardCaps.maximumCommandTimeoutMs then .commandTimeoutTooLarge
  else if policy.horizonEndTick = 0 ∧
      policy.commandTimeoutMs > hardCaps.maximumOpenCommandTimeoutMs then .openTimeoutTooLarge
  else if policy.maximumApplyLatenessMs > hardCaps.maximumApplyLatenessMs then
    .applyLatenessTooLarge
  else if policy.horizonEndTick ≠ 0 ∧ !tickIsAfter policy.horizonEndTick currentTick then
    .staleHorizon
  else ((List.finRange 12).findSome? (policyJointCheck policy hardCaps)).getD .ok

/-! ## 4. The batch -/

/-- The sample loop of the decoder, `remaining` samples before its end. -/
def decodeSamples (payload : List Byte) (firstApplyTick : Tick) (remaining sampleIndex : Nat)
    (previousTick : Tick) : Except ContractResult (List Setpoint) :=
  match remaining with
  | 0 => .ok []
  | remaining + 1 =>
    let offset := batchHeaderSize + sampleIndex * sampleWireSize
    let tickOffset := readU32Le payload offset
    let applyTick := firstApplyTick + tickOffset
    if (sampleIndex > 0 ∧ !tickIsAfter applyTick previousTick) ∨
        (sampleIndex = 0 ∧ tickOffset ≠ 0) then
      .error .nonMonotonicTick
    else
      match decodeSamples payload firstApplyTick remaining (sampleIndex + 1) applyTick with
      | .error result => .error result
      | .ok samples =>
        .ok ({ applyTick := applyTick
               positionUrad := fun joint => readU32Le payload (offset + 4 + joint * 4) } ::
          samples)

def batchDecode (payload : List Byte) (kind : BatchKind) : Except ContractResult Batch :=
  let sampleCount := (payload.getD 16 0).toNat
  if payload.length < batchHeaderSize then .error .invalidLength
  else if sampleCount = 0 ∨ sampleCount > wireMaxSamples then .error .invalidSampleCount
  else if payload.length ≠ batchHeaderSize + sampleCount * sampleWireSize then
    .error .invalidLength
  else if !armMaskIsValid (payload.getD 17 0) then .error .invalidArmMask
  else if readU16Le payload 18 ≠ 0 then .error .invalidReserved
  else if (kind = .append ∧ readU32Le payload 12 ≠ 0) ∨
      (kind = .splice ∧ readU32Le payload 12 = 0) then .error .spliceFieldMismatch
  else
    match decodeSamples payload (readU32Le payload 0) sampleCount 0 0 with
    | .error result => .error result
    | .ok samples => .ok
      { firstApplyTick := readU32Le payload 0
        horizonEndTick := readU32Le payload 4
        arbiterEpoch := readU32Le payload 8
        spliceAtTick := readU32Le payload 12
        armMask := payload.getD 17 0
        samples := samples }

/-! ## 5. The transition check -/

/-- One sample after another: the spacing on the control grid and the rate on every joint. -/
def stepIsContinuous (policy : StreamPolicy) (previous sample : Setpoint) : Bool :=
  let deltaMs := sample.applyTick - previous.applyTick
  let outputTicks := deltaMs / controlTickMs
  !(deltaMs == 0 || deltaMs % controlTickMs != 0) &&
    !decide (∃ joint : Joint,
      (absoluteDifference (sample.positionUrad joint) (previous.positionUrad joint) : Int) >
        (policy.maximumStepUradPerTick joint).toInt * outputTicks.toNat)

/-- The loop over the adjacent samples of the batch. -/
def samplesAreContinuous (policy : StreamPolicy) : List Setpoint → Bool
  | [] => true
  | [_] => true
  | previous :: sample :: rest =>
    stepIsContinuous policy previous sample && samplesAreContinuous policy (sample :: rest)

/-- `batch->samples[sample_count - 1]`; the decoder never leaves a batch empty. -/
def Batch.finalApplyTick (batch : Batch) : Tick :=
  (batch.samples.getLastD Setpoint.zero).applyTick

def Batch.firstSample (batch : Batch) : Setpoint := batch.samples.headD Setpoint.zero

def batchValidateTransition (batch : Batch) (kind : BatchKind) (policy : StreamPolicy)
    (currentTick : Tick) (currentEpoch : BitVec 32) (currentHorizonEndTick lastApplyTick : Tick)
    (interpolatedPositionUrad : Joints) : ContractResult :=
  if !armMaskIsValid batch.armMask || (batch.armMask &&& policy.armMask) != batch.armMask then
    .invalidArmMask
  else if batch.samples.length = 0 ∨ batch.samples.length > wireMaxSamples then
    .invalidSampleCount
  else if kind = .append ∧ (!tickIsAfter batch.firstApplyTick currentTick ∨
      batch.firstApplyTick - currentTick < policy.minimumLeadMs) then .firstSampleTooEarly
  else if batch.finalApplyTick - currentTick > policy.maximumLeadMs then .lastSampleTooLate
  else if batch.horizonEndTick ≠ 0 ∧ tickIsAfter batch.finalApplyTick batch.horizonEndTick then
    .horizonBeforeLastSample
  else if (currentHorizonEndTick == 0) != (batch.horizonEndTick == 0) then .horizonRegression
  else if currentHorizonEndTick ≠ 0 ∧ batch.horizonEndTick ≠ currentHorizonEndTick ∧
      !tickIsAfter batch.horizonEndTick currentHorizonEndTick then .horizonRegression
  else if !samplesAreContinuous policy batch.samples then .sampleDiscontinuity
  else match kind with
  | .append =>
    if batch.spliceAtTick ≠ 0 then .spliceFieldMismatch
    else if batch.arbiterEpoch ≠ currentEpoch then .appendEpochMismatch
    else if !tickIsAfter batch.firstApplyTick lastApplyTick then .nonMonotonicTick
    else .ok
  | .splice =>
    if batch.spliceAtTick = 0 then .spliceFieldMismatch
    else if !tickIsAfter batch.spliceAtTick currentTick ∨
        batch.spliceAtTick - currentTick < minimumSpliceLeadMs ∨
        batch.spliceAtTick - currentTick < policy.minimumLeadMs then .spliceTooLate
    else if tickIsAfter batch.spliceAtTick lastApplyTick then .spliceAfterLastSample
    else if batch.firstSample.applyTick ≠ batch.spliceAtTick then .spliceFirstTickMismatch
    else if ∃ joint : Joint,
        (absoluteDifference (batch.firstSample.positionUrad joint)
          (interpolatedPositionUrad joint) : Int) >
          (policy.maximumStepUradPerTick joint).toInt then .spliceDiscontinuity
    else .ok

end MobileBimanual.Stream
