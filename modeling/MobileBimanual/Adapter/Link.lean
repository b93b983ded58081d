/-
# The firmware behind the transport

How the stream executor answers the requests of the adapter: the transport encodes a policy or a
batch (and raises where that fails), the firmware hands the payload to its executor at the tick of
the frame, and its answer is the STREAM_STATUS of `binary_control.c`.  A heartbeat is answered
with the tick at which it was taken.  Whatever does not concern the executor is answered by the
rest of the firmware, of which nothing is assumed here.
-/
import MobileBimanual.Adapter.Operations
import MobileBimanual.Firmware.HostFrames
import MobileBimanual.Stream.Run

namespace MobileBimanual.Adapter

open MobileBimanual.Stream
open MobileBimanual.Stream.Host (StreamBatchV2 StreamPolicyV2 encodeStreamOpenV2
  encodeStreamBatchV2)
open MobileBimanual.Firmware (executorSessionResult)

/-! ## 1. Stream requests -/

/-- The encoders' own exception. -/
def encodeError (message : String) : HostError := ⟨.other "StreamContractError", message⟩

/-- STREAM_STATUS as the host reads it. -/
def streamStatus (result : StreamSessionResult) : StreamStatusV2 where
  statusCode := result.statusCode
  contractResult := result.contractResult
  armMask := result.armMask.toNat

def acceptedStatus (executor : StreamExecutor) : StreamStatusV2 :=
  streamStatus (executorSessionResult executor.session .ok .ok)

/-- A batch that was refused for no reason of the contract is answered SAMPLE_DISCONTINUITY. -/
def rejectionResult (executor : StreamExecutor) : ContractResult :=
  let contractResult := executor.diagnostics.lastContractResult
  if contractResult = .ok then .sampleDiscontinuity else contractResult

def rejectedStatus (executor : StreamExecutor) (contractResult : ContractResult) :
    StreamStatusV2 :=
  streamStatus (executorSessionResult executor.session .contractRejected contractResult)

def openStatus (outcome : StreamExecutor × ExecutorResult) : StreamStatusV2 :=
  if outcome.2 = .ok then acceptedStatus outcome.1
  else rejectedStatus outcome.1 outcome.1.diagnostics.lastContractResult

def batchStatus (outcome : StreamExecutor × ExecutorResult) : StreamStatusV2 :=
  if outcome.2 = .ok then acceptedStatus outcome.1
  else rejectedStatus outcome.1 (rejectionResult outcome.1)

def handleOpen (executor : StreamExecutor) (tick : Tick) (policy : StreamPolicyV2) :
    StreamExecutor × Except HostError StreamStatusV2 :=
  match encodeStreamOpenV2 policy with
  | .error message => (executor, .error (encodeError message))
  | .ok payload =>
    let outcome := streamExecutorOpen executor payload tick
    (outcome.1, .ok (openStatus outcome))

def handleBatch (executor : StreamExecutor) (tick : Tick) (kind : BatchKind)
    (batch : StreamBatchV2) : StreamExecutor × Except HostError StreamStatusV2 :=
  match encodeStreamBatchV2 batch kind with
  | .error message => (executor, .error (encodeError message))
  | .ok payload =>
    let outcome := streamExecutorAdmit executor payload kind tick
    (outcome.1, .ok (batchStatus outcome))

/-- The rest of the firmware. -/
abbrev Bystanders := (request : Request) → request.Answer

def heartbeatAt (state : StateV2) (tick : Tick) : StateV2 :=
  { state with lastHeartbeatMs := tick.toNat }

/-- How a request is answered that reaches the firmware at `tick`. -/
def handle (bystanders : Bystanders) (executor : StreamExecutor) (tick : Tick) :
    (request : Request) → StreamExecutor × Except HostError request.Answer
  | .heartbeat => (executor, .ok (heartbeatAt (bystanders .heartbeat) tick))
  | .openStream policy => handleOpen executor tick policy
  | .append batch => handleBatch executor tick .append batch
  | .splice batch => handleBatch executor tick .splice batch
  | .getExecutorDiagnostics => (executor, .ok
      { state := executor.diagnostics.state
        safeStopRequired := executor.diagnostics.safeStopRequired })
  | request => (executor, .ok (bystanders request))

/-! ## 2. The transport -/

/-- What becomes of a request under way.  The firmware may have objections of its own to a stream
request, also to one that its executor has taken; and the answer may be lost. -/
inductive Transit where
  | delivered
  | refused (reached : Bool)
  | lost (reached : Bool) (error : HostError)

/-- The refusal of a stream request; the other requests are not refused. -/
def refusal (executor : StreamExecutor) :
    (request : Request) → Except HostError request.Answer → Except HostError request.Answer
  | .openStream _, _ | .append _, _ | .splice _, _ => .ok (rejectedStatus executor (rejectionResult executor))
  | _, reply => reply

def carry (bystanders : Bystanders) (executor : StreamExecutor) (tick : Tick)
    (request : Request) : Transit → StreamExecutor × Except HostError request.Answer
  | .delivered => handle bystanders executor tick request
  | .refused true =>
    let handled := handle bystanders executor tick request
    (handled.1, refusal handled.1 request handled.2)
  | .refused false => (executor, refusal executor request
      (handle bystanders executor tick request).2)
  | .lost true error => ((handle bystanders executor tick request).1, .error error)
  | .lost false error => (executor, .error error)

/-! ## 3. What an answer tells -/

/-- The host takes the answer for an acceptance. -/
def Acknowledges (setup : Setup) : Except HostError StreamStatusV2 → Prop
  | .ok status => status.statusCode = .ok ∧ status.contractResult = .ok ∧
      status.armMask = setup.profile.armMask
  | .error _ => False

instance (setup : Setup) :
    (reply : Except HostError StreamStatusV2) → Decidable (Acknowledges setup reply)
  | .ok _ => inferInstanceAs (Decidable (_ ∧ _ ∧ _))
  | .error _ => instDecidableFalse

theorem requireAccepted_ok_iff {setup : Setup} {text label : String} {status : StreamStatusV2} :
    requireAccepted setup text status label = .ok () ↔ Acknowledges setup (.ok status) := by
  unfold requireAccepted streamIf Acknowledges
  split_ifs with h
  · simp only [false_iff]
    tauto
  · simp only [true_iff]
    tauto

/-! ## 4. A bench -/

namespace Bench

def setup : Setup where
  limits :=
    { minimumUrad := fun _ => -1000000
      maximumUrad := fun _ => 1000000
      hardwareAuthorized := true }
  motionAuthorized := true
  config := {}
  profile := {}
  repr := fun _ _ => ""

def bystanders : Bystanders
  | .enterBinaryMode =>
    { protocolVersion := 2
      jointCount := 12
      stopLatched := false
      firmwareVersion := 0x00024908
      leftCalibrationHash := 0x2D90167E
      rightCalibrationHash := 0x2D90167E
      capabilities := 0xEFFFFFFF }
  | .heartbeat | .getState | .enable =>
    { stopLatched := false, statusCode := 0, lastHeartbeatMs := 0 }
  | .safeStop => { stopLatched := true, statusCode := 0, lastHeartbeatMs := 0 }
  | .prepareShadow =>
    { statusCode := 0
      jointCount := 12
      leftPresentMask := 0x3F
      rightPresentMask := 0x3F
      positionsRaw := List.replicate 12 2048
      anchorPositionsUrad := List.replicate 12 0
      unwrappedPositionsRaw := List.replicate 12 2048 }
  | .getDispatchDiagnostics =>
    { statusCode := 0, active := false, faulted := false, ready := true, failureCount := 0 }
  | .getTrackingDiagnostics => { statusCode := 0, active := false, pending := false }
  | .getFeedbackSnapshot =>
    { statusCode := 0
      jointCount := 12
      presentMask := 0xFFF
      positionsUrad := List.replicate 12 0
      sampleAgeMs := List.replicate 12 0 }
  | .getExecutorDiagnostics => { state := .closed, safeStopRequired := false }
  | .arm _ => ()
  | .openStream _ | .append _ | .splice _ =>
    { statusCode := .ok, contractResult := .ok, armMask := 3 }

/-- Twenty points at rest, 5 ms apart. -/
def points : List TimedJointPoint :=
  (List.range 20).map fun (n : Nat) =>
    { offsetMs := 20 + 5 * n, positionsRad := List.replicate 12 (.urad 0) }

end Bench

end MobileBimanual.Adapter
