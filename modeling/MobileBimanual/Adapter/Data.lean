/-
# The resident stream adapter: its data and its checks

`bimanual_stream_adapter.py` up to the operations: what the adapter keeps, what it calls on its
transport, and the pure functions that judge points and routes.

How the Python is read:

* an `int` is an `Int`, and an exception is its class with its text; the text of a dataclass inside
  a message is what `repr` makes of it, which the setup brings along;
* a position in radians is `JointValue`: not a number, not finite, or the micro-radians that
  `round(float(value) * 1_000_000.0)` makes of it, so that no floating point is left;
* a reading of `time.monotonic()` is an `Int` of microseconds;
* the class attributes that a subclass overrides are the record `Profile`.
-/
import MobileBimanual.Lib.Program
import MobileBimanual.Stream.HostBatch

namespace MobileBimanual.Adapter

open MobileBimanual.Stream
open MobileBimanual.Stream.Host (StreamSampleV2 StreamBatchV2 StreamPolicyV2 tickAfter)

/-! ## 1. Exceptions -/

inductive HostErrorKind where
  | stream
  | contract
  | ownership
  | transientFeedback
  | responseTimeout
  | index
  /-- Whatever else a transport call raises. -/
  | other (className : String)
  deriving DecidableEq

def HostErrorKind.className : HostErrorKind → String
  | .stream => "BimanualStreamError"
  | .contract => "BimanualStreamContractError"
  | .ownership => "BimanualStreamOwnershipError"
  | .transientFeedback => "BimanualTransientFeedbackError"
  | .responseTimeout => "StreamResponseTimeoutError"
  | .index => "IndexError"
  | .other className => className

structure HostError where
  kind : HostErrorKind
  message : String
  deriving DecidableEq

def contractIf (bad : Prop) [Decidable bad] (message : String) : Except HostError Unit :=
  if bad then .error ⟨.contract, message⟩ else .ok ()

def streamIf (bad : Prop) [Decidable bad] (message : String) : Except HostError Unit :=
  if bad then .error ⟨.stream, message⟩ else .ok ()

theorem contractIf_ok_iff {bad : Prop} [Decidable bad] {message : String} :
    contractIf bad message = .ok () ↔ ¬ bad := by
  unfold contractIf
  split_ifs with h
  · exact ⟨nofun, fun hgood => absurd h hgood⟩
  · exact ⟨fun _ => h, fun _ => rfl⟩

theorem streamIf_ok_iff {bad : Prop} [Decidable bad] {message : String} :
    streamIf bad message = .ok () ↔ ¬ bad := by
  unfold streamIf
  split_ifs with h
  · exact ⟨nofun, fun hgood => absurd h hgood⟩
  · exact ⟨fun _ => h, fun _ => rfl⟩

/-- `points[0]`. -/
def first {α : Type} : List α → Except HostError α
  | [] => .error ⟨.index, "tuple index out of range"⟩
  | item :: _ => .ok item

/-- `points[-1]`. -/
def last {α : Type} (items : List α) : Except HostError α :=
  match items.getLast? with
  | none => .error ⟨.index, "tuple index out of range"⟩
  | some item => .ok item

theorem last_of_ne_nil {α : Type} {items : List α} (h : items ≠ []) :
    ∃ item, last items = .ok item := by
  unfold last
  rw [List.getLast?_eq_getLast_of_ne_nil h]
  exact ⟨_, rfl⟩

/-! ## 2. The setup -/

def canonicalJointNames : List String :=
  ["left_base_joint", "left_shoulder_joint", "left_elbow_joint", "left_wrist_flex_joint",
    "left_wrist_roll_joint", "left_gripper_joint", "right_base_joint", "right_shoulder_joint",
    "right_elbow_joint", "right_wrist_flex_joint", "right_wrist_roll_joint",
    "right_gripper_joint"]

def jointName (joint : Joint) : String := canonicalJointNames.getD joint ""

def protocolVersion : Int := 2
def hostControlTickMs : Int := 5
def defaultHeartbeatPeriodUs : Int := 100000
def defaultFeedbackTransportFailureLimit : Nat := 3

structure OperationalLimits where
  minimumUrad : Joint → Int
  maximumUrad : Joint → Int
  hardwareAuthorized : Bool

structure ResidentStreamConfig where
  minimumStartSamples : Int := 2
  minimumLeadMs : Int := 20
  maximumLeadMs : Int := 400
  openCommandTimeoutMs : Int := 100
  finiteCommandTimeoutMs : Int := 500
  maximumApplyLatenessMs : Int := 5
  trackingErrorLimitUrad : Int := 90000
  gripperTrackingErrorLimitUrad : Int := 150000
  maximumStepUradPerTick : Int := 9000
  terminalSettleToleranceUrad : Int := 46020
  terminalSettleGripperToleranceUrad : Int := 150000
  terminalFeedbackMaxAgeMs : Int := 150

structure Profile where
  calibrationHash : Int := 0x2D90167E
  firmwareVersion : Int := 0x00024908
  capabilities : Int := 0xEFFFFFFF
  physicalJointCount : Nat := 12
  rightPresentMask : Int := 0x3F
  feedbackPresentMask : Int := 0x0FFF
  armMask : Int := 0x03

/-! ## 3. The transport -/

structure HelloV2 where
  protocolVersion : Int
  jointCount : Nat
  stopLatched : Bool
  firmwareVersion : Int
  leftCalibrationHash : Int
  rightCalibrationHash : Int
  capabilities : Int

structure StateV2 where
  stopLatched : Bool
  statusCode : Int
  lastHeartbeatMs : Int

structure StreamStatusV2 where
  statusCode : StreamStatusCode
  contractResult : ContractResult
  armMask : Int

structure StreamExecutorDiagnosticsV2 where
  state : ExecutorState
  safeStopRequired : Bool

structure StreamShadowSnapshotV2 where
  statusCode : Int
  jointCount : Nat
  leftPresentMask : Int
  rightPresentMask : Int
  positionsRaw : List Int
  anchorPositionsUrad : List Int
  unwrappedPositionsRaw : List Int

structure BimanualDispatchDiagnosticsV2 where
  statusCode : Int
  active : Bool
  faulted : Bool
  ready : Bool
  failureCount : Int

structure BimanualTrackingDiagnosticsV2 where
  statusCode : Int
  active : Bool
  pending : Bool

structure BimanualFeedbackSnapshotV2 where
  statusCode : Int
  jointCount : Nat
  presentMask : Int
  positionsUrad : List Int
  sampleAgeMs : List Nat

/-- The methods of `StreamTransportV2`. -/
inductive Request where
  | enterBinaryMode
  | heartbeat
  | getState
  | prepareShadow
  | getDispatchDiagnostics
  | getTrackingDiagnostics
  | getFeedbackSnapshot
  | getExecutorDiagnostics
  | arm (calibrationHash : Int)
  | enable
  | openStream (policy : StreamPolicyV2)
  | append (batch : StreamBatchV2)
  | splice (batch : StreamBatchV2)
  | safeStop

def Request.Answer : Request → Type
  | .enterBinaryMode => HelloV2
  | .heartbeat | .getState | .enable | .safeStop => StateV2
  | .prepareShadow => StreamShadowSnapshotV2
  | .getDispatchDiagnostics => BimanualDispatchDiagnosticsV2
  | .getTrackingDiagnostics => BimanualTrackingDiagnosticsV2
  | .getFeedbackSnapshot => BimanualFeedbackSnapshotV2
  | .getExecutorDiagnostics => StreamExecutorDiagnosticsV2
  | .arm _ => Unit
  | .openStream _ | .append _ | .splice _ => StreamStatusV2


/-- What an adapter is built with. -/
structure Setup where
  limits : OperationalLimits
  motionAuthorized : Bool
  config : ResidentStreamConfig
  profile : Profile
  repr : (request : Request) → request.Answer → String

/-! ## 4. The adapter -/

inductive AdapterState where
  | new
  | ready
  | active
  | stopped
  | faulted
  deriving DecidableEq

/-- What the adapter asks of the world: its transport, and the clock.  The state it asks in is for
the record. -/
inductive HostCall where
  | transport (state : AdapterState) (request : Request)
  | monotonic

def HostCall.Reply : HostCall → Type
  | .transport _ request => Except HostError request.Answer
  | .monotonic => Int

structure PreparedBimanualState where
  positionsRaw : List Int
  unwrappedPositionsRaw : List Int
  positionsUrad : List Int
  deriving DecidableEq

structure ResidentAdapter where
  state : AdapterState
  owner : Option String
  epoch : Int
  prepared : Option PreparedBimanualState
  tailTick : Option Int
  tailPositionsUrad : Option (List Int)
  routeSamples : List StreamSampleV2
  finiteHorizonTick : Option Int
  pendingFiniteSamples : List StreamSampleV2
  armed : Bool
  lastHeartbeatMonotonic : Option Int
  faultDiagnostic : Option String
  feedbackTransportFailureStreak : Nat
  deriving DecidableEq

def newAdapter : ResidentAdapter where
  state := .new
  owner := none
  epoch := 0
  prepared := none
  tailTick := none
  tailPositionsUrad := none
  routeSamples := []
  finiteHorizonTick := none
  pendingFiniteSamples := []
  armed := false
  lastHeartbeatMonotonic := none
  faultDiagnostic := none
  feedbackTransportFailureStreak := 0

/-- `__init__`: development ranges cannot authorize hardware motion. -/
def residentInit (limits : OperationalLimits) (motionAuthorized : Bool) :
    Except HostError ResidentAdapter := do
  contractIf (motionAuthorized ∧ ¬ limits.hardwareAuthorized)
    "development ranges cannot authorize hardware motion"
  .ok newAdapter

def ResidentAdapter.heartbeatRequired (adapter : ResidentAdapter) : Bool :=
  adapter.armed && (adapter.state == .ready || adapter.state == .active)

/-- `_advance_epoch`: the epoch skips 0. -/
def advanceEpoch (adapter : ResidentAdapter) : ResidentAdapter :=
  let epoch := (adapter.epoch + 1) % 2 ^ 32
  { adapter with epoch := if epoch = 0 then 1 else epoch }

/-! ## 5. Ticks and points -/

/-- `_tick`. -/
def tickAt (base offset : Int) : Int := (base + offset) % 2 ^ 32

/-- `(candidate - reference) & 0xFFFFFFFF`. -/
def lead (candidate reference : Int) : Int := (candidate - reference) % 2 ^ 32

inductive JointValue where
  | notNumeric
  | notFinite
  | urad (value : Int)
  deriving DecidableEq

structure TimedJointPoint where
  offsetMs : Int
  positionsRad : List JointValue
  deriving DecidableEq

/-- A validated point: `(offset_ms, positions)`. -/
abbrev Converted := Int × List Int

def jointUrad : JointValue → Except HostError Int
  | .notNumeric => .error ⟨.contract, "joint positions must be numeric"⟩
  | .notFinite => .error ⟨.contract, "joint positions must be finite"⟩
  | .urad value =>
    if -2 ^ 31 ≤ value ∧ value < 2 ^ 31 then .ok value
    else .error ⟨.contract, "joint position exceeds int32 urad"⟩

/-- `_to_urad`. -/
def toUrad (positionsRad : List JointValue) : Except HostError (List Int) := do
  contractIf (positionsRad.length ≠ jointCount) "each point must contain 12 positions"
  positionsRad.mapM jointUrad

/-- The inner loop of both validators at one joint: inside the limits, and no faster than the
policy from the previous positions. -/
def checkJoint (setup : Setup) (spanMs : Int) (positions : List Int)
    (previousPositions : Option (List Int)) (joint : Joint) : Except HostError Unit := do
  let position := positions.getD joint 0
  contractIf (¬ (setup.limits.minimumUrad joint ≤ position ∧
      position ≤ setup.limits.maximumUrad joint))
    s!"joint target outside approved range: joint={jointName joint} value={position}"
  match previousPositions with
  | none => .ok ()
  | some previous =>
    contractIf (|position - previous.getD joint 0| >
        setup.config.maximumStepUradPerTick * (spanMs / hostControlTickMs))
      s!"joint step exceeds host policy: joint={jointName joint}"

def checkPositions (setup : Setup) (spanMs : Int) (positions : List Int)
    (previousPositions : Option (List Int)) : Except HostError Unit :=
  (List.finRange 12).forM (checkJoint setup spanMs positions previousPositions)

/-- The loop of `_validate_points`; `spanMs` is overwritten from the second point on. -/
def validatePointsFrom (setup : Setup) (previousOffset : Option Int)
    (previousPositions : Option (List Int)) (spanMs : Int) :
    List TimedJointPoint → Except HostError (List Converted)
  | [] => .ok []
  | point :: points => do
    contractIf (point.offsetMs ≤ 0) "point offsets must be positive integer milliseconds"
    contractIf (point.offsetMs > setup.config.maximumLeadMs)
      "point exceeds the configured maximum lead"
    let spanMs := match previousOffset with
      | none => spanMs
      | some previous => point.offsetMs - previous
    contractIf (spanMs ≤ 0 ∨ spanMs % hostControlTickMs ≠ 0)
      "point intervals must be positive multiples of 5 ms"
    let positions ← toUrad point.positionsRad
    checkPositions setup spanMs positions previousPositions
    let converted ←
      validatePointsFrom setup (some point.offsetMs) (some positions) spanMs points
    .ok ((point.offsetMs, positions) :: converted)

/-- `_validate_points`. -/
def validatePoints (setup : Setup) (points : List TimedJointPoint)
    (firstReferenceUrad : Option (List Int)) (firstSpanMs : Int) :
    Except HostError (List Converted) := do
  contractIf (¬ (1 ≤ points.length ∧ points.length ≤ wireMaxSamples))
    "batch must contain 1..9 points"
  validatePointsFrom setup none firstReferenceUrad firstSpanMs points

/-- The loop of `_validate_finite_plan_points`. -/
def validateFiniteFrom (setup : Setup) (previousOffset : Int)
    (previousPositions : Option (List Int)) :
    List TimedJointPoint → Except HostError (List Converted)
  | [] => .ok []
  | point :: points => do
    contractIf (point.offsetMs ≤ previousOffset ∨ point.offsetMs % hostControlTickMs ≠ 0)
      "finite plan offsets must be increasing positive multiples of 5 ms"
    let positions ← toUrad point.positionsRad
    checkPositions setup (point.offsetMs - previousOffset) positions previousPositions
    let converted ← validateFiniteFrom setup point.offsetMs (some positions) points
    .ok ((point.offsetMs, positions) :: converted)

/-- `_validate_finite_plan_points`. -/
def validateFinitePlanPoints (setup : Setup) (prepared : Option PreparedBimanualState)
    (points : List TimedJointPoint) : Except HostError (List Converted) := do
  contractIf ((points.length : Int) < setup.config.minimumStartSamples)
    "finite plan has fewer than minimum_start_samples"
  let point ← first points
  contractIf (point.offsetMs < setup.config.minimumLeadMs)
    "finite plan initial point lead is too short"
  validateFiniteFrom setup 0 (prepared.map (·.positionsUrad)) points

/-! ## 6. Routes -/

/-- `_future_route`. -/
def futureRoute (route : List StreamSampleV2) (baseTick : Int) : List StreamSampleV2 :=
  route.filter fun sample => tickAfter sample.applyTick baseTick

/-- The positions at `applyTick` on the way from `left` to `right`; `//` is made to truncate. -/
def interpolateBetween (left right : StreamSampleV2) (applyTick : Int) : List Int :=
  let span := lead right.applyTick left.applyTick
  let elapsed := lead applyTick left.applyTick
  List.zipWith (fun leftPosition rightPosition =>
      leftPosition + ((rightPosition - leftPosition) * elapsed).tdiv span)
    left.positionsUrad right.positionsUrad

/-- The second loop of `_interpolate_route`. -/
def interpolatePairs (applyTick : Int) : List StreamSampleV2 → Except HostError (List Int)
  | left :: right :: route =>
    if tickAfter applyTick left.applyTick && tickAfter right.applyTick applyTick then
      .ok (interpolateBetween left right applyTick)
    else interpolatePairs applyTick (right :: route)
  | _ => .error
      ⟨.contract, "splice point is not inside the currently admitted future route"⟩

/-- `_interpolate_route`. -/
def interpolateRoute (route : List StreamSampleV2) (applyTick : Int) :
    Except HostError (List Int) :=
  match route.find? fun sample => sample.applyTick = applyTick with
  | some sample => .ok sample.positionsUrad
  | none => interpolatePairs applyTick route

/-- The samples of the pump's next batch: the first of those pending inside the lead window. -/
def readySamples (setup : Setup) (base : Int) (countLimit : Int)
    (pending : List StreamSampleV2) : List StreamSampleV2 :=
  (pending.takeWhile fun sample =>
    lead sample.applyTick base ≤ setup.config.maximumLeadMs).take countLimit.toNat

/-- `_policy`. -/
def policyFor (setup : Setup) (horizonEndTick : Int) : StreamPolicyV2 where
  minimumStartSamples := setup.config.minimumStartSamples
  minimumLeadMs := setup.config.minimumLeadMs
  horizonEndTick := horizonEndTick
  maximumLeadMs := setup.config.maximumLeadMs
  commandTimeoutMs :=
    if horizonEndTick = 0 then setup.config.openCommandTimeoutMs
    else setup.config.finiteCommandTimeoutMs
  maximumApplyLatenessMs := setup.config.maximumApplyLatenessMs
  trackingErrorLimitUrad := (List.range jointCount).map fun index =>
    if index = 5 ∨ index = 11 then setup.config.gripperTrackingErrorLimitUrad
    else setup.config.trackingErrorLimitUrad
  maximumStepUradPerTick := List.replicate jointCount setup.config.maximumStepUradPerTick
  armMask := setup.profile.armMask

end MobileBimanual.Adapter
