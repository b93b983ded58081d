/-
# The resident stream adapter: its operations

The methods of `ResidentBimanualStreamAdapter` as actions: programs over the transport that keep a
`ResidentAdapter` and may raise.  What a method has written when it raises stays written, and
`orFault` is the `except Exception as error: self._fault(error)` that ends most of them.
-/
import MobileBimanual.Adapter.Data

namespace MobileBimanual.Adapter

open MobileBimanual.Stream
open MobileBimanual.Stream.Host (StreamSampleV2 StreamBatchV2 StreamPolicyV2 tickAfter)
open Activity (ask expect)

abbrev Operation (α : Type) := Activity HostCall HostCall.Reply HostError ResidentAdapter α

/-! ## 1. Calls and faults -/

/-- A method of the transport. -/
def transport (request : Request) : Operation request.Answer := do
  let adapter ← get
  let reply : Except HostError request.Answer ← ask (HostCall.transport adapter.state request)
  expect reply

@[simp] theorem program_transport (request : Request) (adapter : ResidentAdapter) :
    (transport request).program adapter =
      .call (HostCall.transport adapter.state request) fun reply => .done (reply, adapter) := by
  refine congrArg (Program.call (HostCall.transport adapter.state request)) (funext fun reply => ?_)
  cases reply <;> rfl

/-- `time.monotonic()`. -/
def monotonic : Operation Int := ask HostCall.monotonic

@[simp] theorem program_monotonic (adapter : ResidentAdapter) :
    monotonic.program adapter =
      .call HostCall.monotonic fun now => .done (Except.ok now, adapter) := rfl

/-- One entry of `_collect_post_stop_diagnostics`. -/
def diagnosticText (setup : Setup) (label : String) (request : Request) : Operation String := do
  match ← (transport request).attempt with
  | .ok reply => pure s!"{label}={setup.repr request reply}"
  | .error error => pure s!"{label}_error={error.kind.className}: {error.message}"

/-- `_collect_post_stop_diagnostics`. -/
def collectPostStopDiagnostics (setup : Setup) : Operation String := do
  let executor ← diagnosticText setup "executor" .getExecutorDiagnostics
  let dispatch ← diagnosticText setup "dispatch" .getDispatchDiagnostics
  let tracking ← diagnosticText setup "tracking" .getTrackingDiagnostics
  let feedback ← diagnosticText setup "feedback" .getFeedbackSnapshot
  let state ← diagnosticText setup "state" .getState
  pure ("; ".intercalate [executor, dispatch, tracking, feedback, state])

def safeStopErrorText : Except HostError StateV2 → String
  | .ok _ => ""
  | .error error => s!"; safe_stop_error={error.kind.className}: {error.message}"

/-- The stop of `_fault` over powered arms, with what it adds to the message. -/
def stopOnFault (setup : Setup) : Operation String := do
  let stopped ← (transport .safeStop).attempt
  modify fun adapter => { adapter with armed := false }
  let diagnostics ← collectPostStopDiagnostics setup
  pure s!"{safeStopErrorText stopped}; post_stop_diagnostics: {diagnostics}"

/-- `_fault`. -/
def fault {α : Type} (setup : Setup) (error : HostError) : Operation α := do
  modify fun adapter => { adapter with state := .faulted }
  let adapter ← get
  let added ← if adapter.armed then stopOnFault setup else pure ""
  modify fun adapter => { adapter with faultDiagnostic := some (error.message ++ added) }
  throw ⟨.stream, error.message ++ added⟩

def orFault {α : Type} (setup : Setup) (body : Operation α) : Operation α :=
  tryCatch body (fault setup)

/-- `_healthy_heartbeat`. -/
def healthyHeartbeat (setup : Setup) : Operation StateV2 := do
  let state ← transport .heartbeat
  expect (streamIf (state.stopLatched ∨ state.statusCode ≠ 0)
    s!"heartbeat failed: {setup.repr .heartbeat state}")
  let now ← monotonic
  modify fun adapter => { adapter with lastHeartbeatMonotonic := some now }
  pure state

/-- `_require_accepted`. -/
def requireAccepted (setup : Setup) (text : String) (status : StreamStatusV2) (label : String) :
    Except HostError Unit :=
  streamIf (status.statusCode ≠ .ok ∨ status.contractResult ≠ .ok ∨
      status.armMask ≠ setup.profile.armMask)
    s!"{label} rejected: {text}"

/-! ## 2. Ownership -/

/-- The characters that `str.strip` takes off. -/
def isSpace (c : Char) : Bool :=
  let n := c.toNat
  decide ((9 ≤ n ∧ n ≤ 13) ∨ (28 ≤ n ∧ n ≤ 32) ∨ n = 0x85 ∨ n = 0xA0 ∨ n = 0x1680 ∨
    (0x2000 ≤ n ∧ n ≤ 0x200A) ∨ n = 0x2028 ∨ n = 0x2029 ∨ n = 0x202F ∨ n = 0x205F ∨ n = 0x3000)

@[irreducible] def strip (text : String) : String :=
  String.ofList
    ((text.toList.dropWhile isSpace).reverse.dropWhile isSpace).reverse

/-- `_claim`. -/
def claim (owner : String) : Operation Unit := do
  let normalized := strip owner
  if normalized.isEmpty then throw ⟨.ownership, "stream owner must not be empty"⟩
  let adapter ← get
  match adapter.owner with
  | none => set (advanceEpoch { adapter with owner := some normalized })
  | some current =>
    if current ≠ normalized then
      throw ⟨.ownership, s!"stream is owned by '{current}', not '{normalized}'"⟩

/-! ## 3. Preparation -/

def shadowFailureReason : Int → String
  | 1 => "stream executor is active"
  | 2 => "left-arm torque-disable command failed"
  | 3 => "right-arm verified torque-disable failed"
  | 4 => "left-arm position capture failed"
  | 5 => "right-arm position capture failed"
  | 6 => "raw-to-angle calibration conversion failed"
  | 7 => "invalid shadow preparation request"
  | 8 => "joint unwrap or operational-limit binding failed"
  | _ => "unknown firmware shadow failure"

def checkAnchor (setup : Setup) (positions : List Int) (joint : Joint) : Except HostError Unit :=
  let position := positions.getD joint 0
  streamIf (¬ (setup.limits.minimumUrad joint ≤ position ∧
      position ≤ setup.limits.maximumUrad joint))
    s!"anchor outside operational limits: joint={jointName joint} value={position}"

/-- `_prepared_from_snapshot`. -/
def preparedFromSnapshot (setup : Setup) (snapshot : StreamShadowSnapshotV2) :
    Except HostError PreparedBimanualState := do
  streamIf (snapshot.statusCode ≠ 0)
    (s!"{setup.profile.physicalJointCount}-axis anchor failed: " ++
      s!"status={snapshot.statusCode} reason={shadowFailureReason snapshot.statusCode}; " ++
      "firmware stop is latched and STM32 reset is required")
  streamIf (snapshot.jointCount ≠ setup.profile.physicalJointCount ∨
      snapshot.leftPresentMask ≠ 0x3F ∨
      snapshot.rightPresentMask ≠ setup.profile.rightPresentMask ∨
      snapshot.positionsRaw.length ≠ jointCount ∨
      snapshot.unwrappedPositionsRaw.length ≠ jointCount ∨
      snapshot.anchorPositionsUrad.length ≠ jointCount)
    (s!"{setup.profile.physicalJointCount}-axis anchor failed: " ++
      setup.repr .prepareShadow snapshot)
  (List.finRange 12).forM (checkAnchor setup snapshot.anchorPositionsUrad)
  .ok
    { positionsRaw := snapshot.positionsRaw
      unwrappedPositionsRaw := snapshot.unwrappedPositionsRaw
      positionsUrad := snapshot.anchorPositionsUrad }

/-- The identity that `prepare` insists on. -/
def helloMatches (setup : Setup) (hello : HelloV2) : Bool :=
  hello.protocolVersion == protocolVersion &&
    hello.jointCount == setup.profile.physicalJointCount &&
    hello.firmwareVersion == setup.profile.firmwareVersion &&
    hello.leftCalibrationHash == setup.profile.calibrationHash &&
    hello.rightCalibrationHash == setup.profile.calibrationHash &&
    hello.capabilities == setup.profile.capabilities && !hello.stopLatched

def prepareBody (setup : Setup) : Operation PreparedBimanualState := do
  let hello ← transport .enterBinaryMode
  expect (streamIf (helloMatches setup hello = false)
    s!"unexpected F8 identity: {setup.repr .enterBinaryMode hello}")
  let state ← transport .heartbeat
  let dispatch ← transport .getDispatchDiagnostics
  let tracking ← transport .getTrackingDiagnostics
  let snapshot ← transport .prepareShadow
  expect (streamIf (state.stopLatched ∨ state.statusCode ≠ 0)
    s!"unhealthy preflight state: {setup.repr .heartbeat state}")
  expect (streamIf (dispatch.statusCode ≠ 0 ∨ dispatch.active ∨ dispatch.faulted ∨ !dispatch.ready)
    s!"dispatch is not ready: {setup.repr .getDispatchDiagnostics dispatch}")
  expect (streamIf (tracking.statusCode ≠ 0 ∨ tracking.active ∨ tracking.pending)
    s!"tracking is not idle: {setup.repr .getTrackingDiagnostics tracking}")
  let prepared ← expect (preparedFromSnapshot setup snapshot)
  modify fun adapter => { adapter with prepared := some prepared, state := .ready }
  pure prepared

/-- `prepare`. -/
def prepare (setup : Setup) : Operation PreparedBimanualState := do
  let adapter ← get
  expect (streamIf (adapter.state ≠ .new) "adapter preparation is single-use")
  orFault setup (prepareBody setup)

/-- The reading of a refresh. -/
def readAnchor (setup : Setup) : Operation PreparedBimanualState := do
  let state ← transport .heartbeat
  expect (streamIf (state.stopLatched ∨ state.statusCode ≠ 0)
    s!"anchor refresh heartbeat failed: {setup.repr .heartbeat state}")
  let snapshot ← transport .prepareShadow
  expect (preparedFromSnapshot setup snapshot)

def refreshBody (setup : Setup) : Operation PreparedBimanualState := do
  let prepared ← readAnchor setup
  modify fun adapter => { adapter with prepared := some prepared }
  pure prepared

/-- `refresh_unarmed_anchor`. -/
def refreshUnarmedAnchor (setup : Setup) : Operation PreparedBimanualState := do
  let adapter ← get
  expect (contractIf (adapter.state ≠ .ready ∨ adapter.armed ∨ adapter.owner ≠ none)
    "unarmed anchor refresh requires an unowned READY session")
  orFault setup (refreshBody setup)

/-! ## 4. Keepalive and feedback -/

/-- The heartbeat of the last `DEFAULT_HEARTBEAT_PERIOD_S` will do. -/
def heartbeatFresh (adapter : ResidentAdapter) (now : Int) : Bool :=
  match adapter.lastHeartbeatMonotonic with
  | none => false
  | some heartbeat => decide (now - heartbeat < defaultHeartbeatPeriodUs)

/-- `keepalive`. -/
def keepalive (setup : Setup) (force : Bool) : Operation (Option StateV2) := do
  let adapter ← get
  if !adapter.heartbeatRequired then pure none
  else
    let now ← monotonic
    if !force && heartbeatFresh adapter now then pure none
    else orFault setup (some <$> healthyHeartbeat setup)

/-- `_validated_feedback_snapshot`. -/
def validatedFeedbackSnapshot (setup : Setup) : Operation BimanualFeedbackSnapshotV2 := do
  let snapshot ← transport .getFeedbackSnapshot
  expect (streamIf (snapshot.statusCode ≠ 0 ∨
      snapshot.jointCount ≠ setup.profile.physicalJointCount ∨
      snapshot.presentMask ≠ setup.profile.feedbackPresentMask ∨
      snapshot.positionsUrad.length ≠ jointCount ∨ snapshot.sampleAgeMs.length ≠ jointCount)
    (s!"incomplete {setup.profile.physicalJointCount}-axis feedback snapshot: " ++
      setup.repr .getFeedbackSnapshot snapshot))
  pure snapshot

/-- The two `except` branches of `feedback_snapshot`. -/
def feedbackFailed (setup : Setup) (error : HostError) : Operation BimanualFeedbackSnapshotV2 := do
  if error.kind = .responseTimeout then
    modify fun adapter => { adapter with
      feedbackTransportFailureStreak := adapter.feedbackTransportFailureStreak + 1 }
    let adapter ← get
    let streak := adapter.feedbackTransportFailureStreak
    if streak < defaultFeedbackTransportFailureLimit then
      throw ⟨.transientFeedback, s!"transient feedback transport delay ({streak}/" ++
        s!"{defaultFeedbackTransportFailureLimit}): {error.message}"⟩
    else fault setup ⟨.stream, s!"feedback transport failed consecutively ({streak}/" ++
      s!"{defaultFeedbackTransportFailureLimit}): {error.message}"⟩
  else fault setup error

/-- `feedback_snapshot`. -/
def feedbackSnapshot (setup : Setup) : Operation BimanualFeedbackSnapshotV2 := do
  let adapter ← get
  expect (streamIf (adapter.state = .new ∨ adapter.state = .faulted) "feedback is unavailable")
  tryCatch
    (do
      let _ ← keepalive setup false
      let snapshot ← validatedFeedbackSnapshot setup
      modify fun adapter => { adapter with feedbackTransportFailureStreak := 0 }
      pure snapshot)
    (feedbackFailed setup)

/-! ## 5. The start of a stream -/

def samplesAt (base : Int) (converted : List Converted) : List StreamSampleV2 :=
  converted.map fun point => ⟨tickAt base point.1, point.2⟩

/-- The points of a finite plan, and how many of them the first batch takes. -/
def finiteStartPoints (setup : Setup) (prepared : Option PreparedBimanualState)
    (points : List TimedJointPoint) : Except HostError (List Converted × Nat) := do
  let convertedAll ← validateFinitePlanPoints setup prepared points
  let initialCount :=
    min wireMaxSamples (convertedAll.countP fun point => point.1 ≤ setup.config.maximumLeadMs)
  contractIf ((initialCount : Int) < setup.config.minimumStartSamples)
    "finite plan does not provide enough samples inside the initial lead window"
  .ok (convertedAll, initialCount)

/-- The points of a rolling stream, all of them in the first batch. -/
def rollingStartPoints (setup : Setup) (prepared : PreparedBimanualState)
    (points : List TimedJointPoint) : Except HostError (List Converted × Nat) := do
  contractIf ((points.length : Int) < setup.config.minimumStartSamples)
    "initial batch has fewer than minimum_start_samples"
  let point ← first points
  contractIf (point.offsetMs < setup.config.minimumLeadMs) "initial point lead is too short"
  let convertedAll ← validatePoints setup points (some prepared.positionsUrad) point.offsetMs
  .ok (convertedAll, convertedAll.length)

/-- ARM and ENABLE, on the first start. -/
def armAndEnable (setup : Setup) : Operation Unit := do
  let adapter ← get
  if adapter.armed then pure ()
  else
    modify fun adapter => { adapter with armed := true }
    transport (.arm setup.profile.calibrationHash)
    let postArm ← healthyHeartbeat setup
    expect (streamIf (postArm.stopLatched ∨ postArm.statusCode ≠ 0)
      s!"post-arm heartbeat failed: {setup.repr .heartbeat postArm}")
    let enabled ← transport .enable
    expect (streamIf (enabled.stopLatched ∨ enabled.statusCode ≠ 0)
      s!"enable failed: {setup.repr .enable enabled}")

def appendBatch (setup : Setup) (adapter : ResidentAdapter) (horizon : Int)
    (samples : List StreamSampleV2) : StreamBatchV2 where
  horizonEndTick := horizon
  arbiterEpoch := adapter.epoch
  samples := samples
  armMask := setup.profile.armMask
  spliceAtTick := 0

/-- `transport.append` and `_require_accepted`. -/
def sendAppend (setup : Setup) (batch : StreamBatchV2) (label : String) :
    Operation StreamStatusV2 := do
  let status ← transport (.append batch)
  expect (requireAccepted setup (setup.repr (.append batch) status) status label)
  pure status

/-- What the adapter notes of an acknowledged first batch. -/
def noteStarted (adapter : ResidentAdapter) (finite : Bool) (horizon : Int)
    (samples pending : List StreamSampleV2) (tail : StreamSampleV2) : ResidentAdapter :=
  { adapter with
    routeSamples := samples
    tailTick := some tail.applyTick
    tailPositionsUrad := some tail.positionsUrad
    finiteHorizonTick := if finite then some horizon else none
    pendingFiniteSamples := pending
    state := .active }

/-- OPEN, and the first batch of the samples. -/
def openAndFill (setup : Setup) (convertedAll : List Converted) (initialCount : Nat)
    (finite : Bool) : Operation StreamStatusV2 := do
  let heartbeat ← healthyHeartbeat setup
  let allSamples := samplesAt heartbeat.lastHeartbeatMs convertedAll
  let samples := allSamples.take initialCount
  let horizon ← expect (if finite then (·.applyTick) <$> last allSamples else .ok 0)
  let policy := policyFor setup horizon
  let opened ← transport (.openStream policy)
  expect (requireAccepted setup (setup.repr (.openStream policy) opened) opened "stream open")
  let adapter ← get
  let appended ← sendAppend setup (appendBatch setup adapter horizon samples) "initial append"
  modify fun adapter => { adapter with routeSamples := samples }
  let tail ← expect (last samples)
  modify fun adapter =>
    noteStarted adapter finite horizon samples (allSamples.drop initialCount) tail
  pure appended

/-- The points of a start, judged from the pose that the anchor gives. -/
def startPoints (setup : Setup) (prepared : Option PreparedBimanualState)
    (points : List TimedJointPoint) (finite : Bool) : Except HostError (List Converted × Nat) :=
  if finite then finiteStartPoints setup prepared points
  else match prepared with
    | none => .error ⟨.stream, "adapter is not ready"⟩
    | some prepared => rollingStartPoints setup prepared points

/-- A torque-off anchor goes stale, so an unarmed start reads it again. -/
def freshAnchor (setup : Setup) : Operation Unit := do
  let adapter ← get
  if adapter.armed then pure ()
  else
    let _ ← refreshUnarmedAnchor setup
    pure ()

/-- The claim of a start: the owner of an earlier one starts under a new epoch. -/
def claimStart (owner : String) : Operation Unit := do
  let adapter ← get
  claim owner
  if adapter.owner ≠ none then modify advanceEpoch

/-- `start`. -/
def start (setup : Setup) (owner : String) (points : List TimedJointPoint) (finite : Bool) :
    Operation StreamStatusV2 := do
  expect (streamIf (setup.motionAuthorized = false) "motion_authorized is false")
  let adapter ← get
  expect (streamIf (adapter.state ≠ .ready ∨ adapter.prepared = none) "adapter is not ready")
  freshAnchor setup
  let adapter ← get
  let (convertedAll, initialCount) ← expect (startPoints setup adapter.prepared points finite)
  claimStart owner
  orFault setup do
    armAndEnable setup
    openAndFill setup convertedAll initialCount finite

/-! ## 6. The feeder -/

/-- The batch of `_pump_finite_plan` under a heartbeat, with the route it will leave; `none` when
there is nothing to send. -/
def pumpBatch (setup : Setup) (adapter : ResidentAdapter) (horizon : Int) (base : Int) :
    Except HostError (Option (StreamBatchV2 × List StreamSampleV2)) := do
  let route := futureRoute adapter.routeSamples base
  let next ← first adapter.pendingFiniteSamples
  streamIf (tickAfter next.applyTick base = false) "finite plan feeder underrun"
  let firstLead := lead next.applyTick base
  streamIf (firstLead < setup.config.minimumLeadMs)
    s!"finite plan feeder underrun: first_lead_ms={firstLead}"
  let capacity : Int := queueCapacity - route.length
  let ready := readySamples setup base (min wireMaxSamples capacity) adapter.pendingFiniteSamples
  if ready.isEmpty then .ok none
  else .ok (some (appendBatch setup adapter horizon ready, route))

theorem pumpBatch_some {setup : Setup} {adapter : ResidentAdapter} {horizon base : Int} {batch : StreamBatchV2} {route : List StreamSampleV2}
    (h : pumpBatch setup adapter horizon base = .ok (some (batch, route))) :
    route = futureRoute adapter.routeSamples base ∧
    batch.samples = readySamples setup base (min wireMaxSamples (queueCapacity - route.length : Int))
      adapter.pendingFiniteSamples ∧
    batch.samples ≠ [] := by
  unfold pumpBatch at h
  dsimp only at h
  obtain ⟨next, -, h⟩ := Except.bind_eq_ok_iff.mp h
  obtain ⟨-, -, h⟩ := Except.bind_eq_ok_iff.mp h
  obtain ⟨-, -, h⟩ := Except.bind_eq_ok_iff.mp h
  split_ifs at h with hempty
  · cases h
  · cases h
    exact ⟨rfl, rfl, fun hnil => hempty (List.isEmpty_iff.mpr hnil)⟩

/-- The adapter after an acknowledged batch behind a route. -/
def extendRoute (adapter : ResidentAdapter) (route samples : List StreamSampleV2)
    (tail : StreamSampleV2) : ResidentAdapter :=
  { adapter with
    routeSamples := route ++ samples
    tailTick := some tail.applyTick
    tailPositionsUrad := some tail.positionsUrad }

/-- `_pump_finite_plan`. -/
def pumpFinitePlan (setup : Setup) : Operation Unit := do
  let adapter ← get
  if adapter.pendingFiniteSamples.isEmpty then pure ()
  else match adapter.finiteHorizonTick, adapter.tailTick with
    | some horizon, some _ =>
      let heartbeat ← healthyHeartbeat setup
      match ← expect (pumpBatch setup adapter horizon heartbeat.lastHeartbeatMs) with
      | none => pure ()
      | some (batch, route) =>
        let _ ← sendAppend setup batch "finite plan append"
        let tail ← expect (last batch.samples)
        modify fun adapter => { extendRoute adapter route batch.samples tail with
          pendingFiniteSamples := adapter.pendingFiniteSamples.drop batch.samples.length }
    | _, _ => throw ⟨.stream, "finite plan feeder has no horizon"⟩

/-- `-gap % CONTROL_TICK_MS`, and the points on the control grid of the tail. -/
def alignedPoints (setup : Setup) (points : List TimedJointPoint) (base tailTick : Int)
    (tailPositionsUrad : List Int) : Except HostError (List StreamSampleV2) := do
  let point ← first points
  let firstTick := tickAt base point.offsetMs
  contractIf (tickAfter firstTick tailTick = false) "append begins at or before the admitted tail"
  let gap := lead firstTick tailTick
  let alignmentMs := -gap % hostControlTickMs
  let final ← last points
  contractIf (final.offsetMs + alignmentMs > setup.config.maximumLeadMs)
    "append grid alignment exceeds maximum lead"
  let converted ← validatePoints setup points (some tailPositionsUrad) (gap + alignmentMs)
  .ok (converted.map fun point => ⟨tickAt base (point.1 + alignmentMs), point.2⟩)

/-- The body of `append` behind the tail. -/
def appendBody (setup : Setup) (points : List TimedJointPoint) (tailTick : Int)
    (tailPositionsUrad : List Int) : Operation StreamStatusV2 := do
  let heartbeat ← healthyHeartbeat setup
  let adapter ← get
  let route := futureRoute adapter.routeSamples heartbeat.lastHeartbeatMs
  let samples ← expect
    (alignedPoints setup points heartbeat.lastHeartbeatMs tailTick tailPositionsUrad)
  let status ← sendAppend setup
    (appendBatch setup adapter (adapter.finiteHorizonTick.getD 0) samples) "append"
  let tail ← expect (last samples)
  modify fun adapter => extendRoute adapter route samples tail
  pure status

/-- `append`. -/
def append (setup : Setup) (owner : String) (points : List TimedJointPoint) :
    Operation StreamStatusV2 := do
  claim owner
  let adapter ← get
  match adapter.state, adapter.tailTick, adapter.tailPositionsUrad with
  | .active, some tailTick, some tailPositionsUrad =>
    orFault setup (appendBody setup points tailTick tailPositionsUrad)
  | _, _, _ => throw ⟨.stream, "stream is not active"⟩

/-! ## 7. Splices -/

/-- The guards of `splice` in front of its first call. -/
def spliceGuards (setup : Setup) (points : List TimedJointPoint) (spliceOffsetMs : Int) :
    Except HostError Unit := do
  contractIf (spliceOffsetMs % hostControlTickMs ≠ 0)
    "splice_offset_ms must be an integer multiple of 5 ms"
  contractIf (spliceOffsetMs < setup.config.minimumLeadMs) "splice lead is too short"
  contractIf (¬ (1 ≤ points.length ∧ points.length ≤ wireMaxSamples - 1))
    "splice replacement must contain 1..8 target points"
  let point ← first points
  contractIf (point.offsetMs ≤ spliceOffsetMs)
    "splice replacement points must occur after splice_offset_ms"
  let _ ← validatePoints setup points none (point.offsetMs - spliceOffsetMs)
  .ok ()

/-- The tick of the splice on the control grid of the tail, and the samples to put there. -/
def spliceSamples (setup : Setup) (points : List TimedJointPoint) (spliceOffsetMs base : Int)
    (tailTick : Int) (route : List StreamSampleV2) : Except HostError (Int × List StreamSampleV2) := do
  let alignmentMs := lead tailTick (tickAt base spliceOffsetMs) % hostControlTickMs
  let point ← first points
  let final ← last points
  contractIf (final.offsetMs + alignmentMs > setup.config.maximumLeadMs)
    "splice grid alignment exceeds maximum lead"
  let spliceTick := tickAt base (spliceOffsetMs + alignmentMs)
  contractIf (tickAfter spliceTick tailTick) "splice begins after the admitted tail"
  let continuityPositions ← interpolateRoute route spliceTick
  let converted ← validatePoints setup points (some continuityPositions)
    (point.offsetMs - spliceOffsetMs)
  .ok (spliceTick, ⟨spliceTick, continuityPositions⟩ ::
    converted.map fun point => ⟨tickAt base (point.1 + alignmentMs), point.2⟩)

/-- The body of `splice` behind the guards: the epoch is advanced before the call. -/
def spliceBody (setup : Setup) (points : List TimedJointPoint) (spliceOffsetMs tailTick : Int) :
    Operation StreamStatusV2 := do
  let heartbeat ← healthyHeartbeat setup
  let adapter ← get
  let route := futureRoute adapter.routeSamples heartbeat.lastHeartbeatMs
  let (spliceTick, samples) ← expect
    (spliceSamples setup points spliceOffsetMs heartbeat.lastHeartbeatMs tailTick route)
  modify advanceEpoch
  let adapter ← get
  let batch := { appendBatch setup adapter 0 samples with spliceAtTick := spliceTick }
  let status ← transport (.splice batch)
  expect (requireAccepted setup (setup.repr (.splice batch) status) status "splice")
  let tail ← expect (last samples)
  let retained := route.filter fun sample => tickAfter spliceTick sample.applyTick
  modify fun adapter => extendRoute adapter retained samples tail
  pure status

/-- `splice`. -/
def splice (setup : Setup) (owner : String) (points : List TimedJointPoint)
    (spliceOffsetMs : Int) : Operation StreamStatusV2 := do
  claim owner
  let adapter ← get
  match adapter.state, adapter.tailTick with
  | .active, some tailTick =>
    expect (spliceGuards setup points spliceOffsetMs)
    orFault setup (spliceBody setup points spliceOffsetMs tailTick)
  | _, _ => throw ⟨.stream, "stream is not active"⟩

/-! ## 8. Polling and stopping -/

structure PollReport where
  state : StateV2
  executor : StreamExecutorDiagnosticsV2
  dispatch : BimanualDispatchDiagnosticsV2
  tracking : BimanualTrackingDiagnosticsV2

/-- The joints whose settled position misses the target. -/
def settleViolations (setup : Setup) (measured target : List Int) : List Nat :=
  let errors := List.zipWith (fun actual target => |actual - target|) measured target
  (List.range jointCount).filter fun index =>
    errors.getD index 0 >
      if index = 5 ∨ index = 11 then setup.config.terminalSettleGripperToleranceUrad
      else setup.config.terminalSettleToleranceUrad

def maximumSettleError (measured target : List Int) : Int :=
  (List.zipWith (fun actual target => |actual - target|) measured target).foldl max 0

/-- The measured end of a finite leg: fresh enough, and at the tail. -/
def terminalAnchor (setup : Setup) (adapter : ResidentAdapter)
    (terminalFeedback : Option BimanualFeedbackSnapshotV2) :
    Except HostError PreparedBimanualState :=
  match adapter.prepared, adapter.tailPositionsUrad, terminalFeedback with
  | some prepared, some tailPositionsUrad, some feedback => do
    let maximumAge := (feedback.sampleAgeMs.take setup.profile.physicalJointCount).foldl max 0
    streamIf (maximumAge > setup.config.terminalFeedbackMaxAgeMs)
      s!"terminal feedback is stale: maximum_age_ms={maximumAge}"
    let violations := settleViolations setup feedback.positionsUrad tailPositionsUrad
    streamIf (violations ≠ [])
      (s!"terminal settle error: maximum_error_urad=" ++
        s!"{maximumSettleError feedback.positionsUrad tailPositionsUrad} " ++
        s!"violating_joints={violations}")
    .ok { prepared with positionsUrad := feedback.positionsUrad }
  | some _, some _, none => .error ⟨.stream, "finite completion has no terminal feedback"⟩
  | _, _, _ => .error ⟨.stream, "finite completion has no resident anchor"⟩

/-- The adapter at the end of a finite leg. -/
def finishLeg (adapter : ResidentAdapter) (prepared : PreparedBimanualState) : ResidentAdapter :=
  { adapter with
    prepared := some prepared
    tailTick := none
    tailPositionsUrad := none
    routeSamples := []
    finiteHorizonTick := none
    pendingFiniteSamples := []
    state := .ready }

/-- The diagnostics of one poll are looked at in this order. -/
def checkDomains (setup : Setup) (executor : StreamExecutorDiagnosticsV2)
    (dispatch : BimanualDispatchDiagnosticsV2) : Except HostError Unit := do
  streamIf (dispatch.statusCode ≠ 0 ∨ dispatch.faulted ∨ dispatch.failureCount ≠ 0)
    s!"dispatch fault: {setup.repr .getDispatchDiagnostics dispatch}"
  streamIf (executor.state = .aborted ∨ executor.state = .hold ∨ executor.safeStopRequired)
    s!"executor requires stop: {setup.repr .getExecutorDiagnostics executor}"

/-- The feedback of a poll: asked for once the executor is done. -/
def terminalFeedbackOf (setup : Setup) (executor : StreamExecutorDiagnosticsV2) :
    Operation (Option BimanualFeedbackSnapshotV2) :=
  if executor.state = .succeeded then some <$> validatedFeedbackSnapshot setup else pure none

/-- The end of a finite leg, once nothing of it is on the bus. -/
def finishWhenDone (setup : Setup) (report : PollReport)
    (terminalFeedback : Option BimanualFeedbackSnapshotV2) : Operation Unit :=
  if report.executor.state = .succeeded ∧ report.dispatch.ready ∧ !report.dispatch.active ∧
      !report.tracking.active ∧ !report.tracking.pending then do
    let adapter ← get
    let prepared ← expect (terminalAnchor setup adapter terminalFeedback)
    set (finishLeg adapter prepared)
  else pure ()

/-- The body of `poll` behind the pump. -/
def pollBody (setup : Setup) : Operation PollReport := do
  let _ ← healthyHeartbeat setup
  let executor ← transport .getExecutorDiagnostics
  let terminalFeedback ← terminalFeedbackOf setup executor
  let _ ← healthyHeartbeat setup
  let dispatch ← transport .getDispatchDiagnostics
  let tracking ← transport .getTrackingDiagnostics
  let state ← healthyHeartbeat setup
  let report : PollReport := { state, executor, dispatch, tracking }
  expect (checkDomains setup executor dispatch)
  finishWhenDone setup report terminalFeedback
  pure report

/-- `poll`. -/
def poll (setup : Setup) (owner : String) : Operation PollReport := do
  claim owner
  let adapter ← get
  expect (streamIf (adapter.state ≠ .active) "stream is not active")
  orFault setup do
    pumpFinitePlan setup
    pollBody setup

def stopBody : Operation Unit := do
  let stopped ← transport .safeStop
  expect (streamIf (stopped.stopLatched = false) "SAFE_STOP was not latched")
  modify fun adapter => { adapter with
    armed := false
    routeSamples := []
    finiteHorizonTick := none
    pendingFiniteSamples := []
    state := .stopped }

/-- `stop`. -/
def stop (setup : Setup) (owner : String) : Operation Unit := do
  claim owner
  let adapter ← get
  if adapter.state = .stopped then pure () else orFault setup stopBody

/-! ## 9. The operations of a caller -/

/-- The operations that feed a stream forward. -/
inductive FeedOperation where
  | prepare
  | refresh
  | keepalive (force : Bool)
  | feedback
  | start (owner : String) (points : List TimedJointPoint) (finite : Bool)
  | append (owner : String) (points : List TimedJointPoint)
  | poll (owner : String)
  | stop (owner : String)

/-- An operation of the adapter with its result left out. -/
def forget {α : Type} (x : Operation α) : Operation Unit := do
  let _ ← x
  pure ()

def FeedOperation.action (setup : Setup) : FeedOperation → Operation Unit
  | .prepare => forget (Adapter.prepare setup)
  | .refresh => forget (refreshUnarmedAnchor setup)
  | .keepalive force => forget (Adapter.keepalive setup force)
  | .feedback => forget (feedbackSnapshot setup)
  | .start owner points finite => forget (Adapter.start setup owner points finite)
  | .append owner points => forget (Adapter.append setup owner points)
  | .poll owner => forget (Adapter.poll setup owner)
  | .stop owner => Adapter.stop setup owner

inductive AdapterOperation where
  | feed (operation : FeedOperation)
  | splice (owner : String) (points : List TimedJointPoint) (spliceOffsetMs : Int)

def AdapterOperation.action (setup : Setup) : AdapterOperation → Operation Unit
  | .feed operation => operation.action setup
  | .splice owner points spliceOffsetMs => forget (Adapter.splice setup owner points spliceOffsetMs)

end MobileBimanual.Adapter
