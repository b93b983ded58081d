/-
# A splice begins where the queue is

The adapter takes the first sample of a splice from its own route.  Whatever the firmware does
meanwhile, if its queue is what the route predicts when the splice is sent, the session neither
misses a position at the splice tick nor finds the splice away from it (`Joins`): the firmware's
own interpolation there is what the host put into the batch.  The queue may hold in front of the
predicted samples others that are due.

On a queue that goes once round the circle the two interpolations differ
(`lapped_route_differs`); the host never interpolates on such a route, and never sends one.
-/
import MobileBimanual.Adapter.Aside
import MobileBimanual.Adapter.Interpolation
import MobileBimanual.Adapter.Link

namespace MobileBimanual.Adapter

open MobileBimanual.Stream
open MobileBimanual.Stream.Host (StreamSampleV2 StreamBatchV2 tickAfter encodeStreamBatchV2)
open Activity Program
open Serial (After ahead)
open Stream.Bench

/-! ## 1. The continuity point -/

/-- From `base` on the route is what the queue holds, behind samples that are due. -/
def Predicts (route : List StreamSampleV2) (base : Int) (queue : List Setpoint) : Prop :=
  ∃ due future, queue = due ++ future ∧
    (∀ sample ∈ due, tickAfter sample.applyTick.toNat base = false) ∧
    futureRoute route base = future.map hostSample

/-- Whenever the batch arrives, the session neither misses a position at its splice tick nor finds
the batch away from it. -/
def Joins (session : StreamSession) (batch : StreamBatchV2) : Prop :=
  ∀ payload, encodeStreamBatchV2 batch .splice = .ok payload → ∀ currentTick,
    (streamSessionBatch session payload .splice currentTick).2.statusCode ≠
        .splicePositionUnavailable ∧
      (streamSessionBatch session payload .splice currentTick).2.contractResult ≠
        .spliceDiscontinuity

/-- No step of the policy is negative. -/
def StepsForward (session : StreamSession) : Prop :=
  ∀ joint, 0 ≤ (session.policy.maximumStepUradPerTick joint).toInt

theorem uradOf_injective {a b : Joints} (h : uradOf a = uradOf b) : a = b := by
  funext joint
  exact BitVec.eq_of_toInt_eq (List.map_inj_left.mp h joint (List.mem_finRange joint))

theorem tickAfter_base {candidate : Tick} {base : Int} :
    tickAfter candidate.toNat base = true ↔ After candidate (BitVec.ofInt 32 base) := by
  rw [← Host.tickAfter_agrees, tickIsAfter_iff]
  simp

/-- What the host predicts of an ordered queue lies ahead of the base. -/
theorem ahead_of_futureRoute {route : List StreamSampleV2} {base : Int} {future : List Setpoint}
    (hinOrder : InOrder future) (h : futureRoute route base = future.map hostSample) :
    Ahead (BitVec.ofInt 32 base) future := by
  refine ⟨hinOrder, fun sample hsample => ?_⟩
  have hmem : hostSample sample ∈ futureRoute route base := by
    rw [h]
    exact List.mem_map_of_mem hsample
  exact tickAfter_base.mp (List.mem_filter.mp hmem).2

/-- A position that the host finds on its route the firmware finds on a queue so predicted. -/
theorem Predicts.position {route : List StreamSampleV2} {base : Int} {queue : List Setpoint}
    {tick : Tick} {positions : List Int} (h : Predicts route base queue)
    (hinOrder : InOrder queue)
    (hposition : interpolateRoute (futureRoute route base) tick.toNat = .ok positions) :
    ∃ joints, interpolatePosition tick queue = some joints ∧ positions = uradOf joints := by
  obtain ⟨due, future, rfl, hdue, hfuture⟩ := h
  have hahead := ahead_of_futureRoute (List.isChain_append.mp hinOrder).2.1 hfuture
  have hclear : ¬ Shadowed tick future := hahead.not_shadowed
  have hmirrors := interpolateRoute_mirrors hclear
  rw [← hfuture, hposition] at hmirrors
  obtain ⟨joints, hfirmware, hjoints⟩ := mirrors_ok_iff.mp hmirrors
  refine ⟨joints, interpolatePosition_append_due hinOrder ?_ hahead hfirmware, hjoints⟩
  intro sample hsample hafter
  have hfalse := hdue sample hsample
  rw [tickAfter_base.mpr hafter] at hfalse
  cases hfalse

theorem guard_ne {guard : Prop} [Decidable guard] {refusal rest unwanted : ContractResult}
    (hrefusal : refusal ≠ unwanted) (hrest : rest ≠ unwanted) :
    (if guard then refusal else rest) ≠ unwanted := by
  split
  · exact hrefusal
  · exact hrest

/-- The check of a transition has no objection to a first sample that is where the queue is. -/
theorem transition_continuous {batch : Batch} {policy : StreamPolicy} {currentTick : Tick}
    {currentEpoch : BitVec 32} {horizon lastTick : Tick} {position : Joints}
    (hforward : ∀ joint, 0 ≤ (policy.maximumStepUradPerTick joint).toInt)
    (hfirst : batch.firstSample.positionUrad = position) :
    batchValidateTransition batch .splice policy currentTick currentEpoch horizon lastTick
      position ≠ .spliceDiscontinuity := by
  have hnear : ¬ ∃ joint : Joint, (absoluteDifference (batch.firstSample.positionUrad joint)
      (position joint) : Int) > (policy.maximumStepUradPerTick joint).toInt := by
    rintro ⟨joint, hfar⟩
    have hstep := hforward joint
    rw [hfirst, absoluteDifference, Int.sub_self] at hfar
    omega
  unfold batchValidateTransition
  -- eight checks of any batch, then the four of a splice in front of its position
  refine guard_ne nofun (guard_ne nofun (guard_ne nofun (guard_ne nofun (guard_ne nofun
    (guard_ne nofun (guard_ne nofun (guard_ne nofun ?_)))))))
  refine guard_ne nofun (guard_ne nofun (guard_ne nofun (guard_ne nofun ?_)))
  rw [if_neg hnear]
  exact nofun

/-- **A batch that begins where the queue is joins it.** -/
theorem joins_of_position {session : StreamSession} {batch : StreamBatchV2}
    {rest : List StreamSampleV2} {joints : Joints} (hforward : StepsForward session)
    (hposition : interpolatePosition (BitVec.ofInt 32 batch.spliceAtTick)
      session.validatedSamples.samples = some joints)
    (hsamples : batch.samples = ⟨batch.spliceAtTick, uradOf joints⟩ :: rest) :
    Joins session batch := by
  intro payload hencode currentTick
  obtain ⟨decoded, hdecode, hsame, -⟩ := batch_codec batch .splice payload hencode
  have hsplice : BitVec.ofInt 32 batch.spliceAtTick = decoded.spliceAtTick := by
    rw [← hsame]
    simp [Host.ofFirmware]
  have hfirst : decoded.firstSample.positionUrad = joints := by
    rw [← hsame] at hsamples
    unfold Batch.firstSample
    cases hdecoded : decoded.samples with
    | nil => simp [Host.ofFirmware, hdecoded] at hsamples
    | cons first others =>
      simp only [Host.ofFirmware, hdecoded, List.map_cons, List.cons.injEq,
        StreamSampleV2.mk.injEq] at hsamples
      exact uradOf_injective hsamples.1.2
  have htransition : transitionPosition session decoded .splice = some joints := by
    rw [transitionPosition, ← hsplice, hposition]
  have hcontinuous : session.transitionResult decoded .splice currentTick joints ≠
      .spliceDiscontinuity := transition_continuous hforward hfirst
  unfold streamSessionBatch
  rw [hdecode]
  dsimp only
  rw [htransition]
  dsimp only
  split_ifs
  · exact ⟨by rintro ⟨⟩, by rintro ⟨⟩⟩
  · exact ⟨by rintro ⟨⟩, hcontinuous⟩
  · exact ⟨by rintro ⟨⟩, by rintro ⟨⟩⟩
  · exact ⟨by rintro ⟨⟩, by rintro ⟨⟩⟩

/-! ## 2. The batch of a splice -/

section Batch

variable {setup : Setup} {points : List TimedJointPoint}
  {spliceOffsetMs base tailTick spliceTick : Int} {route samples : List StreamSampleV2}

theorem tickAt_toNat (base offset : Int) : ∃ tick : Tick, tickAt base offset = tick.toNat := by
  refine ⟨BitVec.ofInt 32 (base + offset), ?_⟩
  rw [BitVec.toNat_ofInt, tickAt]
  omega

/-- What the adapter puts into a splice: the position of its route at the splice tick, then the
points. -/
theorem spliceSamples_ok
    (h : spliceSamples setup points spliceOffsetMs base tailTick route =
      .ok (spliceTick, samples)) :
    (∃ tick : Tick, spliceTick = tick.toNat) ∧
      ∃ positions rest, interpolateRoute route spliceTick = .ok positions ∧
        samples = ⟨spliceTick, positions⟩ :: rest := by
  unfold spliceSamples at h
  obtain ⟨point, -, h⟩ := Except.bind_eq_ok_iff.mp h
  obtain ⟨final, -, h⟩ := Except.bind_eq_ok_iff.mp h
  obtain ⟨-, -, h⟩ := Except.bind_eq_ok_iff.mp h
  obtain ⟨-, -, h⟩ := Except.bind_eq_ok_iff.mp h
  obtain ⟨positions, hpositions, h⟩ := Except.bind_eq_ok_iff.mp h
  obtain ⟨converted, -, h⟩ := Except.bind_eq_ok_iff.mp h
  cases h
  exact ⟨tickAt_toNat _ _, positions, _, hpositions, rfl⟩

/-- **The batch of a splice joins every queue that the route predicts.** -/
theorem splice_joins {session : StreamSession} (hforward : StepsForward session)
    (hinOrder : InOrder session.validatedSamples.samples)
    (hpredicts : Predicts route base session.validatedSamples.samples)
    (h : spliceSamples setup points spliceOffsetMs base tailTick (futureRoute route base) =
      .ok (spliceTick, samples)) (sender : ResidentAdapter) :
    Joins session { appendBatch setup sender 0 samples with spliceAtTick := spliceTick } := by
  obtain ⟨⟨tick, rfl⟩, positions, rest, hposition, rfl⟩ := spliceSamples_ok h
  obtain ⟨joints, hjoints, rfl⟩ := hpredicts.position hinOrder hposition
  refine joins_of_position hforward ?_ rfl
  simpa using hjoints

end Batch

/-! ## 3. The operation -/

/-- The executor of the firmware, and the tick of the last heartbeat that was answered. -/
structure Watch where
  executor : StreamExecutor
  reading : Option Int

/-- A heartbeat that is answered is the reading from then on. -/
def noteReading : (call : HostCall) → call.Reply → Option Int → Option Int
  | .transport _ .heartbeat, .ok state, _ => some state.lastHeartbeatMs
  | _, _, reading => reading

/-- The executor may be called at any time, by whomever.  A splice that is sent joins the queue if
that is what the route predicts from the last reading on. -/
def spliceConduct (route : List StreamSampleV2) : Conduct HostCall HostCall.Reply Watch where
  interferes w v := v.reading = w.reading ∧ ∃ events, v.executor = after w.executor events
  permits call w := ∀ state batch, call = .transport state (.splice batch) →
    ∃ base, w.reading = some base ∧
      (Predicts route base w.executor.queue → Joins w.executor.session batch)
  answers call w reply v := v.reading = noteReading call reply w.reading ∧
    ∃ events, v.executor = after w.executor events

/-- What every run of the executor keeps, as far as a splice is concerned. -/
structure Steady (executor : StreamExecutor) : Prop where
  forward : StepsForward executor.session
  sound : Sound executor

variable {executor : StreamExecutor}

theorem stepsForward_next (event : Event) (h : StepsForward executor.session) :
    StepsForward (next executor event).session := by
  have houtcome := next_outcome executor event
  cases hopens : opens executor event with
  | false =>
    unfold StepsForward
    rw [houtcome.policy hopens]
    exact h
  | true =>
    intro joint
    generalize next executor event = executor' at houtcome ⊢
    cases houtcome with
    | opened payload policy call notRunning accepted => exact (accepted.step joint).le
    | _ => simp_all

theorem Steady.after (h : Steady executor) (events : List Event) : Steady (after executor events) :=
  Machine.run_invariant_all
    (fun _ event h => ⟨stepsForward_next event h.forward, sound_next event h.sound⟩) events h

variable {hardCaps : StreamHardCaps} {jointLimits : JointLimits}

theorem steady_init (hinit : streamExecutorInit hardCaps jointLimits = .ok executor) :
    Steady executor := by
  refine ⟨?_, sound_init hinit⟩
  obtain ⟨-, -, -, hsession, -⟩ := streamExecutorInit_ok hinit
  unfold StepsForward
  rw [hsession]
  exact fun _ => le_rfl

section Operation

variable {setup : Setup} {route : List StreamSampleV2} {α : Type}

/-- Between two calls and during one the executor stays steady. -/
theorem Steady.later {executor' : StreamExecutor} (h : Steady executor)
    (hlater : ∃ events, executor' = Stream.after executor events) : Steady executor' := by
  obtain ⟨events, rfl⟩ := hlater
  exact h.after events

/-- What holds throughout a splice. -/
def Watched (route : List StreamSampleV2) (adapter : ResidentAdapter) (w : Watch) : Prop :=
  adapter.routeSamples = route ∧ Steady w.executor

/-- What a heartbeat adds: its tick is the reading. -/
def Stamped (route : List StreamSampleV2) (state : StateV2) (adapter : ResidentAdapter) (w : Watch) :
    Prop :=
  Watched route adapter w ∧ w.reading = some state.lastHeartbeatMs

/-- An action that sends no splice and leaves the route alone. -/
theorem aside_watched {x : Operation α} (h : x.Keeps Aside.frame) :
    Triple (spliceConduct route) (Watched route) x (fun _ => Watched route)
      fun _ => Watched route := by
  refine h.triple_kept (I := fun w : Watch => Steady w.executor)
    (fun s t hst hs => hst.route.trans hs) ?_ ?_
  · rintro w v hw ⟨-, hlater⟩
    exact hw.later hlater
  · intro adapter call w hquiet hw
    refine ⟨?_, ?_⟩
    · rintro state batch rfl
      cases hquiet
    · rintro reply v ⟨-, hlater⟩
      exact hw.later hlater

/-- One request, whenever it is made and whatever the reply. -/
theorem transport_watched {request : Request} {reading : Option Int}
    {post : request.Answer → ResidentAdapter → Watch → Prop}
    (hpermits : ∀ (adapter : ResidentAdapter) w,
      Watched route adapter w → w.reading = reading →
      (spliceConduct route).permits (.transport adapter.state request) w)
    (hpost : ∀ answer adapter w, Watched route adapter w →
      w.reading = noteReading (.transport adapter.state request) (.ok answer) reading →
      post answer adapter w) :
    Triple (spliceConduct route)
      (fun adapter w => Watched route adapter w ∧ (w.reading = reading)) (transport request) post
      fun _ => Watched route := by
  rintro adapter w ⟨⟨hroute, hsteady⟩, hreading⟩
  rw [program_transport]
  rintro v ⟨hsame, hv⟩
  refine ⟨hpermits adapter v ⟨hroute, hsteady.later hv⟩ (hsame.trans hreading), ?_⟩
  rintro (error | answer) u ⟨hnote, hu⟩
  · exact ⟨hroute, (hsteady.later hv).later hu⟩
  · rw [hsame, hreading] at hnote
    exact hpost answer adapter u ⟨hroute, (hsteady.later hv).later hu⟩ hnote

theorem heartbeat_stamped :
    Triple (spliceConduct route) (Watched route) (healthyHeartbeat setup) (Stamped route)
      fun _ => Watched route := by
  refine Triple.bind (M := Stamped route) ?_ fun state => Triple.bind
    (M := fun _ => Stamped route state) ?_ fun _ => Triple.bind
    (M := fun _ => Stamped route state) ?_ fun now => Triple.bind
    (M := fun _ => Stamped route state) ?_ fun _ => triple_pure fun _ _ h => h
  · intro adapter w hwatched
    refine @transport_watched route .heartbeat w.reading (Stamped route) ?_ ?_ adapter w
      ⟨hwatched, rfl⟩
    · exact fun _ _ _ _ _ _ => nofun
    · exact fun answer adapter w hwatched hreading => ⟨hwatched, hreading⟩
  · exact triple_expect (fun _ _ _ _ h => h) fun _ _ _ _ h => h.1
  · rintro adapter w ⟨⟨hroute, hsteady⟩, hdate⟩
    rw [program_monotonic]
    rintro v ⟨hsame, hv⟩
    refine ⟨nofun, ?_⟩
    rintro now u ⟨hreading, hu⟩
    exact ⟨⟨hroute, (hsteady.later hv).later hu⟩, hreading.trans (hsame.trans hdate)⟩
  · exact triple_modify fun _ _ h => h

theorem sendSplice_watched {batch : StreamBatchV2} {base : Int}
    (hjoins : ∀ executor, Steady executor → Predicts route base executor.queue →
      Joins executor.session batch) :
    Triple (spliceConduct route)
      (fun adapter w => Watched route adapter w ∧ w.reading = some base)
      (transport (.splice batch)) (fun _ => Watched route) fun _ => Watched route := by
  refine transport_watched ?_ fun _ _ _ h _ => h
  rintro adapter w hwatched hreading state _ ⟨⟩
  exact ⟨base, hreading, hjoins w.executor hwatched.2⟩

variable {points : List TimedJointPoint}

/-- **Behind the guards**: the batch is made of the route from the tick of the heartbeat on. -/
theorem spliceBody_watched {spliceOffsetMs tailTick : Int} :
    Triple (spliceConduct route) (Watched route) (spliceBody setup points spliceOffsetMs tailTick)
      (fun _ _ _ => True) fun _ => Watched route := by
  refine Triple.bind heartbeat_stamped fun state => triple_get_bind fun adapter => ?_
  dsimp only
  refine Triple.bind (M := fun (made : Int × List StreamSampleV2) a w =>
      Stamped route state a w ∧ spliceSamples setup points spliceOffsetMs state.lastHeartbeatMs
        tailTick (futureRoute route state.lastHeartbeatMs) = .ok made)
    (triple_expect ?_ fun _ _ _ _ h => h.2.1) fun made => ?_
  · rintro made hmade a w ⟨rfl, hstamped⟩
    rw [hstamped.1.1] at hmade
    exact ⟨hstamped, hmade⟩
  · obtain ⟨spliceTick, samples⟩ := made
    dsimp only
    refine Triple.bind (M := fun _ a w => Stamped route state a w ∧
        spliceSamples setup points spliceOffsetMs state.lastHeartbeatMs tailTick
          (futureRoute route state.lastHeartbeatMs) = .ok (spliceTick, samples))
      (triple_modify fun _ _ h => h) fun _ => triple_get_bind fun sender => ?_
    refine Triple.bind (M := fun _ => Watched route) ?_ fun status => Triple.bind
      (M := fun _ => Watched route) ?_ fun _ => Triple.bind
      (M := fun _ => Watched route) ?_ fun tail => Triple.bind
      (M := fun _ _ _ => True) ?_ fun _ => triple_pure fun _ _ _ => trivial
    · rintro a w ⟨-, hstamped, hmade⟩
      refine sendSplice_watched (fun executor hsteady hpredicts => ?_) a w hstamped
      exact splice_joins hsteady.forward hsteady.sound.inOrder hpredicts hmade sender
    · exact triple_expect (fun _ _ _ _ h => h) fun _ _ _ _ h => h
    · exact triple_expect (fun _ _ _ _ h => h) fun _ _ _ _ h => h
    · exact triple_modify fun _ _ _ => trivial

theorem splice_watched {owner : String} {spliceOffsetMs : Int} :
    Triple (spliceConduct route) (Watched route) (splice setup owner points spliceOffsetMs)
      (fun _ _ _ => True) fun _ _ _ => True := by
  refine Triple.bind (M := fun _ => Watched route)
    ((aside_watched (aside_of_calm claim_calm)).conseq (fun _ _ => id) (fun _ _ _ => id)
      fun _ _ _ _ => trivial) fun _ => triple_get_bind fun adapter => ?_
  split
  · refine Triple.bind (M := fun _ => Watched route)
      (triple_expect (fun _ _ _ _ h => h.2) fun _ _ _ _ _ => trivial) fun _ => ?_
    refine Triple.tryCatch spliceBody_watched fun error => ?_
    exact (aside_watched fault_aside).conseq (fun _ _ => id) (fun _ _ _ _ => trivial)
      fun _ _ _ _ => trivial
  · exact triple_throw fun _ _ _ => trivial

end Operation

/-! ## 4. Host and firmware -/

/-- **The host's interpolation is the firmware's.**  On any queue they agree at every tick that is
not shadowed; and whatever run has brought the executor where it is, no tick is shadowed on a queue
that a host's route predicts in full, and no splice of any adapter is sent that the session would
refuse for its position, if at that moment the queue is what the route predicts. -/
theorem interpolation_mirrors {executor : StreamExecutor}
    (hinit : streamExecutorInit hardCaps jointLimits = .ok executor) (events : List Event) :
    (∀ (queue : List Setpoint) (tick : Tick), ¬ Shadowed tick queue →
      Mirrors (interpolateRoute (queue.map hostSample) tick.toNat)
        (interpolatePosition tick queue)) ∧
    (∀ (route : List StreamSampleV2) (base : Int),
      futureRoute route base = (after executor events).queue.map hostSample → ∀ tick : Tick,
        Mirrors (interpolateRoute (futureRoute route base) tick.toNat)
          (interpolatePosition tick (after executor events).queue)) ∧
    ∀ (setup : Setup) (adapter : ResidentAdapter) (owner : String) (points : List TimedJointPoint)
      (spliceOffsetMs : Int),
      ((splice setup owner points spliceOffsetMs).program adapter).Holds
        (spliceConduct adapter.routeSamples) (fun _ _ => True) ⟨after executor events, none⟩ := by
  have hsteady := (steady_init hinit).after events
  refine ⟨fun queue tick => interpolateRoute_mirrors, ?_, ?_⟩
  · intro route base hfuture tick
    rw [hfuture]
    exact interpolateRoute_mirrors
      (ahead_of_futureRoute hsteady.sound.inOrder hfuture).not_shadowed
  · intro setup adapter owner points spliceOffsetMs
    refine (splice_watched adapter ⟨after executor events, none⟩ ⟨rfl, hsteady⟩).mono ?_
    exact fun _ _ _ => trivial

namespace Bench

/-- Two samples either side of the wrap, down to a negative position. -/
def wrappingRun : List Event :=
  [⟨4294967200, .openStream (openPayload 1 0 100)⟩,
    ⟨4294967200, .admitBatch
      (batchPayload 0 0 [(4294967280, 0), (44, -9001)]) .append⟩]

/-- An adapter that streams them, behind a sample that is past. -/
def streaming : ResidentAdapter :=
  { newAdapter with
    state := .active
    tailTick := some 44
    routeSamples := [⟨4294967250, List.replicate 12 0⟩, ⟨4294967280, List.replicate 12 0⟩,
      ⟨44, List.replicate 12 (-9001)⟩] }

/-- A queue that goes once round the circle. -/
def lappedRun : List Event :=
  [⟨100, .openStream (openPayload 1 0 100)⟩,
    ⟨100, .admitBatch (batchPayload 0 0
      [(120, 0), (2147483760, 0), (104, 0), (124, 900)]) .append⟩]

end Bench

/-- A third of the way over the wrap: towards zero, not down. -/
theorem interpolation_mirrors_bench :
    Mirrors (interpolateRoute (futureRoute Bench.streaming.routeSamples 4294967260)
          (4 : Tick).toNat)
        (interpolatePosition 4 (after Stream.Bench.executor Bench.wrappingRun).queue) ∧
      interpolateRoute (futureRoute Bench.streaming.routeSamples 4294967260) 4 =
        .ok (List.replicate 12 (-3000)) ∧
      ((splice Bench.setup "a" Bench.points 40).program Bench.streaming).Holds
        (spliceConduct Bench.streaming.routeSamples) (fun _ _ => True)
        ⟨after Stream.Bench.executor Bench.wrappingRun, none⟩ := by
  have hmirrors := interpolation_mirrors Stream.Bench.executor_init Bench.wrappingRun
  have hfuture : futureRoute Bench.streaming.routeSamples 4294967260 =
      (after Stream.Bench.executor Bench.wrappingRun).queue.map hostSample := by decide +kernel
  refine ⟨?_, by decide +kernel, ?_⟩
  · exact hmirrors.2.1 Bench.streaming.routeSamples 4294967260 hfuture 4
  · exact hmirrors.2.2 Bench.setup Bench.streaming "a" Bench.points 40

/-- **On a queue that goes once round they differ**: at 124 the host finds the sample, and the
firmware a pair with 124 between. -/
theorem lapped_route_differs :
    ¬ ∀ (hardCaps : StreamHardCaps) (jointLimits : JointLimits) (executor : StreamExecutor),
      streamExecutorInit hardCaps jointLimits = .ok executor →
      ∀ (events : List Event) (tick : Tick),
        Mirrors (interpolateRoute ((after executor events).queue.map hostSample) tick.toNat)
          (interpolatePosition tick (after executor events).queue) := by
  intro hclaim
  have hmirrors := hclaim hardCaps jointLimits executor
    executor_init Bench.lappedRun 124
  have hhost : interpolateRoute
      ((after executor Bench.lappedRun).queue.map hostSample) (124 : Tick).toNat =
        .ok (List.replicate 12 900) := by decide +kernel
  have hfirmware : (interpolatePosition 124
      (after executor Bench.lappedRun).queue).map uradOf =
        some (List.replicate 12 0) := by decide +kernel
  rw [hhost] at hmirrors
  obtain ⟨joints, hjoints, hsame⟩ := mirrors_ok_iff.mp hmirrors
  rw [hjoints, Option.map_some, ← hsame] at hfirmware
  revert hfirmware
  decide

end MobileBimanual.Adapter
