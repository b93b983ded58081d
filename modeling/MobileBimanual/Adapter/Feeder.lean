/-
# The feeder and the queue it fills

The adapter over its transport, with the executor behind it: `FeedSystem.step` begins an operation
of the adapter, carries its next call to the firmware at any tick and its answer back or not, or
lets the executor do something of its own.  Any order of these is a run, so the transport may take
any time over any call.

The pump sends what its count of the queue leaves room for: `EXECUTOR_QUEUE_CAPACITY` less the
samples of its route with an apply tick after the heartbeat.  The two sides count differently.
The feeder strikes a sample off as soon as a heartbeat has reached its tick; the executor applies
it on the first control tick from there.  `Feed` keeps both counts, and they tell exactly when a
batch of the pump overruns the queue (`feeder_fits` in the next module).
-/
import MobileBimanual.Adapter.Aside
import MobileBimanual.Adapter.Link
import MobileBimanual.Lib.Client
import MobileBimanual.Stream.Books

namespace MobileBimanual.Adapter

open Machine
open MobileBimanual.Stream
open MobileBimanual.Stream.Host (StreamSampleV2 StreamBatchV2 encodeStreamBatchV2)

/-! ## 1. The capacity check of the firmware -/

/-- What the session answers to a batch, when the executor gets as far as asking it. -/
def sessionAnswer (executor : StreamExecutor) (payload : List Byte) (kind : BatchKind)
    (tick : Tick) : Option StreamSessionResult :=
  if executor.live = false then none
  else match batchDecode payload kind with
  | .error _ => none
  | .ok decoded =>
    if (decoded.samples.any fun sample =>
        !positionsWithinLimits executor.jointLimits sample.positionUrad) ||
        appendTailDiscontinuous executor.session decoded kind then none
    else some (streamSessionBatch executor.session payload kind tick).2

/-- The batch is refused with QUEUE_OVERFLOW. -/
def overflows (executor : StreamExecutor) (payload : List Byte) (kind : BatchKind) (tick : Tick) :
    Bool :=
  (sessionAnswer executor payload kind tick).map (·.statusCode) == some .queueOverflow

/-- The batch passes every check in front of the capacity. -/
structure Acceptable (executor : StreamExecutor) (payload : List Byte) (kind : BatchKind)
    (tick : Tick) (batch : Batch) : Prop where
  live : executor.live = true
  decodes : batchDecode payload kind = .ok batch
  withinLimits : ∀ s ∈ batch.samples,
    positionsWithinLimits executor.jointLimits s.positionUrad = true
  tail : appendTailDiscontinuous executor.session batch kind = false
  isOpen : executor.session.isOpen = true
  transition : ∃ position, transitionPosition executor.session batch kind = some position ∧
    executor.session.transitionResult batch kind tick position = .ok

/-- The room for a batch behind what stays of the queue. -/
def Fits (executor : StreamExecutor) (batch : Batch) (kind : BatchKind) : Prop :=
  (retainedSamples executor.session batch kind ++ batch.samples).length ≤ queueCapacity

variable {kind : BatchKind}

theorem sessionBatch_overflow_iff {session : StreamSession} {payload : List Byte} {tick : Tick}
    {batch : Batch} (hdecode : batchDecode payload kind = .ok batch) :
    (streamSessionBatch session payload kind tick).2.statusCode = .queueOverflow ↔
      session.isOpen = true ∧
      (∃ position, transitionPosition session batch kind = some position ∧
        session.transitionResult batch kind tick position = .ok) ∧
      ¬ (retainedSamples session batch kind ++ batch.samples).length ≤ queueCapacity := by
  unfold streamSessionBatch
  cases hopen : session.isOpen with
  | false => exact ⟨nofun, nofun⟩
  | true =>
    rw [hdecode]
    dsimp only
    cases hposition : transitionPosition session batch kind with
    | none => exact ⟨nofun, fun h => nomatch h.2.1⟩
    | some position =>
      rw [Bool.not_true, if_neg Bool.false_ne_true]
      dsimp only
      by_cases hok : session.transitionResult batch kind tick position = .ok
      · rw [if_neg (not_not_intro hok)]
        by_cases hfits : (retainedSamples session batch kind ++ batch.samples).length ≤
          queueCapacity
        · rw [dif_pos hfits]
          exact ⟨nofun, fun h => absurd hfits h.2.2⟩
        · rw [dif_neg hfits]
          exact ⟨fun _ => ⟨rfl, ⟨position, rfl, hok⟩, hfits⟩, fun _ => rfl⟩
      · rw [if_pos hok]
        refine ⟨nofun, ?_⟩
        rintro ⟨-, ⟨position', hsame, hok'⟩, -⟩
        cases hsame
        exact absurd hok' hok

variable {executor : StreamExecutor}

/-- **Overflow is the last objection of all.** -/
theorem overflows_iff {payload : List Byte} {tick : Tick} {batch : Batch}
    (hdecode : batchDecode payload kind = .ok batch) :
    overflows executor payload kind tick = true ↔
      Acceptable executor payload kind tick batch ∧ ¬ Fits executor batch kind := by
  have hsession := @sessionBatch_overflow_iff kind executor.session payload tick batch hdecode
  unfold overflows sessionAnswer
  rw [hdecode]
  cases hlive : executor.live with
  | false => exact ⟨nofun, fun h => nomatch hlive.symm.trans h.1.live⟩
  | true =>
    rw [if_neg Bool.noConfusion]
    dsimp only
    cases hlimits : batch.samples.any fun sample =>
        !positionsWithinLimits executor.jointLimits sample.positionUrad with
    | true =>
      refine ⟨nofun, fun h => ?_⟩
      obtain ⟨sample, hsample, hout⟩ := List.any_eq_true.mp hlimits
      rw [h.1.withinLimits sample hsample] at hout
      cases hout
    | false =>
      cases htail : appendTailDiscontinuous executor.session batch kind with
      | true => exact ⟨nofun, fun h => nomatch htail.symm.trans h.1.tail⟩
      | false =>
        rw [Bool.or_false, if_neg Bool.false_ne_true, Option.map_some, beq_iff_eq, Option.some_inj,
          hsession]
        constructor
        · rintro ⟨hopen, htransition, hfull⟩
          refine ⟨⟨hlive, hdecode, fun s hs => ?_, htail, hopen, htransition⟩, hfull⟩
          have hin := List.any_eq_false.mp hlimits s hs
          simpa using hin
        · rintro ⟨h, hfull⟩
          exact ⟨h.isOpen, h.transition, hfull⟩

/-! ## 2. The two counts -/

structure Feed where
  executor : StreamExecutor
  /-- The tick of the last heartbeat that was answered. -/
  heartbeatTick : Int
  /-- The samples of the stream that the adapter has struck off its route. -/
  struck : Nat
  /-- The samples of the stream that the executor has applied. -/
  applied : Nat

/-- The samples of the stream that the executor has taken. -/
def Feed.taken (feed : Feed) : Nat := feed.executor.queue.length + feed.applied

/-- The samples that an operation strikes off when its batch is acknowledged: all of the route
that the heartbeat has reached, but for a start, which begins a new route. -/
def FeedOperation.strikes (adapter : ResidentAdapter) (heartbeatTick : Int) :
    FeedOperation → Nat
  | .start .. => 0
  | _ => adapter.routeSamples.length - (futureRoute adapter.routeSamples heartbeatTick).length

/-- The counts behind the answer to an OPEN. -/
def Feed.noteOpen (setup : Setup) (feed : Feed) (reply : Except HostError StreamStatusV2) : Feed :=
  if Acknowledges setup reply then { feed with struck := 0, applied := 0 } else feed

/-- The counts behind the answer to a batch. -/
def Feed.noteAppend (setup : Setup) (operation : FeedOperation) (adapter : ResidentAdapter)
    (feed : Feed) (reply : Except HostError StreamStatusV2) : Feed :=
  if Acknowledges setup reply then
    { feed with struck := feed.struck + operation.strikes adapter feed.heartbeatTick }
  else feed

/-- The counts behind an answer. -/
def Feed.note (setup : Setup) (operation : FeedOperation) (adapter : ResidentAdapter)
    (feed : Feed) : (request : Request) → Except HostError request.Answer → Feed
  | .heartbeat, .ok (state : StateV2) => { feed with heartbeatTick := state.lastHeartbeatMs }
  | .openStream _, reply => feed.noteOpen setup reply
  | .append _, reply => feed.noteAppend setup operation adapter reply
  | _, _ => feed

def Feed.carry (setup : Setup) (operation : FeedOperation) (adapter : ResidentAdapter)
    (feed : Feed) (bystanders : Bystanders) (tick : Tick) (transit : Transit)
    (request : Request) : Feed × Except HostError request.Answer :=
  let carried := Adapter.carry bystanders feed.executor tick request transit
  ({ feed with executor := carried.1 }.note setup operation adapter request carried.2, carried.2)

/-- The executor at work: one more sample is applied if it has counted one. -/
def Feed.work (feed : Feed) (event : Event) : Feed :=
  let executor := next feed.executor event
  { feed with
    executor := executor
    applied :=
      if executor.diagnostics.appliedSamples = feed.executor.diagnostics.appliedSamples then
        feed.applied
      else feed.applied + 1 }

/-! ## 3. The system -/

abbrev FeedSystem := Client.Session ResidentAdapter FeedOperation Feed HostCall HostCall.Reply
  (Except HostError Unit)

inductive FeedEvent where
  | operate (operation : FeedOperation)
  /-- The call under way reaches the firmware, or the clock, and its answer gets back or not. -/
  | deliver (tick : Tick) (bystanders : Bystanders) (transit : Transit) (now : Int)
  | executor (event : Event)

/-- The calls that only the transport makes. -/
def isCommand : Call → Bool
  | .openStream _ => true
  | .admitBatch .. => true
  | _ => false

/-- The answer to a call, and the feed behind it. -/
def Feed.answer (setup : Setup) (tick : Tick) (bystanders : Bystanders) (transit : Transit)
    (now : Int) (operation : FeedOperation) (adapter : ResidentAdapter) :
    (call : HostCall) → Feed → call.Reply × Feed
  | .transport _ request, feed =>
    let carried := feed.carry setup operation adapter bystanders tick transit request
    (carried.2, carried.1)
  | .monotonic, feed => (now, feed)

namespace FeedSystem

def step (setup : Setup) (w : FeedSystem) : FeedEvent → FeedSystem
  | .operate operation => w.operate (fun operation => (operation.action setup).program) operation
  | .deliver tick bystanders transit now =>
    w.serve (Feed.answer setup tick bystanders transit now)
  | .executor event =>
    if isCommand event.call then w else w.disturb fun feed => feed.work event

/-- The batch that the pump has under way. -/
def pumping (w : FeedSystem) : Option StreamBatchV2 :=
  match w.flight with
  | some (.poll _, .call (.transport _ (.append batch)) _) => some batch
  | _ => none

/-- A new adapter before any executor. -/
def begin (executor : StreamExecutor) : FeedSystem where
  state := newAdapter
  flight := none
  world := { executor := executor, heartbeatTick := 0, struck := 0, applied := 0 }

/-- The route that the feeder counts. -/
def route (w : FeedSystem) : List StreamSampleV2 :=
  futureRoute w.state.routeSamples w.world.heartbeatTick

/-- The samples struck off the route, those of this heartbeat included. -/
def struckOff (w : FeedSystem) : Nat :=
  w.world.struck + (w.state.routeSamples.length - w.route.length)

/-- The places that the feeder's own count leaves unused: it sends no more than nine samples, and
none beyond the lead window. -/
def unused (setup : Setup) (w : FeedSystem) : Nat :=
  let capacity : Int := queueCapacity - w.route.length
  (capacity - (readySamples setup w.world.heartbeatTick (min wireMaxSamples capacity)
    w.state.pendingFiniteSamples).length).toNat

/-- The executor has applied as many samples as the feeder has struck off, but for the places
that the feeder leaves unused. -/
def KeepsPace (setup : Setup) (w : FeedSystem) : Prop :=
  w.struckOff ≤ w.world.applied + w.unused setup

end FeedSystem

/-! ## 4. What the executor does on its own -/

variable {e : StreamExecutor}

theorem forgetStatus_queue {e' : StreamExecutor} (h : forgetStatus e' = forgetStatus e) :
    e'.queue = e.queue := by
  have hqueue := congrArg StreamExecutor.queue h
  exact hqueue

theorem forgetStatus_applied {e' : StreamExecutor} (h : forgetStatus e' = forgetStatus e) :
    e'.diagnostics.appliedSamples = e.diagnostics.appliedSamples := by
  have happlied := congrArg (fun e : StreamExecutor => e.diagnostics.appliedSamples) h
  exact happlied

/-- A step takes the front of the queue exactly when it counts an applied sample. -/
theorem step_counted {tick : Tick} {outcome : StreamExecutor × ExecutorResult × Option Joints}
    (h : StepOutcome e tick outcome) :
    (outcome.1.queue = e.queue ∧
      outcome.1.diagnostics.appliedSamples = e.diagnostics.appliedSamples) ∨
    (outcome.1.queue.length + 1 = e.queue.length ∧
      outcome.1.diagnostics.appliedSamples = e.diagnostics.appliedSamples + 1) := by
  cases h with
  | applied running next rest queued =>
    refine Or.inr ⟨?_, rfl⟩
    have htail : (applyFirstSample (ticked e tick) next (tick - e.due next)).queue =
        e.queue.tail := rfl
    rw [htail, queued]
    rfl
  | succeeded running next queued =>
    refine Or.inr ⟨?_, rfl⟩
    have htail : (terminate (applyFirstSample (ticked e tick) next (tick - e.due next))
        .succeeded .plannedHorizon tick false).queue = e.queue.tail := rfl
    rw [htail, queued]
    rfl
  | idle result state => exact Or.inl ⟨rfl, rfl⟩
  | backwards running late => exact Or.inl ⟨rfl, rfl⟩
  | timeout running openEnded silent => exact Or.inl ⟨rfl, rfl⟩
  | underflow running planned drained => exact Or.inl ⟨rfl, rfl⟩
  | holding running openEnded noTimeout drained => exact Or.inl ⟨rfl, rfl⟩
  | missed running next rest queued passed late => exact Or.inl ⟨rfl, rfl⟩
  | degenerate running next rest queued still collapsed => exact Or.inl ⟨rfl, rfl⟩
  | interpolated running next rest queued noTimeout still span within => exact Or.inl ⟨rfl, rfl⟩

theorem feedback_counted {tick : Tick} {outcome : StreamExecutor × ExecutorResult}
    (h : FeedbackOutcome e tick outcome) :
    outcome.1.queue = e.queue ∧
      outcome.1.diagnostics.appliedSamples = e.diagnostics.appliedSamples := by
  cases h <;> exact ⟨rfl, rfl⟩

/-- **Between commands the executor only applies what it has taken.** -/
theorem next_counted {event : Event} (h : isCommand event.call = false) :
    ((next e event).queue = e.queue ∧
      (next e event).diagnostics.appliedSamples = e.diagnostics.appliedSamples) ∨
    ((next e event).queue.length + 1 = e.queue.length ∧
      (next e event).diagnostics.appliedSamples = e.diagnostics.appliedSamples + 1) := by
  have houtcome := next_outcome e event
  generalize next e event = e' at houtcome ⊢
  cases houtcome with
  | refused _ same => exact Or.inl ⟨forgetStatus_queue same, forgetStatus_applied same⟩
  | opened payload policy call =>
    rw [call] at h
    cases h
  | admitted payload kind batch call =>
    rw [call] at h
    cases h
  | started position call => exact Or.inl ⟨rfl, rfl⟩
  | stepped _ result call step => exact step_counted step
  | checked _ result call check => exact Or.inl (feedback_counted check)
  | noted joint call => exact Or.inl ⟨rfl, rfl⟩

theorem Feed.work_taken {feed : Feed} {event : Event} (h : isCommand event.call = false) :
    (feed.work event).taken = feed.taken := by
  unfold Feed.taken Feed.work
  dsimp only
  rcases next_counted h with ⟨hqueue, hsame⟩ | ⟨hqueue, hmore⟩
  · rw [if_pos hsame, hqueue]
  · rw [if_neg (hmore ▸ add_one_ne _)]
    omega

/-! ## 5. What an answer does to the counts -/

/-- The counts of one stream go on. -/
structure Feed.Same (feed feed' : Feed) : Prop where
  taken : feed'.taken = feed.taken
  struck : feed'.struck = feed.struck

theorem Feed.Same.refl (feed : Feed) : feed.Same feed := ⟨rfl, rfl⟩

theorem Feed.Same.trans {a b c : Feed} (h : a.Same b) (h' : b.Same c) : a.Same c :=
  ⟨h'.taken.trans h.taken, h'.struck.trans h.struck⟩

variable {request : Request}

theorem handle_quiet {bystanders : Bystanders} {tick : Tick} (h : request.quiet = true) :
    (handle bystanders executor tick request).1 = executor := by
  cases request <;> first | rfl | cases h

theorem carry_quiet {bystanders : Bystanders} {tick : Tick} {transit : Transit}
    (h : request.quiet = true) : (carry bystanders executor tick request transit).1 = executor := by
  cases transit with
  | delivered => exact handle_quiet h
  | refused reached => cases reached <;> first | rfl | exact handle_quiet h
  | lost reached error => cases reached <;> first | rfl | exact handle_quiet h

variable {setup : Setup} {operation : FeedOperation} {adapter : ResidentAdapter} {feed : Feed}
  {bystanders : Bystanders} {tick : Tick} {transit : Transit}

theorem Feed.carry_same (h : request.quiet = true) :
    feed.Same (feed.carry setup operation adapter bystanders tick transit request).1 := by
  have hexecutor := @carry_quiet feed.executor request bystanders tick transit h
  unfold Feed.carry
  dsimp only
  rw [hexecutor]
  generalize (Adapter.carry bystanders feed.executor tick request transit).2 = reply
  cases request with
  | heartbeat => cases reply <;> exact ⟨rfl, rfl⟩
  | openStream policy => cases h
  | append batch => cases h
  | splice batch => cases h
  | _ => exact .refl feed

theorem rejectedStatus_refuses {contractResult : ContractResult} :
    ¬ Acknowledges setup (.ok (rejectedStatus executor contractResult)) := by
  rintro ⟨hok, -⟩
  simp only [rejectedStatus, streamStatus, Firmware.executorSessionResult, resultFromSession] at hok
  split at hok <;> cases hok

theorem delivered_of_acknowledged (hanswer : request.Answer = StreamStatusV2)
    (hquiet : request.quiet = false)
    (h : Acknowledges setup (hanswer ▸ (carry bystanders executor tick request transit).2)) :
    carry bystanders executor tick request transit = handle bystanders executor tick request := by
  cases transit with
  | delivered => rfl
  | refused reached =>
    cases reached <;> cases request <;>
      first
      | exact absurd hquiet (by decide)
      | exact absurd h rejectedStatus_refuses
      | cases hquiet
  | lost reached error =>
    cases reached <;> cases request <;> first | exact h.elim | cases hquiet

/-- **An acknowledged batch is in the queue, whole.** -/
theorem handleBatch_acknowledged {batch : StreamBatchV2}
    (h : Acknowledges setup (handleBatch executor tick kind batch).2) :
    ∃ payload decoded, ∃ hadmits : Admits executor payload kind tick decoded,
      encodeStreamBatchV2 batch kind = .ok payload ∧
      decoded.samples.length = batch.samples.length ∧
      (handleBatch executor tick kind batch).1 =
        admitted executor decoded kind tick hadmits.accepts.fits := by
  unfold handleBatch at h ⊢
  cases hencode : encodeStreamBatchV2 batch kind with
  | error message =>
    rw [hencode] at h
    exact h.elim
  | ok payload =>
    rw [hencode] at h
    dsimp only at h ⊢
    rcases streamExecutorAdmit_cases executor payload kind tick with
      ⟨hrefused, -⟩ | ⟨decoded, hadmits, heq⟩
    · rw [batchStatus, if_neg hrefused] at h
      exact absurd h rejectedStatus_refuses
    · refine ⟨payload, decoded, hadmits, rfl, ?_, by rw [heq]⟩
      obtain ⟨decoded', hdecode, hback, -⟩ := batch_codec batch kind payload hencode
      have hsame : decoded' = decoded := by
        have := hdecode.symm.trans hadmits.accepts.decodes
        cases this
        rfl
      rw [← hback, hsame, Host.ofFirmware, List.length_map]

theorem Feed.noteAppend_acknowledged {reply : Except HostError StreamStatusV2}
    (h : Acknowledges setup reply) : feed.noteAppend setup operation adapter reply =
      { feed with struck := feed.struck + operation.strikes adapter feed.heartbeatTick } :=
  if_pos h

variable {reply : Except HostError StreamStatusV2}

theorem Feed.noteOpen_acknowledged (h : Acknowledges setup reply) :
    feed.noteOpen setup reply = { feed with struck := 0, applied := 0 } :=
  if_pos h

theorem Feed.carry_append {batch : StreamBatchV2}
    (h : Acknowledges setup
      (feed.carry setup operation adapter bystanders tick transit (.append batch)).2) :
    let feed' := (feed.carry setup operation adapter bystanders tick transit (.append batch)).1
    feed'.taken = feed.taken + batch.samples.length ∧
      feed'.struck = feed.struck + operation.strikes adapter feed.heartbeatTick := by
  intro feed'
  have hdelivered := @delivered_of_acknowledged feed.executor (.append batch) setup bystanders tick
    transit rfl rfl h
  have hreply : Acknowledges setup (handleBatch feed.executor tick .append batch).2 := by
    have hsame := congrArg Prod.snd hdelivered
    exact hsame ▸ h
  obtain ⟨payload, decoded, hadmits, -, hlength, hexecutor⟩ := handleBatch_acknowledged hreply
  have hcarried : (Adapter.carry bystanders feed.executor tick (.append batch) transit).1 =
      admitted feed.executor decoded .append tick hadmits.accepts.fits :=
    (congrArg Prod.fst hdelivered).trans hexecutor
  have hfeed : feed' = { feed with
      executor := (Adapter.carry bystanders feed.executor tick (.append batch) transit).1
      struck := feed.struck + operation.strikes adapter feed.heartbeatTick } :=
    noteAppend_acknowledged h
  rw [hfeed]
  refine ⟨?_, rfl⟩
  have hqueue : (admitted feed.executor decoded .append tick hadmits.accepts.fits).queue =
      feed.executor.queue ++ decoded.samples := rfl
  simp only [taken, hcarried, hqueue, List.length_append, hlength]
  omega

theorem Feed.carry_open {policy : Host.StreamPolicyV2}
    (h : Acknowledges setup
      (feed.carry setup operation adapter bystanders tick transit (.openStream policy)).2) :
    let feed' := (feed.carry setup operation adapter bystanders tick transit (.openStream policy)).1
    feed'.taken = 0 ∧ feed'.struck = 0 := by
  intro feed'
  have hdelivered := @delivered_of_acknowledged feed.executor (.openStream policy) setup bystanders
    tick transit rfl rfl h
  have hreply : Acknowledges setup (handleOpen feed.executor tick policy).2 := by
    have hsame := congrArg Prod.snd hdelivered
    exact hsame ▸ h
  have hempty : (handleOpen feed.executor tick policy).1.queue = [] := by
    unfold handleOpen at hreply ⊢
    cases hencode : Host.encodeStreamOpenV2 policy with
    | error message =>
      rw [hencode] at hreply
      exact hreply.elim
    | ok payload =>
      rw [hencode] at hreply
      dsimp only at hreply ⊢
      rcases streamExecutorOpen_cases feed.executor payload tick with
        ⟨hrefused, -⟩ | ⟨accepted, -, -, heq⟩
      · rw [openStatus, if_neg hrefused] at hreply
        exact absurd hreply rejectedStatus_refuses
      · rw [heq]
        rfl
  have hfeed : feed' = { feed with
      executor := (Adapter.carry bystanders feed.executor tick (.openStream policy) transit).1
      struck := 0
      applied := 0 } := noteOpen_acknowledged h
  have hcarried : (Adapter.carry bystanders feed.executor tick (.openStream policy) transit).1 =
      (handleOpen feed.executor tick policy).1 := congrArg Prod.fst hdelivered
  rw [hfeed]
  refine ⟨?_, rfl⟩
  simp only [taken, hcarried, hempty, List.length_nil]

end MobileBimanual.Adapter
