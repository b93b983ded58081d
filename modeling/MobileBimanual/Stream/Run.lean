/-
# Runs of the stream executor

The executor's operations as the events of one machine (`Machine.run`): a run is any list of
calls, each with the tick its caller passes, in any order and with any ticks at all.  The one
write the host makes into the executor from outside, the failed joint in the diagnostics, is an
event too.

`Sound` is the invariant every run keeps, whatever the ticks: a live executor has an open
session under an accepted policy, the queue is in wrap-aware order from each sample to the next,
and the queue and the anchor are inside the joint limits.
-/
import Mathlib.Data.List.TakeWhile
import MobileBimanual.Lib.Machine
import MobileBimanual.Stream.Outcomes

namespace MobileBimanual.Stream

open Serial (After ahead)

/-! ## 1. Calls and events -/

inductive Call where
  | openStream (payload : List Byte)
  | admitBatch (payload : List Byte) (kind : BatchKind)
  | start (positionUrad : Joints)
  | step
  | checkJointFeedback (joint : Byte) (commandedUrad measuredUrad : Urad)
  | checkFeedback (measuredUrad : Joints)
  | noteFailedJoint (joint : Byte)

def Call.isStep : Call → Bool
  | .step => true
  | _ => false

def Call.isSplice : Call → Bool
  | .admitBatch _ .splice => true
  | _ => false

/-- The two operations that compare commanded with measured positions. -/
def Call.isFeedback : Call → Bool
  | .checkJointFeedback .. => true
  | .checkFeedback .. => true
  | _ => false

structure Event where
  tick : Tick
  call : Call

def noteFailedJoint (executor : StreamExecutor) (joint : Byte) : StreamExecutor :=
  { executor with diagnostics := { executor.diagnostics with trackingErrorJoint := joint } }

/-- What a call leaves, returns, and writes into the output buffer. -/
def perform (executor : StreamExecutor) (event : Event) :
    StreamExecutor × ExecutorResult × Option Joints :=
  match event.call with
  | .openStream payload =>
    let (executor, result) := streamExecutorOpen executor payload event.tick
    (executor, result, none)
  | .admitBatch payload kind =>
    let (executor, result) := streamExecutorAdmit executor payload kind event.tick
    (executor, result, none)
  | .start positionUrad =>
    let (executor, result) := streamExecutorStart executor event.tick positionUrad
    (executor, result, none)
  | .step => streamExecutorStep executor event.tick
  | .checkJointFeedback joint commandedUrad measuredUrad =>
    let (executor, result) :=
      streamExecutorCheckJointFeedback executor event.tick joint commandedUrad measuredUrad
    (executor, result, none)
  | .checkFeedback measuredUrad =>
    let (executor, result) := streamExecutorCheckFeedback executor event.tick measuredUrad
    (executor, result, none)
  | .noteFailedJoint joint => (noteFailedJoint executor joint, .ok, none)

def next (executor : StreamExecutor) (event : Event) : StreamExecutor := (perform executor event).1

def output (executor : StreamExecutor) (event : Event) : Option Joints :=
  (perform executor event).2.2

/-- The executor after a run of calls. -/
abbrev after (executor : StreamExecutor) (events : List Event) : StreamExecutor :=
  Machine.run next executor events

/-- The event is a STREAM_OPEN that succeeds. -/
def opens (executor : StreamExecutor) (event : Event) : Bool :=
  match event.call with
  | .openStream payload => (streamExecutorOpen executor payload event.tick).2 == .ok
  | _ => false

/-- The event is a start that succeeds. -/
def starts (executor : StreamExecutor) (event : Event) : Bool :=
  match event.call with
  | .start positionUrad => (streamExecutorStart executor event.tick positionUrad).2 == .ok
  | _ => false

/-- The batch of an admission that succeeds. -/
def admittedBatch (executor : StreamExecutor) (event : Event) : Option (BatchKind × Batch) :=
  match event.call with
  | .admitBatch payload kind =>
    if (streamExecutorAdmit executor payload kind event.tick).2 = .ok then
      match batchDecode payload kind with
      | .ok batch => some (kind, batch)
      | .error _ => none
    else none
  | _ => none

/-! ## 2. What one event can do -/

variable {executor : StreamExecutor} {event : Event} {kind : BatchKind} {batch : Batch}

theorem admittedBatch_kind (h : admittedBatch executor event = some (kind, batch)) :
    ∃ payload, event.call = .admitBatch payload kind := by
  unfold admittedBatch at h
  split at h
  · rename_i payload kind' hcall
    split at h
    · split at h
      · cases h
        exact ⟨payload, hcall⟩
      · cases h
    · cases h
  · cases h

/-- **Every event is one of these.**  The refused commands are together; so are the two
feedback checks. -/
inductive Outcome (executor : StreamExecutor) (event : Event) : StreamExecutor → Prop
  | refused (executor' : StreamExecutor) (same : forgetStatus executor' = forgetStatus executor)
      (call : event.call.isStep = false) (noBatch : admittedBatch executor event = none)
      (notOpen : opens executor event = false) (silent : output executor event = none) :
      Outcome executor event executor'
  | opened (payload : List Byte) (policy : StreamPolicy) (call : event.call = .openStream payload)
      (notRunning : executor.diagnostics.state ≠ .running) (accepted : PolicyOk policy)
      (opens : opens executor event = true) (silent : output executor event = none) :
      Outcome executor event (opened executor policy)
  | admitted (payload : List Byte) (kind : BatchKind) (batch : Batch)
      (call : event.call = .admitBatch payload kind)
      (admits : Admits executor payload kind event.tick batch)
      (admitted_ : admittedBatch executor event = some (kind, batch))
      (notOpen : opens executor event = false) (silent : output executor event = none) :
      Outcome executor event (admitted executor batch kind event.tick admits.accepts.fits)
  | started (position : Joints) (call : event.call = .start position)
      (starts : Starts executor event.tick position)
      (notOpen : opens executor event = false) (silent : output executor event = none) :
      Outcome executor event (started executor event.tick position)
  | stepped (executor' : StreamExecutor) (result : ExecutorResult) (call : event.call = .step)
      (step : StepOutcome executor event.tick (executor', result, output executor event))
      (notOpen : opens executor event = false) :
      Outcome executor event executor'
  | checked (executor' : StreamExecutor) (result : ExecutorResult)
      (call : event.call.isFeedback = true)
      (check : FeedbackOutcome executor event.tick (executor', result))
      (notOpen : opens executor event = false) (silent : output executor event = none) :
      Outcome executor event executor'
  | noted (joint : Byte) (call : event.call = .noteFailedJoint joint)
      (notOpen : opens executor event = false)
      (silent : output executor event = none) :
      Outcome executor event (noteFailedJoint executor joint)

theorem starts_of_call {position : Joints} (hcall : event.call = .start position)
    (h : Starts executor event.tick position) : starts executor event = true := by
  simp [starts, hcall, h.ok]

theorem next_outcome (executor : StreamExecutor) (event : Event) :
    Outcome executor event (next executor event) := by
  obtain ⟨tick, call⟩ := event
  cases call with
  | openStream payload =>
    rcases streamExecutorOpen_cases executor payload tick with
      ⟨hrefused, hsame⟩ | ⟨policy, hstate, haccept, heq⟩
    · exact .refused _ hsame rfl rfl (by simpa [opens] using hrefused) rfl
    · have hnext : next executor ⟨tick, .openStream payload⟩ = opened executor policy :=
        congrArg Prod.fst heq
      rw [hnext]
      exact .opened payload policy rfl hstate (acceptPolicy_ok haccept) (by simp [opens, heq]) rfl
  | admitBatch payload kind =>
    rcases streamExecutorAdmit_cases executor payload kind tick with
      ⟨hrefused, hsame⟩ | ⟨batch, hadmits, heq⟩
    · exact .refused _ hsame rfl (by simp [admittedBatch, hrefused]) rfl rfl
    · have hnext : next executor ⟨tick, .admitBatch payload kind⟩ = admitted executor batch kind tick
          hadmits.accepts.fits := congrArg Prod.fst heq
      rw [hnext]
      have hbatch : admittedBatch executor ⟨tick, .admitBatch payload kind⟩ = some (kind, batch) := by
        simp [admittedBatch, heq, hadmits.accepts.decodes]
      exact .admitted payload kind batch rfl hadmits hbatch rfl rfl
  | start position =>
    rcases streamExecutorStart_cases executor tick position with ⟨-, hsame⟩ | ⟨hstarts, heq⟩
    · exact .refused _ (congrArg forgetStatus hsame) rfl rfl rfl rfl
    · have hnext : next executor ⟨tick, .start position⟩ = started executor tick position :=
        congrArg Prod.fst heq
      rw [hnext]
      exact .started position rfl hstarts rfl rfl
  | step => exact .stepped _ _ rfl (streamExecutorStep_outcome executor tick) rfl
  | checkJointFeedback joint commanded measured =>
    exact .checked _ _ rfl
      (streamExecutorCheckJointFeedback_outcome executor tick joint commanded measured) rfl rfl
  | checkFeedback measured =>
    exact .checked _ _ rfl (streamExecutorCheckFeedback_outcome executor tick measured) rfl rfl
  | noteFailedJoint joint => exact .noted joint rfl rfl rfl

/-! ## 3. The queue under the four edits -/

/-- Consecutive queued samples are in wrap-aware order. -/
abbrev InOrder (samples : List Setpoint) : Prop :=
  List.IsChain (fun p s : Setpoint => After s.applyTick p.applyTick) samples

theorem retainedSamples_initial (session : StreamSession) (batch : Batch) (kind : BatchKind) :
    retainedSamples session batch kind <+: session.validatedSamples.samples := by
  cases kind with
  | append => exact List.prefix_refl _
  | splice => exact List.takeWhile_prefix _

variable {session : StreamSession}

/-- What holds down the queue holds down what is retained of it. -/
theorem isChain_retainedSamples {R : Setpoint → Setpoint → Prop}
    (h : List.IsChain R session.validatedSamples.samples) :
    List.IsChain R (retainedSamples session batch kind) := by
  exact List.IsChain.prefix h (retainedSamples_initial session batch kind)

theorem mem_of_mem_retainedSamples {s : Setpoint} (h : s ∈ retainedSamples session batch kind) :
    s ∈ session.validatedSamples.samples :=
  (retainedSamples_initial session batch kind).subset h

theorem before_splice {s : Setpoint} (h : s ∈ retainedSamples session batch .splice) :
    After batch.spliceAtTick s.applyTick := by
  have := List.mem_takeWhile_imp h
  simpa using this

variable {payload : List Byte} {currentTick : Tick}

theorem Accepts.after_retained (h : Accepts session payload kind currentTick batch)
    {last : Setpoint} (hlast : last ∈ (retainedSamples session batch kind).getLast?) :
    After batch.firstApplyTick last.applyTick := by
  cases kind with
  | append =>
    have hafter := (h.append rfl).afterLast
    have htail : session.tailSample = some last := hlast
    rwa [StreamSession.lastTick, htail] at hafter
  | splice =>
    obtain ⟨position, -, hsplice⟩ := h.splice rfl
    rw [← h.decoded.first, hsplice.first]
    exact before_splice (List.mem_of_getLast? hlast)

/-- **An accepted batch leaves the queue in order.** -/
theorem Accepts.inOrder (h : Accepts session payload kind currentTick batch)
    (hqueue : InOrder session.validatedSamples.samples) :
    InOrder (retainedSamples session batch kind ++ batch.samples) := by
  refine List.isChain_append.mpr
    ⟨isChain_retainedSamples hqueue, h.decoded.increasing, ?_⟩
  intro last hlast first hfirst
  have heq : batch.firstSample = first := by
    rw [Batch.firstSample, List.headD_eq_head?_getD, hfirst, Option.getD_some]
  rw [← heq, h.decoded.first]
  exact h.after_retained hlast

/-! ## 4. The invariant of every run -/

structure Sound (executor : StreamExecutor) : Prop where
  isOpen : executor.diagnostics.state = .priming ∨ executor.diagnostics.state = .running →
    executor.session.isOpen = true ∧ PolicyOk executor.session.policy
  anchored : executor.diagnostics.state = .running →
    executor.anchorValid = true ∧ executor.lastStepValid = true ∧
      positionsWithinLimits executor.jointLimits executor.anchor.positionUrad = true
  inOrder : InOrder executor.queue
  withinLimits : ∀ s ∈ executor.queue,
    positionsWithinLimits executor.jointLimits s.positionUrad = true

/-- Only the fields the invariant reads matter to it. -/
theorem Sound.congr {e e' : StreamExecutor} (h : Sound e)
    (hstate : e'.diagnostics.state = e.diagnostics.state ∨
      e'.diagnostics.state ≠ .priming ∧ e'.diagnostics.state ≠ .running)
    (hsession : e'.session = e.session) (hlimits : e'.jointLimits = e.jointLimits)
    (hanchor : e'.anchor = e.anchor) (hvalid : e'.anchorValid = e.anchorValid)
    (hlast : e'.lastStepValid = e.lastStepValid ∨ e'.lastStepValid = true) : Sound e' := by
  refine ⟨?_, ?_, ?_, ?_⟩
  · intro hlive
    rw [hsession]
    rcases hstate with hsame | ⟨hne, hne'⟩
    · exact h.isOpen (hsame ▸ hlive)
    · rcases hlive with hlive | hlive
      · exact absurd hlive hne
      · exact absurd hlive hne'
  · intro hrunning
    rcases hstate with hsame | ⟨-, hne⟩
    · obtain ⟨h1, h2, h3⟩ := h.anchored (hsame ▸ hrunning)
      refine ⟨hvalid ▸ h1, ?_, by rwa [hlimits, hanchor]⟩
      rcases hlast with hsame | htrue
      · rw [hsame, h2]
      · exact htrue
    · exact absurd hrunning hne
  · show InOrder e'.session.validatedSamples.samples
    rw [hsession]
    exact h.inOrder
  · show ∀ s ∈ e'.session.validatedSamples.samples, _
    rw [hsession, hlimits]
    exact h.withinLimits

theorem sound_opened {policy : StreamPolicy} (haccepted : PolicyOk policy) :
    Sound (opened executor policy) where
  isOpen := fun _ => ⟨rfl, haccepted⟩
  anchored := fun h => by cases h
  inOrder := List.isChain_nil
  withinLimits := fun s hs => by cases hs

theorem sound_admitted (h : Sound executor)
    (hadmits : Admits executor payload kind currentTick batch) :
    Sound (admitted executor batch kind currentTick hadmits.accepts.fits) where
  isOpen := h.isOpen
  anchored := h.anchored
  inOrder := hadmits.accepts.inOrder h.inOrder
  withinLimits := by
    intro s hs
    rcases List.mem_append.mp hs with hs | hs
    · exact h.withinLimits s (mem_of_mem_retainedSamples hs)
    · exact hadmits.withinLimits s hs

theorem sound_started {position : Joints} (h : Sound executor)
    (hstarts : Starts executor currentTick position) :
    Sound (started executor currentTick position) where
  isOpen := fun _ => h.isOpen (Or.inl hstarts.priming)
  anchored := fun _ => ⟨rfl, rfl, hstarts.withinLimits⟩
  inOrder := h.inOrder
  withinLimits := h.withinLimits

/-- Applying the first sample: it leaves the queue and becomes the anchor. -/
theorem sound_applyFirstSample {lateness : Tick} {first : Setpoint} {rest : List Setpoint}
    (h : Sound executor) (hrunning : executor.diagnostics.state = .running)
    (hqueue : executor.queue = first :: rest) :
    Sound (applyFirstSample (ticked executor currentTick) first lateness) := by
  have htail : (applyFirstSample (ticked executor currentTick) first lateness).queue = rest :=
    congrArg List.tail hqueue
  obtain ⟨hvalid, -, -⟩ := h.anchored hrunning
  refine ⟨fun _ => h.isOpen (Or.inr hrunning), fun _ => ⟨hvalid, rfl, ?_⟩, ?_, ?_⟩
  · exact h.withinLimits first (by simp [hqueue])
  · have hchain := h.inOrder
    rw [hqueue] at hchain
    rw [htail]
    exact hchain.tail
  · intro s hs
    rw [htail] at hs
    exact h.withinLimits s (by simp [hqueue, hs])

variable {result : StreamExecutor × ExecutorResult × Option Joints}

theorem sound_step (h : Sound executor) (hstep : StepOutcome executor currentTick result) :
    Sound result.1 := by
  cases hstep with
  | idle => exact h
  | backwards running late =>
    exact h.congr (Or.inr ⟨nofun, nofun⟩) rfl rfl rfl rfl (Or.inl rfl)
  | timeout running openEnded silent =>
    exact h.congr (Or.inr ⟨nofun, nofun⟩) rfl rfl rfl rfl (Or.inr rfl)
  | underflow running planned drained =>
    exact h.congr (Or.inr ⟨nofun, nofun⟩) rfl rfl rfl rfl (Or.inr rfl)
  | holding running openEnded noTimeout drained =>
    exact h.congr (Or.inl rfl) rfl rfl rfl rfl (Or.inr rfl)
  | missed running first rest queued passed late =>
    exact h.congr (Or.inr ⟨nofun, nofun⟩) rfl rfl rfl rfl (Or.inr rfl)
  | applied running first rest queued noTimeout due onTime more =>
    exact sound_applyFirstSample h running queued
  | succeeded running first queued due onTime planned final =>
    exact (sound_applyFirstSample h running queued).congr (Or.inr ⟨nofun, nofun⟩) rfl rfl rfl rfl
      (Or.inl rfl)
  | degenerate running first rest queued still collapsed =>
    exact h.congr (Or.inr ⟨nofun, nofun⟩) rfl rfl rfl rfl (Or.inr rfl)
  | interpolated running first rest queued noTimeout still span within =>
    exact h.congr (Or.inl rfl) rfl rfl rfl rfl (Or.inr rfl)

theorem sound_checked {result : StreamExecutor × ExecutorResult} (h : Sound executor)
    (hcheck : FeedbackOutcome executor currentTick result) : Sound result.1 := by
  cases hcheck with
  | idle => exact h
  | tracked errors => exact h.congr (Or.inl rfl) rfl rfl rfl rfl (Or.inl rfl)
  | aborted errors joint live =>
    exact h.congr (Or.inr ⟨nofun, nofun⟩) rfl rfl rfl rfl (Or.inl rfl)

/-- Executors that differ in their last-status fields only are sound together. -/
theorem Sound.of_forgetStatus {e e' : StreamExecutor} (h : Sound e)
    (hsame : forgetStatus e' = forgetStatus e) : Sound e' :=
  h.congr (Or.inl (congrArg (·.diagnostics.state) hsame)) (congrArg (·.session) hsame)
    (congrArg (·.jointLimits) hsame) (congrArg (·.anchor) hsame)
    (congrArg (·.anchorValid) hsame) (Or.inl (congrArg (·.lastStepValid) hsame))

variable {executor' : StreamExecutor}

/-- **Every event keeps the invariant.** -/
theorem Sound.of_outcome (h : Sound executor) (houtcome : Outcome executor event executor') :
    Sound executor' := by
  cases houtcome with
  | refused _ same call noBatch notOpen silent => exact h.of_forgetStatus same
  | opened payload policy call notRunning accepted opens silent => exact sound_opened accepted
  | admitted payload kind batch call admits admitted_ notOpen silent => exact sound_admitted h admits
  | started position call starts notOpen silent => exact sound_started h starts
  | stepped _ result call step notOpen => exact sound_step h step
  | checked _ result call check notOpen silent => exact sound_checked h check
  | noted joint call notOpen silent => exact h.congr (Or.inl rfl) rfl rfl rfl rfl (Or.inl rfl)

theorem sound_next (event : Event) (h : Sound executor) :
    Sound (next executor event) := h.of_outcome (next_outcome executor event)

variable {hardCaps : StreamHardCaps} {limits : JointLimits}

/-- What `init` leaves: a closed executor with an empty session. -/
theorem streamExecutorInit_ok (hinit : streamExecutorInit hardCaps limits = .ok executor) :
    executor.diagnostics.state = .closed ∧ executor.diagnostics.terminalReason = .none ∧
      executor.diagnostics.safeStopRequired = false ∧ executor.session = streamSessionInit ∧
      executor.jointLimits = limits := by
  unfold streamExecutorInit at hinit
  split at hinit
  · cases hinit
  · cases hinit
    exact ⟨rfl, rfl, rfl, rfl, rfl⟩

theorem sound_init (hinit : streamExecutorInit hardCaps limits = .ok executor) :
    Sound executor := by
  obtain ⟨hstate, -, -, hsession, -⟩ := streamExecutorInit_ok hinit
  have hqueue : executor.queue = [] := by
    rw [StreamExecutor.queue, hsession]
    rfl
  refine ⟨?_, ?_, ?_, ?_⟩
  · simp [hstate]
  · simp [hstate]
  · simp [hqueue]
  · simp [hqueue]

/-- **Every reachable executor is sound.** -/
theorem sound_after (hinit : streamExecutorInit hardCaps limits = .ok executor)
    (events : List Event) : Sound (after executor events) :=
  Machine.run_invariant_all (fun _ event h => sound_next event h) events (sound_init hinit)

/-! ## 5. What no event changes -/

theorem step_jointLimits (hstep : StepOutcome executor currentTick result) :
    result.1.jointLimits = executor.jointLimits := by
  cases hstep <;> rfl

theorem checked_jointLimits {result : StreamExecutor × ExecutorResult}
    (hcheck : FeedbackOutcome executor currentTick result) :
    result.1.jointLimits = executor.jointLimits := by
  cases hcheck <;> rfl

theorem Outcome.jointLimits (houtcome : Outcome executor event executor') :
    executor'.jointLimits = executor.jointLimits := by
  cases houtcome with
  | refused _ same => exact congrArg (·.jointLimits) same
  | stepped _ result call step => exact step_jointLimits step
  | checked _ result call check => exact checked_jointLimits check
  | _ => rfl

theorem after_jointLimits (hinit : streamExecutorInit hardCaps jointLimits = .ok executor)
    (events : List Event) : (after executor events).jointLimits = jointLimits :=
  Machine.run_invariant_all (I := fun e => e.jointLimits = jointLimits)
    (fun e event he => (next_outcome e event).jointLimits.trans he) events
    (streamExecutorInit_ok hinit).2.2.2.2

/-- What a step leaves of the queue, under the same policy. -/
theorem step_queue (hstep : StepOutcome executor currentTick result) :
    result.1.queue <:+ executor.queue ∧
      result.1.session.policy = executor.session.policy := by
  cases hstep with
  | applied => exact ⟨List.tail_suffix _, rfl⟩
  | succeeded => exact ⟨List.tail_suffix _, rfl⟩
  | _ => exact ⟨List.suffix_refl _, rfl⟩

/-- **The queue grows by admission only**: any other event leaves an end of it, or nothing. -/
theorem Outcome.queue (houtcome : Outcome executor event executor') :
    (∃ payload kind batch, Admits executor payload kind event.tick batch ∧
        admittedBatch executor event = some (kind, batch) ∧
        executor'.queue = retainedSamples executor.session batch kind ++ batch.samples ∧
        executor'.session.policy = executor.session.policy) ∨
      executor'.queue <:+ executor.queue ∧
        executor'.session.policy = executor.session.policy ∨
      executor'.queue = [] := by
  cases houtcome with
  | refused _ same call noBatch notOpen silent =>
    have hqueue : executor'.queue = executor.queue := congrArg (·.queue) same
    exact Or.inr (Or.inl ⟨hqueue ▸ List.suffix_refl _, congrArg (·.session.policy) same⟩)
  | opened => exact Or.inr (Or.inr rfl)
  | admitted payload kind batch call admits admitted_ notOpen silent =>
    exact Or.inl ⟨payload, kind, batch, admits, admitted_, rfl, rfl⟩
  | started => exact Or.inr (Or.inl ⟨List.suffix_refl _, rfl⟩)
  | stepped _ result call step => exact Or.inr (Or.inl (step_queue step))
  | checked _ result call check =>
    refine Or.inr (Or.inl ?_)
    generalize hresult : (executor', result) = r at check
    cases check <;> cases hresult <;> exact ⟨List.suffix_refl _, rfl⟩
  | noted => exact Or.inr (Or.inl ⟨List.suffix_refl _, rfl⟩)

theorem Outcome.policy (houtcome : Outcome executor event executor')
    (hopens : opens executor event = false) :
    executor'.session.policy = executor.session.policy := by
  cases houtcome with
  | refused _ same => exact congrArg (·.session.policy) same
  | opened payload policy call notRunning accepted opens => simp [opens] at hopens
  | stepped _ result call step => exact (step_queue step).2
  | checked _ result call check =>
    generalize hresult : (executor', result) = r at check
    cases check <;> cases hresult <;> rfl
  | _ => rfl

/-- A PRIMING executor was just opened, or was PRIMING and reports nothing. -/
theorem Outcome.priming (houtcome : Outcome executor event executor')
    (hpriming : executor'.diagnostics.state = .priming) :
    opens executor event = true ∨
      executor.diagnostics.state = .priming ∧ output executor event = none := by
  cases houtcome with
  | refused _ same call noBatch notOpen silent =>
    have hstate : executor'.diagnostics.state = executor.diagnostics.state :=
      congrArg (·.diagnostics.state) same
    exact Or.inr ⟨hstate ▸ hpriming, silent⟩
  | opened payload policy call notRunning accepted opens => exact Or.inl opens
  | admitted payload kind batch call admits admitted_ notOpen silent =>
    exact Or.inr ⟨hpriming, silent⟩
  | started => cases hpriming
  | stepped _ result call step =>
    generalize output executor event = out at step
    cases step with
    | idle => exact Or.inr ⟨hpriming, rfl⟩
    | holding running => exact absurd (running.symm.trans hpriming) (by decide)
    | applied running => exact absurd (running.symm.trans hpriming) (by decide)
    | interpolated running => exact absurd (running.symm.trans hpriming) (by decide)
    | _ => cases hpriming
  | checked _ result call check notOpen silent =>
    generalize hresult : (executor', result) = r at check
    cases check <;> cases hresult
    · exact Or.inr ⟨hpriming, silent⟩
    · exact Or.inr ⟨hpriming, silent⟩
    · cases hpriming
  | noted joint call notOpen silent => exact Or.inr ⟨hpriming, silent⟩

theorem opens_of_running (hrunning : executor.diagnostics.state = .running) :
    opens executor event = false := by
  unfold opens
  split
  · simp [streamExecutorOpen, hrunning]
  · rfl

/-- **Only a step of a RUNNING executor reports an output.** -/
theorem Outcome.reports (houtcome : Outcome executor event executor') {outputUrad : Joints}
    (hreports : output executor event = some outputUrad) :
    event.call = .step ∧ executor.diagnostics.state = .running ∧
      ∃ result, StepOutcome executor event.tick (executor', result, some outputUrad) := by
  cases houtcome with
  | stepped _ result call step =>
    rw [hreports] at step
    refine ⟨call, ?_, result, step⟩
    cases step with
    | _ running => exact running
  | refused _ same call noBatch notOpen silent => simp [silent] at hreports
  | opened payload policy call notRunning accepted opens silent => simp [silent] at hreports
  | admitted payload kind batch call admits admitted_ notOpen silent => simp [silent] at hreports
  | started position call starts notOpen silent => simp [silent] at hreports
  | checked _ result call check notOpen silent => simp [silent] at hreports
  | noted joint call notOpen silent => simp [silent] at hreports

/-- **Only a step counts an applied sample**, and it is the head of the queue, no longer ahead;
an open resets the count. -/
theorem Outcome.applies (houtcome : Outcome executor event executor')
    (hchanged : executor'.diagnostics.appliedSamples ≠ executor.diagnostics.appliedSamples)
    (hopens : opens executor event = false) :
    event.call = .step ∧ executor.diagnostics.state = .running ∧
      ∃ sample rest, executor.queue = sample :: rest ∧
        ¬ After (executor.due sample) event.tick := by
  cases houtcome with
  | refused _ same => exact absurd (congrArg (·.diagnostics.appliedSamples) same) hchanged
  | opened payload policy call notRunning accepted opens => simp [opens] at hopens
  | admitted => exact absurd rfl hchanged
  | started => exact absurd rfl hchanged
  | stepped _ result call step =>
    generalize output executor event = out at step
    cases step with
    | applied running sample rest queued noTimeout due =>
      exact ⟨call, running, sample, rest, queued, due⟩
    | succeeded running sample queued due => exact ⟨call, running, sample, [], queued, due⟩
    | _ => exact absurd rfl hchanged
  | checked _ result call check =>
    generalize hresult : (executor', result) = r at check
    cases check <;> cases hresult <;> exact absurd rfl hchanged
  | noted => exact absurd rfl hchanged

/-! ## 6. What leaves the executor RUNNING -/

/-- **What leaves the executor RUNNING**: a start, an admission, one of three steps, or a call
that touches neither the session nor the anchor and the control grid. -/
inductive StaysRunning (executor : StreamExecutor) (event : Event) : StreamExecutor → Prop
  | started (position : Joints) (call : event.call = .start position)
      (starts : Starts executor event.tick position) (silent : output executor event = none) :
      StaysRunning executor event (started executor event.tick position)
  | admitted (payload : List Byte) (kind : BatchKind) (batch : Batch)
      (call : event.call = .admitBatch payload kind) (running : executor.diagnostics.state = .running)
      (admits : Admits executor payload kind event.tick batch)
      (admitted_ : admittedBatch executor event = some (kind, batch))
      (silent : output executor event = none) :
      StaysRunning executor event (admitted executor batch kind event.tick admits.accepts.fits)
  | held (call : event.call = .step) (running : executor.diagnostics.state = .running)
      (drained : executor.queue = [])
      (reports : output executor event = some executor.anchor.positionUrad) :
      StaysRunning executor event
        (recordOutput (ticked executor event.tick) executor.anchor.positionUrad)
  | applied (sample : Setpoint) (rest : List Setpoint) (call : event.call = .step)
      (running : executor.diagnostics.state = .running) (queued : executor.queue = sample :: rest)
      (due : ¬ After (executor.due sample) event.tick)
      (reports : output executor event = some sample.positionUrad) :
      StaysRunning executor event
        (applyFirstSample (ticked executor event.tick) sample (event.tick - executor.due sample))
  | interpolated (sample : Setpoint) (rest : List Setpoint) (call : event.call = .step)
      (running : executor.diagnostics.state = .running) (queued : executor.queue = sample :: rest)
      (still : After (executor.due sample) event.tick)
      (span : executor.due sample ≠ executor.due executor.anchor)
      (within : ahead event.tick (executor.due executor.anchor) ≤
        ahead (executor.due sample) (executor.due executor.anchor))
      (reports : output executor event = some (executor.towards sample event.tick)) :
      StaysRunning executor event
        (recordOutput (ticked executor event.tick) (executor.towards sample event.tick))
  | quiet (executor' : StreamExecutor) (call : event.call.isStep = false)
      (running : executor.diagnostics.state = .running)
      (session : executor'.session = executor.session) (anchor : executor'.anchor = executor.anchor)
      (epoch : executor'.controlEpochTick = executor.controlEpochTick)
      (lastStep : executor'.lastStepTick = executor.lastStepTick)
      (silent : output executor event = none) : StaysRunning executor event executor'

theorem StepOutcome.staysRunning {result : ExecutorResult} (hsound : Sound executor)
    (hcall : event.call = .step) (hrunning : executor'.diagnostics.state = .running)
    (h : StepOutcome executor event.tick (executor', result, output executor event)) :
    StaysRunning executor event executor' := by
  generalize hout : output executor event = out at h
  cases h with
  | idle _ state =>
    have hvalid := (hsound.anchored hrunning).1
    rw [state hrunning] at hvalid
    cases hvalid
  | backwards => cases hrunning
  | timeout => cases hrunning
  | underflow => cases hrunning
  | missed => cases hrunning
  | succeeded => cases hrunning
  | degenerate => cases hrunning
  | holding running openEnded noTimeout drained => exact .held hcall running drained hout
  | applied running sample rest queued noTimeout due onTime more =>
    exact .applied sample rest hcall running queued due hout
  | interpolated running sample rest queued noTimeout still span within =>
    exact .interpolated sample rest hcall running queued still span within hout

theorem Outcome.staysRunning (h : Outcome executor event executor') (hsound : Sound executor)
    (hrunning : executor'.diagnostics.state = .running) :
    StaysRunning executor event executor' := by
  cases h with
  | refused _ same call noBatch notOpen silent =>
    have hstate : executor'.diagnostics.state = executor.diagnostics.state :=
      congrArg (·.diagnostics.state) same
    exact .quiet _ call (hstate ▸ hrunning) (congrArg (·.session) same)
      (congrArg (·.anchor) same) (congrArg (·.controlEpochTick) same)
      (congrArg (·.lastStepTick) same) silent
  | opened => cases hrunning
  | admitted payload kind batch call admits admitted_ notOpen silent =>
    have running : executor.diagnostics.state = .running := hrunning
    exact .admitted payload kind batch call running admits admitted_ silent
  | started position call starts notOpen silent => exact .started position call starts silent
  | stepped _ result call step notOpen => exact step.staysRunning hsound call hrunning
  | checked _ result call check notOpen silent =>
    have hcall : event.call.isStep = false := by
      cases hevent : event.call <;> simp [hevent, Call.isStep, Call.isFeedback] at call ⊢
    generalize hout : (executor', result) = out at check
    cases check with
    | idle => cases hout; exact .quiet _ hcall hrunning rfl rfl rfl rfl silent
    | tracked errors => cases hout; exact .quiet _ hcall hrunning rfl rfl rfl rfl silent
    | aborted => cases hout; cases hrunning
  | noted joint call notOpen silent =>
    exact .quiet _ (by simp [call, Call.isStep]) hrunning rfl rfl rfl rfl silent

/-! ## 7. Refused commands -/

/-- **A refused open, admission or start leaves the executor as it was.**  Session, queue,
epoch, horizon, anchor, outputs, state and counters are all fields of the executor, and the two
status fields are the only ones that `forgetStatus` drops; the queue is spelt out for the SPLICE,
whose refusal keeps every sample it would have replaced. -/
theorem refused_command_keeps_executor (executor : StreamExecutor) (currentTick : Tick)
    (payload : List Byte) (kind : BatchKind) (positionUrad : Joints) :
    ((streamExecutorOpen executor payload currentTick).2 = .ok ∨
      forgetStatus (streamExecutorOpen executor payload currentTick).1 =
        forgetStatus executor) ∧
    ((streamExecutorAdmit executor payload kind currentTick).2 = .ok ∨
      forgetStatus (streamExecutorAdmit executor payload kind currentTick).1 =
          forgetStatus executor ∧
        (streamExecutorAdmit executor payload kind currentTick).1.queue = executor.queue) ∧
    ((streamExecutorStart executor currentTick positionUrad).2 = .ok ∨
      (streamExecutorStart executor currentTick positionUrad).1 = executor) := by
  refine ⟨?_, ?_, ?_⟩
  · rcases streamExecutorOpen_cases executor payload currentTick with
      ⟨-, hsame⟩ | ⟨policy, -, -, heq⟩
    · exact Or.inr hsame
    · exact Or.inl (congrArg Prod.snd heq)
  · rcases streamExecutorAdmit_cases executor payload kind currentTick with
      ⟨-, hsame⟩ | ⟨batch, hadmits, heq⟩
    · exact Or.inr ⟨hsame, congrArg (·.queue) hsame⟩
    · exact Or.inl (congrArg Prod.snd heq)
  · rcases streamExecutorStart_cases executor currentTick positionUrad with
      ⟨-, hsame⟩ | ⟨-, heq⟩
    · exact Or.inr hsame
    · exact Or.inl (congrArg Prod.snd heq)

end MobileBimanual.Stream
