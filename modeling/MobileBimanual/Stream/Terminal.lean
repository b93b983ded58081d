/-
# The terminal latch

Once the executor is HOLD or ABORTED, only a successful STREAM_OPEN moves it.  SUCCEEDED is left
in one other way, a tracking failure, and is entered in one way, by applying the sample of the
planned horizon as the last of the queue.  Every other terminal asks for a safe stop, and the
request stands until a STREAM_OPEN succeeds.

One event at a time this is a case distinction on its outcome; `Latched` is what those steps
need of a reachable executor.
-/
import MobileBimanual.Stream.Payload
import MobileBimanual.Stream.Run

namespace MobileBimanual.Stream

open Serial (After ahead)

/-! ## 1. What the reachable executors have -/

def ExecutorState.stopped : ExecutorState → Bool
  | .hold => true
  | .aborted => true
  | _ => false

/-- The reasons and the stop request that go with each state. -/
structure Latched (executor : StreamExecutor) : Prop where
  stopped : executor.diagnostics.state.stopped = true →
    executor.diagnostics.safeStopRequired = true ∧
      executor.diagnostics.terminalReason ≠ .none ∧
      executor.diagnostics.terminalReason ≠ .plannedHorizon
  succeeded : executor.diagnostics.state = .succeeded →
    executor.diagnostics.terminalReason = .plannedHorizon ∧ executor.queue = [] ∧
      executor.session.horizonEndTick ≠ 0 ∧
      executor.anchor.applyTick = executor.session.horizonEndTick
  live : executor.diagnostics.state.stopped = false →
    executor.diagnostics.safeStopRequired = false
  unfinished : executor.diagnostics.state = .closed ∨ executor.diagnostics.state = .priming ∨
    executor.diagnostics.state = .running → executor.diagnostics.terminalReason = .none

theorem latched_stopped {executor : StreamExecutor}
    (hstate : executor.diagnostics.state.stopped = true)
    (hstop : executor.diagnostics.safeStopRequired = true)
    (hreason : executor.diagnostics.terminalReason ≠ .none ∧
      executor.diagnostics.terminalReason ≠ .plannedHorizon) : Latched executor where
  stopped := fun _ => ⟨hstop, hreason⟩
  succeeded := fun h => by simp [h, ExecutorState.stopped] at hstate
  live := fun h => by simp [h] at hstate
  unfinished := by rintro (h | h | h) <;> simp [h, ExecutorState.stopped] at hstate

variable {executor : StreamExecutor}

theorem latched_live
    (hstate : executor.diagnostics.state = .priming ∨ executor.diagnostics.state = .running)
    (hstop : executor.diagnostics.safeStopRequired = false)
    (hreason : executor.diagnostics.terminalReason = .none) : Latched executor where
  stopped := by rcases hstate with h | h <;> simp [h, ExecutorState.stopped]
  succeeded := by rcases hstate with h | h <;> simp [h]
  live := fun _ => hstop
  unfinished := fun _ => hreason

theorem Latched.of_live (h : Latched executor)
    (hstate : executor.diagnostics.state = .priming ∨ executor.diagnostics.state = .running) :
    executor.diagnostics.safeStopRequired = false ∧
      executor.diagnostics.terminalReason = .none := by
  rcases hstate with hstate | hstate
  · exact ⟨h.live (by simp [hstate, ExecutorState.stopped]),
      h.unfinished (Or.inr (Or.inl hstate))⟩
  · exact ⟨h.live (by simp [hstate, ExecutorState.stopped]),
      h.unfinished (Or.inr (Or.inr hstate))⟩

variable {e e' : StreamExecutor}

theorem Latched.congr (h : Latched e) (hstate : e'.diagnostics.state = e.diagnostics.state)
    (hreason : e'.diagnostics.terminalReason = e.diagnostics.terminalReason)
    (hstop : e'.diagnostics.safeStopRequired = e.diagnostics.safeStopRequired)
    (hsession : e'.session = e.session) (hanchor : e'.anchor = e.anchor) : Latched e' where
  stopped := by
    rw [hstate, hreason, hstop]
    exact h.stopped
  succeeded := by
    rw [hstate, hreason, StreamExecutor.queue, hsession, hanchor]
    exact h.succeeded
  live := by
    rw [hstate, hstop]
    exact h.live
  unfinished := by
    rw [hstate, hreason]
    exact h.unfinished

theorem latched_step {currentTick : Tick} {result : StreamExecutor × ExecutorResult × Option Joints}
    (h : Latched executor) (hstep : StepOutcome executor currentTick result) :
    Latched result.1 := by
  cases hstep with
  | idle => exact h
  | backwards running late => exact latched_stopped rfl rfl ⟨nofun, nofun⟩
  | timeout running openEnded silent => exact latched_stopped rfl rfl ⟨nofun, nofun⟩
  | underflow running planned drained => exact latched_stopped rfl rfl ⟨nofun, nofun⟩
  | holding running openEnded noTimeout drained => exact h.congr rfl rfl rfl rfl rfl
  | missed running sample rest queued passed late =>
    exact latched_stopped rfl rfl ⟨nofun, nofun⟩
  | applied running sample rest queued noTimeout due onTime more =>
    obtain ⟨hstop, hreason⟩ := h.of_live (Or.inr running)
    exact latched_live (Or.inr running) hstop hreason
  | succeeded running sample queued due onTime planned final =>
    refine ⟨nofun, fun _ => ⟨rfl, ?_, planned, final⟩, fun _ => rfl, by rintro (h | h | h) <;> cases h⟩
    exact congrArg List.tail queued
  | degenerate running sample rest queued still collapsed =>
    exact latched_stopped rfl rfl ⟨nofun, nofun⟩
  | interpolated running sample rest queued noTimeout still span within =>
    exact h.congr rfl rfl rfl rfl rfl

theorem latched_checked {currentTick : Tick} {result : StreamExecutor × ExecutorResult}
    (h : Latched executor) (hcheck : FeedbackOutcome executor currentTick result) :
    Latched result.1 := by
  cases hcheck with
  | idle => exact h
  | tracked errors => exact h.congr rfl rfl rfl rfl rfl
  | aborted errors joint live => exact latched_stopped rfl rfl ⟨nofun, nofun⟩

variable {executor' : StreamExecutor} {event : Event}

theorem Latched.of_outcome (h : Latched executor) (houtcome : Outcome executor event executor') :
    Latched executor' := by
  cases houtcome with
  | refused _ same call noBatch notOpen silent =>
    exact h.congr (congrArg (·.diagnostics.state) same)
      (congrArg (·.diagnostics.terminalReason) same)
      (congrArg (·.diagnostics.safeStopRequired) same) (congrArg (·.session) same)
      (congrArg (·.anchor) same)
  | opened payload policy call notRunning accepted opens silent =>
    exact latched_live (Or.inl rfl) rfl rfl
  | admitted payload kind batch call admits admitted_ notOpen silent =>
    obtain ⟨hstop, hreason⟩ := h.of_live admits.live
    exact latched_live admits.live hstop hreason
  | started position call starts notOpen silent =>
    obtain ⟨hstop, hreason⟩ := h.of_live (Or.inl starts.priming)
    exact latched_live (Or.inr rfl) hstop hreason
  | stepped _ result call step notOpen => exact latched_step h step
  | checked _ result call check notOpen silent => exact latched_checked h check
  | noted joint call notOpen silent => exact h.congr rfl rfl rfl rfl rfl

variable {hardCaps : StreamHardCaps} {jointLimits : JointLimits}

theorem latched_init (hinit : streamExecutorInit hardCaps jointLimits = .ok executor) :
    Latched executor := by
  obtain ⟨hstate, hreason, hstop, -⟩ := streamExecutorInit_ok hinit
  refine ⟨?_, ?_, fun _ => hstop, fun _ => hreason⟩
  · simp [hstate, ExecutorState.stopped]
  · simp [hstate]

theorem latched_after (hinit : streamExecutorInit hardCaps jointLimits = .ok executor)
    (events : List Event) : Latched (after executor events) :=
  Machine.run_invariant_all (fun e event h => h.of_outcome (next_outcome e event)) events
    (latched_init hinit)

/-! ## 2. A stopped executor -/

/-- Nothing that the terminal state promises has changed. -/
structure Frozen (executor executor' : StreamExecutor) : Prop where
  state : executor'.diagnostics.state = executor.diagnostics.state
  reason : executor'.diagnostics.terminalReason = executor.diagnostics.terminalReason
  stop : executor'.diagnostics.safeStopRequired = executor.diagnostics.safeStopRequired
  tick : executor'.diagnostics.terminalTick = executor.diagnostics.terminalTick
  output : executor'.lastOutputUrad = executor.lastOutputUrad
  outputValid : executor'.outputValid = executor.outputValid
  anchor : executor'.anchor = executor.anchor
  session : executor'.session = executor.session

theorem Frozen.refl (executor : StreamExecutor) : Frozen executor executor :=
  ⟨rfl, rfl, rfl, rfl, rfl, rfl, rfl, rfl⟩

theorem Frozen.trans {e'' : StreamExecutor} (h : Frozen e e') (h' : Frozen e' e'') : Frozen e e'' :=
  ⟨h'.state.trans h.state, h'.reason.trans h.reason, h'.stop.trans h.stop, h'.tick.trans h.tick,
    h'.output.trans h.output, h'.outputValid.trans h.outputValid, h'.anchor.trans h.anchor,
    h'.session.trans h.session⟩

theorem Frozen.of_forgetStatus (hsame : forgetStatus e' = forgetStatus e) : Frozen e e' :=
  ⟨congrArg (·.diagnostics.state) hsame, congrArg (·.diagnostics.terminalReason) hsame,
    congrArg (·.diagnostics.safeStopRequired) hsame, congrArg (·.diagnostics.terminalTick) hsame,
    congrArg (·.lastOutputUrad) hsame, congrArg (·.outputValid) hsame, congrArg (·.anchor) hsame,
    congrArg (·.session) hsame⟩

theorem stopped_not_running {state : ExecutorState} (h : state.stopped = true) :
    state ≠ .priming ∧ state ≠ .running ∧ state ≠ .succeeded := by
  refine ⟨?_, ?_, ?_⟩ <;> rintro rfl <;> cases h

/-- **A stopped executor answers every event but a successful open with nothing.** -/
theorem frozen_of_stopped (hstopped : executor.diagnostics.state.stopped = true)
    (hopens : opens executor event = false) (houtcome : Outcome executor event executor') :
    Frozen executor executor' ∧ output executor event = none := by
  obtain ⟨hpriming, hrunning, hsucceeded⟩ := stopped_not_running hstopped
  cases houtcome with
  | refused _ same call noBatch notOpen silent => exact ⟨Frozen.of_forgetStatus same, silent⟩
  | opened payload policy call notRunning accepted opens silent =>
    rw [hopens] at opens
    cases opens
  | admitted payload kind batch call admits admitted_ notOpen silent =>
    rcases admits.live with h | h
    · exact absurd h hpriming
    · exact absurd h hrunning
  | started position call starts notOpen silent => exact absurd starts.priming hpriming
  | stepped _ result call step notOpen =>
    generalize output executor event = out at step ⊢
    cases step with
    | idle => exact ⟨Frozen.refl _, rfl⟩
    | _ running => exact absurd running hrunning
  | checked _ result call check notOpen silent =>
    cases check with
    | idle => exact ⟨Frozen.refl _, silent⟩
    | tracked errors => exact ⟨⟨rfl, rfl, rfl, rfl, rfl, rfl, rfl, rfl⟩, silent⟩
    | aborted errors joint live =>
      rcases live with h | h
      · exact absurd h hrunning
      · exact absurd h hsucceeded
  | noted joint call notOpen silent => exact ⟨⟨rfl, rfl, rfl, rfl, rfl, rfl, rfl, rfl⟩, silent⟩

/-- The event is not a STREAM_OPEN that succeeds. -/
abbrev notOpening (executor : StreamExecutor) (event : Event) : Prop :=
  opens executor event = false

/-- The run version: the executor stays stopped as it is for as long as no open succeeds. -/
theorem frozen_after (hstopped : executor.diagnostics.state.stopped = true) (events : List Event)
    (hopens : Machine.Along next notOpening executor events) :
    Frozen executor (after executor events) := by
  refine Machine.run_invariant (I := Frozen executor) ?_ events
    (Frozen.refl executor) hopens
  intro e event hfrozen hopen
  have hstopped' : e.diagnostics.state.stopped = true := by rw [hfrozen.state, hstopped]
  exact hfrozen.trans (frozen_of_stopped hstopped' hopen (next_outcome e event)).1

/-! ## 3. SUCCEEDED -/

/-- **The way out of SUCCEEDED**, short of a successful open, is a tracking failure. -/
theorem leaves_succeeded (hsucceeded : executor.diagnostics.state = .succeeded)
    (hopens : opens executor event = false) (houtcome : Outcome executor event executor') :
    Frozen executor executor' ∨
      event.call.isFeedback = true ∧ executor'.diagnostics.state = .aborted ∧
        executor'.diagnostics.terminalReason = .trackingError := by
  cases houtcome with
  | refused _ same call noBatch notOpen silent => exact Or.inl (Frozen.of_forgetStatus same)
  | opened payload policy call notRunning accepted opens silent =>
    rw [hopens] at opens
    cases opens
  | admitted payload kind batch call admits admitted_ notOpen silent =>
    rcases admits.live with h | h <;> simp [hsucceeded] at h
  | started position call starts notOpen silent =>
    have hpriming := starts.priming
    simp [hsucceeded] at hpriming
  | stepped _ result call step notOpen =>
    generalize output executor event = out at step
    cases step with
    | idle => exact Or.inl (Frozen.refl _)
    | _ running => simp [hsucceeded] at running
  | checked _ result call check notOpen silent =>
    cases check with
    | idle => exact Or.inl (Frozen.refl _)
    | tracked errors => exact Or.inl ⟨rfl, rfl, rfl, rfl, rfl, rfl, rfl, rfl⟩
    | aborted errors joint live => exact Or.inr ⟨call, rfl, rfl⟩
  | noted joint call notOpen silent => exact Or.inl ⟨rfl, rfl, rfl, rfl, rfl, rfl, rfl, rfl⟩

/-- **The way into SUCCEEDED**: a step that applies the only queued sample, on the horizon. -/
theorem enters_succeeded (hbefore : executor.diagnostics.state ≠ .succeeded)
    (hsucceeded : executor'.diagnostics.state = .succeeded)
    (houtcome : Outcome executor event executor') :
    event.call = .step ∧ executor.queue = [executor'.anchor] ∧ executor'.queue = [] ∧
      executor'.session.horizonEndTick ≠ 0 ∧
      executor'.anchor.applyTick = executor'.session.horizonEndTick ∧
      executor'.diagnostics.terminalReason = .plannedHorizon := by
  cases houtcome with
  | refused _ same call noBatch notOpen silent =>
    exact absurd ((congrArg (·.diagnostics.state) same).symm.trans hsucceeded) hbefore
  | opened payload policy call notRunning accepted opens silent => cases hsucceeded
  | admitted payload kind batch call admits admitted_ notOpen silent => exact absurd hsucceeded hbefore
  | started position call starts notOpen silent => cases hsucceeded
  | stepped _ result call step notOpen =>
    generalize output executor event = out at step
    cases step with
    | idle => exact absurd hsucceeded hbefore
    | backwards => cases hsucceeded
    | timeout => cases hsucceeded
    | underflow => cases hsucceeded
    | holding => exact absurd hsucceeded hbefore
    | missed => cases hsucceeded
    | applied => exact absurd hsucceeded hbefore
    | succeeded running sample queued due onTime planned final =>
      exact ⟨call, queued, congrArg List.tail queued, planned, final, rfl⟩
    | degenerate => cases hsucceeded
    | interpolated => exact absurd hsucceeded hbefore
  | checked _ result call check notOpen silent =>
    cases check with
    | idle => exact absurd hsucceeded hbefore
    | tracked errors => exact absurd hsucceeded hbefore
    | aborted errors joint live => cases hsucceeded
  | noted joint call notOpen silent => exact absurd hsucceeded hbefore

/-! ## 4. The latch of every run -/

/-- What a reachable executor promises about its terminal states, whatever is called next. -/
structure TerminalLatch (executor : StreamExecutor) : Prop where
  stopped : executor.diagnostics.state = .hold ∨ executor.diagnostics.state = .aborted →
    ∀ events, Machine.Along next notOpening executor events →
      Frozen executor (after executor events) ∧
        ∀ event, notOpening (after executor events) event →
          output (after executor events) event = none
  leavesSucceeded : executor.diagnostics.state = .succeeded → ∀ event, notOpening executor event →
    Frozen executor (next executor event) ∨
      event.call.isFeedback = true ∧ (next executor event).diagnostics.state = .aborted ∧
        (next executor event).diagnostics.terminalReason = .trackingError
  entersSucceeded : executor.diagnostics.state ≠ .succeeded → ∀ event,
    (next executor event).diagnostics.state = .succeeded →
      event.call = .step ∧ executor.queue = [(next executor event).anchor] ∧
        (next executor event).queue = [] ∧ (next executor event).session.horizonEndTick ≠ 0 ∧
        (next executor event).anchor.applyTick = (next executor event).session.horizonEndTick ∧
        (next executor event).diagnostics.terminalReason = .plannedHorizon
  safeStop : executor.diagnostics.state = .hold ∨ executor.diagnostics.state = .succeeded ∨
    executor.diagnostics.state = .aborted →
      executor.diagnostics.terminalReason ≠ .plannedHorizon →
        executor.diagnostics.safeStopRequired = true
  stopReason : executor.diagnostics.state = .hold ∨ executor.diagnostics.state = .aborted →
    executor.diagnostics.terminalReason ≠ .none ∧
      executor.diagnostics.terminalReason ≠ .plannedHorizon
  keepsStop : executor.diagnostics.safeStopRequired = true → ∀ event, notOpening executor event →
    (next executor event).diagnostics.safeStopRequired = true

theorem stopped_iff (state : ExecutorState) :
    state.stopped = true ↔ state = .hold ∨ state = .aborted := by
  cases state <;> simp [ExecutorState.stopped]

/-- **The terminal states of every reachable executor are latched.** -/
theorem terminal_latch {initial : StreamExecutor}
    (hinit : streamExecutorInit hardCaps jointLimits = .ok initial) (events : List Event) :
    TerminalLatch (after initial events) := by
  have h := latched_after hinit events
  generalize after initial events = executor at h
  refine ⟨?_, ?_, ?_, ?_, ?_, ?_⟩
  · intro hstate more hmore
    have hstopped := (stopped_iff _).mpr hstate
    have hfrozen := frozen_after hstopped more hmore
    refine ⟨hfrozen, fun event hopen => ?_⟩
    have hstopped' : (after executor more).diagnostics.state.stopped = true := by
      rw [hfrozen.state, hstopped]
    exact (frozen_of_stopped hstopped' hopen (next_outcome _ event)).2
  · intro hstate event hopen
    exact leaves_succeeded hstate hopen (next_outcome executor event)
  · intro hstate event hnext
    exact enters_succeeded hstate hnext (next_outcome executor event)
  · rintro (hstate | hstate | hstate) hreason
    · exact (h.stopped ((stopped_iff _).mpr (Or.inl hstate))).1
    · exact absurd (h.succeeded hstate).1 hreason
    · exact (h.stopped ((stopped_iff _).mpr (Or.inr hstate))).1
  · intro hstate
    exact (h.stopped ((stopped_iff _).mpr hstate)).2
  · intro hstop event hopen
    have hstopped : executor.diagnostics.state.stopped = true := by
      by_contra hne
      simp [h.live (by simpa using hne)] at hstop
    exact (frozen_of_stopped hstopped hopen (next_outcome executor event)).1.stop.trans hstop

/-- An open-ended stream on the bench that is left without commands until it times out. -/
def Bench.silentRun : List Event :=
  [⟨100, .openStream (openPayload 1 0 100)⟩, ⟨100, .admitBatch (batchPayload 0 0 [(120, 5000)]) .append⟩,
    ⟨100, .start fun _ => 0⟩, ⟨100, .step⟩, ⟨105, .step⟩, ⟨205, .step⟩]

theorem terminal_latch_bench :
    (after Bench.executor Bench.silentRun).diagnostics.state = .hold ∧
      TerminalLatch (after Bench.executor Bench.silentRun) :=
  ⟨by decide +kernel, terminal_latch Bench.executor_init Bench.silentRun⟩

end MobileBimanual.Stream
