/-
# The dead man's switch of the stream

An open-ended stream lives on its commands: whatever the ticks of a run, a step's output comes
within the policy's timeout of the last batch that was accepted, or it is the anchor and the
stream is in HOLD (`output_commanded`).  The executor remembers of that batch no more than its
tick and its horizon (`Remembers`).
-/
import MobileBimanual.Stream.Terminal

namespace MobileBimanual.Stream

open Serial (ahead)

/-! ## 1. The last command -/

/-- No batch is accepted and no stream is opened. -/
def Quiet (executor : StreamExecutor) (event : Event) : Prop :=
  admittedBatch executor event = none ∧ opens executor event = false

/-- The last batch that a run accepted; no stream was opened since. -/
def LastCommand (initial : StreamExecutor) (events : List Event) (command : Event)
    (batch : Batch) : Prop :=
  ∃ before since kind, events = before ++ command :: since ∧
    admittedBatch (after initial before) command = some (kind, batch) ∧
    Machine.Along next Quiet (next (after initial before) command) since

variable {initial executor executor' : StreamExecutor} {events : List Event} {event : Event}

theorem after_concat (initial : StreamExecutor) (events : List Event) (event : Event) :
    after initial (events ++ [event]) = next (after initial events) event :=
  Machine.run_append _ _ _

theorem LastCommand.concat {command : Event} {batch : Batch}
    (h : LastCommand initial events command batch) (hquiet : Quiet (after initial events) event) :
    LastCommand initial (events ++ [event]) command batch := by
  obtain ⟨before, since, kind, rfl, hbatch, hsince⟩ := h
  refine ⟨before, since ++ [event], kind, by simp, hbatch, ?_⟩
  rw [after, Machine.run_append] at hquiet
  exact (Machine.along_append _ _ _).mpr ⟨hsince, hquiet, trivial⟩

/-! ## 2. What the executor remembers of it -/

/-- Something is queued, or the stream runs. -/
def Fed (executor : StreamExecutor) : Prop :=
  executor.queue ≠ [] ∨ executor.diagnostics.state = .running

def Remembers (initial : StreamExecutor) (events : List Event) : Prop :=
  Fed (after initial events) → ∃ command batch, LastCommand initial events command batch ∧
    (after initial events).diagnostics.lastCommandTick = command.tick ∧
    (after initial events).session.horizonEndTick = batch.horizonEndTick

structure Unfed (executor executor' : StreamExecutor) : Prop where
  command : executor'.diagnostics.lastCommandTick = executor.diagnostics.lastCommandTick
  horizon : executor'.session.horizonEndTick = executor.session.horizonEndTick
  fed : Fed executor' → Fed executor

/-- **An event accepts a batch, leaves nothing to run on, or feeds nothing.** -/
theorem Outcome.feeds (h : Outcome executor event executor') (hsound : Sound executor) :
    (∃ kind batch, admittedBatch executor event = some (kind, batch) ∧
      executor'.diagnostics.lastCommandTick = event.tick ∧
      executor'.session.horizonEndTick = batch.horizonEndTick) ∨
    ¬ Fed executor' ∨ Quiet executor event ∧ Unfed executor executor' := by
  cases h with
  | refused _ same call noBatch notOpen silent =>
    refine Or.inr (Or.inr ⟨⟨noBatch, notOpen⟩, congrArg (·.diagnostics.lastCommandTick) same,
      congrArg (·.session.horizonEndTick) same, fun hfed => ?_⟩)
    exact (congrArg Fed same).mp hfed
  | opened => exact Or.inr (Or.inl (not_or.mpr ⟨not_not.mpr rfl, fun h => by cases h⟩))
  | admitted payload kind batch call admits admitted_ =>
    exact Or.inl ⟨kind, batch, admitted_, rfl, rfl⟩
  | started position call starts notOpen silent =>
    have hpositive := (hsound.isOpen (Or.inl starts.priming)).2.start
    have hqueue := List.ne_nil_of_length_pos (hpositive.trans_le starts.enough)
    exact Or.inr (Or.inr ⟨⟨by simp [admittedBatch, call], notOpen⟩, rfl, rfl, fun _ => Or.inl hqueue⟩)
  | stepped _ result call step notOpen =>
    refine Or.inr (Or.inr ⟨⟨by simp [admittedBatch, call], notOpen⟩, ?_⟩)
    generalize output executor event = out at step
    cases step with
    | idle => exact ⟨rfl, rfl, id⟩
    | _ running => exact ⟨rfl, rfl, fun _ => Or.inr running⟩
  | checked _ result call check notOpen silent =>
    have hbatch : admittedBatch executor event = none := by
      cases hcall : event.call <;> simp [hcall, admittedBatch, Call.isFeedback] at call ⊢
    refine Or.inr (Or.inr ⟨⟨hbatch, notOpen⟩, ?_⟩)
    generalize hresult : (executor', result) = r at check
    cases check with
    | aborted => cases hresult; exact ⟨rfl, rfl, Or.imp id fun h => by cases h⟩
    | _ => cases hresult; exact ⟨rfl, rfl, id⟩
  | noted joint call notOpen silent =>
    exact Or.inr (Or.inr ⟨⟨by simp [admittedBatch, call], notOpen⟩, rfl, rfl, id⟩)

variable {hardCaps : StreamHardCaps} {limits : JointLimits}

theorem remembers_after (hinit : streamExecutorInit hardCaps limits = .ok initial)
    (events : List Event) : Remembers initial events := by
  induction events using List.reverseRecOn with
  | nil =>
    obtain ⟨hstate, -, -, hsession, -⟩ := streamExecutorInit_ok hinit
    rintro (hqueue | hrunning)
    · exact absurd (congrArg (·.validatedSamples.samples) hsession) hqueue
    · exact absurd (hstate.symm.trans hrunning) nofun
  | append_singleton events event ih =>
    intro hfed
    rw [after_concat] at hfed ⊢
    rcases (next_outcome (after initial events) event).feeds (sound_after hinit events) with
      ⟨kind, batch, hbatch, htick, hhorizon⟩ | hunfed | ⟨hquiet, hunfed⟩
    · exact ⟨event, batch, ⟨events, [], kind, rfl, hbatch, trivial⟩, htick, hhorizon⟩
    · exact absurd hfed hunfed
    · obtain ⟨command, batch, hlast, htick, hhorizon⟩ := ih (hunfed.fed hfed)
      exact ⟨command, batch, hlast.concat hquiet, hunfed.command.trans htick,
        hunfed.horizon.trans hhorizon⟩

/-! ## 3. The switch -/

/-- There is a last command; if it has no horizon, the output comes within its timeout, or is the
anchor that ends the stream. -/
def Commanded (initial : StreamExecutor) (events : List Event) (event : Event)
    (position : Joints) : Prop :=
  ∃ command batch, LastCommand initial events command batch ∧
    (batch.horizonEndTick = 0 →
      ahead event.tick command.tick ≤
        (after initial events).session.policy.commandTimeoutMs.toNat ∨
      position = (after initial events).anchor.positionUrad ∧
        (next (after initial events) event).diagnostics.state = .hold ∧
        (next (after initial events) event).diagnostics.terminalReason = .commandTimeout)

/-- **No output outlives its command.** -/
theorem output_commanded (hinit : streamExecutorInit hardCaps limits = .ok initial)
    (events : List Event) (event : Event) (position : Joints)
    (hout : output (after initial events) event = some position) :
    Commanded initial events event position := by
  have hremembers := remembers_after hinit events
  have houtcome := next_outcome (after initial events) event
  unfold Commanded
  generalize next (after initial events) event = executor' at houtcome
  cases houtcome with
  | stepped _ result call step notOpen =>
    rw [hout] at step
    have hrunning : (after initial events).diagnostics.state = .running := by
      cases step with
      | _ running => exact running
    obtain ⟨command, batch, hlast, htick, hhorizon⟩ := hremembers (Or.inr hrunning)
    refine ⟨command, batch, hlast, fun hopen => ?_⟩
    rw [← hhorizon] at hopen
    rw [← htick]
    cases step with
    | timeout => exact Or.inr ⟨rfl, rfl, rfl⟩
    | holding running openEnded noTimeout => exact Or.inl (noTimeout hopen)
    | applied running first rest queued noTimeout => exact Or.inl (noTimeout hopen)
    | succeeded running first queued due onTime planned => exact absurd hopen planned
    | interpolated running first rest queued noTimeout => exact Or.inl (noTimeout hopen)
  | _ => simp_all

theorem output_commanded_bench :
    Commanded Bench.executor (Bench.silentRun.take 5) ⟨205, .step⟩ fun _ => 0 :=
  output_commanded Bench.executor_init (Bench.silentRun.take 5) ⟨205, .step⟩ _ (by decide +kernel)

end MobileBimanual.Stream
