/-
# Runs on a true clock

The executor reads a 32-bit millisecond counter.  Here the counter has a true time behind it, a
natural number: the events of a run carry their true times, and the tick a call is passed is the
reading of the counter at that time.

* `onClock`: times do not decrease and the run spans less than `2^31` ms from its start;
* `onGrid`: a RUNNING executor is stepped on every control tick of the 5 ms grid from its start
  tick.  `nextStep` is the control tick that is due next; every other call may fall anywhere up
  to it, and the step falls on it.

`Paced` reads the executor's own ticks as true times, and says how each call moves them.
-/
import MobileBimanual.Stream.Grid

namespace MobileBimanual.Stream

open Serial (After ahead ofTime)

/-! ## 1. The machine -/

structure TimedCall where
  time : Nat
  call : Call

def TimedCall.event (e : TimedCall) : Event := ⟨ofTime e.time, e.call⟩

structure Clocked where
  executor : StreamExecutor
  now : Nat
  nextStep : Nat

/-- The control tick after the step, or the present while nothing is RUNNING: a start that
succeeds makes its own time the first control tick. -/
def nextControlTick (executor : StreamExecutor) (nextStep : Nat) (e : TimedCall) : Nat :=
  if executor.diagnostics.state = .running then
    if e.call.isStep then nextStep + 5 else nextStep
  else e.time

def Clocked.next (c : Clocked) (e : TimedCall) : Clocked where
  executor := Stream.next c.executor e.event
  now := e.time
  nextStep := nextControlTick c.executor c.nextStep e

/-- The executor before its first event, at the time the run begins. -/
def Clocked.begin (executor : StreamExecutor) (start : Nat) : Clocked := ⟨executor, start, start⟩

/-- The clock does not run backwards and the run spans less than `2^31` ms. -/
def onClock (start : Nat) (c : Clocked) (e : TimedCall) : Prop :=
  c.now ≤ e.time ∧ e.time < start + 2 ^ 31

/-- No control tick of a RUNNING executor passes without its step. -/
def onGrid (c : Clocked) (e : TimedCall) : Prop :=
  c.executor.diagnostics.state = .running →
    if e.call.isStep then e.time = c.nextStep else e.time ≤ c.nextStep

instance (start : Nat) (c : Clocked) (e : TimedCall) : Decidable (onClock start c e) :=
  inferInstanceAs (Decidable (_ ∧ _))

instance (c : Clocked) (e : TimedCall) : Decidable (onGrid c e) :=
  inferInstanceAs (Decidable (_ → _))

/-- The clock is an instrument: the executor runs as it runs without it. -/
theorem Clocked.executor_run (c : Clocked) (events : List TimedCall) :
    (Machine.run Clocked.next c events).executor =
      after c.executor (events.map TimedCall.event) := by
  rw [after, Machine.run_map]
  exact Machine.map_run Clocked.executor (fun _ _ => rfl) c events

/-! ## 2. The true times of a RUNNING executor -/

/-- A RUNNING executor was started at the time `epoch` and last stepped, or started, at the time
`last`. -/
structure Paced (start : Nat) (c : Clocked) (epoch last : Nat) : Prop where
  epochTick : c.executor.controlEpochTick = ofTime epoch
  lastTick : c.executor.lastStepTick = ofTime last
  began : start ≤ epoch
  later : epoch ≤ last
  aligned : 5 ∣ last - epoch
  past : last ≤ c.now
  ready : c.now ≤ c.nextStep
  recent : c.now < start + 2 ^ 31
  nextStep : c.nextStep = last + 5 ∨ c.nextStep = last ∧ last = epoch

variable {start epoch last : Nat} {c : Clocked} {e : TimedCall} {sample : Setpoint}

/-- A start lays the grid at its own time. -/
theorem Paced.started {position : Joints} (hnow : start ≤ c.now) (hclock : onClock start c e)
    (hpriming : c.executor.diagnostics.state = .priming)
    (hnext : Stream.next c.executor e.event = started c.executor e.event.tick position) :
    Paced start (c.next e) e.time e.time := by
  have htime : (c.next e).nextStep = e.time := by
    simp [Clocked.next, nextControlTick, hpriming]
  obtain ⟨hle, hrecent⟩ := hclock
  have hexecutor : (c.next e).executor = Stream.started c.executor e.event.tick position := hnext
  refine ⟨?_, ?_, by omega, Nat.le_refl _, by simp, Nat.le_refl _, Nat.le_of_eq htime.symm,
    hrecent, Or.inr ⟨htime, rfl⟩⟩
  · rw [hexecutor]
    rfl
  · rw [hexecutor]
    rfl

/-- A step is taken on the control tick that is due. -/
theorem step_time (hgrid : onGrid c e) (hrunning : c.executor.diagnostics.state = .running)
    (hcall : e.call = .step) : e.time = c.nextStep := by
  have := hgrid hrunning
  simpa [hcall, Call.isStep] using this

theorem nextStep_step (hgrid : onGrid c e) (hrunning : c.executor.diagnostics.state = .running)
    (hcall : e.call = .step) : (c.next e).nextStep = e.time + 5 := by
  rw [step_time hgrid hrunning hcall]
  simp [Clocked.next, nextControlTick, hrunning, hcall, Call.isStep]

theorem nextStep_other (hrunning : c.executor.diagnostics.state = .running)
    (hcall : e.call.isStep = false) : (c.next e).nextStep = c.nextStep := by
  simp [Clocked.next, nextControlTick, hrunning, hcall]

theorem Paced.stepped (h : Paced start c epoch last) (hclock : onClock start c e)
    (hgrid : onGrid c e) (hrunning : c.executor.diagnostics.state = .running)
    (hcall : e.call = .step)
    (hepoch : (c.next e).executor.controlEpochTick = c.executor.controlEpochTick)
    (hlast : (c.next e).executor.lastStepTick = e.event.tick) :
    Paced start (c.next e) epoch e.time := by
  have htime := step_time hgrid hrunning hcall
  have hnext := nextStep_step hgrid hrunning hcall
  have hnow : (c.next e).now = e.time := rfl
  have hlater := h.later
  obtain ⟨k, hk⟩ := h.aligned
  refine ⟨hepoch.trans h.epochTick, hlast, h.began, ?_, ?_, Nat.le_refl _, by omega, hclock.2,
    Or.inl (by omega)⟩
  · rcases h.nextStep with hstep | ⟨hstep, -⟩ <;> omega
  · rcases h.nextStep with hstep | ⟨hstep, heq⟩
    · exact ⟨k + 1, by omega⟩
    · exact ⟨0, by omega⟩

theorem Paced.kept (h : Paced start c epoch last) (hclock : onClock start c e)
    (hgrid : onGrid c e) (hrunning : c.executor.diagnostics.state = .running)
    (hcall : e.call.isStep = false)
    (hepoch : (c.next e).executor.controlEpochTick = c.executor.controlEpochTick)
    (hlast : (c.next e).executor.lastStepTick = c.executor.lastStepTick) :
    Paced start (c.next e) epoch last := by
  have htime : e.time ≤ c.nextStep := by
    have := hgrid hrunning
    simpa [hcall] using this
  have hnext := nextStep_other hrunning hcall
  have hnow : (c.next e).now = e.time := rfl
  exact ⟨hepoch.trans h.epochTick, hlast.trans h.lastTick, h.began, h.later, h.aligned,
    hnow ▸ h.past.trans hclock.1, by omega, hclock.2, hnext ▸ h.nextStep⟩

theorem Paced.ahead_last (h : Paced start c epoch last) :
    ahead c.executor.lastStepTick c.executor.controlEpochTick = last - epoch := by
  have hbegan := h.began
  have hpast := h.past
  have hrecent := h.recent
  rw [h.lastTick, h.epochTick, Serial.ahead_ofTime h.later (by omega)]

theorem Paced.last_near (h : Paced start c epoch last) :
    2 * ahead c.executor.lastStepTick c.executor.controlEpochTick < 2 ^ 32 := by
  have hbegan := h.began
  have hpast := h.past
  have hrecent := h.recent
  have hahead := h.ahead_last
  omega

theorem Paced.last_onGrid (h : Paced start c epoch last) :
    5 ∣ ahead c.executor.lastStepTick c.executor.controlEpochTick :=
  h.ahead_last ▸ h.aligned

theorem Paced.ahead_step (h : Paced start c epoch last) (hclock : onClock start c e)
    (hgrid : onGrid c e) (hrunning : c.executor.diagnostics.state = .running)
    (hcall : e.call = .step) :
    ahead e.event.tick c.executor.lastStepTick ≤ 5 ∧
      ahead e.event.tick c.executor.controlEpochTick =
        ahead e.event.tick c.executor.lastStepTick +
          ahead c.executor.lastStepTick c.executor.controlEpochTick ∧
      2 * ahead e.event.tick c.executor.controlEpochTick < 2 ^ 32 := by
  have htime := step_time hgrid hrunning hcall
  have hbegan := h.began
  have hlater := h.later
  obtain ⟨-, hrecent⟩ := hclock
  have hnext : last ≤ e.time ∧ e.time ≤ last + 5 := by
    rcases h.nextStep with hstep | ⟨hstep, -⟩ <;> omega
  have hlastTick : ahead e.event.tick c.executor.lastStepTick = e.time - last := by
    rw [h.lastTick]
    exact Serial.ahead_ofTime hnext.1 (by omega)
  have hepochTick : ahead e.event.tick c.executor.controlEpochTick = e.time - epoch := by
    rw [h.epochTick]
    exact Serial.ahead_ofTime (by omega) (by omega)
  rw [hlastTick, hepochTick, h.ahead_last]
  omega

theorem Paced.ahead_step_eq (h : Paced start c epoch last) (hclock : onClock start c e)
    (hgrid : onGrid c e) (hrunning : c.executor.diagnostics.state = .running)
    (hcall : e.call = .step) (hnext : c.nextStep = last + 5) :
    ahead e.event.tick c.executor.lastStepTick = 5 := by
  have htime := step_time hgrid hrunning hcall
  have hbegan := h.began
  have hlater := h.later
  obtain ⟨-, hrecent⟩ := hclock
  rw [h.lastTick]
  exact (Serial.ahead_ofTime (by omega) (by omega)).trans (by omega)

theorem Paced.ahead_due (hpaced : Paced start c epoch last)
    (hup : After (c.executor.due sample) c.executor.lastStepTick) :
    ahead (c.executor.due sample) c.executor.controlEpochTick =
        ahead (c.executor.due sample) c.executor.lastStepTick +
          ahead c.executor.lastStepTick c.executor.controlEpochTick ∧
      5 ∣ ahead (c.executor.due sample) c.executor.lastStepTick ∧
      ahead sample.applyTick c.executor.controlEpochTick ≤
        ahead (c.executor.due sample) c.executor.controlEpochTick := by
  obtain ⟨hround, hsum⟩ := ahead_due_of_after hpaced.last_near hup
  have hdvd := (firstControlTick_onTime c.executor.controlEpochTick sample.applyTick).1
  refine ⟨hsum, ?_, ?_⟩
  · exact (Nat.dvd_add_left hpaced.last_onGrid).mp (hsum ▸ hdvd)
  · change _ ≤ ahead (firstControlTickAtOrAfter _ _) _
    omega

theorem head_due (hpaced : Paced start c epoch last)
    (hup : After (c.executor.due sample) c.executor.lastStepTick)
    (hclock : onClock start c e) (hgrid : onGrid c e)
    (hrunning : c.executor.diagnostics.state = .running) (hcall : e.call = .step)
    (hdue : ¬ After (c.executor.due sample) e.event.tick) :
    c.executor.due sample = e.event.tick := by
  obtain ⟨hstep, -, -⟩ := hpaced.ahead_step hclock hgrid hrunning hcall
  obtain ⟨-, hdvd, -⟩ := hpaced.ahead_due hup
  have hpos := (Serial.after_iff _ _).mp hup
  rw [Serial.after_iff_of_arc (c := c.executor.lastStepTick) (by omega) (by omega)] at hdue
  exact Serial.eq_of_ahead_eq (c := c.executor.lastStepTick) (by omega)

end MobileBimanual.Stream
