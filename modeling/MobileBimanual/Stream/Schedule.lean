/-
# Samples applied on their control ticks

On a true clock, with a step on every control tick, every sample is applied on the first control
tick at or after its apply tick, provided that the samples of the queue are due one after
another, all after the last step.  `OnSchedule` says that of the executor, and a run keeps it
except at two places: an admission may bring samples that are not due after the last step, and a
splice may put its first sample on the control tick of the last sample it retains, since the
spacing check of a splice looks at positions only (`Bench.sharedTickRun`).

* `head_due`, `not_backwards`, `not_collapsed`: under `OnSchedule` a step on the grid meets none
  of the aborts of the timeline;
* `punctual_next`, `onTime_next`: what an event keeps;
* `applied_on_schedule`: what a run keeps.
-/
import MobileBimanual.Stream.Books
import MobileBimanual.Stream.Clock
import MobileBimanual.Stream.Payload

namespace MobileBimanual.Stream

open Serial (After ahead ofTime)
open Machine

/-! ## 1. The schedule -/

/-- The queue is due one sample after another, all after the last step, and the anchor is due by
then. -/
structure OnSchedule (executor : StreamExecutor) : Prop where
  upcoming : ∀ s ∈ executor.queue, After (executor.due s) executor.lastStepTick
  distinct : List.IsChain (fun p s => After (executor.due s) (executor.due p)) executor.queue
  anchorDue : ahead (executor.due executor.anchor) executor.controlEpochTick ≤
    ahead executor.lastStepTick executor.controlEpochTick
  anchorTick : ahead executor.anchor.applyTick executor.controlEpochTick ≤
    ahead (executor.due executor.anchor) executor.controlEpochTick

variable {executor : StreamExecutor}

/-- The whole queue lies in order on one arc from the last step. -/
theorem OnSchedule.pairwise (h : OnSchedule executor) :
    List.Pairwise (fun p s => After (executor.due s) (executor.due p)) executor.queue := by
  have hdistinct := h.distinct
  have hupcoming := h.upcoming
  cases hqueue : executor.queue with
  | nil => exact List.Pairwise.nil
  | cons first rest =>
    rw [hqueue] at hdistinct hupcoming
    have hsteps : List.IsChain (fun x y : Tick => After y x)
        (executor.due first :: rest.map executor.due) :=
      (List.isChain_map executor.due (l := first :: rest)).mpr hdistinct
    have hshort := Serial.reach_lt_of_forall_after hsteps (b := executor.lastStepTick) (by
      intro x hx
      obtain ⟨s, hs, rfl⟩ := List.mem_map.mp
        (show x ∈ (first :: rest).map executor.due from hx)
      exact hupcoming s hs) (List.cons_ne_nil _ _)
    rw [Serial.reach_cons] at hshort
    have hpairs := Serial.pairwise_after hsteps (by omega)
    exact List.pairwise_map.mp (show List.Pairwise _ ((first :: rest).map executor.due) from hpairs)

theorem OnSchedule.head (h : OnSchedule executor) {sample : Setpoint} {rest : List Setpoint}
    (hqueue : executor.queue = sample :: rest) :
    After (executor.due sample) executor.lastStepTick :=
  h.upcoming sample (by simp [hqueue])

section Step

variable {start epoch last : Nat} {c : Clocked} {e : TimedCall} {sample : Setpoint}
  {rest : List Setpoint}

theorem not_backwards (hpaced : Paced start c epoch last) (h : OnSchedule c.executor)
    (hclock : onClock start c e) (hgrid : onGrid c e)
    (hrunning : c.executor.diagnostics.state = .running) (hcall : e.call = .step) :
    ¬ After c.executor.lastStepTick e.event.tick ∧
      ¬ After c.executor.anchor.applyTick e.event.tick := by
  obtain ⟨hstep, hsum, hnear⟩ := hpaced.ahead_step hclock hgrid hrunning hcall
  have hdue := h.anchorDue
  have htick := h.anchorTick
  refine ⟨Serial.not_after_of_ahead (by omega), Serial.not_after_of_ahead ?_⟩
  rw [Serial.ahead_sub (c := c.executor.controlEpochTick) (by omega)]
  omega

/-- The way from the anchor to a head that is still ahead has a span, and the step lies on it. -/
theorem not_collapsed (hpaced : Paced start c epoch last) (h : OnSchedule c.executor)
    (hclock : onClock start c e) (hgrid : onGrid c e)
    (hrunning : c.executor.diagnostics.state = .running) (hcall : e.call = .step)
    (hqueue : c.executor.queue = sample :: rest)
    (hstill : After (c.executor.due sample) e.event.tick) :
    c.executor.due sample ≠ c.executor.due c.executor.anchor ∧
      ahead e.event.tick (c.executor.due c.executor.anchor) ≤
        ahead (c.executor.due sample) (c.executor.due c.executor.anchor) := by
  have hup := h.head hqueue
  obtain ⟨hstep, hsum, hnear⟩ := hpaced.ahead_step hclock hgrid hrunning hcall
  obtain ⟨hdueSum, -, -⟩ := hpaced.ahead_due hup
  have hanchor := h.anchorDue
  have hpos := (Serial.after_iff _ _).mp hup
  rw [Serial.after_iff_of_arc (c := c.executor.lastStepTick) (by omega) (by omega)] at hstill
  refine ⟨?_, ?_⟩
  · intro heq
    rw [heq] at hdueSum hpos
    omega
  · rw [Serial.ahead_sub (c := c.executor.controlEpochTick) (by omega),
      Serial.ahead_sub (a := c.executor.due sample) (c := c.executor.controlEpochTick) (by omega)]
    omega

/-- A step that leaves the head ahead leaves the schedule. -/
theorem OnSchedule.interpolated (hpaced : Paced start c epoch last) (h : OnSchedule c.executor)
    (hclock : onClock start c e) (hgrid : onGrid c e)
    (hrunning : c.executor.diagnostics.state = .running) (hcall : e.call = .step)
    (hstill : ∀ s ∈ c.executor.queue.head?, After (c.executor.due s) e.event.tick)
    {outputUrad : Joints} :
    OnSchedule (recordOutput (ticked c.executor e.event.tick) outputUrad) := by
  obtain ⟨hstep, hsum, hnear⟩ := hpaced.ahead_step hclock hgrid hrunning hcall
  refine ⟨?_, h.distinct, ?_, h.anchorTick⟩
  · intro s hs
    change After (c.executor.due s) e.event.tick
    have hs : s ∈ c.executor.queue := hs
    have hpairs := h.pairwise
    have hupcoming := h.upcoming
    cases hqueue : c.executor.queue with
    | nil => simp [hqueue] at hs
    | cons first rest =>
      rw [hqueue] at hs hpairs hstill hupcoming
      have hfirst := hstill first rfl
      rcases List.mem_cons.mp hs with rfl | hlater
      · exact hfirst
      · -- on the arc from the last step: the tick, the head, the sample
        have hafter := (List.pairwise_cons.mp hpairs).1 s hlater
        have hs' := (Serial.after_iff _ _).mp (hupcoming s hs)
        have hfirst' := (Serial.after_iff _ _).mp (hupcoming first List.mem_cons_self)
        rw [Serial.after_iff_of_arc (c := c.executor.lastStepTick) (by omega) (by omega)] at hafter
        rw [Serial.after_iff_of_arc (c := c.executor.lastStepTick) (by omega) (by omega)]
          at hfirst ⊢
        omega
  · change ahead (c.executor.due c.executor.anchor) c.executor.controlEpochTick ≤
      ahead e.event.tick c.executor.controlEpochTick
    have hanchor := h.anchorDue
    omega

/-- A step that applies the head on its tick leaves the schedule. -/
theorem OnSchedule.applied (hpaced : Paced start c epoch last) (h : OnSchedule c.executor)
    (hqueue : c.executor.queue = sample :: rest) {currentTick : Tick}
    (hdue : c.executor.due sample = currentTick) {lateness : Tick} :
    OnSchedule (applyFirstSample (ticked c.executor currentTick) sample lateness) := by
  have htail : (applyFirstSample (ticked c.executor currentTick) sample lateness).queue = rest :=
    congrArg List.tail hqueue
  have hpairs := h.pairwise
  have hdistinct := h.distinct
  have hup := h.head hqueue
  rw [hqueue] at hpairs hdistinct
  refine ⟨?_, ?_, ?_, ?_⟩
  · intro s hs
    rw [htail] at hs
    change After (c.executor.due s) currentTick
    rw [← hdue]
    exact (List.pairwise_cons.mp hpairs).1 s hs
  · rw [htail]
    exact hdistinct.tail
  · change ahead (c.executor.due sample) c.executor.controlEpochTick ≤
      ahead currentTick c.executor.controlEpochTick
    rw [hdue]
  · change ahead sample.applyTick c.executor.controlEpochTick ≤
      ahead (c.executor.due sample) c.executor.controlEpochTick
    exact (hpaced.ahead_due hup).2.2

end Step

/-! ## 2. What an admission and a start must bring -/

/-- While RUNNING, every sample of an admitted batch is due after the last step, and a splice
begins on another control tick than the last sample it retains. -/
def admitsOnSchedule (executor : StreamExecutor) (event : Event) : Prop :=
  executor.diagnostics.state = .running → ∀ admitted ∈ admittedBatch executor event,
    (∀ s ∈ admitted.2.samples, After (executor.due s) executor.lastStepTick) ∧
    (admitted.1 = .splice →
      ∀ last ∈ (retainedSamples executor.session admitted.2 .splice).getLast?,
        executor.due admitted.2.firstSample ≠ executor.due last)

/-- The samples a start finds queued are due after it, on the grid it lays, no two neighbours on
one control tick. -/
def startsOnSchedule (executor : StreamExecutor) (event : Event) : Prop :=
  starts executor event = true →
    (∀ s ∈ executor.queue,
      After (firstControlTickAtOrAfter event.tick s.applyTick) event.tick) ∧
    List.IsChain (fun p s : Setpoint => firstControlTickAtOrAfter event.tick s.applyTick ≠
      firstControlTickAtOrAfter event.tick p.applyTick) executor.queue

def onSchedule (executor : StreamExecutor) (event : Event) : Prop :=
  admitsOnSchedule executor event ∧ startsOnSchedule executor event

instance (executor : StreamExecutor) (event : Event) : Decidable (onSchedule executor event) :=
  inferInstanceAs (Decidable ((_ → ∀ admitted ∈ admittedBatch executor event, _) ∧ (_ → _ ∧ _)))

/-- The samples of a batch that passed the transition check are a multiple of 5 ms apart. -/
theorem Continuous.chain_apart {policy : StreamPolicy} {samples : List Setpoint} (epoch : Tick)
    (h : List.IsChain (Continuous policy) samples) : List.IsChain (Apart epoch) samples :=
  h.imp fun _ _ hps => Or.inl hps.onGrid

/-- **An admission that brings what it must leaves the schedule.** -/
theorem OnSchedule.admitted {start epoch last : Nat} {c : Clocked} {event : Event}
    {payload : List Byte} {kind : BatchKind} {batch : Batch} (h : OnSchedule c.executor)
    (hpaced : Paced start c epoch last) (hsound : Sound c.executor)
    (hrunning : c.executor.diagnostics.state = .running)
    (hadmits : Admits c.executor payload kind event.tick batch)
    (hbatch : admittedBatch c.executor event = some (kind, batch))
    (hok : admitsOnSchedule c.executor event) :
    OnSchedule (admitted c.executor batch kind event.tick hadmits.accepts.fits) := by
  obtain ⟨hahead, hsplice⟩ := hok hrunning _ hbatch
  have hpolicy := (hsound.isOpen (Or.inr hrunning)).2
  have hinitial := retainedSamples_initial c.executor.session batch kind
  have hall : ∀ s ∈ retainedSamples c.executor.session batch kind ++ batch.samples,
      After (c.executor.due s) c.executor.lastStepTick := by
    intro s hs
    rcases List.mem_append.mp hs with hs | hs
    · exact h.upcoming s (hinitial.subset hs)
    · exact hahead s hs
  have hbatchDues := dues_inOrder hpaced.last_near hpaced.last_onGrid hahead
    hadmits.accepts.decoded.increasing
    (Continuous.chain_apart c.executor.controlEpochTick hadmits.accepts.transition.continuous)
  refine ⟨hall, ?_, h.anchorDue, h.anchorTick⟩
  change List.IsChain (fun p s => After (c.executor.due s) (c.executor.due p))
    (retainedSamples c.executor.session batch kind ++ batch.samples)
  refine List.isChain_append.mpr ⟨isChain_retainedSamples h.distinct, hbatchDues, ?_⟩
  intro tail htail first hfirst
  -- the joint between what is retained and the batch
  have hafter : After batch.firstApplyTick tail.applyTick :=
    hadmits.accepts.after_retained htail
  have heq : batch.firstSample = first := by
    rw [Batch.firstSample, List.headD_eq_head?_getD, hfirst, Option.getD_some]
  rw [← hadmits.accepts.decoded.first, heq] at hafter
  have hdueTail := hall tail (List.mem_append_left _ (List.mem_of_getLast? htail))
  have hdueFirst := hahead first (List.mem_of_head? hfirst)
  cases kind with
  | append =>
    have hcontinuous := hadmits.continuous_tail hpolicy htail
    rw [heq] at hcontinuous
    exact due_after_of_dvd hpaced.last_near hpaced.last_onGrid hdueTail hdueFirst hafter
      hcontinuous.onGrid
  | splice =>
    have hne := hsplice rfl tail htail
    rw [heq] at hne
    exact (due_after_or_eq hpaced.last_near hpaced.last_onGrid hdueTail hdueFirst
      hafter).resolve_left hne

/-- A start on such a queue begins on schedule. -/
theorem OnSchedule.started {event : Event} {position : Joints} (hsound : Sound executor)
    (hstarts : starts executor event = true) (hok : startsOnSchedule executor event) :
    OnSchedule (started executor event.tick position) := by
  obtain ⟨hahead, hdistinct⟩ := hok hstarts
  have hzero : ahead event.tick event.tick = 0 := Serial.ahead_self _
  have hdue : ahead (firstControlTickAtOrAfter event.tick event.tick) event.tick = 0 := by
    rw [ahead_firstControlTick (by omega), hzero]
  refine ⟨hahead, ?_, ?_, ?_⟩
  · have hnear : 2 * ahead event.tick event.tick < 2 ^ 32 := by omega
    have hgrid : 5 ∣ ahead event.tick event.tick := hzero ▸ Nat.dvd_zero 5
    exact dues_inOrder hnear hgrid hahead hsound.inOrder
      (hdistinct.imp fun _ _ hne => Or.inr hne)
  · change ahead (firstControlTickAtOrAfter event.tick event.tick) event.tick ≤ _
    omega
  · change ahead event.tick event.tick ≤ _
    omega

/-! ## 3. What an event keeps -/

/-- The invariant: the executor has never aborted for its timeline, and a RUNNING one is on the
grid and on schedule. -/
structure Punctual (start : Nat) (c : Clocked) : Prop where
  began : start ≤ c.now
  sound : Sound c.executor
  neverLate : c.executor.diagnostics.terminalReason ≠ .missedApplyTick ∧
    c.executor.diagnostics.terminalReason ≠ .invalidTimeline
  running : c.executor.diagnostics.state = .running →
    ∃ epoch last, Paced start c epoch last ∧ OnSchedule c.executor

section Event

variable {start : Nat} {c : Clocked} {e : TimedCall}

theorem neverLate_step (h : Punctual start c) (hclock : onClock start c e) (hgrid : onGrid c e)
    (hcall : e.call = .step) {result : StreamExecutor × ExecutorResult × Option Joints}
    (hstep : StepOutcome c.executor e.event.tick result) :
    result.1.diagnostics.terminalReason ≠ .missedApplyTick ∧
      result.1.diagnostics.terminalReason ≠ .invalidTimeline := by
  cases hstep with
  | idle => exact h.neverLate
  | backwards running late =>
    obtain ⟨epoch, last, hpaced, hschedule⟩ := h.running running
    obtain ⟨hlast, hanchor⟩ := not_backwards hpaced hschedule hclock hgrid running hcall
    rcases late with ⟨-, hbad⟩ | hbad
    · exact absurd hbad hlast
    · exact absurd hbad hanchor
  | timeout => exact ⟨nofun, nofun⟩
  | underflow => exact ⟨nofun, nofun⟩
  | holding => exact h.neverLate
  | missed running sample rest queued passed late =>
    obtain ⟨epoch, last, hpaced, hschedule⟩ := h.running running
    have hdue := head_due hpaced (hschedule.head queued) hclock hgrid running hcall passed
    rw [hdue, Serial.ahead_self] at late
    exact absurd late (Nat.not_lt_zero _)
  | applied => exact h.neverLate
  | succeeded => exact ⟨nofun, nofun⟩
  | degenerate running sample rest queued still collapsed =>
    obtain ⟨epoch, last, hpaced, hschedule⟩ := h.running running
    obtain ⟨hspan, hwithin⟩ :=
      not_collapsed hpaced hschedule hclock hgrid running hcall queued still
    rcases collapsed with hbad | hbad
    · exact absurd hbad hspan
    · exact absurd hwithin (Nat.not_le_of_gt hbad)
  | interpolated => exact h.neverLate

theorem neverLate_next (h : Punctual start c) (hclock : onClock start c e) (hgrid : onGrid c e) :
    (c.next e).executor.diagnostics.terminalReason ≠ .missedApplyTick ∧
      (c.next e).executor.diagnostics.terminalReason ≠ .invalidTimeline := by
  change (next c.executor e.event).diagnostics.terminalReason ≠ _ ∧
    (next c.executor e.event).diagnostics.terminalReason ≠ _
  have houtcome := next_outcome c.executor e.event
  generalize next c.executor e.event = executor at houtcome
  cases houtcome with
  | refused _ same =>
    have hreason : executor.diagnostics.terminalReason =
        c.executor.diagnostics.terminalReason := congrArg (·.diagnostics.terminalReason) same
    rw [hreason]
    exact h.neverLate
  | opened => exact ⟨nofun, nofun⟩
  | admitted => exact h.neverLate
  | started => exact h.neverLate
  | stepped _ result call step => exact neverLate_step h hclock hgrid call step
  | checked _ result call check =>
    generalize hresult : (executor, result) = r at check
    cases check with
    | idle => cases hresult; exact h.neverLate
    | tracked => cases hresult; exact h.neverLate
    | aborted => cases hresult; exact ⟨nofun, nofun⟩
  | noted => exact h.neverLate

theorem running_next (h : Punctual start c) (hclock : onClock start c e) (hgrid : onGrid c e)
    (hok : onSchedule c.executor e.event)
    (hrunning : (c.next e).executor.diagnostics.state = .running) :
    ∃ epoch last, Paced start (c.next e) epoch last ∧ OnSchedule (c.next e).executor := by
  obtain ⟨hadmitsOk, hstartsOk⟩ := hok
  have hstays := (next_outcome c.executor e.event).staysRunning h.sound hrunning
  generalize hnext : next c.executor e.event = executor at hstays
  have hexecutor : (c.next e).executor = executor := hnext
  rw [hexecutor]
  cases hstays with
  | started position call starts silent =>
    exact ⟨_, _, Paced.started h.began hclock starts.priming hnext,
      OnSchedule.started h.sound (starts_of_call call starts) hstartsOk⟩
  | admitted payload kind batch call running admits admitted_ silent =>
    obtain ⟨epoch, last, hpaced, hschedule⟩ := h.running running
    refine ⟨epoch, last, hpaced.kept hclock hgrid running ?_ ?_ ?_,
      hschedule.admitted hpaced h.sound running admits admitted_ hadmitsOk⟩
    · rw [show e.call = .admitBatch payload kind from call]
      rfl
    · rw [hexecutor]
      rfl
    · rw [hexecutor]
      rfl
  | held call running drained reports =>
    obtain ⟨epoch, last, hpaced, hschedule⟩ := h.running running
    refine ⟨epoch, e.time, hpaced.stepped hclock hgrid running call ?_ ?_,
      hschedule.interpolated hpaced hclock hgrid running call (by simp [drained])⟩
    · rw [hexecutor]
      rfl
    · rw [hexecutor]
      rfl
  | applied sample rest call running queued due reports =>
    obtain ⟨epoch, last, hpaced, hschedule⟩ := h.running running
    refine ⟨epoch, e.time, hpaced.stepped hclock hgrid running call ?_ ?_,
      hschedule.applied hpaced queued
        (head_due hpaced (hschedule.head queued) hclock hgrid running call due)⟩
    · rw [hexecutor]
      rfl
    · rw [hexecutor]
      rfl
  | interpolated sample rest call running queued still span within reports =>
    obtain ⟨epoch, last, hpaced, hschedule⟩ := h.running running
    refine ⟨epoch, e.time, hpaced.stepped hclock hgrid running call ?_ ?_,
      hschedule.interpolated hpaced hclock hgrid running call (by simpa [queued] using still)⟩
    · rw [hexecutor]
      rfl
    · rw [hexecutor]
      rfl
  | quiet _ call running session anchor epochSame lastSame silent =>
    obtain ⟨epoch, last, hpaced, hschedule⟩ := h.running running
    refine ⟨epoch, last, hpaced.kept hclock hgrid running call (by rw [hexecutor, epochSame])
      (by rw [hexecutor, lastSame]), ?_⟩
    have hqueue : executor.queue = c.executor.queue := congrArg (·.validatedSamples.samples) session
    have hdue : executor.due = c.executor.due := by
      funext s
      rw [StreamExecutor.due, epochSame]
    refine ⟨?_, ?_, ?_, ?_⟩
    · rw [hqueue, hdue, lastSame]
      exact hschedule.upcoming
    · rw [hqueue, hdue]
      exact hschedule.distinct
    · rw [hdue, anchor, epochSame, lastSame]
      exact hschedule.anchorDue
    · rw [hdue, anchor, epochSame]
      exact hschedule.anchorTick

/-- **Every event of a run on the grid keeps the schedule.** -/
theorem punctual_next (h : Punctual start c) (hclock : onClock start c e) (hgrid : onGrid c e)
    (hok : onSchedule c.executor e.event) : Punctual start (c.next e) where
  began := h.began.trans hclock.1
  sound := sound_next e.event h.sound
  neverLate := neverLate_next h hclock hgrid
  running := running_next h hclock hgrid hok

/-- The step is the first control tick at or after the sample's apply tick: it is on the grid,
less than a control period after. -/
def OnTime (a : Custody.Entry Ticket × Application) : Prop :=
  5 ∣ ahead a.2.tick a.2.controlEpochTick ∧ ahead a.2.tick a.1.item.sample.applyTick < 5

instance (a : Custody.Entry Ticket × Application) : Decidable (OnTime a) :=
  inferInstanceAs (Decidable (_ ∧ _))

theorem onTime_next {books : Books} (h : Punctual start c) (hkept : Kept books)
    (hsame : books.executor = c.executor) (hclock : onClock start c e) (hgrid : onGrid c e)
    (hbefore : ∀ a ∈ books.ledger.applied, OnTime a) :
    ∀ a ∈ (books.next e.event).ledger.applied, OnTime a := by
  rcases applied_next hkept e.event with
    heq | ⟨entry, rest, hcall, hrunning, hqueue, hdue, heq⟩
  · rw [heq]
    exact hbefore
  · rw [heq, hsame]
    rw [hsame] at hrunning hqueue hdue
    obtain ⟨epoch, last, hpaced, hschedule⟩ := h.running hrunning
    have htick := head_due hpaced (hschedule.head hqueue) hclock hgrid hrunning hcall hdue
    intro a ha
    rcases List.mem_append.mp ha with ha | ha
    · exact hbefore a ha
    · obtain rfl := List.mem_singleton.mp ha
      have honTime := firstControlTick_onTime c.executor.controlEpochTick
        entry.item.sample.applyTick
      change c.executor.due entry.item.sample = _ at htick
      rw [StreamExecutor.due] at htick
      rwa [htick] at honTime

end Event

/-! ## 4. What a run keeps -/

/-- Where an admitted sample is: applied on time, removed by a splice, discarded with its ended
stream, or queued and, if the executor is RUNNING, due after its last step. -/
def Placed (books : Books) (entry : Custody.Entry Ticket) : Prop :=
  (∃ a ∈ books.ledger.applied, a.1 = entry ∧ OnTime a) ∨
    (∃ removal ∈ books.ledger.removed, removal.1 = entry) ∨
    (entry ∈ books.ledger.discarded ∧ (entry.item.stream < books.stream ∨
      books.executor.live = false ∧ entry.item.stream = books.stream)) ∨
    (entry ∈ books.ledger.queued ∧ (books.executor.diagnostics.state = .running →
      After (books.executor.due entry.item.sample) books.executor.lastStepTick))

/-- The clock and the books of one run, side by side. -/
abbrev Logged := Clocked × Books

def Logged.next : Logged → TimedCall → Logged :=
  sideBySide Clocked.next fun books e => books.next e.event

structure LoggedPunctual (start : Nat) (log : Logged) : Prop where
  punctual : Punctual start log.1
  kept : Kept log.2
  same : log.2.executor = log.1.executor
  onTime : ∀ a ∈ log.2.ledger.applied, OnTime a

theorem logged_next {start : Nat} {log : Logged} {e : TimedCall} (h : LoggedPunctual start log)
    (hok : onClock start log.1 e ∧ onGrid log.1 e ∧ onSchedule log.1.executor e.event) :
    LoggedPunctual start (log.next e) where
  punctual := punctual_next h.punctual hok.1 hok.2.1 hok.2.2
  kept := kept_next e.event h.kept
  same := by
    change (log.2.next e.event).executor = next log.1.executor e.event
    rw [Books.executor_next, h.same]
  onTime := onTime_next h.punctual h.kept h.same hok.1 hok.2.1 h.onTime

/-- What is not applied, removed or discarded is still to come. -/
theorem LoggedPunctual.placed {start : Nat} {log : Logged} (h : LoggedPunctual start log)
    {entry : Custody.Entry Ticket} (hentry : entry ∈ log.2.ledger.admitted) :
    Placed log.2 entry := by
  have hplace := h.kept.balanced.places.mem_iff.mpr hentry
  simp only [Custody.Ledger.places, List.mem_append, List.mem_map] at hplace
  rcases hplace with ⟨a, ha, heq⟩ | ⟨removal, hremoval, heq⟩ | hdiscarded | hqueued
  · exact Or.inl ⟨a, ha, heq, h.onTime a ha⟩
  · exact Or.inr (Or.inl ⟨removal, hremoval, heq⟩)
  · exact Or.inr (Or.inr (Or.inl ⟨hdiscarded, h.kept.ended entry hdiscarded⟩))
  · refine Or.inr (Or.inr (Or.inr ⟨hqueued, fun hrunning => ?_⟩))
    have hmirror := h.kept.queued ((live_iff _).mpr (Or.inr hrunning))
    have hmem : entry.item.sample ∈ log.2.executor.queue := hmirror ▸ List.mem_map_of_mem hqueued
    rw [h.same] at hrunning hmem ⊢
    obtain ⟨epoch, last, -, hschedule⟩ := h.punctual.running hrunning
    exact hschedule.upcoming _ hmem

/-- **On-time stepping executes on time.**  In a run on a true clock, with a step on every
control tick, whose admissions and starts bring samples due one after another, no step aborts for
its timeline, and every admitted sample that no splice removes and whose stream has not ended is
applied on the first control tick at or after its apply tick, or is still to be. -/
theorem applied_on_schedule {hardCaps : StreamHardCaps} {jointLimits : JointLimits}
    {initial : StreamExecutor} (hinit : streamExecutorInit hardCaps jointLimits = .ok initial)
    (start : Nat) (events : List TimedCall)
    (hclock : Along Clocked.next (onClock start) (Clocked.begin initial start) events)
    (hgrid : Along Clocked.next onGrid (Clocked.begin initial start) events)
    (hschedule : Along Clocked.next (fun c e => onSchedule c.executor e.event)
      (Clocked.begin initial start) events) :
    ((after initial (events.map TimedCall.event)).diagnostics.terminalReason ≠ .missedApplyTick ∧
      (after initial (events.map TimedCall.event)).diagnostics.terminalReason ≠
        .invalidTimeline) ∧
    (run Books.next (Books.begin initial) (events.map TimedCall.event)).executor =
      after initial (events.map TimedCall.event) ∧
    ∀ entry ∈ (run Books.next (Books.begin initial)
        (events.map TimedCall.event)).ledger.admitted,
      Placed (run Books.next (Books.begin initial) (events.map TimedCall.event))
        entry := by
  obtain ⟨hstate, hreason, -⟩ := streamExecutorInit_ok hinit
  have hbegin : LoggedPunctual start (Clocked.begin initial start, Books.begin initial) := by
    refine ⟨⟨Nat.le_refl _, sound_init hinit, ?_, ?_⟩, kept_begin hinit, rfl,
      fun _ ha => absurd ha List.not_mem_nil⟩
    · simp [Clocked.begin, hreason]
    · intro hrunning
      simp [Clocked.begin, hstate] at hrunning
  have halong := along_and.mpr ⟨hclock, along_and.mpr ⟨hgrid, hschedule⟩⟩
  have hinv : LoggedPunctual start
      (run Logged.next (Clocked.begin initial start, Books.begin initial) events) :=
    run_invariant (fun _ _ => logged_next) events hbegin
      ((along_sideBySide _ _ events).mpr halong)
  have hrun : run Logged.next (Clocked.begin initial start, Books.begin initial) events =
      (run Clocked.next (Clocked.begin initial start) events,
        run Books.next (Books.begin initial) (events.map TimedCall.event)) := by
    rw [run_map TimedCall.event (Books.begin initial) events]
    exact run_sideBySide _ _ _ _ events
  rw [hrun] at hinv
  have hexecutor := Clocked.executor_run (Clocked.begin initial start) events
  refine ⟨?_, Books.executor_run (Books.begin initial) _, fun _ hentry => hinv.placed hentry⟩
  have hneverLate := hinv.punctual.neverLate
  rw [hexecutor] at hneverLate
  exact hneverLate

/-- A stream on the bench whose second sample is spliced away for one a control tick on. -/
def Bench.scheduledRun : List TimedCall :=
  [⟨100, .openStream (openPayload 1 0 100)⟩,
    ⟨100, .admitBatch (batchPayload 0 0 [(120, 0), (140, 0)]) .append⟩, ⟨100, .start fun _ => 0⟩,
    ⟨100, .step⟩, ⟨101, .admitBatch (batchPayload 0 126 [(126, 0)]) .splice⟩, ⟨105, .step⟩,
    ⟨110, .step⟩, ⟨115, .step⟩, ⟨120, .step⟩, ⟨125, .step⟩, ⟨130, .step⟩]

/-- Every entry is in its place. -/
def AllPlaced (b : Books) : Prop := ∀ entry ∈ b.ledger.admitted, Placed b entry

theorem applied_on_schedule_bench :
    AllPlaced (run Books.next (Books.begin Bench.executor)
      (Bench.scheduledRun.map TimedCall.event)) :=
  (applied_on_schedule Bench.executor_init 100 Bench.scheduledRun (by decide +kernel)
    (by decide +kernel) (by decide +kernel)).2.2

/-- A splice 2 ms behind the last sample it retains, on that sample's control tick. -/
def Bench.sharedTickRun : List TimedCall :=
  [⟨100, .openStream (openPayload 1 0 100)⟩,
    ⟨100, .admitBatch (batchPayload 0 0 [(121, 0), (141, 0)]) .append⟩, ⟨100, .start fun _ => 0⟩,
    ⟨100, .admitBatch (batchPayload 0 123 [(123, 0)]) .splice⟩,
    ⟨100, .step⟩, ⟨105, .step⟩, ⟨110, .step⟩, ⟨115, .step⟩, ⟨120, .step⟩, ⟨125, .step⟩,
    ⟨130, .step⟩]

/-- **The sample of tick 123 is applied at 130**, a control tick late, though every step is on
time. -/
theorem shared_tick_applied_late :
    Along Clocked.next (onClock 100) (Clocked.begin Bench.executor 100)
        Bench.sharedTickRun ∧
      Along Clocked.next onGrid (Clocked.begin Bench.executor 100) Bench.sharedTickRun ∧
      ∃ a ∈ (run Books.next (Books.begin Bench.executor)
          (Bench.sharedTickRun.map TimedCall.event)).ledger.applied,
        a.1.item.sample.applyTick = 123 ∧ a.2.tick = 130 ∧ ¬ OnTime a := by
  refine ⟨by decide +kernel, by decide +kernel, by decide +kernel⟩

end MobileBimanual.Stream
