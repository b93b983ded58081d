/-
# The rate of the outputs across a splice

A SPLICE is checked against the position that the queue has at the splice tick: its first sample
may be a step away from it.  What is executed is the segment from the sample that is retained, or
from the anchor, to that first sample, and the segment that is replaced may have used up the rate
already.  `Spaced` is what the two ends of the new segment must satisfy, and a splice that retains
nothing must also find the last output near (`splicesInRate`).

A run along `inSplicedRate` keeps the rate whatever it splices (`spliced_within_rate`); a splice on
the bench that is accepted moves a joint by 11250 in a control tick under a policy of 9000
(`splice_jumps`).
-/
import MobileBimanual.Stream.Rate

namespace MobileBimanual.Stream

open Serial (After ahead ofTime)

/-! ## 1. What a splice must bring -/

/-- Two samples that are due one after the other on the grid, far enough apart for the step. -/
structure Spaced (policy : StreamPolicy) (epoch : Tick) (p s : Setpoint) : Prop where
  later : After (firstControlTickAtOrAfter epoch s.applyTick)
    (firstControlTickAtOrAfter epoch p.applyTick)
  rate : ∀ joint, absoluteDifference (s.positionUrad joint) (p.positionUrad joint) * 5 ≤
    policy.maximumStep joint * ahead (firstControlTickAtOrAfter epoch s.applyTick)
      (firstControlTickAtOrAfter epoch p.applyTick)

instance (policy : StreamPolicy) (epoch : Tick) (p s : Setpoint) :
    Decidable (Spaced policy epoch p s) :=
  decidable_of_iff
    (After (firstControlTickAtOrAfter epoch s.applyTick)
        (firstControlTickAtOrAfter epoch p.applyTick) ∧
      ∀ joint, absoluteDifference (s.positionUrad joint) (p.positionUrad joint) * 5 ≤
        policy.maximumStep joint * ahead (firstControlTickAtOrAfter epoch s.applyTick)
          (firstControlTickAtOrAfter epoch p.applyTick))
    ⟨fun h => ⟨h.1, h.2⟩, fun h => ⟨h.later, h.rate⟩⟩

/-- Neighbours of a queue: as the samples of a batch are, or spaced on the grid. -/
def Neighbours (policy : StreamPolicy) (epoch : Tick) (p s : Setpoint) : Prop :=
  stepIsContinuous policy p s = true ∨ Spaced policy epoch p s

instance (policy : StreamPolicy) (epoch : Tick) (p s : Setpoint) :
    Decidable (Neighbours policy epoch p s) :=
  inferInstanceAs (Decidable (_ ∨ _))

/-- What was spliced before the start is in rate on the grid of the start. -/
def startsSpaced (executor : StreamExecutor) (event : Event) : Prop :=
  starts executor event = true →
    List.IsChain (Neighbours executor.session.policy event.tick) executor.queue

/-- The segment to the sample: from the last sample that is retained, or from the anchor, and then
the last output is near the next point on the way. -/
def ReachedInRate (executor : StreamExecutor) (first : Setpoint) : Option Setpoint → Prop
  | some retained =>
    Spaced executor.session.policy executor.controlEpochTick retained first
  | none => After (executor.due first) executor.lastStepTick ∧ ∀ joint,
      executor.distance first joint * 5 ≤
        executor.session.policy.maximumStep joint * executor.span first ∧
      (executor.outputValid = true →
        (executor.onTheWay first joint
            (ahead executor.lastStepTick (executor.due executor.anchor) + 5) -
          (executor.lastOutputUrad joint).toInt).natAbs ≤
            executor.session.policy.maximumStep joint)

instance (executor : StreamExecutor) (first : Setpoint) :
    ∀ retained, Decidable (ReachedInRate executor first retained)
  | some retained =>
    inferInstanceAs (Decidable (Spaced executor.session.policy executor.controlEpochTick retained
      first))
  | none => inferInstanceAs (Decidable (_ ∧ ∀ _, _ ∧ (_ → _)))

/-- The first sample of a splice is reached in rate. -/
def splicesInRate (executor : StreamExecutor) (event : Event) : Prop :=
  executor.diagnostics.state = .running → ∀ admitted ∈ admittedBatch executor event,
    admitted.1 = .splice → ReachedInRate executor admitted.2.firstSample
      (retainedSamples executor.session admitted.2 .splice).getLast?

/-- A command timeout finds the last output within a step of the anchor. -/
def timeoutsInRate (executor : StreamExecutor) (event : Event) : Prop :=
  event.call.isStep = true → executor.diagnostics.state = .running →
    executor.session.horizonEndTick = 0 →
    executor.session.policy.commandTimeoutMs.toNat <
      ahead event.tick executor.diagnostics.lastCommandTick →
    executor.outputValid = true → ∀ joint,
      absoluteDifference (executor.anchor.positionUrad joint) (executor.lastOutputUrad joint) ≤
        executor.session.policy.maximumStep joint

def inSplicedRate (executor : StreamExecutor) (event : Event) : Prop :=
  (startsInRate executor event ∧ startsSpaced executor event) ∧ reappendsInRate executor event ∧
    splicesInRate executor event ∧ timeoutsInRate executor event

instance (executor : StreamExecutor) (event : Event) : Decidable (startsInRate executor event) :=
  inferInstanceAs (Decidable (_ → _))

instance (executor : StreamExecutor) (event : Event) : Decidable (startsSpaced executor event) :=
  inferInstanceAs (Decidable (_ → List.IsChain _ _))

instance (executor : StreamExecutor) (event : Event) : Decidable (reappendsInRate executor event) :=
  inferInstanceAs (Decidable (_ → _ → ∀ admitted ∈ admittedBatch executor event, _))

instance (executor : StreamExecutor) (event : Event) : Decidable (splicesInRate executor event) :=
  inferInstanceAs (Decidable (_ → ∀ admitted ∈ admittedBatch executor event,
    _ → ReachedInRate _ _ _))

instance (executor : StreamExecutor) (event : Event) : Decidable (timeoutsInRate executor event) :=
  inferInstanceAs (Decidable (_ → _ → _ → _ → _ → ∀ _, _))

instance (executor : StreamExecutor) (event : Event) : Decidable (inSplicedRate executor event) :=
  inferInstanceAs (Decidable ((_ ∧ _) ∧ _ ∧ _ ∧ _))

/-! ## 2. What an event keeps -/

/-- A RUNNING executor on the way, with the queue in rate behind its first sample. -/
structure SplicedRunning (start epoch last : Nat) (t : Traced) : Prop where
  onWay : OnWay start epoch last t.clock
  neighbours : List.IsChain (Neighbours t.clock.executor.session.policy
    t.clock.executor.controlEpochTick) t.clock.executor.queue
  latest : ∀ sent ∈ t.outputs.getLast?, t.clock.nextStep = last + 5 ∧ sent.time = last ∧
    (t.clock.executor.outputValid = true ∧ t.clock.executor.lastOutputUrad = sent.outputUrad) ∧
      Nears t.clock.executor sent.outputUrad

structure Spliced (start : Nat) (t : Traced) : Prop where
  began : start ≤ t.clock.now
  sound : Sound t.clock.executor
  chain : List.IsChain (WithinRate t.clock.executor.session.policy) t.outputs
  fresh : t.clock.executor.diagnostics.state = .priming → t.outputs = []
  running : t.clock.executor.diagnostics.state = .running →
    ∃ epoch last, SplicedRunning start epoch last t

theorem Outcome.lastOutput {executor executor' : StreamExecutor} {event : Event}
    (h : Outcome executor event executor') (hcall : event.call.isStep = false)
    (hopens : opens executor event = false) : executor'.outputValid = executor.outputValid ∧
      executor'.lastOutputUrad = executor.lastOutputUrad := by
  cases h with
  | refused _ same call noBatch notOpen silent =>
    exact ⟨congrArg (·.outputValid) same, congrArg (·.lastOutputUrad) same⟩
  | opened payload policy call notRunning accepted opens silent => cases hopens.symm.trans opens
  | admitted payload kind batch call admits admitted_ notOpen silent => exact ⟨rfl, rfl⟩
  | started position call starts notOpen silent => exact ⟨rfl, rfl⟩
  | stepped _ result call step notOpen =>
    rw [call] at hcall
    cases hcall
  | checked _ result call check notOpen silent =>
    generalize hresult : (executor', result) = out at check
    cases check with
    | idle => cases hresult; exact ⟨rfl, rfl⟩
    | tracked errors => cases hresult; exact ⟨rfl, rfl⟩
    | aborted errors joint live => cases hresult; exact ⟨rfl, rfl⟩
  | noted joint call notOpen silent => exact ⟨rfl, rfl⟩

theorem isChain_neighbours {policy : StreamPolicy} {epoch : Tick} {samples : List Setpoint}
    (h : List.IsChain (Continuous policy) samples) :
    List.IsChain (Neighbours policy epoch) samples :=
  h.imp fun _ _ hps => Or.inl ((stepIsContinuous_iff policy _ _).mpr hps)

section Step

variable {start epoch last : Nat} {c : Clocked} {t : Traced} {e : TimedCall} {sample : Setpoint}
  {rest : List Setpoint} {outputUrad : Joints}

/-- The sample behind the one that is applied is approached in rate. -/
theorem approach_neighbour (h : OnWay start epoch last c) (hclock : onClock start c e)
    (hgrid : onGrid c e) (hsound : Sound c.executor)
    (hneighbours : List.IsChain (Neighbours c.executor.session.policy c.executor.controlEpochTick)
      c.executor.queue)
    (hrunning : c.executor.diagnostics.state = .running) (hcall : e.call = .step)
    (hqueue : c.executor.queue = sample :: rest)
    (hdue : ¬ After (c.executor.due sample) e.event.tick)
    (hnext : (c.next e).executor = applyFirstSample (ticked c.executor e.event.tick)
      sample (e.event.tick - c.executor.due sample)) :
    ∀ s ∈ rest.head?, Approach (c.next e).executor s := by
  intro s hs
  have hhead : sample ∈ c.executor.queue.head? := by simp [hqueue]
  have hup := (h.approach sample hhead).upcoming
  have htick := head_due h.paced hup hclock hgrid hrunning hcall hdue
  have hpolicy := (hsound.isOpen (Or.inr hrunning)).2
  have horder := hsound.inOrder
  rw [hqueue] at horder hneighbours
  rw [hnext]
  rcases (List.isChain_cons.mp hneighbours).1 s hs with hcontinuous | hspaced
  · exact approach_following h.paced hclock hgrid hrunning hcall hpolicy hup htick
      ((List.isChain_cons.mp horder).1 s hs)
      ((stepIsContinuous_iff c.executor.session.policy sample s).mp hcontinuous)
  · refine ⟨?_, hspaced.rate⟩
    change After (c.executor.due s) e.event.tick
    rw [← htick]
    exact hspaced.later

section Splice

variable {payload : List Byte} {batch : Batch}
  (hadmits : Admits c.executor payload .splice e.event.tick batch)
  (hnext : (c.next e).executor =
    admitted c.executor batch .splice e.event.tick hadmits.accepts.fits)
include hnext

/-- A splice keeps the head, or the first sample of the batch is the new one. -/
theorem head?_spliced : (c.next e).executor.queue.head? = c.executor.queue.head? ∧
      (retainedSamples c.executor.session batch .splice).getLast? ≠ none ∨
    (c.next e).executor.queue.head? = batch.samples.head? ∧
      (retainedSamples c.executor.session batch .splice).getLast? = none := by
  have hqueue : (c.next e).executor.queue =
      retainedSamples c.executor.session batch .splice ++ batch.samples := by
    rw [hnext]
    rfl
  obtain ⟨replaced, hreplaced⟩ := retainedSamples_initial c.executor.session batch .splice
  rw [hqueue]
  cases hretained : retainedSamples c.executor.session batch .splice with
  | nil => exact Or.inr ⟨rfl, rfl⟩
  | cons r rs =>
    rw [hretained] at hreplaced
    refine Or.inl ⟨?_, by simp⟩
    change _ = c.executor.session.validatedSamples.samples.head?
    rw [← hreplaced]
    rfl

theorem OnWay.spliced (h : OnWay start epoch last c) (hclock : onClock start c e)
    (hgrid : onGrid c e) (hrunning : c.executor.diagnostics.state = .running)
    (hcall : e.call = .admitBatch payload .splice)
    (hreached : ReachedInRate c.executor batch.firstSample
      (retainedSamples c.executor.session batch .splice).getLast?) :
    OnWay start epoch last (c.next e) := by
  have hisStep : e.call.isStep = false := by
    rw [hcall]
    rfl
  refine ⟨h.paced.kept hclock hgrid hrunning hisStep ?_ ?_, ?_, ?_⟩
  · exact congrArg (·.controlEpochTick) hnext
  · exact congrArg (·.lastStepTick) hnext
  · rw [hnext]
    exact h.anchorDue
  · intro s hs
    rcases head?_spliced hadmits hnext with ⟨hhead, -⟩ | ⟨hhead, hnone⟩
    · rw [hhead] at hs
      rw [hnext]
      exact ⟨(h.approach s hs).upcoming, (h.approach s hs).rate⟩
    · rw [hhead] at hs
      rw [hnone] at hreached
      rw [hnext, Batch.eq_firstSample hs]
      exact ⟨hreached.1, fun joint => (hreached.2 joint).1⟩

theorem Nears.spliced (hnears : Nears c.executor outputUrad)
    (hlast : c.executor.outputValid = true ∧ c.executor.lastOutputUrad = outputUrad)
    (hreached : ReachedInRate c.executor batch.firstSample
      (retainedSamples c.executor.session batch .splice).getLast?) :
    Nears (c.next e).executor outputUrad := by
  have hqueue : (c.next e).executor.queue =
      retainedSamples c.executor.session batch .splice ++ batch.samples := by
    rw [hnext]
    rfl
  have hwayEq : (c.next e).executor.onTheWay = c.executor.onTheWay := by
    rw [hnext]
    rfl
  refine ⟨?_, ?_⟩
  · intro hnil
    rw [hqueue] at hnil
    exact absurd (List.append_eq_nil_iff.mp hnil).2 hadmits.accepts.decoded.nonempty
  · intro s hs joint
    rcases head?_spliced hadmits hnext with ⟨hhead, -⟩ | ⟨hhead, hnone⟩
    · rw [hhead] at hs
      rw [hwayEq, hnext]
      exact hnears.near s hs joint
    · rw [hhead] at hs
      rw [hnone] at hreached
      rw [Batch.eq_firstSample hs, hwayEq, hnext, ← hlast.2]
      exact (hreached.2 joint).2 hlast.1

theorem neighbours_spliced
    (hneighbours : List.IsChain (Neighbours c.executor.session.policy c.executor.controlEpochTick)
      c.executor.queue)
    (hreached : ReachedInRate c.executor batch.firstSample
      (retainedSamples c.executor.session batch .splice).getLast?) :
    List.IsChain (Neighbours (c.next e).executor.session.policy
      (c.next e).executor.controlEpochTick) (c.next e).executor.queue := by
  rw [hnext]
  change List.IsChain (Neighbours c.executor.session.policy c.executor.controlEpochTick)
    (retainedSamples c.executor.session batch .splice ++ batch.samples)
  refine List.isChain_append.mpr ⟨isChain_retainedSamples hneighbours,
    isChain_neighbours hadmits.accepts.transition.continuous, ?_⟩
  intro retained hretained first hfirst
  rw [hretained] at hreached
  rw [Batch.eq_firstSample hfirst]
  exact Or.inr hreached

end Splice

theorem SplicedRunning.reported (hway : OnWay start epoch e.time (t.clock.next e))
    (hgrid : onGrid t.clock e) (hrunning : t.clock.executor.diagnostics.state = .running)
    (hcall : e.call = .step)
    (hneighbours : List.IsChain (Neighbours (t.next e).clock.executor.session.policy
      (t.next e).clock.executor.controlEpochTick) (t.next e).clock.executor.queue)
    (hreports : output t.clock.executor e.event = some outputUrad)
    (hlast : (t.next e).clock.executor.outputValid = true ∧
      (t.next e).clock.executor.lastOutputUrad = outputUrad)
    (hnears : Nears (t.next e).clock.executor outputUrad) :
    SplicedRunning start epoch e.time (t.next e) := by
  refine ⟨hway, hneighbours, ?_⟩
  intro sent hsent
  rw [Traced.outputs_reports (opens_of_running hrunning) hreports, List.getLast?_append] at hsent
  cases hsent
  exact ⟨nextStep_step hgrid hrunning hcall, rfl, hlast, hnears⟩

/-- A call that reports nothing leaves the last output near. -/
theorem SplicedRunning.silent (h : SplicedRunning start epoch last t)
    (hway : OnWay start epoch last (t.clock.next e))
    (hrunning : t.clock.executor.diagnostics.state = .running) (hcall : e.call.isStep = false)
    (hneighbours : List.IsChain (Neighbours (t.next e).clock.executor.session.policy
      (t.next e).clock.executor.controlEpochTick) (t.next e).clock.executor.queue)
    (hsilent : output t.clock.executor e.event = none)
    (hnears : ∀ outputUrad,
      t.clock.executor.outputValid = true ∧ t.clock.executor.lastOutputUrad = outputUrad →
      Nears t.clock.executor outputUrad → Nears (t.next e).clock.executor outputUrad) :
    SplicedRunning start epoch last (t.next e) := by
  have hopens := @opens_of_running _ e.event hrunning
  obtain ⟨hvalid, hsame⟩ := (next_outcome t.clock.executor e.event).lastOutput hcall hopens
  refine ⟨hway, hneighbours, ?_⟩
  intro sent hsent
  rw [Traced.outputs_silent hopens hsilent] at hsent
  obtain ⟨hstep, htime, hlast, hnear⟩ := h.latest sent hsent
  exact ⟨(nextStep_other (e := e) hrunning hcall).trans hstep, htime,
    ⟨hvalid.trans hlast.1, hsame.trans hlast.2⟩, hnears sent.outputUrad hlast hnear⟩

theorem splicedRunning_next (h : Spliced start t) (hclock : onClock start t.clock e)
    (hgrid : onGrid t.clock e) (hok : inSplicedRate t.clock.executor e.event)
    (hrunning : (t.next e).clock.executor.diagnostics.state = .running) :
    ∃ epoch last, SplicedRunning start epoch last (t.next e) := by
  obtain ⟨⟨hstartsOk, hspacedOk⟩, hreappendsOk, hsplicesOk, -⟩ := hok
  have hstays := (next_outcome t.clock.executor e.event).staysRunning h.sound hrunning
  generalize hnext : next t.clock.executor e.event = executor at hstays
  have hexecutor : (t.next e).clock.executor = executor := hnext
  cases hstays with
  | started position call starts silent =>
    have hway := OnWay.started h.began h.sound hclock call starts hstartsOk hnext
    refine ⟨_, _, hway, ?_, ?_⟩
    · rw [hexecutor]
      exact hspacedOk (starts_of_call call starts)
    · intro sent hsent
      have hopens : opens t.clock.executor e.event = false := by
        simp [opens, show e.event.call = .start position from call]
      rw [Traced.outputs_silent hopens silent, h.fresh starts.priming] at hsent
      cases hsent
  | admitted payload kind batch call running admits admitted_ silent =>
    obtain ⟨epoch, last, hspliced⟩ := h.running running
    have hisStep : e.call.isStep = false := by
      rw [show e.call = .admitBatch payload kind from call]
      rfl
    cases kind with
    | append =>
      refine ⟨epoch, last, hspliced.silent (hspliced.onWay.appended hclock hgrid running call admits
        admitted_ hreappendsOk hnext) running hisStep ?_ silent fun _ _ hnears =>
          hnears.appended hspliced.onWay running admits admitted_ hreappendsOk hnext⟩
      rw [hexecutor]
      refine List.isChain_append.mpr ⟨hspliced.neighbours,
        isChain_neighbours admits.accepts.transition.continuous, ?_⟩
      intro tail htail first hfirst
      rw [Batch.eq_firstSample hfirst]
      exact Or.inl ((stepIsContinuous_iff _ _ _).mpr
        (admits.continuous_tail (h.sound.isOpen admits.live).2 htail))
    | splice =>
      have hreached := hsplicesOk running _ admitted_ rfl
      exact ⟨epoch, last, hspliced.silent
        (hspliced.onWay.spliced admits hnext hclock hgrid running call hreached) running hisStep
        (neighbours_spliced admits hnext hspliced.neighbours hreached) silent
        fun _ hlast hnears => hnears.spliced admits hnext hlast hreached⟩
  | held call running drained reports =>
    obtain ⟨epoch, last, hspliced⟩ := h.running running
    have hqueue : (t.next e).clock.executor.queue = [] := by
      rw [hexecutor]
      exact drained
    have hway := hspliced.onWay.held hclock hgrid running call drained hnext
    refine ⟨epoch, _, SplicedRunning.reported hway hgrid running call ?_ reports ?_ ⟨?_, ?_⟩⟩
    · rw [hqueue]
      exact List.isChain_nil
    · rw [hexecutor]
      exact ⟨rfl, rfl⟩
    · intro _
      rw [hexecutor]
      rfl
    · intro s hs
      simp [hqueue] at hs
  | applied sample rest call running queued due reports =>
    obtain ⟨epoch, last, hspliced⟩ := h.running running
    have hfollowing := approach_neighbour hspliced.onWay hclock hgrid h.sound hspliced.neighbours
      running call queued due hnext
    have hway := hspliced.onWay.applied hclock hgrid running call queued due hnext hfollowing
    refine ⟨epoch, _, SplicedRunning.reported hway hgrid running call ?_ reports ?_
      (hspliced.onWay.applied_nears hclock hgrid running call queued due hnext hfollowing)⟩
    · have hneighbours := hspliced.neighbours
      rw [queued] at hneighbours
      rw [hexecutor]
      change List.IsChain (Neighbours t.clock.executor.session.policy
        t.clock.executor.controlEpochTick) t.clock.executor.queue.tail
      rw [queued]
      exact hneighbours.tail
    · rw [hexecutor]
      exact ⟨rfl, rfl⟩
  | interpolated sample rest call running queued still span within reports =>
    obtain ⟨epoch, last, hspliced⟩ := h.running running
    have hway := hspliced.onWay.interpolated hclock hgrid running call queued still hnext
    have hhere := hspliced.onWay.towards_here hclock hgrid running call within hnext
    have hqueue : (t.clock.next e).executor.queue = sample :: rest := by
      rw [show (t.clock.next e).executor = _ from hnext]
      exact queued
    have happroach := hway.approach sample (by simp [hqueue])
    refine ⟨epoch, _, SplicedRunning.reported hway hgrid running call ?_ reports ?_
      (nears_of_onTheWay hqueue happroach (hway.span_pos happroach.upcoming) hhere)⟩
    · rw [hexecutor]
      exact hspliced.neighbours
    · rw [hexecutor]
      exact ⟨rfl, rfl⟩
  | quiet _ call running session anchor epochSame lastSame silent =>
    obtain ⟨epoch, last, hspliced⟩ := h.running running
    subst hexecutor
    refine ⟨epoch, last, hspliced.silent
      (hspliced.onWay.quiet session anchor epochSame lastSame hclock hgrid running call) running call
      ?_ silent fun _ _ hnears => hnears.quiet session anchor epochSame lastSame⟩
    have hqueue : (t.next e).clock.executor.queue = t.clock.executor.queue :=
      congrArg (·.validatedSamples.samples) session
    rw [hqueue, session, epochSame]
    exact hspliced.neighbours

/-- **Every event in rate keeps the invariant, splices included.** -/
theorem inSplicedRate_next (h : Spliced start t) (hclock : onClock start t.clock e)
    (hgrid : onGrid t.clock e) (hok : inSplicedRate t.clock.executor e.event) :
    Spliced start (t.next e) where
  began := h.began.trans hclock.1
  sound := sound_next e.event h.sound
  chain := by
    cases hopens : opens t.clock.executor e.event with
    | true => simp [Traced.next, hopens]
    | false =>
      have houtcome := next_outcome t.clock.executor e.event
      have hpolicy : (t.next e).clock.executor.session.policy =
          t.clock.executor.session.policy := houtcome.policy hopens
      rw [hpolicy]
      cases hreports : output t.clock.executor e.event with
      | none =>
        rw [Traced.outputs_silent hopens hreports]
        exact h.chain
      | some outputUrad =>
        rw [Traced.outputs_reports hopens hreports]
        obtain ⟨hcall, hrunning, result, hstep⟩ := houtcome.reports hreports
        obtain ⟨epoch, last, hspliced⟩ := h.running hrunning
        refine List.isChain_append.mpr ⟨h.chain, List.isChain_singleton _, ?_⟩
        intro sent hsent new hnew
        cases hnew
        obtain ⟨hstepTime, htime, hlast, hnears⟩ := hspliced.latest sent hsent
        have hnow := step_time hgrid hrunning hcall
        have hfive : e.time = sent.time + 5 := by omega
        have hisStep : e.event.call.isStep = true := by
          rw [show e.event.call = .step from hcall]
          rfl
        refine ⟨by simp [hfive], fun joint => ?_⟩
        have hnear := hnears.reports hspliced.onWay hclock hgrid hcall hstepTime
          (fun running openEnded silent joint => by
            rw [← hlast.2]
            exact hok.2.2.2 hisStep running openEnded silent hlast.1 joint) hstep joint
        simp only [hfive, Nat.add_sub_cancel_left]
        exact Nat.mul_le_mul_right 5 hnear
  fresh := by
    intro hpriming
    rcases (next_outcome t.clock.executor e.event).priming hpriming with
      hopens | ⟨hbefore, hsilent⟩
    · simp [Traced.next, hopens]
    · cases hopens : opens t.clock.executor e.event with
      | true => simp [Traced.next, hopens]
      | false =>
        rw [Traced.outputs_silent hopens hsilent]
        exact h.fresh hbefore
  running := splicedRunning_next h hclock hgrid hok

end Step

/-! ## 3. What a run keeps -/

/-- **The rate across splices.**  In a run on a true clock, with a step on every control tick, whose
starts, re-appends, splices and timeouts are in rate, any two outputs of one stream differ on
every joint by at most the step for every control tick between them. -/
theorem spliced_within_rate {hardCaps : StreamHardCaps} {jointLimits : JointLimits}
    {initial : StreamExecutor} (hinit : streamExecutorInit hardCaps jointLimits = .ok initial)
    (start : Nat) (events : List TimedCall)
    (hclock : Machine.Along Clocked.next (onClock start) (Clocked.begin initial start) events)
    (hgrid : Machine.Along Clocked.next onGrid (Clocked.begin initial start) events)
    (hrate : Machine.Along Clocked.next (fun c e => inSplicedRate c.executor e.event)
      (Clocked.begin initial start) events) :
    (Machine.run Traced.next (Traced.begin initial start) events).clock.executor =
      after initial (events.map TimedCall.event) ∧
    (Machine.run Traced.next (Traced.begin initial start) events).outputs.Pairwise
      (WithinRate (after initial (events.map TimedCall.event)).session.policy) := by
  obtain ⟨hstate, -, -, -, -⟩ := streamExecutorInit_ok hinit
  have hbegin : Spliced start (Traced.begin initial start) := by
    refine ⟨Nat.le_refl _, sound_init hinit, List.isChain_nil, fun _ => rfl, ?_⟩
    intro hrunning
    simp [Traced.begin, Clocked.begin, hstate] at hrunning
  have halong := Machine.along_and.mpr ⟨hclock, Machine.along_and.mpr ⟨hgrid, hrate⟩⟩
  have hinv : Spliced start (Machine.run Traced.next (Traced.begin initial start) events) :=
    Machine.run_invariant (fun _ _ h hok => inSplicedRate_next h hok.1 hok.2.1 hok.2.2)
      events hbegin ((Machine.along_map Traced.clock (fun _ _ => rfl) _ events).mpr halong)
  have hexecutor : (Machine.run Traced.next (Traced.begin initial start) events).clock.executor =
      after initial (events.map TimedCall.event) := by
    rw [Traced.clock_run]
    exact Clocked.executor_run (Clocked.begin initial start) events
  refine ⟨hexecutor, ?_⟩
  rw [← hexecutor]
  have htrans : IsTrans Sent (WithinRate (Machine.run Traced.next (Traced.begin initial start)
      events).clock.executor.session.policy) := ⟨fun _ _ _ => WithinRate.trans⟩
  exact List.isChain_iff_pairwise.mp hinv.chain

/-- A stream on the bench whose second half is replaced by a slower one. -/
def Bench.slowerRun : List TimedCall :=
  [⟨100, .openStream (openPayload 1 0 100)⟩,
    ⟨100, .admitBatch (batchPayload 0 0 [(120, 36000), (160, 72000)]) .append⟩,
    ⟨100, .start fun _ => 0⟩, ⟨100, .step⟩, ⟨105, .step⟩, ⟨110, .step⟩, ⟨115, .step⟩,
    ⟨115, .admitBatch (batchPayload 0 140 [(140, 60000)]) .splice⟩, ⟨120, .step⟩, ⟨125, .step⟩,
    ⟨130, .step⟩, ⟨135, .step⟩, ⟨140, .step⟩]

theorem spliced_within_rate_bench :
    (Machine.run Traced.next (Traced.begin Bench.executor 100) Bench.slowerRun).outputs.Pairwise
      (WithinRate
        (after Bench.executor (Bench.slowerRun.map TimedCall.event)).session.policy) :=
  (spliced_within_rate Bench.executor_init 100 Bench.slowerRun (by decide +kernel)
    (by decide +kernel) (by decide +kernel)).2

/-- A stream that waits until 120 and then moves at the full rate, and a splice half way whose first
sample is a step above the position that the queue has there. -/
def Bench.tightRun : List TimedCall :=
  [⟨100, .openStream (openPayload 1 0 100)⟩,
    ⟨100, .admitBatch (batchPayload 0 0 [(120, 0), (160, 72000)]) .append⟩,
    ⟨100, .start fun _ => 0⟩, ⟨100, .step⟩, ⟨105, .step⟩, ⟨110, .step⟩, ⟨115, .step⟩,
    ⟨115, .admitBatch (batchPayload 0 140 [(140, 45000)]) .splice⟩, ⟨120, .step⟩, ⟨125, .step⟩]

/-- **The splice is accepted and the outputs move by 11250 in one control tick**, under a policy of
9000: the four control ticks from the sample that is retained must take the joint 45000. -/
theorem splice_jumps :
    Machine.Along Clocked.next (onClock 100) (Clocked.begin Bench.executor 100) Bench.tightRun ∧
      Machine.Along Clocked.next onGrid (Clocked.begin Bench.executor 100) Bench.tightRun ∧
      (after Bench.executor (Bench.tightRun.map TimedCall.event)).diagnostics.state = .running ∧
      (after Bench.executor (Bench.tightRun.map TimedCall.event)).diagnostics.spliceCount = 1 ∧
      ((Machine.run Traced.next (Traced.begin Bench.executor 100)
        Bench.tightRun).outputs.map fun sent => (sent.time, sent.outputUrad 0)) =
          [(100, 0), (105, 0), (110, 0), (115, 0), (120, 0), (125, 11250)] ∧
      ¬ (Machine.run Traced.next (Traced.begin Bench.executor 100)
        Bench.tightRun).outputs.Pairwise (WithinRate
          (after Bench.executor (Bench.tightRun.map TimedCall.event)).session.policy) := by
  refine ⟨by decide +kernel, by decide +kernel, by decide +kernel, by decide +kernel,
    by decide +kernel, by decide +kernel⟩

end MobileBimanual.Stream
