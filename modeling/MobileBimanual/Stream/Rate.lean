/-
# The rate of the outputs

Two outputs of one stream differ on each joint by at most the policy's step for every control
tick between them, as long as nothing but APPENDs edits the queue.  The outputs lie on segments
from the anchor to the first queued sample, and each segment is slow enough on average
(`Approach`): the spacing checks see to that for the samples of a batch, for an APPEND behind the
queue and for the first sample of a start.  Along a segment the truncated interpolation never
moves by more than the step (`Interp.natAbs_travel_sub_le`).

Three calls can leave the chain of segments, and `inRate` says what they must bring:

* an APPEND to a RUNNING executor whose queue has run empty is checked against nothing, and the
  way to its first sample counts from the anchor's control tick, though the executor has held
  since (`Bench.drainedRun`);
* a command timeout reports the anchor from wherever the segment has got to;
* a start whose first sample is due half a turn away applies it at once.
-/
import MobileBimanual.Stream.Clock
import MobileBimanual.Stream.JointLimits

namespace MobileBimanual.Stream

open Serial (After ahead ofTime)
open StreamExecutor Machine

/-! ## 1. Segments -/

/-- The policy's step of a joint; the steps of an accepted policy are positive. -/
def StreamPolicy.maximumStep (policy : StreamPolicy) (joint : Joint) : Nat :=
  (policy.maximumStepUradPerTick joint).toInt.toNat

theorem PolicyOk.maximumStep {policy : StreamPolicy} (h : PolicyOk policy) (joint : Joint) :
    ((policy.maximumStep joint : Nat) : Int) = (policy.maximumStepUradPerTick joint).toInt :=
  Int.toNat_of_nonneg (Int.le_of_lt (h.step joint))

/-- How far the sample is from the anchor, and how long after it it is due. -/
def StreamExecutor.distance (executor : StreamExecutor) (sample : Setpoint) (joint : Joint) :
    Nat :=
  absoluteDifference (sample.positionUrad joint) (executor.anchor.positionUrad joint)

def StreamExecutor.span (executor : StreamExecutor) (sample : Setpoint) : Nat :=
  ahead (executor.due sample) (executor.due executor.anchor)

/-- The exact position `elapsed` ms after the anchor on the way to the sample. -/
def StreamExecutor.onTheWay (executor : StreamExecutor) (sample : Setpoint) (joint : Joint)
    (elapsed : Nat) : Int :=
  (executor.anchor.positionUrad joint).toInt +
    Interp.travel
      ((sample.positionUrad joint).toInt - (executor.anchor.positionUrad joint).toInt)
      elapsed (executor.span sample)

/-- Less than half a turn after the anchor the machine arithmetic is exact. -/
theorem towards_toInt {executor : StreamExecutor} {sample : Setpoint} {currentTick : Tick}
    (hwithin : ahead currentTick (executor.due executor.anchor) ≤ executor.span sample)
    (hnear : 2 * ahead currentTick (executor.due executor.anchor) < 2 ^ 32) (joint : Joint) :
    (executor.towards sample currentTick joint).toInt =
      executor.onTheWay sample joint (ahead currentTick (executor.due executor.anchor)) := by
  have ha := toInt_range (executor.anchor.positionUrad joint)
  have hs := toInt_range (sample.positionUrad joint)
  refine interpolateUrad_toInt ?_ hwithin
  calc ((sample.positionUrad joint).toInt - (executor.anchor.positionUrad joint).toInt).natAbs *
        ahead currentTick (executor.due executor.anchor)
      ≤ (2 ^ 32 - 1) * (2 ^ 31 - 1) := Nat.mul_le_mul (by omega) (by omega)
    _ < 2 ^ 63 := by norm_num

theorem onTheWay_end {executor : StreamExecutor} {sample : Setpoint}
    (hspan : 0 < executor.span sample) (joint : Joint) :
    executor.onTheWay sample joint (executor.span sample) = (sample.positionUrad joint).toInt := by
  rw [onTheWay, Interp.travel_end _ hspan]
  omega

/-- The sample is due after the last step, and far enough after the anchor for its distance. -/
structure Approach (executor : StreamExecutor) (sample : Setpoint) : Prop where
  upcoming : After (executor.due sample) executor.lastStepTick
  rate : ∀ joint, executor.distance sample joint * 5 ≤
    executor.session.policy.maximumStep joint * executor.span sample

/-- Along such a segment a control tick moves a joint by at most its step. -/
theorem Approach.step {executor : StreamExecutor} {sample : Setpoint}
    (h : Approach executor sample) (hspan : 0 < executor.span sample) (elapsed : Nat)
    (joint : Joint) :
    (executor.onTheWay sample joint (elapsed + 5) -
      executor.onTheWay sample joint elapsed).natAbs ≤
        executor.session.policy.maximumStep joint := by
  rw [onTheWay, onTheWay, add_sub_add_left_eq_sub]
  refine Interp.natAbs_travel_sub_le _ hspan (Nat.le_add_right _ _) ?_
  rw [Nat.add_sub_cancel_left]
  exact h.rate joint

/-- From a standstill at the anchor, the first point on the way. -/
theorem onTheWay_from_anchor {executor : StreamExecutor} {sample : Setpoint} {elapsed step : Nat}
    (hspan : 0 < executor.span sample) (joint : Joint) :
    (executor.onTheWay sample joint elapsed -
        (executor.anchor.positionUrad joint).toInt).natAbs ≤ step ↔
      executor.distance sample joint * elapsed < (step + 1) * executor.span sample := by
  rw [onTheWay, add_sub_cancel_left, Interp.natAbs_travel_le_iff _ hspan]
  rfl

/-- The next sample of a queue is approached from the one before it. -/
theorem approach_following {start epoch last : Nat} {c : Clocked} {e : TimedCall}
    {sample following : Setpoint} {lateness : Tick} (hpaced : Paced start c epoch last)
    (hclock : onClock start c e) (hgrid : onGrid c e)
    (hrunning : c.executor.diagnostics.state = .running) (hcall : e.call = .step)
    (hpolicy : PolicyOk c.executor.session.policy)
    (hup : After (c.executor.due sample) c.executor.lastStepTick)
    (hdue : c.executor.due sample = e.event.tick)
    (hafter : After following.applyTick sample.applyTick)
    (hcontinuous : Continuous c.executor.session.policy sample following) :
    Approach (applyFirstSample (ticked c.executor e.event.tick) sample lateness) following := by
  obtain ⟨-, -, hnear⟩ := hpaced.ahead_step hclock hgrid hrunning hcall
  obtain ⟨hround, -⟩ := ahead_due_of_after hpaced.last_near hup
  have hforward := (Serial.after_iff _ _).mp hafter
  rw [← hdue] at hnear
  have hshift : ahead (c.executor.due following) (c.executor.due sample) =
      ahead following.applyTick sample.applyTick :=
    ahead_due_shift hround hnear hforward.2 hcontinuous.onGrid
  refine ⟨?_, ?_⟩
  · change After (c.executor.due following) e.event.tick
    rw [← hdue, Serial.after_iff, hshift]
    exact hforward
  · intro joint
    change absoluteDifference (following.positionUrad joint) (sample.positionUrad joint) * 5 ≤
      c.executor.session.policy.maximumStep joint *
        ahead (c.executor.due following) (c.executor.due sample)
    rw [hshift]
    obtain ⟨k, hk⟩ := hcontinuous.onGrid
    have hrate := hcontinuous.rate joint
    rw [← hpolicy.maximumStep, hk, Nat.mul_div_cancel_left k (by decide)] at hrate
    have hrate : absoluteDifference (following.positionUrad joint) (sample.positionUrad joint) ≤
        c.executor.session.policy.maximumStep joint * k := by exact_mod_cast hrate
    rw [hk]
    calc _ ≤ c.executor.session.policy.maximumStep joint * k * 5 := Nat.mul_le_mul_right 5 hrate
      _ = c.executor.session.policy.maximumStep joint * (5 * k) := by ring

theorem approach_start {executor : StreamExecutor} {currentTick : Tick} {position : Joints}
    (hsound : Sound executor) (hstarts : Starts executor currentTick position)
    (hdue : After (firstControlTickAtOrAfter currentTick executor.firstSample.applyTick)
      currentTick) :
    Approach (started executor currentTick position) executor.firstSample := by
  have hpolicy := (hsound.isOpen (Or.inl hstarts.priming)).2
  have hself : firstControlTickAtOrAfter currentTick currentTick = currentTick := by
    refine Serial.eq_of_ahead_eq_zero ?_
    rw [ahead_firstControlTick (by simp), Serial.ahead_self]
  have hnear : 2 * ahead currentTick currentTick < 2 ^ 32 := by simp
  obtain ⟨hround, -⟩ := ahead_due_of_after hnear hdue
  have hturn : ahead executor.firstSample.applyTick currentTick + 4 < 2 ^ 32 := by
    have := (Serial.after_iff _ _).mp hdue
    omega
  have hticks : (startOutputTicks executor currentTick).toNat =
      (ahead executor.firstSample.applyTick currentTick + 4) / 5 := by
    rw [startOutputTicks, add_controlTickMs_sub_one, BitVec.toNat_udiv, BitVec.toNat_add]
    exact congrArg (· / 5) (Nat.mod_eq_of_lt hturn)
  refine ⟨hdue, fun joint => ?_⟩
  change absoluteDifference (executor.firstSample.positionUrad joint) (position joint) * 5 ≤
    executor.session.policy.maximumStep joint *
      ahead (firstControlTickAtOrAfter currentTick executor.firstSample.applyTick)
        (firstControlTickAtOrAfter currentTick currentTick)
  have hrate := exceedsRate_eq_false hpolicy hstarts.rate joint
  rw [← hpolicy.maximumStep, hticks] at hrate
  have hrate : absoluteDifference (executor.firstSample.positionUrad joint) (position joint) ≤
      executor.session.policy.maximumStep joint *
        ((ahead executor.firstSample.applyTick currentTick + 4) / 5) := by exact_mod_cast hrate
  rw [hself, hround]
  calc _ ≤ _ * 5 := Nat.mul_le_mul_right 5 hrate
    _ = _ := by ring

/-! ## 2. The outputs of a stream -/

structure Sent where
  time : Nat
  outputUrad : Joints

/-- From one output to another no joint moves faster than its step per control tick. -/
def WithinRate (policy : StreamPolicy) (a b : Sent) : Prop :=
  a.time < b.time ∧ ∀ joint, absoluteDifference (b.outputUrad joint) (a.outputUrad joint) * 5 ≤
    policy.maximumStep joint * (b.time - a.time)

instance (policy : StreamPolicy) (a b : Sent) : Decidable (WithinRate policy a b) :=
  inferInstanceAs (Decidable (_ ∧ _))

theorem WithinRate.trans {policy : StreamPolicy} {a b d : Sent} (hab : WithinRate policy a b)
    (hbd : WithinRate policy b d) : WithinRate policy a d := by
  obtain ⟨htime, hrate⟩ := hab
  obtain ⟨htime', hrate'⟩ := hbd
  refine ⟨htime.trans htime', fun joint => ?_⟩
  have htriangle : absoluteDifference (d.outputUrad joint) (a.outputUrad joint) ≤
      absoluteDifference (d.outputUrad joint) (b.outputUrad joint) +
        absoluteDifference (b.outputUrad joint) (a.outputUrad joint) := by
    unfold absoluteDifference
    omega
  calc absoluteDifference (d.outputUrad joint) (a.outputUrad joint) * 5
      ≤ absoluteDifference (d.outputUrad joint) (b.outputUrad joint) * 5 +
          absoluteDifference (b.outputUrad joint) (a.outputUrad joint) * 5 := by omega
    _ ≤ policy.maximumStep joint * (d.time - b.time) +
          policy.maximumStep joint * (b.time - a.time) :=
        Nat.add_le_add (hrate' joint) (hrate joint)
    _ = policy.maximumStep joint * (d.time - a.time) := by
        rw [← Nat.mul_add, Nat.sub_add_sub_cancel htime'.le htime.le]

/-- The executor on its clock, with the outputs of the stream it is in. -/
structure Traced where
  clock : Clocked
  outputs : List Sent

def Traced.next (t : Traced) (e : TimedCall) : Traced where
  clock := t.clock.next e
  outputs :=
    if opens t.clock.executor e.event then []
    else match output t.clock.executor e.event with
    | some outputUrad => t.outputs ++ [⟨e.time, outputUrad⟩]
    | none => t.outputs

def Traced.begin (executor : StreamExecutor) (start : Nat) : Traced :=
  ⟨Clocked.begin executor start, []⟩

/-- The outputs are an instrument. -/
theorem Traced.clock_run (t : Traced) (events : List TimedCall) :
    (run Traced.next t events).clock = run Clocked.next t.clock events :=
  map_run Traced.clock (fun _ _ => rfl) t events

/-! ## 3. What keeps the rate -/

/-- A start's first sample is due after it. -/
def startsInRate (executor : StreamExecutor) (event : Event) : Prop :=
  starts executor event = true →
    After (firstControlTickAtOrAfter event.tick executor.firstSample.applyTick) event.tick

/-- An APPEND to an empty RUNNING queue begins after the last step, no faster from the anchor than
the step allows, and near enough that the first control tick on the way, counted from the
anchor, moves no joint by more. -/
def reappendsInRate (executor : StreamExecutor) (event : Event) : Prop :=
  executor.diagnostics.state = .running → executor.queue = [] →
    ∀ admitted ∈ admittedBatch executor event,
      After (executor.due admitted.2.firstSample) executor.lastStepTick ∧
      ∀ joint,
        executor.distance admitted.2.firstSample joint * 5 ≤
          executor.session.policy.maximumStep joint * executor.span admitted.2.firstSample ∧
        executor.distance admitted.2.firstSample joint *
            (ahead executor.lastStepTick (executor.due executor.anchor) + 5) <
          (executor.session.policy.maximumStep joint + 1) *
            executor.span admitted.2.firstSample

/-- A command timeout on the way to a sample finds the executor no further than a step from the
anchor. -/
def holdsInRate (executor : StreamExecutor) (event : Event) : Prop :=
  event.call.isStep = true → executor.diagnostics.state = .running →
    executor.session.horizonEndTick = 0 →
    executor.session.policy.commandTimeoutMs.toNat <
      ahead event.tick executor.diagnostics.lastCommandTick →
    ∀ head ∈ executor.queue.head?, ∀ joint,
      executor.distance head joint *
          ahead executor.lastStepTick (executor.due executor.anchor) <
        (executor.session.policy.maximumStep joint + 1) * executor.span head

def inRate (executor : StreamExecutor) (event : Event) : Prop :=
  startsInRate executor event ∧ reappendsInRate executor event ∧ holdsInRate executor event

instance (executor : StreamExecutor) (event : Event) : Decidable (inRate executor event) :=
  inferInstanceAs (Decidable ((_ → _) ∧ (_ → _ → ∀ admitted ∈ admittedBatch executor event, _) ∧
    (_ → _ → _ → _ → ∀ head ∈ executor.queue.head?, _)))

/-- The last output, as the next step finds it: the anchor, or a point on the way to the first
sample, and in either case within a step of the next point on the way. -/
structure OnSegment (executor : StreamExecutor) (outputUrad : Joints) : Prop where
  drained : executor.queue = [] → outputUrad = executor.anchor.positionUrad
  near : ∀ s ∈ executor.queue.head?, ∀ joint,
    (executor.onTheWay s joint (ahead executor.lastStepTick (executor.due executor.anchor) + 5) -
      (outputUrad joint).toInt).natAbs ≤ executor.session.policy.maximumStep joint
  here : ∀ s ∈ executor.queue.head?, outputUrad = executor.anchor.positionUrad ∨
    ∀ joint, (outputUrad joint).toInt =
      executor.onTheWay s joint (ahead executor.lastStepTick (executor.due executor.anchor))

structure RatedRunning (start epoch last : Nat) (t : Traced) : Prop where
  paced : Paced start t.clock epoch last
  anchorDue : ahead (t.clock.executor.due t.clock.executor.anchor)
      t.clock.executor.controlEpochTick ≤
    ahead t.clock.executor.lastStepTick t.clock.executor.controlEpochTick
  approach : ∀ s ∈ t.clock.executor.queue.head?, Approach t.clock.executor s
  latest : ∀ sent ∈ t.outputs.getLast?, t.clock.nextStep = last + 5 ∧ sent.time = last ∧
    OnSegment t.clock.executor sent.outputUrad

/-- On the way to its first sample, slowly enough. -/
structure OnWay (start epoch last : Nat) (c : Clocked) : Prop where
  paced : Paced start c epoch last
  anchorDue : ahead (c.executor.due c.executor.anchor) c.executor.controlEpochTick ≤
    ahead c.executor.lastStepTick c.executor.controlEpochTick
  approach : ∀ s ∈ c.executor.queue.head?, Approach c.executor s

/-- The output is the anchor, or within a step of the next point on the way. -/
structure Nears (executor : StreamExecutor) (outputUrad : Joints) : Prop where
  drained : executor.queue = [] → outputUrad = executor.anchor.positionUrad
  near : ∀ s ∈ executor.queue.head?, ∀ joint,
    (executor.onTheWay s joint (ahead executor.lastStepTick (executor.due executor.anchor) + 5) -
      (outputUrad joint).toInt).natAbs ≤ executor.session.policy.maximumStep joint

section Step

variable {start epoch last : Nat} {c : Clocked} {t : Traced} {e : TimedCall} {sample : Setpoint}
  {rest : List Setpoint} {outputUrad : Joints}

theorem RatedRunning.onWay (h : RatedRunning start epoch last t) :
    OnWay start epoch last t.clock := ⟨h.paced, h.anchorDue, h.approach⟩

variable {executor : StreamExecutor}

theorem OnSegment.nears (h : OnSegment executor outputUrad) :
    Nears executor outputUrad := ⟨h.drained, h.near⟩

/-- The times of a step on the segment from the anchor. -/
theorem OnWay.elapsed (h : OnWay start epoch last c) (hclock : onClock start c e)
    (hgrid : onGrid c e) (hrunning : c.executor.diagnostics.state = .running)
    (hcall : e.call = .step) :
    ahead e.event.tick (c.executor.due c.executor.anchor) =
        ahead c.executor.lastStepTick (c.executor.due c.executor.anchor) +
          ahead e.event.tick c.executor.lastStepTick ∧
      2 * ahead e.event.tick (c.executor.due c.executor.anchor) < 2 ^ 32 := by
  obtain ⟨-, hsum, hnear⟩ := h.paced.ahead_step hclock hgrid hrunning hcall
  have hanchor := h.anchorDue
  have hlast : ahead c.executor.lastStepTick (c.executor.due c.executor.anchor) = _ :=
    Serial.ahead_sub hanchor
  have htick : ahead e.event.tick (c.executor.due c.executor.anchor) = _ :=
    Serial.ahead_sub (c := c.executor.controlEpochTick) (by omega)
  omega

/-- The segment to an approached sample has a span, and ends after the last step. -/
theorem OnWay.span (h : OnWay start epoch last c)
    (hup : After (c.executor.due sample) c.executor.lastStepTick) :
    c.executor.span sample = ahead (c.executor.due sample) c.executor.lastStepTick +
      ahead c.executor.lastStepTick (c.executor.due c.executor.anchor) := by
  obtain ⟨hsum, -, -⟩ := h.paced.ahead_due hup
  have hanchor := h.anchorDue
  have hlast : ahead c.executor.lastStepTick (c.executor.due c.executor.anchor) = _ :=
    Serial.ahead_sub hanchor
  have hspan : c.executor.span sample = _ :=
    Serial.ahead_sub (c := c.executor.controlEpochTick) (by omega)
  omega

theorem OnWay.span_pos (h : OnWay start epoch last c)
    (hup : After (c.executor.due sample) c.executor.lastStepTick) :
    0 < c.executor.span sample := by
  have := h.span hup
  have := (Serial.after_iff _ _).mp hup
  omega

theorem Nears.applied (hnears : Nears c.executor outputUrad) (h : OnWay start epoch last c)
    (hclock : onClock start c e) (hgrid : onGrid c e)
    (hrunning : c.executor.diagnostics.state = .running) (hcall : e.call = .step)
    (hnext : c.nextStep = last + 5) (hqueue : c.executor.queue = sample :: rest)
    (hdue : ¬ After (c.executor.due sample) e.event.tick) (joint : Joint) :
    absoluteDifference (sample.positionUrad joint) (outputUrad joint) ≤
      c.executor.session.policy.maximumStep joint := by
  have hs : sample ∈ c.executor.queue.head? := by simp [hqueue]
  have hup := (h.approach sample hs).upcoming
  have htick := head_due h.paced hup hclock hgrid hrunning hcall hdue
  have hfive := h.paced.ahead_step_eq hclock hgrid hrunning hcall hnext
  have hnear := hnears.near sample hs joint
  have hspan := h.span hup
  rw [htick, hfive, Nat.add_comm] at hspan
  rwa [← hspan, onTheWay_end (h.span_pos hup)] at hnear

/-- **What a step reports is within a step of the last output**, if a timeout finds that output
within a step of the anchor. -/
theorem Nears.reports {result : ExecutorResult} {reported : Joints}
    (hnears : Nears c.executor outputUrad) (h : OnWay start epoch last c)
    (hclock : onClock start c e) (hgrid : onGrid c e) (hcall : e.call = .step)
    (hnext : c.nextStep = last + 5)
    (hholds : c.executor.diagnostics.state = .running → c.executor.session.horizonEndTick = 0 →
      c.executor.session.policy.commandTimeoutMs.toNat <
        ahead e.event.tick c.executor.diagnostics.lastCommandTick →
      ∀ joint, absoluteDifference (c.executor.anchor.positionUrad joint) (outputUrad joint) ≤
        c.executor.session.policy.maximumStep joint)
    (hstep : StepOutcome c.executor e.event.tick (executor, result, some reported))
    (joint : Joint) : absoluteDifference (reported joint) (outputUrad joint) ≤
      c.executor.session.policy.maximumStep joint := by
  cases hstep with
  | timeout running openEnded silent => exact hholds running openEnded silent joint
  | holding running openEnded noTimeout drained =>
    rw [hnears.drained drained]
    simp [absoluteDifference]
  | applied running s rest queued noTimeout due onTime more =>
    exact hnears.applied h hclock hgrid running hcall hnext queued due joint
  | succeeded running s queued due onTime planned final =>
    exact hnears.applied h hclock hgrid running hcall hnext queued due joint
  | interpolated running s rest queued noTimeout still span within =>
    have hs : s ∈ c.executor.queue.head? := by simp [queued]
    have hfive := h.paced.ahead_step_eq hclock hgrid running hcall hnext
    obtain ⟨helapsed, hshort⟩ := h.elapsed hclock hgrid running hcall
    have hnear := hnears.near s hs joint
    rw [absoluteDifference, towards_toInt within hshort, helapsed, hfive]
    exact hnear

theorem output_near (h : RatedRunning start epoch last t) (hclock : onClock start t.clock e)
    (hgrid : onGrid t.clock e) (hcall : e.call = .step)
    (hholds : holdsInRate t.clock.executor e.event) {result : ExecutorResult}
    (hstep : StepOutcome t.clock.executor e.event.tick (executor, result, some outputUrad))
    {sent : Sent} (hsent : sent ∈ t.outputs.getLast?) (joint : Joint) :
    absoluteDifference (outputUrad joint) (sent.outputUrad joint) ≤
      t.clock.executor.session.policy.maximumStep joint := by
  obtain ⟨hnext, -, hsegment⟩ := h.latest sent hsent
  refine hsegment.nears.reports h.onWay hclock hgrid hcall hnext ?_ hstep joint
  intro running openEnded silent joint
  have hself : absoluteDifference (t.clock.executor.anchor.positionUrad joint)
      (t.clock.executor.anchor.positionUrad joint) = 0 := by simp [absoluteDifference]
  cases hqueue : t.clock.executor.queue with
  | nil =>
    rw [hsegment.drained hqueue, hself]
    exact Nat.zero_le _
  | cons s rest =>
    have hs : s ∈ t.clock.executor.queue.head? := by simp [hqueue]
    rcases hsegment.here s hs with heq | heq
    · rw [heq, hself]
      exact Nat.zero_le _
    · have hisStep : e.event.call.isStep = true := by
        rw [show e.event.call = .step from hcall]
        rfl
      have hslow := hholds hisStep running openEnded silent s hs joint
      have hspan := h.onWay.span_pos (h.approach s hs).upcoming
      have hway := (onTheWay_from_anchor hspan joint).mpr hslow
      rw [absoluteDifference, heq joint]
      omega

/-- A point on the way is within a step of the next. -/
theorem nears_of_onTheWay (hqueue : executor.queue = sample :: rest)
    (happroach : Approach executor sample) (hspan : 0 < executor.span sample)
    (hhere : ∀ joint, (outputUrad joint).toInt =
      executor.onTheWay sample joint (ahead executor.lastStepTick (executor.due executor.anchor))) :
    Nears executor outputUrad := by
  refine ⟨?_, ?_⟩
  · intro hnil
    simp [hqueue] at hnil
  · intro s hs joint
    rw [hqueue] at hs
    cases hs
    rw [hhere joint]
    exact happroach.step hspan _ joint

/-- From the anchor itself the next point on the way is within a step. -/
theorem nears_of_anchor
    (happroach : ∀ s ∈ executor.queue.head?, Approach executor s ∧ 0 < executor.span s)
    (hzero : ahead executor.lastStepTick (executor.due executor.anchor) = 0) :
    Nears executor executor.anchor.positionUrad := by
  refine ⟨fun _ => rfl, ?_⟩
  intro s hs joint
  obtain ⟨happroach, hspan⟩ := happroach s hs
  have hstep := happroach.step hspan 0 joint
  rw [hzero]
  rwa [show executor.onTheWay s joint 0 = (executor.anchor.positionUrad joint).toInt by
    rw [onTheWay, Interp.travel_zero, Int.add_zero]] at hstep

/-! ## 4. What an event keeps -/

/-- The invariant: the outputs of the stream keep the rate, the queue is continuous, and a RUNNING
executor is on a segment slow enough. -/
structure Rated (start : Nat) (t : Traced) : Prop where
  began : start ≤ t.clock.now
  sound : Sound t.clock.executor
  queue : List.IsChain (Continuous t.clock.executor.session.policy) t.clock.executor.queue
  chain : List.IsChain (WithinRate t.clock.executor.session.policy) t.outputs
  fresh : t.clock.executor.diagnostics.state = .priming → t.outputs = []
  running : t.clock.executor.diagnostics.state = .running →
    ∃ epoch last, RatedRunning start epoch last t

theorem Traced.outputs_silent (hopens : opens t.clock.executor e.event = false)
    (hsilent : output t.clock.executor e.event = none) : (t.next e).outputs = t.outputs := by
  simp [Traced.next, hopens, hsilent]

theorem Traced.outputs_reports (hopens : opens t.clock.executor e.event = false)
    (hreports : output t.clock.executor e.event = some outputUrad) :
    (t.next e).outputs = t.outputs ++ [⟨e.time, outputUrad⟩] := by
  simp [Traced.next, hopens, hreports]

theorem OnWay.interpolated (h : OnWay start epoch last c) (hclock : onClock start c e)
    (hgrid : onGrid c e) (hrunning : c.executor.diagnostics.state = .running)
    (hcall : e.call = .step) (hqueue : c.executor.queue = sample :: rest)
    (hstill : After (c.executor.due sample) e.event.tick)
    (hnext : (c.next e).executor = recordOutput (ticked c.executor e.event.tick)
      (c.executor.towards sample e.event.tick)) :
    OnWay start epoch e.time (c.next e) := by
  have hs : sample ∈ c.executor.queue.head? := by simp [hqueue]
  obtain ⟨-, hsum, -⟩ := h.paced.ahead_step hclock hgrid hrunning hcall
  refine ⟨h.paced.stepped hclock hgrid hrunning hcall ?_ ?_, ?_, ?_⟩
  · exact congrArg (·.controlEpochTick) hnext
  · exact congrArg (·.lastStepTick) hnext
  · rw [hnext]
    change ahead (c.executor.due c.executor.anchor) c.executor.controlEpochTick ≤
      ahead e.event.tick c.executor.controlEpochTick
    have hanchor := h.anchorDue
    omega
  · intro s hs'
    rw [hnext] at hs' ⊢
    have hsame : s = sample := by
      have : some sample = some s := hs ▸ hs'
      exact (Option.some.inj this).symm
    rw [hsame]
    exact ⟨hstill, (h.approach sample hs).rate⟩

/-- A point on the way is reported. -/
theorem OnWay.towards_here (h : OnWay start epoch last c) (hclock : onClock start c e)
    (hgrid : onGrid c e) (hrunning : c.executor.diagnostics.state = .running)
    (hcall : e.call = .step)
    (hwithin : ahead e.event.tick (c.executor.due c.executor.anchor) ≤
      ahead (c.executor.due sample) (c.executor.due c.executor.anchor))
    (hnext : (c.next e).executor = recordOutput (ticked c.executor e.event.tick)
      (c.executor.towards sample e.event.tick)) (joint : Joint) :
    (c.executor.towards sample e.event.tick joint).toInt = (c.next e).executor.onTheWay sample joint
      (ahead (c.next e).executor.lastStepTick
        ((c.next e).executor.due (c.next e).executor.anchor)) := by
  obtain ⟨-, hshort⟩ := h.elapsed hclock hgrid hrunning hcall
  rw [hnext]
  exact towards_toInt hwithin hshort joint

/-- A step along the segment. -/
theorem RatedRunning.interpolated (h : RatedRunning start epoch last t)
    (hclock : onClock start t.clock e) (hgrid : onGrid t.clock e)
    (hrunning : t.clock.executor.diagnostics.state = .running) (hcall : e.call = .step)
    (hqueue : t.clock.executor.queue = sample :: rest)
    (hstill : After (t.clock.executor.due sample) e.event.tick)
    (hwithin : ahead e.event.tick (t.clock.executor.due t.clock.executor.anchor) ≤
      ahead (t.clock.executor.due sample) (t.clock.executor.due t.clock.executor.anchor))
    (hreports : output t.clock.executor e.event =
      some (t.clock.executor.towards sample e.event.tick))
    (hnext : (t.next e).clock.executor = recordOutput (ticked t.clock.executor e.event.tick)
      (t.clock.executor.towards sample e.event.tick)) :
    RatedRunning start epoch e.time (t.next e) := by
  have hway : OnWay start epoch e.time (t.clock.next e) :=
    h.onWay.interpolated hclock hgrid hrunning hcall hqueue hstill hnext
  have hhere : ∀ joint, (t.clock.executor.towards sample e.event.tick joint).toInt =
      (t.next e).clock.executor.onTheWay sample joint _ :=
    h.onWay.towards_here hclock hgrid hrunning hcall hwithin hnext
  have hsame : (t.next e).clock.executor.queue = sample :: rest := by
    rw [hnext]
    exact hqueue
  have happroach := hway.approach sample (by
    change sample ∈ (t.next e).clock.executor.queue.head?
    simp [hsame])
  refine ⟨hway.paced, hway.anchorDue, hway.approach, ?_⟩
  intro sent hsent
  rw [Traced.outputs_reports (opens_of_running hrunning) hreports, List.getLast?_append] at hsent
  cases hsent
  have hnears := nears_of_onTheWay hsame happroach (hway.span_pos happroach.upcoming) hhere
  refine ⟨nextStep_step hgrid hrunning hcall, rfl, hnears.drained, hnears.near, ?_⟩
  intro s hs
  rw [hsame] at hs
  cases hs
  exact Or.inr hhere

theorem OnWay.held (h : OnWay start epoch last c) (hclock : onClock start c e)
    (hgrid : onGrid c e) (hrunning : c.executor.diagnostics.state = .running)
    (hcall : e.call = .step) (hdrained : c.executor.queue = [])
    (hnext : (c.next e).executor = recordOutput (ticked c.executor e.event.tick)
      c.executor.anchor.positionUrad) :
    OnWay start epoch e.time (c.next e) := by
  obtain ⟨-, hsum, -⟩ := h.paced.ahead_step hclock hgrid hrunning hcall
  refine ⟨h.paced.stepped hclock hgrid hrunning hcall ?_ ?_, ?_, ?_⟩
  · exact congrArg (·.controlEpochTick) hnext
  · exact congrArg (·.lastStepTick) hnext
  · rw [hnext]
    change ahead (c.executor.due c.executor.anchor) c.executor.controlEpochTick ≤
      ahead e.event.tick c.executor.controlEpochTick
    have hanchor := h.anchorDue
    omega
  · intro s hs
    rw [hnext] at hs
    have hs : s ∈ c.executor.queue.head? := hs
    simp [hdrained] at hs

theorem RatedRunning.held (h : RatedRunning start epoch last t)
    (hclock : onClock start t.clock e) (hgrid : onGrid t.clock e)
    (hrunning : t.clock.executor.diagnostics.state = .running) (hcall : e.call = .step)
    (hdrained : t.clock.executor.queue = [])
    (hreports : output t.clock.executor e.event = some t.clock.executor.anchor.positionUrad)
    (hnext : (t.next e).clock.executor = recordOutput (ticked t.clock.executor e.event.tick)
      t.clock.executor.anchor.positionUrad) :
    RatedRunning start epoch e.time (t.next e) := by
  have hway : OnWay start epoch e.time (t.clock.next e) :=
    h.onWay.held hclock hgrid hrunning hcall hdrained hnext
  have hqueue : (t.next e).clock.executor.queue = [] := by
    rw [hnext]
    exact hdrained
  refine ⟨hway.paced, hway.anchorDue, hway.approach, ?_⟩
  intro sent hsent
  rw [Traced.outputs_reports (opens_of_running hrunning) hreports, List.getLast?_append] at hsent
  cases hsent
  refine ⟨nextStep_step hgrid hrunning hcall, rfl, ?_, ?_, ?_⟩
  · intro _
    rw [hnext]
    rfl
  · intro s hs
    simp [hqueue] at hs
  · intro s hs
    simp [hqueue] at hs

theorem OnWay.applied_zero (h : OnWay start epoch last c) (hclock : onClock start c e)
    (hgrid : onGrid c e) (hrunning : c.executor.diagnostics.state = .running)
    (hcall : e.call = .step) (hqueue : c.executor.queue = sample :: rest)
    (hdue : ¬ After (c.executor.due sample) e.event.tick)
    (hnext : (c.next e).executor = applyFirstSample (ticked c.executor e.event.tick)
      sample (e.event.tick - c.executor.due sample)) :
    ahead (c.next e).executor.lastStepTick ((c.next e).executor.due (c.next e).executor.anchor) =
      0 := by
  have hs : sample ∈ c.executor.queue.head? := by simp [hqueue]
  have htick := head_due h.paced (h.approach sample hs).upcoming hclock hgrid hrunning hcall hdue
  rw [hnext]
  change ahead e.event.tick (c.executor.due sample) = 0
  rw [htick, Serial.ahead_self]

theorem OnWay.applied (h : OnWay start epoch last c) (hclock : onClock start c e)
    (hgrid : onGrid c e) (hrunning : c.executor.diagnostics.state = .running)
    (hcall : e.call = .step) (hqueue : c.executor.queue = sample :: rest)
    (hdue : ¬ After (c.executor.due sample) e.event.tick)
    (hnext : (c.next e).executor = applyFirstSample (ticked c.executor e.event.tick)
      sample (e.event.tick - c.executor.due sample))
    (hfollowing : ∀ s ∈ rest.head?, Approach (c.next e).executor s) :
    OnWay start epoch e.time (c.next e) := by
  have hzero := h.applied_zero hclock hgrid hrunning hcall hqueue hdue hnext
  have hrest : (c.next e).executor.queue = rest := by
    rw [hnext]
    exact congrArg List.tail hqueue
  refine ⟨h.paced.stepped hclock hgrid hrunning hcall ?_ ?_, ?_, ?_⟩
  · exact congrArg (·.controlEpochTick) hnext
  · exact congrArg (·.lastStepTick) hnext
  · rw [Serial.eq_of_ahead_eq_zero hzero]
  · rw [hrest]
    exact hfollowing

theorem OnWay.applied_nears (h : OnWay start epoch last c) (hclock : onClock start c e)
    (hgrid : onGrid c e) (hrunning : c.executor.diagnostics.state = .running)
    (hcall : e.call = .step) (hqueue : c.executor.queue = sample :: rest)
    (hdue : ¬ After (c.executor.due sample) e.event.tick)
    (hnext : (c.next e).executor = applyFirstSample (ticked c.executor e.event.tick)
      sample (e.event.tick - c.executor.due sample))
    (hfollowing : ∀ s ∈ rest.head?, Approach (c.next e).executor s) :
    Nears (c.next e).executor sample.positionUrad := by
  have hway := h.applied hclock hgrid hrunning hcall hqueue hdue hnext hfollowing
  have hzero := h.applied_zero hclock hgrid hrunning hcall hqueue hdue hnext
  have hanchor : (c.next e).executor.anchor = sample := by
    rw [hnext]
    rfl
  rw [← hanchor]
  exact nears_of_anchor (fun s hs =>
    ⟨hway.approach s hs, hway.span_pos (hway.approach s hs).upcoming⟩) hzero

theorem RatedRunning.applied (h : RatedRunning start epoch last t)
    (hclock : onClock start t.clock e) (hgrid : onGrid t.clock e)
    (hsound : Sound t.clock.executor)
    (hcontinuous : List.IsChain (Continuous t.clock.executor.session.policy)
      t.clock.executor.queue)
    (hrunning : t.clock.executor.diagnostics.state = .running) (hcall : e.call = .step)
    (hqueue : t.clock.executor.queue = sample :: rest)
    (hdue : ¬ After (t.clock.executor.due sample) e.event.tick)
    (hreports : output t.clock.executor e.event = some sample.positionUrad)
    (hnext : (t.next e).clock.executor = applyFirstSample (ticked t.clock.executor e.event.tick)
      sample (e.event.tick - t.clock.executor.due sample)) :
    RatedRunning start epoch e.time (t.next e) := by
  have hs : sample ∈ t.clock.executor.queue.head? := by simp [hqueue]
  have hup := (h.approach sample hs).upcoming
  have htick := head_due h.paced hup hclock hgrid hrunning hcall hdue
  have hpolicy := (hsound.isOpen (Or.inr hrunning)).2
  have horder := hsound.inOrder
  rw [hqueue] at horder hcontinuous
  have hfollowing : ∀ s ∈ rest.head?, Approach (t.clock.next e).executor s := by
    intro s hs'
    rw [show (t.clock.next e).executor = _ from hnext]
    exact approach_following h.paced hclock hgrid hrunning hcall hpolicy hup htick
      ((List.isChain_cons.mp horder).1 s hs') ((List.isChain_cons.mp hcontinuous).1 s hs')
  have hway := h.onWay.applied hclock hgrid hrunning hcall hqueue hdue hnext hfollowing
  have hnears := h.onWay.applied_nears hclock hgrid hrunning hcall hqueue hdue hnext hfollowing
  refine ⟨hway.paced, hway.anchorDue, hway.approach, ?_⟩
  intro sent hsent
  rw [Traced.outputs_reports (opens_of_running hrunning) hreports, List.getLast?_append] at hsent
  cases hsent
  refine ⟨nextStep_step hgrid hrunning hcall, rfl, hnears.drained, hnears.near, ?_⟩
  intro s _
  rw [hnext]
  exact Or.inl rfl

variable {batch : Batch}

/-- The first sample behind an empty queue is that of the batch. -/
theorem Batch.eq_firstSample {s : Setpoint} (h : s ∈ batch.samples.head?) :
    s = batch.firstSample := by
  rw [Batch.firstSample, List.headD_eq_head?_getD, h, Option.getD_some]

variable {payload : List Byte}

theorem OnWay.appended (h : OnWay start epoch last c) (hclock : onClock start c e)
    (hgrid : onGrid c e) (hrunning : c.executor.diagnostics.state = .running)
    (hcall : e.call = .admitBatch payload .append)
    (hadmits : Admits c.executor payload .append e.event.tick batch)
    (hbatch : admittedBatch c.executor e.event = some (.append, batch))
    (hok : reappendsInRate c.executor e.event)
    (hnext : (c.next e).executor =
      admitted c.executor batch .append e.event.tick hadmits.accepts.fits) :
    OnWay start epoch last (c.next e) := by
  have hisStep : e.call.isStep = false := by
    rw [hcall]
    rfl
  have hqueue : (c.next e).executor.queue = c.executor.queue ++ batch.samples := by
    rw [hnext]
    rfl
  refine ⟨h.paced.kept hclock hgrid hrunning hisStep ?_ ?_, ?_, ?_⟩
  · exact congrArg (·.controlEpochTick) hnext
  · exact congrArg (·.lastStepTick) hnext
  · rw [hnext]
    exact h.anchorDue
  · intro s hs
    rw [hqueue, List.head?_append] at hs
    rw [hnext]
    cases hempty : c.executor.queue with
    | nil =>
      rw [hempty] at hs
      obtain ⟨hup, hrate⟩ := hok hrunning hempty _ hbatch
      rw [Batch.eq_firstSample hs]
      exact ⟨hup, fun joint => (hrate joint).1⟩
    | cons head tail =>
      have hs' : s ∈ c.executor.queue.head? := by
        rw [hempty] at hs ⊢
        exact hs
      exact ⟨(h.approach s hs').upcoming, (h.approach s hs').rate⟩

/-- An APPEND behind a queue leaves the segment; one to an empty queue begins the next. -/
theorem Nears.appended (hnears : Nears c.executor outputUrad) (h : OnWay start epoch last c)
    (hrunning : c.executor.diagnostics.state = .running)
    (hadmits : Admits c.executor payload .append e.event.tick batch)
    (hbatch : admittedBatch c.executor e.event = some (.append, batch))
    (hok : reappendsInRate c.executor e.event)
    (hnext : (c.next e).executor =
      admitted c.executor batch .append e.event.tick hadmits.accepts.fits) :
    Nears (c.next e).executor outputUrad := by
  have hqueue : (c.next e).executor.queue = c.executor.queue ++ batch.samples := by
    rw [hnext]
    rfl
  have hwayEq : (c.next e).executor.onTheWay = c.executor.onTheWay := by
    rw [hnext]
    rfl
  cases hempty : c.executor.queue with
  | nil =>
    obtain ⟨hup, hrate⟩ := hok hrunning hempty _ hbatch
    have hstill := hnears.drained hempty
    rw [hempty, List.nil_append] at hqueue
    refine ⟨?_, ?_⟩
    · intro hnil
      exact absurd (hqueue.symm.trans hnil) hadmits.accepts.decoded.nonempty
    · intro s hs joint
      rw [hqueue] at hs
      rw [Batch.eq_firstSample hs, hwayEq, hnext, hstill]
      exact (onTheWay_from_anchor (h.span_pos hup) joint).mpr (hrate joint).2
  | cons head tail =>
    have hhead : (c.next e).executor.queue.head? = c.executor.queue.head? := by
      rw [hqueue, hempty]
      rfl
    refine ⟨?_, ?_⟩
    · intro hnil
      rw [hqueue, hempty] at hnil
      cases hnil
    · rw [hhead, hwayEq, hnext]
      exact hnears.near

theorem RatedRunning.admitted (h : RatedRunning start epoch last t)
    (hclock : onClock start t.clock e) (hgrid : onGrid t.clock e)
    (hrunning : t.clock.executor.diagnostics.state = .running)
    (hcall : e.call = .admitBatch payload .append)
    (hadmits : Admits t.clock.executor payload .append e.event.tick batch)
    (hbatch : admittedBatch t.clock.executor e.event = some (.append, batch))
    (hok : reappendsInRate t.clock.executor e.event)
    (hsilent : output t.clock.executor e.event = none)
    (hnext : (t.next e).clock.executor =
      admitted t.clock.executor batch .append e.event.tick hadmits.accepts.fits) :
    RatedRunning start epoch last (t.next e) := by
  have hway := h.onWay.appended hclock hgrid hrunning hcall hadmits hbatch hok hnext
  have hisStep : e.call.isStep = false := by
    rw [hcall]
    rfl
  have hqueue : (t.next e).clock.executor.queue = t.clock.executor.queue ++ batch.samples := by
    rw [hnext]
    rfl
  refine ⟨hway.paced, hway.anchorDue, hway.approach, ?_⟩
  intro sent hsent
  rw [Traced.outputs_silent (opens_of_running hrunning) hsilent] at hsent
  obtain ⟨hstep, htime, hsegment⟩ := h.latest sent hsent
  have hnears : Nears (t.next e).clock.executor sent.outputUrad :=
    hsegment.nears.appended h.onWay hrunning hadmits hbatch hok hnext
  refine ⟨(nextStep_other (e := e) hrunning hisStep).trans hstep, htime, hnears.drained,
    hnears.near, ?_⟩
  cases hempty : t.clock.executor.queue with
  | nil =>
    intro s _
    rw [hnext]
    exact Or.inl (hsegment.drained hempty)
  | cons head tail =>
    have hhead : (t.next e).clock.executor.queue.head? = t.clock.executor.queue.head? := by
      rw [hqueue, hempty]
      rfl
    rw [hhead, hnext]
    exact hsegment.here

/-- A start begins the first segment. -/
theorem OnWay.started {position : Joints} (hnow : start ≤ c.now) (hsound : Sound c.executor)
    (hclock : onClock start c e) (hcall : e.call = .start position)
    (hstarts : Starts c.executor e.event.tick position) (hok : startsInRate c.executor e.event)
    (hnext : (c.next e).executor = started c.executor e.event.tick position) :
    OnWay start e.time e.time (c.next e) := by
  have hoffset : ahead e.event.tick e.event.tick + 4 < 2 ^ 32 := by simp
  refine ⟨Paced.started hnow hclock hstarts.priming hnext, ?_, ?_⟩
  · rw [hnext]
    change ahead (firstControlTickAtOrAfter e.event.tick e.event.tick) e.event.tick ≤
      ahead e.event.tick e.event.tick
    rw [ahead_firstControlTick hoffset, Serial.ahead_self]
  · intro s hs
    rw [hnext] at hs ⊢
    have hfirst : s = c.executor.firstSample := by
      have hs : c.executor.queue.head? = some s := hs
      rw [firstSample, List.headD_eq_head?_getD, hs, Option.getD_some]
    rw [hfirst]
    exact approach_start hsound hstarts (hok (starts_of_call hcall hstarts))

/-- The stream that is started has reported nothing yet. -/
theorem RatedRunning.started {position : Joints} (hrated : Rated start t)
    (hclock : onClock start t.clock e) (hcall : e.call = .start position)
    (hstarts : Starts t.clock.executor e.event.tick position)
    (hok : startsInRate t.clock.executor e.event)
    (hsilent : output t.clock.executor e.event = none)
    (hnext : (t.next e).clock.executor = started t.clock.executor e.event.tick position) :
    RatedRunning start e.time e.time (t.next e) := by
  have hopens : opens t.clock.executor e.event = false := by
    simp [opens, show e.event.call = .start position from hcall]
  have hway := OnWay.started hrated.began hrated.sound hclock hcall hstarts hok hnext
  refine ⟨hway.paced, hway.anchorDue, hway.approach, ?_⟩
  intro sent hsent
  rw [Traced.outputs_silent hopens hsilent, hrated.fresh hstarts.priming] at hsent
  cases hsent

theorem onTheWay_quiet (hanchor : (c.next e).executor.anchor = c.executor.anchor)
    (hepoch : (c.next e).executor.controlEpochTick = c.executor.controlEpochTick) :
    (c.next e).executor.onTheWay = c.executor.onTheWay := by
  funext s joint elapsed
  rw [onTheWay, span, due, due, hanchor,
    hepoch]
  rfl

section Quiet

variable (hsession : (c.next e).executor.session = c.executor.session)
  (hanchor : (c.next e).executor.anchor = c.executor.anchor)
  (hepoch : (c.next e).executor.controlEpochTick = c.executor.controlEpochTick)
  (hlast : (c.next e).executor.lastStepTick = c.executor.lastStepTick)
include hsession hanchor hepoch hlast

/-- A call that touches neither the session, the anchor nor the grid. -/
theorem OnWay.quiet (h : OnWay start epoch last c) (hclock : onClock start c e)
    (hgrid : onGrid c e) (hrunning : c.executor.diagnostics.state = .running)
    (hcall : e.call.isStep = false) : OnWay start epoch last (c.next e) := by
  have hqueue : (c.next e).executor.queue = c.executor.queue :=
    congrArg (·.validatedSamples.samples) hsession
  have hdue : (c.next e).executor.due = c.executor.due := by
    funext s
    rw [StreamExecutor.due, hepoch]
  have hspan : (c.next e).executor.span = c.executor.span := by
    funext s
    rw [StreamExecutor.span, hdue, hanchor]
    rfl
  have hdistance : (c.next e).executor.distance = c.executor.distance := by
    funext s joint
    rw [distance, hanchor]
    rfl
  refine ⟨h.paced.kept hclock hgrid hrunning hcall hepoch hlast, ?_, ?_⟩
  · rw [hdue, hanchor, hepoch, hlast]
    exact h.anchorDue
  · intro s hs
    rw [hqueue] at hs
    obtain ⟨hup, hrate⟩ := h.approach s hs
    refine ⟨?_, ?_⟩
    · rwa [hdue, hlast]
    · rwa [hdistance, hspan, hsession]

theorem Nears.quiet (h : Nears c.executor outputUrad) : Nears (c.next e).executor outputUrad := by
  have hqueue : (c.next e).executor.queue = c.executor.queue :=
    congrArg (·.validatedSamples.samples) hsession
  have hway := onTheWay_quiet hanchor hepoch
  refine ⟨?_, ?_⟩
  · rw [hqueue, hanchor]
    exact h.drained
  · rw [hqueue, hway, hlast, due, hepoch, hanchor, hsession]
    exact h.near

end Quiet

theorem RatedRunning.quiet (h : RatedRunning start epoch last t)
    (hclock : onClock start t.clock e) (hgrid : onGrid t.clock e)
    (hrunning : t.clock.executor.diagnostics.state = .running) (hcall : e.call.isStep = false)
    (hsilent : output t.clock.executor e.event = none)
    (hsession : (t.next e).clock.executor.session = t.clock.executor.session)
    (hanchor : (t.next e).clock.executor.anchor = t.clock.executor.anchor)
    (hepoch : (t.next e).clock.executor.controlEpochTick = t.clock.executor.controlEpochTick)
    (hlast : (t.next e).clock.executor.lastStepTick = t.clock.executor.lastStepTick) :
    RatedRunning start epoch last (t.next e) := by
  have hway := h.onWay.quiet hsession hanchor hepoch hlast hclock hgrid hrunning hcall
  have hqueue : (t.next e).clock.executor.queue = t.clock.executor.queue :=
    congrArg (·.validatedSamples.samples) hsession
  refine ⟨hway.paced, hway.anchorDue, hway.approach, ?_⟩
  intro sent hsent
  rw [Traced.outputs_silent (opens_of_running hrunning) hsilent] at hsent
  obtain ⟨hstep, htime, hsegment⟩ := h.latest sent hsent
  have hnears : Nears (t.next e).clock.executor sent.outputUrad :=
    hsegment.nears.quiet hsession hanchor hepoch hlast
  refine ⟨(nextStep_other (e := e) hrunning hcall).trans hstep, htime, hnears.drained,
    hnears.near, ?_⟩
  have hwayEq : (t.next e).clock.executor.onTheWay = t.clock.executor.onTheWay :=
    onTheWay_quiet hanchor hepoch
  rw [hqueue, hwayEq, hlast, due, hepoch, hanchor]
  exact hsegment.here

/-- What leaves the executor RUNNING leaves it on a segment slow enough. -/
theorem ratedRunning_next (h : Rated start t) (hclock : onClock start t.clock e)
    (hgrid : onGrid t.clock e) (happend : e.call.isSplice = false)
    (hok : inRate t.clock.executor e.event)
    (hrunning : (t.next e).clock.executor.diagnostics.state = .running) :
    ∃ epoch last, RatedRunning start epoch last (t.next e) := by
  obtain ⟨hstartsOk, hreappendsOk, -⟩ := hok
  have hstays := (next_outcome t.clock.executor e.event).staysRunning h.sound hrunning
  generalize hnext : next t.clock.executor e.event = executor at hstays
  have hexecutor : (t.next e).clock.executor = executor := hnext
  cases hstays with
  | started position call starts silent =>
    exact ⟨_, _, .started h hclock call starts hstartsOk silent hexecutor⟩
  | admitted payload kind batch call running admits admitted_ silent =>
    obtain ⟨epoch, last, hrated⟩ := h.running running
    cases kind with
    | append =>
      exact ⟨_, _, hrated.admitted hclock hgrid running call admits admitted_ hreappendsOk silent
        hexecutor⟩
    | splice =>
      rw [show e.call = .admitBatch payload .splice from call] at happend
      cases happend
  | held call running drained reports =>
    obtain ⟨epoch, last, hrated⟩ := h.running running
    exact ⟨_, _, hrated.held hclock hgrid running call drained reports hexecutor⟩
  | applied sample rest call running queued due reports =>
    obtain ⟨epoch, last, hrated⟩ := h.running running
    exact ⟨_, _, hrated.applied hclock hgrid h.sound h.queue running call queued due reports
      hexecutor⟩
  | interpolated sample rest call running queued still span within reports =>
    obtain ⟨epoch, last, hrated⟩ := h.running running
    exact ⟨_, _, hrated.interpolated hclock hgrid running call queued still within reports
      hexecutor⟩
  | quiet _ call running session anchor epochSame lastSame silent =>
    obtain ⟨epoch, last, hrated⟩ := h.running running
    subst hexecutor
    exact ⟨_, _, hrated.quiet hclock hgrid running call silent session anchor epochSame lastSame⟩

/-- The queue stays continuous when only APPENDs edit it. -/
theorem continuous_next {event : Event} (hsound : Sound executor)
    (hqueue : List.IsChain (Continuous executor.session.policy) executor.queue)
    (happend : event.call.isSplice = false) :
    List.IsChain (Continuous (next executor event).session.policy) (next executor event).queue := by
  rcases (next_outcome executor event).queue with
    ⟨payload, kind, batch, hadmits, hadmitted, hsame, hpolicy⟩ | ⟨hsuffix, hpolicy⟩ | hempty
  · rw [hsame, hpolicy]
    obtain ⟨payload', hcall⟩ := admittedBatch_kind hadmitted
    cases kind with
    | splice =>
      rw [hcall] at happend
      cases happend
    | append =>
      refine List.isChain_append.mpr ⟨hqueue, hadmits.accepts.transition.continuous, ?_⟩
      intro tail htail first hfirst
      have hsample : batch.firstSample = first := by
        rw [Batch.firstSample, List.headD_eq_head?_getD, hfirst, Option.getD_some]
      rw [← hsample]
      exact hadmits.continuous_tail (hsound.isOpen hadmits.live).2 htail
  · rw [hpolicy]
    exact hqueue.suffix hsuffix
  · rw [hempty]
    exact List.isChain_nil

/-- **Every event that keeps the rate keeps the invariant.** -/
theorem rated_next (h : Rated start t) (hclock : onClock start t.clock e)
    (hgrid : onGrid t.clock e) (happend : e.call.isSplice = false)
    (hok : inRate t.clock.executor e.event) : Rated start (t.next e) where
  began := h.began.trans hclock.1
  sound := sound_next e.event h.sound
  queue := continuous_next h.sound h.queue happend
  chain := by
    cases hopens : opens t.clock.executor e.event with
    | true => simp [Traced.next, hopens]
    | false =>
      have houtcome := next_outcome t.clock.executor e.event
      have hpolicy : (t.next e).clock.executor.session.policy =
          t.clock.executor.session.policy := houtcome.policy hopens
      rw [hpolicy]
      cases hreports : output t.clock.executor e.event with
      | none =>
        rw [Traced.outputs_silent hopens hreports]
        exact h.chain
      | some outputUrad =>
        rw [Traced.outputs_reports hopens hreports]
        obtain ⟨hcall, hrunning, result, hstep⟩ := houtcome.reports hreports
        obtain ⟨epoch, last, hrated⟩ := h.running hrunning
        refine List.isChain_append.mpr ⟨h.chain, List.isChain_singleton _, ?_⟩
        intro sent hsent new hnew
        cases hnew
        obtain ⟨hstepTime, htime, -⟩ := hrated.latest sent hsent
        have hnow := step_time hgrid hrunning hcall
        have hfive : e.time = sent.time + 5 := by omega
        refine ⟨by simp [hfive], fun joint => ?_⟩
        have hnear := output_near hrated hclock hgrid hcall hok.2.2 hstep hsent joint
        simp only [hfive, Nat.add_sub_cancel_left]
        exact Nat.mul_le_mul_right 5 hnear
  fresh := by
    intro hpriming
    rcases (next_outcome t.clock.executor e.event).priming hpriming with
      hopens | ⟨hbefore, hsilent⟩
    · simp [Traced.next, hopens]
    · cases hopens : opens t.clock.executor e.event with
      | true => simp [Traced.next, hopens]
      | false =>
        rw [Traced.outputs_silent hopens hsilent]
        exact h.fresh hbefore
  running := ratedRunning_next h hclock hgrid happend hok

end Step

/-! ## 5. What a run keeps -/

/-- **The rate bound.**  In an append-only run on a true clock, with a step on every control tick,
whose starts, re-appends and timeouts are in rate, any two outputs of one stream differ on every
joint by at most the step for every control tick between them. -/
theorem outputs_within_rate {hardCaps : StreamHardCaps} {jointLimits : JointLimits}
    {initial : StreamExecutor} (hinit : streamExecutorInit hardCaps jointLimits = .ok initial)
    (start : Nat) (events : List TimedCall) (happend : ∀ e ∈ events, e.call.isSplice = false)
    (hclock : Along Clocked.next (onClock start) (Clocked.begin initial start) events)
    (hgrid : Along Clocked.next onGrid (Clocked.begin initial start) events)
    (hrate : Along Clocked.next (fun c e => inRate c.executor e.event)
      (Clocked.begin initial start) events) :
    (run Traced.next (Traced.begin initial start) events).clock.executor =
      after initial (events.map TimedCall.event) ∧
    (run Traced.next (Traced.begin initial start) events).outputs.Pairwise
      (WithinRate (after initial (events.map TimedCall.event)).session.policy) := by
  obtain ⟨hstate, -, -, hsession, -⟩ := streamExecutorInit_ok hinit
  have hbegin : Rated start (Traced.begin initial start) := by
    refine ⟨Nat.le_refl _, sound_init hinit, ?_, List.isChain_nil, fun _ => rfl, ?_⟩
    · simp [Traced.begin, Clocked.begin, queue, hsession, streamSessionInit]
    · intro hrunning
      simp [Traced.begin, Clocked.begin, hstate] at hrunning
  have halong := along_and.mpr ⟨hclock, along_and.mpr ⟨hgrid,
    along_and.mpr ⟨along_of_forall (fun _ e he => happend e he) _, hrate⟩⟩⟩
  have hinv : Rated start (run Traced.next (Traced.begin initial start) events) :=
    run_invariant (fun _ _ h hok => rated_next h hok.1 hok.2.1 hok.2.2.1 hok.2.2.2)
      events hbegin ((along_map Traced.clock (fun _ _ => rfl) _ events).mpr halong)
  have hexecutor : (run Traced.next (Traced.begin initial start) events).clock.executor =
      after initial (events.map TimedCall.event) := by
    rw [Traced.clock_run]
    exact Clocked.executor_run (Clocked.begin initial start) events
  refine ⟨hexecutor, ?_⟩
  rw [← hexecutor]
  have htrans : IsTrans Sent (WithinRate (run Traced.next (Traced.begin initial start)
      events).clock.executor.session.policy) := ⟨fun _ _ _ => WithinRate.trans⟩
  exact List.isChain_iff_pairwise.mp hinv.chain

/-- A stream on the bench that runs empty and goes on from where it holds, at the full rate. -/
def Bench.heldRun : List TimedCall :=
  [⟨100, .openStream (openPayload 1 0 100)⟩, ⟨100, .admitBatch (batchPayload 0 0 [(120, 0)]) .append⟩,
    ⟨100, .start fun _ => 0⟩, ⟨100, .step⟩, ⟨105, .step⟩, ⟨110, .step⟩, ⟨115, .step⟩,
    ⟨120, .step⟩, ⟨120, .admitBatch (batchPayload 0 0 [(140, 36000)]) .append⟩, ⟨125, .step⟩,
    ⟨130, .step⟩]

theorem outputs_within_rate_bench :
    (run Traced.next (Traced.begin Bench.executor 100) Bench.heldRun).outputs.Pairwise
      (WithinRate
        (after Bench.executor (Bench.heldRun.map TimedCall.event)).session.policy) :=
  (outputs_within_rate Bench.executor_init 100 Bench.heldRun (by decide +kernel)
    (by decide +kernel) (by decide +kernel) (by decide +kernel)).2

/-- The same stream after it has held its anchor from 120 to 150, and an APPEND of a sample at 170
that is 100000 away. -/
def Bench.drainedRun : List TimedCall :=
  [⟨100, .openStream (openPayload 1 0 100)⟩, ⟨100, .admitBatch (batchPayload 0 0 [(120, 0)]) .append⟩,
    ⟨100, .start fun _ => 0⟩, ⟨100, .step⟩, ⟨105, .step⟩, ⟨110, .step⟩, ⟨115, .step⟩,
    ⟨120, .step⟩, ⟨125, .step⟩, ⟨130, .step⟩, ⟨135, .step⟩, ⟨140, .step⟩, ⟨145, .step⟩,
    ⟨150, .step⟩, ⟨150, .admitBatch (batchPayload 0 0 [(170, 100000)]) .append⟩, ⟨155, .step⟩]

/-- **The outputs jump by 70000 in one control tick**, under a policy of 9000. -/
theorem reappend_jumps :
    (∀ e ∈ Bench.drainedRun, e.call.isSplice = false) ∧
      Along Clocked.next (onClock 100) (Clocked.begin Bench.executor 100)
        Bench.drainedRun ∧
      Along Clocked.next onGrid (Clocked.begin Bench.executor 100) Bench.drainedRun ∧
      ((run Traced.next (Traced.begin Bench.executor 100)
        Bench.drainedRun).outputs.getLast?.map fun sent => (sent.time, sent.outputUrad 0)) =
          some (155, 70000) ∧
      ¬ (run Traced.next (Traced.begin Bench.executor 100)
        Bench.drainedRun).outputs.Pairwise (WithinRate
          (after Bench.executor (Bench.drainedRun.map TimedCall.event)).session.policy) := by
  refine ⟨by decide +kernel, by decide +kernel, by decide +kernel, by decide +kernel,
    by decide +kernel⟩

end MobileBimanual.Stream
