/-
# The schedule of the shared UART over its polls

The schedule sees a 32-bit clock; what has passed since its epoch, by that clock's count, is a
natural number that is kept beside it (`ScheduleRun.timeUs`), with the times at which it told each
kind of work to be due.

* `grant_clear`: the time it grants ends, with the guard behind it, before the arm's next slot;
* `due_spaced`: two reports of one kind lie its period apart, also where the phase is set anew
  between the polls.
-/
import MobileBimanual.Bus.Schedule
import MobileBimanual.Lib.Machine

namespace MobileBimanual.Bus

open MobileBimanual.Stream (Tick)
open Serial (ahead)
open Machine Schedule

/-! ## 1. One poll -/

namespace Schedule

variable {s : Schedule} {nowUs : Tick}

/-- The bounds that `init` checks. -/
structure Bounded (c : ScheduleConfig) : Prop where
  positive : 0 < c.armPeriodUs.toNat
  period : c.armPeriodUs.toNat ≤ 1000000
  gap : c.maximumPollGapUs.toNat ≤ c.armPeriodUs.toNat

theorem bounded_of_configOk {c : ScheduleConfig} (h : configOk c = true) : Bounded c := by
  simp only [configOk, Bool.and_eq_true, decide_eq_true_eq, bne_iff_ne, BitVec.le_def,
    maximumPeriodUs] at h
  obtain ⟨⟨⟨⟨⟨⟨⟨⟨⟨⟨⟨⟨hpositive, hperiod⟩, -⟩, -⟩, -⟩, -⟩, hgap⟩, -⟩, -⟩, -⟩, -⟩, -⟩, -⟩ := h
  refine ⟨?_, hperiod, hgap⟩
  exact Nat.pos_of_ne_zero fun hzero => hpositive (BitVec.eq_of_toNat_eq hzero)

variable {epochUs : Tick}

theorem init_spec {config : ScheduleConfig} (h : init config epochUs = some s) :
    Bounded config ∧ s.config = config ∧ s.lastPollUs = epochUs ∧ s.phaseUs = 0 ∧
      s.initialized = true := by
  unfold init at h
  split_ifs at h with hconfig
  cases h
  exact ⟨bounded_of_configOk hconfig, rfl, rfl, rfl, rfl⟩

/-- A poll that finds the schedule at work, and in time. -/
structure InTime (s : Schedule) (nowUs : Tick) : Prop where
  initialized : s.initialized = true
  working : s.faulted = false
  gap : ahead nowUs s.lastPollUs ≤ s.config.maximumPollGapUs.toNat

/-- The poll grants what is left of the period, less the guard. -/
structure Grants (s : Schedule) (w : Window) : Prop where
  clear : s.config.armReservedUs.toNat ≤ s.phaseUs.toNat
  available : w.availableUs = s.config.armPeriodUs - s.phaseUs - s.config.guardUs
  guarded : s.config.guardUs < s.config.armPeriodUs - s.phaseUs

/-- **What a poll does**: it answers that a stop is required, or lets the clock run on and then
grants nothing, or the window and what is due in it. -/
theorem poll_cases (s : Schedule) (nowUs : Tick) :
    (¬ s.InTime nowUs ∧ (s.poll nowUs).2 = stopWindow ∧
      (s.poll nowUs).1 = { s with faulted := (s.poll nowUs).1.faulted } ∧
      (s.initialized = true → (s.poll nowUs).1.faulted = true)) ∨
    (s.InTime nowUs ∧ (s.poll nowUs).1 = s.elapse nowUs ∧ (s.poll nowUs).2.availableUs = 0 ∧
      (s.poll nowUs).2.stopRequired = false ∧ ∀ kind, (s.poll nowUs).2.due kind = false) ∨
    (s.InTime nowUs ∧ (s.poll nowUs).2.stopRequired = false ∧
      (s.elapse nowUs).Grants (s.poll nowUs).2 ∧
      (∀ kind, (s.poll nowUs).2.due kind = ((s.elapse nowUs).dueInUs kind == 0)) ∧
      (s.poll nowUs).1 = { s.elapse nowUs with
        dueInUs := fun kind => if (s.elapse nowUs).dueInUs kind = 0 then period s.config kind
          else (s.elapse nowUs).dueInUs kind }) := by
  unfold poll
  dsimp only
  split_ifs with hidle hgap hreserved hguard
  · left
    simp only [Bool.or_eq_true, Bool.not_eq_true'] at hidle
    refine ⟨fun h => ?_, rfl, rfl, fun hinitialized => ?_⟩
    · rcases hidle with hidle | hidle
      · rw [h.initialized] at hidle
        cases hidle
      · rw [h.working] at hidle
        cases hidle
    · rcases hidle with hidle | hidle
      · rw [hinitialized] at hidle
        cases hidle
      · exact hidle
  · left
    refine ⟨fun h => ?_, rfl, rfl, fun _ => rfl⟩
    exact absurd h.gap (Nat.not_le.mpr (BitVec.lt_def.mp hgap))
  all_goals
    simp only [Bool.or_eq_true, Bool.not_eq_true', not_or, Bool.not_eq_false,
      Bool.not_eq_true] at hidle
    have hintime : s.InTime nowUs := ⟨hidle.1, hidle.2, BitVec.le_def.mp (BitVec.not_lt.mp hgap)⟩
  · exact Or.inr (Or.inl ⟨hintime, rfl, rfl, rfl, fun _ => rfl⟩)
  · exact Or.inr (Or.inl ⟨hintime, rfl, rfl, rfl, fun _ => rfl⟩)
  · refine Or.inr (Or.inr ⟨hintime, rfl, ⟨?_, rfl, BitVec.not_le.mp hguard⟩, fun _ => rfl, rfl⟩)
    exact BitVec.le_def.mp (BitVec.not_lt.mp hreserved)

theorem poll_frame (s : Schedule) (nowUs : Tick) :
    (s.poll nowUs).1.config = s.config ∧ (s.poll nowUs).1.initialized = s.initialized := by
  rcases poll_cases s nowUs with ⟨-, -, heq, -⟩ | ⟨-, heq, -⟩ | ⟨-, -, -, -, heq⟩ <;>
    exact ⟨(congrArg config heq).trans rfl, (congrArg initialized heq).trans rfl⟩

/-- Where no stop is required the schedule goes on. -/
theorem inTime_of_not_stopRequired (h : (s.poll nowUs).2.stopRequired = false) :
    s.InTime nowUs ∧ (s.poll nowUs).1.faulted = false ∧
      (s.poll nowUs).1.phaseUs = (s.elapse nowUs).phaseUs := by
  rcases poll_cases s nowUs with ⟨-, hwindow, -⟩ | ⟨hintime, heq, -⟩ | ⟨hintime, -, -, -, heq⟩
  · rw [hwindow] at h
    cases h
  · exact ⟨hintime, (congrArg faulted heq).trans hintime.working,
      congrArg phaseUs heq⟩
  · exact ⟨hintime, (congrArg faulted heq).trans hintime.working,
      (congrArg phaseUs heq).trans rfl⟩

theorem inTime_of_working (hinitialized : s.initialized = true)
    (h : (s.poll nowUs).1.faulted = false) : (s.poll nowUs).2.stopRequired = false := by
  rcases poll_cases s nowUs with
    ⟨-, -, -, hfaults⟩ | ⟨-, -, -, hrequired, -⟩ | ⟨-, hrequired, -⟩
  · rw [hfaults hinitialized] at h
    cases h
  · exact hrequired
  · exact hrequired

theorem elapse_phase (hbounded : Bounded s.config) (hphase : s.phaseUs < s.config.armPeriodUs)
    (hgap : ahead nowUs s.lastPollUs ≤ s.config.maximumPollGapUs.toNat) :
    (s.elapse nowUs).phaseUs.toNat =
      (s.phaseUs.toNat + ahead nowUs s.lastPollUs) % s.config.armPeriodUs.toNat := by
  obtain ⟨-, hperiod, hmaximum⟩ := hbounded
  have hbelow := BitVec.lt_def.mp hphase
  have hsum : (s.phaseUs + (nowUs - s.lastPollUs)).toNat =
      s.phaseUs.toNat + ahead nowUs s.lastPollUs := by
    rw [BitVec.toNat_add]
    exact Nat.mod_eq_of_lt (by unfold ahead at *; omega)
  change ((s.phaseUs + (nowUs - s.lastPollUs)) % s.config.armPeriodUs).toNat = _
  rw [BitVec.toNat_umod, hsum]

/-- No more is taken off than has passed. -/
theorem le_elapse_dueIn (s : Schedule) (nowUs : Tick) (kind : Periodic) :
    (s.dueInUs kind).toNat ≤ ((s.elapse nowUs).dueInUs kind).toNat + ahead nowUs s.lastPollUs := by
  change _ ≤ (if s.dueInUs kind ≤ nowUs - s.lastPollUs then (0 : Tick)
    else s.dueInUs kind - (nowUs - s.lastPollUs)).toNat + (nowUs - s.lastPollUs).toNat
  split_ifs <;> bv_omega

end Schedule

/-! ## 2. The run -/

/-- What the owner of a schedule does with it: it polls, and may set the phase anew. -/
inductive ScheduleCall where
  | poll (nowUs : Tick)
  | realign (phaseUs : Tick)

/-- The schedule, the clock as it was read last, the time since the epoch by the clock's count, and
the times at which each kind of work was told to be due, newest first. -/
structure ScheduleRun where
  schedule : Schedule
  clockUs : Tick
  timeUs : ℕ
  dueAtUs : Periodic → List ℕ

namespace ScheduleRun

def begin (s : Schedule) (epochUs : Tick) : ScheduleRun := ⟨s, epochUs, 0, fun _ => []⟩

def timeAt (r : ScheduleRun) (nowUs : Tick) : ℕ := r.timeUs + ahead nowUs r.clockUs

def step (r : ScheduleRun) : ScheduleCall → ScheduleRun
  | .poll nowUs =>
    { schedule := (r.schedule.poll nowUs).1
      clockUs := nowUs
      timeUs := r.timeAt nowUs
      dueAtUs := fun kind =>
        if (r.schedule.poll nowUs).2.due kind then r.timeAt nowUs :: r.dueAtUs kind
        else r.dueAtUs kind }
  | .realign phaseUs => { r with schedule := { r.schedule with phaseUs } }

/-! ## 3. What is due -/

/-- The times at which a kind was told to be due lie its period apart. -/
def Spaced (c : ScheduleConfig) (kind : Periodic) (times : List ℕ) : Prop :=
  times.Pairwise fun later earlier => earlier + (period c kind).toNat ≤ later

/-- The countdown of a kind runs until its period has passed since it was told to be due. -/
structure Counts (c : ScheduleConfig) (r : ScheduleRun) : Prop where
  config : r.schedule.config = c
  initialized : r.schedule.initialized = true
  clock : r.schedule.faulted = false → r.schedule.lastPollUs = r.clockUs
  spaced : ∀ kind, Spaced c kind (r.dueAtUs kind)
  next : r.schedule.faulted = false → ∀ kind, ∀ time ∈ r.dueAtUs kind,
    time + (period c kind).toNat ≤ r.timeUs + (r.schedule.dueInUs kind).toNat

variable {c : ScheduleConfig} {r : ScheduleRun} {nowUs : Tick}

/-- After a poll in time the countdowns have run on with the clock. -/
theorem Counts.elapsed (h : Counts c r) (hintime : r.schedule.InTime nowUs) (kind : Periodic) :
    ∀ time ∈ r.dueAtUs kind, time + (period c kind).toNat ≤
      r.timeAt nowUs + ((r.schedule.elapse nowUs).dueInUs kind).toNat := by
  intro time htime
  have hbefore := h.next hintime.working kind time htime
  have hcount := le_elapse_dueIn r.schedule nowUs kind
  rw [h.clock hintime.working] at hcount
  unfold timeAt
  omega

theorem Counts.step (h : Counts c r) (call : ScheduleCall) : Counts c (r.step call) := by
  cases call with
  | realign phaseUs => exact ⟨h.config, h.initialized, h.clock, h.spaced, h.next⟩
  | poll nowUs =>
    have hframe := poll_frame r.schedule nowUs
    have hconfig := hframe.1.trans h.config
    have hinitialized := hframe.2.trans h.initialized
    rcases poll_cases r.schedule nowUs with
      ⟨-, hwindow, -, hfaults⟩ | ⟨hintime, hnext, -, -, hnone⟩ |
      ⟨hintime, -, -, hdue, hnext⟩
    · have hfaulted := hfaults h.initialized
      refine ⟨hconfig, hinitialized, fun hworking => ?_, fun kind => ?_, fun hworking => ?_⟩
      · exact absurd hworking (ne_of_eq_of_ne hfaulted (by decide))
      · simp only [ScheduleRun.step, hwindow]
        exact h.spaced kind
      · exact absurd hworking (ne_of_eq_of_ne hfaulted (by decide))
    · refine ⟨hconfig, hinitialized, fun _ => ?_, fun kind => ?_, fun _ kind => ?_⟩
      · exact congrArg lastPollUs hnext
      · simp only [ScheduleRun.step, hnone kind]
        exact h.spaced kind
      · simp only [ScheduleRun.step, hnone kind, hnext]
        exact h.elapsed hintime kind
    · refine ⟨hconfig, hinitialized, fun _ => ?_, fun kind => ?_, fun _ kind => ?_⟩
      · exact congrArg lastPollUs hnext
      · simp only [ScheduleRun.step, hdue kind]
        by_cases hzero : (r.schedule.elapse nowUs).dueInUs kind = 0
        · rw [if_pos (by simpa using hzero)]
          refine List.pairwise_cons.mpr ⟨fun time htime => ?_, h.spaced kind⟩
          have hcount := h.elapsed hintime kind time htime
          rw [hzero] at hcount
          simpa using hcount
        · rw [if_neg (by simpa using hzero)]
          exact h.spaced kind
      · have hcount := h.elapsed hintime kind
        simp only [ScheduleRun.step, hdue kind, hnext]
        by_cases hzero : (r.schedule.elapse nowUs).dueInUs kind = 0
        · rw [if_pos (by simpa using hzero), if_pos hzero, h.config]
          refine List.forall_mem_cons.mpr ⟨Nat.le_refl _, fun time htime => ?_⟩
          have hpast := hcount time htime
          rw [hzero] at hpast
          have hnow : time + (period c kind).toNat ≤ r.timeAt nowUs := by simpa using hpast
          exact Nat.le_trans hnow (Nat.le_add_right _ _)
        · rw [if_neg (by simpa using hzero), if_neg hzero]
          exact hcount

variable {s : Schedule}

theorem counts_begin (h : init c epochUs = some s) : Counts c (begin s epochUs) := by
  obtain ⟨-, hconfig, hlast, -, hinitialized⟩ := init_spec h
  exact ⟨hconfig, hinitialized, fun _ => hlast, fun _ => List.Pairwise.nil, fun _ _ => nofun⟩

/-- **Each kind of work is due at most once in its period**, whatever is done to the phase. -/
theorem due_spaced (h : init c epochUs = some s) (calls : List ScheduleCall)
    (kind : Periodic) : Spaced c kind ((run step (begin s epochUs) calls).dueAtUs kind) := by
  have hcounts : Counts c (run step (begin s epochUs) calls) :=
    run_invariant_all (fun _ call hcounts => hcounts.step call) calls (counts_begin h)
  exact hcounts.spaced kind

/-! ## 4. What is granted -/

/-- The phase is the time since the epoch, modulo the arm's period. -/
structure InPhase (c : ScheduleConfig) (r : ScheduleRun) : Prop where
  counts : Counts c r
  phase : r.schedule.faulted = false → r.schedule.phaseUs.toNat = r.timeUs % c.armPeriodUs.toNat

/-- A poll in time finds the phase where the clock is. -/
theorem InPhase.elapsed (h : InPhase c r) (hbounded : Bounded c)
    (hintime : r.schedule.InTime nowUs) :
    (r.schedule.elapse nowUs).phaseUs.toNat = r.timeAt nowUs % c.armPeriodUs.toNat := by
  have hphase := h.phase hintime.working
  have hbelow : r.schedule.phaseUs < r.schedule.config.armPeriodUs := by
    rw [BitVec.lt_def, hphase, h.counts.config]
    exact Nat.mod_lt _ hbounded.positive
  have hsum := elapse_phase (h.counts.config ▸ hbounded) hbelow hintime.gap
  rw [h.counts.clock hintime.working, h.counts.config, hphase, Nat.mod_add_mod] at hsum
  exact hsum

theorem InPhase.poll (h : InPhase c r) (hbounded : Bounded c) (nowUs : Tick) :
    InPhase c (r.step (.poll nowUs)) := by
  refine ⟨h.counts.step (.poll nowUs), fun hworking => ?_⟩
  rcases poll_cases r.schedule nowUs with
    ⟨-, -, -, hfaults⟩ | ⟨hintime, hnext, -⟩ | ⟨hintime, -, -, -, hnext⟩
  · exact absurd hworking (ne_of_eq_of_ne (hfaults h.counts.initialized) (by decide))
  · exact (congrArg (fun s : Schedule => s.phaseUs.toNat) hnext).trans
      (h.elapsed hbounded hintime)
  · exact (congrArg (fun s : Schedule => s.phaseUs.toNat) hnext).trans
      (h.elapsed hbounded hintime)

theorem inPhase_begin (h : init c epochUs = some s) : InPhase c (begin s epochUs) := by
  refine ⟨counts_begin h, fun _ => ?_⟩
  obtain ⟨-, -, -, hphase, -⟩ := init_spec h
  change s.phaseUs.toNat = 0 % _
  rw [hphase, Nat.zero_mod]
  rfl

/-- Where the arm's next slot begins. -/
def nextArm (c : ScheduleConfig) (timeUs : ℕ) : ℕ :=
  (timeUs / c.armPeriodUs.toNat + 1) * c.armPeriodUs.toNat

/-- A window lies behind the arm's present slot and, with the guard, before the next. -/
structure Clear (c : ScheduleConfig) (timeUs : ℕ) (w : Window) : Prop where
  behind : c.armReservedUs.toNat ≤ timeUs % c.armPeriodUs.toNat
  before : timeUs + w.availableUs.toNat + c.guardUs.toNat ≤ nextArm c timeUs

theorem clear_of_phase {w : Window} {timeUs : ℕ} (hbounded : Bounded c)
    (hconfig : s.config = c) (hphase : s.phaseUs.toNat = timeUs % c.armPeriodUs.toNat)
    (h : s.Grants w) : Clear c timeUs w := by
  obtain ⟨hclear, havailable, hguarded⟩ := h
  rw [hconfig] at hclear havailable hguarded
  rw [hphase] at hclear
  have hmod := Nat.mod_lt timeUs hbounded.positive
  have hdivmod := Nat.div_add_mod timeUs c.armPeriodUs.toNat
  have hends : w.availableUs.toNat + c.guardUs.toNat + s.phaseUs.toNat = c.armPeriodUs.toNat := by
    rw [havailable]
    bv_omega
  refine ⟨hclear, ?_⟩
  rw [nextArm, Nat.add_mul, Nat.one_mul, Nat.mul_comm]
  omega

/-- **Granted time never reaches the arm's next slot**: at every poll of a run, what is granted is
nothing or ends, with the guard behind it, before that slot. -/
theorem grant_clear (h : init c epochUs = some s) (polls : List Tick) (nowUs : Tick) :
    let r := run step (begin s epochUs) (polls.map .poll)
    (r.schedule.poll nowUs).2.availableUs ≠ 0 →
      Clear c (r.timeAt nowUs) (r.schedule.poll nowUs).2 := by
  intro r hgranted
  have hbounded := (init_spec h).1
  have hinphase : InPhase c r := by
    rw [show r = run (fun r nowUs => r.step (.poll nowUs)) (begin s epochUs) polls from
      run_map ScheduleCall.poll (begin s epochUs) polls]
    exact run_invariant_all (fun _ nowUs hphase => hphase.poll hbounded nowUs) polls
      (inPhase_begin h)
  rcases poll_cases r.schedule nowUs with
    ⟨-, hwindow, -⟩ | ⟨-, -, hnothing, -⟩ | ⟨hintime, -, hgrants, -⟩
  · rw [hwindow] at hgranted
    exact absurd rfl hgranted
  · exact absurd hnothing hgranted
  · have hconfig : (r.schedule.elapse nowUs).config = c := hinphase.counts.config
    exact clear_of_phase hbounded hconfig (hinphase.elapsed hbounded hintime) hgrants

end ScheduleRun

end MobileBimanual.Bus
