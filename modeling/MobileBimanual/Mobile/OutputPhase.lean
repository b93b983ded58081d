/-
# The phase of the mobile output

Each poll of the output sets the phase of its schedule by the epoch of the arm's interrupt, such
that the schedule's own count, from its last poll to this one, brings it to the time since that
epoch (`realigned_phase`).  An epoch that lies a period back or more stops the output instead, and
a stopped output uses no phase at all (`phase_used`).
-/
import MobileBimanual.Bus.ScheduleRun
import MobileBimanual.Mobile.OutputStop

namespace MobileBimanual.Mobile

open MobileBimanual.Stream (Byte Tick)
open MobileBimanual.Bus
open Serial (ahead)
open Machine MobileOutput Schedule

namespace MobileOutput

/-! ## 1. What leaves the schedule alone -/

structure SameClock (o o' : MobileOutput) : Prop where
  schedule : o'.schedule = o.schedule
  config : o'.config = o.config

namespace SameClock

variable {o o' o'' : MobileOutput}

theorem refl (o : MobileOutput) : SameClock o o := ⟨rfl, rfl⟩

theorem trans (h : SameClock o o') (h' : SameClock o' o'') : SameClock o o'' :=
  ⟨h'.schedule.trans h.schedule, h'.config.trans h.config⟩

theorem stop (o : MobileOutput) (fault : OutputFault) : SameClock o (o.stop fault) := by
  unfold MobileOutput.stop
  split
  · exact refl o
  · exact ⟨rfl, rfl⟩

theorem ite_stop (c : Bool) (o : MobileOutput) (fault : OutputFault) :
    SameClock o (if c then o.stop fault else o) := by
  cases c
  · exact refl o
  · exact stop o fault

theorem queueStop (ids : MobileIds) (o : MobileOutput) (now : Tick) :
    SameClock o (queueStop ids o now) := by
  unfold MobileOutput.queueStop
  split
  · exact refl o
  · split
    · exact ⟨rfl, rfl⟩
    · split <;> exact ⟨rfl, rfl⟩

theorem halt (ids : MobileIds) (o : MobileOutput) (fault : OutputFault) (now : Tick) :
    SameClock o (halt ids o fault now) :=
  (stop o fault).trans (queueStop ids _ now)

theorem queueJob (ids : MobileIds) (o : MobileOutput) (job : VelocityJob) (lifetime now : Tick) :
    SameClock o (queueJob ids o job lifetime now).1 := by
  unfold MobileOutput.queueJob
  split
  · exact halt ids o .queue now
  · split
    · exact halt ids o .queue now
    · split
      · exact ⟨rfl, rfl⟩
      · refine SameClock.trans ?_ (halt ids _ .queue now)
        exact ⟨rfl, rfl⟩

theorem queueDue (ids : MobileIds) (o : MobileOutput) (window : Window) (lifting : Bool)
    (lifetime now : Tick) :
    SameClock o (queueDue ids o window lifting lifetime now) := by
  unfold MobileOutput.queueDue
  dsimp only
  split_ifs
  · exact (queueJob ids o _ lifetime now).trans (queueJob ids _ _ lifetime now)
  · exact queueJob ids o _ lifetime now
  · exact queueJob ids o _ lifetime now
  · exact refl o

theorem command (ids : MobileIds) (o : MobileOutput) (window : Window) (lifting : Bool)
    (now nowMs : Tick) : SameClock o (command ids o window lifting now nowMs) := by
  unfold MobileOutput.command
  split
  · exact refl o
  · split
    · exact halt ids o .commandExpiring now
    · exact queueDue ids o window lifting _ now

theorem lead (ids : MobileIds) (o : MobileOutput) (window : Window) (now nowMs : Tick) :
    SameClock o (lead ids o window now nowMs) := by
  unfold MobileOutput.lead
  split
  · have hpolled : SameClock o { o with liftEngaged := true, endpoint := o.endpoint.poll nowMs } :=
      ⟨rfl, rfl⟩
    refine hpolled.trans ?_
    dsimp only
    split
    · exact halt ids _ .transport now
    · exact command ids _ window true now nowMs
  · exact command ids o window false now nowMs

theorem drive (ids : MobileIds) (o : MobileOutput) (window : Window) (now nowMs : Tick) :
    SameClock o (drive ids o window now nowMs) := by
  unfold MobileOutput.drive
  dsimp only
  have hwindow : SameClock o
      { o with availableUs := window.availableUs, feedbackDue := window.due .feedback } :=
    ⟨rfl, rfl⟩
  refine hwindow.trans ?_
  split_ifs
  · refine SameClock.trans ?_ (lead ids _ window now nowMs)
    exact ⟨rfl, rfl⟩
  · exact halt ids _ .ok now
  · exact lead ids _ window now nowMs

theorem sweepJob (now : Tick) (o : MobileOutput) (kind : Work) :
    SameClock o (sweepJob now o kind) := by
  unfold MobileOutput.sweepJob
  dsimp only
  split
  · exact refl o
  · split
    · exact ⟨rfl, rfl⟩
    · refine SameClock.trans ?_ (stop _ .queue)
      exact ⟨rfl, rfl⟩

theorem fold (now : Tick) : ∀ (kinds : List Work) (o : MobileOutput),
    SameClock o (kinds.foldl (MobileOutput.sweepJob now) o) := by
  intro kinds
  induction kinds with
  | nil => exact refl
  | cons kind kinds ih => exact fun o => (sweepJob now o kind).trans (ih _)

theorem supervise (o : MobileOutput) (window : Window) : SameClock o (o.supervise window) :=
  ((ite_stop _ o .schedule).trans (ite_stop _ _ .transport)).trans (ite_stop _ _ .ok)

theorem completed (ids : MobileIds) (o : MobileOutput) (kind : Work) (nowMs : Tick) :
    SameClock o (o.completed ids kind nowMs) := by
  unfold MobileOutput.completed
  split
  · exact refl o
  · exact ⟨rfl, rfl⟩

theorem bindLift (o : MobileOutput) : SameClock o o.bindLift.1 := by
  unfold MobileOutput.bindLift
  split
  · exact refl o
  · exact ⟨rfl, rfl⟩

end SameClock

/-! ## 2. A poll -/

/-- The schedule set to the arm's epoch, if that lies within a period. -/
def realigned (c : ScheduleConfig) (s : Schedule) (nowUs armEpochUs : Tick) : Schedule :=
  if nowUs - armEpochUs < c.armPeriodUs then
    { s with
      phaseUs := (nowUs - armEpochUs + c.armPeriodUs -
        (nowUs - s.lastPollUs) % c.armPeriodUs) % c.armPeriodUs }
  else s

variable {ids : MobileIds} {o : MobileOutput} {nowUs nowMs armEpochUs : Tick}

theorem align_schedule (o : MobileOutput) (nowUs armEpochUs : Tick) :
    (o.align nowUs armEpochUs).1.schedule =
      ((realigned o.config.schedule o.schedule nowUs armEpochUs).poll nowUs).1 ∧
    (o.align nowUs armEpochUs).2 =
      ((realigned o.config.schedule o.schedule nowUs armEpochUs).poll nowUs).2 ∧
    (o.align nowUs armEpochUs).1.config = o.config := by
  have hstop := SameClock.ite_stop (decide (o.config.schedule.armPeriodUs ≤ nowUs - armEpochUs)) o
    .schedule
  simp only [decide_eq_true_eq] at hstop
  unfold align
  dsimp only
  rw [hstop.schedule]
  exact ⟨rfl, rfl, hstop.config⟩

theorem inspect_schedule (o : MobileOutput) (nowUs nowMs armEpochUs : Tick) :
    (o.inspect nowUs nowMs armEpochUs).1.schedule =
      ((realigned o.config.schedule o.schedule nowUs armEpochUs).poll nowUs).1 ∧
    (o.inspect nowUs nowMs armEpochUs).2 =
      ((realigned o.config.schedule o.schedule nowUs armEpochUs).poll nowUs).2 ∧
    (o.inspect nowUs nowMs armEpochUs).1.config = o.config := by
  unfold inspect
  dsimp only
  generalize hwatched : ({ o with
      feedbackDue := false
      availableUs := 0
      supervisor := o.supervisor.poll nowMs
      router := o.router.poll nowUs } : MobileOutput) = watched
  have hsame : SameClock o watched := by
    subst hwatched
    exact ⟨rfl, rfl⟩
  have hswept : SameClock o (watched.sweep nowUs) := hsame.trans (SameClock.fold nowUs _ watched)
  obtain ⟨hschedule, hwindow, hconfig⟩ := align_schedule (watched.sweep nowUs) nowUs armEpochUs
  rw [hswept.schedule, hswept.config] at hschedule hwindow
  rw [hswept.config] at hconfig
  have hlast := SameClock.supervise ((watched.sweep nowUs).align nowUs armEpochUs).1
    ((watched.sweep nowUs).align nowUs armEpochUs).2
  exact ⟨hlast.schedule.trans hschedule, hwindow, hlast.config.trans hconfig⟩

/-- **The schedule after a poll** is the realigned one, polled. -/
theorem poll_schedule (hconfigured : o.configured = true) (nowUs nowMs armEpochUs : Tick) :
    (o.poll ids nowUs nowMs armEpochUs).schedule =
      ((realigned o.config.schedule o.schedule nowUs armEpochUs).poll nowUs).1 ∧
    (o.poll ids nowUs nowMs armEpochUs).config = o.config := by
  obtain ⟨hschedule, -, hconfig⟩ := inspect_schedule o nowUs nowMs armEpochUs
  unfold poll
  rw [if_neg (by simp [hconfigured])]
  dsimp only
  split
  · have hlast := SameClock.queueStop ids { (o.inspect nowUs nowMs armEpochUs).1 with
      supervisor := (o.inspect nowUs nowMs armEpochUs).1.supervisor.stop } nowUs
    exact ⟨hlast.schedule.trans hschedule, hlast.config.trans hconfig⟩
  · have hlast := SameClock.drive ids (o.inspect nowUs nowMs armEpochUs).1
      (o.inspect nowUs nowMs armEpochUs).2 nowUs nowMs
    exact ⟨hlast.schedule.trans hschedule, hlast.config.trans hconfig⟩

/-! ## 3. The phase -/

section Phase

variable {c : ScheduleConfig} {s : Schedule}

theorem realigned_frame (c : ScheduleConfig) (s : Schedule) (nowUs armEpochUs : Tick) :
    (realigned c s nowUs armEpochUs).config = s.config ∧
      (realigned c s nowUs armEpochUs).initialized = s.initialized ∧
      (realigned c s nowUs armEpochUs).lastPollUs = s.lastPollUs := by
  unfold realigned
  split <;> exact ⟨rfl, rfl, rfl⟩

/-- The phase that is set falls short of the time since the epoch by what the poll will count. -/
theorem toNat_realigned_phase (hbounded : Bounded c)
    (hwithin : nowUs - armEpochUs < c.armPeriodUs) :
    (realigned c s nowUs armEpochUs).phaseUs.toNat =
      (ahead nowUs armEpochUs + c.armPeriodUs.toNat -
        ahead nowUs s.lastPollUs % c.armPeriodUs.toNat) % c.armPeriodUs.toNat := by
  have hperiod := hbounded.period
  have hbelow : (nowUs - armEpochUs).toNat < c.armPeriodUs.toNat := BitVec.lt_def.mp hwithin
  have hmod : ((nowUs - s.lastPollUs) % c.armPeriodUs).toNat < c.armPeriodUs.toNat := by
    rw [BitVec.toNat_umod]
    exact Nat.mod_lt _ hbounded.positive
  have hsum : (nowUs - armEpochUs + c.armPeriodUs -
      (nowUs - s.lastPollUs) % c.armPeriodUs).toNat =
      (nowUs - armEpochUs).toNat + c.armPeriodUs.toNat -
        ((nowUs - s.lastPollUs) % c.armPeriodUs).toNat := by
    bv_omega
  unfold realigned
  rw [if_pos hwithin, BitVec.toNat_umod, hsum, BitVec.toNat_umod]
  rfl

/-- **The phase of a realigned schedule**, once polled, is the time since the epoch. -/
theorem realigned_phase (hbounded : Bounded c) (hconfig : s.config = c)
    (hwithin : nowUs - armEpochUs < c.armPeriodUs)
    (hintime : (realigned c s nowUs armEpochUs).InTime nowUs) :
    ((realigned c s nowUs armEpochUs).elapse nowUs).phaseUs.toNat =
      ahead nowUs armEpochUs % c.armPeriodUs.toNat := by
  obtain ⟨hsame, -, hlast⟩ := realigned_frame c s nowUs armEpochUs
  have hphase := @toNat_realigned_phase nowUs armEpochUs c s hbounded hwithin
  have hsame : (realigned c s nowUs armEpochUs).config = c := hsame.trans hconfig
  have hpos := hbounded.positive
  have hbelow : (realigned c s nowUs armEpochUs).phaseUs <
      (realigned c s nowUs armEpochUs).config.armPeriodUs := by
    rw [BitVec.lt_def, hphase, hsame]
    exact Nat.mod_lt _ hpos
  have hbounds : Bounded (realigned c s nowUs armEpochUs).config := by
    rw [hsame]
    exact hbounded
  have hcount := elapse_phase hbounds hbelow hintime.gap
  rw [hsame, hlast, hphase, Nat.mod_add_mod] at hcount
  have hrest := Nat.mod_lt (ahead nowUs s.lastPollUs) hpos
  have hdivmod := Nat.div_add_mod (ahead nowUs s.lastPollUs) c.armPeriodUs.toNat
  have hregroup : ahead nowUs armEpochUs + c.armPeriodUs.toNat -
      ahead nowUs s.lastPollUs % c.armPeriodUs.toNat + ahead nowUs s.lastPollUs =
      ahead nowUs armEpochUs + c.armPeriodUs.toNat +
        c.armPeriodUs.toNat * (ahead nowUs s.lastPollUs / c.armPeriodUs.toNat) := by
    omega
  rw [hregroup, Nat.add_mul_mod_self_left, Nat.add_mod_right] at hcount
  exact hcount

/-- The schedule of an output is the one it was set up with. -/
structure Scheduled (c : ScheduleConfig) (o : MobileOutput) : Prop where
  latched : Latched o
  bounded : Bounded c
  config : o.config.schedule = c
  schedule : o.schedule.config = c
  initialized : o.schedule.initialized = true

theorem Scheduled.same {o' : MobileOutput} (h : Scheduled c o) (hlatched : Latched o')
    (hsame : SameClock o o') : Scheduled c o' where
  latched := hlatched
  bounded := h.bounded
  config := by rw [hsame.config, h.config]
  schedule := by rw [hsame.schedule, h.schedule]
  initialized := by rw [hsame.schedule, h.initialized]

theorem rearm_schedule (o : MobileOutput) (session epochUs nowMs : Tick) (confirmed : Bool) :
    SameClock o (o.rearm session epochUs nowMs confirmed).1 ∨
      (o.rearm session epochUs nowMs confirmed).1.config = o.config ∧
      ∃ schedule, Schedule.init o.config.schedule epochUs = some schedule ∧
        (o.rearm session epochUs nowMs confirmed).1.schedule = schedule := by
  unfold rearm
  split
  · exact Or.inl (.refl o)
  · split
    · exact Or.inl (.refl o)
    · rename_i schedule hinit
      split
      · exact Or.inl ⟨rfl, rfl⟩
      · split
        · exact Or.inl ⟨rfl, rfl⟩
        · exact Or.inr ⟨rfl, schedule, hinit, rfl⟩

theorem Scheduled.step (h : Scheduled c o) (e : OutputEvent) : Scheduled c (o.step ids e) := by
  have hlatched : Latched (o.step ids e) := h.latched.step e
  cases e with
  | poll nowUs nowMs armEpochUs =>
    obtain ⟨hschedule, hconfig⟩ :=
      @poll_schedule ids o h.latched.configured nowUs nowMs armEpochUs
    obtain ⟨hsame, hinitialized, -⟩ :=
      realigned_frame o.config.schedule o.schedule nowUs armEpochUs
    obtain ⟨hsame', hinitialized'⟩ :=
      poll_frame (realigned o.config.schedule o.schedule nowUs armEpochUs) nowUs
    refine ⟨hlatched, h.bounded, ?_, ?_, ?_⟩
    · exact (congrArg MobileOutputConfig.schedule hconfig).trans h.config
    · exact (congrArg Schedule.config hschedule).trans (hsame'.trans (hsame.trans h.schedule))
    · exact (congrArg Schedule.initialized hschedule).trans
        (hinitialized'.trans (hinitialized.trans h.initialized))
  | router call => exact h.same hlatched ⟨rfl, rfl⟩
  | completed kind ms => exact h.same hlatched (.completed ids o kind ms)
  | stop fault => exact h.same hlatched (.stop o fault)
  | rearm session epochUs nowMs confirmed =>
    rcases rearm_schedule o session epochUs nowMs confirmed with
      hsame | ⟨hconfig, schedule, hinit, hschedule⟩
    · exact h.same hlatched hsame
    · obtain ⟨-, hset, -, -, hinitialized⟩ := init_spec hinit
      refine ⟨hlatched, h.bounded, ?_, ?_, ?_⟩
      · exact (congrArg MobileOutputConfig.schedule hconfig).trans h.config
      · exact (congrArg Schedule.config hschedule).trans (hset.trans h.config)
      · exact (congrArg Schedule.initialized hschedule).trans hinitialized
  | bindLift => exact h.same hlatched (.bindLift o)
  | world supervisor endpoint => exact h.same hlatched ⟨rfl, rfl⟩

theorem scheduled_init {supervisor : MobileSupervisor} {endpoint : LiftEndpoint}
    {config : MobileOutputConfig} {epochUs : Tick}
    (h : init supervisor endpoint config epochUs = some o) : Scheduled config.schedule o := by
  have hlatched := latched_init h
  unfold init at h
  split_ifs at h
  obtain ⟨schedule, hinit, rfl⟩ := Option.map_eq_some_iff.mp h
  obtain ⟨hbounded, hset, -, -, hinitialized⟩ := init_spec hinit
  exact ⟨hlatched, hbounded, rfl, hset, hinitialized⟩

/-! ## 4. An output that goes on -/

theorem stop_requested (hconfigured : o.configured = true) (fault : OutputFault) :
    (o.stop fault).stopRequested = true := by
  rw [stop, if_neg (by simp [hconfigured])]

/-- What stops on the way through a poll is stopped at its end. -/
theorem poll_requested (hconfigured : o.configured = true)
    (h : (o.inspect nowUs nowMs armEpochUs).1.stopRequested = true) :
    (o.poll ids nowUs nowMs armEpochUs).stopRequested = true := by
  unfold poll
  rw [if_neg (by simp [hconfigured])]
  dsimp only
  rw [if_pos h]
  exact (Progress.queueStop _ nowUs).requested h

theorem supervise_goes_on (ids : MobileIds) {window : Window} (hconfigured : o.configured = true)
    (h : (o.supervise window).stopRequested = false) :
    window.stopRequired = false ∧ o.stopRequested = false := by
  have hswept := (@Progress.driven ids).toKept.swept 0
  constructor
  · by_contra hrequired
    rw [Bool.not_eq_false] at hrequired
    have hopens : o.supervise window =
        (o.stop .schedule).supervise { window with stopRequired := false } := by
      unfold supervise
      rw [if_pos hrequired]
      rfl
    have hstopped := (hswept.supervise (o.stop .schedule)
      { window with stopRequired := false }).requested (stop_requested hconfigured .schedule)
    rw [← hopens, h] at hstopped
    cases hstopped
  · by_contra hrequested
    rw [Bool.not_eq_false] at hrequested
    have hstopped := (hswept.supervise o window).requested hrequested
    rw [h] at hstopped
    cases hstopped

theorem align_goes_on (hconfigured : o.configured = true)
    (h : (o.align nowUs armEpochUs).1.stopRequested = false) :
    nowUs - armEpochUs < o.config.schedule.armPeriodUs := by
  by_contra hlate
  rw [BitVec.not_lt] at hlate
  unfold align at h
  dsimp only at h
  rw [if_pos hlate, stop_requested hconfigured] at h
  cases h

/-- **A poll that does not stop the output** was in time, and within a period of the epoch. -/
theorem poll_goes_on (hscheduled : Scheduled c o)
    (h : (o.poll ids nowUs nowMs armEpochUs).stopRequested = false) :
    nowUs - armEpochUs < c.armPeriodUs ∧
      (o.poll ids nowUs nowMs armEpochUs).schedule.faulted = false := by
  have hconfigured := hscheduled.latched.configured
  have hinspect : (o.inspect nowUs nowMs armEpochUs).1.stopRequested = false := by
    by_contra hrequested
    rw [poll_requested hconfigured (by simpa using hrequested)] at h
    cases h
  obtain ⟨-, hwindow, -⟩ := inspect_schedule o nowUs nowMs armEpochUs
  have hswept := (@Progress.driven ids).toKept.swept nowUs
  unfold inspect at hinspect hwindow
  dsimp only at hinspect hwindow
  generalize hwatched : ({ o with
      feedbackDue := false
      availableUs := 0
      supervisor := o.supervisor.poll nowMs
      router := o.router.poll nowUs } : MobileOutput) = watched at hinspect hwindow
  have hwatchedc : watched.configured = true := by
    subst hwatched
    exact hconfigured
  have hwatchedp : watched.config = o.config := by
    subst hwatched
    rfl
  have hsweptc : (watched.sweep nowUs).configured = true :=
    (hswept.fold _ watched).configured.trans hwatchedc
  have hsweptp : (watched.sweep nowUs).config = o.config :=
    (SameClock.fold nowUs _ watched).config.trans hwatchedp
  have halignedc := (hswept.align (watched.sweep nowUs) armEpochUs).configured.trans hsweptc
  obtain ⟨hrequired, haligned⟩ := supervise_goes_on ids halignedc hinspect
  have hwithin := align_goes_on hsweptc haligned
  rw [hsweptp, hscheduled.config] at hwithin
  refine ⟨hwithin, ?_⟩
  rw [(@poll_schedule ids o hconfigured nowUs nowMs armEpochUs).1]
  rw [hwindow] at hrequired
  exact (inTime_of_not_stopRequired hrequired).2.1

/-- The phase that a poll uses, and the window that it gives out by it. -/
structure UsesPhase (ids : MobileIds) (c : ScheduleConfig) (o : MobileOutput)
    (nowUs nowMs armEpochUs : Tick) : Prop where
  /-- Realigned, the phase is the time since the arm's epoch. -/
  phase : nowUs - armEpochUs < c.armPeriodUs →
    (o.poll ids nowUs nowMs armEpochUs).schedule.faulted = false →
      (o.poll ids nowUs nowMs armEpochUs).schedule.phaseUs.toNat =
        ahead nowUs armEpochUs % c.armPeriodUs.toNat
  /-- The output goes on with no other phase. -/
  used : (o.poll ids nowUs nowMs armEpochUs).stopRequested = false →
    nowUs - armEpochUs < c.armPeriodUs ∧
      (o.poll ids nowUs nowMs armEpochUs).schedule.faulted = false
  /-- What it grants in that phase ends before the arm's next slot. -/
  window : nowUs - armEpochUs < c.armPeriodUs →
    (o.inspect nowUs nowMs armEpochUs).2.availableUs ≠ 0 →
      ScheduleRun.Clear c (ahead nowUs armEpochUs) (o.inspect nowUs nowMs armEpochUs).2

theorem Scheduled.usesPhase (h : Scheduled c o) (nowUs nowMs armEpochUs : Tick) :
    UsesPhase ids c o nowUs nowMs armEpochUs := by
  obtain ⟨hsame, hinitialized, -⟩ := realigned_frame c o.schedule nowUs armEpochUs
  have hconfig := hsame.trans h.schedule
  have hpoll := (@poll_schedule ids o h.latched.configured nowUs nowMs armEpochUs).1
  have hinspect := (inspect_schedule o nowUs nowMs armEpochUs).2.1
  rw [h.config] at hpoll hinspect
  refine ⟨fun hwithin hworking => ?_, poll_goes_on h, fun hwithin hgranted => ?_⟩
  · rw [hpoll] at hworking ⊢
    have hrequired := inTime_of_working (hinitialized.trans h.initialized) hworking
    obtain ⟨hintime, -, hphase⟩ := inTime_of_not_stopRequired hrequired
    rw [hphase]
    exact realigned_phase h.bounded h.schedule hwithin hintime
  · rw [hinspect] at hgranted ⊢
    rcases poll_cases (realigned c o.schedule nowUs armEpochUs) nowUs with
      ⟨-, hwindow, -⟩ | ⟨-, -, hnothing, -⟩ | ⟨hintime, -, hgrants, -⟩
    · rw [hwindow] at hgranted
      exact absurd rfl hgranted
    · exact absurd hnothing hgranted
    · have helapsed : ((realigned c o.schedule nowUs armEpochUs).elapse nowUs).config = c := hconfig
      exact ScheduleRun.clear_of_phase h.bounded helapsed
        (realigned_phase h.bounded h.schedule hwithin hintime) hgrants

end Phase

end MobileOutput

/-! ## 5. The bus and the arm -/

/-- **The bus stays out of the arm's slots.**  By the clock's count since the epoch: whatever a
schedule grants ends, with the guard, before the arm's next slot, and each kind of work is due at
most once in its period; and in every run of the mobile output the phase that a poll sets by the
arm's epoch is the time since that epoch. -/
theorem bus_schedule_safe :
    (∀ (c : ScheduleConfig) (epochUs : Tick) (s : Schedule), init c epochUs = some s →
      (∀ (polls : List Tick) (nowUs : Tick),
        let r := run ScheduleRun.step (.begin s epochUs) (polls.map .poll)
        (r.schedule.poll nowUs).2.availableUs ≠ 0 →
          ScheduleRun.Clear c (r.timeAt nowUs) (r.schedule.poll nowUs).2) ∧
      ∀ (calls : List ScheduleCall) (kind : Periodic), ScheduleRun.Spaced c kind
        ((run ScheduleRun.step (.begin s epochUs) calls).dueAtUs kind)) ∧
    ∀ (ids : MobileIds) (supervisor : MobileSupervisor) (endpoint : LiftEndpoint)
      (config : MobileOutputConfig) (epochUs : Tick) (o : MobileOutput) (events : List OutputEvent)
      (nowUs nowMs armEpochUs : Tick),
      init supervisor endpoint config epochUs = some o →
        UsesPhase ids config.schedule (run (step ids) o events)
          nowUs nowMs armEpochUs := by
  refine ⟨fun c epochUs s hinit => ⟨ScheduleRun.grant_clear hinit, ScheduleRun.due_spaced hinit⟩, ?_⟩
  intro ids supervisor endpoint config epochUs o events nowUs nowMs armEpochUs hinit
  have hscheduled : Scheduled config.schedule (run (step ids) o events) :=
    run_invariant_all (fun _ e h => h.step e) events (scheduled_init hinit)
  exact hscheduled.usesPhase nowUs nowMs armEpochUs

/-- Polled up to 1300 µs after its epoch, the bench schedule grants a window; the bench output polls
in phase. -/
theorem bus_schedule_safe_bench :
    (∃ s, init benchConfig.schedule 4294967000 = some s ∧
      ScheduleRun.Clear benchConfig.schedule 1300
        ((run ScheduleRun.step (.begin s 4294967000) [.poll 104, .poll 504]).schedule.poll
          1004).2) ∧
    UsesPhase .reference benchConfig.schedule
      (run (step .reference)
        (bench benchConfig bench_starts) []) 400 1 0 := by
  refine ⟨⟨_, rfl, ?_⟩, ?_⟩
  · exact (bus_schedule_safe.1 benchConfig.schedule 4294967000 _ rfl).1 [104, 504] 1004
      (by decide +kernel)
  · exact bus_schedule_safe.2 .reference _ _ _ 0 _ [] 400 1 0 (init_bench _)

end MobileBimanual.Mobile
