/-
# The velocity jobs of a poll

What a poll of the mobile output leaves in the WHEELS and LIFT slots of its router: nothing where
the poll stops, else in each slot what was there and is not late, or a job queued by this poll.
The lifetime of such a job is in microseconds and cut from what is left, in milliseconds and less
one, of the supervisor's command or of the lease on the lift (`Queued`).
-/
import MobileBimanual.Lib.Readings
import MobileBimanual.Mobile.OutputPoll
import MobileBimanual.Mobile.OutputStop
import MobileBimanual.Mobile.SupervisorRun

namespace MobileBimanual.Mobile

open MobileBimanual.Stream (Byte Tick)
open MobileBimanual.Bus
open Readings MobileOutput

/-- The classes of work that the output drives the motors with. -/
def IsVelocity (kind : Work) : Prop := kind = .wheels ∨ kind = .lift

theorem IsVelocity.ne_stop {kind : Work} (h : IsVelocity kind) : kind ≠ .stop := by
  rintro rfl
  rcases h with h | h <;> cases h

namespace MobileOutput

/-! ## 1. An inspection -/

/-- What an inspection leaves: the slots as they were, some of them empty, and the supervisor as
it was unless it is no longer active. -/
structure Emptied (o o' : MobileOutput) : Prop where
  configured : o'.configured = o.configured
  config : o'.config = o.config
  slots : ∀ kind, (o'.router.jobs kind).pending = true →
    o'.router.jobs kind = o.router.jobs kind
  supervised : o.supervisor.configured = true → o'.supervisor.configured = true
  active : o'.supervisor.state = .active → o'.supervisor = o.supervisor

namespace Emptied

variable {o o' o'' : MobileOutput}

theorem refl (o : MobileOutput) : Emptied o o := ⟨rfl, rfl, fun _ _ => rfl, id, fun _ => rfl⟩

theorem trans (h : Emptied o o') (h' : Emptied o' o'') : Emptied o o'' where
  configured := h'.configured.trans h.configured
  config := h'.config.trans h.config
  slots kind hp := by
    have heq := h'.slots kind hp
    rw [heq] at hp ⊢
    exact h.slots kind hp
  supervised := h'.supervised ∘ h.supervised
  active ha := by
    have heq := h'.active ha
    rw [heq] at ha ⊢
    exact h.active ha

/-- An empty slot, or one that is not late, stays so. -/
theorem expired (h : Emptied o o') {kind : Work} {now : Tick}
    (hfresh : (o.router.jobs kind).expired now = false) :
    (o'.router.jobs kind).expired now = false := by
  cases hp : (o'.router.jobs kind).pending with
  | false => simp [Job.expired, hp]
  | true =>
    rw [h.slots kind hp]
    exact hfresh

theorem stop (o : MobileOutput) (fault : OutputFault) : Emptied o (o.stop fault) := by
  have hrouter : ∀ kind, ((stopRouter o.router o.stopWritten).jobs kind).pending = true →
      (stopRouter o.router o.stopWritten).jobs kind = o.router.jobs kind := by
    intro kind hp
    obtain ⟨rfl, -⟩ := Router.flush_pending.mp hp
    exact (undisturbed_stopRouter o.router o.stopWritten).slot
  unfold MobileOutput.stop
  split
  · exact refl o
  · refine ⟨rfl, rfl, hrouter, fun hs => ?_, fun ha => ?_⟩
    · simp [MobileSupervisor.stop, MobileSupervisor.latch, hs]
    · by_cases hs : o.supervisor.configured = true
      · simp [MobileSupervisor.stop, MobileSupervisor.latch, hs] at ha
      · simp [MobileSupervisor.stop, hs]

theorem drop (o : MobileOutput) (kind : Work) (expired : Tick) :
    Emptied o { o with router := { o.router.drop kind with expiredJobs := expired } } := by
  refine ⟨rfl, rfl, fun other hp => ?_, id, fun _ => rfl⟩
  obtain ⟨hne, -⟩ := Router.drop_pending.mp hp
  exact Function.update_of_ne hne _ _

theorem swept (now : Tick) : Swept now Emptied where
  refl := refl
  trans := trans
  stop := stop
  drop o kind expired _ := drop o kind expired
  schedule _ _ := ⟨rfl, rfl, fun _ _ => rfl, id, fun _ => rfl⟩

end Emptied

/-- The sweep of a slot leaves nothing late in it. -/
theorem sweepJob_fresh (now : Tick) (o : MobileOutput) (kind : Work) :
    ((sweepJob now o kind).router.jobs kind).expired now = false := by
  unfold sweepJob
  split
  · rename_i hfresh
    simpa using hfresh
  · have hempty : ((o.router.drop kind).jobs kind).expired now = false := by
      simp [Router.drop, Job.expired]
    dsimp only
    split_ifs
    · exact hempty
    · exact hempty
    · exact (Emptied.stop _ .queue).expired hempty
    · exact (Emptied.stop _ .queue).expired hempty

theorem sweep_fresh (now : Tick) : ∀ (kinds : List Work) (o : MobileOutput), ∀ kind ∈ kinds,
    ((kinds.foldl (sweepJob now) o).router.jobs kind).expired now = false := by
  intro kinds
  induction kinds with
  | nil =>
    intro o kind hkind
    cases hkind
  | cons first kinds ih =>
    intro o kind hkind
    rw [List.foldl_cons]
    rcases List.mem_cons.mp hkind with rfl | hkind
    · exact ((Emptied.swept now).fold kinds (sweepJob now o kind)).expired
        (sweepJob_fresh now o kind)
    · exact ih (sweepJob now o first) kind hkind

/-- **An inspection** leaves no slot late, and an active supervisor with a command that runs. -/
theorem inspect_spec (o : MobileOutput) (now nowMs epoch : Tick) :
    (o.inspect now nowMs epoch).1.configured = o.configured ∧
    (o.inspect now nowMs epoch).1.config = o.config ∧
    (∀ kind, ((o.inspect now nowMs epoch).1.router.jobs kind).expired now = false) ∧
    (∀ kind, ((o.inspect now nowMs epoch).1.router.jobs kind).pending = true →
      (o.inspect now nowMs epoch).1.router.jobs kind = o.router.jobs kind) ∧
    (o.supervisor.configured = true →
      (o.inspect now nowMs epoch).1.supervisor.configured = true) ∧
    (o.supervisor.configured = true →
      (o.inspect now nowMs epoch).1.supervisor.state = .active →
        (o.inspect now nowMs epoch).1.supervisor.unexpired nowMs = true) := by
  have k := Emptied.swept now
  let watched : MobileOutput :=
    { o with
      feedbackDue := false
      availableUs := 0
      supervisor := o.supervisor.poll nowMs
      router := o.router.poll now }
  have hswept : Emptied watched (watched.sweep now) := k.fold _ _
  have hrest : Emptied (watched.sweep now) (o.inspect now nowMs epoch).1 :=
    k.trans (k.align _ epoch) (k.supervise _ _)
  have hall := hswept.trans hrest
  have hsupervised : o.supervisor.configured = true → watched.supervisor.configured = true := by
    intro hs
    rcases o.supervisor.poll_eq nowMs with heq | ⟨reason, heq⟩
    · exact (congrArg MobileSupervisor.configured heq).trans hs
    · exact (congrArg MobileSupervisor.configured heq).trans hs
  refine ⟨hall.configured, hall.config, fun kind => ?_, hall.slots, hall.supervised ∘ hsupervised,
    fun hs ha => ?_⟩
  · refine hrest.expired (sweep_fresh now _ watched kind ?_)
    cases kind <;> decide
  · have heq := hall.active ha
    rw [heq] at ha ⊢
    obtain ⟨hsame, -, -, -, hlive⟩ := MobileSupervisor.poll_live hs (Or.inr ha)
    have hkept : watched.supervisor = o.supervisor := hsame
    rw [hkept] at ha ⊢
    exact hlive ha

/-! ## 2. How long a job may live -/

/-- The time left, in milliseconds and less one, covers the lifetime. -/
def Covers (remainingMs lifetimeUs : Tick) : Prop :=
  1 < remainingMs.toNat ∧ lifetimeUs.toNat ≤ (remainingMs.toNat - 1) * 1000

variable {lifetime : Tick}

theorem cap_spec {remaining : Tick} (h : ¬ remaining ≤ 1) :
    Covers remaining (cap lifetime remaining) ∧
      (cap lifetime remaining).toNat ≤ lifetime.toNat := by
  have hone : 1 < remaining.toNat := by
    rw [BitVec.not_le, BitVec.lt_def] at h
    exact h
  have hlifetime := lifetime.isLt
  unfold cap
  split
  · rename_i hcut
    have hsmall : (BitVec.ofNat 32 ((remaining.toNat - 1) * 1000)).toNat =
        (remaining.toNat - 1) * 1000 := by
      rw [BitVec.toNat_ofNat, Nat.mod_eq_of_lt (by omega)]
    rw [Covers, hsmall]
    exact ⟨⟨hone, le_rfl⟩, hcut.le⟩
  · rename_i hcut
    exact ⟨⟨hone, not_lt.mp hcut⟩, le_rfl⟩

theorem Covers.of_le {remaining shorter : Tick} (h : Covers remaining lifetime)
    (hle : shorter.toNat ≤ lifetime.toNat) : Covers remaining shorter :=
  ⟨h.1, hle.trans h.2⟩

/-- The lifetime is covered by the command of an active supervisor and by the lease of a lift that
is driven. -/
def Allowed (o : MobileOutput) (lifting : Bool) (nowMs lifetimeUs : Tick) : Prop :=
  lifetimeUs.toNat ≤ o.config.jobLifetimeUs.toNat ∧
  (o.supervisor.state = .active →
    Covers (o.supervisor.commandValidForMs - (nowMs - o.supervisor.commandMs)) lifetimeUs) ∧
  (lifting = true → Covers (o.endpoint.validUntilMs - nowMs) lifetimeUs)

theorem allowed_of_life {o : MobileOutput} {lifting : Bool} {nowMs : Tick}
    (h : ((o.commandLife nowMs).bind fun life => o.leaseLife lifting life nowMs) = some lifetime) :
    Allowed o lifting nowMs lifetime := by
  obtain ⟨life, hlife, hlease⟩ := Option.bind_eq_some_iff.mp h
  have hcommand : life.toNat ≤ o.config.jobLifetimeUs.toNat ∧ (o.supervisor.state = .active →
      Covers (o.supervisor.commandValidForMs - (nowMs - o.supervisor.commandMs)) life) := by
    unfold commandLife at hlife
    dsimp only at hlife
    split_ifs at hlife with hactive hexpiring
    · cases hlife
      obtain ⟨hcovers, hshort⟩ := @cap_spec o.config.jobLifetimeUs _ hexpiring
      exact ⟨hshort, fun _ => hcovers⟩
    · cases hlife
      exact ⟨le_rfl, fun ha => absurd ha hactive⟩
  unfold leaseLife at hlease
  dsimp only at hlease
  split_ifs at hlease with hlifting hexpiring
  · cases hlease
    obtain ⟨hcovers, hshort⟩ := @cap_spec life _ hexpiring
    exact ⟨hshort.trans hcommand.1, fun ha => (hcommand.2 ha).of_le hshort, fun _ => hcovers⟩
  · cases hlease
    exact ⟨hcommand.1, hcommand.2, fun hl => absurd hl hlifting⟩

/-! ## 3. What a poll queues -/

/-- At this reading the command of an active supervisor runs, and so does the lease of a lift that
is driven. -/
def Live (o : MobileOutput) (nowMs : Tick) : Prop :=
  (o.supervisor.state = .active → o.supervisor.unexpired nowMs = true) ∧
    (o.liftActive = true → Open o.endpoint.leaseMaxMs (o.endpoint.validUntilMs - nowMs))

/-- The job is one of the two that the output makes of its supervisor or its lift, for the time
that they have left. -/
def Queued (ids : MobileIds) (o : MobileOutput) (nowUs nowMs : Tick) (kind : Work) (job : Job) :
    Prop :=
  job.budgetUs.toNat < (job.deadlineUs - nowUs).toNat ∧
  Allowed o o.liftActive nowMs (job.deadlineUs - nowUs) ∧
  ∃ work ∈ [o.wheelsJob o.liftActive, o.liftJob o.liftActive], work.kind = kind ∧
    motorGroupVelocities ids work.group work.velocities = .ok job.bytes

/-- What becomes of an output over a poll that may drive: it is stopped, or the velocity slots hold
what they held or what the poll queued. -/
def Fed (ids : MobileIds) (nowUs nowMs : Tick) (o o' : MobileOutput) : Prop :=
  o'.supervisor.configured = true ∧ (o'.stopRequested = true ∨
    (Live o' nowMs ∧ ∀ kind, IsVelocity kind → (o'.router.jobs kind).pending = true →
      o'.router.jobs kind = o.router.jobs kind ∨
        Queued ids o' nowUs nowMs kind (o'.router.jobs kind)))

/-- An output that can be polled. -/
structure Ready (o : MobileOutput) : Prop where
  configured : o.configured = true
  supervised : o.supervisor.configured = true

section Feed

variable {ids : MobileIds} {o : MobileOutput} {now nowMs : Tick}

theorem queueStop_supervisor (ids : MobileIds) (o : MobileOutput) (now : Tick) :
    (queueStop ids o now).supervisor = o.supervisor := by
  unfold queueStop
  split
  · rfl
  split
  · rfl
  split
  · rfl
  · rfl

theorem fed_halt (h : o.Ready) (fault : OutputFault) {o₁ : MobileOutput} :
    Fed ids now nowMs o₁ (halt ids o fault now) := by
  have hstop : (o.stop fault).stopRequested = true ∧
      (o.stop fault).supervisor.configured = true := by
    rw [stop, if_neg (by simp [h.configured])]
    exact ⟨rfl, by simp [MobileSupervisor.stop, MobileSupervisor.latch, h.supervised]⟩
  refine ⟨?_, Or.inl ((Progress.queueStop (o.stop fault) now).requested hstop.1)⟩
  rw [halt, queueStop_supervisor]
  exact hstop.2

/-- **Queuing a job** stops the output, or fills its slot. -/
theorem queueJob_cases (ids : MobileIds) (h : o.Ready) {job : VelocityJob}
    (hkind : job.kind ≠ .stop) (lifetime now : Tick) :
    ((queueJob ids o job lifetime now).2 = false ∧
      ∀ o₁ nowMs, Fed ids now nowMs o₁ (queueJob ids o job lifetime now).1) ∨
    (job.budgetUs.toNat < lifetime.toNat ∧
      ∃ packet, motorGroupVelocities ids job.group job.velocities = .ok packet ∧
        queueJob ids o job lifetime now =
          ({ o with
              router := (o.router.poll now).fill job.kind packet (now + lifetime) job.budgetUs },
            true)) := by
  unfold queueJob
  split
  · exact Or.inl ⟨rfl, fun _ _ => fed_halt h .queue⟩
  rename_i hbudget
  rw [BitVec.not_le, BitVec.lt_def] at hbudget
  split
  · exact Or.inl ⟨rfl, fun _ _ => fed_halt h .queue⟩
  rename_i packet hpacket
  rcases o.router.submitWork_cases job.kind packet now (now + lifetime) job.budgetUs with
    ⟨-, heq⟩ | ⟨-, heq⟩ | ⟨-, hstop, -⟩ | ⟨-, -, -, -, -, heq⟩
  · rw [heq]
    exact Or.inl ⟨rfl, fun _ _ => fed_halt h .queue⟩
  · rw [heq]
    have hpolled : ({ o with router := o.router.poll now } : MobileOutput).Ready :=
      ⟨h.configured, h.supervised⟩
    exact Or.inl ⟨rfl, fun _ _ => fed_halt hpolled .queue⟩
  · exact absurd hstop hkind
  · rw [heq]
    exact Or.inr ⟨hbudget, packet, hpacket, rfl⟩

theorem queued_fill (hallowed : Allowed o o.liftActive nowMs lifetime) {work : VelocityJob}
    (hwork : work ∈ [o.wheelsJob o.liftActive, o.liftJob o.liftActive])
    (hbudget : work.budgetUs.toNat < lifetime.toNat) {packet : List Byte}
    (hpacket : motorGroupVelocities ids work.group work.velocities = .ok packet) (r : Router) :
    Queued ids o now nowMs work.kind
      ((r.fill work.kind packet (now + lifetime) work.budgetUs).jobs work.kind) := by
  simp only [Router.fill, Function.update_self, Queued, add_sub_cancel_left]
  exact ⟨hbudget, hallowed, work, hwork, rfl, hpacket⟩

theorem fill_other (r : Router) {kind other : Work} (hne : other ≠ kind) (packet : List Byte)
    (deadline budget : Tick) : (r.fill kind packet deadline budget).jobs other = r.jobs other := by
  simp only [Router.fill, Function.update_of_ne hne]

/-- One of the two jobs is queued where it is due, or the output stopped. -/
theorem fed_queueJob {o' : MobileOutput} {r : Router} (hsame : o' = { o with router := r })
    (h : o.Ready) (hlive : Live o nowMs) (hallowed : Allowed o o.liftActive nowMs lifetime)
    {work : VelocityJob} (hwork : work ∈ [o.wheelsJob o.liftActive, o.liftJob o.liftActive])
    (hfed : Fed ids now nowMs o o') :
    ((queueJob ids o' work lifetime now).2 = true →
      ∃ r, (queueJob ids o' work lifetime now).1 = { o with router := r }) ∧
    Fed ids now nowMs o (queueJob ids o' work lifetime now).1 := by
  subst hsame
  have hkind : work.kind ≠ .stop := by
    rcases List.mem_pair.mp hwork with rfl | rfl
    · exact nofun
    · exact nofun
  have hready : ({ o with router := r } : MobileOutput).Ready := ⟨h.configured, h.supervised⟩
  rcases queueJob_cases ids hready hkind lifetime now with
    ⟨hno, hstopped⟩ | ⟨hbudget, packet, hpacket, heq⟩
  · exact ⟨fun hgo => absurd (hno.symm.trans hgo) Bool.false_ne_true, hstopped o nowMs⟩
  rw [heq]
  refine ⟨fun _ => ⟨_, rfl⟩, h.supervised, ?_⟩
  rcases hfed with ⟨-, hstopped | ⟨-, hslots⟩⟩
  · exact Or.inl hstopped
  refine Or.inr ⟨hlive, fun kind hvelocity hp => ?_⟩
  by_cases hown : kind = work.kind
  · subst hown
    exact Or.inr (queued_fill hallowed hwork hbudget hpacket (r.poll now))
  · have hother : ((r.poll now).fill work.kind packet (now + lifetime) work.budgetUs).jobs kind =
        r.jobs kind := fill_other (r.poll now) hown packet _ _
    have hpending : (r.jobs kind).pending = true := (congrArg Job.pending hother).symm.trans hp
    exact (hslots kind hvelocity hpending).imp hother.trans fun hqueued => by
      change Queued ids o now nowMs kind
        (((r.poll now).fill work.kind packet (now + lifetime) work.budgetUs).jobs kind)
      rw [hother]
      exact hqueued

theorem fed_refl (ids : MobileIds) (now : Tick) (h : o.Ready) (hlive : Live o nowMs) :
    Fed ids now nowMs o o :=
  ⟨h.supervised, Or.inr ⟨hlive, fun _ _ _ => Or.inl rfl⟩⟩

theorem fed_queueDue (h : o.Ready) (hlive : Live o nowMs)
    (hallowed : Allowed o o.liftActive nowMs lifetime) (window : Window) :
    Fed ids now nowMs o (queueDue ids o window o.liftActive lifetime now) := by
  have hself : o = { o with router := o.router } := rfl
  obtain ⟨hkept, hwheels⟩ := fed_queueJob hself h hlive hallowed
    (List.mem_pair.mpr (Or.inl rfl)) (fed_refl ids now h hlive)
  unfold queueDue
  dsimp only
  cases window.due .wheels with
  | false =>
    simp only [Bool.false_eq_true, if_false, Bool.true_and]
    split
    · exact (fed_queueJob hself h hlive hallowed (List.mem_pair.mpr (Or.inr rfl))
        (fed_refl ids now h hlive)).2
    · exact fed_refl ids now h hlive
  | true =>
    simp only [if_true]
    split
    · rename_i hgo
      rw [Bool.and_eq_true] at hgo
      obtain ⟨r, hr⟩ := hkept hgo.1
      exact (fed_queueJob hr h hlive hallowed (List.mem_pair.mpr (Or.inr rfl)) hwheels).2
    · exact hwheels

theorem fed_command (h : o.Ready) (hlive : Live o nowMs) (window : Window) :
    Fed ids now nowMs o (command ids o window o.liftActive now nowMs) := by
  unfold command
  split
  · exact fed_refl ids now h hlive
  split
  · exact fed_halt h .commandExpiring
  · rename_i lifetime hlife
    exact fed_queueDue h hlive (allowed_of_life hlife) window

/-- A lease that was polled and is still held runs. -/
theorem endpoint_leased {e : LiftEndpoint} (h : (e.poll nowMs).active = true) :
    Open (e.poll nowMs).leaseMaxMs ((e.poll nowMs).validUntilMs - nowMs) := by
  unfold LiftEndpoint.poll at h ⊢
  dsimp only at h ⊢
  split_ifs at h ⊢ with hidle hclosed hended
  · have hactive : e.active = true := h
    simp [hactive] at hidle
  · simp only [Bool.or_eq_true, beq_iff_eq, decide_eq_true_eq, not_or, BitVec.not_lt] at hclosed
    exact ⟨hclosed.1.1, hclosed.1.2⟩

/-- The end of a poll that drives, with a supervisor whose command runs. -/
theorem fed_lead (h : o.Ready)
    (hactive : o.supervisor.state = .active → o.supervisor.unexpired nowMs = true)
    (window : Window) : Fed ids now nowMs o (lead ids o window now nowMs) := by
  unfold lead
  split
  · rename_i hlifting
    let polled : MobileOutput := { o with liftEngaged := true, endpoint := o.endpoint.poll nowMs }
    have hpolled : polled.Ready := ⟨h.configured, h.supervised⟩
    change Fed ids now nowMs polled (if !polled.endpoint.active ||
      polled.supervisor.state = .active then halt ids polled .transport now
      else command ids polled window true now nowMs)
    split
    · exact fed_halt hpolled .transport
    · rename_i hgo
      simp only [Bool.or_eq_true, Bool.not_eq_true', decide_eq_true_eq, not_or,
        Bool.not_eq_false] at hgo
      have hdriven : polled.liftActive = true := by
        simp only [liftActive, Bool.and_eq_true] at hlifting ⊢
        exact ⟨hlifting.1, hgo.1⟩
      have hlive : Live polled nowMs := ⟨hactive, fun _ => endpoint_leased hgo.1⟩
      have hfed : Fed ids now nowMs polled
        (command ids polled window polled.liftActive now nowMs) :=
          fed_command hpolled hlive window
      rw [hdriven] at hfed
      exact hfed
  · rename_i hidle
    rw [Bool.not_eq_true] at hidle
    have hlive : Live o nowMs :=
      ⟨hactive, fun hl => absurd (hidle.symm.trans hl) Bool.false_ne_true⟩
    have hfed : Fed ids now nowMs o
      (command ids o window o.liftActive now nowMs) :=
        fed_command h hlive window
    rw [hidle] at hfed
    exact hfed

/-- A slot that was emptied before the poll fed it. -/
theorem Fed.of_emptied {o₁ o' : MobileOutput} (h : Fed ids now nowMs o₁ o')
    (hslots : ∀ kind, (o₁.router.jobs kind).pending = true →
      o₁.router.jobs kind = o.router.jobs kind) : Fed ids now nowMs o o' := by
  obtain ⟨hsupervised, hstopped | ⟨hlive, hfed⟩⟩ := h
  · exact ⟨hsupervised, Or.inl hstopped⟩
  refine ⟨hsupervised, Or.inr ⟨hlive, fun kind hkind hp => ?_⟩⟩
  rcases hfed kind hkind hp with heq | hqueued
  · rw [heq] at hp
    exact Or.inl (heq.trans (hslots kind hp))
  · exact Or.inr hqueued

theorem disengage_slots (o : MobileOutput) : ∀ kind, (o.disengage.router.jobs kind).pending = true →
    o.disengage.router.jobs kind = o.router.jobs kind := by
  intro kind hp
  obtain ⟨hlift, hp⟩ := Router.drop_pending.mp hp
  obtain ⟨hwheels, -⟩ := Router.drop_pending.mp hp
  exact (Function.update_of_ne hlift _ _).trans (Function.update_of_ne hwheels _ _)

theorem fed_drive (h : o.Ready)
    (hactive : o.supervisor.state = .active → o.supervisor.unexpired nowMs = true)
    (window : Window) : Fed ids now nowMs o (drive ids o window now nowMs) := by
  let windowed : MobileOutput :=
    { o with availableUs := window.availableUs, feedbackDue := window.due .feedback }
  have hwindowed : windowed.Ready := ⟨h.configured, h.supervised⟩
  have hdisengaged : windowed.disengage.Ready := ⟨h.configured, h.supervised⟩
  unfold drive
  dsimp only
  split
  · split
    · exact (fed_lead hdisengaged hactive window).of_emptied (disengage_slots windowed)
    · exact fed_halt hwindowed .ok
  · exact (fed_lead hwindowed hactive window).of_emptied fun _ _ => rfl

/-- **A poll** of an output with a configured supervisor: it is stopped, or its command and its
lease run, and each velocity slot holds a job that was there and is not late, or one of this
poll. -/
theorem poll_spec (ids : MobileIds) (h : o.Ready) (now nowMs epoch : Tick) :
    (poll ids o now nowMs epoch).Ready ∧
    ((poll ids o now nowMs epoch).stopRequested = true ∨
      (Live (poll ids o now nowMs epoch) nowMs ∧ ∀ kind, IsVelocity kind →
        ((poll ids o now nowMs epoch).router.jobs kind).pending = true →
          ((poll ids o now nowMs epoch).router.jobs kind = o.router.jobs kind ∧
            (o.router.jobs kind).late now = false) ∨
          Queued ids (poll ids o now nowMs epoch) now nowMs kind
            ((poll ids o now nowMs epoch).router.jobs kind))) := by
  have hconfigured : (poll ids o now nowMs epoch).configured = true :=
    (Progress.poll o now nowMs epoch).configured.trans h.configured
  obtain ⟨hseen, -, hfresh, hslots, hsupervised, hactive⟩ := inspect_spec o now nowMs epoch
  suffices hrest : (poll ids o now nowMs epoch).supervisor.configured = true ∧ _ from
    ⟨⟨hconfigured, hrest.1⟩, hrest.2⟩
  unfold poll
  rw [if_neg (by simp [h.configured])]
  generalize o.inspect now nowMs epoch = inspected at hseen hfresh hslots hsupervised hactive ⊢
  obtain ⟨seen, window⟩ := inspected
  dsimp only at hseen hfresh hslots hsupervised hactive ⊢
  have hready : seen.Ready := ⟨hseen.trans h.configured, hsupervised h.supervised⟩
  split
  · rename_i hrequested
    refine ⟨?_, Or.inl ((Progress.queueStop _ now).requested hrequested)⟩
    rw [queueStop_supervisor]
    simp [MobileSupervisor.stop, MobileSupervisor.latch, hready.supervised]
  have hdrive : Fed ids now nowMs seen (drive ids seen window now nowMs) :=
    fed_drive hready (hactive h.supervised) window
  obtain ⟨hkept, hstopped | ⟨hlive, hfed⟩⟩ := hdrive
  · exact ⟨hkept, Or.inl hstopped⟩
  refine ⟨hkept, Or.inr ⟨hlive, fun kind hkind hp => ?_⟩⟩
  rcases hfed kind hkind hp with heq | hqueued
  · left
    have hpending : (seen.router.jobs kind).pending = true := heq ▸ hp
    have hsame := hslots kind hpending
    refine ⟨heq.trans hsame, ?_⟩
    have hlate := hfresh kind
    rw [hsame] at hlate hpending
    simpa [Job.expired, hpending] using hlate
  · exact Or.inr hqueued

end Feed

end MobileOutput

end MobileBimanual.Mobile
