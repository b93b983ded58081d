/-
# The STOP slot of the mobile output

What the output does to the STOP slot of its router, and to the transaction on its bus.

It leaves the transaction alone, and a STOP that it queues is its own zero (`Placed`).  A poll that
finds the router inhibited always ends in `queueStop`; `poll_inhibited` says what becomes of the
slot then: a STOP in time stays, and where there is none, or one that is late, the zero is queued,
unless it was written before, or a STOP is on the bus, or the bus is faulted.
-/
import MobileBimanual.Bus.Delivery
import MobileBimanual.Mobile.SystemStop

namespace MobileBimanual.Mobile

open MobileBimanual.Stream (Byte Tick)
open MobileBimanual.Bus Router

namespace MobileOutput

/-! ## 1. What every operation leaves -/

/-- The zero that the output queues. -/
structure OwnZero (ids : MobileIds) (config : MobileOutputConfig) (job : Job) : Prop where
  pending : job.pending = true
  bytes : job.bytes = StopSystem.zeroBytes ids
  budget : job.budgetUs = config.stopBudgetUs

/-- The transaction is the same, and a STOP is the one before or the output's own. -/
structure Placed (ids : MobileIds) (o o' : MobileOutput) : Prop where
  configured : o'.configured = o.configured
  config : o'.config = o.config
  written : o'.stopWritten = o.stopWritten
  same : SameTransaction o.router o'.router
  bytes : o'.router.activeBytes = o.router.activeBytes
  slot : (o'.router.jobs .stop).pending = true →
    o'.router.jobs .stop = o.router.jobs .stop ∨ OwnZero ids o.config (o'.router.jobs .stop)

namespace Placed

variable {ids : MobileIds} {o o' o'' : MobileOutput}

theorem trans (h : Placed ids o o') (h' : Placed ids o' o'') : Placed ids o o'' where
  configured := h'.configured.trans h.configured
  config := h'.config.trans h.config
  written := h'.written.trans h.written
  same := h.same.trans h'.same
  bytes := h'.bytes.trans h.bytes
  slot hp := by
    rcases h'.slot hp with heq | hzero
    · rw [heq] at hp ⊢
      exact h.slot hp
    · rw [h.config] at hzero
      exact Or.inr hzero

/-- Only the router changes, and its STOP slot does not. -/
theorem of_undisturbed (hconfigured : o'.configured = o.configured) (hconfig : o'.config = o.config)
    (hwritten : o'.stopWritten = o.stopWritten) (h : Undisturbed o.router o'.router) :
    Placed ids o o' :=
  ⟨hconfigured, hconfig, hwritten, h.same, h.bytes, fun _ => Or.inl h.slot⟩

theorem refl (o : MobileOutput) : Placed ids o o := of_undisturbed rfl rfl rfl (.refl _)

end Placed

variable (r : Router)

theorem undisturbed_stopRouter (written : Bool) : Undisturbed r (stopRouter r written) := by
  cases written
  · exact (Undisturbed.inhibit r).trans
      ((Undisturbed.requestStop _).trans (Undisturbed.flush _))
  · exact (Undisturbed.inhibit r).trans (Undisturbed.flush _)

theorem undisturbed_stop (o : MobileOutput) (fault : OutputFault) :
    Undisturbed o.router (o.stop fault).router := by
  unfold MobileOutput.stop
  split
  · exact .refl _
  · exact undisturbed_stopRouter _ _

/-- A submission of another class leaves the STOP alone. -/
theorem undisturbed_submitWork {kind : Work} (hkind : kind ≠ .stop) (bytes : List Byte)
    (now deadline budget : Tick) :
    Undisturbed r (r.submitWork kind bytes now deadline budget).1 := by
  rcases r.submitWork_cases kind bytes now deadline budget with
    ⟨-, heq⟩ | ⟨-, heq⟩ | ⟨-, hstop, -⟩ | ⟨-, -, -, -, -, heq⟩
  · rw [heq]
    exact .refl r
  · rw [heq]
    exact .poll r now
  · exact absurd hstop hkind
  · rw [heq]
    refine (Undisturbed.poll r now).trans ⟨⟨rfl, rfl, rfl, rfl, rfl, rfl, id⟩, rfl, ?_, id⟩
    simp [fill, Function.update_of_ne hkind.symm]

/-- **Submitting a STOP** polls the bus, and fills the slot unless it is refused. -/
theorem submitStop_cases (bytes : List Byte) (now deadline budget : Tick) :
    (Undisturbed r (r.submitWork .stop bytes now deadline budget).1 ∧
      (r.submitWork .stop bytes now deadline budget).2 = false ∧
      (wellFormed bytes now deadline budget = true → (r.bus.poll now).faulted = true ∧
        (r.submitWork .stop bytes now deadline budget).1 = r.poll now)) ∨
    ((r.bus.poll now).faulted = false ∧ r.submitWork .stop bytes now deadline budget =
      ((r.poll now).inhibit.flush.requestStop.fill .stop bytes deadline budget, true)) := by
  unfold submitWork
  cases hw : wellFormed bytes now deadline budget with
  | false => exact Or.inl ⟨.refl r, rfl, nofun⟩
  | true =>
    cases hf : (r.bus.poll now).faulted with
    | false =>
      right
      simp [hf]
    | true =>
      left
      simp only [Bool.not_true, Bool.false_eq_true, if_false, poll_bus, hf, Bool.true_or,
        if_true]
      exact ⟨.poll r now, trivial, fun _ => ⟨trivial, trivial⟩⟩

/-- What is left of the transaction where a STOP is queued. -/
theorem sameTransaction_fill (bytes : List Byte) (now deadline budget : Tick) :
    SameTransaction r
      ((r.poll now).inhibit.flush.requestStop.fill .stop bytes deadline budget) :=
  (SameTransaction.poll r now).trans ⟨rfl, rfl, rfl, rfl, rfl, rfl, id⟩

theorem placed_queueStop (ids : MobileIds) (o : MobileOutput) (now : Tick) :
    Placed ids o (queueStop ids o now) := by
  have hzero : buildSyncWriteWords velocityAddress (zeroServos ids) =
      .ok (StopSystem.zeroBytes ids) := StopSystem.zeroPacket_eq ids
  unfold queueStop
  rw [hzero]
  dsimp only
  split
  · exact .refl o
  · have hcases := submitStop_cases o.router (StopSystem.zeroBytes ids) now
      (now + o.config.jobLifetimeUs) o.config.stopBudgetUs
    generalize o.router.submitWork .stop (StopSystem.zeroBytes ids) now
      (now + o.config.jobLifetimeUs) o.config.stopBudgetUs = answer at hcases ⊢
    obtain ⟨router, ok⟩ := answer
    rcases hcases with ⟨hsame, hok, -⟩ | ⟨-, heq⟩
    · obtain rfl : ok = false := hok
      exact .of_undisturbed rfl rfl rfl hsame
    · obtain ⟨rfl, rfl⟩ := Prod.mk.inj heq
      refine ⟨rfl, rfl, rfl, sameTransaction_fill _ _ _ _ _, rfl, fun _ => Or.inr ?_⟩
      exact ⟨by simp [fill], by simp [fill], by simp [fill]⟩

/-- **Every part of a poll leaves the transaction alone** and queues no STOP but the zero. -/
theorem placed_driven (ids : MobileIds) : Driven ids (Placed ids) where
  refl := Placed.refl
  trans := Placed.trans
  stop o fault := by
    unfold MobileOutput.stop
    split
    · exact .refl o
    · exact .of_undisturbed rfl rfl rfl (undisturbed_stopRouter _ _)
  drop o kind expired := by
    refine ⟨rfl, rfl, rfl, ⟨rfl, rfl, rfl, rfl, rfl, rfl, id⟩, rfl, fun hp => Or.inl ?_⟩
    obtain ⟨hne, -⟩ := drop_pending.mp hp
    simp [drop, Function.update_of_ne hne]
  schedule o schedule := .of_undisturbed rfl rfl rfl (.refl _)
  watch o now nowMs := .of_undisturbed rfl rfl rfl (.poll _ now)
  same hconfigured hconfig _ hwritten hrouter :=
    .of_undisturbed hconfigured hconfig hwritten (by rw [hrouter]; exact .refl _)
  submit o _ hkind bytes now deadline budget :=
    .of_undisturbed rfl rfl rfl (undisturbed_submitWork _ hkind bytes now deadline budget)
  queueStop o now := placed_queueStop ids o now

/-! ## 2. The sweep -/

/-- What the sweep at `now` and what follows it leave: all but the flags of a stop, and a STOP
that is not late. -/
structure Still (now : Tick) (o o' : MobileOutput) : Prop where
  configured : o'.configured = o.configured
  config : o'.config = o.config
  written : o'.stopWritten = o.stopWritten
  same : SameTransaction o.router o'.router
  bytes : o'.router.activeBytes = o.router.activeBytes
  faulted : o'.router.bus.faulted = o.router.bus.faulted
  inhibited : o.router.inhibited = true → o'.router.inhibited = true
  slot : (o.router.jobs .stop).expired now = false → o'.router.jobs .stop = o.router.jobs .stop

theorem still_stop (now : Tick) (o : MobileOutput) (fault : OutputFault) :
    Still now o (o.stop fault) := by
  have hsame := undisturbed_stopRouter o.router o.stopWritten
  unfold MobileOutput.stop
  split
  · exact ⟨rfl, rfl, rfl, .refl _, rfl, rfl, id, fun _ => rfl⟩
  · refine ⟨rfl, rfl, rfl, hsame.same, hsame.bytes, ?_, fun _ => ?_, fun _ => hsame.slot⟩
    · cases o.stopWritten <;> rfl
    · cases o.stopWritten <;> rfl

theorem still_swept (now : Tick) : Swept now (Still now) where
  refl o := ⟨rfl, rfl, rfl, .refl _, rfl, rfl, id, fun _ => rfl⟩
  trans h h' :=
    { configured := h'.configured.trans h.configured
      config := h'.config.trans h.config
      written := h'.written.trans h.written
      same := h.same.trans h'.same
      bytes := h'.bytes.trans h.bytes
      faulted := h'.faulted.trans h.faulted
      inhibited := h'.inhibited ∘ h.inhibited
      slot := fun hfresh =>
        (h'.slot (by rw [h.slot hfresh]; exact hfresh)).trans (h.slot hfresh) }
  stop := still_stop now
  drop o kind expired hexpired := by
    refine ⟨rfl, rfl, rfl, ⟨rfl, rfl, rfl, rfl, rfl, rfl, id⟩, rfl, rfl, id, fun hfresh => ?_⟩
    have hne : Work.stop ≠ kind := by
      rintro rfl
      rw [hexpired] at hfresh
      cases hfresh
    simp [drop, Function.update_of_ne hne]
  schedule _ _ := ⟨rfl, rfl, rfl, .refl _, rfl, rfl, id, fun _ => rfl⟩

/-- A late STOP is dropped first of all. -/
theorem sweepJob_stop {now : Tick} {o : MobileOutput}
    (h : (o.router.jobs .stop).expired now = true) :
    ((sweepJob now o .stop).router.jobs .stop).pending = false := by
  unfold sweepJob
  rw [if_neg (by simp [h])]
  simp [drop]

/-- **An inspection** polls the bus and empties the slot of a late STOP. -/
theorem inspect_still (o : MobileOutput) (now nowMs epoch : Tick) :
    Still now { o with router := o.router.poll now } (o.inspect now nowMs epoch).1 ∧
      ((o.router.jobs .stop).expired now = true →
        ((o.inspect now nowMs epoch).1.router.jobs .stop).pending = false) := by
  have k := still_swept now
  let watched : MobileOutput :=
    { o with
      feedbackDue := false
      availableUs := 0
      supervisor := o.supervisor.poll nowMs
      router := o.router.poll now }
  have hwatched : Still now { o with router := o.router.poll now } watched :=
    ⟨rfl, rfl, rfl, .refl _, rfl, rfl, id, fun _ => rfl⟩
  have hrest : Still now (sweepJob now watched .stop) (o.inspect now nowMs epoch).1 :=
    k.trans (k.trans (k.fold [.arm, .wheels, .lift, .feedback] _) (k.align _ epoch))
      (k.supervise _ _)
  refine ⟨k.trans hwatched (k.trans (k.sweepJob _ .stop) hrest), fun hlate => ?_⟩
  have hempty := sweepJob_stop (o := watched) hlate
  rw [hrest.slot (by simp [Job.expired, hempty])]
  exact hempty

theorem supervise_requested {o : MobileOutput} (hconfigured : o.configured = true)
    (hinhibited : o.router.inhibited = true) (window : Window) :
    (o.supervise window).stopRequested = true := by
  have hstop : ∀ {o : MobileOutput} (fault : OutputFault), o.configured = true →
      (o.stop fault).stopRequested = true := by
    intro o fault hc
    rw [MobileOutput.stop, if_neg (by simp [hc])]
  have hwindow := (still_swept 0).ite_stop window.stopRequired o .schedule
  unfold supervise
  dsimp only
  generalize (if window.stopRequired = true then o.stop .schedule else o) = opened at hwindow ⊢
  have hc := hwindow.configured.trans hconfigured
  have hi := hwindow.inhibited hinhibited
  have hrequested : (if (opened.router.bus.faulted || (!opened.stopRequested &&
      (opened.router.inhibited || opened.router.bus.stopPending))) = true
      then opened.stop .transport else opened).stopRequested = true := by
    split
    · exact hstop .transport hc
    · rename_i hkept
      simpa [hi] using fun h : opened.stopRequested = false => hkept (by simp [h, hi])
  generalize (if (opened.router.bus.faulted || (!opened.stopRequested &&
      (opened.router.inhibited || opened.router.bus.stopPending))) = true
      then opened.stop .transport else opened) = stopped at hrequested ⊢
  rw [if_neg (by simp [hrequested])]
  exact hrequested

theorem inspect_requested {o : MobileOutput} (hconfigured : o.configured = true)
    (hinhibited : o.router.inhibited = true) (now nowMs epoch : Tick) :
    (o.inspect now nowMs epoch).1.stopRequested = true := by
  have k := still_swept now
  have haligned := k.trans (k.fold [.stop, .arm, .wheels, .lift, .feedback]
    { o with
      feedbackDue := false
      availableUs := 0
      supervisor := o.supervisor.poll nowMs
      router := o.router.poll now }) (k.align _ epoch)
  exact supervise_requested (haligned.configured.trans hconfigured)
    (haligned.inhibited hinhibited) _

/-! ## 3. A poll of a stopped output -/

/-- What the checks of `init` say about the STOP's budget. -/
structure StopBudget (config : MobileOutputConfig) : Prop where
  positive : config.stopBudgetUs ≠ 0
  within : config.stopBudgetUs.toNat < config.jobLifetimeUs.toNat
  short : config.jobLifetimeUs.toNat ≤ 1000000

variable {config : MobileOutputConfig}

theorem stopBudget_of_configOk (h : configOk config = true) : StopBudget config := by
  simp only [configOk, Bool.and_eq_true, bne_iff_ne, ne_eq, decide_eq_true_eq] at h
  obtain ⟨⟨⟨⟨⟨⟨⟨⟨-, hpositive⟩, -⟩, -⟩, -⟩, -⟩, -⟩, hwithin⟩, hshort⟩ := h
  exact ⟨hpositive, BitVec.lt_def.mp hwithin, BitVec.le_def.mp hshort⟩

/-- A budget that fits into the lifetime of a job makes its submission well formed. -/
theorem wellFormed_lifetime {bytes : List Byte} {now lifetime budget : Tick}
    (hbytes : bytes.length ≠ 0 ∧ bytes.length ≤ packetMax) (hpositive : budget ≠ 0)
    (hwithin : budget.toNat < lifetime.toNat) (hshort : lifetime.toNat < 2 ^ 31) :
    wellFormed bytes now (now + lifetime) budget = true := by
  have hremaining : now + lifetime - now = lifetime := by bv_omega
  have hhalf : halfCircle.toNat = 2 ^ 31 := rfl
  unfold wellFormed
  simp only [hremaining, Bool.not_eq_true', Bool.or_eq_false_iff, beq_eq_false_iff_ne, ne_eq,
    decide_eq_false_iff_not, BitVec.not_le, Nat.not_lt]
  refine ⟨⟨⟨⟨⟨⟨hbytes.1, hbytes.2⟩, hpositive⟩, ?_⟩, ?_⟩, ?_⟩, BitVec.lt_def.mpr hwithin⟩
  · rw [BitVec.lt_def]
    omega
  · rintro rfl
    exact Nat.not_lt_zero _ hwithin
  · rw [BitVec.lt_def]
    omega

theorem zeroBytes_length (ids : MobileIds) : (StopSystem.zeroBytes ids).length = 20 := rfl

theorem wellFormed_zero (ids : MobileIds) (h : StopBudget config) (now : Tick) :
    wellFormed (StopSystem.zeroBytes ids) now (now + config.jobLifetimeUs)
      config.stopBudgetUs = true := by
  have hshort := h.short
  refine wellFormed_lifetime ?_ h.positive h.within (by omega)
  rw [zeroBytes_length]
  decide

theorem faulted_poll (bus : SharedBus) (now : Tick) :
    (bus.poll now).faulted = (bus.faulted || bus.overrun now) := by
  unfold SharedBus.poll
  split
  · rename_i hover
    simp [hover, SharedBus.faultStop]
  · rename_i hover
    simp [hover]

/-- What a poll of an inhibited output finds in the STOP slot, and leaves there. -/
inductive SlotPolled (ids : MobileIds) (o : MobileOutput) (now : Tick) (job : Job) : Prop
  | kept (pending : (o.router.jobs .stop).pending = true)
      (fresh : (o.router.jobs .stop).expired now = false) (same : job = o.router.jobs .stop)
  | filled (gone : (o.router.jobs .stop).pending = true → (o.router.jobs .stop).expired now = true)
      (unwritten : o.stopWritten = false)
      (quiet : ¬ (o.router.bus.active = true ∧ o.router.bus.owner = .stop))
      (intact : (o.router.bus.poll now).faulted = false) (zero : OwnZero ids o.config job)
  | empty (gone : (o.router.jobs .stop).pending = true → (o.router.jobs .stop).expired now = true)
      (empty : job.pending = false)
      (same : (o.router.jobs .stop).pending = false → job = o.router.jobs .stop)
      (why : o.stopWritten = true ∨ (o.router.bus.active = true ∧ o.router.bus.owner = .stop) ∨
        (o.router.bus.poll now).faulted = true)

/-- What a poll of an inhibited output leaves. -/
structure PolledShut (ids : MobileIds) (o : MobileOutput) (now : Tick) (o' : MobileOutput) : Prop where
  configured : o'.configured = o.configured
  config : o'.config = o.config
  written : o'.stopWritten = o.stopWritten
  same : SameTransaction o.router o'.router
  bytes : o'.router.activeBytes = o.router.activeBytes
  faulted : o'.router.bus.faulted = (o.router.bus.poll now).faulted
  inhibited : o'.router.inhibited = true
  slot : SlotPolled ids o now (o'.router.jobs .stop)

/-- **A poll of an inhibited output** keeps a STOP in time, and queues the zero where there is
none and it is still to be written. -/
theorem poll_inhibited {ids : MobileIds} {o : MobileOutput} (hconfigured : o.configured = true)
    (hbudget : StopBudget o.config) (hinhibited : o.router.inhibited = true)
    (now nowMs epoch : Tick) : PolledShut ids o now (MobileOutput.poll ids o now nowMs epoch) := by
  obtain ⟨hstill, hdropped⟩ := inspect_still o now nowMs epoch
  have hrequested := inspect_requested hconfigured hinhibited now nowMs epoch
  unfold MobileOutput.poll
  rw [if_neg (by simp [hconfigured])]
  generalize o.inspect now nowMs epoch = inspected at hstill hdropped hrequested ⊢
  obtain ⟨seen, window⟩ := inspected
  dsimp only at hstill hdropped hrequested ⊢
  rw [if_pos hrequested]
  have hsame : SameTransaction o.router seen.router :=
    (SameTransaction.poll o.router now).trans hstill.same
  have hfault : seen.router.bus.faulted = (o.router.bus.poll now).faulted := hstill.faulted
  have hagain : (seen.router.bus.poll now).faulted = (o.router.bus.poll now).faulted := by
    have hover : seen.router.bus.overrun now = o.router.bus.overrun now := by
      simp only [SharedBus.overrun, hsame.active, hsame.budgetUs, hsame.startedUs]
    rw [faulted_poll, hfault, hover, faulted_poll, Bool.or_assoc, Bool.or_self]
  have hunchanged : ∀ slot, SlotPolled ids o now slot → slot = seen.router.jobs .stop →
      PolledShut ids o now { seen with supervisor := seen.supervisor.stop } := by
    rintro slot hslot rfl
    exact ⟨hstill.configured, hstill.config, hstill.written, hsame, hstill.bytes, hfault,
      hstill.inhibited hinhibited, hslot⟩
  have hzero : buildSyncWriteWords velocityAddress (zeroServos ids) =
      .ok (StopSystem.zeroBytes ids) := StopSystem.zeroPacket_eq ids
  by_cases hkept : (o.router.jobs .stop).pending = true ∧ (o.router.jobs .stop).expired now = false
  · obtain ⟨hpending, hfresh⟩ := hkept
    have hslot : seen.router.jobs .stop = o.router.jobs .stop := hstill.slot hfresh
    unfold queueStop
    rw [if_pos (by simp [hslot, hpending])]
    exact hunchanged _ (.kept hpending hfresh hslot) rfl
  have hgone : (o.router.jobs .stop).pending = true → (o.router.jobs .stop).expired now = true := by
    intro hpending
    by_contra hfresh
    exact hkept ⟨hpending, by simpa using hfresh⟩
  have hslot : (o.router.jobs .stop).pending = false →
      seen.router.jobs .stop = o.router.jobs .stop :=
    fun hpending => hstill.slot (by simp [Job.expired, hpending])
  have hempty : (seen.router.jobs .stop).pending = false := by
    cases hpending : (o.router.jobs .stop).pending with
    | true => exact hdropped (hgone hpending)
    | false =>
      rw [hslot hpending]
      exact hpending
  unfold queueStop
  rw [hzero]
  dsimp only
  split
  · rename_i hrefused
    refine hunchanged _ (.empty hgone hempty hslot ?_) rfl
    simp only [hempty, Bool.or_false, Bool.or_eq_true, Bool.and_eq_true, beq_iff_eq] at hrefused
    rw [hstill.written, hsame.active, hsame.owner] at hrefused
    exact hrefused.imp_right Or.inl
  rename_i hasked
  simp only [hempty, Bool.or_false, Bool.or_eq_true, Bool.and_eq_true, beq_iff_eq, not_or,
    Bool.not_eq_true] at hasked
  obtain ⟨hunwritten, hquiet⟩ := hasked
  rw [hstill.written] at hunwritten
  rw [hsame.active, hsame.owner] at hquiet
  have hwell : wellFormed (StopSystem.zeroBytes ids) now (now + seen.config.jobLifetimeUs)
      seen.config.stopBudgetUs = true := by
    rw [hstill.config]
    exact wellFormed_zero ids hbudget now
  have hcases := submitStop_cases seen.router (StopSystem.zeroBytes ids) now
    (now + seen.config.jobLifetimeUs) seen.config.stopBudgetUs
  generalize seen.router.submitWork .stop (StopSystem.zeroBytes ids) now
    (now + seen.config.jobLifetimeUs) seen.config.stopBudgetUs = answer at hcases ⊢
  obtain ⟨router, ok⟩ := answer
  rcases hcases with ⟨hleft, hok, hrefused⟩ | ⟨hintact, heq⟩
  · obtain rfl : ok = false := hok
    have hfaulted : (o.router.bus.poll now).faulted = true := hagain ▸ (hrefused hwell).1
    have hrouter : router.bus.faulted = true :=
      hleft.same.faulted (hfault.trans hfaulted)
    have hleftEmpty : (router.jobs .stop).pending = false :=
      (congrArg Job.pending hleft.slot).trans hempty
    exact ⟨hstill.configured, hstill.config, hstill.written, hsame.trans hleft.same,
      hleft.bytes.trans hstill.bytes, hrouter.trans hfaulted.symm,
      hleft.inhibited (hstill.inhibited hinhibited),
      .empty hgone hleftEmpty (fun hp => hleft.slot.trans (hslot hp)) (Or.inr (Or.inr hfaulted))⟩
  · obtain ⟨rfl, rfl⟩ := Prod.mk.inj heq
    refine ⟨hstill.configured, hstill.config, hstill.written,
      hsame.trans (sameTransaction_fill _ _ _ _ _), hstill.bytes, hagain, rfl, ?_⟩
    refine .filled hgone hunwritten hquiet (hagain ▸ hintact) ⟨?_, ?_, ?_⟩
    · simp [fill]
    · simp [fill]
    · simp [fill, hstill.config]

end MobileOutput

end MobileBimanual.Mobile
