/-
# The lease of a task

What the executor's journal says of its lease, in every run from the constructor, against any
adapter: the lease is held while the task goes on; it is given back when every step has been proven
or when fresh feedback says that the robot has stopped; and the steps are started one after another,
none once a stop has been asked for.

`Base` holds throughout and `ByState` says what each state adds.  `Pending` is the only weaker
moment, when the executor has decided to stop and not yet asked (`confirmStop_settles`).
-/
import MobileBimanual.Tasks.Execution

namespace MobileBimanual.Tasks

open Activity Oracle Machine AdapterCall Triple

abbrev TaskJournal := Journal AdapterCall Reply

/-! ## 1. What a journal shows -/

/-- The steps that were started, in order. -/
def starts : TaskJournal → List Step
  | [] => []
  | ⟨.start _ step _, _⟩ :: journal => starts journal ++ [step]
  | _ :: journal => starts journal

/-- The adapter has been asked to stop. -/
def Asked (journal : TaskJournal) : Prop :=
  ∃ runId preserveLoad at_ reply, ⟨.requestStop runId preserveLoad at_, reply⟩ ∈ journal

/-- It was asked at this time. -/
def AskedAt (c : TaskConfig) (at_ : ℚ) (journal : TaskJournal) : Prop :=
  ∃ preserveLoad reply, ⟨.requestStop c.runId preserveLoad at_, reply⟩ ∈ journal

/-- Nothing is started after a stop was asked for. -/
def Quiet : TaskJournal → Prop
  | [] => True
  | ⟨.start .., _⟩ :: journal => ¬ Asked journal ∧ Quiet journal
  | _ :: journal => Quiet journal

/-- Observed since `earliest`, and not too long ago. -/
def Feedback.Fresh (c : TaskConfig) (feedback : Feedback) (earliest now : ℚ) : Prop :=
  ∃ stamp, feedback.observed = .finite stamp ∧ earliest ≤ stamp ∧ stamp ≤ now ∧
    now - stamp ≤ c.maxAge

/-- The step was started, and fresh feedback from it shows its success and what that requires. -/
def Proven (c : TaskConfig) (journal : TaskJournal) (step : Step) : Prop :=
  ∃ startedAt now feedback, ∃ reply : Except Raised Unit,
    ⟨.start (c.runId ++ "/" ++ step.stepId) step startedAt, reply⟩ ∈ journal ∧
    ⟨.poll (c.runId ++ "/" ++ step.stepId) step now, .ok feedback⟩ ∈ journal ∧
    feedback.goalId = c.runId ++ "/" ++ step.stepId ∧ feedback.status = .succeeded ∧
    feedback.Fresh c startedAt now ∧
    feedback.conditions.Satisfy (invariants step.skill) ∧
    feedback.conditions.Satisfy step.successRequires

/-- What the completed steps leave in the gripper. -/
def carries (steps : List Step) : Bool :=
  steps.foldl (fun carrying step =>
    if step.skill = "pick" then true else if step.skill = "place" then false else carrying) false

/-- The last thing heard is that the robot has stopped, after it was asked to. -/
def Confirmed (c : TaskConfig) (carrying : Bool) (journal : TaskJournal) : Prop :=
  ∃ now feedback before askedAt,
    journal = ⟨.pollStop c.runId now, .ok feedback⟩ :: before ∧ AskedAt c askedAt before ∧
    feedback.goalId = c.runId ∧ feedback.status = .stopped ∧ feedback.Fresh c askedAt now ∧
    feedback.conditions.Satisfy (TaskExecutor.stopRequired carrying)

/-- What holds of a task in every state it reaches. -/
structure LeaseSafe (c : TaskConfig) (e : TaskExecutor) (journal : TaskJournal) : Prop where
  config : e.config = c
  held : e.lease.owner = some c.runId ↔ ¬ e.state.Terminal
  released : e.state.Terminal → (∀ step ∈ c.plan.steps, Proven c journal step) ∨
    Confirmed c (carries (c.plan.steps.take e.index)) journal
  /-- Each step once and in order: the ids of a plan are distinct. -/
  ordered : starts journal <+: c.plan.steps
  quiet : Quiet journal

/-! ## 2. The invariant -/

structure Base (c : TaskConfig) (e : TaskExecutor) (journal : TaskJournal) : Prop where
  config : e.config = c
  done : ∀ step ∈ c.plan.steps.take e.index, Proven c journal step
  carrying : e.carrying = carries (c.plan.steps.take e.index)
  ordered : starts journal <+: c.plan.steps
  quiet : Quiet journal

/-- A step is left, and the lease is held. -/
structure Working (c : TaskConfig) (e : TaskExecutor) : Prop where
  left : e.index < c.plan.steps.length
  held : e.lease.owner = some c.runId

/-- The executor is at a step and has asked for no stop. -/
structure AtStep (c : TaskConfig) (e : TaskExecutor) (journal : TaskJournal) : Prop
    extends Working c e where
  unsent : e.stopSent = false
  unasked : ¬ Asked journal

/-- The step was started. -/
def Started (c : TaskConfig) (e : TaskExecutor) (journal : TaskJournal) : Prop :=
  starts journal = c.plan.steps.take (e.index + 1) ∧
    ∃ reply, ⟨.start e.goalId e.step e.startedAt, reply⟩ ∈ journal

def ByState (c : TaskConfig) (e : TaskExecutor) (journal : TaskJournal) : Prop :=
  match e.state with
  | .waiting => AtStep c e journal ∧ starts journal = c.plan.steps.take e.index
  | .running => AtStep c e journal ∧ Started c e journal
  | .stopping | .stopUnconfirmed => Working c e ∧ AskedAt c e.stopAt journal
  | .succeeded => e.index = c.plan.steps.length ∧ e.lease.owner ≠ some c.runId
  | .failed | .cancelled => e.lease.owner ≠ some c.runId ∧
      Confirmed c (carries (c.plan.steps.take e.index)) journal

def Inv (c : TaskConfig) (e : TaskExecutor) (journal : TaskJournal) : Prop :=
  Base c e journal ∧ ByState c e journal

theorem Inv.safe {c : TaskConfig} {e : TaskExecutor} {journal : TaskJournal}
    (h : Inv c e journal) : LeaseSafe c e journal := by
  obtain ⟨hbase, hphase⟩ := h
  have hheld : e.lease.owner = some c.runId ↔ ¬ e.state.Terminal := by
    unfold ByState at hphase
    cases hstate : e.state <;> rw [hstate] at hphase <;> dsimp only at hphase
    · exact ⟨fun _ => by decide, fun _ => hphase.1.held⟩
    · exact ⟨fun _ => by decide, fun _ => hphase.1.held⟩
    · exact ⟨fun _ => by decide, fun _ => hphase.1.held⟩
    · exact ⟨fun _ => by decide, fun _ => hphase.1.held⟩
    · exact ⟨fun h => absurd h hphase.2, fun h => absurd (.inl rfl) h⟩
    · exact ⟨fun h => absurd h hphase.1, fun h => absurd (.inr (.inl rfl)) h⟩
    · exact ⟨fun h => absurd h hphase.1, fun h => absurd (.inr (.inr rfl)) h⟩
  refine ⟨hbase.config, hheld, fun hterminal => ?_, hbase.ordered, hbase.quiet⟩
  unfold ByState at hphase
  rcases hterminal with hstate | hstate | hstate <;> rw [hstate] at hphase <;> dsimp only at hphase
  · refine .inl fun step hstep => hbase.done step ?_
    rwa [hphase.1, List.take_length]
  · exact .inr hphase.2
  · exact .inr hphase.2

/-- What the invariant does not look at may change, and the lease among those who do not hold it. -/
theorem Inv.same {c : TaskConfig} {e e' : TaskExecutor} {journal : TaskJournal}
    (h : Inv c e journal) (hconfig : e'.config = e.config) (hindex : e'.index = e.index)
    (hstate : e'.state = e.state) (hsent : e'.stopSent = e.stopSent) (hat : e'.stopAt = e.stopAt)
    (hstarted : e'.startedAt = e.startedAt) (hcarrying : e'.carrying = e.carrying)
    (hlease : e'.lease.owner = some c.runId ↔ e.lease.owner = some c.runId) :
    Inv c e' journal := by
  obtain ⟨hbase, hphase⟩ := h
  have hworking : Working c e → Working c e' := fun h => ⟨hindex ▸ h.left, hlease.mpr h.held⟩
  have hstep : AtStep c e journal → AtStep c e' journal := fun h =>
    ⟨hworking h.toWorking, hsent ▸ h.unsent, h.unasked⟩
  refine ⟨⟨hconfig ▸ hbase.config, hindex ▸ hbase.done, ?_, hbase.ordered, hbase.quiet⟩, ?_⟩
  · rw [hcarrying, hindex]
    exact hbase.carrying
  unfold ByState at hphase ⊢
  rw [hstate]
  cases hcase : e.state <;> rw [hcase] at hphase <;> dsimp only at hphase ⊢
  · exact ⟨hstep hphase.1, hindex ▸ hphase.2⟩
  · obtain ⟨hat, hstarts, reply, hmem⟩ := hphase
    refine ⟨hstep hat, hindex ▸ hstarts, reply, ?_⟩
    simp only [TaskExecutor.goalId, TaskExecutor.step] at hmem ⊢
    rwa [hconfig, hindex, hstarted]
  · exact ⟨hworking hphase.1, hat ▸ hphase.2⟩
  · exact ⟨hworking hphase.1, hat ▸ hphase.2⟩
  · exact ⟨hindex ▸ hphase.1, fun h => hphase.2 (hlease.mp h)⟩
  · exact ⟨fun h => hphase.1 (hlease.mp h), hindex ▸ hphase.2⟩
  · exact ⟨fun h => hphase.1 (hlease.mp h), hindex ▸ hphase.2⟩

/-! ## 3. Entries -/

/-- A call that neither starts nor stops. -/
def AdapterCall.Mute : AdapterCall → Prop
  | .start .. | .requestStop .. => False
  | _ => True

variable {c : TaskConfig} {e e' : TaskExecutor} {journal : TaskJournal}
  {r : Entry AdapterCall Reply}

theorem Proven.cons {step : Step} (h : Proven c journal step) :
    Proven c (r :: journal) step := by
  obtain ⟨startedAt, now, feedback, reply, hstart, hpoll, hrest⟩ := h
  exact ⟨startedAt, now, feedback, reply, List.mem_cons_of_mem _ hstart,
    List.mem_cons_of_mem _ hpoll, hrest⟩

theorem AskedAt.cons {at_ : ℚ} (h : AskedAt c at_ journal) : AskedAt c at_ (r :: journal) := by
  obtain ⟨preserveLoad, reply, hmem⟩ := h
  exact ⟨preserveLoad, reply, List.mem_cons_of_mem _ hmem⟩

theorem starts_mute (h : r.call.Mute) : starts (r :: journal) = starts journal := by
  obtain ⟨call, reply⟩ := r
  cases call <;> first | rfl | exact h.elim

theorem quiet_mute (h : r.call.Mute) : Quiet (r :: journal) ↔ Quiet journal := by
  obtain ⟨call, reply⟩ := r
  cases call <;> first | exact Iff.rfl | exact h.elim

theorem asked_mute (h : r.call.Mute) : Asked (r :: journal) ↔ Asked journal := by
  constructor
  · rintro ⟨runId, preserveLoad, at_, reply, hmem⟩
    rcases List.mem_cons.mp hmem with rfl | hmem
    · exact h.elim
    · exact ⟨runId, preserveLoad, at_, reply, hmem⟩
  · rintro ⟨runId, preserveLoad, at_, reply, hmem⟩
    exact ⟨runId, preserveLoad, at_, reply, List.mem_cons_of_mem _ hmem⟩

theorem Base.mute (h : Base c e journal) (hmute : r.call.Mute) : Base c e (r :: journal) :=
  ⟨h.config, fun step hstep => (h.done step hstep).cons, h.carrying,
    (starts_mute hmute).symm ▸ h.ordered, (quiet_mute hmute).mpr h.quiet⟩

variable {runId : String} {reply : Except Raised Unit}

theorem Base.asked (h : Base c e journal) {preserveLoad : Bool} {at_ : ℚ} :
    Base c e (⟨.requestStop runId preserveLoad at_, reply⟩ :: journal) :=
  ⟨h.config, fun step hstep => (h.done step hstep).cons, h.carrying, h.ordered, h.quiet⟩

theorem AtStep.mute (h : AtStep c e journal) (hmute : r.call.Mute) :
    AtStep c e (r :: journal) :=
  ⟨h.toWorking, h.unsent, fun hasked => h.unasked ((asked_mute hmute).mp hasked)⟩

theorem Started.mute (h : Started c e journal) (hmute : r.call.Mute) :
    Started c e (r :: journal) := by
  obtain ⟨hstarts, reply, hmem⟩ := h
  exact ⟨(starts_mute hmute).trans hstarts, reply, List.mem_cons_of_mem _ hmem⟩

/-- The steps up to the one at hand, and that one. -/
theorem take_step (hconfig : e.config = c) (h : e.index < c.plan.steps.length) :
    c.plan.steps.take (e.index + 1) = c.plan.steps.take e.index ++ [e.step] := by
  subst hconfig
  have hmin : min e.index (e.config.plan.steps.length - 1) = e.index := by omega
  rw [List.take_succ_eq_append_getElem h]
  simp only [TaskExecutor.step, Plan.step, hmin, List.get_eq_getElem]

theorem carries_append (steps : List Step) (step : Step) :
    carries (steps ++ [step]) =
      if step.skill = "pick" then true
      else if step.skill = "place" then false else carries steps := by
  simp [carries]

theorem fresh_of_valid {feedback : Feedback} {goalId : String} {earliest : ℚ}
    (hconfig : e.config = c) (h : e.validFeedback feedback goalId earliest = .ok ()) :
    feedback.goalId = goalId ∧ feedback.Fresh c earliest e.now := by
  subst hconfig
  unfold TaskExecutor.validFeedback at h
  split at h
  next => cases h
  next hgoal =>
    obtain ⟨stamp, hstamp, h⟩ := Except.bind_eq_ok_iff.mp h
    split at h
    next => cases h
    next hrange =>
      simp only [not_or, not_lt, gt_iff_lt] at hrange
      exact ⟨not_not.mp hgoal, stamp, (seconds_eq_ok hstamp).1, hrange.1, hrange.2.1, hrange.2.2⟩

/-! ## 4. Stopping -/

def Stopping (e : TaskExecutor) : Prop := e.state = .stopping ∨ e.state = .stopUnconfirmed

/-- The executor has asked for the stop and waits. -/
structure Halting (c : TaskConfig) (e : TaskExecutor) (journal : TaskJournal) : Prop
    extends Base c e journal, Working c e where
  stopping : Stopping e
  asked : AskedAt c e.stopAt journal

/-- It may have decided just now. -/
structure Pending (c : TaskConfig) (e : TaskExecutor) (journal : TaskJournal) : Prop
    extends Base c e journal, Working c e where
  stopping : Stopping e
  asked : AskedAt c e.stopAt journal ∨ e.stopSent = false ∧ e.stopAt = e.now

theorem Halting.inv (h : Halting c e journal) : Inv c e journal := by
  refine ⟨h.toBase, ?_⟩
  unfold ByState
  rcases h.stopping with hstate | hstate <;> rw [hstate] <;> exact ⟨h.toWorking, h.asked⟩

theorem Halting.mute (h : Halting c e journal) (hmute : r.call.Mute) :
    Halting c e (r :: journal) :=
  ⟨h.toBase.mute hmute, h.toWorking, h.stopping, h.asked.cons⟩

namespace TaskExecutor

theorem ensureStopRequested_settles :
    Triple (conduct AdapterCall Reply) (Pending c) ensureStopRequested
      (fun _ => Halting c) fun _ => Halting c := by
  have hasked : ∀ e journal preserveLoad reply, Pending c e journal → e.stopSent = false →
      Halting c e (⟨.requestStop e.config.runId preserveLoad e.now, reply⟩ :: journal) := by
    intro e journal preserveLoad reply h hunsent
    refine ⟨h.toBase.asked, h.toWorking, h.stopping, ?_⟩
    rcases h.asked with hasked | ⟨-, hnow⟩
    · exact hasked.cons
    · exact ⟨preserveLoad, reply, by rw [hnow, ← h.config]; exact List.mem_cons_self⟩
  refine triple_get_bind fun e => triple_ite (fun hunsent => ?_) fun hsent => triple_pure ?_
  · refine bind (M := fun _ => Halting c) (triple_get_bind fun s => triple_invoke ?_ ?_)
      fun _ => triple_modify fun s journal h => ?_
    · rintro _ journal value ⟨rfl, rfl, h⟩
      exact hasked _ journal _ _ h hunsent
    · rintro _ journal error ⟨rfl, rfl, h⟩
      exact hasked _ journal _ _ h hunsent
    · exact ⟨⟨h.config, h.done, h.carrying, h.ordered, h.quiet⟩, ⟨h.left, h.held⟩, h.stopping,
        h.asked⟩
  · rintro _ journal ⟨rfl, h⟩
    exact ⟨h.toBase, h.toWorking, h.stopping, h.asked.resolve_right fun hfalse => hsent hfalse.1⟩

/-- **The stop is confirmed by fresh feedback**, or is still to be. -/
theorem confirmStop_settles :
    Triple (conduct AdapterCall Reply) (Pending c) confirmStop
      (fun confirmed e journal => if confirmed then Inv c e journal else Halting c e journal)
      fun _ => Halting c := by
  refine bind ensureStopRequested_settles fun _ => bind
    (M := fun feedback e journal => ∃ before, Halting c e before ∧
      journal = ⟨.pollStop e.config.runId e.now, .ok feedback⟩ :: before)
    (triple_get_bind fun e => triple_invoke ?_ ?_) fun feedback => ?_
  · rintro _ journal feedback ⟨rfl, h⟩
    exact ⟨journal, h, rfl⟩
  · rintro _ journal error ⟨rfl, h⟩
    exact h.mute trivial
  refine triple_get_bind fun e => bind
    (M := fun _ t journal => t = e ∧ ∃ before, Halting c e before ∧
      journal = ⟨.pollStop e.config.runId e.now, .ok feedback⟩ :: before ∧
      feedback.goalId = c.runId ∧ feedback.Fresh c e.stopAt e.now) (triple_expect ?_ ?_) fun _ => ?_
  · rintro _ hvalid _ journal ⟨rfl, before, h, rfl⟩
    obtain ⟨hgoal, hfresh⟩ := fresh_of_valid h.config hvalid
    exact ⟨rfl, before, h, rfl, h.config ▸ hgoal, hfresh⟩
  · rintro error - _ journal ⟨rfl, before, h, rfl⟩
    exact h.mute trivial
  refine triple_ite (fun hstopped => ?_) fun _ => triple_pure ?_
  · refine bind (M := fun _ t journal => Base c t journal ∧ t.lease.owner = some c.runId ∧
        t.state = t.stopDestination.state ∧
        Confirmed c (carries (c.plan.steps.take t.index)) journal) (triple_modify ?_) fun _ =>
      bind (releaseLease_done fun t journal h => ?_) fun _ => triple_pure ?_
    · rintro e journal ⟨rfl, before, h, rfl, hgoal, hfresh⟩
      have hbase := h.toBase.mute (r := ⟨.pollStop e.config.runId e.now, .ok feedback⟩) trivial
      refine ⟨⟨hbase.config, hbase.done, hbase.carrying, hbase.ordered, hbase.quiet⟩, h.held, rfl,
        e.now, feedback, before, e.stopAt, by rw [h.config], h.asked, hgoal, hstopped.1, hfresh, ?_⟩
      rw [← hbase.carrying]
      exact hstopped.2
    · rw [h.1.config]
      exact h.2.1
    · rintro _ journal ⟨t, ⟨hbase, -, hstate, hconfirmed⟩, rfl⟩
      refine ⟨⟨hbase.config, hbase.done, hbase.carrying, hbase.ordered, hbase.quiet⟩, ?_⟩
      unfold ByState
      dsimp only
      rw [hstate]
      cases t.stopDestination <;> exact ⟨nofun, hconfirmed⟩
  · rintro _ journal ⟨rfl, before, h, rfl, -⟩
    exact h.mute trivial

theorem pollStop_settles :
    Triple (conduct AdapterCall Reply) (Pending c) pollStop (fun _ => Inv c)
      fun _ => Inv c := by
  refine bind
    (M := fun confirmed e journal => if confirmed then Inv c e journal else Halting c e journal)
    (tryCatch confirmStop_settles fun _ => triple_pure fun _ _ h => h) fun confirmed => ?_
  refine triple_ite (fun hconfirmed => triple_pure fun e journal h => ?_) fun hconfirmed =>
    triple_modify fun e journal h => ?_
  · rwa [if_pos hconfirmed] at h
  · rw [if_neg hconfirmed] at h
    split
    · exact Halting.inv ⟨⟨h.config, h.done, h.carrying, h.ordered, h.quiet⟩, ⟨h.left, h.held⟩,
        .inr rfl, h.asked⟩
    · exact h.inv

theorem AtStep.of_inv (h : Inv c e journal) (hstate : ¬ Leaving e.state) : AtStep c e journal := by
  obtain ⟨-, hphase⟩ := h
  unfold ByState at hphase
  cases hat : e.state with
  | waiting =>
    rw [hat] at hphase
    exact hphase.1
  | running =>
    rw [hat] at hphase
    exact hphase.1
  | stopping => exact absurd (.inr (.inl hat)) hstate
  | stopUnconfirmed => exact absurd (.inr (.inr hat)) hstate
  | succeeded => exact absurd (.inl (.inl hat)) hstate
  | failed => exact absurd (.inl (.inr (.inl hat))) hstate
  | cancelled => exact absurd (.inl (.inr (.inr hat))) hstate

theorem stop_settles {reason : String} {destination : StopDestination} :
    Triple (conduct AdapterCall Reply) (Inv c) (stop reason destination) (fun _ => Inv c)
      fun _ => Inv c := by
  refine triple_get_bind fun e => triple_ite (fun _ => triple_pure fun _ _ h => h.2) fun hstate =>
    bind (M := fun _ => Pending c) (triple_modify ?_) fun _ => pollStop_settles
  rintro e journal ⟨rfl, h⟩
  have hstep := AtStep.of_inv h hstate
  exact ⟨⟨h.1.config, h.1.done, h.1.carrying, h.1.ordered, h.1.quiet⟩, ⟨hstep.left, hstep.held⟩,
    .inl rfl, .inr ⟨hstep.unsent, rfl⟩⟩

/-! ## 5. Ticks -/

/-- The step at hand is started, whatever the adapter says. -/
theorem inv_started (hbase : Base c e journal) (hstep : AtStep c e journal)
    (hstate : e.state = .running) (hnow : e.startedAt = e.now)
    (hstarts : starts journal = c.plan.steps.take e.index) :
    Inv c e (⟨.start e.goalId e.step e.now, reply⟩ :: journal) := by
  have hnext : starts (⟨.start e.goalId e.step e.now, reply⟩ :: journal) =
      c.plan.steps.take (e.index + 1) := by
    rw [take_step hbase.config hstep.left, ← hstarts]
    rfl
  refine ⟨⟨hbase.config, fun step hmem => (hbase.done step hmem).cons, hbase.carrying, ?_,
    hstep.unasked, hbase.quiet⟩, ?_⟩
  · rw [hnext]
    exact List.take_prefix _ _
  unfold ByState
  rw [hstate]
  refine ⟨⟨hstep.toWorking, hstep.unsent, ?_⟩, hnext, reply, ?_⟩
  · rintro ⟨runId, preserveLoad, at_, reply', hmem⟩
    rcases List.mem_cons.mp hmem with hhead | hmem
    · cases hhead
    · exact hstep.unasked ⟨runId, preserveLoad, at_, reply', hmem⟩
  · rw [hnow]
    exact List.mem_cons_self

theorem tickWaiting_keeps :
    Triple (conduct AdapterCall Reply)
      (fun e journal => Inv c e journal ∧ e.state = .waiting) tickWaiting (fun _ => Inv c)
      fun _ => Inv c := by
  have hmute : ∀ e journal (r : Entry AdapterCall Reply), r.call.Mute →
      Inv c e journal ∧ e.state = .waiting → Inv c e (r :: journal) ∧ e.state = .waiting := by
    rintro e journal r hmute ⟨⟨hbase, hphase⟩, hstate⟩
    refine ⟨⟨hbase.mute hmute, ?_⟩, hstate⟩
    unfold ByState at hphase ⊢
    rw [hstate] at hphase ⊢
    exact ⟨hphase.1.mute hmute, (starts_mute hmute).trans hphase.2⟩
  refine bind (M := fun _ e journal => Inv c e journal ∧ e.state = .waiting)
    (triple_get_bind fun e => triple_invoke ?_ ?_) fun feedback => triple_get_bind fun e =>
      bind (M := fun _ t journal => t = e ∧ Inv c t journal ∧ t.state = .waiting)
        (triple_expect (fun _ _ _ _ h => h) fun _ _ _ _ h => h.2.1) fun _ => ?_
  · rintro _ journal feedback ⟨-, h⟩
    exact hmute _ _ ⟨.observe .., _⟩ trivial h
  · rintro _ journal error ⟨-, h⟩
    exact (hmute _ _ ⟨.observe .., _⟩ trivial h).1
  refine triple_ite (fun _ => stop_settles.conseq (fun _ _ h => h.2.1) (fun _ _ _ h => h)
    fun _ _ _ h => h) fun _ => triple_ite (fun _ => ?_) fun _ => triple_pure fun _ _ h => h.2.1
  -- From here on the step counts as running, whether the adapter raises or not.
  refine bind (M := fun _ t journal => Base c t journal ∧ AtStep c t journal ∧
      t.state = .running ∧ t.startedAt = t.now ∧ starts journal = c.plan.steps.take t.index)
    (triple_modify ?_) fun _ => bind (M := fun _ => Inv c)
      (triple_get_bind fun t => triple_invoke ?_ ?_) fun _ => triple_modify fun t journal h =>
        h.same rfl rfl rfl rfl rfl rfl rfl Iff.rfl
  · rintro e journal ⟨rfl, ⟨hbase, hphase⟩, hstate⟩
    unfold ByState at hphase
    rw [hstate] at hphase
    obtain ⟨hstep, hstarts⟩ := hphase
    exact ⟨⟨hbase.config, hbase.done, hbase.carrying, hbase.ordered, hbase.quiet⟩,
      ⟨⟨hstep.left, hstep.held⟩, hstep.unsent, hstep.unasked⟩, rfl, rfl, hstarts⟩
  · rintro t journal value ⟨rfl, hbase, hstep, hstate, hnow, hstarts⟩
    exact inv_started hbase hstep hstate hnow hstarts
  · rintro t journal error ⟨rfl, hbase, hstep, hstate, hnow, hstarts⟩
    exact inv_started hbase hstep hstate hnow hstarts

theorem carrying_complete (hbase : Base c e journal) (hleft : e.index < c.plan.steps.length) :
    e.complete.carrying = carries (c.plan.steps.take e.complete.index) := by
  simp only [complete]
  rw [take_step hbase.config hleft, carries_append, hbase.carrying]

theorem done_complete (hbase : Base c e journal) (hleft : e.index < c.plan.steps.length)
    (hproven : Proven c journal e.step) :
    ∀ step ∈ c.plan.steps.take e.complete.index, Proven c journal step := by
  intro step hmem
  simp only [complete] at hmem
  rw [take_step hbase.config hleft] at hmem
  rcases List.mem_append.mp hmem with hmem | hmem
  · exact hbase.done step hmem
  · rw [List.mem_singleton.mp hmem]
    exact hproven

theorem tickRunning_keeps :
    Triple (conduct AdapterCall Reply)
      (fun e journal => Inv c e journal ∧ e.state = .running) tickRunning (fun _ => Inv c)
      fun _ => Inv c := by
  have hmute : ∀ e journal (r : Entry AdapterCall Reply), r.call.Mute →
      Inv c e journal ∧ e.state = .running → Inv c e (r :: journal) ∧ e.state = .running := by
    rintro e journal r hmute ⟨⟨hbase, hphase⟩, hstate⟩
    refine ⟨⟨hbase.mute hmute, ?_⟩, hstate⟩
    unfold ByState at hphase ⊢
    rw [hstate] at hphase ⊢
    exact ⟨hphase.1.mute hmute, hphase.2.mute hmute⟩
  refine bind (M := fun feedback e journal => (Inv c e journal ∧ e.state = .running) ∧
      ⟨.poll e.goalId e.step e.now, .ok feedback⟩ ∈ journal)
    (triple_get_bind fun e => triple_invoke ?_ ?_) fun feedback => triple_get_bind fun e =>
      bind (M := fun _ t journal => t = e ∧ (Inv c e journal ∧ e.state = .running) ∧
          ⟨.poll e.goalId e.step e.now, .ok feedback⟩ ∈ journal ∧
          feedback.goalId = e.goalId ∧ feedback.Fresh c e.startedAt e.now)
        (triple_expect ?_ fun _ _ _ _ h => h.2.1.1) fun _ => ?_
  · rintro _ journal feedback ⟨rfl, h⟩
    exact ⟨hmute _ _ ⟨.poll .., _⟩ trivial h, List.mem_cons_self⟩
  · rintro _ journal error ⟨-, h⟩
    exact (hmute _ _ ⟨.poll .., _⟩ trivial h).1
  · rintro _ hvalid _ journal ⟨rfl, h, hpoll⟩
    exact ⟨rfl, h, hpoll, fresh_of_valid h.1.1.config hvalid⟩
  have hstop : ∀ reason, Triple (conduct AdapterCall Reply)
      (fun t journal => t = e ∧ (Inv c e journal ∧ e.state = .running) ∧
        ⟨.poll e.goalId e.step e.now, .ok feedback⟩ ∈ journal ∧
        feedback.goalId = e.goalId ∧ feedback.Fresh c e.startedAt e.now)
      (stop reason .failed) (fun _ => Inv c) fun _ => Inv c := fun _ =>
    stop_settles.conseq (fun t _ h => h.1 ▸ h.2.1.1) (fun _ _ _ h => h) fun _ _ _ h => h
  refine triple_ite (fun _ => hstop _) fun _ => triple_ite (fun _ => hstop _) fun hholds =>
    triple_ite (fun hsucceeded => ?_) fun _ => triple_pure fun t _ h => h.1 ▸ h.2.1.1
  refine triple_ite (fun _ => hstop _) fun hrequired => ?_
  refine bind (M := fun _ t journal => Base c t journal ∧ t.index ≤ c.plan.steps.length ∧
      t.lease.owner = some c.runId ∧ t.stopSent = false ∧ ¬ Asked journal ∧
      starts journal = c.plan.steps.take t.index) (triple_modify ?_) fun _ =>
    triple_get_bind fun t => triple_ite (fun hlast => ?_) fun hlast => triple_modify ?_
  · rintro e journal ⟨rfl, ⟨⟨hbase, hphase⟩, hstate⟩, hpoll, hgoal, hfresh⟩
    unfold ByState at hphase
    rw [hstate] at hphase
    obtain ⟨hstep, hstarts, reply, hstart⟩ := hphase
    have hname : e.goalId = c.runId ++ "/" ++ e.step.stepId := by rw [← hbase.config]; rfl
    rw [hname] at hpoll hstart hgoal
    have hproven : Proven c journal e.step := ⟨e.startedAt, e.now, feedback, reply, hstart, hpoll,
      hgoal, hsucceeded, hfresh, not_not.mp hholds, not_not.mp hrequired⟩
    exact ⟨⟨hbase.config, done_complete hbase hstep.left hproven,
      carrying_complete hbase hstep.left, hbase.ordered, hbase.quiet⟩, hstep.left, hstep.held,
      hstep.unsent, hstep.unasked, hstarts⟩
  · refine bind (M := fun _ t journal => Base c t journal ∧
        t.index = c.plan.steps.length ∧ t.lease.owner = some c.runId ∧ t.state = .succeeded)
      (triple_modify ?_) fun _ => (releaseLease_done fun t journal h => ?_).conseq
        (fun _ _ h => h) ?_ fun _ _ _ h => h
    · rintro t journal ⟨rfl, hbase, -, hheld, -⟩
      exact ⟨⟨hbase.config, hbase.done, hbase.carrying, hbase.ordered, hbase.quiet⟩,
        hbase.config ▸ hlast, hheld, rfl⟩
    · rw [h.1.config]
      exact h.2.2.1
    · rintro - _ journal ⟨t, ⟨hbase, hindex, -, hstate⟩, rfl⟩
      refine ⟨⟨hbase.config, hbase.done, hbase.carrying, hbase.ordered, hbase.quiet⟩, ?_⟩
      unfold ByState
      dsimp only
      rw [hstate]
      exact ⟨hindex, nofun⟩
  · rintro t journal ⟨rfl, hbase, hindex, hheld, hunsent, hunasked, hstarts⟩
    refine ⟨⟨hbase.config, hbase.done, hbase.carrying, hbase.ordered, hbase.quiet⟩, ?_⟩
    exact ⟨⟨⟨lt_of_le_of_ne hindex (hbase.config ▸ hlast), hheld⟩, hunsent, hunasked⟩, hstarts⟩

variable {now : Scalar}

theorem clock_keeps :
    Triple (conduct AdapterCall Reply) (Inv c) (clock now) (fun _ => Inv c)
      fun _ => Inv c := by
  refine bind (M := fun _ => Inv c) (triple_expect (fun _ _ _ _ h => h) fun _ _ _ _ h => h)
    fun _ => triple_get_bind fun e => triple_ite (fun _ => triple_throw fun _ _ h => h.2) fun _ =>
      triple_modify fun e journal h => h.2.same rfl rfl rfl rfl rfl rfl rfl Iff.rfl

theorem tick_keeps :
    Triple (conduct AdapterCall Reply) (Inv c) (tick now) (fun _ => Inv c)
      fun _ => Inv c := by
  have hstop : ∀ e reason, Triple (conduct AdapterCall Reply)
      (fun t journal => t = e ∧ Inv c t journal) (stop reason .failed) (fun _ => Inv c)
      fun _ => Inv c := fun e reason =>
    stop_settles.conseq (fun _ _ h => h.2) (fun _ _ _ h => h) fun _ _ _ h => h
  refine bind clock_keeps fun _ => triple_get_bind fun e =>
    triple_ite (fun _ => triple_pure fun _ _ h => h.2) fun hterminal =>
      triple_ite (fun hstopping => pollStop_settles.conseq ?_ (fun _ _ _ h => h) fun _ _ _ h => h)
        fun hstopping => triple_ite (fun _ => hstop e _) fun _ => triple_ite (fun _ => hstop e _)
          fun _ => tryCatch (E := fun _ => Inv c) ?_ fun error => stop_settles
  · rintro t journal ⟨rfl, hbase, hphase⟩
    unfold ByState at hphase
    rcases hstopping with hstate | hstate <;> rw [hstate] at hphase
    · exact ⟨hbase, hphase.1, .inl hstate, .inl hphase.2⟩
    · exact ⟨hbase, hphase.1, .inr hstate, .inl hphase.2⟩
  · refine triple_ite (fun hwaiting => ?_) fun hwaiting => ?_
    · refine tickWaiting_keeps.conseq ?_ (fun _ _ _ h => h) fun _ _ _ h => h
      rintro t journal ⟨rfl, h⟩
      exact ⟨h, hwaiting⟩
    · refine tickRunning_keeps.conseq ?_ (fun _ _ _ h => h) fun _ _ _ h => h
      rintro t journal ⟨rfl, h⟩
      refine ⟨h, ?_⟩
      cases hstate : t.state <;> simp [hstate, TaskState.Terminal] at hterminal hstopping hwaiting ⊢

end TaskExecutor

/-! ## 6. Every run -/

theorem op_keeps (hrun : runId = c.runId) (op : TaskOp runId) :
    Triple (conduct AdapterCall Reply) (Inv c) op.action (fun _ => Inv c)
      fun _ => Inv c := by
  subst hrun
  have hresult : Triple (conduct AdapterCall Reply) (Inv c)
      (do return (← get).result : Execution TaskExecutor.TaskResult) (fun _ => Inv c)
      fun _ => Inv c := triple_get_bind fun _ => triple_pure fun _ _ h => h.2
  have hother : ∀ (f : TaskLease → Except Raised TaskLease), (∀ lease lease', f lease = .ok lease' →
      (lease'.owner = some c.runId ↔ lease.owner = some c.runId)) →
      Triple (conduct AdapterCall Reply) (Inv c)
        (do let lease ← expect (f (← get).lease)
            modify fun e => { e with lease }
            return (← get).result : Execution TaskExecutor.TaskResult) (fun _ => Inv c)
        fun _ => Inv c := by
    intro f hf
    refine triple_get_bind fun e => bind (M := fun lease t journal => t = e ∧
      Inv c e journal ∧ (lease.owner = some c.runId ↔ e.lease.owner = some c.runId))
      (triple_expect ?_ fun _ _ _ _ h => h.2) fun lease => bind (M := fun _ => Inv c)
        (triple_modify ?_) fun _ => hresult
    · rintro lease hlease t journal ⟨rfl, h⟩
      exact ⟨rfl, h, hf _ _ hlease⟩
    · rintro t journal ⟨rfl, h, hlease⟩
      exact h.same rfl rfl rfl rfl rfl rfl rfl hlease
  cases op with
  | tick now => exact bind TaskExecutor.tick_keeps fun _ => hresult
  | cancel now reason =>
    exact bind (bind TaskExecutor.clock_keeps fun _ => TaskExecutor.stop_settles)
      fun _ => hresult
  | acquire owner other =>
    refine hother (·.acquire owner) fun lease lease' h => ?_
    unfold TaskLease.acquire at h
    split at h
    next => cases h
    next hfree =>
      cases h
      rw [Bool.not_eq_true, Option.isSome_eq_false_iff, Option.isNone_iff_eq_none] at hfree
      rw [hfree]
      exact ⟨fun h => absurd (Option.some.inj h) other, nofun⟩
  | release owner other =>
    refine hother (·.release owner) fun lease lease' h => ?_
    unfold TaskLease.release at h
    split at h
    next => cases h
    next howner =>
      cases h
      rw [not_not.mp howner]
      exact ⟨nofun, fun h => absurd (Option.some.inj h) other⟩

theorem inv_create {mode : String} {documents : List StepDocument} {lease : TaskLease}
    {age stopTimeout taskTimeout : Scalar}
    (h : TaskExecutor.create runId documents mode lease now age stopTimeout taskTimeout = .ok e) :
    Inv e.config e [] := by
  have hnew := TaskExecutor.create_eq_ok h
  refine ⟨⟨rfl, ?_, ?_, List.nil_prefix, trivial⟩, ?_⟩
  · rw [hnew.index]
    exact nofun
  · rw [hnew.carrying, hnew.index]
    rfl
  · unfold ByState
    rw [hnew.state]
    refine ⟨⟨⟨?_, hnew.held⟩, hnew.unsent, ?_⟩, ?_⟩
    · rw [hnew.index]
      exact e.config.plan.nonempty
    · rintro ⟨_, _, _, _, hmem⟩
      cases hmem
    · rw [hnew.index]
      rfl

/-- The task and its journal, after these operations. -/
def TaskExecutor.after (e : TaskExecutor)
    (l : List (TaskOp e.config.runId × Oracle AdapterCall Reply)) :
    TaskExecutor × TaskJournal :=
  run (consult TaskOp.action) (e, []) l

/-- **Lease safety**, in every run of every task. -/
theorem task_lease_safe {mode : String} {documents : List StepDocument} {lease : TaskLease}
    {now age stopTimeout taskTimeout : Scalar} {e : TaskExecutor}
    (h : TaskExecutor.create runId documents mode lease now age stopTimeout taskTimeout = .ok e)
    (l : List (TaskOp e.config.runId × Oracle AdapterCall Reply)) :
    LeaseSafe e.config (e.after l).1 (e.after l).2 :=
  Inv.safe (consult_invariant (op_keeps rfl) l (inv_create h))

/-- An adapter that is ready, loses its link when a skill is started, and stops. -/
def lostLink : Oracle AdapterCall Reply
  | .observe goal _ now, _ => .ok ⟨goal, .finite now, .ready,
      [("hardware_ready", true), ("base_stopped", true), ("lift_stopped", true)], ""⟩
  | .start .., _ => .error ⟨"OSError", "link lost"⟩
  | .poll .., _ => .error ⟨"RuntimeError", "wrong adapter goal"⟩
  | .requestStop .., _ => .ok ()
  | .pollStop goal now, _ => .ok ⟨goal, .finite now, .stopped,
      [("base_stopped", true), ("lift_stopped", true), ("arms_holding", true)], ""⟩

theorem task_lease_safe_grasp :
    ∃ e, TaskExecutor.create "fetch" [⟨"pick", "grasp", .finite 10, [], [], ""⟩] "simulation" ⟨none⟩
        (.finite 0) (.finite (1 / 2)) (.finite 2) (.finite 300) = .ok e ∧
      LeaseSafe e.config (e.after [(.tick (.finite 1), lostLink)]).1
        (e.after [(.tick (.finite 1), lostLink)]).2 := by
  have hok : (TaskExecutor.create "fetch" [⟨"pick", "grasp", .finite 10, [], [], ""⟩] "simulation"
      ⟨none⟩ (.finite 0) (.finite (1 / 2)) (.finite 2) (.finite 300)).isOk = true := by
    decide +kernel
  cases h : TaskExecutor.create "fetch" [⟨"pick", "grasp", .finite 10, [], [], ""⟩] "simulation"
      ⟨none⟩ (.finite 0) (.finite (1 / 2)) (.finite 2) (.finite 300) with
  | error error =>
    rw [h] at hok
    cases hok
  | ok e => exact ⟨e, rfl, task_lease_safe h _⟩

end MobileBimanual.Tasks
