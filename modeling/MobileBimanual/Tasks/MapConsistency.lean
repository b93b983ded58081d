/-
# The map, the pose and the tasks of the application

In every run of the application against any adapter (`map_pose_consistent`): a known pose is a free
place of the map; a task that goes on holds the lease, and if it navigates, it was planned on this
map from a pose that was known; and the map is replaced only while nobody holds the lease.

`AppInv` is kept by every operation.  It is stated for any conduct of the adapter (`AppTerms`), and
for a request whose task must not start yet (`AppTerms.but`).
-/
import MobileBimanual.Tasks.Application
import MobileBimanual.Tasks.ExecutorLease

namespace MobileBimanual.Tasks

open Activity Oracle Machine
open Program (Conduct)
open NavigationMap Triple

/-! ## 1. The adapter that the tasks share -/

/-- What is known of the adapter: what is true all along, and when a request may start a step. -/
structure AppTerms (ω : Type) where
  sound : ω → Prop
  mayStart : String → ω → Prop

namespace AppTerms

variable {ω : Type}

def conduct (A : AppTerms ω) : Conduct AdapterCall AdapterCall.Reply ω where
  interferes w v := v = w
  permits c w := A.sound w ∧ ∃ requestId, c.Allowed requestId (A.mayStart requestId w)
  answers _ w _ v := A.sound v ∧ ∀ requestId, A.mayStart requestId w → A.mayStart requestId v

/-- The same, and this request may start its steps. -/
def but (A : AppTerms ω) (requestId : String) : AppTerms ω where
  sound := A.sound
  mayStart other w := other = requestId ∨ A.mayStart other w

def terms (A : AppTerms ω) (requestId : String) (left : TaskLease → Prop) (now : ℚ) :
    TaskTerms ω where
  runId := requestId
  sound := A.sound
  mayStart := A.mayStart requestId
  done _ := True
  left := left
  times := (· ≤ now)

/-- What a task is told is the time of the application. -/
theorem in_time {A : AppTerms ω} {requestId : String} {left : TaskLease → Prop} (now value : ℚ)
    (h : Scalar.finite now = .finite value) : (A.terms requestId left now).times value := by
  cases h
  exact le_rfl

theorem refines (A : AppTerms ω) (requestId : String) (left : TaskLease → Prop) (now : ℚ) :
    Refines (A.terms requestId left now).conduct A.conduct id where
  interferes h := h
  permits h := ⟨h.1, requestId, h.2⟩
  answers h := ⟨h.1, h.2 requestId, fun _ => trivial⟩

end AppTerms

/-! ## 2. The invariant -/

/-- The task does not hold the lease. -/
def Gone (requestId : String) (lease : TaskLease) : Prop := lease.owner ≠ some requestId

namespace RobotApplication

variable {ω : Type} {A A' : AppTerms ω} {Q : String → NavigationMap → NavigationPlan → Prop}
  {m₀ : NavigationMap} {a : RobotApplication} {w : ω} {requestId : String} {t : AppTask}

/-- The task of a request goes on and holds the lease, or is gone. -/
def TaskInv (A : AppTerms ω) (a : RobotApplication) (w : ω) (requestId : String) (t : AppTask) :
    Prop :=
  (t.shared a.lease).Upto (A.terms requestId (Gone requestId) a.now) w

/-- The plan is one of this map. -/
def OnMap (Q : NavigationMap → NavigationPlan → Prop) (m : NavigationMap) :
    Planned → Prop
  | .navigate plan => Q m plan
  | .fetch _ => True

/-- `Q` says how the plans of tasks that go on come from the map; `m₀` is the map that there was at
the beginning of an operation. -/
structure AppInv (A : AppTerms ω)
    (Q : String → NavigationMap → NavigationPlan → Prop) (m₀ : NavigationMap)
    (a : RobotApplication) (w : ω) : Prop where
  sound : A.sound w
  tasks : ∀ requestId t, a.tasks.lookup requestId = some t → TaskInv A a w requestId t
  planned : ∀ requestId t, a.tasks.lookup requestId = some t → ¬ t.task.state.Terminal →
    OnMap (Q requestId) a.map t.plan
  pose : a.poseKnown → a.map.Free a.x a.y
  pending : ∀ m, a.pendingMap = some m → (m.mapId, m.revision) ≠ (a.map.mapId, a.map.revision)
  kept : a.map = m₀ ∨ a.lease.owner = none
  clock : 0 ≤ a.now

/-- Only the task that holds the lease goes on. -/
theorem TaskInv.held (h : TaskInv A a w requestId t) (hgoing : ¬ t.task.state.Terminal) :
    a.lease.owner = some requestId := by
  have hlive := TaskExecutor.Upto.live h hgoing
  exact hlive.held.trans (congrArg some hlive.run)

theorem TaskInv.going (h : TaskInv A a w requestId t) (howner : a.lease.owner = some requestId) :
    ¬ t.task.state.Terminal := by
  rcases h with h | h | h
  · exact h.going
  · exact h.going
  · exact absurd howner h.lease

variable {v : ω}

/-- A task that does not hold the lease does not care who does. -/
theorem TaskInv.other {a' : RobotApplication} (h : TaskInv A' a w requestId t) (hsound : A.sound v)
    (howner : a.lease.owner ≠ some requestId) (hlease : a'.lease.owner ≠ some requestId)
    (hnow : a.now ≤ a'.now) : TaskInv A a' v requestId t := by
  rcases h with h | h | h
  · exact absurd (h.held.trans (congrArg some h.run)) howner
  · exact absurd (h.held.trans (congrArg some h.run)) howner
  · exact .inr (.inr ⟨hsound, h.terminal, h.run, hlease, le_trans h.time hnow, trivial⟩)

variable {e : TaskExecutor}

theorem AppInv.put (h : AppInv A' Q m₀ a w) (hlookup : a.tasks.lookup requestId = some t)
    (htask : e.Upto (A.terms requestId (Gone requestId) a.now) v)
    (hgoing : ¬ e.state.Terminal → ¬ t.task.state.Terminal)
    (hothers : ∀ other t', other ≠ requestId → a.tasks.lookup other = some t' → TaskInv A { a with lease := e.lease } v other t')
    (hkept : a.map = m₀ ∨ e.lease.owner = none) : AppInv A Q m₀ (a.put requestId t e) v := by
  have hcases : ∀ {other t'}, (a.tasks.insert requestId { t with task := e }).lookup other =
      some t' → (other = requestId ∧ t' = { t with task := e }) ∨
        other ≠ requestId ∧ a.tasks.lookup other = some t' := by
    intro other t' hlookup'
    by_cases hsame : other = requestId
    · subst hsame
      rw [AList.lookup_insert] at hlookup'
      exact .inl ⟨rfl, (Option.some.inj hlookup').symm⟩
    · rw [AList.lookup_insert_ne hsame] at hlookup'
      exact .inr ⟨hsame, hlookup'⟩
  refine ⟨htask.sound, ?_, ?_, h.pose, h.pending, hkept, h.clock⟩
  · intro other t' hlookup'
    rcases hcases hlookup' with ⟨rfl, rfl⟩ | ⟨hne, hlookup'⟩
    · exact htask
    · exact hothers other t' hne hlookup'
  · intro other t' hlookup' hgoing'
    rcases hcases hlookup' with ⟨rfl, rfl⟩ | ⟨hne, hlookup'⟩
    · exact h.planned other t hlookup (hgoing hgoing')
    · exact h.planned other t' hlookup' hgoing'

/-- The task that holds the lease has gone on. -/
theorem AppInv.went_on (h : AppInv A' Q m₀ a w) (hlookup : a.tasks.lookup requestId = some t)
    (howner : a.lease.owner = some requestId)
    (hend : e.Upto (A.terms requestId (· = ⟨none⟩) a.now) v) :
    AppInv A Q m₀ (a.put requestId t e) v := by
  have hgone : ∀ other, other ≠ requestId → e.lease.owner ≠ some other := by
    intro other hne hother
    rcases hend with h | h | h
    · exact hne (Option.some.inj (hother.symm.trans (h.held.trans (congrArg some h.run))))
    · exact hne (Option.some.inj (hother.symm.trans (h.held.trans (congrArg some h.run))))
    · rw [show e.lease = ⟨none⟩ from h.lease] at hother
      cases hother
  have hgoing := (h.tasks requestId t hlookup).going howner
  refine h.put hlookup (hend.imp rfl id id id ?_ id) (fun _ => hgoing) ?_ ?_
  · rintro - (hnone : e.lease = ⟨none⟩)
    rw [hnone]
    exact nofun
  · intro other t' hne hlookup'
    have howner' : a.lease.owner ≠ some other := fun hother =>
      hne (Option.some.inj (hother.symm.trans howner))
    exact (h.tasks other t' hlookup').other hend.sound howner' (hgone other hne) le_rfl
  · exact .inl (h.kept.resolve_right fun hnone => nomatch hnone.symm.trans howner)

/-- Only one request is excepted, and that one keeps the terms of all. -/
theorem AppInv.of_but (h : AppInv (A.but requestId) Q m₀ a w)
    (htask : ∀ t, a.tasks.lookup requestId = some t → TaskInv A a w requestId t) :
    AppInv A Q m₀ a w := by
  refine ⟨h.sound, fun other t hlookup => ?_, h.planned, h.pose, h.pending, h.kept, h.clock⟩
  by_cases hsame : other = requestId
  · subst hsame
    exact htask t hlookup
  · exact (h.tasks other t hlookup).imp rfl id (fun hmay => hmay.resolve_left hsame) id
      (fun _ => id) id

/-- More may be known of the adapter, and of the plans. -/
theorem AppInv.imp {Q' : String → NavigationMap → NavigationPlan → Prop}
    (h : AppInv A Q m₀ a w) (hsound : A.sound w → A'.sound v)
    (hmay : ∀ requestId, A.mayStart requestId w → A'.mayStart requestId v)
    (hQ : ∀ requestId m plan, Q requestId m plan → Q' requestId m plan) : AppInv A' Q' m₀ a v := by
  refine ⟨hsound h.sound, fun requestId t hlookup => (h.tasks requestId t hlookup).imp rfl hsound
    (hmay requestId) id (fun _ => id) id, fun requestId t hlookup hgoing => ?_, h.pose, h.pending,
    h.kept, h.clock⟩
  have hplanned := h.planned requestId t hlookup hgoing
  cases hplan : t.plan with
  | navigate plan =>
    rw [hplan] at hplanned
    exact hQ requestId a.map plan hplanned
  | fetch steps => exact trivial

theorem AppInv.to_but (h : AppInv A Q m₀ a w) : AppInv (A.but requestId) Q m₀ a w :=
  h.imp id (fun _ => .inr) fun _ _ _ => id

/-- An operation begins: its map is the one to compare with. -/
theorem AppInv.begins (h : AppInv A Q m₀ a w) : AppInv A Q a.map a w :=
  ⟨h.sound, h.tasks, h.planned, h.pose, h.pending, .inl rfl, h.clock⟩

theorem AppInv.later {now : ℚ} (h : AppInv A Q m₀ a w) (hnow : a.now ≤ now) :
    AppInv A Q m₀ { a with now } w :=
  ⟨h.sound, fun other t hlookup => (h.tasks other t hlookup).imp rfl id id id (fun _ => id)
    (le_trans · hnow), h.planned, h.pose, h.pending, h.kept, le_trans h.clock hnow⟩

/-- So it is at the beginning. -/
theorem created_inv {config : AppConfig} {m : NavigationMap} {x y : Scalar} {lease : TaskLease}
    (h : create config m x y lease = .ok a) (hsound : A.sound w) : AppInv A Q a.map a w := by
  obtain ⟨cell, hcell, h⟩ := Except.bind_eq_ok_iff.mp h
  cases h
  have hempty : ∀ {requestId : String} {t : AppTask},
      (∅ : AList fun _ : String => AppTask).lookup requestId ≠ some t := by simp
  exact ⟨hsound, fun _ _ hlookup => absurd hlookup hempty,
    fun _ _ hlookup => absurd hlookup hempty, fun _ => free_of_cell_eq hcell,
    fun m hnone => (by cases hnone), .inl rfl, le_rfl⟩

/-! ## 3. The steps of an operation -/

variable {C : Conduct AdapterCall AdapterCall.Reply ω} {now : Scalar}
  {I : RobotApplication → ω → Prop}

/-- The clock goes on, or the operation is refused. -/
theorem clock_keeps {J : RobotApplication → ω → Prop}
    (hI : ∀ a w value, I a w → a.now ≤ value → J { a with now := value } w) :
    Triple C I (clock now) (fun _ => J) fun _ => I := by
  refine bind (M := fun _ => I) (triple_expect (fun _ _ _ _ h => h) fun _ _ _ _ h => h)
    fun value => triple_get_bind fun a => triple_ite (fun _ => triple_throw fun _ _ h => h.2)
      fun hlate => triple_modify ?_
  rintro a w ⟨rfl, h⟩
  exact hI a w value h (not_lt.mp hlate)

theorem lookup_put : (a.put requestId t e).tasks.lookup requestId = some { t with task := e } :=
  AList.lookup_insert _

/-- The task that holds the lease takes a step; its plan is one of the map all the while. -/
theorem withTask_tick {now : ℚ} :
    Triple A.conduct (fun a w => (AppInv A Q m₀ a w ∧ a.lease.owner = some requestId) ∧ a.now = now)
      (withTask requestId (TaskExecutor.tick (.finite now)))
      (fun _ a w => AppInv A Q m₀ a w ∧
        ∀ t, a.tasks.lookup requestId = some t → OnMap (Q requestId) a.map t.plan)
      fun _ => AppInv A Q m₀ := by
  refine triple_get_bind fun a => ?_
  split
  · exact triple_throw fun _ _ h => h.2.1.1
  next t hlookup =>
    refine triple_zoom fun a' => of_state fun e => ?_
    rintro _ w ⟨rfl, rfl, rfl, ⟨h, howner⟩, rfl⟩
    have htask := h.tasks requestId t hlookup
    have hgoing := htask.going howner
    have htick := (A.refines requestId (· = ⟨none⟩) a'.now).triple
      (TaskExecutor.tick_upto rfl (AppTerms.in_time a'.now))
    have hpre : (t.shared a'.lease).Upto (A.terms requestId (· = ⟨none⟩) a'.now) w :=
      htask.imp rfl id id id (fun hterminal => absurd hterminal hgoing) id
    refine (htick _ w hpre).mono ?_
    rintro ⟨error | value, e⟩ v hend
    · exact h.went_on hlookup howner hend
    · refine ⟨h.went_on hlookup howner hend, fun t' hlookup' => ?_⟩
      rw [lookup_put] at hlookup'
      cases hlookup'
      exact h.planned requestId t hlookup hgoing

/-- A task that has come to its end stays as it is when it is cancelled, and so does the lease. -/
theorem AppInv.cancel_ended {reason : String} (h : AppInv A Q m₀ a w)
    (hlookup : a.tasks.lookup requestId = some t) (hterminal : t.task.state.Terminal) :
    Triple C (fun e v => e = t.shared a.lease ∧ v = w)
      (TaskExecutor.cancel (.finite a.now) reason)
      (fun _ e => AppInv A Q m₀ (a.put requestId t e))
      fun _ e => AppInv A Q m₀ (a.put requestId t e) := by
  have hput : ∀ (e : TaskExecutor) (v : ω), v = w ∧ e.state = t.task.state ∧ e.lease = a.lease ∧
      e.Upto (A.terms requestId (Gone requestId) a.now) v → AppInv A Q m₀ (a.put requestId t e) v := by
    rintro e v ⟨rfl, hstate, hlease, htask⟩
    refine h.put hlookup htask (hstate ▸ id) (fun other t' _ hlookup' => ?_)
      (hlease ▸ h.kept)
    rw [hlease]
    exact h.tasks other t' hlookup'
  refine (TaskExecutor.cancel_ended (I := fun e v => v = w ∧ e.state = t.task.state ∧
    e.lease = a.lease ∧ e.Upto (A.terms requestId (Gone requestId) a.now) v) ?_).conseq ?_
      (fun _ => hput) fun _ => hput
  · rintro e v value ⟨rfl, hstate, hlease, htask⟩ hvalue
    exact ⟨rfl, hstate, hlease, htask.later (AppTerms.in_time a.now value hvalue)⟩
  · rintro e v ⟨rfl, rfl⟩
    exact ⟨hterminal, rfl, rfl, rfl, h.tasks requestId t hlookup⟩

/-- **A cancelled task starts nothing**, though it was the one excepted. -/
theorem withTask_cancel {now : ℚ} {reason : String} :
    Triple A.conduct (fun a w => AppInv (A.but requestId) Q m₀ a w ∧ a.now = now)
      (withTask requestId (TaskExecutor.cancel (.finite now) reason)) (fun _ => AppInv A Q m₀)
      fun _ => AppInv A Q m₀ := by
  refine triple_get_bind fun a => ?_
  split
  next hnone =>
    refine triple_throw ?_
    rintro _ w ⟨rfl, h, -⟩
    exact h.of_but fun t hlookup => nomatch hnone.symm.trans hlookup
  next t hlookup =>
    refine triple_zoom fun a' => of_state fun e => ?_
    rintro _ w ⟨rfl, rfl, rfl, h, rfl⟩
    have htask := h.tasks requestId t hlookup
    by_cases hterminal : t.task.state.Terminal
    · have hall := h.of_but fun t' hlookup' => by
        obtain rfl := Option.some.inj (hlookup.symm.trans hlookup')
        rcases htask with h | h | h
        · exact absurd hterminal h.going
        · exact absurd hterminal h.going
        · exact .inr (.inr ⟨h.sound, h.terminal, h.run, h.lease, h.time, trivial⟩)
      exact hall.cancel_ended hlookup hterminal _ w ⟨rfl, rfl⟩
    · have hlive := htask.live hterminal
      have howner := htask.held hterminal
      have hcancel := (A.refines requestId (· = ⟨none⟩) a'.now).triple
        (TaskExecutor.cancel_parting (T := A.terms requestId (· = ⟨none⟩) a'.now) rfl reason
          ⟨h.clock, le_rfl⟩)
      refine (hcancel _ w ⟨⟨hlive.sound, hlive.going, hlive.run, hlive.held, hlive.time⟩,
        hlive.time⟩).mono ?_
      rintro ⟨error | value, e⟩ v hend
      · exact hend.elim
      · exact h.went_on hlookup howner (.inr hend)

theorem commit_keeps {raised : Raised → RobotApplication → ω → Prop} :
    Triple C (AppInv A Q m₀) commitPendingMap (fun _ => AppInv A Q m₀) raised := by
  refine triple_modify fun a w h => ?_
  split
  next m hpending howner =>
    refine ⟨h.sound, fun requestId t hlookup => ?_, fun requestId t hlookup hgoing => ?_, nofun,
      fun m hnone => ?_, .inr howner, h.clock⟩
    · exact (h.tasks requestId t hlookup).other h.sound (howner ▸ nofun) (howner ▸ nofun) le_rfl
    · exact nomatch howner.symm.trans ((h.tasks requestId t hlookup).held hgoing)
    · cases hnone
  · exact h

/-- Where a plan leads to is a free place of its map. -/
def Leads (Q : String → NavigationMap → NavigationPlan → Prop) : Prop :=
  ∀ requestId m plan, Q requestId m plan → m.Free plan.goalX plan.goalY

theorem AppInv.located (h : AppInv A Q m₀ a w) {x y : ℚ} {known : Bool}
    (hfree : known = true → a.map.Free x y) :
    AppInv A Q m₀ { a with x, y, poseKnown := known } w :=
  ⟨h.sound, h.tasks, h.planned, hfree, h.pending, h.kept, h.clock⟩

theorem AppInv.settled (hQ : Leads Q) (h : AppInv A Q m₀ a w) (hplan : OnMap (Q requestId) a.map t.plan) :
    AppInv A Q m₀ (a.settlePose t) w := by
  unfold settlePose
  cases hnavigate : t.plan with
  | navigate plan =>
    rw [hnavigate] at hplan
    dsimp only
    by_cases hterminal : t.task.state.Terminal
    · rw [if_pos hterminal]
      by_cases hexact : a.config.exactGoalSimulation = true ∧ t.task.state = .succeeded
      · rw [if_pos hexact]
        exact h.located fun _ => hQ _ _ plan hplan
      · rw [if_neg hexact]
        exact h.located nofun
    · rw [if_neg hterminal]
      exact h
  | fetch steps =>
    dsimp only
    by_cases hterminal : t.task.state.Terminal
    · rw [if_pos hterminal]
      exact h.located nofun
    · rw [if_neg hterminal]
      exact h

/-! ## 4. The operations -/

theorem tick_keeps (hQ : Leads Q) :
    Triple A.conduct (AppInv A Q m₀) (tick now) (fun _ => AppInv A Q m₀) fun _ => AppInv A Q m₀ := by
  refine bind (clock_keeps fun _ _ _ h => h.later) fun _ => triple_get_bind fun a => ?_
  split
  · exact bind (commit_keeps.conseq (fun _ _ h => h.2) (fun _ _ _ h => h) fun _ _ _ h => h)
      fun _ => triple_pure fun _ _ h => h
  next owner howner =>
    refine bind (withTask_tick.conseq ?_ (fun _ _ _ h => h) fun _ _ _ h => h) fun _ =>
      bind (M := fun _ => AppInv A Q m₀) (triple_modify ?_) fun _ =>
        bind commit_keeps fun _ => triple_get_bind fun a => bind
          (triple_expect (fun _ _ _ _ h => h.2) fun _ _ _ _ h => h.2) fun _ =>
            triple_pure fun _ _ h => h
    · rintro _ w ⟨rfl, h⟩
      exact ⟨⟨h, howner⟩, rfl⟩
    · rintro a w ⟨h, hplan⟩
      split
      · exact h
      next t hlookup => exact h.settled hQ (hplan t hlookup)

/-- A cancellation, once the clock has gone on. -/
theorem cancel_after {now : Scalar}
    (hclock : Triple A.conduct I (clock now) (fun _ => AppInv (A.but requestId) Q m₀)
      fun _ => AppInv A Q m₀) :
    Triple A.conduct I (cancel requestId now) (fun _ => AppInv A Q m₀) fun _ => AppInv A Q m₀ := by
  refine bind hclock fun _ => triple_get_bind fun a => ?_
  split
  next hnone =>
    refine triple_throw ?_
    rintro _ w ⟨rfl, h⟩
    exact h.of_but fun t hlookup => nomatch hnone.symm.trans hlookup
  next t hlookup =>
    refine bind (M := fun _ a' w => AppInv (A.but requestId) Q m₀ a' w ∧ a'.now = a.now)
      (triple_modify ?_) fun _ => bind withTask_cancel fun _ => triple_get_bind fun a =>
        triple_expect (fun _ _ _ _ h => h.2) fun _ _ _ _ h => h.2
    rintro _ w ⟨rfl, h⟩
    split
    · exact ⟨h, rfl⟩
    · exact ⟨h.located nofun, rfl⟩

theorem cancel_keeps :
    Triple A.conduct (AppInv A Q m₀) (cancel requestId now) (fun _ => AppInv A Q m₀)
      fun _ => AppInv A Q m₀ :=
  cancel_after (clock_keeps fun _ _ _ h hnow => (h.later hnow).to_but)

/-- Where the clock cannot be refused, the excepted request is cancelled. -/
theorem cancel_excepted {now : ℚ} :
    Triple A.conduct (fun a w => AppInv (A.but requestId) Q m₀ a w ∧ a.now ≤ now)
      (cancel requestId (.finite now)) (fun _ => AppInv A Q m₀) fun _ => AppInv A Q m₀ := by
  refine cancel_after (bind (M := fun value a w => value = now ∧
    AppInv (A.but requestId) Q m₀ a w ∧ a.now ≤ now) (triple_expect ?_ ?_) fun value =>
      triple_get_bind fun a => triple_ite (fun hlate => triple_throw ?_) fun _ => triple_modify ?_)
  · rintro value hvalue a w h
    exact ⟨(Scalar.finite.inj (seconds_eq_ok hvalue).1).symm, h⟩
  · rintro error herror a w ⟨h, hnow⟩
    rw [seconds, if_neg (not_lt.mpr (le_trans h.clock hnow))] at herror
    cases herror
  · rintro _ w ⟨rfl, rfl, h, hnow⟩
    exact absurd hlate (not_lt.mpr hnow)
  · rintro _ w ⟨rfl, rfl, h, hnow⟩
    exact h.later hnow

theorem replaceMap_keeps {m : NavigationMap} :
    Triple A.conduct (AppInv A Q m₀) (replaceMap m now) (fun _ => AppInv A Q m₀)
      fun _ => AppInv A Q m₀ := by
  refine bind (clock_keeps fun _ _ _ h => h.later) fun _ => triple_get_bind fun a =>
    triple_ite (fun _ => triple_ite (fun _ => triple_throw fun _ _ h => h.2) fun _ =>
      triple_pure fun _ _ h => h.2) fun hnew => ?_
  split
  · exact triple_ite (fun _ => triple_throw fun _ _ h => h.2) fun _ => triple_pure fun _ _ h => h.2
  · refine bind (M := fun _ => AppInv A Q m₀) (triple_modify ?_) fun _ =>
      bind (M := fun _ => AppInv A Q m₀) (triple_get_bind fun a => ?_) fun _ => commit_keeps
    · rintro _ w ⟨rfl, h⟩
      refine ⟨h.sound, h.tasks, h.planned, nofun, ?_, h.kept, h.clock⟩
      rintro m' ⟨⟩
      exact hnew
    · split
      · exact triple_pure fun _ _ h => h.2
      · refine withTask_cancel.conseq ?_ (fun _ _ _ h => h) fun _ _ _ h => h
        rintro _ w ⟨rfl, h⟩
        exact ⟨h.to_but, rfl⟩

theorem localize_keeps {x y : Scalar} :
    Triple C (AppInv A Q m₀) (localizeSimulated x y now) (fun _ => AppInv A Q m₀)
      fun _ => AppInv A Q m₀ := by
  refine bind (clock_keeps fun _ _ _ h => h.later) fun _ => triple_get_bind fun a =>
    triple_ite (fun _ => triple_throw fun _ _ h => h.2) fun _ => bind
      (M := fun _ a' w => a'.map.Free x.value y.value ∧ AppInv A Q m₀ a' w)
        (triple_expect ?_ fun _ _ _ _ h => h.2) fun _ => triple_modify fun a w h =>
          ⟨h.2.sound, h.2.tasks, h.2.planned, fun _ => h.1, h.2.pending, h.2.kept, h.2.clock⟩
  rintro cell hcell _ w ⟨rfl, h⟩
  exact ⟨free_of_cell_eq hcell, h⟩

/-! ### A new request -/

/-- What is planned here, from a pose that is known, is a plan of the map. -/
def Plans (Q : NavigationMap → NavigationPlan → Prop) (a : RobotApplication) : Prop :=
  ∀ goal plan, a.poseKnown = true → a.map.plan goal a.x a.y = .ok plan → Q a.map plan

theorem onMap_of_plan {operation : Operation} {plan : Planned} (hplans : Plans (Q requestId) a)
    (h : a.plan requestId operation = .ok plan) : OnMap (Q requestId) a.map plan := by
  unfold RobotApplication.plan at h
  split at h
  next document =>
    obtain ⟨goal, -, h⟩ := Except.bind_eq_ok_iff.mp h
    split at h
    next => cases h
    next hknown =>
      obtain ⟨plan', hplan', h⟩ := Except.bind_eq_ok_iff.mp h
      cases h
      exact hplans goal plan' (not_not.mp hknown) hplan'
  next =>
    split at h
    · cases h
    · obtain ⟨steps, -, h⟩ := Except.bind_eq_ok_iff.mp h
      cases h
      trivial
  next => cases h

/-- A request may be taken on here. -/
def Ready (A : AppTerms ω) (Q : String → NavigationMap → NavigationPlan → Prop)
    (m₀ : NavigationMap) (request : RequestDocument) (a : RobotApplication) (w : ω) : Prop :=
  (AppInv A Q m₀ a w ∧ a.map = m₀) ∧
    ∀ requestId, request.requestId = some requestId → Plans (Q requestId) a

theorem status_eq_ok {s : TaskStatus} (h : a.status requestId = .ok s) : s.requestId = requestId := by
  unfold status at h
  split at h
  · cases h
  · cases h
    rfl

variable {request : RequestDocument}

theorem AppInv.taken {plan : Planned} (h : AppInv A Q m₀ a w) (hmap : a.map = m₀)
    (hplan : OnMap (Q requestId) a.map plan)
    (hnew : TaskExecutor.New requestId a.lease (.finite a.now) e) :
    AppInv (A.but requestId) Q m₀
      { a with tasks := a.tasks.insert requestId ⟨request, e, plan⟩, lease := e.lease } w := by
  have htime : e.now = a.now := (Scalar.finite.inj hnew.time).symm
  refine ⟨h.sound, fun other t hlookup => ?_, fun other t hlookup hgoing => ?_, h.pose, h.pending,
    .inl hmap, h.clock⟩
  · by_cases hsame : other = requestId
    · subst hsame
      rw [AList.lookup_insert] at hlookup
      cases hlookup
      refine .inl ⟨⟨h.sound, ?_, hnew.runId, hnew.held, htime.le⟩, .inl rfl⟩
      show ¬ e.state.Terminal
      rw [hnew.state]
      decide
    · rw [AList.lookup_insert_ne hsame] at hlookup
      refine (h.tasks other t hlookup).other h.sound (hnew.free ▸ nofun) ?_ le_rfl
      show e.lease.owner ≠ some other
      rw [hnew.held, hnew.runId]
      exact fun hother => hsame (Option.some.inj hother).symm
  · by_cases hsame : other = requestId
    · subst hsame
      rw [AList.lookup_insert] at hlookup
      cases hlookup
      exact hplan
    · rw [AList.lookup_insert_ne hsame] at hlookup
      exact h.planned other t hlookup hgoing

variable {admission : Except Raised Bool}

theorem take_keeps :
    Triple C (fun a w => (AppInv A Q m₀ a w ∧ a.map = m₀) ∧ Plans (Q requestId) a)
      (take request requestId admission)
      (fun s a w => AppInv (A.but requestId) Q m₀ a w ∧ s.requestId = requestId)
      fun _ => AppInv A Q m₀ := by
  refine bind (triple_expect (fun _ _ _ _ h => h) fun _ _ _ _ h => h.1.1) fun admitted =>
    triple_get_bind fun a => triple_ite (fun _ => triple_throw fun _ _ h => h.2.1.1) fun _ =>
      triple_ite (fun _ => triple_throw fun _ _ h => h.2.1.1) fun _ =>
        triple_ite (fun _ => triple_throw fun _ _ h => h.2.1.1) fun _ => ?_
  refine bind (M := fun plan a' w => a' = a ∧ (AppInv A Q m₀ a w ∧ a.map = m₀) ∧
    OnMap (Q requestId) a.map plan) (triple_expect ?_ fun _ _ _ _ h => h.2.1.1) fun plan => bind
      (M := fun e a' w => a' = a ∧ (AppInv A Q m₀ a w ∧ a.map = m₀) ∧ OnMap (Q requestId) a.map plan ∧
        TaskExecutor.New requestId a.lease (.finite a.now) e)
      (triple_expect ?_ fun _ _ _ _ h => h.1 ▸ h.2.1.1) fun e => bind
        (M := fun _ a w => AppInv (A.but requestId) Q m₀ a w ∧
          (a.tasks.lookup requestId).isSome) (triple_modify ?_) fun _ =>
            triple_get_bind fun a => triple_expect ?_ ?_
  · rintro plan hplan _ w ⟨rfl, h, hplans⟩
    exact ⟨rfl, h, onMap_of_plan hplans hplan⟩
  · rintro e he _ w ⟨rfl, h, hplan⟩
    exact ⟨rfl, h, hplan, TaskExecutor.create_eq_ok he⟩
  · rintro _ w ⟨rfl, ⟨h, hmap⟩, hplan, hnew⟩
    refine ⟨h.taken hmap hplan hnew, ?_⟩
    rw [AList.lookup_insert]
    rfl
  · rintro s hs _ w ⟨rfl, h, -⟩
    exact ⟨h, status_eq_ok hs⟩
  · rintro error herror _ w ⟨rfl, -, hsome⟩
    unfold status at herror
    split at herror
    next hnone =>
      rw [hnone] at hsome
      cases hsome
    next => cases herror

theorem submit_keeps :
    Triple C (Ready A Q m₀ request) (submit request now admission)
      (fun s a w => AppInv (A.but s.requestId) Q m₀ a w ∧ request.requestId = some s.requestId)
      fun _ => AppInv A Q m₀ := by
  refine bind ((clock_keeps (I := Ready A Q m₀ request) (J := Ready A Q m₀ request)
    fun _ _ _ h hle => ⟨⟨h.1.1.later hle, h.1.2⟩, h.2⟩).conseq (fun _ _ h => h)
      (fun _ _ _ h => h) fun _ _ _ h => h.1.1) fun _ => bind (M := fun requestId a w =>
        Ready A Q m₀ request a w ∧ request.requestId = some requestId)
          (triple_expect ?_ fun _ _ _ _ h => h.1.1) fun requestId => triple_get_bind fun a => ?_
  · intro requestId hid a w h
    refine ⟨h, ?_⟩
    cases hrequest : request.requestId with
    | none =>
      rw [hrequest] at hid
      cases hid
    | some id =>
      rw [hrequest] at hid
      exact congrArg some (identifier_eq_ok hid).1.symm
  · split
    next t hlookup =>
      refine triple_ite (fun _ => triple_throw fun _ _ h => h.2.1.1.1) fun _ =>
        triple_expect ?_ fun _ _ _ _ h => h.2.1.1.1
      rintro s hs _ w ⟨rfl, ⟨⟨h, -⟩, -⟩, hid⟩
      rw [status_eq_ok hs]
      exact ⟨h.to_but, hid⟩
    · rintro a w ⟨rfl, ⟨h, hplans⟩, hid⟩
      refine (take_keeps a w ⟨h, hplans requestId hid⟩).mono ?_
      rintro ⟨error | s, a'⟩ v hend
      · exact hend
      · obtain ⟨hall, rfl⟩ := hend
        exact ⟨hall, hid⟩

end RobotApplication

/-! ## 5. Every run -/

/-- Nothing is known of the adapter. -/
def AppTerms.any : AppTerms Unit where
  sound _ := True
  mayStart _ _ := True

theorem AppTerms.any_refines :
    Refines any.conduct (Oracle.conduct AdapterCall AdapterCall.Reply) fun _ => () where
  interferes _ := rfl
  permits _ := trivial
  answers _ := ⟨trivial, fun _ _ => trivial⟩

section Runs

open RobotApplication

variable {Q : String → NavigationMap → NavigationPlan → Prop}
  {m₀ : NavigationMap} {a : RobotApplication}

theorem RobotApplication.AppInv.of_any {requestId : String}
    (h : AppInv (AppTerms.any.but requestId) Q m₀ a ()) : AppInv AppTerms.any Q m₀ a () :=
  h.imp id (fun _ _ => trivial) fun _ _ _ => id

/-- What a request that is submitted now is planned as. -/
def AppOp.Planning (Q : String → NavigationMap → NavigationPlan → Prop)
    (a : RobotApplication) : AppOp → Prop
  | .submit request .. => ∀ requestId, request.requestId = some requestId →
      Plans (Q requestId) a
  | _ => True

/-- **What every operation keeps.** -/
theorem AppOp.keeps (hQ : Leads Q) (op : AppOp) :
    Triple AppTerms.any.conduct
      (fun a w => (AppInv AppTerms.any Q m₀ a w ∧ a.map = m₀) ∧ op.Planning Q a) op.action
      (fun _ => AppInv AppTerms.any Q m₀) fun _ => AppInv AppTerms.any Q m₀ := by
  cases op with
  | submit request now admission =>
    exact bind ((submit_keeps (A := AppTerms.any)).conseq (fun _ _ h => h)
      (fun _ _ _ h => h.1.of_any) fun _ _ _ h => h) fun _ => triple_pure fun _ _ h => h
  | tick now =>
    exact bind ((tick_keeps hQ).conseq (fun _ _ h => h.1.1) (fun _ _ _ h => h)
      fun _ _ _ h => h) fun _ => triple_pure fun _ _ h => h
  | cancel requestId now =>
    exact bind (cancel_keeps.conseq (fun _ _ h => h.1.1) (fun _ _ _ h => h)
      fun _ _ _ h => h) fun _ => triple_pure fun _ _ h => h
  | replaceMap m now =>
    exact replaceMap_keeps.conseq (fun _ _ h => h.1.1) (fun _ _ _ h => h) fun _ _ _ h => h
  | localize x y now =>
    exact localize_keeps.conseq (fun _ _ h => h.1.1) (fun _ _ _ h => h) fun _ _ _ h => h

/-- An operation, and who answers its calls. -/
abbrev AppEvent := AppOp × Oracle AdapterCall AdapterCall.Reply

def RobotApplication.after (a : RobotApplication) (l : List AppEvent) : RobotApplication :=
  (run (consult AppOp.action) (a, []) l).1

/-- The request was submitted while the pose was known, on this map, and this was its plan. -/
def PlannedIn (a : RobotApplication) (l : List AppEvent) (requestId : String) (m : NavigationMap)
    (plan : NavigationPlan) : Prop :=
  ∃ before request now admission oracle later,
    l = before ++ (.submit request now admission, oracle) :: later ∧
    request.requestId = some requestId ∧ (a.after before).poseKnown = true ∧
    (a.after before).map = m ∧
    ∃ goal, m.plan goal (a.after before).x (a.after before).y = .ok plan

variable {l : List AppEvent}

theorem leads_plannedIn : Leads (PlannedIn a l) := by
  rintro requestId m plan ⟨before, request, now, admission, oracle, later, -, -, -, -, goal, hplan⟩
  exact (plan_eq_ok hplan).2.2

theorem PlannedIn.later {e : AppEvent} {requestId : String} {m : NavigationMap}
    {plan : NavigationPlan} (h : PlannedIn a l requestId m plan) :
    PlannedIn a (l ++ [e]) requestId m plan := by
  obtain ⟨before, request, now, admission, oracle, later, rfl, hrest⟩ := h
  exact ⟨before, request, now, admission, oracle, later ++ [e], by simp, hrest⟩

theorem after_step {e : AppEvent} (h : AppInv AppTerms.any (PlannedIn a l) m₀ (a.after l) ()) :
    AppInv AppTerms.any (PlannedIn a (l ++ [e])) (a.after l).map (a.after (l ++ [e])) () := by
  have hbegins : AppInv AppTerms.any (PlannedIn a (l ++ [e])) (a.after l).map (a.after l) () :=
    h.begins.imp id (fun _ => id) fun _ _ _ => PlannedIn.later
  have hplanning : e.1.Planning (PlannedIn a (l ++ [e])) (a.after l) := by
    obtain ⟨op, oracle⟩ := e
    cases op with
    | submit request now admission =>
      exact fun requestId hid goal plan hknown hplan =>
        ⟨l, request, now, admission, oracle, [], rfl, hid, hknown, rfl, goal, hplan⟩
    | tick now => trivial
    | cancel requestId now => trivial
    | replaceMap m now => trivial
    | localize x y now => trivial
  have hleads := leads_plannedIn (a := a) (l := l ++ [e])
  have hend : a.after (l ++ [e]) = (consult AppOp.action (run (consult AppOp.action) (a, []) l) e).1 :=
    congrArg Prod.fst (run_append _ l [e])
  rw [hend]
  exact consulted (AppTerms.any_refines.triple (e.1.keeps hleads)) e.2
    ⟨⟨hbegins, rfl⟩, hplanning⟩

/-- In every run, what was planned was planned in the run. -/
theorem after_inv (h : AppInv AppTerms.any (PlannedIn a []) a.map a ()) (l : List AppEvent) :
    ∃ m, AppInv AppTerms.any (PlannedIn a l) m (a.after l) () := by
  induction l using List.reverseRecOn with
  | nil => exact ⟨a.map, h⟩
  | append_singleton l e ih =>
    obtain ⟨m, ih⟩ := ih
    exact ⟨(a.after l).map, after_step ih⟩

/-- The map, the pose and the tasks agree at the end of a run. -/
structure Consistent (a : RobotApplication) (l : List AppEvent) : Prop where
  /-- A pose that is known is a free place of the map. -/
  pose : (a.after l).poseKnown = true → (a.after l).map.Free (a.after l).x (a.after l).y
  /-- A navigation that goes on was planned on this map, from a pose that was known. -/
  planned : ∀ requestId t plan, (a.after l).tasks.lookup requestId = some t →
    ¬ t.task.state.Terminal → t.plan = .navigate plan →
    PlannedIn a l requestId (a.after l).map plan
  /-- Nobody holds the lease where the map was replaced. -/
  replaced : ∀ before e, l = before ++ [e] → (a.after l).map ≠ (a.after before).map →
    (a.after l).lease.owner = none
  /-- A revision of a map denotes one document. -/
  revisions : ∀ m, (a.after l).pendingMap = some m →
    (m.mapId, m.revision) = ((a.after l).map.mapId, (a.after l).map.revision) →
    m.document = (a.after l).map.document
  /-- A task that goes on holds the lease. -/
  owner : ∀ requestId t, (a.after l).tasks.lookup requestId = some t → ¬ t.task.state.Terminal →
    (a.after l).lease.owner = some requestId
  /-- One task goes on at a time. -/
  single : ∀ first second t u, (a.after l).tasks.lookup first = some t →
    (a.after l).tasks.lookup second = some u → ¬ t.task.state.Terminal →
    ¬ u.task.state.Terminal → first = second

/-- **The map, the pose and the tasks agree** whatever is asked, in whatever order, and whatever
the adapter answers. -/
theorem map_pose_consistent {config : AppConfig} {m : NavigationMap} {x y : Scalar}
    {lease : TaskLease} (h : RobotApplication.create config m x y lease = .ok a)
    (l : List AppEvent) : Consistent a l := by
  have hcreated := created_inv h (A := AppTerms.any) (Q := PlannedIn a []) (w := ()) trivial
  obtain ⟨m₀, hall⟩ := after_inv hcreated l
  have howner : ∀ requestId t, (a.after l).tasks.lookup requestId = some t →
      ¬ t.task.state.Terminal → (a.after l).lease.owner = some requestId :=
    fun requestId t hlookup hgoing => (hall.tasks requestId t hlookup).held hgoing
  refine ⟨hall.pose, ?planned, ?replaced, ?revisions, howner, ?single⟩
  case planned =>
    intro requestId t plan hlookup hgoing hplan
    have hplanned := hall.planned requestId t hlookup hgoing
    rwa [hplan] at hplanned
  case replaced =>
    rintro before e rfl hnew
    obtain ⟨m₁, hbefore⟩ := after_inv hcreated before
    exact (after_step hbefore).kept.resolve_left hnew
  case revisions => exact fun m hpending hsame => absurd hsame (hall.pending m hpending)
  case single =>
    intro first second t u hfirst hsecond ht hu
    exact Option.some.inj ((howner first t hfirst ht).symm.trans (howner second u hsecond hu))

abbrev emptyRoom : MapDocument where
  mapId := "home"
  revision := "1"
  floorId := "ground"
  frameId := "map"
  floorZ := .finite 0
  resolution := .finite 1
  originX := .finite 0
  originY := .finite 0
  rows := [".....", ".....", ".....", ".....", "....."]
  robotRadius := .finite (3 / 10)
  clearance := .finite (1 / 10)
  surfaceTolerance := .finite (1 / 20)

/-- Its map; the cells of the middle are free. -/
abbrev emptyMap : NavigationMap where
  document := emptyRoom
  floorZ := 0
  resolution := 1
  originX := 0
  originY := 0
  tolerance := 1 / 20
  padding := 1
  scaled := by decide

abbrev emptyConfig : AppConfig where
  exactGoalSimulation := true
  taskTimeout := 300
  planFetch _ := .error (invalidTask "not in this world")
  timeout_bounds := by decide +kernel

abbrev emptyApplication (config : AppConfig) : RobotApplication where
  config
  map := emptyMap
  x := 3 / 2
  y := 3 / 2
  lease := ⟨none⟩
  tasks := ∅
  now := 0
  poseKnown := true
  pendingMap := none

theorem create_empty (config : AppConfig) : RobotApplication.create config emptyMap
    (.finite (3 / 2)) (.finite (3 / 2)) ⟨none⟩ = .ok (emptyApplication config) := by
  have hcell : emptyMap.cell (.finite (3 / 2)) (.finite (3 / 2)) = .ok (1, 1) := by
    decide +kernel
  rw [RobotApplication.create, hcell]
  rfl

/-- On the map of an empty room, where the robot is found again and the map is replaced. -/
theorem map_pose_consistent_room : create emptyRoom = .ok emptyMap ∧
    Consistent (emptyApplication emptyConfig)
      [(.localize (.finite 2) (.finite 2) (.finite 1), fun _ _ => .error (keyError "home")),
        (.replaceMap { emptyMap with document := { emptyRoom with revision := "2" } } (.finite 2),
          fun _ _ => .error (keyError "home"))] :=
  ⟨by decide +kernel, map_pose_consistent (create_empty emptyConfig) _⟩

end Runs

end MobileBimanual.Tasks
