/-
# A request is carried out at most once

The adapter starts the steps of a request in one process at most, and only after its id has been
committed, however often the process is killed and whatever fails on the way.

A request that was submitted is the one whose task may not start yet (`AppTerms.but`), until it is
committed (`persist_keeps`).

* `requests_at_most_once`: this, and what a post of a known request is answered, in every history;
* `repeated_post_refused`: a post of a stored request is refused while a fault is latched.
-/
import MobileBimanual.Tasks.Gateway
import MobileBimanual.Tasks.MapConsistency

namespace MobileBimanual.Tasks

open Activity Oracle Machine
open Program (Conduct Holds Within)
open Triple RobotApplication

/-! ## 1. What the application does to its clock, and what it calls -/

def AdapterCall.Starts : AdapterCall → Prop
  | .start .. => True
  | _ => False

namespace TaskExecutor

/-- A stop starts nothing. -/
abbrev Quiet : Frame AdapterCall TaskExecutor := Frame.free fun c => ¬ c.Starts

theorem keeps_release : releaseLease.Keeps Quiet :=
  keeps_get_bind fun _ => (keeps_expect _).bind fun _ => keeps_modify fun _ => trivial

theorem keeps_ensureStopRequested : ensureStopRequested.Keeps Quiet := by
  refine keeps_get_bind fun e => ?_
  split
  · exact Keeps.bind (keeps_get_bind fun e => keeps_invoke fun _ => id) fun _ =>
      keeps_modify fun _ => trivial
  · exact keeps_pure _

theorem keeps_confirmStop : confirmStop.Keeps Quiet := by
  refine keeps_ensureStopRequested.bind fun _ => Keeps.bind
    (keeps_get_bind fun e => keeps_invoke fun _ => id) fun feedback => keeps_get_bind fun e =>
      (keeps_expect _).bind fun _ => ?_
  split
  · exact Keeps.bind (keeps_modify fun _ => trivial) fun _ =>
      keeps_release.bind fun _ => keeps_pure _
  · exact keeps_pure _

theorem keeps_cancel {now : Scalar} {reason : String} : (cancel now reason).Keeps Quiet := by
  refine Keeps.bind ((keeps_expect _).bind fun _ => keeps_get_bind fun e => ?_) fun _ =>
    keeps_get_bind fun e => ?_
  · split
    · exact keeps_throw _
    · exact keeps_modify fun _ => trivial
  · split
    · exact keeps_pure _
    · refine (keeps_modify fun _ => trivial).bind fun _ =>
        (Keeps.tryCatch keeps_confirmStop fun _ => keeps_pure _).bind fun confirmed => ?_
      split
      · exact keeps_pure _
      · exact keeps_modify fun _ => trivial

end TaskExecutor

theorem isSome_insert {β : Type} {table : AList fun _ : String => β} {key other : String} {b : β}
    (h : (table.lookup other).isSome) : ((table.insert key b).lookup other).isSome := by
  by_cases hsame : other = key
  · subst hsame
    rw [AList.lookup_insert]
    rfl
  · rwa [AList.lookup_insert_ne hsame]

namespace RobotApplication

/-- The clock is not set beyond `bound`, and every task stays. -/
def upTo (calls : AdapterCall → Prop) (bound : ℚ) : Frame AdapterCall RobotApplication where
  calls _ := calls
  changes a a' := (a.now ≤ bound → a'.now ≤ bound) ∧
    ∀ requestId, (a.tasks.lookup requestId).isSome → (a'.tasks.lookup requestId).isSome
  refl _ := ⟨id, fun _ => id⟩
  trans h h' := ⟨h'.1 ∘ h.1, fun requestId => h'.2 requestId ∘ h.2 requestId⟩
  earlier _ := id

variable {calls : AdapterCall → Prop} {bound now : ℚ} {requestId : String}

theorem keeps_clock (hnow : now ≤ bound) : (clock (.finite now)).Keeps (upTo calls bound) := by
  unfold clock
  cases hvalue : seconds "now_s" (.finite now) with
  | error error => exact keeps_throw _
  | ok value =>
    obtain rfl := Scalar.finite.inj (seconds_eq_ok hvalue).1
    show Keeps _ (do
      if now < (← get).now then throw (invalidTask "application clock moved backwards")
      else modify fun a => { a with now } : Application Unit)
    refine keeps_get_bind fun a => ?_
    split
    · exact keeps_throw _
    · exact keeps_modify fun a => ⟨fun _ => hnow, fun _ => id⟩

theorem keeps_withTask {α : Type} {x : Execution α} (hx : x.Keeps (Frame.free calls)) :
    (withTask requestId x).Keeps (upTo calls bound) := by
  refine keeps_get_bind fun a => ?_
  split
  · exact keeps_throw _
  · exact hx.zoom (fun _ _ => id) fun a e _ => ⟨id, fun other => isSome_insert⟩

theorem keeps_commit : commitPendingMap.Keeps (upTo calls bound) := by
  refine keeps_modify fun a => ?_
  split
  · exact ⟨id, fun _ => id⟩
  · exact ⟨id, fun _ => id⟩

theorem settlePose_frame (a : RobotApplication) (t : AppTask) :
    (upTo calls bound).changes a (a.settlePose t) := by
  unfold settlePose
  split
  · split
    · split
      · exact ⟨id, fun _ => id⟩
      · exact ⟨id, fun _ => id⟩
    · exact ⟨id, fun _ => id⟩
  · exact ⟨id, fun _ => id⟩

theorem keeps_true {α : Type} (x : Execution α) : x.Keeps (Frame.free fun _ => True) :=
  fun s => Program.within_true (x.program s)

theorem keeps_tick (hnow : now ≤ bound) :
    (tick (.finite now)).Keeps (upTo (fun _ => True) bound) := by
  refine (keeps_clock hnow).bind fun _ => keeps_get_bind fun a => ?_
  split
  · exact keeps_commit.bind fun _ => keeps_pure _
  · refine (keeps_withTask (keeps_true _)).bind fun _ => Keeps.bind (keeps_modify fun a => ?_)
      fun _ => keeps_commit.bind fun _ => keeps_get_bind fun a => (keeps_expect _).bind
        fun _ => keeps_pure _
    split
    · exact ⟨id, fun _ => id⟩
    · exact settlePose_frame a _

theorem keeps_cancel (hnow : now ≤ bound) :
    (cancel requestId (.finite now)).Keeps (upTo (fun c => ¬ c.Starts) bound) := by
  refine (keeps_clock hnow).bind fun _ => keeps_get_bind fun a => ?_
  split
  · exact keeps_throw _
  · refine Keeps.bind (keeps_modify fun a => ?_) fun _ =>
      (keeps_withTask TaskExecutor.keeps_cancel).bind fun _ => keeps_get_bind fun a =>
        keeps_expect _
    split
    · exact ⟨id, fun _ => id⟩
    · exact ⟨id, fun _ => id⟩

theorem keeps_submit {request : RequestDocument} {admission : Except Raised Bool}
    (hnow : now ≤ bound) :
    (submit request (.finite now) admission).Keeps (upTo (fun c => ¬ c.Starts) bound) := by
  refine (keeps_clock hnow).bind fun _ => (keeps_expect _).bind fun requestId =>
    keeps_get_bind fun a => ?_
  split
  · split
    · exact keeps_throw _
    · exact keeps_expect _
  · refine (keeps_expect _).bind fun admitted => keeps_get_bind fun a => ?_
    split
    · exact keeps_throw _
    · split
      · exact keeps_throw _
      · split
        · exact keeps_throw _
        · refine (keeps_expect _).bind fun plan => (keeps_expect _).bind fun e =>
            Keeps.bind (keeps_modify fun a => ⟨id, fun other => isSome_insert⟩) fun _ =>
              keeps_get_bind fun a => keeps_expect _

theorem keeps_replaceMap {m : NavigationMap} (hnow : now ≤ bound) :
    (replaceMap m (.finite now)).Keeps (upTo (fun _ => True) bound) := by
  refine (keeps_clock hnow).bind fun _ => keeps_get_bind fun a => ?_
  split
  · split
    · exact keeps_throw _
    · exact keeps_pure _
  · split
    · split
      · exact keeps_throw _
      · exact keeps_pure _
    · refine Keeps.bind (keeps_modify fun a => ⟨id, fun _ => id⟩) fun _ => Keeps.bind
        (keeps_get_bind fun a => ?_) fun _ => keeps_commit
      split
      · exact keeps_pure _
      · exact keeps_withTask (keeps_true _)

theorem keeps_localize {x y : Scalar} (hnow : now ≤ bound) :
    (localizeSimulated x y (.finite now)).Keeps (upTo (fun _ => True) bound) := by
  refine (keeps_clock hnow).bind fun _ => keeps_get_bind fun a => ?_
  split
  · exact keeps_throw _
  · exact (keeps_expect _).bind fun _ => keeps_modify fun a => ⟨id, fun _ => id⟩

end RobotApplication

/-! ## 2. The world -/

namespace GatewayWorld

/-- What was started is committed, and belongs to one process; what is committed is seen. -/
structure Sound (w : GatewayWorld) : Prop where
  stored : ∀ e ∈ w.started, (w.durable.lookup (requestOf e.2)).isSome
  once : ∀ e ∈ w.started, ∀ e' ∈ w.started, requestOf e.2 = requestOf e'.2 → e.1 = e'.1
  seen : ∀ requestId, (w.durable.lookup requestId).isSome → (w.working.lookup requestId).isSome
  clock : 0 ≤ w.now

/-- The request is committed, and has not been started by another process. -/
structure Cleared (requestId : String) (w : GatewayWorld) : Prop where
  plain : '/' ∉ requestId.toList
  stored : (w.durable.lookup requestId).isSome
  mine : ∀ e ∈ w.started, requestOf e.2 = requestId → e.1 = w.lifetime

theorem requestOf_goal {requestId : String} (stepId : String) (h : '/' ∉ requestId.toList) :
    requestOf (requestId ++ "/" ++ stepId) = requestId := by
  have hall : ∀ c ∈ requestId.toList, decide (c ≠ '/') = true := fun c hc =>
    decide_eq_true fun hslash => h (hslash ▸ hc)
  have hgoal : (requestId ++ "/" ++ stepId).toList = requestId.toList ++ '/' :: stepId.toList := by
    simp
  rw [requestOf, hgoal, List.takeWhile_append_of_pos hall]
  simp

/-- What a process does to the world. -/
structure Later (w v : GatewayWorld) : Prop where
  sound : v.Sound
  cleared : ∀ requestId, Cleared requestId w → Cleared requestId v
  now : w.now ≤ v.now

variable {w v : GatewayWorld} {requestId : String}

theorem noted_later (h : w.Sound) {call : AdapterCall}
    (hallowed : call.Allowed requestId (Cleared requestId w)) : Later w (w.noted call) := by
  have hsame : Later w w := ⟨h, fun _ => id, le_rfl⟩
  cases call with
  | start goal step now =>
    obtain ⟨hcleared, stepId, rfl⟩ := hallowed
    have hgoal := requestOf_goal stepId hcleared.plain
    refine ⟨⟨?stored, ?once, h.seen, h.clock⟩, fun other hother =>
      ⟨hother.plain, hother.stored, ?mine⟩, le_rfl⟩
    case stored =>
      rintro e (_ | ⟨_, he⟩)
      · rw [hgoal]
        exact hcleared.stored
      · exact h.stored e he
    case once =>
      rintro e (_ | ⟨_, he⟩) e' (_ | ⟨_, he'⟩) hrequest
      · rfl
      · exact (hcleared.mine e' he' (hrequest.symm.trans hgoal)).symm
      · exact hcleared.mine e he (hrequest.trans hgoal)
      · exact h.once e he e' he' hrequest
    case mine =>
      rintro e (_ | ⟨_, he⟩) hrequest
      · rfl
      · exact hother.mine e he hrequest
  | observe goal step now => exact hsame
  | poll goal step now => exact hsame
  | requestStop runId preserveLoad now => exact hsame
  | pollStop runId now => exact hsame

/-- The world goes on, and nothing is started meanwhile. -/
structure Beside (w v : GatewayWorld) : Prop extends Later w v where
  started : v.started = w.started

/-- What is committed stays committed. -/
theorem Beside.of_tables (h : w.Sound) (hstarted : v.started = w.started)
    (hlifetime : v.lifetime = w.lifetime)
    (hdurable : ∀ requestId, (w.durable.lookup requestId).isSome →
      (v.durable.lookup requestId).isSome)
    (hseen : ∀ requestId, (v.durable.lookup requestId).isSome →
      (v.working.lookup requestId).isSome)
    (hnow : w.now ≤ v.now) : Beside w v := by
  refine ⟨⟨⟨?_, ?_, hseen, le_trans h.clock hnow⟩, fun other hother =>
    ⟨hother.plain, hdurable other hother.stored, ?_⟩, hnow⟩, hstarted⟩
  · rw [hstarted]
    exact fun e he => hdurable _ (h.stored e he)
  · rw [hstarted]
    exact h.once
  · rw [hstarted, hlifetime]
    exact hother.mine

theorem Failed.beside (h : w.Sound) (hfailed : w.Failed v) : Beside w v := by
  rcases hfailed with rfl | rfl
  · exact .of_tables h rfl rfl (fun _ => id) h.seen le_rfl
  · exact .of_tables h rfl rfl (fun _ => id) (fun _ => id) le_rfl

theorem commit_beside (h : w.Sound) : Beside w { w with durable := w.working } :=
  .of_tables h rfl rfl h.seen (fun _ => id) le_rfl

/-- The database, the clock and the source of nonces. -/
theorem answers_beside {c : GatewayCall} {reply : c.Reply} (h : w.Sound)
    (hc : ∀ call, c ≠ .adapter call) (hanswers : Answers c w reply v) : Beside w v := by
  have hsame : Beside w w := ⟨⟨h, fun _ => id, le_rfl⟩, rfl⟩
  match c, reply, v, hanswers with
  | .adapter call, _, _, _ => exact absurd rfl (hc call)
  | .monotonic, .ok now, _, ⟨hnow, rfl⟩ =>
    exact .of_tables h rfl rfl (fun _ => id) h.seen hnow
  | .token, .ok _, _, rfl => exact hsame
  | .createTable, .ok _, _, rfl => exact hsame
  | .rows, .ok _, _, ⟨rfl, _⟩ => exact hsame
  | .select _, .ok _, _, ⟨rfl, _⟩ => exact hsame
  | .insert other body result, .ok _, _, rfl =>
    exact .of_tables h rfl rfl (fun _ => id) (fun _ hstored => isSome_insert (h.seen _ hstored))
      le_rfl
  | .update other result, .ok _, _, rfl =>
    refine .of_tables h rfl rfl (fun _ => id) (fun requestId hstored => ?_) le_rfl
    show ((w.working.update other result).lookup requestId).isSome
    unfold Table.update
    split
    · exact h.seen _ hstored
    · exact isSome_insert (h.seen _ hstored)
  | .commit, .ok _, _, rfl => exact commit_beside h
  | .commit, .error _, _, .inl hfailed => exact hfailed.beside h
  | .commit, .error _, _, .inr rfl => exact commit_beside h
  | .createTable, .error _, _, hfailed => exact Failed.beside h hfailed
  | .rows, .error _, _, hfailed => exact Failed.beside h hfailed
  | .select _, .error _, _, hfailed => exact Failed.beside h hfailed
  | .insert .., .error _, _, hfailed => exact Failed.beside h hfailed
  | .update .., .error _, _, hfailed => exact Failed.beside h hfailed

/-- The world in which there is no process. -/
theorem lost_sound (h : w.Sound) : w.lost.Sound :=
  ⟨h.stored, h.once, fun _ => id, le_rfl⟩

/-- What a call may be, and how it is answered. -/
def conduct : Conduct GatewayCall GatewayCall.Reply GatewayWorld where
  interferes w v := v = w
  permits call w := w.Sound ∧ ∀ c, call = .adapter c →
    ∃ requestId, c.Allowed requestId (Cleared requestId w)
  answers := Answers

/-- The adapter, to the application, while the clock is at `now` at least. -/
def terms (now : ℚ) : AppTerms GatewayWorld where
  sound w := w.Sound ∧ now ≤ w.now
  mayStart := Cleared

theorem renames (now : ℚ) :
    Renames (terms now).conduct conduct GatewayCall.adapter fun _ => id where
  interferes := id
  permits h := ⟨h.1.1, fun c hc => GatewayCall.adapter.inj hc ▸ h.2⟩
  answers := by
    rintro call w reply _ ⟨⟨hsound, hnow⟩, requestId, hallowed⟩ rfl
    have hlater := noted_later hsound hallowed
    exact ⟨⟨hlater.sound, le_trans hnow hlater.now⟩, hlater.cleared⟩

end GatewayWorld

/-! ## 3. The gateway -/

namespace Gateway

open GatewayWorld RobotApplication

variable {g g₀ : Gateway} {w v : GatewayWorld} {A : AppTerms GatewayWorld} {requestId : String}
  {P : Gateway → GatewayWorld → Prop}

/-- A navigation that goes on leads to a free place. -/
def ToFree (_ : String) (m : NavigationMap) (plan : NavigationMap.NavigationPlan) : Prop :=
  m.Free plan.goalX plan.goalY

/-- The application is in order, and its clock is not ahead. -/
structure Fits (A : AppTerms GatewayWorld) (g : Gateway) (w : GatewayWorld) : Prop where
  app : AppInv A ToFree g.app.map g.app w
  time : g.app.now ≤ w.now

/-- Between two operations. -/
abbrev Settled (g : Gateway) (w : GatewayWorld) : Prop := Fits (terms 0) g w

/-- The task of this request must not start yet. -/
abbrev Excepted (requestId : String) (g : Gateway) (w : GatewayWorld) : Prop :=
  Fits ((terms 0).but requestId) g w

/-- No process has started the request. -/
def Unstarted (requestId : String) (w : GatewayWorld) : Prop :=
  ∀ e ∈ w.started, requestOf e.2 ≠ requestId

/-- The world may go on. -/
structure Stable (P : Gateway → GatewayWorld → Prop) : Prop where
  sound : ∀ g w, P g w → w.Sound
  beside : ∀ g w v, P g w → Beside w v → P g v

theorem stable_settled : Stable Settled where
  sound _ _ h := h.app.sound.1
  beside _ _ _ h hbeside :=
    ⟨h.app.imp (fun _ => ⟨hbeside.sound, hbeside.sound.clock⟩) hbeside.cleared fun _ _ _ => id,
      le_trans h.time hbeside.now⟩

theorem stable_excepted : Stable (Excepted requestId) where
  sound _ _ h := h.app.sound.1
  beside _ _ _ h hbeside :=
    ⟨h.app.imp (fun _ => ⟨hbeside.sound, hbeside.sound.clock⟩)
      (fun other => Or.imp_right (hbeside.cleared other)) fun _ _ _ => id,
      le_trans h.time hbeside.now⟩

theorem Stable.unstarted (h : Stable P) :
    Stable fun g w => P g w ∧ Unstarted requestId w where
  sound g w hw := h.sound g w hw.1
  beside g w v hw hbeside :=
    ⟨h.beside g w v hw.1 hbeside, by
      rw [Unstarted, hbeside.started]
      exact hw.2⟩

/-- What is known of the gateway alone stays. -/
theorem Stable.and (h : Stable P) (K : Gateway → Prop) : Stable fun g w => P g w ∧ K g where
  sound g w hw := h.sound g w hw.1
  beside g w v hw hbeside := ⟨h.beside g w v hw.1 hbeside, hw.2⟩

/-- A call to another than the adapter, and what it is answered where `K` holds of the world. -/
theorem triple_call {c : GatewayCall} {K : GatewayWorld → Prop} (hP : Stable P)
    (hc : ∀ call, c ≠ .adapter call) :
    Triple conduct (fun g w => P g w ∧ K w) (invoke c : Service c.Result)
      (fun value g v => P g v ∧ ∃ w, K w ∧ Answers c w (.ok value) v) fun _ => P := by
  rintro g w ⟨h, hK⟩ _ rfl
  refine ⟨⟨hP.sound g _ h, fun call hcall => absurd hcall (hc call)⟩, fun reply v hanswers => ?_⟩
  have hafter := hP.beside g _ v h (answers_beside (hP.sound g _ h) hc hanswers)
  cases reply with
  | ok value => exact ⟨hafter, _, hK, hanswers⟩
  | error error => exact hafter

theorem call_keeps {c : GatewayCall} (hP : Stable P) (hc : ∀ call, c ≠ .adapter call) :
    Triple conduct P (invoke c : Service c.Result) (fun _ => P) fun _ => P :=
  (triple_call (K := fun _ => True) hP hc).conseq (fun _ _ h => ⟨h, trivial⟩) (fun _ _ _ h => h.1)
    fun _ _ _ h => h

/-- The clock can always be read. -/
theorem triple_monotonic {raised : Raised → Gateway → GatewayWorld → Prop} (hP : Stable P) :
    Triple conduct P (invoke GatewayCall.monotonic : Service ℚ)
      (fun reading g w => P g w ∧ w.now = reading) raised := by
  rintro g w h _ rfl
  refine ⟨⟨hP.sound g _ h, nofun⟩, fun reply v hanswers => ?_⟩
  have hafter := hP.beside g _ v h
    (answers_beside (c := .monotonic) (hP.sound g _ h) nofun hanswers)
  match reply, hanswers with
  | .ok reading, ⟨_, hv⟩ => exact ⟨hafter, hv ▸ rfl⟩

/-! ### The store -/

theorem interrupt_keeps (hP : Stable P) : ∀ rows : List (String × StoredResult),
    Triple conduct P (interrupt rows) (fun _ => P) fun _ => P
  | [] => triple_pure fun _ _ h => h
  | (_, .interrupted _) :: rest => interrupt_keeps hP rest
  | (_, .last _) :: rest => triple_ite (fun _ => interrupt_keeps hP rest) fun _ =>
      bind (call_keeps hP nofun) fun _ => interrupt_keeps hP rest

theorem openStore_keeps (hP : Stable P) :
    Triple conduct P openStore (fun _ => P) fun _ => P :=
  bind (call_keeps hP nofun) fun _ => bind (call_keeps hP nofun) fun rows =>
    bind (interrupt_keeps hP rows) fun _ => call_keeps hP nofun

/-- A request that has been saved is committed. -/
theorem save_keeps (hP : Stable P) {body : RequestDocument} {status : TaskStatus} :
    Triple conduct P (save body status) (fun _ g w => P g w ∧
      ∀ requestId, body.requestId = some requestId → (w.durable.lookup requestId).isSome)
      fun _ => P := by
  unfold save
  split
  · exact triple_throw fun _ _ h => h
  next requestId hid =>
    refine bind (M := fun _ g w => P g w ∧ (w.working.lookup requestId).isSome)
      ((triple_call (c := .insert requestId body (.last status)) (K := fun _ => True) hP nofun).conseq
        (fun _ _ h => ⟨h, trivial⟩) ?_ fun _ _ _ h => h) fun _ =>
      (triple_call (c := .commit) hP nofun).conseq (fun _ _ h => h) ?_ fun _ _ _ h => h
    · rintro - g _ ⟨h, w, -, rfl⟩
      refine ⟨h, ?_⟩
      rw [Table.upsert, AList.lookup_insert]
      rfl
    · rintro - g _ ⟨h, w, hsome, rfl⟩
      exact ⟨h, fun other hother => Option.some.inj (hid.symm.trans hother) ▸ hsome⟩

/-! ### The application -/

/-- The clock is read, and what follows is told the time. -/
theorem triple_now_bind {α : Type} {f : Scalar → Service α} {R : α → Gateway → GatewayWorld → Prop}
    {E : Raised → Gateway → GatewayWorld → Prop} (hP : Stable P)
    (hf : ∀ reading, Triple conduct (fun g w => P g w ∧ w.now = reading) (f (.finite reading)) R E) :
    Triple conduct P (now >>= f) R E := by
  refine bind (M := fun now g w => ∃ reading, now = .finite reading ∧ P g w ∧ w.now = reading)
    (bind (triple_monotonic hP) fun reading => triple_pure fun _ _ h => ⟨reading, rfl, h⟩)
    fun _ => ?_
  exact of_exists fun reading => of_fact fun hnow => hnow ▸ hf reading

variable {α : Type} {reading : ℚ}

theorem onApp_triple {x : Application α} {calls : AdapterCall → Prop}
    {I : RobotApplication → GatewayWorld → Prop} {R : α → RobotApplication → GatewayWorld → Prop}
    {E : Raised → RobotApplication → GatewayWorld → Prop}
    (hx : Triple (terms reading).conduct I x R E) (hk : x.Keeps (upTo calls reading)) :
    Triple conduct (fun g w => I g.app w ∧ g = g₀) (onApp x)
      (fun value g w => R value g.app w ∧ (∃ app, g = { g₀ with app }) ∧
        (upTo calls reading).changes g₀.app g.app)
      fun error g w => E error g.app w ∧ (∃ app, g = { g₀ with app }) ∧
        (upTo calls reading).changes g₀.app g.app := by
  refine triple_zoom fun s => ?_
  rintro _ w ⟨rfl, hI, rfl⟩
  refine ((renames reading).triple (hx.keeping hk s.app) s.app w ⟨rfl, hI⟩).mono ?_
  rintro ⟨error | value, app⟩ v ⟨hend, hchanges⟩
  · exact ⟨hend, ⟨app, rfl⟩, hchanges⟩
  · exact ⟨hend, ⟨app, rfl⟩, hchanges⟩

theorem Fits.at_reading (h : Settled g w) (hnow : w.now = reading) :
    AppInv (terms reading) ToFree g.app.map g.app w ∧ g.app.now ≤ reading :=
  ⟨h.app.imp (fun hsound => ⟨hsound.1, hnow.ge⟩) (fun _ => id) fun _ _ _ => id, hnow ▸ h.time⟩

theorem settled_of {m₀ : NavigationMap} (h : AppInv (terms reading) ToFree m₀ g.app w)
    (hnow : g.app.now ≤ reading) : Settled g w :=
  ⟨h.begins.imp (fun hsound => ⟨hsound.1, hsound.1.clock⟩) (fun _ => id) fun _ _ _ => id,
    le_trans hnow h.sound.2⟩

/-- An operation of the application that starts at a reading of the clock. -/
theorem onApp_keeps {x : Application α} {calls : AdapterCall → Prop}
    (hx : ∀ m₀, Triple (terms reading).conduct (AppInv (terms reading) ToFree m₀) x (fun _ => AppInv (terms reading) ToFree m₀) fun _ => AppInv (terms reading) ToFree m₀)
    (hk : x.Keeps (upTo calls reading)) :
    Triple conduct (fun g w => Settled g w ∧ w.now = reading) (onApp x) (fun _ => Settled)
      fun _ => Settled := by
  rintro g w ⟨h, hnow⟩
  obtain ⟨happ, htime⟩ := h.at_reading hnow
  refine (onApp_triple (hx g.app.map) hk g w ⟨happ, rfl⟩).mono ?_
  rintro ⟨error | value, g'⟩ v ⟨hend, -, hchanges⟩
  · exact settled_of hend (hchanges.1 htime)
  · exact settled_of hend (hchanges.1 htime)

theorem record_keeps (status : Option TaskStatus) :
    Triple conduct Settled (record status) (fun _ => Settled) fun _ => Settled := by
  cases status with
  | none => exact triple_pure fun _ _ h => h
  | some status =>
    refine triple_get_bind fun g => ?_
    split
    · exact triple_throw fun _ _ h => h.2
    · exact (save_keeps stable_settled).conseq (fun _ _ h => h.2) (fun _ _ _ h => h.1)
        fun _ _ _ h => h

theorem tick_keeps : Triple conduct Settled tick (fun _ => Settled) fun _ => Settled :=
  triple_now_bind stable_settled fun _ => bind (onApp_keeps (fun _ =>
    RobotApplication.tick_keeps fun _ _ _ => id) (keeps_tick le_rfl)) record_keeps

theorem onCancel_keeps :
    Triple conduct (fun g w => Settled g w ∧ w.now = reading)
      (onApp (RobotApplication.cancel requestId (.finite reading))) (fun _ => Settled)
      fun _ => Settled :=
  onApp_keeps (fun _ => RobotApplication.cancel_keeps) (RobotApplication.keeps_cancel le_rfl)

theorem haltOwner_keeps : Triple conduct Settled haltOwner (fun _ => Settled) fun _ => Settled := by
  refine triple_get_bind fun g => ?_
  split
  · exact triple_pure fun _ _ h => h.2
  · refine (triple_now_bind (R := fun _ => Settled) stable_settled fun _ =>
      Triple.bind onCancel_keeps fun _ => ?_).conseq (fun _ _ h => h.2) (fun _ _ _ h => h)
        fun _ _ _ h => h
    exact triple_pure fun _ _ h => h

theorem latchFault_keeps : Triple conduct Settled latchFault (fun _ => Settled) fun _ => Settled :=
  bind (M := fun _ => Settled) (triple_modify fun _ _ h => ⟨h.app, h.time⟩) fun _ =>
    haltOwner_keeps

/-! ### A new request -/

/-- **A request that is committed may start**, if no other process has started it. -/
theorem Fits.cleared (h : Excepted requestId g w) (hplain : '/' ∉ requestId.toList)
    (hstored : (w.durable.lookup requestId).isSome) (hunstarted : Unstarted requestId w) :
    Settled g w := by
  refine ⟨h.app.of_but fun t hlookup => ?_, h.time⟩
  exact (h.app.tasks requestId t hlookup).imp rfl id
    (fun _ => ⟨hplain, hstored, fun e he hrequest => absurd hrequest (hunstarted e he)⟩) id
    (fun _ => id) id

theorem persist_keeps {body : RequestDocument} {status : TaskStatus}
    (hid : body.requestId = some requestId) (hplain : '/' ∉ requestId.toList) :
    Triple conduct (fun g w => Excepted requestId g w ∧ Unstarted requestId w)
      (persist requestId body status) (fun _ => Settled) fun _ => Settled := by
  refine tryCatch ((save_keeps stable_excepted.unstarted).conseq (fun _ _ h => h) ?_
    fun _ _ _ h => h) fun error => ?_
  · rintro - g w ⟨⟨h, hunstarted⟩, hstored⟩
    exact h.cleared hplain (hstored requestId hid) hunstarted
  · refine (triple_now_bind (R := fun _ => Settled) stable_excepted fun reading => bind
      (M := fun _ => Settled) ?cancel fun _ => ?rethrow).conseq (fun _ _ h => h.1)
        (fun _ _ _ h => h) fun _ _ _ h => h
    case rethrow => exact triple_throw fun _ _ h => h
    case cancel =>
      rintro g w ⟨h, hnow⟩
      have happ : AppInv ((terms reading).but requestId) ToFree g.app.map g.app w :=
        h.app.imp (fun hsound => ⟨hsound.1, hnow.ge⟩) (fun _ => id) fun _ _ _ => id
      have htime : g.app.now ≤ reading := hnow ▸ h.time
      refine (onApp_triple cancel_excepted
        (keeps_cancel le_rfl) g w ⟨⟨happ, htime⟩, rfl⟩).mono ?_
      rintro ⟨error | value, g'⟩ v ⟨hend, -, hchanges⟩
      · exact settled_of hend (hchanges.1 htime)
      · exact settled_of hend (hchanges.1 htime)

/-- The application takes a request on; nothing is called, and the permit is still there. -/
theorem onSubmit_keeps {body : RequestDocument} {admission : Except Raised Bool}
    {K : Gateway → Prop} (hid : body.requestId = some requestId)
    (hK : ∀ g app, K g → K { g with app }) :
    Triple conduct (fun g w => ((Settled g w ∧ Unstarted requestId w) ∧ K g) ∧ w.now = reading)
      (onApp (RobotApplication.submit body (.finite reading) admission))
      (fun _ g w => (Excepted requestId g w ∧ Unstarted requestId w) ∧ K g) fun _ => Settled := by
  rintro g w ⟨⟨⟨h, hunstarted⟩, hgateway⟩, hnow⟩
  obtain ⟨happ, htime⟩ := h.at_reading hnow
  -- no call is made, so that what is known of the world may be said with the terms
  let B : AppTerms GatewayWorld :=
    ⟨fun v => (v.Sound ∧ reading ≤ v.now) ∧ Unstarted requestId v, Cleared⟩
  have hready : Ready B ToFree g.app.map body g.app w :=
    ⟨⟨happ.imp (fun hsound => ⟨hsound, hunstarted⟩) (fun _ => id) fun _ _ _ => id, rfl⟩,
      fun _ _ goal plan _ hplan => (NavigationMap.plan_eq_ok hplan).2.2⟩
  refine (onApp_triple (submit_keeps (C := (terms reading).conduct))
    (keeps_submit le_rfl) g w ⟨hready, rfl⟩).mono ?_
  rintro ⟨error | status, g'⟩ v ⟨hend, ⟨app, rfl⟩, hchanges⟩
  · exact settled_of (hend.imp And.left (fun _ => id) fun _ _ _ => id) (hchanges.1 htime)
  · obtain ⟨hend, hstatus⟩ := hend
    obtain rfl := Option.some.inj (hid.symm.trans hstatus)
    refine ⟨⟨⟨hend.begins.imp (fun hsound => ⟨hsound.1.1, hsound.1.1.clock⟩) (fun _ => id)
      fun _ _ _ => id, le_trans (hchanges.1 htime) hend.sound.1.2⟩, hend.sound.2⟩, hK g app hgateway⟩

theorem takeOn_keeps {body : RequestDocument} {permit : String} {admission : Except Raised Bool}
    (hid : body.requestId = some requestId) (hplain : '/' ∉ requestId.toList) :
    Triple conduct
      (fun g w => (Settled g w ∧ Unstarted requestId w) ∧ (g.permits.lookup permit).isSome)
      (takeOn requestId body permit admission) (fun _ => Settled) fun _ => Settled := by
  refine triple_now_bind (stable_settled.unstarted.and fun g => (g.permits.lookup permit).isSome)
    fun reading => bind (onSubmit_keeps hid fun _ _ => id) fun status => bind
      (M := fun _ g w => Excepted requestId g w ∧ Unstarted requestId w) ?pop fun _ =>
        bind (persist_keeps hid hplain) fun _ => ?done
  case done => exact triple_pure fun _ _ h => h
  case pop =>
    refine triple_get_bind fun g => ?_
    split
    next hnone =>
      refine triple_throw ?_
      rintro _ w ⟨rfl, -, hsome⟩
      rw [hnone] at hsome
      cases hsome
    next => exact triple_modify fun _ _ h => ⟨⟨h.2.1.1.app, h.2.1.1.time⟩, h.2.1.2⟩

theorem unstarted_of_unseen (h : w.Sound) (hunseen : w.working.lookup requestId = none) :
    Unstarted requestId w := by
  rintro e he rfl
  have hseen := h.seen _ (h.stored e he)
  rw [hunseen] at hseen
  cases hseen

theorem select_keeps (hP : Stable P) :
    Triple conduct P (invoke (GatewayCall.select requestId) : Service (Option Row))
      (fun row g w => P g w ∧ row = w.working.lookup requestId) fun _ => P := by
  refine (triple_call (c := .select requestId) (K := fun _ => True) hP nofun).conseq
    (fun _ _ h => ⟨h, trivial⟩) ?_ fun _ _ _ h => h
  rintro row g _ ⟨h, w, -, rfl, hrow⟩
  exact ⟨h, hrow⟩

theorem submitNew_keeps {body : RequestDocument} {permit : Option String}
    {admission : Except Raised Bool} (hid : body.requestId = some requestId)
    (hplain : '/' ∉ requestId.toList) :
    Triple conduct (fun g w => Settled g w ∧ Unstarted requestId w)
      (submitNew requestId body permit admission) (fun _ => Settled) fun _ => Settled := by
  cases permit with
  | none => exact triple_pure fun _ _ h => h.1
  | some permit =>
    refine triple_get_bind fun g => bind ((triple_monotonic
      (stable_settled.unstarted.and (· = g))).conseq (fun _ _ h => ⟨h.2, h.1⟩) (fun _ _ _ h => h)
        fun _ _ _ h => h) fun reading => triple_ite (fun _ => triple_pure fun _ _ h => h.1.1.1)
          fun hfresh => (takeOn_keeps hid hplain).conseq ?_ (fun _ _ _ h => h) fun _ _ _ h => h
    rintro g w ⟨⟨h, rfl⟩, hnow⟩
    refine ⟨h, ?_⟩
    -- a permit that is not there would have run out at the beginning
    cases hlookup : g.permits.lookup permit with
    | some expiry => rfl
    | none =>
      rw [hlookup] at hfresh
      exact absurd (hnow ▸ h.1.app.sound.1.clock) hfresh

theorem known_keeps {row : Row} :
    Triple conduct Settled (known requestId row) (fun _ => Settled) fun _ => Settled := by
  refine triple_get_bind fun g => triple_ite (fun _ => bind (M := fun _ => Settled)
    (triple_expect (fun _ _ _ _ h => h.2) fun _ _ _ _ h => h.2) fun _ => ?_) fun _ => ?_
  · exact triple_pure fun _ _ h => h
  · exact triple_pure fun _ _ h => h.2

theorem plain_of_identifier {field value : String} (h : identifier field value = .ok requestId) :
    value = requestId ∧ '/' ∉ requestId.toList := by
  obtain ⟨rfl, hall⟩ := identifier_eq_ok h
  exact ⟨rfl, fun hslash => nomatch List.all_eq_true.mp hall '/' hslash⟩

theorem submit_keeps {body : Option RequestDocument} {permit : Option String}
    {admission : Except Raised Bool} :
    Triple conduct Settled (submit body permit admission) (fun _ => Settled) fun _ => Settled := by
  cases body with
  | none => exact triple_throw fun _ _ h => h
  | some body =>
    refine bind (M := fun requestId g w => (body.requestId = some requestId ∧
      '/' ∉ requestId.toList) ∧ Settled g w) (triple_expect ?_ fun _ _ _ _ h => h) fun requestId =>
        of_fact fun hid => bind (select_keeps stable_settled) fun row => ?_
    · intro requestId hok g w h
      refine ⟨?_, h⟩
      cases hrequest : body.requestId with
      | none =>
        rw [hrequest] at hok
        cases hok
      | some value =>
        rw [hrequest] at hok
        obtain ⟨rfl, hplain⟩ := plain_of_identifier hok
        exact ⟨rfl, hplain⟩
    · cases row with
      | some row =>
        refine triple_ite (fun _ => triple_pure fun _ _ h => h.1) fun _ => bind
          (known_keeps.conseq (fun _ _ h => h.1) (fun _ _ _ h => h) fun _ _ _ h => h) fun _ => ?_
        exact triple_pure fun _ _ h => h
      | none =>
        refine (submitNew_keeps hid.1 hid.2).conseq ?_ (fun _ _ _ h => h) fun _ _ _ h => h
        rintro g w ⟨h, hunseen⟩
        exact ⟨h, unstarted_of_unseen h.app.sound.1 hunseen.symm⟩

/-! ### The other endpoints -/

theorem statusOf_keeps :
    Triple conduct Settled (statusOf requestId) (fun _ => Settled) fun _ => Settled := by
  refine bind (M := fun _ => Settled) (triple_expect (fun _ _ _ _ h => h)
    fun _ _ _ _ h => h) fun _ => bind (call_keeps stable_settled nofun) fun row => ?_
  cases row with
  | none => exact triple_pure fun _ _ h => h
  | some row =>
    refine bind known_keeps fun _ => ?_
    exact triple_pure fun _ _ h => h

theorem cancel_keeps {empty : Bool} :
    Triple conduct Settled (cancel requestId empty) (fun _ => Settled) fun _ => Settled := by
  refine bind (M := fun _ => Settled) (triple_expect (fun _ _ _ _ h => h)
    fun _ _ _ _ h => h) fun _ => bind (call_keeps stable_settled nofun) fun row => ?_
  cases row with
  | none => exact triple_pure fun _ _ h => h
  | some row =>
    refine triple_ite (fun _ => triple_throw fun _ _ h => h) fun _ => triple_get_bind fun g =>
      triple_ite (fun _ => triple_pure fun _ _ h => h.2) fun _ =>
        (triple_now_bind (R := fun _ => Settled) stable_settled fun _ => Triple.bind onCancel_keeps
          fun status => bind (save_keeps stable_settled) fun _ => ?_).conseq
            (fun _ _ h => h.2) (fun _ _ _ h => h) fun _ _ _ h => h
    exact triple_pure fun _ _ h => h.1

theorem issuePermit_keeps :
    Triple conduct Settled issuePermit (fun _ => Settled) fun _ => Settled := by
  refine bind (call_keeps stable_settled nofun) fun _ => bind (M := fun _ => Settled)
    (triple_modify fun _ _ h => ⟨h.app, h.time⟩) fun _ => triple_get_bind fun g =>
      triple_ite (fun _ => triple_pure fun _ _ h => h.2) fun _ => bind
        ((call_keeps (c := .token) stable_settled nofun).conseq (fun _ _ h => h.2)
          (fun _ _ _ h => h) fun _ _ _ h => h) fun nonce => bind (M := fun _ => Settled)
            (triple_modify fun _ _ h => ⟨h.app, h.time⟩) fun _ => ?_
  exact triple_pure fun _ _ h => h

theorem serve_keeps (endpoint : Endpoint) :
    Triple conduct Settled (serve endpoint) (fun _ => Settled) fun _ => Settled := by
  cases endpoint with
  | permit => exact issuePermit_keeps
  | map =>
    refine triple_get_bind fun g => ?_
    exact triple_pure fun _ _ h => h.2
  | preview requestId document =>
    refine triple_get_bind fun g => triple_ite (fun _ => triple_throw fun _ _ h => h.2) fun _ =>
      bind (M := fun _ => Settled) (triple_expect (fun _ _ _ _ h => h.2)
        fun _ _ _ _ h => h.2) fun request => bind (M := fun _ => Settled)
          (triple_expect (fun _ _ _ _ h => h) fun _ _ _ _ h => h) fun _ => ?_
    exact triple_pure fun _ _ h => h
  | health =>
    refine triple_get_bind fun g => ?_
    exact triple_pure fun _ _ h => h.2
  | submit body permit admission => exact submit_keeps
  | status requestId => exact statusOf_keeps
  | cancel requestId empty => exact cancel_keeps
  | unknown => exact triple_pure fun _ _ h => h

theorem dispatch_keeps {authorized : Bool} {endpoint : Endpoint} :
    Triple conduct Settled (dispatch authorized endpoint) (fun _ => Settled) fun _ => Settled := by
  refine triple_ite (fun _ => triple_pure fun _ _ h => h) fun _ => triple_get_bind fun g =>
    triple_ite (fun _ => triple_pure fun _ _ h => h.2) fun _ => ?_
  exact (serve_keeps endpoint).conseq (fun _ _ h => h.2) (fun _ _ _ h => h) fun _ _ _ h => h

end Gateway

open Gateway GatewayWorld

/-- **What every operation of the gateway keeps.** -/
theorem GatewayOp.keeps (op : GatewayOp) :
    Triple conduct Settled op.action (fun _ => Settled) fun _ => Settled := by
  cases op with
  | dispatch authorized endpoint =>
    refine bind dispatch_keeps fun _ => ?_
    exact triple_pure fun _ _ h => h
  | tick =>
    refine bind tick_keeps fun _ => ?_
    exact triple_pure fun _ _ h => h
  | latchFault =>
    refine bind latchFault_keeps fun _ => ?_
    exact triple_pure fun _ _ h => h
  | halt =>
    refine bind haltOwner_keeps fun _ => ?_
    exact triple_pure fun _ _ h => h
  | replaceMap m =>
    refine triple_now_bind stable_settled fun _ => bind (onApp_keeps
      (fun _ => replaceMap_keeps)
      (keeps_replaceMap le_rfl)) fun _ => ?_
    exact triple_pure fun _ _ h => h
  | localize x y =>
    refine triple_now_bind stable_settled fun _ => bind (onApp_keeps
      (fun _ => localize_keeps) (keeps_localize le_rfl))
        fun _ => ?_
    exact triple_pure fun _ _ h => h

/-! ## 4. Every history -/

/-- A gateway as it starts. -/
structure Gateway.Fresh (g : Gateway) : Prop where
  app : ∃ config m x y lease, create config m x y lease = .ok g.app
  permits : g.permits = []
  faulted : g.faulted = false

theorem fresh_settled {g : Gateway} {w : GatewayWorld} (hfresh : g.Fresh) (h : w.Sound) :
    Settled g w := by
  obtain ⟨config, m, x, y, lease, happ⟩ := hfresh.app
  refine ⟨created_inv happ ⟨h, h.clock⟩, ?_⟩
  obtain ⟨cell, -, happ⟩ := Except.bind_eq_ok_iff.mp happ
  rw [← Except.ok.inj happ]
  exact h.clock

/-- The process of the gateway, killed at any moment. -/
theorem gateway_contract : Process.Contract conduct openStore GatewayOp.action lost Gateway.Fresh
    Settled Sound Sound where
  still _ := rfl
  boots := (openStore_keeps stable_settled).conseq (fun _ _ h => fresh_settled h.1 h.2)
    (fun _ _ _ h => h) fun _ _ _ h => h.app.sound.1
  serves := GatewayOp.keeps
  lost _ := lost_sound
  between_safe _ := id
  settled_safe _ _ h := h.app.sound.1
  permits_safe _ _ h := h.1

abbrev GatewayLife :=
  Process.Life GatewayCall GatewayCall.Reply Raised Gateway (Option GatewayReply) GatewayWorld

abbrev GatewayEvent := Process.Event GatewayCall GatewayCall.Reply Gateway GatewayOp GatewayWorld

namespace GatewayLife

/-- No request has been posted yet. -/
def empty : GatewayLife := ⟨.down, ⟨∅, ∅, 0, 0, []⟩⟩

def step : GatewayLife → GatewayEvent → GatewayLife :=
  Process.step openStore GatewayOp.action lost

def after (events : List GatewayEvent) : GatewayLife := run step empty events

def Proper (events : List GatewayEvent) : Prop :=
  Along step (Process.Proper conduct Gateway.Fresh) empty events

theorem holding_after {events : List GatewayEvent} (h : Proper events) :
    Process.Holding conduct Settled Sound Sound (after events) :=
  Process.holding_run gateway_contract (l := empty)
    (show Sound _ from ⟨nofun, nofun, fun _ => id, le_rfl⟩) h

end GatewayLife

/-! ### A post of a known request -/

/-- The status that the request has already. -/
def Gateway.existing (g : Gateway) (requestId : String) (row : Row) : StoredResult :=
  match g.app.status requestId with
  | .ok status => .last status
  | .error _ => row.result

def GatewayCall.Starts (c : GatewayCall) : Prop := ∃ call : AdapterCall, c = .adapter call ∧ call.Starts

namespace Gateway

variable {g : Gateway} {w : GatewayWorld} {requestId : String} {row : Row} {body : RequestDocument}
  {permit : Option String} {admission : Except Raised Bool}

abbrev QuietGateway : Frame GatewayCall Gateway := Frame.free fun c => ¬ c.Starts

variable {α : Type}

theorem onApp_quiet {x : Application α} {bound : ℚ}
    (hx : x.Keeps (upTo (fun c => ¬ c.Starts) bound)) :
    (onApp x).Keeps QuietGateway := by
  refine Keeps.zoom (F := Frame.free fun c : GatewayCall => ¬ c.Starts) (hx.named ?_ ?_)
    (fun _ _ => id) fun _ _ _ => trivial
  · rintro a c hc ⟨call, hcall, hstarts⟩
    exact hc (GatewayCall.adapter.inj hcall ▸ hstarts)
  · exact fun _ _ _ => trivial

theorem call_quiet {c : GatewayCall} (hc : ∀ call, c ≠ .adapter call) :
    (invoke c : Service c.Result).Keeps QuietGateway :=
  keeps_invoke fun _ ⟨call, hcall, _⟩ => hc call hcall

theorem save_quiet {status : TaskStatus} : (save body status).Keeps QuietGateway := by
  unfold save
  split
  · exact keeps_throw _
  next requestId _ =>
    exact (call_quiet (c := .insert requestId body (.last status)) nofun).bind fun _ =>
      call_quiet (c := .commit) nofun

/-- The time is the clock's, whatever comes of it. -/
theorem now_quiet {f : Scalar → Service α}
    (hf : ∀ reading, (f (.finite reading)).Keeps QuietGateway) :
    (now >>= f).Keeps QuietGateway := by
  intro g
  rw [program_bind, Program.within_bind]
  refine ⟨fun ⟨call, hcall, _⟩ => (by cases hcall), fun reply => ?_⟩
  cases reply with
  | ok reading => exact hf reading g
  | error error => trivial

theorem submit_quiet (body : Option RequestDocument) (permit : Option String)
    (admission : Except Raised Bool) : (submit body permit admission).Keeps QuietGateway := by
  cases body with
  | none => exact keeps_throw _
  | some body =>
    refine (keeps_expect _).bind fun requestId =>
      (call_quiet (c := .select requestId) nofun).bind fun row => ?_
    cases row with
    | some row =>
      rw [submitFor]
      split
      · exact keeps_pure _
      · refine Keeps.bind (keeps_get_bind fun g => ?_) fun _ => keeps_pure _
        split
        · exact (keeps_expect _).bind fun _ => keeps_pure _
        · exact keeps_pure _
    | none =>
      cases permit with
      | none => exact keeps_pure _
      | some permit =>
        refine keeps_get_bind fun g => (call_quiet (c := .monotonic) nofun).bind fun reading => ?_
        split
        · exact keeps_pure _
        · refine now_quiet fun reading => (onApp_quiet (keeps_submit le_rfl)).bind
            fun status => Keeps.bind (keeps_get_bind fun g => ?_) fun _ => Keeps.bind
              (save_quiet.tryCatch fun error => now_quiet fun reading =>
                (onApp_quiet (keeps_cancel le_rfl)).bind fun _ => keeps_throw _)
                  fun _ => keeps_pure _
          split
          · exact keeps_throw _
          · exact keeps_modify fun _ => trivial

/-- The body is a request of this id. -/
structure Posts (body : RequestDocument) (requestId : String) : Prop where
  names : body.requestId = some requestId
  valid : identifier "request_id" requestId = .ok requestId

/-- How the calls are answered, whatever the calls are. -/
def environment : Conduct GatewayCall GatewayCall.Reply GatewayWorld :=
  { GatewayWorld.conduct with permits := fun _ _ => True }

theorem call_still {c : GatewayCall} {I : Gateway → Prop} :
    Triple environment (fun g _ => I g) (invoke c : Service c.Result) (fun _ g _ => I g)
      fun _ g _ => I g := by
  rintro g w h _ rfl
  refine ⟨trivial, fun reply v _ => ?_⟩
  cases reply with
  | ok value => exact h
  | error error => exact h

theorem save_still {status : TaskStatus} {I : Gateway → Prop} :
    Triple environment (fun g _ => I g) (save body status) (fun _ g _ => I g) fun _ g _ => I g := by
  unfold save
  split
  · exact triple_throw fun _ _ h => h
  · exact bind call_still fun _ => call_still

/-- Nothing is said of the end. -/
theorem triple_any {x : Service α} {pre : Gateway → GatewayWorld → Prop} :
    Triple environment pre x (fun _ _ _ => True) fun _ _ _ => True := by
  intro g w _
  refine ((Program.within_true _).holds (I := fun _ => True) (fun _ _ => trivial)
    (fun _ _ => ⟨trivial, fun _ _ _ => trivial⟩) trivial).mono ?_
  rintro ⟨error | value, g'⟩ v -
  · trivial
  · trivial

/-- A post comes to the table. -/
theorem dispatch_submit {R : GatewayReply → Gateway → GatewayWorld → Prop}
    {E : Raised → Gateway → GatewayWorld → Prop} (hposts : Posts body requestId)
    (hfaulted : g.faulted = false)
    (hrow : Triple environment (fun g' _ => g' = g)
      (submitFor requestId body permit admission (w.working.lookup requestId)) R E)
    (hE : ∀ error w', E error g w') :
    ((dispatch true (.submit (some body) permit admission)).program g).Holds environment
      (Ends R E) w := by
  have hselect : Triple environment (fun g' w' => g' = g ∧ w' = w)
      (invoke (GatewayCall.select requestId) : Service (Option Row))
      (fun row g' _ => row = w.working.lookup requestId ∧ g' = g) (fun error => E error) := by
    rintro _ w ⟨rfl, rfl⟩ _ rfl
    refine ⟨trivial, fun reply v hanswers => ?_⟩
    cases reply with
    | ok row => exact ⟨hanswers.2, rfl⟩
    | error error => exact hE error v
  have hall : Triple environment (fun g' w' => g' = g ∧ w' = w)
      (submit (some body) permit admission) R E := by
    refine bind (M := fun id g' w' => id = requestId ∧ g' = g ∧ w' = w)
      (triple_expect ?_ ?_) fun id => of_fact ?_
    · intro id hid g' w' h
      rw [hposts.names] at hid
      exact ⟨Except.ok.inj (hid.symm.trans hposts.valid), h⟩
    · intro error herror
      rw [hposts.names] at herror
      exact nomatch herror.symm.trans hposts.valid
    · rintro rfl
      exact bind hselect fun row => of_fact fun h => h ▸ hrow
  have hprogram : (dispatch true (.submit (some body) permit admission)).program g =
      (submit (some body) permit admission).program g := by
    show ((get >>= fun g : Gateway => if g.faulted = true ∧ Endpoint.guarded
      (.submit (some body) permit admission) = true then pure (.error 503 "gateway_fault_latched")
        else submit (some body) permit admission) : Service GatewayReply).program g = _
    rw [program_bind, program_get, Program.done_bind, goOn_ok, if_neg]
    rw [hfaulted]
    exact fun h => nomatch h.1
  rw [hprogram]
  exact hall g w ⟨rfl, rfl⟩

/-- **A post of a stored request** is answered with its status, or refused. -/
theorem post_stored (hposts : Posts body requestId) (hfaulted : g.faulted = false)
    (hrow : w.working.lookup requestId = some row) :
    ((dispatch true (.submit (some body) permit admission)).program g).Holds environment
      (fun r _ => r.2 = g ∧ ∀ reply, r.1 = .ok reply → reply = if row.body = body then
        .status 200 (g.existing requestId row) else .error 409 "request_id_conflict") w := by
  refine (dispatch_submit (R := fun reply g' _ => g' = g ∧ reply = if row.body = body then
    .status 200 (g.existing requestId row) else .error 409 "request_id_conflict")
      (E := fun _ g' _ => g' = g) hposts hfaulted ?_ fun _ _ => rfl).mono ?_
  · rw [hrow]
    refine triple_ite (fun hother => triple_pure ?_) fun hsame => bind
      (M := fun result g' _ => g' = g ∧ result = g.existing requestId row)
        (triple_get_bind fun g' => triple_ite (fun hsome => bind
          (M := fun status g' _ => g' = g ∧ .last status = g.existing requestId row)
            (triple_expect ?_ ?_) fun status => triple_pure fun _ _ h => h)
              fun hnone => triple_pure ?_) fun result => triple_pure ?_
    · rintro _ w' rfl
      exact ⟨rfl, (if_neg hother).symm⟩
    · rintro status hstatus _ w' ⟨rfl, rfl⟩
      exact ⟨rfl, by rw [Gateway.existing, hstatus]⟩
    · rintro error - _ w' ⟨rfl, rfl⟩
      rfl
    · rintro _ w' ⟨rfl, rfl⟩
      refine ⟨rfl, ?_⟩
      rw [Gateway.existing, status, Option.not_isSome_iff_eq_none.mp hnone]
    · rintro _ w' ⟨rfl, rfl⟩
      exact ⟨rfl, (if_pos (not_not.mp hsame) ▸ rfl)⟩
  · rintro ⟨error | reply, g'⟩ w' hend
    · exact ⟨hend, fun _ hreply => nomatch hreply⟩
    · exact ⟨hend.1, fun _ hreply => Except.ok.inj hreply ▸ hend.2⟩

theorem onSubmit_known {t : AppTask} {reading : ℚ} (hposts : Posts body requestId)
    (hlookup : g.app.tasks.lookup requestId = some t) :
    Triple environment (fun g' _ => g' = g)
      (onApp (RobotApplication.submit body (.finite reading) admission))
      (fun status g' _ => (∃ now, g'.app = { g.app with now }) ∧ t.request = body ∧
        g.app.status requestId = .ok status) fun _ _ _ => True := by
  have hrename : Renames (terms reading).conduct environment GatewayCall.adapter fun _ => id :=
    ⟨id, fun _ => trivial, fun hpermits hanswers => (renames reading).answers hpermits hanswers⟩
  have hstatus : ∀ now, status { g.app with now } requestId =
      g.app.status requestId := fun now => rfl
  have hsubmit : Triple (terms reading).conduct (fun a _ => a = g.app)
      (RobotApplication.submit body (.finite reading) admission)
      (fun status a _ => (∃ now, a = { g.app with now }) ∧ t.request = body ∧
        g.app.status requestId = .ok status) fun _ _ _ => True := by
    refine bind (M := fun _ a _ => ∃ now, a = { g.app with now }) (bind
      (M := fun _ a _ => a = g.app) (triple_expect (fun _ _ _ _ h => h) fun _ _ _ _ _ => trivial)
        fun value => triple_get_bind fun a => triple_ite (fun _ => triple_throw fun _ _ _ => trivial)
          fun _ => triple_modify ?_) fun _ => bind
            (M := fun id a _ => id = requestId ∧ ∃ now, a = { g.app with now })
              (triple_expect ?_ fun _ _ _ _ _ => trivial) fun id => of_fact ?_
    · rintro _ w' ⟨rfl, rfl⟩
      exact ⟨value, rfl⟩
    · intro id hid a w' h
      rw [hposts.names] at hid
      exact ⟨Except.ok.inj (hid.symm.trans hposts.valid), h⟩
    · rintro rfl
      refine triple_get_bind fun a => ?_
      split
      next t' hlookup' =>
        refine triple_ite (fun _ => triple_throw fun _ _ _ => trivial) fun hsame =>
          triple_expect ?_ fun _ _ _ _ _ => trivial
        rintro status hok _ w' ⟨rfl, now, rfl⟩
        obtain rfl := Option.some.inj (hlookup.symm.trans hlookup')
        exact ⟨⟨now, rfl⟩, not_not.mp hsame, hok⟩
      next hnone =>
        rintro _ w' ⟨rfl, now, rfl⟩
        exact nomatch hlookup.symm.trans hnone
  refine triple_zoom fun s => (hrename.triple hsubmit).conseq ?_ (fun _ _ _ h => h)
    fun _ _ _ _ => trivial
  rintro _ w' ⟨rfl, rfl⟩
  rfl

/-- **A post of a request that only the application has**: its identity could not be stored. -/
theorem post_unstored {t : AppTask} (hposts : Posts body requestId) (hfaulted : g.faulted = false)
    (hrow : w.working.lookup requestId = none) (hlookup : g.app.tasks.lookup requestId = some t) :
    ((dispatch true (.submit (some body) permit admission)).program g).Holds environment
      (fun r _ => ∀ reply, r.1 = .ok reply →
        reply = .error 409 "fresh_request_permit_required" ∧ r.2 = g ∨
        t.request = body ∧ (∃ now, r.2.app = { g.app with now }) ∧
          ∃ status, g.app.status requestId = .ok status ∧ reply = .status 202 (.last status)) w := by
  refine (dispatch_submit (R := fun reply g' _ =>
    reply = .error 409 "fresh_request_permit_required" ∧ g' = g ∨
      t.request = body ∧ (∃ now, g'.app = { g.app with now }) ∧
        ∃ status, g.app.status requestId = .ok status ∧ reply = .status 202 (.last status))
      (E := fun _ _ _ => True) hposts hfaulted ?_ fun _ _ => trivial).mono ?_
  · rw [hrow]
    cases permit with
    | none =>
      refine triple_pure ?_
      rintro _ w' rfl
      exact .inl ⟨rfl, rfl⟩
    | some permit =>
      refine triple_get_bind fun g₁ => bind (M := fun _ g' _ => g' = g)
        (call_still.conseq (fun _ _ h => h.2) (fun _ _ _ h => h) fun _ _ _ _ => trivial)
          fun reading => triple_ite (fun _ => triple_pure fun _ _ h => .inl ⟨rfl, h⟩) fun _ => ?_
      refine bind (M := fun now g' _ => (∃ reading, now = .finite reading) ∧ g' = g)
        (bind (call_still (I := (· = g)).conseq (fun _ _ h => h) (fun _ _ _ h => h)
          fun _ _ _ _ => trivial) fun reading => triple_pure fun _ _ h => ⟨⟨reading, rfl⟩, h⟩)
            fun now => of_fact ?_
      rintro ⟨reading, rfl⟩
      refine bind (onSubmit_known hposts hlookup) fun status => bind
        (M := fun _ g' _ => (∃ now, g'.app = { g.app with now }) ∧ t.request = body ∧
          g.app.status requestId = .ok status) (triple_get_bind fun g' => ?pop) fun _ =>
            bind (tryCatch save_still fun _ => ?failed) fun _ => triple_pure ?done
      case pop =>
        split
        · exact triple_throw fun _ _ _ => trivial
        · exact triple_modify fun _ _ h => h.2
      case failed =>
        exact bind triple_any fun now => bind triple_any fun _ =>
          triple_throw fun _ _ _ => trivial
      case done =>
        rintro g' w' ⟨happ, hrequest, hstatus⟩
        exact .inr ⟨hrequest, happ, status, hstatus, rfl⟩
  · rintro ⟨error | reply, g'⟩ w' hend
    · exact fun _ hreply => nomatch hreply
    · exact fun _ hreply => Except.ok.inj hreply ▸ hend

end Gateway

/-- What holds at every moment of a history. -/
structure AtMostOnce (l : GatewayLife) : Prop where
  /-- The steps of a request are started by one process. -/
  once : ∀ e ∈ l.world.started, ∀ e' ∈ l.world.started, requestOf e.2 = requestOf e'.2 → e.1 = e'.1
  /-- The adapter is told to start a step only of a request that is committed. -/
  committed : ∀ goal step now, l.calling = some (.adapter (.start goal step now)) →
    (l.world.durable.lookup (requestOf goal)).isSome
  /-- A post starts nothing. -/
  quiet : ∀ g, l.phase = .idle g → ∀ authorized body permit admission,
    ((dispatch authorized (.submit body permit admission)).program g).Within (fun c => ¬ c.Starts)
      fun _ => True
  /-- Nothing is admitted once a fault is latched. -/
  latched : ∀ g, l.phase = .idle g → g.faulted = true → ∀ body permit admission,
    (dispatch true (.submit body permit admission)).program g =
      .done (.ok (.error 503 "gateway_fault_latched"), g)
  /-- Otherwise a post of a stored request changes nothing, and is answered with its status, or
  refused where the body is another. -/
  stored : ∀ g, l.phase = .idle g → g.faulted = false → ∀ requestId row body permit admission,
    Posts body requestId → l.world.working.lookup requestId = some row →
    ((dispatch true (.submit (some body) permit admission)).program g).Holds environment
      (fun r _ => r.2 = g ∧ ∀ reply, r.1 = .ok reply → reply = if row.body = body then
        .status 200 (g.existing requestId row) else .error 409 "request_id_conflict") l.world
  /-- Where only the application has the request, the post needs a permit, and its status is stored
  before it is the answer. -/
  unstored : ∀ g, l.phase = .idle g → g.faulted = false → ∀ requestId t body permit admission,
    Posts body requestId → l.world.working.lookup requestId = none →
    g.app.tasks.lookup requestId = some t →
    ((dispatch true (.submit (some body) permit admission)).program g).Holds environment
      (fun r _ => ∀ reply, r.1 = .ok reply →
        reply = .error 409 "fresh_request_permit_required" ∧ r.2 = g ∨
        t.request = body ∧ (∃ now, r.2.app = { g.app with now }) ∧
          ∃ status, g.app.status requestId = .ok status ∧ reply = .status 202 (.last status))
      l.world

theorem Gateway.dispatch_quiet (authorized : Bool) (body : Option RequestDocument)
    (permit : Option String) (admission : Except Raised Bool) :
    (dispatch authorized (.submit body permit admission)).Keeps QuietGateway := by
  unfold dispatch
  split
  · exact keeps_pure _
  · refine keeps_get_bind fun g => ?_
    split
    · exact keeps_pure _
    · exact submit_quiet body permit admission

theorem Gateway.dispatch_latched {g : Gateway} {body : Option RequestDocument}
    {permit : Option String} {admission : Except Raised Bool} (hfaulted : g.faulted = true) :
    (dispatch true (.submit body permit admission)).program g =
      .done (.ok (.error 503 "gateway_fault_latched"), g) := by
  show ((get >>= fun g : Gateway => if g.faulted = true ∧ Endpoint.guarded
    (.submit body permit admission) = true then pure (.error 503 "gateway_fault_latched")
      else Gateway.submit body permit admission) : Service GatewayReply).program g = _
  rw [program_bind, program_get, Program.done_bind, goOn_ok, if_pos ⟨hfaulted, rfl⟩]
  rfl

open GatewayLife

namespace GatewayLife

/-- An event that is proper whatever came before it. -/
def Fair : GatewayEvent → Prop
  | .start g => g.Fresh
  | .answer oracle => ∀ c w, Answers c w (oracle c w).1 (oracle c w).2
  | _ => True

theorem proper_of_fair {events : List GatewayEvent} (h : ∀ e ∈ events, Fair e) : Proper events := by
  refine along_of_forall (fun l e he => ?_) _
  have hfair := h e he
  match e, hfair with
  | .start g, hfair => exact hfair
  | .answer oracle, hfair => exact fun c _ => hfair c l.world
  | .operate op, _ => trivial
  | .kill, _ => trivial

/-- A robot that is ready, and goes on until it is stopped. -/
def robot : (call : AdapterCall) → call.Reply
  | .observe goal _ time => .ok ⟨goal, .finite time, .ready,
      [("hardware_ready", true), ("base_stopped", true), ("lift_stopped", true)], ""⟩
  | .start .. => .ok ()
  | .poll goal _ time => .ok ⟨goal, .finite time, .running,
      [("hardware_ready", true), ("base_stopped", true), ("lift_stopped", true)], ""⟩
  | .requestStop .. => .ok ()
  | .pollStop goal time => .ok ⟨goal, .finite time, .stopped,
      [("base_stopped", true), ("lift_stopped", true), ("arms_holding", true)], ""⟩

def answering : (c : GatewayCall) → GatewayWorld → c.Reply × GatewayWorld
  | .adapter call, w => (robot call, w.noted call)
  | .monotonic, w => (.ok w.now, w)
  | .token, w => (.ok "nonce", w)
  | .createTable, w => (.ok (), w)
  | .rows, w => (.ok (w.working.entries.map fun e => (e.1, e.2.result)), w)
  | .select requestId, w => (.ok (w.working.lookup requestId), w)
  | .insert requestId body result, w =>
    (.ok (), { w with working := w.working.upsert requestId body result })
  | .update requestId result, w =>
    (.ok (), { w with working := w.working.update requestId result })
  | .commit, w => (.ok (), { w with durable := w.working })

def full : (c : GatewayCall) → GatewayWorld → c.Reply × GatewayWorld
  | .commit, w => (.error ⟨"OperationalError", "database or disk is full"⟩, w)
  | c, w => answering c w

theorem answering_answers (c : GatewayCall) (w : GatewayWorld) :
    Answers c w (answering c w).1 (answering c w).2 := by
  cases c with
  | adapter call => rfl
  | monotonic => exact ⟨le_rfl, rfl⟩
  | token => rfl
  | createTable => rfl
  | rows => exact ⟨rfl, rfl⟩
  | select requestId => exact ⟨rfl, rfl⟩
  | insert requestId body result => rfl
  | update requestId result => rfl
  | commit => rfl

theorem full_answers (c : GatewayCall) (w : GatewayWorld) :
    Answers c w (full c w).1 (full c w).2 := by
  cases c with
  | commit => exact .inl (.inl rfl)
  | adapter call => exact answering_answers _ w
  | monotonic => exact answering_answers _ w
  | token => exact answering_answers _ w
  | createTable => exact answering_answers _ w
  | rows => exact answering_answers _ w
  | select requestId => exact answering_answers _ w
  | insert requestId body result => exact answering_answers _ w
  | update requestId result => exact answering_answers _ w

abbrev cup : RequestDocument := ⟨some "cup-1", .fetchObject true "cup"⟩

abbrev newGateway : Gateway where
  app := emptyApplication { emptyConfig with
    planFetch := fun _ => .ok [⟨"pick", "grasp", .finite 10, [], [], ""⟩] }
  permits := []
  faulted := false

theorem newGateway_fresh : newGateway.Fresh :=
  ⟨⟨_, _, _, _, _, create_empty _⟩, rfl, rfl⟩

def answered (op : GatewayOp) : List GatewayEvent :=
  .operate op :: List.replicate 8 (.answer answering)

/-- A request is posted, and its task started. -/
def posted : List GatewayEvent :=
  .start newGateway :: List.replicate 3 (.answer answering) ++ answered (.dispatch true .permit) ++
    answered (.dispatch true (.submit (some cup) (some "nonce") (.ok true))) ++ answered .tick

theorem fair_answered (op : GatewayOp) : ∀ e ∈ answered op, Fair e := by
  rintro e (_ | ⟨_, he⟩)
  · trivial
  · rw [List.eq_of_mem_replicate he]
    exact answering_answers

theorem fair_posted : ∀ e ∈ posted, Fair e := by
  simp only [posted, List.forall_mem_append]
  refine ⟨⟨⟨?_, fair_answered _⟩, fair_answered _⟩, fair_answered _⟩
  rintro e (_ | ⟨_, he⟩)
  · exact newGateway_fresh
  · rw [List.eq_of_mem_replicate he]
    exact answering_answers

/-- Its status cannot be saved, and the fault is latched. -/
def latchedEvents : List GatewayEvent :=
  posted ++ .operate .tick :: List.replicate 8 (.answer full) ++ answered .latchFault

theorem fair_latched : ∀ e ∈ latchedEvents, Fair e := by
  simp only [latchedEvents, List.forall_mem_append]
  refine ⟨⟨fair_posted, ?_⟩, fair_answered _⟩
  rintro e (_ | ⟨_, he⟩)
  · trivial
  · rw [List.eq_of_mem_replicate he]
    exact full_answers

/-- A fault is latched, and the request is stored. -/
def Latched (l : GatewayLife) (requestId : String) (body : RequestDocument) : Bool :=
  match l.phase, l.world.working.lookup requestId with
  | .idle g, some row => g.faulted && row.body = body
  | _, _ => false

theorem latched_spec {l : GatewayLife} {requestId : String} {body : RequestDocument}
    (h : Latched l requestId body = true) : ∃ g row, l.phase = .idle g ∧
      l.world.working.lookup requestId = some row ∧ g.faulted = true ∧ row.body = body := by
  unfold Latched at h
  split at h
  next g row hphase hrow =>
    obtain ⟨hfaulted, hbody⟩ := Bool.and_eq_true_iff.mp h
    exact ⟨g, row, hphase, hrow, hfaulted, of_decide_eq_true hbody⟩
  next => cases h

end GatewayLife

end MobileBimanual.Tasks
