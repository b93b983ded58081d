/-
# The handoff from planner to executor

In every run of a manipulation port the executor is started at most once for a goal, in the poll in
which the planner has reported success for it, in the context that this poll has found fresh, at
rest and the one of the plan, and never once the goal was cancelled or failed (`Handoff`); and the
ownership is given back when the backend at work then has reported its end (`Released`).
-/
import MobileBimanual.Tasks.ManipulationPort

namespace MobileBimanual.Tasks

open Activity Oracle Machine Registry ManipulationCall Triple

abbrev ManipulationJournal (T : Type) := Journal (ManipulationCall T) Reply

namespace PlanningContext

/-- Observed lately, on a platform at rest. -/
structure Fit (age : ℚ) (c : PlanningContext) (now : ℚ) : Prop where
  fresh : ∃ stamp, c.observed = .finite stamp ∧ 0 ≤ stamp ∧ stamp ≤ now ∧ now - stamp ≤ age
  base : c.baseStopped = true
  lift : c.liftStopped = true
  target : ∀ target, c.targetObserved = some target →
    ∃ stamp, target = .finite stamp ∧ 0 ≤ stamp ∧ stamp ≤ now ∧ now - stamp ≤ age

theorem check_eq_ok {c : PlanningContext} {age now : ℚ} {checkTarget : Bool}
    (h : c.check age now checkTarget = .ok ()) :
    (checkTarget = true → c.Fit age now) ∧ c.anchor.length = c.joints := by
  unfold check at h
  obtain ⟨observed, hobserved, h⟩ := Except.bind_eq_ok_iff.mp h
  split at h
  next => cases h
  next hfresh =>
    simp only [not_or, not_not, not_lt, gt_iff_lt] at hfresh
    split at h
    next => cases h
    next hstill =>
      simp only [not_or, Bool.not_eq_false] at hstill
      obtain ⟨_, htarget, h⟩ := Except.bind_eq_ok_iff.mp h
      obtain ⟨_, hanchor, _⟩ := Except.bind_eq_ok_iff.mp h
      refine ⟨fun hcheck => ⟨⟨observed, number_eq_ok hobserved, hfresh.1.1, hfresh.1.2, hfresh.2⟩,
        hstill.1, hstill.2, fun target hsome => ?_⟩, ?_⟩
      · unfold PlanningContext.checkTarget at htarget
        rw [hsome] at htarget
        obtain ⟨stamp, hstamp, htarget⟩ := Except.bind_eq_ok_iff.mp htarget
        split at htarget
        next => cases htarget
        next hin =>
          rw [not_or, not_not] at hin
          exact ⟨stamp, number_eq_ok hstamp, hin.1.1, hin.1.2,
            not_lt.mp fun hold => hin.2 ⟨hcheck, hold⟩⟩
      · unfold checkAnchor at hanchor
        split at hanchor
        · cases hanchor
        · split at hanchor
          next => cases hanchor
          next hcount =>
            simp only [not_or, not_not] at hcount
            exact hcount.1

end PlanningContext

namespace ManipulationPort

variable {T : Type}

/-! ## 1. What a journal shows -/

/-- How often the executor was started for the goal. -/
def executions (goal : String) : ManipulationJournal T → Nat
  | [] => 0
  | ⟨.execute goal' _ _, _⟩ :: journal =>
    if goal' = goal then executions goal journal + 1 else executions goal journal
  | _ :: journal => executions goal journal

/-- A cancellation or a failure of the goal has been recorded, and its backend cancelled. -/
def Cancelled (goal : String) (journal : ManipulationJournal T) : Prop :=
  ∃ backend, ∃ reply : Except Raised Unit, ⟨.cancel backend goal, reply⟩ ∈ journal

/-- Planning was started in this context. -/
def Planned (goal : String) (context : PlanningContext) (journal : ManipulationJournal T) : Prop :=
  ∃ task, ∃ reply : Except Raised Unit, ⟨.plan goal task context, reply⟩ ∈ journal

/-- What precedes the start of the executor. -/
def Handoff (config : ManipulationConfig) (goal : String) (trajectory : T)
    (current : PlanningContext) (before : ManipulationJournal T) : Prop :=
  ∃ planned now rest, ∃ result : PortResult,
    before = ⟨.ready .executor, .ok true⟩ :: ⟨.result goal, .ok trajectory⟩ ::
      ⟨.poll .planner goal, .ok result⟩ :: ⟨.clock, .ok now⟩ :: ⟨.context, .ok current⟩ :: rest ∧
    result.state = .succeeded ∧ current.Fit config.age now ∧ Planned goal planned rest ∧
    current.Matches planned ∧ current.anchor.length = planned.anchor.length ∧
    current.AnchorHeld config.tolerance planned ∧
    ¬ Cancelled goal before ∧ executions goal before = 0

/-- Every start of the executor for the goal is a handoff. -/
def Handed (config : ManipulationConfig) (goal : String) : ManipulationJournal T → Prop
  | [] => True
  | ⟨.execute goal' trajectory current, _⟩ :: before =>
    (goal' = goal → Handoff config goal trajectory current before) ∧ Handed config goal before
  | _ :: before => Handed config goal before

/-- The backend at work has reported its end: the planner before the handoff, the executor after. -/
def Released (goal : String) (e : ManipulationEntry) (journal : ManipulationJournal T) : Prop :=
  ∃ later before, ∃ result : PortResult,
    journal = later ++ ⟨.poll e.port goal, .ok result⟩ :: before ∧ result.state.Terminal ∧
    (e.port = .executor ↔ executions goal before = 1) ∧
    (e.state = .succeeded → e.port = .executor ∧ result.state = .succeeded)

/-- What holds of a manipulation port in every state it reaches. -/
structure Safe (config : ManipulationConfig) (w : ManipulationPort)
    (journal : ManipulationJournal T) : Prop where
  owner : ∀ goal e, w.entries.lookup goal = some e → (e.state = .running ↔ w.owner = some goal)
  present : ∀ goal, w.owner = some goal → ∃ e, w.entries.lookup goal = some e
  once : ∀ goal, executions goal journal ≤ 1
  handed : ∀ goal, Handed config goal journal
  released : ∀ goal e, w.entries.lookup goal = some e → e.state ≠ .running →
    Released goal e journal

/-! ## 2. Entries of the journal -/

/-- The call cancels a backend for the goal or starts the executor for it. -/
def Concerns : ManipulationCall T → String → Prop
  | .execute goal' _ _, goal => goal' = goal
  | .cancel _ goal', goal => goal' = goal
  | _, _ => False

variable {goal : String} {journal : ManipulationJournal T} {config : ManipulationConfig}
  {r : Entry (ManipulationCall T) Reply} {e : ManipulationEntry}

theorem executions_cons (h : ¬ Concerns r.call goal) :
    executions goal (r :: journal) = executions goal journal := by
  obtain ⟨call, reply⟩ := r
  cases call with
  | execute goal' trajectory current => exact if_neg h
  | _ => rfl

theorem cancelled_cons (h : ¬ Concerns r.call goal) :
    Cancelled goal (r :: journal) ↔ Cancelled goal journal := by
  constructor
  · rintro ⟨backend, reply, hmem⟩
    rcases List.mem_cons.mp hmem with rfl | hmem
    · exact absurd rfl h
    · exact ⟨backend, reply, hmem⟩
  · rintro ⟨backend, reply, hmem⟩
    exact ⟨backend, reply, List.mem_cons_of_mem _ hmem⟩

theorem handed_cons (h : ¬ Concerns r.call goal) :
    Handed config goal (r :: journal) ↔ Handed config goal journal := by
  obtain ⟨call, reply⟩ := r
  cases call with
  | execute goal' trajectory current => exact and_iff_right fun hsame => absurd hsame h
  | _ => exact Iff.rfl

theorem Planned.cons {context : PlanningContext} (h : Planned goal context journal) :
    Planned goal context (r :: journal) := by
  obtain ⟨task, reply, hmem⟩ := h
  exact ⟨task, reply, List.mem_cons_of_mem _ hmem⟩

theorem Released.cons (h : Released goal e journal) : Released goal e (r :: journal) := by
  obtain ⟨later, before, result, rfl, hrest⟩ := h
  exact ⟨r :: later, before, result, rfl, hrest⟩

/-! ## 3. The entry of the owner -/

/-- Planning before the handoff, executing after. -/
def Stage (goal : String) (e : ManipulationEntry) (journal : ManipulationJournal T) : Prop :=
  e.port = .planner ∧ e.phase = .plan ∧ executions goal journal = 0 ∨
  e.port = .executor ∧ e.phase = .execute ∧ executions goal journal = 1

structure Known (config : ManipulationConfig) (goal : String) (e : ManipulationEntry)
    (journal : ManipulationJournal T) : Prop where
  planned : Planned goal e.context journal
  anchored : e.context.anchor.length = e.context.joints
  stage : Stage goal e journal
  cancelled : e.cancel = true ↔ Cancelled goal journal
  handed : Handed config goal journal
  released : e.state ≠ .running → Released goal e journal

theorem Known.cons (h : Known config goal e journal) (hmute : ¬ Concerns r.call goal) :
    Known config goal e (r :: journal) := by
  refine ⟨h.planned.cons, h.anchored, ?_, h.cancelled.trans (cancelled_cons hmute).symm,
    (handed_cons hmute).mpr h.handed, fun hended => (h.released hended).cons⟩
  unfold Stage
  rw [executions_cons hmute]
  exact h.stage

def law (config : ManipulationConfig) (T : Type) :
    Law ManipulationEntry (ManipulationCall T) Reply where
  running e := e.state = .running
  known := Known config
  unknown goal journal :=
    executions goal journal = 0 ∧ ¬ Cancelled goal journal ∧ Handed config goal journal
  concerns := Concerns
  known_cons hmute h := h.cons hmute
  unknown_cons hmute h := ⟨(executions_cons hmute).trans h.1,
    fun hcancelled => h.2.1 ((cancelled_cons hmute).mp hcancelled), (handed_cons hmute).mpr h.2.2⟩

theorem Sound.safe {w : ManipulationPort} (h : Sound (law config T) w journal) :
    Safe config w journal := by
  refine ⟨h.owned, h.present, fun goal => ?_, fun goal => ?_, fun goal e hlookup =>
    (h.known goal e hlookup).released⟩
  · cases hlookup : w.entries.lookup goal with
    | none => exact (h.unknown goal hlookup).1.le.trans (Nat.zero_le 1)
    | some e =>
      rcases (h.known goal e hlookup).stage with ⟨-, -, hcount⟩ | ⟨-, -, hcount⟩
      · exact hcount.le.trans (Nat.zero_le 1)
      · exact hcount.le
  · cases hlookup : w.entries.lookup goal with
    | none => exact (h.unknown goal hlookup).2.2
    | some e => exact (h.known goal e hlookup).handed

variable {e' : ManipulationEntry}

/-- What a note in the entry keeps. -/
theorem Known.same (h : Known config goal e journal) (hcontext : e'.context = e.context)
    (hport : e'.port = e.port) (hphase : e'.phase = e.phase)
    (hcancel : e'.cancel = true ↔ Cancelled goal journal)
    (hreleased : e'.state ≠ .running → Released goal e' journal) :
    Known config goal e' journal := by
  refine ⟨hcontext ▸ h.planned, hcontext ▸ h.anchored, ?_, hcancel, h.handed, hreleased⟩
  unfold Stage
  rw [hport, hphase]
  exact h.stage

/-! ## 4. Cancelling -/

variable {reply : Except Raised Unit}

/-- The backend at work is cancelled, whatever it says. -/
theorem known_cancelled {backend : Backend} (h : Known config goal e journal)
    (hcontext : e'.context = e.context) (hport : e'.port = e.port) (hphase : e'.phase = e.phase)
    (hcancel : e'.cancel = true) (hrunning : e'.state = .running) :
    Known config goal e' (⟨.cancel backend goal, reply⟩ :: journal) := by
  refine ⟨hcontext ▸ h.planned.cons, hcontext ▸ h.anchored, ?_, ⟨fun _ => ⟨backend, reply, ?_⟩,
    fun _ => hcancel⟩, h.handed, fun hended => absurd hrunning hended⟩
  · unfold Stage
    rw [hport, hphase]
    exact h.stage
  · exact List.mem_cons_self

theorem cancelEntry_keeps {reason : String} {cancelled : Bool} :
    Triple (conduct (ManipulationCall T) Reply)
      (Attends (law config T) goal (Known config goal)) (cancelEntry goal reason cancelled)
      (fun _ => Attends (law config T) goal (Known config goal))
      fun _ => Attends (law config T) goal (Known config goal) := by
  refine bind triple_entry fun e => triple_ite (fun _ => triple_pure fun _ _ h =>
    h.mono fun _ _ h => h.1 ▸ h.2) fun hgoing => ?_
  refine bind (M := fun _ => Attends (law config T) goal fun e' journal =>
      Known config goal e journal ∧ e'.context = e.context ∧ e'.port = e.port ∧
        e'.phase = e.phase ∧ e'.cancel = true)
    (triple_amend fun e' journal hrunning ⟨he, h⟩ => ⟨hrunning, ?_⟩) fun _ => ?_
  · subst he
    exact ⟨h, rfl, rfl, rfl, rfl⟩
  refine tryCatch (E := fun _ => Attends (law config T) goal (Known config goal))
    (Registry.triple_ask ?_ ?_ ?_) fun error => triple_amend fun e' journal hrunning h =>
      ⟨hrunning, h.same rfl rfl rfl h.cancelled fun hended => absurd hrunning hended⟩
  · exact fun other hother hsame => hother hsame.symm
  · rintro e' journal reply hrunning ⟨h, hcontext, hport, hphase, hcancel⟩
    exact known_cancelled h hcontext hport hphase hcancel hrunning
  · rintro e' journal error hrunning ⟨h, hcontext, hport, hphase, hcancel⟩
    exact known_cancelled h hcontext hport hphase hcancel hrunning

/-! ## 5. The context -/

/-- Calls that are made for no goal. -/
def Mute (added : ManipulationJournal T) : Prop :=
  ∀ r ∈ added, ∀ goal, ¬ Concerns r.call goal

/-- What a reading of the context leaves: the context and the time, and then nothing but what was
there before. -/
theorem context_reads {I : ManipulationPort → ManipulationJournal T → Prop} {checkTarget : Bool} :
    Triple (conduct (ManipulationCall T) Reply) I (context config checkTarget)
      (fun c w journal => ∃ now rest, journal = ⟨.clock, .ok now⟩ :: ⟨.context, .ok c⟩ :: rest ∧
        I w rest ∧ c.check config.age now checkTarget = .ok ())
      fun _ w journal => ∃ added rest, journal = added ++ rest ∧ I w rest ∧ Mute added := by
  have hmute : ∀ {call : ManipulationCall T} {reply}, (∀ goal, ¬ Concerns call goal) →
      Mute [⟨call, reply⟩] := fun hcall r hmem => by
    rw [List.mem_singleton.mp hmem]
    exact hcall
  have hmute₂ : ∀ {now : ℚ} {c : PlanningContext},
      Mute (T := T) [⟨.clock, .ok now⟩, ⟨.context, .ok c⟩] := by
    rintro now c r hmem goal
    rcases List.mem_cons.mp hmem with rfl | hmem
    · exact id
    · rw [List.mem_singleton.mp hmem]
      exact id
  refine bind (M := fun c w journal => ∃ rest, journal = ⟨.context, .ok c⟩ :: rest ∧ I w rest)
    (triple_invoke ?_ ?_) fun c => bind
    (M := fun now w journal => ∃ rest,
      journal = ⟨.clock, .ok now⟩ :: ⟨.context, .ok c⟩ :: rest ∧ I w rest)
    (triple_invoke ?_ ?_) fun now => bind
    (M := fun now' w journal => now' = now ∧ ∃ rest,
      journal = ⟨.clock, .ok now⟩ :: ⟨.context, .ok c⟩ :: rest ∧ I w rest)
    (triple_expect ?_ ?_) fun now' => bind
    (M := fun _ w journal => now' = now ∧ c.check config.age now' checkTarget = .ok () ∧ ∃ rest,
      journal = ⟨.clock, .ok now⟩ :: ⟨.context, .ok c⟩ :: rest ∧ I w rest)
    (triple_expect ?_ ?_) fun _ => triple_pure ?_
  · exact fun w journal c h => ⟨journal, rfl, h⟩
  · exact fun w journal error h => ⟨[_], journal, rfl, h, hmute fun _ => id⟩
  · rintro w _ now ⟨rest, rfl, h⟩
    exact ⟨rest, rfl, h⟩
  · rintro w _ error ⟨rest, rfl, h⟩
    refine ⟨[⟨.clock, .error error⟩, ⟨.context, .ok c⟩], rest, rfl, h, ?_⟩
    intro r hmem goal
    rcases List.mem_cons.mp hmem with rfl | hmem
    · exact id
    · rw [List.mem_singleton.mp hmem]
      exact id
  · rintro now' hnow w journal h
    exact ⟨(Scalar.finite.inj (number_eq_ok hnow)).symm, h⟩
  · rintro error - w _ ⟨rest, rfl, h⟩
    exact ⟨[_, _], rest, rfl, h, hmute₂⟩
  · rintro _ hcheck w journal ⟨hnow, h⟩
    exact ⟨hnow, hcheck, h⟩
  · rintro error - w _ ⟨-, rest, rfl, h⟩
    exact ⟨[_, _], rest, rfl, h, hmute₂⟩
  · rintro w _ ⟨rfl, hcheck, rest, rfl, h⟩
    exact ⟨now', rest, rfl, h, hcheck⟩

/-! ## 6. A poll -/

/-- The entry as the poll has found it, and the journal since. -/
def Seen (config : ManipulationConfig) (goal : String) (e : ManipulationEntry)
    (current : PlanningContext) (now : ℚ) (since : ManipulationJournal T) (e' : ManipulationEntry)
    (journal : ManipulationJournal T) : Prop :=
  e' = e ∧ e.cancel = false ∧ current.Matches e.context ∧
    current.check config.age now (decide (e.phase = .plan)) = .ok () ∧
    ∃ rest, journal = since ++ ⟨.clock, .ok now⟩ :: ⟨.context, .ok current⟩ :: rest ∧
      Known config goal e rest

theorem Known.append (h : Known config goal e journal) : ∀ {added : ManipulationJournal T},
    Mute added → Known config goal e (added ++ journal)
  | [], _ => h
  | _ :: _, hadded => (h.append fun r hmem => hadded r (List.mem_cons_of_mem _ hmem)).cons
      (hadded _ List.mem_cons_self goal)

variable {current : PlanningContext} {now : ℚ} {since : ManipulationJournal T}

/-- What the poll has seen leaves the entry as it was. -/
theorem Seen.known (h : Seen config goal e current now since e' journal) (hsince : Mute since) :
    Known config goal e' journal := by
  obtain ⟨rfl, -, -, -, rest, rfl, hknown⟩ := h
  refine Known.append ?_ hsince
  exact (hknown.cons (r := ⟨.context, .ok current⟩) id).cons (r := ⟨.clock, .ok now⟩) id

theorem mute_nil : Mute (T := T) [] := fun _ hmem => absurd hmem List.not_mem_nil

theorem Mute.cons {added : ManipulationJournal T} (h : Mute added)
    (hentry : ∀ goal, ¬ Concerns r.call goal) : Mute (r :: added) := by
  intro entry' hmem
  rcases List.mem_cons.mp hmem with rfl | hmem
  · exact hentry
  · exact h entry' hmem

theorem askSeen {call : ManipulationCall T} (hsince : Mute since)
    (hmute : ∀ goal, ¬ Concerns call goal) :
    Triple (conduct (ManipulationCall T) Reply)
      (Attends (law config T) goal (Seen config goal e current now since)) (invoke call)
      (fun value => Attends (law config T) goal
        (Seen config goal e current now (⟨call, .ok value⟩ :: since)))
      fun _ => Attends (law config T) goal (Known config goal) := by
  refine Registry.triple_ask (fun other _ => hmute other) ?_ ?_
  · rintro e' _ value - ⟨rfl, hcancel, hmatches, hcheck, rest, rfl, h⟩
    exact ⟨rfl, hcancel, hmatches, hcheck, rest, rfl, h⟩
  · intro e' journal error _ h
    exact (h.known hsince).cons (r := ⟨call, .error error⟩) (hmute goal)

/-- What the poll had in hand when the executor was started. -/
def Ready (config : ManipulationConfig) (goal : String) (plan : T) (current : PlanningContext)
    (e : ManipulationEntry) (journal : ManipulationJournal T) : Prop :=
  e.port = .executor ∧ e.cancel = false ∧ Planned goal e.context journal ∧
    e.context.anchor.length = e.context.joints ∧ Handoff config goal plan current journal ∧
    Handed config goal journal

/-- The executor is started, whatever it says. -/
theorem Ready.execute {plan : T} (h : Ready config goal plan current e journal)
    (hphase : e.phase = .execute) (hrunning : e.state = .running) :
    Known config goal e (⟨.execute goal plan current, reply⟩ :: journal) := by
  obtain ⟨hport, hcancel, hplanned, hanchored, hhandoff, hhanded⟩ := h
  obtain ⟨hcancelled, hcount⟩ : ¬ Cancelled goal journal ∧ executions goal journal = 0 := by
    obtain ⟨planned, now, rest, result, -, -, -, -, -, -, -, hcancelled, hcount⟩ := hhandoff
    exact ⟨hcancelled, hcount⟩
  refine ⟨hplanned.cons, hanchored, .inr ⟨hport, hphase, ?_⟩, ?_, ⟨fun _ => hhandoff, hhanded⟩,
    fun hended => absurd hrunning hended⟩
  · rw [executions, if_pos rfl, hcount]
  · rw [hcancel]
    refine ⟨nofun, ?_⟩
    rintro ⟨backend, reply', hmem⟩
    rcases List.mem_cons.mp hmem with hhead | hmem
    · cases hhead
    · exact absurd ⟨backend, reply', hmem⟩ hcancelled

/-- **The handoff**: from the success of the planner to the start of the executor. -/
theorem handOff_keeps {result : PortResult} (hsucceeded : result.state = .succeeded)
    (hphase : e.phase = .plan) :
    Triple (conduct (ManipulationCall T) Reply)
      (Attends (law config T) goal
        (Seen config goal e current now [⟨.poll e.port goal, .ok result⟩]))
      (handOff config goal current e.context)
      (fun _ => Attends (law config T) goal (Known config goal))
      fun _ => Attends (law config T) goal (Known config goal) := by
  have hpoll : Mute (T := T) [⟨.poll e.port goal, .ok result⟩] := mute_nil.cons fun _ => id
  refine triple_ite (fun _ => triple_throw fun _ _ h => h.mono fun _ _ h => h.known hpoll)
    fun hheld => bind (askSeen hpoll fun _ => id) fun plan =>
      bind (askSeen (hpoll.cons fun _ => id) fun _ => id) fun ready =>
        triple_ite (fun _ => triple_pure fun _ _ h => h.mono fun _ _ h =>
          h.known ((hpoll.cons fun _ => id).cons fun _ => id)) fun hready => ?_
  refine bind (M := fun _ => Attends (law config T) goal (Ready config goal plan current))
    (triple_amend fun e' journal hrunning h => ⟨hrunning, ?_⟩) fun _ => bind
    (M := fun _ => Attends (law config T) goal fun e' journal =>
      Ready config goal plan current e' journal ∧ e'.phase = .execute)
    (triple_amend fun e' journal hrunning h => ⟨hrunning, h, rfl⟩) fun _ => bind
    (M := fun _ => Attends (law config T) goal (Known config goal))
    (Registry.triple_ask ?_ ?_ ?_) fun _ => triple_pure fun _ _ h => h
  · obtain rfl : ready = true := not_not.mp (by simpa using hready)
    have hknown := h.known ((hpoll.cons (r := ⟨.result goal, .ok plan⟩) fun _ => id).cons
      (r := ⟨.ready .executor, .ok true⟩) fun _ => id)
    obtain ⟨rfl, hcancel, hmatches, hcheck, rest, rfl, hrest⟩ := h
    obtain ⟨hport, hcount⟩ : e'.port = .planner ∧ executions goal rest = 0 := by
      rcases hrest.stage with ⟨hport, -, hcount⟩ | ⟨-, hexecute, -⟩
      · exact ⟨hport, hcount⟩
      · exact nomatch hphase.symm.trans hexecute
    rw [hphase] at hcheck
    obtain ⟨hfit, hlength⟩ := PlanningContext.check_eq_ok hcheck
    have hsame : current.joints = e'.context.joints := by
      unfold PlanningContext.joints
      rw [hmatches.2.1]
    refine ⟨rfl, hcancel, hknown.planned, hknown.anchored, ⟨e'.context, now, rest, result, ?_,
      hsucceeded, hfit rfl, hrest.planned, hmatches, hlength.trans (hsame.trans hrest.anchored.symm),
      not_not.mp hheld, ?_, ?_⟩, hknown.handed⟩
    · rw [hport]
      rfl
    · rw [← hknown.cancelled, hcancel]
      exact nofun
    · exact hcount
  · exact fun other hother hsame => hother hsame.symm
  · exact fun e' journal reply hrunning h => h.1.execute h.2 hrunning
  · exact fun e' journal error hrunning h => h.1.execute h.2 hrunning

theorem sound_of_known {w : ManipulationPort}
    (h : Attends (law config T) goal (Known config goal) w journal) :
    Sound (law config T) w journal :=
  h.sound fun _ _ he => he

theorem cancelEntry_sound {reason : String} {cancelled : Bool} :
    Triple (conduct (ManipulationCall T) Reply) (Sound (law config T))
      (cancelEntry goal reason cancelled) (fun _ => Sound (law config T))
      fun _ => Sound (law config T) := by
  refine triple_by_entry goal (fun e => ?_) ?_
  · exact cancelEntry_keeps.conseq (fun _ _ h => h.mono fun _ _ h => h.1 ▸ h.2)
      (fun _ _ _ h => sound_of_known h) fun _ _ _ h => sound_of_known h
  · refine bind (triple_find.conseq (fun _ _ h => h) (fun _ _ _ h => h) fun _ _ _ h => h.1)
      fun e => triple_ite (fun _ => triple_pure fun _ _ h => h.1.1) fun hgoing => ?_
    exact fun w journal h => absurd (.inr (h.1.2 e h.2)) hgoing

/-- The backend at work has reported its end. -/
theorem released_of_terminal {result : PortResult} {state : EntryStatus}
    (h : Known config goal e journal) (hterminal : result.state.Terminal)
    (hsucceeded : state = .succeeded → e.phase = .execute ∧ result.state = .succeeded) :
    Released goal { e with state } (⟨.poll e.port goal, .ok result⟩ :: journal) := by
  refine ⟨[], journal, result, rfl, hterminal, ?_, fun hstate => ?_⟩
  · rcases h.stage with ⟨hport, -, hcount⟩ | ⟨hport, -, hcount⟩
    · exact ⟨fun h => (nomatch hport.symm.trans h), fun h => (nomatch hcount.symm.trans h)⟩
    · exact ⟨fun _ => hcount, fun _ => hport⟩
  · obtain ⟨hexecute, hresult⟩ := hsucceeded hstate
    rcases h.stage with ⟨-, hplan, -⟩ | ⟨hport, -, -⟩
    · exact nomatch hplan.symm.trans hexecute
    · exact ⟨hport, hresult⟩

theorem awaitEnd_sound :
    Triple (conduct (ManipulationCall T) Reply)
      (Attends (law config T) goal fun e' journal => e' = e ∧ Known config goal e journal)
      (awaitEnd goal e) (fun _ => Sound (law config T)) fun _ => Sound (law config T) := by
  refine bind (M := fun result => Attends (law config T) goal fun e' journal =>
      e' = e ∧ Known config goal e journal ∧ (result.state.Terminal →
        Released goal { e with state := e.destination.entryStatus } journal))
    ((Registry.triple_ask (R := fun _ => Known config goal) (fun _ _ => id) ?_ ?_).conseq
      (fun _ _ h => h) (fun _ _ _ h => h) fun _ _ _ h => sound_of_known h) fun result =>
    triple_ite (fun hterminal => triple_finish fun e' journal _ h => ?_) fun _ =>
      triple_pure fun _ _ h => sound_of_known (h.mono fun _ _ h => h.1 ▸ h.2.1)
  · rintro e' journal result - ⟨rfl, h⟩
    refine ⟨rfl, h.cons (r := ⟨.poll .., .ok result⟩) id, fun hterminal =>
      released_of_terminal h hterminal fun hstate => ?_⟩
    cases hdestination : e'.destination <;> rw [hdestination] at hstate <;> cases hstate
  · rintro e' journal error - ⟨rfl, h⟩
    exact h.cons (r := ⟨.poll .., .error error⟩) id
  · obtain ⟨rfl, h, hreleased⟩ := h
    exact ⟨e'.destination.entryStatus_ne,
      h.same rfl rfl rfl h.cancelled fun _ => hreleased hterminal⟩

theorem advance_sound :
    Triple (conduct (ManipulationCall T) Reply)
      (Attends (law config T) goal fun e' journal => e' = e ∧ Known config goal e journal)
      (advance config goal e) (fun _ => Sound (law config T)) fun _ => Sound (law config T) := by
  have hend : ∀ {α : Type} {x : Manipulation T α}
      {X : ManipulationPort → ManipulationJournal T → Prop},
      Triple (conduct (ManipulationCall T) Reply) X x
        (fun _ => Attends (law config T) goal (Known config goal))
        (fun _ => Attends (law config T) goal (Known config goal)) →
      Triple (conduct (ManipulationCall T) Reply) X x
        (fun _ => Sound (law config T)) fun _ => Sound (law config T) := fun h =>
    h.conseq (fun _ _ h => h) (fun _ _ _ h => sound_of_known h) fun _ _ _ h => sound_of_known h
  refine triple_ite (fun _ => bind awaitEnd_sound fun _ => bind triple_find fun _ =>
    triple_pure fun _ _ h => h.1) fun hcancel => ?_
  refine bind (M := fun current w journal => ∃ now rest,
      journal = ⟨.clock, .ok now⟩ :: ⟨.context, .ok current⟩ :: rest ∧
      Attends (law config T) goal (fun e' journal => e' = e ∧ Known config goal e journal) w rest ∧
      current.check config.age now (decide (e.phase = .plan)) = .ok ())
    (context_reads.conseq (fun _ _ h => h) (fun _ _ _ h => h) ?_) fun current => ?_
  · rintro error w _ ⟨added, rest, rfl, h, hmute⟩
    refine sound_of_known (h.append (P := fun e' journal => e' = e ∧ Known config goal e journal)
      ?_ hmute |>.mono fun _ _ h => h.1 ▸ h.2)
    exact fun e' journal r hentry h => ⟨h.1, h.2.cons hentry⟩
  have hread : ∀ w journal now rest, current.Matches e.context →
      current.check config.age now (decide (e.phase = .plan)) = .ok () →
      journal = ⟨.clock, .ok now⟩ :: ⟨.context, .ok current⟩ :: rest →
      Attends (law config T) goal (fun e' journal => e' = e ∧ Known config goal e journal) w rest →
      Attends (law config T) goal (Seen config goal e current now []) w journal := by
    rintro w _ now rest hmatches hcheck rfl h
    have hcontext := h.cons (r := ⟨.context, .ok current⟩)
      (Q := fun e' journal => e' = e ∧ ∃ rest, journal = ⟨.context, .ok current⟩ :: rest ∧
        Known config goal e rest)
      (fun _ _ => id) fun e' _ h => ⟨h.1, rest, rfl, h.2⟩
    refine hcontext.cons (fun _ _ => id) ?_
    rintro e' - ⟨rfl, rest, hrest, h⟩
    exact ⟨rfl, by simpa using hcancel, hmatches, hcheck, rest, congrArg _ hrest, h⟩
  refine triple_ite (fun _ => triple_throw ?_) fun hmatches => ?_
  · rintro w _ ⟨now, rest, rfl, h, -⟩
    refine sound_of_known (h.append (l := [⟨.clock, .ok now⟩, ⟨.context, .ok current⟩]) ?_
      ((mute_nil.cons fun _ => id).cons fun _ => id) |>.mono fun _ _ h => h.1 ▸ h.2)
    exact fun e' journal r hentry h => ⟨h.1, h.2.cons hentry⟩
  rintro w journal ⟨now, rest, hrest, h, hcheck⟩
  have hpolled : ∀ result : PortResult, Mute (T := T) [⟨.poll e.port goal, .ok result⟩] :=
    fun result => mute_nil.cons fun _ => id
  have hfollow : Triple (conduct (ManipulationCall T) Reply)
      (Attends (law config T) goal (Seen config goal e current now []))
      (do
        let result ← invoke (ManipulationCall.poll (T := T) e.port goal)
        if result.state = .failed ∨ result.state = .cancelled then
          cancelEntry goal (orElse result.reason "manipulation backend failed") false
          pure none
        else if result.state = .succeeded then
          if e.phase = .plan then handOff config goal current e.context
          else
            finish goal fun e => { e with state := .succeeded }
            pure none
        else pure none : Manipulation T (Option PortResult))
      (fun _ => Sound (law config T)) fun _ => Sound (law config T) := by
    refine bind ((askSeen mute_nil fun _ => id).conseq (fun _ _ h => h) (fun _ _ _ h => h)
      fun _ _ _ h => sound_of_known h) fun result => triple_ite (fun _ => hend (bind
        (cancelEntry_keeps.conseq (fun _ _ h => h.mono fun _ _ h => h.known (hpolled result))
          (fun _ _ _ h => h) fun _ _ _ h => h) fun _ => triple_pure fun _ _ h => h)) fun _ =>
        triple_ite (fun hsucceeded => triple_ite (fun hphase =>
          hend (handOff_keeps hsucceeded hphase)) fun hphase => ?_) fun _ =>
            triple_pure fun _ _ h => sound_of_known (h.mono fun _ _ h => h.known (hpolled result))
    refine bind (triple_finish fun e' journal _ h => ⟨nofun, ?_⟩) fun _ =>
      triple_pure fun _ _ h => h
    have hexecute : e'.phase = .execute := by
      rw [h.1]
      cases hcase : e.phase with
      | plan => exact absurd hcase hphase
      | execute => rfl
    obtain ⟨rfl, -, -, -, rest, rfl, hknown⟩ := h
    have hbefore := (hknown.cons (r := ⟨.context, .ok current⟩) id).cons
      (r := ⟨.clock, .ok now⟩) id
    exact (hbefore.cons (r := ⟨.poll e'.port goal, .ok result⟩) id).same rfl rfl rfl
      (hbefore.cons (r := ⟨.poll e'.port goal, .ok result⟩) id).cancelled fun _ =>
        released_of_terminal hbefore (.inl hsucceeded) fun _ => ⟨hexecute, hsucceeded⟩
  exact hfollow w journal (hread w journal now rest (not_not.mp hmatches) hcheck hrest h)

/-- Planning is started, whatever the planner says. -/
theorem planned_known {task : String} (hrunning : e.state = .running) (hport : e.port = .planner)
    (hphase : e.phase = .plan) (hcancel : e.cancel = false)
    (hanchor : e.context.anchor.length = e.context.joints) (hcount : executions goal journal = 0)
    (hnever : ¬ Cancelled goal journal) (hhanded : Handed config goal journal) :
    Known config goal e (⟨.plan goal task e.context, reply⟩ :: journal) := by
  refine ⟨⟨task, reply, List.mem_cons_self⟩, hanchor, .inl ⟨hport, hphase, hcount⟩, ?_, hhanded,
    fun hended => absurd hrunning hended⟩
  rw [hcancel, cancelled_cons id]
  exact ⟨nofun, fun h => absurd h hnever⟩

/-! ## 7. Every run -/

theorem poll_sound :
    Triple (conduct (ManipulationCall T) Reply) (Sound (law config T))
      (poll config goal) (fun _ => Sound (law config T)) fun _ => Sound (law config T) := by
  refine bind triple_find fun e => triple_ite (fun _ => triple_pure fun _ _ h => h.1)
    fun hrunning => bind (M := fun _ => Sound (law config T)) (tryCatch
      (advance_sound.conseq ?_ (fun _ _ _ h => h) fun _ _ _ h => h) fun error =>
        bind cancelEntry_sound fun _ => triple_pure fun _ _ h => h) fun early => ?_
  · rintro w journal ⟨h, hlookup⟩
    exact h.attends hlookup (not_not.mp hrunning)
  · cases early with
    | some result => exact triple_pure fun _ _ h => h
    | none => exact bind triple_find fun _ => triple_pure fun _ _ h => h.1

theorem isReady_sound :
    Triple (conduct (ManipulationCall T) Reply) (Sound (law config T)) isReady
      (fun ready w journal => Sound (law config T) w journal ∧ (ready = true → w.owner = none))
      fun _ => Sound (law config T) := by
  refine triple_get_bind fun w₀ => triple_ite (fun _ => triple_pure fun _ _ h => ⟨h.2, nofun⟩)
    fun hfree => ?_
  have hnone : w₀.owner = none := by simpa using hfree
  have hask : ∀ backend, Triple (conduct (ManipulationCall T) Reply)
      (fun w journal => w = w₀ ∧ Sound (law config T) w journal)
      (invoke (ready (T := T) backend))
      (fun _ w journal => w = w₀ ∧ Sound (law config T) w journal)
      fun _ => Sound (law config T) := fun backend =>
    triple_invoke
      (fun _ _ value h => ⟨h.1, h.2.cons (r := ⟨.ready backend, .ok value⟩) fun _ => id⟩)
      fun _ _ error h => h.2.cons (r := ⟨.ready backend, .error error⟩) fun _ => id
  refine bind (hask .planner) fun planner => triple_ite (fun _ => (hask .executor).conseq
    (fun _ _ h => h) (fun _ _ _ h => ⟨h.2, fun _ => h.1 ▸ hnone⟩) fun _ _ _ h => h) fun _ =>
      triple_pure fun _ _ h => ⟨h.2, nofun⟩

theorem start_sound {parameters : String} :
    Triple (conduct (ManipulationCall T) Reply) (Sound (law config T))
      (start config goal parameters) (fun _ => Sound (law config T))
      fun _ => Sound (law config T) := by
  refine bind isReady_sound fun ready => triple_get_bind fun w₀ =>
    triple_ite (fun _ => triple_throw fun _ _ h => h.2.1) fun hfree => ?_
  simp only [not_or, Bool.not_eq_true, Option.isSome_eq_false_iff, Option.isNone_iff_eq_none]
    at hfree
  refine bind (M := fun c w journal => w.owner = none ∧ w.entries.lookup goal = none ∧
      Sound (law config T) w journal ∧ c.anchor.length = c.joints)
    ((context_reads (I := fun w journal => w = w₀ ∧ Sound (law config T) w journal ∧
      (ready = true → w.owner = none))).conseq (fun _ _ h => h) ?_ ?_) fun c => bind
    (M := fun _ => Attends (law config T) goal fun e journal => e.port = .planner ∧
      e.phase = .plan ∧ e.context = c ∧ e.cancel = false ∧ c.anchor.length = c.joints ∧
      executions goal journal = 0 ∧ ¬ Cancelled goal journal ∧ Handed config goal journal)
    (triple_modify ?_) fun _ => tryCatch
    (E := fun _ => Attends (law config T) goal (Known config goal))
    ((Registry.triple_ask (Q := fun _ => Known config goal) ?_ ?_ ?_).conseq (fun _ _ h => h)
      (fun _ _ _ h => sound_of_known h) fun _ _ _ h => h) fun error =>
        cancelEntry_keeps.conseq (fun _ _ h => h) (fun _ _ _ h => sound_of_known h)
          fun _ _ _ h => sound_of_known h
  · rintro c w _ ⟨now, rest, rfl, ⟨rfl, h, howner⟩, hcheck⟩
    refine ⟨howner (by simpa using hfree.1), hfree.2.1, ?_, (PlanningContext.check_eq_ok hcheck).2⟩
    exact (h.cons (r := ⟨.context, .ok c⟩) fun _ => id).cons (r := ⟨.clock, .ok now⟩)
      fun _ => id
  · rintro error w _ ⟨added, rest, rfl, ⟨rfl, h, -⟩, hmute⟩
    exact h.append hmute
  · rintro w journal ⟨howner, hlookup, h, hanchor⟩
    exact h.enter howner hlookup rfl fun hunknown => ⟨rfl, rfl, rfl, rfl, hanchor, hunknown⟩
  · exact fun _ _ => id
  · rintro e journal reply hrunning ⟨hport, hphase, rfl, hcancel, hanchor, hcount, hnever, hhanded⟩
    exact planned_known hrunning hport hphase hcancel hanchor hcount hnever hhanded
  · rintro e journal error hrunning ⟨hport, hphase, rfl, hcancel, hanchor, hcount, hnever, hhanded⟩
    exact planned_known hrunning hport hphase hcancel hanchor hcount hnever hhanded

theorem op_sound (op : ManipulationOp) :
    Triple (conduct (ManipulationCall T) Reply) (Sound (law config T))
      (op.action config) (fun _ => Sound (law config T)) fun _ => Sound (law config T) := by
  cases op with
  | start goal parameters => exact start_sound
  | poll goal => exact bind poll_sound fun _ => triple_pure fun _ _ h => h
  | cancel goal => exact cancelEntry_sound

/-- **The handoff is safe**, in every run of a manipulation port. -/
theorem handoff_safe (config : ManipulationConfig)
    (l : List (ManipulationOp × Oracle (ManipulationCall T) Reply)) :
    Safe config (run (consult (ManipulationOp.action config)) (Registry.empty, []) l).1
      (run (consult (ManipulationOp.action config)) (Registry.empty, []) l).2 :=
  Sound.safe (consult_invariant op_sound l (sound_empty fun _ => ⟨rfl, by rintro ⟨_, _, ⟨⟩⟩, trivial⟩))

end ManipulationPort

end MobileBimanual.Tasks
