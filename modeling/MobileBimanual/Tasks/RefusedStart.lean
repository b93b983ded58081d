/-
# A start that is refused

A port that raises before it has an entry for the goal does not know the goal afterwards: whatever
the adapter asks it about the goal, it raises (`Blocked`).  The same is true of a sequence whose
child was refused: it waits for the end of a child that its port does not know (`Jammed`).

The adapter keeps the goal as its action under way, so it never reports that it has stopped
(`Robot.handler_meets`), and the executor never comes to its end (`refused_start_wedges`).
-/
import MobileBimanual.Tasks.ExecutorLease
import MobileBimanual.Tasks.SkillPorts

namespace MobileBimanual.Tasks

open Activity Oracle Registry Machine
open Program (Handler Conduct)
open Triple TaskExecutor Pool

/-! ## 1. Ports that do not know a goal -/

namespace Leaf

variable {leaf : Leaf} {goal : String}

/-- What is asked about a goal. -/
def Asks (call : PortCall) (goal : String) : Prop := call = .poll goal ∨ call = .cancel goal

theorem serve_absent {call : PortCall} (h : leaf.knows goal = false) (hcall : Asks call goal) :
    ∃ error, leaf.serve call = .done (.error error, leaf) := by
  cases leaf with
  | manipulation config w =>
    have hnone : w.entries.lookup goal = none := Option.isNone_iff_eq_none.mp (by
      simpa [knows] using h)
    refine ⟨missingEntry goal, ?_⟩
    rcases hcall with rfl | rfl
    · rw [serve, ManipulationPort.serve, ManipulationPort.poll, program_entry_absent hnone]
      rfl
    · rw [serve, ManipulationPort.serve, ManipulationPort.cancel, ManipulationPort.cancelEntry,
        program_entry_absent hnone]
      rfl
  | capture config w =>
    have hnone : w.entries.lookup goal = none := Option.isNone_iff_eq_none.mp (by
      simpa [knows] using h)
    refine ⟨keyError goal, ?_⟩
    rcases hcall with rfl | rfl
    · rw [serve, CapturePort.serve, CapturePort.poll, program_entry_absent hnone]
      rfl
    · rw [serve, CapturePort.serve, CapturePort.cancel, CapturePort.stop,
        program_entry_absent hnone]
      rfl
  | scene config w =>
    have hnone : w.registry.entries.lookup goal = none := Option.isNone_iff_eq_none.mp (by
      simpa [knows] using h)
    refine ⟨keyError goal, ?_⟩
    rcases hcall with rfl | rfl
    · rw [serve, ScenePort.serve, ScenePort.poll, ScenePort.program_entry_absent hnone]
      rfl
    · rw [serve, ScenePort.serve, ScenePort.cancel, ScenePort.program_entry_absent hnone]
      rfl

/-- Whatever the calls. -/
abbrev any {Call : Type} : Call → Prop := fun _ => True

theorem keeps_ask_ready {Call : Type} {Result : Call → Type} {σ : Type} {c : Call} :
    (invoke c : Activity Call (fun c => Except Raised (Result c)) Raised σ (Result c)).Keeps
      (Frame.still any) :=
  keeps_invoke fun _ => trivial

theorem manipulation_ready :
    (ManipulationPort.isReady (T := String)).Keeps (Frame.still any) := by
  refine keeps_get_bind fun w => ?_
  split
  · exact keeps_pure _
  · refine (keeps_ask_ready (c := ManipulationCall.ready _)).bind fun planner => ?_
    split
    · exact keeps_ask_ready (c := ManipulationCall.ready _)
    · exact keeps_pure _

theorem capture_ready : CapturePort.isReady.Keeps (Frame.still any) := by
  refine keeps_get_bind fun w => ?_
  split
  · exact keeps_pure _
  · refine (keeps_ask_ready (c := CaptureCall.ready _)).bind fun source => ?_
    split
    · exact keeps_ask_ready (c := CaptureCall.ready _)
    · exact keeps_pure _

theorem scene_ready : ScenePort.isReady.Keeps (Frame.still any) := by
  refine keeps_get_bind fun w => ?_
  split
  · exact keeps_pure _
  · exact keeps_ask_ready (c := SceneCall.ready)

/-- To ask whether a port is ready changes nothing. -/
theorem serve_ready (leaf : Leaf) : (leaf.serve .ready).Within any fun r => r.2 = leaf := by
  cases leaf with
  | manipulation config w =>
    rw [serve, Program.within_bind]
    refine Program.within_relabel (fun _ _ => trivial)
      ((manipulation_ready w).mono (fun _ => id) ?_)
    exact fun r hr => congrArg (Leaf.manipulation config) hr
  | capture config w =>
    rw [serve, Program.within_bind]
    refine Program.within_relabel (fun _ _ => trivial) ((capture_ready w).mono (fun _ => id) ?_)
    exact fun r hr => congrArg (Leaf.capture config) hr
  | scene config w =>
    rw [serve, Program.within_bind]
    refine Program.within_relabel (fun _ _ => trivial) ((scene_ready w).mono (fun _ => id) ?_)
    exact fun r hr => congrArg (Leaf.scene config) hr

end Leaf

/-! ## 2. What the children of a sequence answer -/

variable {N M : Type}

namespace Pool

variable {pool : Pool N M}

/-- How the ports may be left by a call; `failed` if it raised. -/
def Answers (pool : Pool N M) (failed : Prop) (pool' : Pool N M) : SequenceCall N → Prop
  | .start port child _ => pool'.refusals = pool.refusals ∨
      failed ∧ pool'.knows port child.text = false
  | .poll port child | .cancel port child => pool'.refusals = pool.refusals ∧
      (pool.knows port child.text = false → failed ∧ pool' = pool)
  | _ => pool' = pool

variable (N M) in
def conduct : Conduct (SequenceCall N) SequenceCall.Reply (Pool N M) where
  interferes pool pool' := pool' = pool
  permits _ _ := True
  answers c pool reply pool' := pool.Answers (∃ error, reply = .error error) pool' c

variable [DecidableEq N]

theorem serve_ready (port : N) (pool : Pool N M) :
    (pool.serve port .ready).Within Leaf.any fun r => r.2 = pool := by
  rw [serve, Program.within_bind]
  refine Program.within_relabel (fun _ _ => trivial)
    ((pool.leaves port).serve_ready.mono (fun _ => id) ?_)
  rintro ⟨reply, leaf⟩ rfl
  show mk (Function.update pool.leaves port (pool.leaves port)) pool.refusals = pool
  rw [Function.update_eq_self]

theorem serve_start (port : N) (goal parameters : String) (pool : Pool N M) :
    (pool.serve port (.start goal parameters)).Within Leaf.any fun r =>
      r.2.refusals = pool.refusals ∨
        (∃ error, r.1 = .error error) ∧ r.2.knows port goal = false := by
  rw [serve, Program.within_bind]
  refine (Program.within_true _).mono (fun _ => id) ?_
  rintro ⟨reply, leaf⟩ -
  cases reply with
  | ok value => exact .inl rfl
  | error error =>
    by_cases hknows : leaf.knows goal = true
    · exact .inl (if_pos hknows)
    · refine .inr ⟨⟨error, rfl⟩, ?_⟩
      show (Function.update pool.leaves port leaf port).knows goal = false
      rw [Function.update_self]
      exact Bool.eq_false_iff.mpr hknows

theorem serve_asks {call : PortCall} {goal : String} (port : N) (pool : Pool N M)
    (hcall : Leaf.Asks call goal) :
    (pool.serve port call).Within Leaf.any fun r => r.2.refusals = pool.refusals ∧
      (pool.knows port goal = false → (∃ error, r.1 = .error error) ∧ r.2 = pool) := by
  have hnoted : ∀ (r : call.Reply) (knows : String → Bool),
      noted pool.refusals (.inl port : N ⊕ M) call r knows = pool.refusals := by
    rcases hcall with rfl | rfl <;> exact fun _ _ => rfl
  by_cases hknows : pool.knows port goal = false
  · obtain ⟨error, hserve⟩ := Leaf.serve_absent hknows hcall
    rw [serve, hserve]
    have hsame : mk (Function.update pool.leaves port (pool.leaves port)) pool.refusals = pool
      := by rw [Function.update_eq_self]
    show _ ∧ (_ → _ ∧ mk _ _ = _)
    rw [hnoted]
    exact ⟨rfl, fun _ => ⟨⟨error, rfl⟩, hsame⟩⟩
  · rw [serve, Program.within_bind]
    refine (Program.within_true _).mono (fun _ => id) ?_
    rintro r -
    exact ⟨hnoted _ _, fun h => absurd h hknows⟩

theorem handler_meets (name : M) : (handler name).Meets (conduct N M) Leaf.any := by
  intro c pool _
  cases c with
  | build parameters => exact ⟨trivial, fun _ => rfl⟩
  | clock => exact ⟨trivial, fun _ => rfl⟩
  | monitor child phase now => exact ⟨trivial, fun _ => rfl⟩
  | ready port => exact serve_ready port pool
  | start port child parameters => exact serve_start port child.text parameters pool
  | poll port child => exact serve_asks port pool (.inl rfl)
  | cancel port child => exact serve_asks port pool (.inr rfl)

end Pool

/-! ## 3. Sequences -/

namespace SequencePort

variable {goal : String} {maxAge : ℚ} {w : SequencePort N} {pool : Pool N M}

/-- A cancelled goal that waits for the end of a child which its port does not know. -/
def JammedBy (e : SequenceEntry N) (goal : String) (w : SequencePort N) (pool : Pool N M) : Prop :=
  w.entries.lookup goal = some e ∧ e.status = .running ∧ e.cancel = true ∧ e.started = true ∧
    ∃ phase, e.phases[e.index]? = some phase ∧
      pool.knows phase.port (Child.text ⟨goal, e.index⟩) = false

def Jammed (goal : String) (w : SequencePort N) (pool : Pool N M) : Prop :=
  ∃ e, JammedBy e goal w pool

/-- It waits for this phase. -/
def JammedAt (goal : String) (phase : Phase N) (index : ℕ) (w : SequencePort N)
    (pool : Pool N M) : Prop :=
  ∃ e, JammedBy e goal w pool ∧ e.index = index ∧ e.phases[index]? = some phase

/-- The child that was started is not known, and nothing has been done about it. -/
def Failing (e : SequenceEntry N) (goal : String) (phase : Phase N) (w : SequencePort N)
    (pool : Pool N M) : Prop :=
  w.entries.lookup goal = some { e with started := true } ∧ e.cancel = false ∧
    pool.knows phase.port (Child.text ⟨goal, e.index⟩) = false

variable {f : SequenceEntry N → SequenceEntry N}

variable {e : SequenceEntry N}

theorem lookup_amended (h : w.entries.lookup goal = some e) :
    (w.update goal f).entries.lookup goal = some (f e) :=
  (lookup_update h f goal).trans (if_pos rfl)

variable {child : Child} {I : SequencePort N → Pool N M → Prop}

theorem triple_poll_absent {port : N}
    (habsent : ∀ w pool, I w pool → pool.knows port child.text = false) :
    Triple (conduct N M) I (invoke (SequenceCall.poll port child) : Sequence N PortResult)
      (fun _ _ _ => False) fun _ => I := by
  intro w pool h pool' hsame
  obtain rfl : pool' = pool := hsame
  refine ⟨trivial, fun reply pool'' hanswers => ?_⟩
  obtain ⟨⟨error, rfl⟩, rfl⟩ := hanswers.2 (habsent w pool' h)
  exact h

theorem triple_cancel_absent {port : N}
    (habsent : ∀ w pool, I w pool → pool.knows port child.text = false) :
    Triple (conduct N M) I (invoke (SequenceCall.cancel port child) : Sequence N Unit)
      (fun _ _ _ => False) fun _ => I := by
  intro w pool h pool' hsame
  obtain rfl : pool' = pool := hsame
  refine ⟨trivial, fun reply pool'' hanswers => ?_⟩
  obtain ⟨⟨error, rfl⟩, rfl⟩ := hanswers.2 (habsent w pool' h)
  exact h

variable {phase : Phase N}

/-- **A jammed goal stays jammed.** -/
theorem settle_jammed (hphase : e.phases[e.index]? = some phase) :
    Triple (conduct N M) (JammedBy e goal) (settle goal phase ⟨goal, e.index⟩)
      (fun _ => JammedBy e goal) fun _ => JammedBy e goal := by
  have habsent : ∀ (w : SequencePort N) (pool : Pool N M), JammedBy e goal w pool →
      pool.knows phase.port (Child.text ⟨goal, e.index⟩) = false := by
    rintro w pool ⟨-, -, -, -, phase', hphase', habsent⟩
    obtain rfl := Option.some.inj (hphase.symm.trans hphase')
    exact habsent
  refine bind (triple_entry_of fun _ _ h => h.1) fun e' =>
    triple_ite (fun _ => bind (M := fun idle w pool => idle = false ∧ JammedBy e goal w pool)
      ?_ fun idle => triple_ite (fun hidle => ?_) fun _ => triple_pure fun _ _ h => h.2)
      fun _ => triple_pure fun _ _ h => h.2
  · refine triple_ite (fun hunstarted => ?_) fun _ => ?_
    · rintro w pool ⟨rfl, h⟩
      exact absurd h.2.2.2.1 hunstarted
    · exact tryCatch (bind (triple_poll_absent (I := fun w pool =>
        e' = e ∧ JammedBy e goal w pool) fun w pool h => habsent w pool h.2) fun _ _ _ h => h.elim)
        fun _ => triple_pure fun _ _ h => ⟨rfl, h.2⟩
  · rintro w pool ⟨hfalse, -⟩
    exact nomatch hidle.symm.trans hfalse

theorem advance_jammed :
    Triple (conduct N M) (JammedBy e goal) (advance maxAge goal phase child)
      (fun _ => JammedBy e goal) fun _ _ _ => False := by
  refine bind (triple_entry_of fun _ _ h => h.1) fun e₁ =>
    triple_ite (fun _ => triple_pure fun _ _ h => h.2) fun hgoing => ?_
  rintro w pool ⟨rfl, h⟩
  exact absurd h.2.2.1 hgoing

theorem pollBy_jammed (hphase : e.phases[e.index]? = some phase) :
    Triple (conduct N M) (JammedBy e goal) (poll maxAge goal)
      (fun result w pool => result.state = .running ∧ JammedBy e goal w pool)
      fun _ => JammedBy e goal := by
  refine bind (triple_entry_of fun _ _ h => h.1) fun e' => triple_ite (fun hended => ?_)
    fun _ => ?_
  · rintro w pool ⟨rfl, h⟩
    exact absurd h.2.1 hended
  · split
    next hnone =>
      rintro w pool ⟨rfl, -⟩
      exact nomatch hnone.symm.trans hphase
    next phase' hphase' =>
      rintro w pool ⟨rfl, h⟩
      obtain rfl := Option.some.inj (hphase.symm.trans hphase')
      have hcaught : Triple (conduct N M) (JammedBy e' goal)
          (tryCatch (advance maxAge goal phase ⟨goal, e'.index⟩) fun error =>
            cancelEntry goal ("phase_error:" ++ error.text) false)
          (fun _ => JammedBy e' goal) fun _ => JammedBy e' goal :=
        tryCatch advance_jammed fun _ _ _ h => h.elim
      refine bind hcaught (fun _ => bind (settle_jammed hphase) fun _ =>
        bind (triple_entry_of fun _ _ h => h.1) fun e₁ => triple_pure ?_) w pool h
      rintro w pool ⟨rfl, h⟩
      exact ⟨congrArg EntryStatus.status h.2.1, h⟩

/-- **A jammed goal stays jammed**, and its port reports that it runs. -/
theorem poll_jammed :
    Triple (conduct N M) (Jammed goal) (poll maxAge goal)
      (fun result w pool => result.state = .running ∧ Jammed goal w pool) fun _ => Jammed goal := by
  rintro w pool ⟨e, h⟩
  obtain ⟨phase, hphase, -⟩ := h.2.2.2.2
  refine Program.Holds.mono ?_ (pollBy_jammed hphase w pool h)
  rintro ⟨error | result, w'⟩ pool' hend
  · exact ⟨e, hend⟩
  · exact ⟨hend.1, e, hend.2⟩

theorem cancel_jammed :
    Triple (conduct N M) (Jammed goal) (cancel goal) (fun _ => Jammed goal)
      fun _ => Jammed goal := by
  rintro w pool ⟨e, h⟩
  have hcancel : Triple (conduct N M) (JammedBy e goal) (cancel goal)
      (fun _ => JammedBy e goal) fun _ => JammedBy e goal := by
    refine bind (triple_entry_of fun _ _ h => h.1) fun e₁ =>
      triple_ite (fun _ => triple_pure fun _ _ h => h.2) fun hgoing => ?_
    rintro w pool ⟨rfl, h⟩
    exact absurd (.inr h.2.2.1) hgoing
  refine Program.Holds.mono ?_ (hcancel w pool h)
  rintro ⟨error | result, w'⟩ pool' hend
  · exact ⟨e, hend⟩
  · exact ⟨e, hend⟩

/-! ### A child that is refused -/

variable {refusals : List ((N ⊕ M) × String)}

/-- The calls other than a start. -/
def Plain : SequenceCall N → Prop
  | .start .. => False
  | _ => True

theorem answers_plain {c : SequenceCall N} {failed : Prop} {pool' : Pool N M} (hc : Plain c)
    (h : pool.Answers failed pool' c) : pool'.refusals = pool.refusals := by
  cases c with
  | start => exact hc.elim
  | poll => exact h.1
  | cancel => exact h.1
  | build => exact congrArg refusals h
  | clock => exact congrArg refusals h
  | monitor => exact congrArg refusals h
  | ready => exact congrArg refusals h

variable {F : Frame (SequenceCall N) (SequencePort N)}

/-- An action without a start notes no refusal. -/
theorem triple_plain {α : Type} {x : Sequence N α} {P : SequencePort N → Prop} (hx : x.Keeps F)
    (hF : ∀ w c, F.calls w c → Plain c) (hP : ∀ w w', F.changes w w' → P w → P w') :
    Triple (conduct N M) (fun w pool => P w ∧ pool.refusals = refusals) x
      (fun _ w pool => P w ∧ pool.refusals = refusals)
      fun _ w pool => P w ∧ pool.refusals = refusals := by
  refine hx.triple_kept hP ?_ ?_
  · rintro pool pool' h rfl
    exact h
  · intro w c pool hc h
    exact ⟨trivial, fun _ _ hanswers => (answers_plain (hF w c hc) hanswers).trans h⟩

theorem keeps_call {c : SequenceCall N} (hc : ∀ w, F.calls w c) :
    (invoke c : Sequence N c.Result).Keeps F :=
  keeps_invoke hc

def phaseOf (w : SequencePort N) (goal : String) : Option Nat :=
  (w.entries.lookup goal).map SequenceEntry.index

theorem phaseOf_update (hf : ∀ e, (f e).index = e.index) :
    phaseOf (w.update goal f) = phaseOf w := by
  cases hlookup : w.entries.lookup goal with
  | none =>
    unfold Registry.update
    rw [hlookup]
  | some e =>
    funext other
    unfold phaseOf
    rw [lookup_update hlookup]
    split
    next hsame =>
      subst hsame
      rw [hlookup]
      exact congrArg some (hf e)
    next => rfl

/-- No goal comes to another phase. -/
def staying (calls : SequenceCall N → Prop) : Frame (SequenceCall N) (SequencePort N) where
  calls _ := calls
  changes w w' := phaseOf w' = phaseOf w
  refl _ := rfl
  trans h h' := h'.trans h
  earlier _ := id

variable {calls : SequenceCall N → Prop}

theorem keeps_amend (hf : ∀ e, (f e).index = e.index) :
    (amend goal f : Sequence N PUnit).Keeps (staying calls) :=
  keeps_modify fun _ => phaseOf_update hf

theorem keeps_finish {q : SequenceCall N → Prop} (hf : ∀ e, (f e).index = e.index) :
    (finish goal f : Sequence N PUnit).Keeps (staying q) :=
  keeps_modify fun _ => phaseOf_update hf

theorem keeps_free {α : Type} {x : Sequence N α} (hx : x.Keeps (staying calls)) :
    x.Keeps (Frame.free calls) :=
  hx.mono (fun _ _ => id) fun _ _ _ => trivial

theorem keeps_cancelEntry {reason : String} {cancelled : Bool} :
    (cancelEntry goal reason cancelled : Sequence N Unit).Keeps (staying Plain) := by
  refine keeps_entry.bind fun e => ?_
  split
  · exact keeps_pure _
  · refine Keeps.bind (keeps_amend fun _ => rfl) fun _ => ?_
    split
    · split
      · exact keeps_throw _
      · exact (keeps_call fun _ => trivial).tryCatch fun _ =>
          keeps_amend fun _ => rfl
    · exact keeps_pure _

theorem keeps_evidence {earliest : ℚ} :
    (evidence maxAge child phase earliest).Keeps (Frame.still Plain) := by
  refine (keeps_call fun _ => trivial).bind fun _ => (keeps_expect _).bind fun _ =>
    (keeps_call fun _ => trivial).bind fun _ => ?_
  split
  · exact keeps_throw _
  · refine (keeps_expect _).bind fun _ => ?_
    split
    · exact keeps_throw _
    · exact keeps_pure _

theorem keeps_follow {conditions : Conditions} :
    (follow goal phase child conditions).Keeps (Frame.free Plain) := by
  unfold follow
  split
  · exact keeps_free keeps_cancelEntry
  · refine (keeps_call fun _ => trivial).bind fun _ => ?_
    split
    · exact keeps_free keeps_cancelEntry
    · split
      · refine (keeps_call fun _ => trivial).bind fun _ => (keeps_modify fun _ => trivial).bind
          fun _ => (keeps_modify fun _ => trivial).bind fun _ => (keeps_call fun _ => trivial).bind
            fun _ => (keeps_modify fun _ => trivial).bind fun _ => keeps_entry.bind fun e => ?_
        split
        · exact keeps_modify fun _ => trivial
        · exact keeps_pure _
      · exact keeps_pure _

theorem keeps_settle : (settle goal phase child).Keeps (staying Plain) := by
  refine keeps_entry.bind fun e => ?_
  split
  · refine Keeps.bind ?_ fun idle => ?_
    · unfold idle
      split
      · exact keeps_pure _
      · exact ((keeps_call fun _ => trivial).bind fun _ => keeps_pure _).tryCatch fun _ =>
          keeps_pure _
    · split
      · exact keeps_finish fun _ => rfl
      · exact keeps_pure _
  · exact keeps_pure _

variable {parameters : String}

theorem keeps_start : (start goal parameters : Sequence N Unit).Keeps (Frame.free Plain) := by
  refine keeps_get_bind fun w => ?_
  split
  · exact keeps_throw _
  · exact (keeps_call fun _ => trivial).bind fun _ => (keeps_expect _).bind fun _ =>
      (keeps_call fun _ => trivial).bind fun _ => (keeps_expect _).bind fun _ =>
        keeps_modify fun _ => trivial

variable (refusals) in
/-- What an action without a start does where nothing is asked of the state. -/
theorem triple_free {α : Type} {x : Sequence N α} (hx : x.Keeps (Frame.free Plain)) :
    Triple (conduct N M) (fun _ pool => pool.refusals = refusals) x
      (fun _ _ pool => pool.refusals = refusals) fun _ _ pool => pool.refusals = refusals :=
  (triple_plain (P := fun _ => True) hx (fun _ _ => id) fun _ _ _ => id).conseq
    (fun _ _ h => ⟨trivial, h⟩) (fun _ _ _ h => h.2) fun _ _ _ h => h.2

/-- The start of a child either notes no refusal, or raises and leaves the child unknown. -/
theorem launch_fails {conditions : Conditions} (hgoing : e.cancel = false) :
    Triple (conduct N M)
      (fun w pool => w.entries.lookup goal = some e ∧ pool.refusals = refusals)
      (launch goal phase ⟨goal, e.index⟩ conditions) (fun _ _ pool => pool.refusals = refusals)
      fun _ w pool => pool.refusals = refusals ∨ Failing e goal phase w pool := by
  refine bind (M := fun _ w pool => w.entries.lookup goal = some e ∧
      pool.refusals = refusals) ?_ fun ready => triple_ite (fun _ => ?_) fun _ =>
        triple_pure fun _ _ h => h.2
  · refine (triple_plain (P := fun w => w.entries.lookup goal = some e)
      (keeps_call (F := Frame.still Plain) (c := .ready phase.port) fun _ => trivial)
      (fun _ _ => id) ?_).conseq
        (fun _ _ h => h) (fun _ _ _ h => h) fun _ _ _ h => .inl h.2
    rintro w w' rfl h
    exact h
  · refine bind (M := fun _ w pool =>
      w.entries.lookup goal = some { e with started := true } ∧ pool.refusals = refusals)
      (triple_modify fun w pool h => ⟨lookup_amended h.1, h.2⟩) fun _ => ?_
    rintro w pool ⟨hlookup, hrefusals⟩ pool' hsame
    obtain rfl : pool' = pool := hsame
    refine ⟨trivial, fun reply pool'' hanswers => ?_⟩
    rcases hanswers with hsame | ⟨⟨error, rfl⟩, hunknown⟩
    · cases reply with
      | ok value => exact hsame.trans hrefusals
      | error error => exact .inl (hsame.trans hrefusals)
    · exact .inr ⟨hlookup, hgoing, hunknown⟩

theorem advance_fails :
    Triple (conduct N M)
      (fun w pool => w.entries.lookup goal = some e ∧ pool.refusals = refusals)
      (advance maxAge goal phase ⟨goal, e.index⟩) (fun _ _ pool => pool.refusals = refusals)
      fun _ w pool => pool.refusals = refusals ∨ Failing e goal phase w pool := by
  have hplain : ∀ {x : Sequence N Unit}, x.Keeps (Frame.free Plain) → Triple (conduct N M)
      (fun w pool => w.entries.lookup goal = some e ∧ pool.refusals = refusals) x
      (fun _ _ pool => pool.refusals = refusals)
      fun _ w pool => pool.refusals = refusals ∨ Failing e goal phase w pool := fun hx =>
    (triple_free refusals hx).conseq (fun _ _ h => h.2) (fun _ _ _ h => h) fun _ _ _ h => .inl h
  have hstill : ∀ {α : Type} {x : Sequence N α}, x.Keeps (Frame.still Plain) →
      Triple (conduct N M)
        (fun w pool => w.entries.lookup goal = some e ∧ pool.refusals = refusals) x
        (fun _ w pool => w.entries.lookup goal = some e ∧ pool.refusals = refusals)
        fun _ w pool => pool.refusals = refusals ∨ Failing e goal phase w pool := fun hx =>
    (triple_plain (P := fun w => w.entries.lookup goal = some e) hx (fun _ _ => id)
      fun _ _ hsame h => hsame ▸ h).conseq (fun _ _ h => h) (fun _ _ _ h => h)
        fun _ _ _ h => .inl h.2
  refine bind (triple_entry_of fun _ _ h => h.1) fun e' =>
    of_state fun w₀ => ?_
  rintro w pool ⟨rfl, rfl, h⟩
  refine (triple_ite (fun _ => hplain (keeps_pure _)) fun hgoing =>
    bind (hstill (keeps_call (c := .clock) fun _ => trivial)) fun now =>
      triple_ite (fun _ => hplain (keeps_free keeps_cancelEntry)) fun _ =>
        bind (hstill keeps_evidence) fun conditions =>
          triple_ite (fun _ => hplain keeps_follow) fun _ =>
            launch_fails (Bool.not_eq_true _ ▸ hgoing)) w pool h

/-- What is left of an entry whose child could not be started. -/
def halting (e : SequenceEntry N) (reason : String) : SequenceEntry N :=
  { e with started := true, cancel := true, reason, destination := .failed }

/-- The goal has this entry, and the child of the phase is not known. -/
def Unanswered (e : SequenceEntry N) (goal : String) (phase : Phase N) (index : ℕ)
    (w : SequencePort N) (pool : Pool N M) : Prop :=
  w.entries.lookup goal = some e ∧ pool.knows phase.port (Child.text ⟨goal, index⟩) = false

theorem failing_jams {reason : String} (hrunning : e.status = .running)
    (hphase : e.phases[e.index]? = some phase) :
    Triple (conduct N M) (Failing e goal phase) (cancelEntry goal reason false)
      (fun _ => JammedAt goal phase e.index) fun _ _ _ => False := by
  refine bind (triple_entry_of fun _ _ h => h.1) fun e' => of_state fun w₀ => ?_
  rintro w pool ⟨rfl, rfl, hlookup, hgoing, hunknown⟩
  rw [if_neg (by simp [hrunning, hgoing])]
  have hunknown' : ∀ (w : SequencePort N) (pool : Pool N M),
      Unanswered (halting e reason) goal phase e.index w pool →
        pool.knows phase.port (Child.text ⟨goal, e.index⟩) = false := fun _ _ h => h.2
  refine (show Triple (conduct N M) (Unanswered { e with started := true } goal phase e.index)
    _ _ _ from bind (M := fun _ => Unanswered (halting e reason) goal phase e.index)
      (triple_modify fun w pool h => ⟨lookup_amended h.1, h.2⟩) fun _ => ?_) w pool
        ⟨hlookup, hunknown⟩
  rw [if_pos rfl]
  split
  next hnone => exact nomatch hnone.symm.trans hphase
  next phase' hphase' =>
    obtain rfl := Option.some.inj (hphase.symm.trans hphase')
    refine tryCatch ((triple_cancel_absent hunknown').conseq (fun _ _ h => h)
      (fun _ _ _ h => h.elim) fun _ _ _ h => h) fun error => triple_modify fun w pool h => ?_
    exact ⟨_, ⟨lookup_amended h.1, hrunning, rfl, rfl, phase, hphase, h.2⟩, rfl, hphase⟩

variable (refusals) in
/-- **Where a poll notes a refusal, the goal is jammed.** -/
theorem poll_jams :
    Triple (conduct N M) (fun _ pool => pool.refusals = refusals) (poll maxAge goal)
      (fun result w pool => pool.refusals = refusals ∨
        result.state = .running ∧ Jammed goal w pool)
      fun _ w pool => pool.refusals = refusals ∨ Jammed goal w pool := by
  refine bind (triple_find.conseq (fun _ _ h => h) (fun _ _ _ h => h) fun _ _ _ h => .inl h)
    fun e => triple_ite (fun _ => triple_pure fun _ _ h => .inl h.1) fun hrunning => ?_
  split
  · exact triple_throw fun _ _ h => .inl h.1
  next phase hphase =>
    have hcancel : ∀ error : Raised, Triple (conduct N M)
        (fun w pool => pool.refusals = refusals ∨ Failing e goal phase w pool)
        (cancelEntry goal ("phase_error:" ++ error.text) false)
        (fun _ w pool => pool.refusals = refusals ∨ JammedAt goal phase e.index w pool)
        fun _ w pool => pool.refusals = refusals ∨ Jammed goal w pool := by
      rintro error w pool (h | h)
      · exact ((triple_free refusals (keeps_free keeps_cancelEntry)).conseq (fun _ _ h => h)
          (fun _ _ _ h => .inl h) fun _ _ _ h => .inl h) w pool h
      · exact ((failing_jams (not_not.mp hrunning) hphase).conseq (fun _ _ h => h)
          (fun _ _ _ h => .inr h) fun _ _ _ h => h.elim) w pool h
    have hsettle : Triple (conduct N M)
        (fun w pool => pool.refusals = refusals ∨ JammedAt goal phase e.index w pool)
        (settle goal phase ⟨goal, e.index⟩)
        (fun _ w pool => pool.refusals = refusals ∨ Jammed goal w pool)
        fun _ w pool => pool.refusals = refusals ∨ Jammed goal w pool := by
      rintro w pool (h | ⟨e', h, hindex, hphase'⟩)
      · exact ((triple_free refusals (keeps_free keeps_settle)).conseq (fun _ _ h => h) (fun _ _ _ h => .inl h)
          fun _ _ _ h => .inl h) w pool h
      · rw [← hindex] at hphase' ⊢
        exact ((settle_jammed hphase').conseq (fun _ _ h => h) (fun _ _ _ h => .inr ⟨e', h⟩)
          fun _ _ _ h => .inr ⟨e', h⟩) w pool h
    refine bind (M := fun _ w pool =>
      pool.refusals = refusals ∨ JammedAt goal phase e.index w pool)
      (tryCatch (advance_fails.conseq (fun _ _ h => h.symm) (fun _ _ _ h => .inl h)
        fun _ _ _ h => h) hcancel) fun _ => bind hsettle fun _ => bind
          (triple_find.conseq (fun _ _ h => h) (fun _ _ _ h => h) fun _ _ _ h => h) fun e' =>
            triple_pure ?_
    rintro w pool ⟨h | ⟨e'', h⟩, hlookup⟩
    · exact .inl h
    · obtain rfl := Option.some.inj (hlookup.symm.trans h.1)
      exact .inr ⟨congrArg EntryStatus.status h.2.1, e', h⟩

theorem serve_absent {call : PortCall} (h : w.entries.lookup goal = none)
    (hcall : Leaf.Asks call goal) :
    (serve maxAge call : Sequence N call.Result).program w = .done (.error (keyError goal), w) := by
  rcases hcall with rfl | rfl
  · exact program_entry_absent h
  · exact program_entry_absent h

end SequencePort

/-! ## 4. The adapter -/

namespace Robot

variable {r : Robot N M} {port : N ⊕ M} {goal : String}

/-- Whatever is asked of the port about the goal, it does not report an end. -/
def Blocked (port : N ⊕ M) (goal : String) (r : Robot N M) : Prop :=
  match port with
  | .inl name => r.pool.knows name goal = false
  | .inr name => (r.sequences name).entries.lookup goal = none ∨
      SequencePort.Jammed goal (r.sequences name) r.pool

/-- The action under way is one whose end the adapter never sees. -/
def Stuck (r : Robot N M) : Prop :=
  ∃ goal port, r.active = some (goal, port) ∧ Blocked port goal r

variable {q : List ((N ⊕ M) × String) → Prop} {α : Type}

/-- The refusals are among those of `q`, or the end of the action under way is never seen. -/
def Sound (q : List ((N ⊕ M) × String) → Prop) (r : Robot N M) : Prop :=
  q r.pool.refusals ∨ Stuck r

theorem Sound.blocked (h : Sound q r) (hactive : r.active = some (goal, port)) :
    q r.pool.refusals ∨ Blocked port goal r := by
  refine h.imp_right ?_
  rintro ⟨goal', port', hactive', hblocked⟩
  obtain ⟨rfl, rfl⟩ := Prod.mk.inj (Option.some.inj (hactive.symm.trans hactive'))
  exact hblocked

/-- Where nothing is under way, there is nothing to wait for. -/
theorem Sound.free (h : Sound q r) (hactive : r.active = none) : q r.pool.refusals := by
  rcases h with h | ⟨goal, port, hactive', -⟩
  · exact h
  · exact nomatch hactive.symm.trans hactive'

variable [DecidableEq M]

/-- The robot after a sequence has been called. -/
def afterSequence (r : Robot N M) (name : M) {call : PortCall} (reply : call.Reply)
    (w : SequencePort N) (pool : Pool N M) : Robot N M where
  pool := ⟨pool.leaves, noted pool.refusals (.inr name) call reply fun goal =>
    (w.entries.lookup goal).isSome⟩
  sequences := Function.update r.sequences name w
  active := r.active

variable {name : M} {call : PortCall}

theorem sequences_after {reply : call.Reply} {w : SequencePort N} {pool : Pool N M} :
    (r.afterSequence name reply w pool).sequences name = w :=
  Function.update_self ..

theorem blocked_after {reply : call.Reply} {w : SequencePort N} {pool : Pool N M}
    (h : SequencePort.Jammed goal w pool) :
    Blocked (.inr name) goal (r.afterSequence name reply w pool) := by
  refine .inr ?_
  rw [sequences_after]
  exact h

variable [DecidableEq N] {config : AdapterConfig N M}

variable {ends : call.Reply × Robot N M → Prop}

theorem serve_sequence {name : M} {pre : SequencePort N → Pool N M → Prop}
    {post : call.Result → SequencePort N → Pool N M → Prop}
    {raised : Raised → SequencePort N → Pool N M → Prop}
    (h : Triple (conduct N M) pre (SequencePort.serve (config.maxAge name) call) post raised)
    (hpre : pre (r.sequences name) r.pool)
    (hends : ∀ reply w pool, Ends post raised (reply, w) pool →
      ends (reply, r.afterSequence name reply w pool)) :
    ((serve config (.inr name) call).program r).Within Leaf.any ends := by
  have hall := Program.holds_interpret (handler_meets name) (fun _ => rfl)
    (h (r.sequences name) r.pool hpre)
  show (Program.interpret _ _ _ >>= _).Within _ _
  rw [Program.within_bind]
  exact hall.mono (fun _ => id) fun x hx => hends x.1.1 x.1.2 x.2 hx

/-- A call of one of the other ports. -/
theorem serve_leaf {name : N} {post : call.Reply × Pool N M → Prop}
    (h : (r.pool.serve name call).Within Leaf.any post)
    (hends : ∀ reply pool, post (reply, pool) → ends (reply, { r with pool })) :
    ((serve config (.inl name) call).program r).Within Leaf.any ends := by
  show (Pool.serve _ _ _ >>= _).Within _ _
  rw [Program.within_bind]
  exact h.mono (fun _ => id) fun x hx => hends x.1 x.2 hx

theorem serve_ready (port : N ⊕ M) :
    ((serve config port .ready).program r).Within Leaf.any fun x => x.2 = r := by
  cases port with
  | inl name =>
    refine serve_leaf (Pool.serve_ready name r.pool) ?_
    rintro reply pool rfl
    rfl
  | inr name =>
    show (⟨r.pool, Function.update r.sequences name (r.sequences name), r.active⟩ : Robot N M) = r
    rw [Function.update_eq_self]

theorem serve_unknown (h : (r.sequences name).entries.lookup goal = none)
    (hcall : Leaf.Asks call goal) :
    ((serve config (.inr name) call).program r).Within Leaf.any fun x =>
      x.2.active = r.active ∧ Blocked (.inr name) goal x.2 ∧ ∃ error, x.1 = .error error := by
  show (Program.interpret _ ((SequencePort.serve _ _).program _) _ >>= _).Within _ _
  rw [SequencePort.serve_absent h hcall]
  refine ⟨rfl, .inl ?_, keyError goal, rfl⟩
  show (Function.update r.sequences name (r.sequences name) name).entries.lookup goal = none
  rw [Function.update_self]
  exact h

/-- **A blocked goal stays blocked**, and its port reports no end. -/
theorem poll_blocked (h : Blocked port goal r) :
    ((serve config port (.poll goal)).program r).Within Leaf.any fun x =>
      x.2.active = r.active ∧ Blocked port goal x.2 ∧
        ∀ result, x.1 = .ok result → result.state = .running := by
  cases port with
  | inl name =>
    refine serve_leaf (serve_asks name r.pool (.inl rfl)) ?_
    rintro reply pool ⟨-, hall⟩
    obtain ⟨⟨error, rfl⟩, rfl⟩ := hall h
    exact ⟨rfl, h, nofun⟩
  | inr name =>
    rcases h with hnone | hjammed
    · refine (serve_unknown hnone (.inl rfl)).mono (fun _ => id) ?_
      rintro ⟨reply, r'⟩ ⟨hactive, hblocked, error, rfl⟩
      exact ⟨hactive, hblocked, nofun⟩
    · refine serve_sequence SequencePort.poll_jammed hjammed ?_
      rintro (error | result) w pool hend
      · exact ⟨rfl, blocked_after hend, nofun⟩
      · refine ⟨rfl, blocked_after hend.2, ?_⟩
        rintro _ ⟨⟩
        exact hend.1

theorem cancel_blocked (h : Blocked port goal r) :
    ((serve config port (.cancel goal)).program r).Within Leaf.any fun x =>
      x.2.active = r.active ∧ Blocked port goal x.2 := by
  cases port with
  | inl name =>
    refine serve_leaf (serve_asks name r.pool (.inr rfl)) ?_
    rintro reply pool ⟨-, hall⟩
    obtain ⟨-, rfl⟩ := hall h
    exact ⟨rfl, h⟩
  | inr name =>
    rcases h with hnone | hjammed
    · exact (serve_unknown hnone (.inr rfl)).mono (fun _ => id) fun x hx => ⟨hx.1, hx.2.1⟩
    · refine serve_sequence SequencePort.cancel_jammed hjammed ?_
      rintro (error | result) w pool hend
      · exact ⟨rfl, blocked_after hend⟩
      · exact ⟨rfl, blocked_after hend⟩

/-- **A refusal blocks the goal.** -/
theorem start_blocks :
    ((serve config port (.start goal parameters)).program r).Within Leaf.any fun x =>
      x.2.active = r.active ∧
        (x.2.pool.refusals = r.pool.refusals ∨ Blocked port goal x.2) := by
  cases port with
  | inl name =>
    refine serve_leaf (serve_start name goal parameters r.pool) ?_
    rintro reply pool (hsame | ⟨-, hunknown⟩)
    · exact ⟨rfl, .inl hsame⟩
    · exact ⟨rfl, .inr hunknown⟩
  | inr name =>
    refine serve_sequence (SequencePort.triple_free r.pool.refusals SequencePort.keeps_start) rfl ?_
    rintro reply w pool hend
    refine ⟨rfl, ?_⟩
    cases reply with
    | ok value => exact .inl hend
    | error error =>
      cases hlookup : w.entries.lookup goal with
      | none => exact .inr (.inl (by rw [sequences_after]; exact hlookup))
      | some e =>
        refine .inl (Eq.trans ?_ hend)
        exact if_pos (show (w.entries.lookup goal).isSome = true by rw [hlookup]; rfl)

theorem poll_blocks :
    ((serve config port (.poll goal)).program r).Within Leaf.any fun x =>
      x.2.active = r.active ∧ (x.2.pool.refusals = r.pool.refusals ∨
        Blocked port goal x.2 ∧ ∀ result, x.1 = .ok result → result.state = .running) := by
  cases port with
  | inl name =>
    exact serve_leaf (serve_asks name r.pool (.inl rfl)) fun reply pool h => ⟨rfl, .inl h.1⟩
  | inr name =>
    refine serve_sequence (SequencePort.poll_jams r.pool.refusals) rfl ?_
    rintro (error | result) w pool (hsame | hend)
    · exact ⟨rfl, .inl hsame⟩
    · exact ⟨rfl, .inr ⟨blocked_after hend, nofun⟩⟩
    · exact ⟨rfl, .inl hsame⟩
    · refine ⟨rfl, .inr ⟨blocked_after hend.2, ?_⟩⟩
      rintro _ ⟨⟩
      exact hend.1

theorem cancel_notes :
    ((serve config port (.cancel goal)).program r).Within Leaf.any fun x =>
      x.2.active = r.active ∧ x.2.pool.refusals = r.pool.refusals := by
  cases port with
  | inl name =>
    exact serve_leaf (serve_asks name r.pool (.inr rfl)) fun reply pool h => ⟨rfl, h.1⟩
  | inr name =>
    refine serve_sequence (SequencePort.triple_free r.pool.refusals
      (SequencePort.keeps_free SequencePort.keeps_cancelEntry)) rfl ?_
    rintro (error | value) w pool hend
    · exact ⟨rfl, hend⟩
    · exact ⟨rfl, hend⟩

/-! ## 5. The adapter and its action under way -/

/-- An action of the adapter, whatever is outside. -/
abbrev Sure (pre : Robot N M → Prop) (x : Adapter N M α) (post : α → Robot N M → Prop)
    (raised : Robot N M → Prop) : Prop :=
  Triple (anything (OutCall N M) OutCall.Reply) (fun s _ => pre s) x (fun value s _ => post value s)
    fun _ s _ => raised s

variable {pre : Robot N M → Prop}

theorem sure_ready (port : N ⊕ M) : Sure pre (serve config port .ready) (fun _ => pre) pre :=
  triple_anything (fun x => pre x.2) fun _ hr =>
    (serve_ready port).mono (fun _ => id) fun _ h => h ▸ hr

/-- **A poll of the action under way**: where it is refused, the action runs on. -/
theorem sure_poll (hactive : r.active = some (goal, port)) :
    Sure (fun s => s = r ∧ Sound q s) (serve config port (.poll goal))
      (fun result s => Sound q s ∧ (q s.pool.refusals ∨ result.state = .running)) (Sound q) := by
  have hends : ∀ s, s = r ∧ Sound q s → ((serve config port (.poll goal)).program s).Within
      Leaf.any fun x => Sound q x.2 ∧ (q x.2.pool.refusals ∨
        ∀ result, x.1 = .ok result → result.state = .running) := by
    rintro s ⟨rfl, h⟩
    obtain hquiet | hblocked := h.blocked hactive
    · refine poll_blocks.mono (fun _ => id) ?_
      rintro x ⟨hsame, hrefusals | ⟨hblocked, hruns⟩⟩
      · exact ⟨.inl (hrefusals ▸ hquiet), .inl (hrefusals ▸ hquiet)⟩
      · exact ⟨.inr ⟨goal, port, hsame.trans hactive, hblocked⟩, .inr hruns⟩
    · refine (poll_blocked hblocked).mono (fun _ => id) ?_
      rintro x ⟨hsame, hblocked, hruns⟩
      exact ⟨.inr ⟨goal, port, hsame.trans hactive, hblocked⟩, .inr hruns⟩
  exact (triple_anything _ hends).conseq (fun _ _ h => h)
    (fun result _ _ h => ⟨h.1, h.2.imp_right fun h => h result rfl⟩) fun _ _ _ h => h.1

theorem sure_cancel (hactive : r.active = some (goal, port)) :
    Sure (fun s => s = r ∧ Sound q s) (serve config port (.cancel goal)) (fun _ => Sound q)
      (Sound q) := by
  refine triple_anything (fun x => Sound q x.2) ?_
  rintro s ⟨rfl, h⟩
  obtain hquiet | hblocked := h.blocked hactive
  · refine cancel_notes.mono (fun _ => id) ?_
    rintro x ⟨-, hrefusals⟩
    exact .inl (hrefusals ▸ hquiet)
  · refine (cancel_blocked hblocked).mono (fun _ => id) ?_
    rintro x ⟨hsame, hblocked⟩
    exact .inr ⟨goal, port, hsame.trans hactive, hblocked⟩

theorem sure_start :
    Sure (fun r => r.active = some (goal, port) ∧ q r.pool.refusals)
      (serve config port (.start goal parameters)) (fun _ => Sound q) (Sound q) := by
  refine triple_anything (fun x => Sound q x.2) ?_
  rintro r ⟨hactive, hquiet⟩
  refine start_blocks.mono (fun _ => id) ?_
  rintro x ⟨hsame, hrefusals | hblocked⟩
  · exact .inl (hrefusals ▸ hquiet)
  · exact .inr ⟨goal, port, hsame.trans hactive, hblocked⟩

variable {step : Step} {now : ℚ}

theorem observe_sound : Sure pre (observe config goal step now) (fun _ => pre) pre := by
  refine bind triple_ask_anything fun reply => bind
    (triple_expect (fun _ _ _ _ h => h) fun _ _ _ _ h => h) fun evidence => ?_
  split
  · exact triple_pure fun _ _ h => h
  · exact bind (sure_ready _) fun ready => triple_pure fun _ _ h => h

theorem start_sound : Sure (Sound q) (start config goal step) (fun _ => Sound q) (Sound q) := by
  refine triple_get_bind fun r =>
    triple_ite (fun _ => triple_throw fun _ _ h => h.2) fun hfree => ?_
  split
  · exact triple_throw fun _ _ h => h.2
  next port hport =>
    refine bind (M := fun _ r _ => r.active = some (goal, port) ∧ q r.pool.refusals)
      (triple_modify ?_) fun _ => sure_start
    rintro _ - ⟨rfl, h⟩
    exact ⟨rfl, h.free (Option.not_isSome_iff_eq_none.mp hfree)⟩

theorem poll_sound :
    Sure (Sound q) (poll config goal step now)
      (fun feedback r => Sound q r ∧ (feedback.status = .succeeded → q r.pool.refusals))
      (Sound q) := by
  refine triple_get_bind fun r => ?_
  split
  · exact triple_throw fun _ _ h => h.2
  next active port hactive =>
    refine triple_ite (fun _ => triple_throw fun _ _ h => h.2) fun hsame => ?_
    obtain rfl := not_not.mp hsame
    refine bind (sure_poll hactive) fun result =>
      bind triple_ask_anything fun reply =>
        bind (triple_expect (fun _ _ _ _ h => h) fun _ _ _ _ h => h.1) fun evidence =>
          triple_ite (fun hsucceeded => ?_) fun hrunning => triple_pure fun _ _ h =>
            ⟨h.1, fun h => absurd h hrunning⟩
    have hquiet : ∀ s : Robot N M, q s.pool.refusals ∨ result.state = .running →
        q s.pool.refusals := fun _ h => h.resolve_right fun hruns =>
      nomatch hsucceeded.symm.trans hruns
    exact triple_ite (fun _ => triple_pure fun _ _ h => ⟨h.1, nofun⟩) fun _ =>
      bind (M := fun _ s _ => q s.pool.refusals) (triple_modify fun s _ h => hquiet s h.2)
        fun _ => triple_pure fun _ _ h => ⟨.inl h, fun _ => h⟩

theorem requestStop_sound {run : String} {preserveLoad : Bool} :
    Sure (Sound q) (requestStop config run preserveLoad now) (fun _ => Sound q) (Sound q) := by
  have hcancel : Sure (Sound q) (cancelActive config) (fun _ => Sound q) (Sound q) := by
    refine triple_get_bind fun r => ?_
    split
    · exact triple_pure fun _ _ h => h.2
    next goal port hactive => exact sure_cancel hactive
  exact bind (attempt (hcancel.conseq (fun _ _ h => h) (fun _ _ _ h => h)
    fun _ _ _ h => h)) fun cancelled => bind triple_ask_anything fun reply => bind
      (triple_expect (fun _ _ _ _ h => h) fun _ _ _ _ h => h) fun _ =>
        triple_expect (fun _ _ _ _ h => h) fun _ _ _ _ h => h

theorem portDone_sound :
    Sure (Sound q) (portDone config)
      (fun done r => Sound q r ∧ (done = true → q r.pool.refusals)) (Sound q) := by
  refine triple_get_bind fun r => ?_
  split
  next hfree =>
    refine triple_pure ?_
    rintro _ - ⟨rfl, h⟩
    exact ⟨h, fun _ => h.free hfree⟩
  next goal port hactive =>
    refine bind (sure_poll hactive) fun result => triple_pure ?_
    rintro s - ⟨hsound, hquiet | hruns⟩
    · exact ⟨hsound, fun _ => hquiet⟩
    · refine ⟨hsound, fun hdone => ?_⟩
      rw [hruns] at hdone
      exact absurd hdone (by decide)

theorem pollStop_sound {run : String} :
    Sure (Sound q) (pollStop config run now)
      (fun feedback r => Sound q r ∧ (feedback.status = .stopped → q r.pool.refusals))
      (Sound q) := by
  refine bind triple_ask_anything fun reply => bind
    (triple_expect (fun _ _ _ _ h => h) fun _ _ _ _ h => h) fun result =>
      bind portDone_sound fun done => triple_ite (fun hdone => ?_) fun _ =>
        triple_pure fun _ _ h => ⟨h.1, nofun⟩
  exact bind (M := fun _ r _ => q r.pool.refusals)
    (triple_modify fun r _ h => h.2 hdone.2) fun _ => triple_pure fun r _ h => ⟨.inl h, fun _ => h⟩

end Robot

/-! ## 6. The executor -/

/-- The task may come to its end only where the refusals are among those of `q`. -/
def Robot.terms (q : List ((N ⊕ M) × String) → Prop) (runId : String) :
    TaskTerms (Robot N M) where
  runId := runId
  sound := Sound q
  mayStart _ := True
  done r := q r.pool.refusals
  left _ := True
  times _ := True

variable {runId : String}

/-- **The adapter finishes only where no start was refused.** -/
theorem Robot.handler_meets [DecidableEq N] [DecidableEq M] (config : AdapterConfig N M)
    {q : List ((N ⊕ M) × String) → Prop} :
    (handler config).Meets (terms q runId).conduct Leaf.any := by
  rintro (⟨goal, step, now⟩ | ⟨goal, step, now⟩ | ⟨goal, step, now⟩ | ⟨run, preserveLoad, now⟩ |
    ⟨run, now⟩) r ⟨hsound, -⟩
  · exact within_of_triple observe_sound hsound (fun _ _ h => ⟨h, id, False.elim⟩)
      fun _ _ h => ⟨h, id, False.elim⟩
  · exact within_of_triple start_sound hsound (fun _ _ h => ⟨h, id, False.elim⟩)
      fun _ _ h => ⟨h, id, False.elim⟩
  · exact within_of_triple poll_sound hsound (fun _ _ h => ⟨h.1, id, h.2⟩)
      fun _ _ h => ⟨h, id, False.elim⟩
  · exact within_of_triple requestStop_sound hsound (fun _ _ h => ⟨h, id, False.elim⟩)
      fun _ _ h => ⟨h, id, False.elim⟩
  · exact within_of_triple pollStop_sound hsound (fun _ _ h => ⟨h.1, id, h.2⟩)
      fun _ _ h => ⟨h, id, False.elim⟩

/-- An operation on the task, or on the lease by others. -/
theorem TaskOp.keeps_upto {ω : Type} {T : TaskTerms ω} (hleft : ∀ lease, T.left lease)
    (htimes : ∀ value, T.times value) (op : TaskOp T.runId) :
    Triple T.conduct (Upto T) op.action (fun _ => Upto T)
      fun _ => Upto T := by
  have hresult : Triple T.conduct (Upto T)
      (do return (← get).result : Execution TaskResult)
      (fun _ => Upto T) fun _ => Upto T :=
    triple_get_bind fun _ => triple_pure fun _ _ h => h.2
  have hother : ∀ f : TaskLease → Except Raised TaskLease,
      (∀ lease lease', f lease = .ok lease' → lease.owner = some T.runId → False) →
      Triple T.conduct (Upto T)
        (do let lease ← expect (f (← get).lease)
            modify fun e => { e with lease }
            return (← get).result : Execution TaskResult)
        (fun _ => Upto T) fun _ => Upto T := by
    intro f hf
    refine triple_get_bind fun e => bind (M := fun _ => Ended T)
      (triple_expect ?_ fun _ _ _ _ h => h.2) fun lease => bind
        (triple_modify fun t w h =>
          .inr (.inr ⟨h.sound, h.terminal, h.run, hleft _, h.time, h.done⟩)) fun _ => hresult
    rintro lease hlease t w ⟨rfl, h | h | h⟩
    · exact (hf _ _ hlease (h.run ▸ h.held)).elim
    · exact (hf _ _ hlease (h.run ▸ h.held)).elim
    · exact h
  cases op with
  | tick now =>
    exact bind (tick_upto (hleft _) fun _ _ => htimes _) fun _ => hresult
  | cancel now reason =>
    exact bind (cancel_upto (hleft _) fun _ _ => htimes _) fun _ => hresult
  | acquire owner other =>
    refine hother (·.acquire owner) fun lease lease' h hheld => ?_
    rw [TaskLease.acquire, hheld] at h
    cases h
  | release owner other =>
    refine hother (·.release owner) fun lease lease' h hheld => ?_
    rw [TaskLease.release, hheld, if_pos (fun h => other (Option.some.inj h).symm)] at h
    cases h

/-! ## 7. Every run -/

section System

variable [DecidableEq N] [DecidableEq M]

instance decidableRefused (r : Robot N M) : Decidable r.Refused :=
  inferInstanceAs (Decidable (_ ≠ _))

/-- The task, its adapter and what was asked of the outside, after these operations. -/
def TaskExecutor.driving (e : TaskExecutor) (config : AdapterConfig N M) (r : Robot N M)
    (l : List (TaskOp e.config.runId × Oracle (OutCall N M) OutCall.Reply)) :
    (TaskExecutor × Robot N M) × Journal (OutCall N M) OutCall.Reply :=
  run (consult fun op : TaskOp e.config.runId => op.action.onto (Robot.handler config))
    ((e, r), []) l

variable {config : AdapterConfig N M} {r : Robot N M} {e : TaskExecutor}
  {q : List ((N ⊕ M) × String) → Prop}

variable (config) in
theorem Robot.run_upto (l : List (TaskOp runId × Oracle (OutCall N M) OutCall.Reply))
    {w : (TaskExecutor × Robot N M) × Journal (OutCall N M) OutCall.Reply}
    (h : Upto (terms q runId) w.1.1 w.1.2) :
    Upto (terms q runId)
      (run (consult fun op : TaskOp runId => op.action.onto (handler config)) w l).1.1
      (run (consult fun op : TaskOp runId => op.action.onto (handler config)) w l).1.2 := by
  refine run_invariant_all (I := fun w : (TaskExecutor × Robot N M) ×
    Journal (OutCall N M) OutCall.Reply => Upto (terms q runId) w.1.1 w.1.2) ?_ l h
  rintro w ⟨op, oracle⟩ hw
  have hwithin : ((op.action.onto (handler config)).program w.1).Within Leaf.any fun r =>
      Ends (fun _ => Upto (terms q runId)) (fun _ => Upto (terms q runId))
        (r.1, r.2.1) r.2.2 :=
    onto_within (handler_meets config) (fun _ => rfl)
      (TaskOp.keeps_upto (T := terms q runId) (fun _ => trivial) (fun _ => trivial) op) hw
  have hend := hwithin.exec oracle.serve w.2
  revert hend
  unfold consult perform
  generalize ((op.action.onto (handler config)).program w.1).exec oracle.serve w.2 = result
  obtain ⟨⟨error | value, t⟩, journal⟩ := result
  · exact id
  · exact id

/-- **A refused start wedges the lease**: whatever is reported from then on, the task comes to no
end and keeps the lease of the robot. -/
theorem refused_start_wedges {mode : String} {documents : List StepDocument} {lease : TaskLease}
    {now age stopTimeout taskTimeout : Scalar} {leaves : N → Leaf}
    {sequences : M → SequencePort N}
    (h : create runId documents mode lease now age stopTimeout taskTimeout = .ok e)
    (before later : List (TaskOp e.config.runId × Oracle (OutCall N M) OutCall.Reply))
    (hrefused : (e.driving config (.idle leaves sequences) before).1.2.Refused) :
    ¬ (e.driving config (.idle leaves sequences) (before ++ later)).1.1.state.Terminal ∧
      (e.driving config (.idle leaves sequences) (before ++ later)).1.1.lease.owner =
        some e.config.runId := by
  have hnew := create_eq_ok h
  have hfirst : Upto (Robot.terms (· = []) e.config.runId)
      (e.driving config (.idle leaves sequences) before).1.1
      (e.driving config (.idle leaves sequences) before).1.2 := by
    refine Robot.run_upto config before (.inl ⟨⟨.inl rfl, ?_, rfl, hnew.held, trivial⟩, trivial⟩)
    rw [hnew.state]
    decide
  -- The start was refused: from here on the action under way is one whose end is never seen.
  have hwedged : Upto (Robot.terms (fun _ => False) e.config.runId)
      (e.driving config (.idle leaves sequences) before).1.1
      (e.driving config (.idle leaves sequences) before).1.2 := by
    have hstuck : ∀ r : Robot N M, r.Refused → Robot.Sound (· = []) r →
        Robot.Sound (fun _ => False) r := fun _ hrefused h => .inr (h.resolve_left hrefused)
    rcases hfirst with h | h | h
    · exact .inl ⟨⟨hstuck _ hrefused h.sound, h.going, h.run, h.held, h.time⟩, trivial⟩
    · exact .inr (.inl ⟨⟨hstuck _ hrefused h.sound, h.going, h.run, h.held, h.time⟩,
        h.leaving⟩)
    · exact absurd h.done hrefused
  have hlast := Robot.run_upto config later hwedged
  rw [driving, run_append]
  rcases hlast with h | h | h
  · exact ⟨h.going, h.held.trans (congrArg some h.run)⟩
  · exact ⟨h.going, h.held.trans (congrArg some h.run)⟩
  · exact h.done.elim

end System

/-! ## 8. One refusal -/

/-- An object that was seen a second ago, where half a second is allowed. -/
def staleObject : SceneDocument where
  operation := some .attach
  objectId := "cup"
  arm := "left"
  linkName := "left_tool"
  frameId := "left_tool"
  position := [.finite 0, .finite 0, .finite 0]
  quaternion := [.finite 0, .finite 0, .finite 0, .finite 1]
  size := [.finite (1 / 10), .finite (1 / 10), .finite (1 / 10)]
  touchLinks := ["left_tool"]
  observed := .finite 0

def attachPort : Leaf :=
  .scene {
    gripperLinks := fun arm => if arm = "left" then some ["left_tool"] else none
    worldFrame := "world"
    maximumAge := 1 / 2
    changeOf := fun _ => .ok staleObject
    age_bounds := by decide +kernel } ⟨.empty, none, 0⟩

def attachConfig : AdapterConfig Unit Empty where
  ports skill := if skill = "attach" then some (.inl ()) else none
  maxAge := nofun

def attachPorts (_ : Unit) : Leaf := attachPort

def noSequences : Empty → SequencePort Unit := nofun

def settledConditions : Conditions :=
  [("hardware_ready", true), ("base_stopped", true), ("lift_stopped", true),
    ("arms_holding", true), ("load_retained", true)]

/-- Whatever is asked, everything has stopped and is held. -/
def settled : Oracle (OutCall Unit Empty) OutCall.Reply
  | .leaf _ (.scene .ready), _ => .ok true
  | .leaf _ (.scene .clock), _ => .ok (.finite 1)
  | .leaf _ (.scene (.apply _)), _ => .ok 0
  | .leaf _ (.scene .read), _ => .ok 1
  | .leaf _ (.scene (.done _)), _ => .ok true
  | .leaf _ (.scene (.result _)), _ => .ok (.applied true)
  | .leaf _ (.scene (.agrees ..)), _ => .ok true
  | .leaf _ (.capture _), _ => .error ⟨"RuntimeError", "no such backend"⟩
  | .leaf _ (.manipulation _), _ => .error ⟨"RuntimeError", "no such backend"⟩
  | .monitor goal _ now, _ => .ok ⟨goal, .finite now, .running, settledConditions, ""⟩
  | .stopRequest .., _ => .ok ()
  | .stopPoll runId now, _ => .ok ⟨runId, .finite now, .stopped, settledConditions, ""⟩

abbrev attachTask : Except Raised TaskExecutor :=
  create "fetch" [⟨"attach", "hold", .finite 10, [], [], ""⟩] "simulation" ⟨none⟩
    (.finite 0) (.finite (1 / 2)) (.finite 2) (.finite 300)

/-- The first tick starts the step, whose port refuses it; at the second all has stopped, and the
task is still to stop. -/
theorem refused_attach_stops_never :
    (∀ journal, settled (.stopPoll "fetch" 2) journal =
      .ok ⟨"fetch", .finite 2, .stopped, settledConditions, ""⟩) ∧
    ∃ e, attachTask = .ok e ∧
      (e.driving attachConfig (.idle attachPorts noSequences)
        [(.tick (.finite 1), settled)]).1.2.Refused ∧
      (e.driving attachConfig (.idle attachPorts noSequences)
        [(.tick (.finite 1), settled), (.tick (.finite 2), settled)]).1.1.state = .stopping ∧
      (e.driving attachConfig (.idle attachPorts noSequences)
        [(.tick (.finite 1), settled), (.tick (.finite 2), settled)]).1.1.lease.owner =
          some "fetch" := by
  have hall : attachTask.toOption.any (fun e =>
      decide ((e.driving attachConfig (.idle attachPorts noSequences)
          [(.tick (.finite 1), settled)]).1.2.Refused ∧
        (e.driving attachConfig (.idle attachPorts noSequences)
          [(.tick (.finite 1), settled), (.tick (.finite 2), settled)]).1.1.state = .stopping ∧
        (e.driving attachConfig (.idle attachPorts noSequences)
          [(.tick (.finite 1), settled), (.tick (.finite 2), settled)]).1.1.lease.owner =
            some "fetch")) = true := by
    decide +kernel
  cases h : attachTask with
  | error error =>
    rw [h] at hall
    cases hall
  | ok e =>
    rw [h] at hall
    exact ⟨fun _ => rfl, e, rfl, of_decide_eq_true hall⟩

theorem refused_start_wedges_attach :
    ∃ e, attachTask = .ok e ∧
      ¬ (e.driving attachConfig (.idle attachPorts noSequences)
        ([(.tick (.finite 1), settled)] ++ [(.tick (.finite 2), settled)])).1.1.state.Terminal ∧
      (e.driving attachConfig (.idle attachPorts noSequences)
        ([(.tick (.finite 1), settled)] ++ [(.tick (.finite 2), settled)])).1.1.lease.owner =
          some e.config.runId := by
  have hall : attachTask.toOption.any (fun e =>
      decide (e.driving attachConfig (.idle attachPorts noSequences)
        [(.tick (.finite 1), settled)]).1.2.Refused) = true := by
    decide +kernel
  cases h : attachTask with
  | error error =>
    rw [h] at hall
    cases hall
  | ok e =>
    rw [h] at hall
    have hrefused := of_decide_eq_true hall
    exact ⟨e, rfl, refused_start_wedges h [(.tick (.finite 1), settled)] _ hrefused⟩

end MobileBimanual.Tasks
