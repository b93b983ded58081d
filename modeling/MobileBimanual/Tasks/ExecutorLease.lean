/-
# What an executor relies on

The executor against an adapter of which three things are known: what is true all along, what must
be true for a skill to be started, and what is true where the adapter reports an end
(`AdapterLaw`).  While the task goes on it holds its lease; it comes to its end only where the
adapter reports one, and gives the lease back (`tick_upto`, `cancel_upto`).

A task that has come to its end stays as it is (`cancel_ended`).
-/
import MobileBimanual.Tasks.Execution

namespace MobileBimanual.Tasks

open Activity Oracle
open Program (Conduct)
open Triple

/-! ## 1. The law of an adapter -/

/-- The reply is that the skill has succeeded, or that the robot has stopped. -/
def AdapterCall.Finishes : (call : AdapterCall) → call.Reply → Prop
  | .poll .., .ok feedback => feedback.status = .succeeded
  | .pollStop .., .ok feedback => feedback.status = .stopped
  | _, _ => False

/-- Only where it may, the task starts a step, and one of its own. -/
def AdapterCall.Allowed (runId : String) (mayStart : Prop) : AdapterCall → Prop
  | .start goal _ _ => mayStart ∧ ∃ stepId, goal = runId ++ "/" ++ stepId
  | _ => True

/-- What is known of an adapter, and of the task that it serves. -/
structure TaskTerms (ω : Type) where
  runId : String
  sound : ω → Prop
  mayStart : ω → Prop
  done : ω → Prop
  /-- What is left of the lease when the task has come to its end. -/
  left : TaskLease → Prop
  times : ℚ → Prop

def TaskTerms.conduct {ω : Type} (T : TaskTerms ω) : Conduct AdapterCall AdapterCall.Reply ω where
  interferes w v := v = w
  permits c w := T.sound w ∧ c.Allowed T.runId (T.mayStart w)
  answers c w reply v := T.sound v ∧ (T.mayStart w → T.mayStart v) ∧ (c.Finishes reply → T.done v)

/-! ## 2. A task that goes on -/

namespace TaskExecutor

variable {ω : Type} {T : TaskTerms ω} {e : TaskExecutor} {w : ω}

/-- The task goes on, and holds its lease. -/
structure Live (T : TaskTerms ω) (e : TaskExecutor) (w : ω) : Prop where
  sound : T.sound w
  going : ¬ e.state.Terminal
  run : e.config.runId = T.runId
  held : e.lease.owner = some e.config.runId
  time : T.times e.now

/-- It may start its step. -/
structure Moving (T : TaskTerms ω) (e : TaskExecutor) (w : ω) : Prop
    extends Live T e w where
  may : T.mayStart w

/-- It is on the way to a stop. -/
structure Halted (T : TaskTerms ω) (e : TaskExecutor) (w : ω) : Prop
    extends Live T e w where
  leaving : Leaving e.state

/-- It has come to its end where it may. -/
structure Ended (T : TaskTerms ω) (e : TaskExecutor) (w : ω) : Prop where
  sound : T.sound w
  terminal : e.state.Terminal
  run : e.config.runId = T.runId
  lease : T.left e.lease
  time : T.times e.now
  done : T.done w

def Parting (T : TaskTerms ω) (e : TaskExecutor)
    (w : ω) : Prop :=
  Halted T e w ∨ Ended T e w

def Upto (T : TaskTerms ω) (e : TaskExecutor) (w : ω) :
    Prop :=
  Moving T e w ∨ Parting T e w

theorem Upto.live (h : Upto T e w) (hgoing : ¬ e.state.Terminal) :
    Live T e w := by
  rcases h with h | h | h
  · exact h.toLive
  · exact h.toLive
  · exact absurd h.terminal hgoing

theorem Upto.moving (h : Upto T e w) (hgoing : ¬ Leaving e.state) :
    Moving T e w := by
  rcases h with h | h | h
  · exact h
  · exact absurd h.leaving hgoing
  · exact absurd (.inl h.terminal) hgoing

theorem Upto.imp {T' : TaskTerms ω} {v : ω} (h : Upto T e w) (hrun : T'.runId = T.runId)
    (hsound : T.sound w → T'.sound v) (hmay : T.mayStart w → T'.mayStart v)
    (hdone : T.done w → T'.done v)
    (hleft : e.state.Terminal → T.left e.lease → T'.left e.lease)
    (htimes : T.times e.now → T'.times e.now) : Upto T' e v := by
  rcases h with h | h | h
  · exact .inl ⟨⟨hsound h.sound, h.going, h.run.trans hrun.symm, h.held, htimes h.time⟩,
      hmay h.may⟩
  · exact .inr (.inl ⟨⟨hsound h.sound, h.going, h.run.trans hrun.symm, h.held, htimes h.time⟩,
      h.leaving⟩)
  · exact .inr (.inr ⟨hsound h.sound, h.terminal, h.run.trans hrun.symm, hleft h.terminal h.lease,
      htimes h.time, hdone h.done⟩)

theorem Upto.later {now : ℚ} (h : Upto T e w) (hnow : T.times now) : Upto T { e with now } w := by
  rcases h with h | h | h
  · exact .inl ⟨⟨h.sound, h.going, h.run, h.held, hnow⟩, h.may⟩
  · exact .inr (.inl ⟨⟨h.sound, h.going, h.run, h.held, hnow⟩, h.leaving⟩)
  · exact .inr (.inr ⟨h.sound, h.terminal, h.run, h.lease, hnow, h.done⟩)

theorem Upto.sound (h : Upto T e w) : T.sound w := by
  rcases h with h | h | h <;> exact h.sound

/-! ## 3. Calls -/

theorem triple_halted {c : AdapterCall} (hc : ∀ mayStart, c.Allowed T.runId mayStart) :
    Triple T.conduct (Halted T) (invoke c : Execution c.Result)
      (fun value e w => Halted T e w ∧ (c.Finishes (.ok value) → T.done w))
      fun _ => Halted T := by
  rintro e w h v rfl
  refine ⟨⟨h.sound, hc _⟩, fun reply v' hanswers => ?_⟩
  have hhalted : Halted T e v' := ⟨⟨hanswers.1, h.going, h.run, h.held, h.time⟩, h.leaving⟩
  cases reply with
  | ok value => exact ⟨hhalted, hanswers.2.2⟩
  | error error => exact hhalted

theorem triple_moving {c : AdapterCall} {e₀ : TaskExecutor}
    (hc : e₀.config.runId = T.runId → ∀ mayStart : Prop, mayStart → c.Allowed T.runId mayStart) :
    Triple T.conduct (fun e w => e = e₀ ∧ Moving T e w)
      (invoke c : Execution c.Result)
      (fun value e w => Moving T e w ∧ (c.Finishes (.ok value) → T.done w))
      fun _ => Moving T := by
  rintro e w ⟨rfl, h⟩ v rfl
  refine ⟨⟨h.sound, hc h.run _ h.may⟩, fun reply v' hanswers => ?_⟩
  have hmoving : Moving T e v' :=
    ⟨⟨hanswers.1, h.going, h.run, h.held, h.time⟩, hanswers.2.1 h.may⟩
  cases reply with
  | ok value => exact ⟨hmoving, hanswers.2.2⟩
  | error error => exact hmoving

theorem observe_moving :
    Triple T.conduct (Moving T) observe (fun _ => Moving T)
      fun _ => Moving T :=
  triple_get_bind fun e => (triple_moving (c := .observe e.goalId e.step e.now)
    fun _ _ _ => trivial).conseq (fun _ _ h => h) (fun _ _ _ h => h.1) fun _ _ _ h => h

theorem startSkill_moving :
    Triple T.conduct (Moving T) startSkill (fun _ => Moving T)
      fun _ => Moving T :=
  triple_get_bind fun e => (triple_moving (c := .start e.goalId e.step e.now) fun hrun _ hmay =>
    ⟨hmay, e.step.stepId, hrun ▸ rfl⟩).conseq (fun _ _ h => h) (fun _ _ _ h => h.1) fun _ _ _ h => h

theorem pollSkill_moving :
    Triple T.conduct (Moving T) pollSkill
      (fun feedback e w => Moving T e w ∧ (feedback.status = .succeeded → T.done w))
      fun _ => Moving T :=
  triple_get_bind fun e => (triple_moving (c := .poll e.goalId e.step e.now)
    fun _ _ _ => trivial).conseq (fun _ _ h => h) (fun _ _ _ h => h) fun _ _ _ h => h

theorem requestStop_halted :
    Triple T.conduct (Halted T) requestStop (fun _ => Halted T)
      fun _ => Halted T :=
  triple_get_bind fun _ => (triple_halted (c := .requestStop ..) fun _ => trivial).conseq
    (fun _ _ h => h.2) (fun _ _ _ h => h.1) fun _ _ _ h => h

theorem pollStopFeedback_halted :
    Triple T.conduct (Halted T) pollStopFeedback
      (fun feedback e w => Halted T e w ∧ (feedback.status = .stopped → T.done w))
      fun _ => Halted T :=
  triple_get_bind fun _ => (triple_halted (c := .pollStop ..) fun _ => trivial).conseq
    (fun _ _ h => h.2) (fun _ _ _ h => h) fun _ _ _ h => h

/-! ## 4. Stopping -/

section Stop

variable (hnone : T.left ⟨none⟩)
include hnone

/-- Coming to its end, the task gives its lease back. -/
theorem release_ended :
    Triple T.conduct (fun e w => e.lease.owner = some e.config.runId ∧ T.sound w ∧
        e.state.Terminal ∧ e.config.runId = T.runId ∧ T.times e.now ∧ T.done w)
      releaseLease (fun _ => Ended T) fun _ _ _ => False := by
  refine (releaseLease_done fun _ _ h => h.1).conseq (fun _ _ h => h) ?_ fun _ _ _ h => h
  rintro _ _ w ⟨e, ⟨-, hsound, hterminal, hrun, htime, hdone⟩, rfl⟩
  exact ⟨hsound, hterminal, hrun, hnone, htime, hdone⟩

theorem confirmStop_parting :
    Triple T.conduct (Halted T) confirmStop
      (fun confirmed e w => if confirmed then Ended T e w else Halted T e w)
      fun _ => Halted T := by
  refine bind (M := fun _ => Halted T) ?_ fun _ =>
    bind pollStopFeedback_halted fun feedback => triple_get_bind fun e => bind
      (triple_expect (fun _ _ _ _ h => h.2) fun _ _ _ _ h => h.2.1) fun _ =>
        triple_ite (fun hstopped => ?_) fun _ => triple_pure fun _ _ h => h.1
  · refine triple_get_bind fun e => triple_ite (fun _ => ?_) fun _ => triple_pure fun _ _ h => h.2
    exact bind (requestStop_halted.conseq (fun _ _ h => h.2) (fun _ _ _ h => h)
      fun _ _ _ h => h) fun _ => triple_modify fun _ _ h =>
        ⟨⟨h.sound, h.going, h.run, h.held, h.time⟩, h.leaving⟩
  · refine bind (triple_modify ?_) fun _ => bind ((release_ended hnone).conseq
      (fun _ _ h => h) (fun _ _ _ h => h) fun _ _ _ h => h.elim) fun _ => triple_pure fun _ _ h => h
    rintro e w ⟨h, hfinishes⟩
    refine ⟨h.held, h.sound, ?_, h.run, h.time, hfinishes hstopped.1⟩
    cases e.stopDestination
    · exact .inr (.inl rfl)
    · exact .inr (.inr rfl)

theorem pollStop_parting :
    Triple T.conduct (Halted T) pollStop (fun _ => Parting T) fun _ _ _ => False := by
  refine bind (tryCatch (confirmStop_parting hnone)
    fun _ => triple_pure fun _ _ h => h) fun confirmed => triple_ite (fun hconfirmed => triple_pure fun e w h => ?_) fun hconfirmed =>
      triple_modify fun e w h => ?_
  · rw [if_pos hconfirmed] at h
    exact .inr h
  · rw [if_neg hconfirmed] at h
    split
    · exact .inl ⟨⟨h.sound, show ¬ TaskState.stopUnconfirmed.Terminal by decide, h.run, h.held,
        h.time⟩, .inr (.inr rfl)⟩
    · exact .inl h

variable {reason : String} {destination : StopDestination}

/-- **A stop is never taken back.** -/
theorem stop_parting :
    Triple T.conduct (fun e w => Live T e w ∨ Ended T e w)
      (stop reason destination) (fun _ => Parting T) fun _ _ _ => False := by
  refine triple_get_bind fun e => triple_ite (fun hleaving => triple_pure ?_) fun hstate =>
    bind (M := fun _ => Halted T) (triple_modify ?_) fun _ => pollStop_parting hnone
  · rintro e w ⟨rfl, h | h⟩
    · exact .inl ⟨h, hleaving⟩
    · exact .inr h
  · rintro e w ⟨rfl, h | h⟩
    · exact ⟨⟨h.sound, show ¬ TaskState.stopping.Terminal by decide, h.run, h.held, h.time⟩,
        .inr (.inl rfl)⟩
    · exact absurd (.inl h.terminal) hstate

theorem stop_upto :
    Triple T.conduct (Upto T) (stop reason destination) (fun _ => Upto T) fun _ => Upto T := by
  refine (stop_parting hnone).conseq ?_ (fun _ _ _ h => .inr h) fun _ _ _ h => h.elim
  rintro e w (h | h | h)
  · exact .inl h.toLive
  · exact .inl h.toLive
  · exact .inr h

/-! ## 5. Ticks -/

theorem tickWaiting_upto :
    Triple T.conduct (Moving T) tickWaiting (fun _ => Upto T) fun _ => Upto T := by
  refine bind (M := fun _ => Moving T) (observe_moving.conseq (fun _ _ h => h)
    (fun _ _ _ h => h) fun _ _ _ h => .inl h) fun feedback => triple_get_bind fun e =>
      bind (M := fun _ => Moving T)
        (triple_expect (fun _ _ _ _ h => h.2) fun _ _ _ _ h => .inl h.2) fun _ =>
          triple_ite (fun _ => (stop_upto hnone).conseq (fun _ _ h => .inl h) (fun _ _ _ h => h)
            fun _ _ _ h => h) fun _ => triple_ite (fun _ => ?_) fun _ =>
              triple_pure fun _ _ h => .inl h
  exact bind (M := fun _ => Moving T)
    (triple_modify fun _ _ h => ⟨⟨h.sound, show ¬ TaskState.running.Terminal by decide, h.run,
      h.held, h.time⟩, h.may⟩) fun _ => bind (startSkill_moving.conseq (fun _ _ h => h) (fun _ _ _ h => h)
        fun _ _ _ h => .inl h) fun _ => triple_modify fun _ _ h =>
          .inl ⟨⟨h.sound, h.going, h.run, h.held, h.time⟩, h.may⟩

theorem tickRunning_upto :
    Triple T.conduct (Moving T) tickRunning (fun _ => Upto T) fun _ => Upto T := by
  refine bind (pollSkill_moving.conseq (fun _ _ h => h) (fun _ _ _ h => h)
    fun _ _ _ h => .inl h) fun feedback => triple_get_bind fun e => bind
      (triple_expect (fun _ _ _ _ h => h.2) fun _ _ _ _ h => .inl h.2.1) fun _ => ?_
  have hstop : ∀ reason, Triple T.conduct
      (fun t w => Moving T t w ∧ (feedback.status = .succeeded → T.done w))
      (stop reason .failed) (fun _ => Upto T) fun _ => Upto T := fun _ =>
    (stop_upto hnone).conseq (fun _ _ h => .inl h.1) (fun _ _ _ h => h) fun _ _ _ h => h
  refine triple_ite (fun _ => hstop _) fun _ => triple_ite (fun _ => hstop _) fun _ =>
    triple_ite (fun hsucceeded => triple_ite (fun _ => hstop _) fun _ => ?_) fun _ =>
      triple_pure fun _ _ h => .inl h.1
  refine bind (M := fun _ t w => Moving T t w ∧ T.done w)
    (triple_modify fun t w h =>
      ⟨⟨⟨h.1.sound, h.1.going, h.1.run, h.1.held, h.1.time⟩, h.1.may⟩, h.2 hsucceeded⟩) fun _ =>
      triple_get_bind fun t => triple_ite (fun _ => bind (triple_modify ?_) fun _ =>
        (release_ended hnone).conseq (fun _ _ h => h) (fun _ _ _ h => .inr (.inr h))
          fun _ _ _ h => h.elim) fun _ => triple_modify ?_
  · rintro t w ⟨-, h, hdone⟩
    exact ⟨h.held, h.sound, .inl rfl, h.run, h.time, hdone⟩
  · rintro t w ⟨-, h, -⟩
    exact .inl ⟨⟨h.sound, show ¬ TaskState.waiting.Terminal by decide, h.run, h.held, h.time⟩,
      h.may⟩

variable {now : Scalar}

omit hnone in
theorem clock_upto (hnow : ∀ value, now = .finite value → T.times value) :
    Triple T.conduct (Upto T) (clock now) (fun _ => Upto T) fun _ => Upto T := by
  refine bind (M := fun value e w => T.times value ∧ Upto T e w)
    (triple_expect (fun value hvalue _ _ h => ⟨hnow value (seconds_eq_ok hvalue).1, h⟩)
      fun _ _ _ _ h => h) fun value => triple_get_bind fun e =>
        triple_ite (fun _ => triple_throw fun _ _ h => h.2.2) fun _ => triple_modify ?_
  rintro e w ⟨-, htime, h | h | h⟩
  · exact .inl ⟨⟨h.sound, h.going, h.run, h.held, htime⟩, h.may⟩
  · exact .inr (.inl ⟨⟨h.sound, h.going, h.run, h.held, htime⟩, h.leaving⟩)
  · exact .inr (.inr ⟨h.sound, h.terminal, h.run, h.lease, htime, h.done⟩)

theorem tick_upto (hnow : ∀ value, now = .finite value → T.times value) :
    Triple T.conduct (Upto T) (tick now) (fun _ => Upto T) fun _ => Upto T := by
  refine bind (clock_upto hnow) fun _ => triple_get_bind fun e =>
    triple_ite (fun _ => triple_pure fun _ _ h => h.2) fun hgoing => triple_ite
      (fun hstopping => ?_) fun hstopping => ?_
  · refine (pollStop_parting hnone).conseq ?_ (fun _ _ _ h => .inr h) fun _ _ _ h => h.elim
    rintro e w ⟨rfl, h⟩
    exact ⟨h.live hgoing, .inr hstopping⟩
  · have hmoving : ∀ t w, t = e ∧ Upto T t w → Moving T t w := by
      rintro t w ⟨rfl, h⟩
      exact h.moving (not_or.mpr ⟨hgoing, hstopping⟩)
    have hstop : ∀ reason, Triple T.conduct (fun t w => t = e ∧ Upto T t w)
        (stop reason .failed) (fun _ => Upto T) fun _ => Upto T := fun _ =>
      (stop_upto hnone).conseq (fun _ _ h => h.2) (fun _ _ _ h => h) fun _ _ _ h => h
    refine triple_ite (fun _ => hstop _) fun _ => triple_ite (fun _ => hstop _) fun _ =>
      tryCatch (triple_ite (fun _ => ?_) fun _ => ?_) fun _ => stop_upto hnone
    · exact (tickWaiting_upto hnone).conseq hmoving (fun _ _ _ h => h) fun _ _ _ h => h
    · exact (tickRunning_upto hnone).conseq hmoving (fun _ _ _ h => h) fun _ _ _ h => h

theorem cancel_upto (hnow : ∀ value, now = .finite value → T.times value) :
    Triple T.conduct (Upto T) (cancel now reason) (fun _ => Upto T) fun _ => Upto T :=
  bind (clock_upto hnow) fun _ => stop_upto hnone

/-- **A task that is cancelled in time starts nothing any more.** -/
theorem cancel_parting {now : ℚ} (reason : String) (hnow : 0 ≤ now ∧ T.times now) :
    Triple T.conduct (fun e w => Live T e w ∧ e.now ≤ now) (cancel (.finite now) reason)
      (fun _ => Parting T) fun _ _ _ => False := by
  refine bind (M := fun _ => Live T) ?_ fun _ =>
    (stop_parting hnone).conseq (fun _ _ h => .inl h) (fun _ _ _ h => h) fun _ _ _ h => h
  refine bind (M := fun value e w => value = now ∧ Live T e w ∧ e.now ≤ now)
    (triple_expect ?_ ?_) fun value => triple_get_bind fun e => triple_ite (fun hlate => ?_)
      fun _ => triple_modify ?_
  · intro value hvalue e w h
    cases (seconds_eq_ok hvalue).1
    exact ⟨rfl, h⟩
  · intro error herror
    rw [seconds, if_neg (not_lt.mpr hnow.1)] at herror
    cases herror
  · rintro e w ⟨rfl, rfl, -, hle⟩
    exact absurd hlate (not_lt.mpr hle)
  · rintro e w ⟨-, rfl, h, -⟩
    exact ⟨h.sound, h.going, h.run, h.held, hnow.2⟩

end Stop

/-- A task that has come to its end stays as it is. -/
theorem cancel_ended {C : Conduct AdapterCall AdapterCall.Reply ω} {now : Scalar} {reason : String}
    {I : TaskExecutor → ω → Prop} (hI : ∀ e w value, I e w → now = .finite value →
      I { e with now := value } w) :
    Triple C (fun e w => e.state.Terminal ∧ I e w) (cancel now reason) (fun _ => I) fun _ => I := by
  refine bind (M := fun _ e w => e.state.Terminal ∧ I e w) (bind
    (M := fun value e w => now = .finite value ∧ e.state.Terminal ∧ I e w)
      (triple_expect (fun _ hvalue _ _ h => ⟨(seconds_eq_ok hvalue).1, h⟩)
        fun _ _ _ _ h => h.2) fun value => triple_get_bind fun e =>
          triple_ite (fun _ => triple_throw fun _ _ h => h.2.2.2) fun _ =>
            triple_modify fun e w h => ⟨h.2.2.1, hI e w value h.2.2.2 h.2.1⟩) fun _ =>
    triple_get_bind fun e => triple_ite (fun _ => triple_pure fun _ _ h => h.2.2) fun hgoing => ?_
  rintro e w ⟨rfl, hterminal, -⟩
  exact absurd (.inl hterminal) hgoing

end TaskExecutor

end MobileBimanual.Tasks
