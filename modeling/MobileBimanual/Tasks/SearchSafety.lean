/-
# A search that has come to its end

Once a session is found, not found, cancelled or failed, its goal no longer owns the port
(`run_rests`).  What may still happen to it is told by `poll_settled`: a poll that gets the time and
the feedback of the motion only notes the time; one whose clock has gone backwards, or that gets no
feedback, stops the session over again, since the handler of the exception asks for no state.

`search_absorbing_iff`: the end is the end exactly in the runs in which no such poll occurs.
-/
import MobileBimanual.Tasks.SearchPort

namespace MobileBimanual.Tasks

open Activity Oracle Machine Registry Triple SearchSession

/-! ## 1. Sessions at their end -/

namespace SearchSession

variable {s s' : SearchSession} {now : Scalar}

/-- The time can be told, and has not gone backwards. -/
def Timely (s : SearchSession) (now : Scalar) (time : ℚ) : Prop :=
  number "now" now = .ok time ∧ s.now ≤ time

theorem stopped_state (s : SearchSession) (reason : String) (destination : StopDestination) :
    (s.stopped reason destination).state = .stopping := by
  unfold stopped
  split
  next h => exact h
  next => rfl

theorem not_terminal_of_stopping (h : s.state = .stopping) : ¬ s.state.Terminal := by
  rw [h]
  decide

variable {time : ℚ}

theorem clock_of_timely (h : s.state.Terminal) (ht : s.Timely now time) :
    (clock now).on s = (.ok ⟨⟩, { s with now := time }) := by
  simp [clock, ht.1, not_lt.mpr ht.2, h]

theorem clock_of_not_timely (ht : ¬ ∃ time, s.Timely now time) :
    ∃ raised, (clock now).on s = (.error raised, s) := by
  cases hnumber : number "now" now with
  | error raised => exact ⟨raised, by simp [clock, hnumber]⟩
  | ok time =>
    have hlt : time < s.now := not_le.mp fun hle => ht ⟨time, hnumber, hle⟩
    exact ⟨invalidTask "search clock moved backwards", by simp [clock, hnumber, hlt]⟩

theorem clock_cases (s : SearchSession) (now : Scalar) :
    ((clock now).on s).2 = s ∨ (∃ time, ((clock now).on s).2 = { s with now := time }) ∨
      ((clock now).on s).2.state = .stopping := by
  by_cases ht : ∃ time, s.Timely now time
  · obtain ⟨time, hnumber, hle⟩ := ht
    by_cases hlate : ¬ s.state.Terminal ∧ s.state ≠ .stopping ∧ time ≥ s.deadline
    · refine .inr (.inr ?_)
      simp only [clock, on_bind, on_check, hnumber, on_get, not_lt.mpr hle, if_false,
        on_modify, hlate, and_self, not_false_eq_true, ne_eq, if_true, on_stop]
      exact stopped_state _ _ _
    · exact .inr (.inl ⟨time, by simp [clock, hnumber, not_lt.mpr hle, hlate]⟩)
  · obtain ⟨raised, hclock⟩ := clock_of_not_timely ht
    exact .inl (by rw [hclock])

variable {motion : MotionEvidence}

theorem poll_of_timely (h : s.state.Terminal) (ht : s.Timely now time) :
    (poll motion now).on s = (.ok none, { s with now := time }) := by
  simp [poll, clock_of_timely h ht, h]

theorem poll_of_not_timely (motion : MotionEvidence) (ht : ¬ ∃ time, s.Timely now time) :
    ∃ raised, (poll motion now).on s = (.error raised, s) := by
  obtain ⟨raised, hclock⟩ := clock_of_not_timely ht
  exact ⟨raised, by simp [poll, hclock]⟩

theorem issue_on (s : SearchSession) (kind : SearchKind) :
    (issue kind).on s = (.ok (s.issued kind).action, s.issued kind) := rfl

/-- What is to be done is said of a session that has not come to its end. -/
theorem poll_some {action : SearchAction} (h : (poll motion now).on s = (.ok (some action), s')) :
    ¬ s'.state.Terminal := by
  rw [poll, on_bind] at h
  rcases hclock : (clock now).on s with ⟨error | ⟨⟩, t⟩
  all_goals rw [hclock] at h
  case error => cases h
  simp only [on_bind, on_get, on_ite] at h
  split at h
  · cases h
  next hlive =>
    split at h
    · obtain rfl := (Prod.mk.inj h).2
      exact hlive
    · split at h
      next raised _ =>
        simp only [on_bind, on_stop, on_get, on_pure] at h
        obtain rfl := (Prod.mk.inj h).2
        exact not_terminal_of_stopping (stopped_state _ _ _)
      next since _ =>
        rw [on_ite] at h
        split at h
        · split at h
          · cases h
          next view _ =>
            simp only [on_bind, on_modify, issue_on] at h
            cases h
            simp [issued, SearchState.Terminal]
        · simp only [on_ite, on_bind, on_modify, issue_on, on_pure] at h
          split at h
          · cases h
            simp [issued, SearchState.Terminal]
          · obtain rfl := (Prod.mk.inj h).2
            exact hlive

/-- A cancellation ends nothing by itself. -/
theorem cancel_cases (s : SearchSession) (now : Scalar) :
    ((cancel now).on s).2 = s ∨ (∃ time, ((cancel now).on s).2 = { s with now := time }) ∨
      ((cancel now).on s).2.state = .stopping := by
  have hclock := clock_cases s now
  rw [cancel, on_bind]
  rcases h : (clock now).on s with ⟨error | ⟨⟩, t⟩
  · rw [h] at hclock
    exact hclock
  · rw [h] at hclock
    simp only [on_bind, on_get, on_ite, on_stop, on_pure]
    split
    · exact .inr (.inr (stopped_state _ _ _))
    · exact hclock

theorem cancel_of_timely (h : s.state.Terminal) (ht : s.Timely now time) :
    (cancel now).on s = (.ok ⟨⟩, { s with now := time }) := by
  simp [cancel, clock_of_timely h ht, h]

theorem cancel_of_not_timely (ht : ¬ ∃ time, s.Timely now time) :
    ∃ raised, (cancel now).on s = (.error raised, s) := by
  obtain ⟨raised, hclock⟩ := clock_of_not_timely ht
  exact ⟨raised, by simp [cancel, hclock]⟩

variable {document : SearchDocument}

/-- A session as it is made. -/
theorem create_spec (h : create document = .ok s) :
    s.state = .selectView ∧ s.action = none ∧ s.history = [] ∧ s.views = document.views ∧
      s.captureLimit = document.capturesPerView.toNat ∧ 1 ≤ s.captureLimit := by
  unfold create at h
  split at h
  · cases h
  obtain ⟨-, -, h⟩ := Except.bind_eq_ok_iff.mp h
  obtain ⟨-, -, h⟩ := Except.bind_eq_ok_iff.mp h
  obtain ⟨-, -, h⟩ := Except.bind_eq_ok_iff.mp h
  split at h
  · cases h
  obtain ⟨-, -, h⟩ := Except.bind_eq_ok_iff.mp h
  split at h
  · cases h
  next hlimit =>
  obtain ⟨timeout, -, h⟩ := Except.bind_eq_ok_iff.mp h
  obtain ⟨confidence, -, h⟩ := Except.bind_eq_ok_iff.mp h
  obtain ⟨now, -, h⟩ := Except.bind_eq_ok_iff.mp h
  split at h
  · cases h
  cases h
  exact ⟨rfl, rfl, rfl, rfl, rfl, Int.le_toNat (by omega) |>.mpr (not_not.mp hlimit).1⟩

theorem create_state (h : create document = .ok s) : s.state = .selectView :=
  (create_spec h).1

end SearchSession

/-! ## 2. Goals at their end -/

/-- The goal that an operation is on. -/
def SearchOp.goal : SearchOp → Option String
  | .ready => none
  | .start goal _ | .poll goal | .cancel goal | .phaseSafe goal => some goal

/-- The calls that have something done. -/
def SearchCall.Acts : SearchCall → Prop
  | .start .. | .cancel .. | .stopRequest .. | .sink _ => True
  | _ => False

namespace SearchPort

/-- The session has come to its end and the goal does not own the port. -/
def Settled (w : SearchPort) (goal : String) (e : SearchEntry) : Prop :=
  w.entries.lookup goal = some e ∧ e.session.state.Terminal ∧ w.owner ≠ some goal

def noted (e : SearchEntry) (time : ℚ) : SearchEntry :=
  { e with session := { e.session with now := time } }

variable (views : List (String × String))

/-- An operation lets every goal at its end be, and has nothing done for it. -/
def Absorbs (w : SearchPort × SearchJournal)
    (op : SearchOp × Oracle SearchCall SearchCall.Reply) : Prop :=
  ∀ goal e, Settled w.1 goal e →
    (∃ time, Settled (consult (SearchOp.action views) w op).1 goal (noted e time)) ∧
    (op.1.goal = some goal → ∃ added, (consult (SearchOp.action views) w op).2 = added ++ w.2 ∧
      ∀ entry ∈ added, ¬ entry.call.Acts)

/-- A poll of a goal at its end that gets a time gets one that has not gone backwards, and gets the
feedback of the motion. -/
def Answered (w : SearchPort × SearchJournal)
    (op : SearchOp × Oracle SearchCall SearchCall.Reply) : Prop :=
  ∀ goal e now, op.1 = .poll goal → Settled w.1 goal e → op.2 .clock w.2 = .ok now →
    (∃ time, e.session.Timely now time) ∧
    ∃ motion, op.2 .motion (⟨.clock, .ok now⟩ :: w.2) = .ok motion

/-- A goal at its end does not own the port, and has handed over what it found. -/
def RestsAt (goal : String) (w : SearchPort) : Prop :=
  ∀ e, w.entries.lookup goal = some e → e.session.state.Terminal →
    w.owner ≠ some goal ∧ (e.session.state = .found → e.delivered = true)

def Rests (w : SearchPort) : Prop := ∀ goal, RestsAt goal w

/-! ## 3. What an operation on one goal leaves alone -/

def Present (goal : String) (w : SearchPort) : Prop := ∃ e, w.entries.lookup goal = some e

/-- At most the goal's own entry changes, and the ownership for or from the goal. -/
structure Touched (goal : String) (w w' : SearchPort) : Prop where
  owner : w'.owner = w.owner ∨ w'.owner = none ∨ w'.owner = some goal
  others : ∀ other, other ≠ goal → w'.entries.lookup other = w.entries.lookup other
  present : Present goal w → Present goal w'

def touches (calls : SearchCall → Prop) (goal : String) : Frame SearchCall SearchPort where
  calls _ := calls
  changes := Touched goal
  refl _ := ⟨.inl rfl, fun _ _ => rfl, id⟩
  trans h h' := by
    refine ⟨?_, fun other hother => (h'.others other hother).trans (h.others other hother),
      h'.present ∘ h.present⟩
    rcases h'.owner with howner | howner | howner
    · rw [howner]
      exact h.owner
    · exact .inr (.inl howner)
    · exact .inr (.inr howner)
  earlier _ := id

variable {views} {calls : SearchCall → Prop} {goal : String}

variable {F : Frame SearchCall SearchPort}

theorem keeps_invoke {c : SearchCall} (hc : ∀ w, F.calls w c) :
    (invoke c : SearchWork c.Result).Keeps F :=
  Oracle.keeps_invoke hc

theorem touched_update (w : SearchPort) (f : SearchEntry → SearchEntry) :
    Touched goal w (w.update goal f) := by
  cases h : w.entries.lookup goal with
  | none =>
    rw [update, h]
    exact (touches (fun _ => True) goal).refl w
  | some e =>
    have hall := lookup_update h f
    refine ⟨.inl (owner_update w goal f), fun other hother => ?_, fun _ => ⟨f e, ?_⟩⟩
    · rw [hall, if_neg hother]
    · rw [hall, if_pos rfl]

theorem keeps_amend (f : SearchEntry → SearchEntry) :
    (amend goal f : SearchWork PUnit).Keeps (touches calls goal) :=
  keeps_modify fun w => touched_update w f

theorem keeps_onSession {α : Type} (x : Searching α) :
    (onSession goal x).Keeps (touches calls goal) :=
  keeps_entry.bind fun _ => (keeps_amend _).bind fun _ => keeps_expect _

/-- Nothing changes and nothing is done. -/
abbrev still : Frame SearchCall SearchPort := Frame.still fun c => ¬ c.Acts

theorem keeps_ready (hF : ∀ w c, ¬ c.Acts → F.calls w c) : ready.Keeps F := by
  refine keeps_get_bind fun w => ?_
  split
  · exact keeps_pure _
  · refine (keeps_invoke fun w => hF w _ id).bind fun _ => ?_
    split
    · exact keeps_invoke fun w => hF w _ id
    · exact keeps_pure _

theorem keeps_phaseSafe (hF : ∀ w c, ¬ c.Acts → F.calls w c) : (phaseSafe goal).Keeps F := by
  refine keeps_entry.bind fun e => ?_
  split
  · split
    · exact keeps_invoke fun w => hF w _ id
    · exact keeps_pure _
  · exact ((keeps_invoke fun w => hF w _ id).bind fun _ => (keeps_invoke fun w => hF w _ id).bind
      fun _ => (keeps_expect _).bind fun _ => (keeps_expect _).bind fun _ => keeps_pure _).tryCatch
        fun _ => keeps_pure _

variable {parameters : String}

theorem keeps_start : (start goal parameters).Keeps (touches (fun c => ¬ c.Acts) goal) := by
  refine (keeps_ready fun _ _ => id).bind fun ready => keeps_get_bind fun w => ?_
  split
  · exact keeps_throw _
  · refine (keeps_invoke fun _ => id).bind fun now => (keeps_invoke fun _ => id).bind fun document =>
      (keeps_expect _).bind fun session => keeps_modify fun w => ⟨.inr (.inr rfl), ?_, ?_⟩
    · exact fun other hother => AList.lookup_insert_ne hother
    · exact fun _ => ⟨_, AList.lookup_insert _⟩

theorem keeps_cancel : (cancel goal).Keeps (touches (fun c => ¬ c.Acts) goal) :=
  keeps_entry.bind fun _ => (keeps_invoke fun _ => id).bind fun _ => keeps_onSession _

/-- Every call is allowed. -/
abbrev any : SearchCall → Prop := fun _ => True

variable {action : SearchAction}

theorem keeps_requestStop {now : Scalar} :
    (requestStop goal action now).Keeps (touches any goal) := by
  refine keeps_entry.bind fun e => ?_
  split
  · exact keeps_pure _
  · refine (Keeps.attempt ?_).bind fun _ => (keeps_invoke fun _ => trivial).bind fun _ =>
      (keeps_expect _).bind fun _ => keeps_amend _
    unfold cancelChild
    split
    · exact keeps_pure _
    · exact keeps_invoke fun _ => trivial

theorem keeps_halt {now : Scalar} : (halt goal action now).Keeps (touches any goal) := by
  refine keeps_requestStop.bind fun _ => (keeps_invoke fun _ => trivial).bind fun feedback =>
    Keeps.bind ?_ fun idle => ?_
  · refine keeps_entry.bind fun e => ?_
    split
    · exact keeps_pure _
    · exact (keeps_invoke fun _ => trivial).bind fun _ => keeps_pure _
  · split
    · exact (keeps_invoke fun _ => trivial).bind fun _ => keeps_onSession _
    · exact keeps_pure _

theorem keeps_launch : (launch views goal action).Keeps (touches any goal) := by
  refine keeps_entry.bind fun e => ?_
  split
  · exact keeps_pure _
  · refine (keeps_invoke fun _ => trivial).bind fun ready => ?_
    split
    · exact keeps_pure _
    · exact (keeps_amend _).bind fun _ => (keeps_expect _).bind fun _ =>
        (keeps_invoke fun _ => trivial).bind fun _ => keeps_pure _

theorem keeps_complete {now : Scalar} : (complete goal action now).Keeps (touches any goal) := by
  unfold complete
  split
  · exact (keeps_invoke fun _ => trivial).bind fun _ => (keeps_onSession _).bind fun _ =>
      keeps_amend _
  · exact (keeps_invoke fun _ => trivial).bind fun _ => (keeps_invoke fun _ => trivial).bind
      fun _ => (keeps_onSession _).bind fun _ => keeps_amend _

theorem keeps_follow {now : Scalar} : (follow goal action now).Keeps (touches any goal) := by
  refine keeps_entry.bind fun e => (keeps_invoke fun _ => trivial).bind fun result => ?_
  split
  · exact keeps_complete
  · split
    · exact keeps_onSession _
    · exact keeps_pure _

theorem keeps_conclude : (conclude goal).Keeps (touches any goal) := by
  refine keeps_entry.bind fun e => ?_
  split
  · exact keeps_pure _
  · refine Keeps.bind (keeps_modify fun w => ?_) fun _ => ?_
    · exact ⟨.inr (.inl rfl), fun _ _ => rfl, id⟩
    split
    · split
      · exact keeps_pure _
      · refine (keeps_invoke fun _ => trivial).attempt.bind fun reply => ?_
        split
        · exact (keeps_amend _).bind fun _ => keeps_pure _
        · refine Keeps.bind (keeps_modify fun w => ?_) fun _ =>
            (keeps_onSession _).bind fun _ => keeps_pure _
          exact ⟨.inr (.inr rfl), fun _ _ => rfl, id⟩
    · exact keeps_pure _

theorem keeps_advance {now : Scalar} :
    (advance views goal now).Keeps (touches any goal) := by
  refine (keeps_invoke fun _ => trivial).bind fun motion => (keeps_onSession _).bind fun action => ?_
  split
  · exact keeps_pure _
  · split
    · exact keeps_halt.bind fun _ => keeps_pure _
    · refine keeps_launch.bind fun launched => ?_
      split
      · exact keeps_follow.bind fun _ => keeps_pure _
      · exact keeps_pure _

theorem keeps_poll : (poll views goal).Keeps (touches any goal) := by
  refine keeps_entry.bind fun e => (keeps_invoke fun _ => trivial).bind fun now =>
    (keeps_advance.tryCatch fun error => (keeps_onSession _).bind fun _ => keeps_pure _).bind
      fun ended => ?_
  split
  · exact keeps_pure _
  · exact keeps_conclude

variable {op : SearchOp}

/-- **An operation on a goal touches no other.** -/
theorem keeps_op (h : ∀ other, op.goal = some other → other = goal) :
    (op.action views).Keeps (touches any goal) := by
  cases op with
  | ready => exact (keeps_ready fun _ _ _ => trivial).bind fun _ => keeps_pure _
  | start goal' parameters =>
    obtain rfl := h goal' rfl
    exact keeps_start.mono (fun _ _ _ => trivial) fun _ _ => id
  | poll goal' =>
    obtain rfl := h goal' rfl
    exact keeps_poll.bind fun _ => keeps_pure _
  | cancel goal' =>
    obtain rfl := h goal' rfl
    exact keeps_cancel.mono (fun _ _ _ => trivial) fun _ _ => id
  | phaseSafe goal' =>
    obtain rfl := h goal' rfl
    exact (keeps_phaseSafe fun _ _ _ => trivial).bind fun _ => keeps_pure _

/-! ## 4. A goal at its end owns nothing -/

variable {α : Type} {pre : SearchPort → SearchJournal → Prop}
  {post : α → SearchPort → SearchJournal → Prop} {raised : Raised → SearchPort → SearchJournal → Prop}

theorem triple_present {x : SearchWork α} (h : x.Keeps (touches any goal)) :
    Triple (conduct SearchCall SearchCall.Reply) (fun w _ => Present goal w) x
      (fun _ w _ => Present goal w) fun _ w _ => Present goal w :=
  triple_kept h fun _ _ htouched => htouched.present

theorem triple_known (hpre : ∀ w journal, pre w journal → Present goal w) :
    Triple (conduct SearchCall SearchCall.Reply) pre (Registry.entry keyError goal)
      (fun e w journal => pre w journal ∧ w.entries.lookup goal = some e) raised := by
  refine triple_get_bind fun w => ?_
  split
  next hnone =>
    rintro _ journal ⟨rfl, hw⟩
    obtain ⟨e, hlookup⟩ := hpre _ journal hw
    exact nomatch hnone.symm.trans hlookup
  next e hsome =>
    refine triple_pure ?_
    rintro _ journal ⟨rfl, hw⟩
    exact ⟨hw, hsome⟩

theorem triple_onSession {x : Searching α}
    (h : ∀ w journal, pre w journal → ∃ e, w.entries.lookup goal = some e ∧
      ∀ w' : SearchPort, w'.owner = w.owner →
        w'.entries.lookup goal = some { e with session := (x.on e.session).2 } →
          match (x.on e.session).1 with
          | .ok value => post value w' journal
          | .error error => raised error w' journal) :
    Triple (conduct SearchCall SearchCall.Reply) pre (onSession goal x) post raised := by
  refine bind (triple_known fun w journal hw => (h w journal hw).imp fun _ h => h.1)
    fun e => ?_
  refine bind (M := fun _ w' journal => match (x.on e.session).1 with
    | .ok value => post value w' journal
    | .error error => raised error w' journal) (triple_modify fun w journal hw => ?_) fun _ => ?_
  · obtain ⟨hpre, hlookup⟩ := hw
    obtain ⟨e', hlookup', hafter⟩ := h w journal hpre
    obtain rfl := Option.some.inj (hlookup.symm.trans hlookup')
    exact hafter _ (owner_update w goal _) ((lookup_update hlookup _ goal).trans (if_pos rfl))
  · refine triple_expect (fun value hvalue w journal hw => ?_) fun error herror w journal hw => ?_
    · rw [hvalue] at hw
      exact hw
    · rw [herror] at hw
      exact hw

theorem restsAt_of_missing {w : SearchPort} (h : w.entries.lookup goal = none) :
    RestsAt goal w := by
  intro e hlookup
  exact nomatch h.symm.trans hlookup

theorem restsAt_of_live {w : SearchPort} {e : SearchEntry} (h : w.entries.lookup goal = some e)
    (hlive : ¬ e.session.state.Terminal) : RestsAt goal w := by
  intro e' hlookup hterminal
  obtain rfl := Option.some.inj (h.symm.trans hlookup)
  exact absurd hterminal hlive

theorem deliver_rests {target : Option SearchTarget} :
    Triple (conduct SearchCall SearchCall.Reply)
      (fun w _ => w.owner = none ∧ Present goal w) (deliver goal target)
      (fun _ w _ => RestsAt goal w) fun _ w _ => RestsAt goal w := by
  refine bind (M := fun _ w _ => w.owner = none ∧ Present goal w)
    (triple_invoke (fun _ _ _ h => h) fun _ _ _ h => h).attempt fun reply => ?_
  split
  · refine bind (M := fun _ w _ => RestsAt goal w) (triple_modify fun w _ h => ?_) fun _ =>
      triple_pure fun _ _ h => h
    obtain ⟨howner, e, hlookup⟩ := h
    intro e' hlookup' _
    rw [lookup_update hlookup, if_pos rfl] at hlookup'
    obtain rfl := Option.some.inj hlookup'
    rw [owner_update, howner]
    exact ⟨nofun, fun _ => rfl⟩
  · refine bind (M := fun _ w _ => Present goal w) (triple_modify fun w _ h => h.2) fun _ =>
      bind (M := fun _ w _ => RestsAt goal w) (triple_onSession ?_) fun _ =>
        triple_pure fun _ _ h => h
    rintro w _ ⟨e, hlookup⟩
    refine ⟨e, hlookup, fun w' _ hlookup' => restsAt_of_live hlookup' ?_⟩
    exact not_terminal_of_stopping (stopped_state _ _ _)

/-- **Where a poll concludes**, the goal owns nothing or has not come to its end. -/
theorem conclude_rests :
    Triple (conduct SearchCall SearchCall.Reply) (fun w _ => Present goal w) (conclude goal)
      (fun _ w _ => RestsAt goal w) fun _ w _ => RestsAt goal w := by
  refine bind (triple_known fun _ _ h => h) fun e => triple_ite (fun hlive => ?_)
    fun hterminal => ?_
  · exact triple_pure fun _ _ h => restsAt_of_live h.2 hlive
  · refine bind (M := fun _ w _ => w.owner = none ∧ w.entries.lookup goal = some e)
      (triple_modify fun _ _ h => ⟨rfl, h.2⟩) fun _ => triple_ite (fun hfound => ?_) fun hfound => ?_
    · refine triple_ite (fun hdelivered => triple_pure ?_) fun _ =>
        deliver_rests.conseq (fun _ _ h => ⟨h.1, e, h.2⟩) (fun _ _ _ h => h) fun _ _ _ h => h
      rintro w _ ⟨howner, hlookup⟩ e' hlookup' -
      obtain rfl := Option.some.inj (hlookup.symm.trans hlookup')
      exact ⟨by rw [howner]; exact nofun, fun _ => hdelivered⟩
    · refine triple_pure ?_
      rintro w _ ⟨howner, hlookup⟩ e' hlookup' -
      obtain rfl := Option.some.inj (hlookup.symm.trans hlookup')
      exact ⟨by rw [howner]; exact nofun, fun h => absurd h hfound⟩

/-- The entry is there, and of a session that has not come to its end. -/
def Live (goal : String) (w : SearchPort) : Prop :=
  ∃ e, w.entries.lookup goal = some e ∧ ¬ e.session.state.Terminal

theorem Live.present {w : SearchPort} (h : Live goal w) : Present goal w := h.imp fun _ h => h.1

theorem launch_rests :
    Triple (conduct SearchCall SearchCall.Reply) (fun w _ => Live goal w)
      (launch views goal action)
      (fun launched w _ => Present goal w ∧ (launched = false → Live goal w)) fun _ w _ =>
        Present goal w := by
  refine bind (M := fun _ w _ => Live goal w)
    ((triple_known fun _ _ h => Live.present h).conseq (fun _ _ h => h) (fun _ _ _ h => h.1)
      fun _ _ _ h => h) fun e => triple_ite (fun _ => triple_pure fun _ _ h => ⟨h.present, nofun⟩)
    fun _ => bind (M := fun _ w _ => Live goal w)
      (triple_invoke (fun _ _ _ h => h) fun _ _ _ h => h.present) fun ready =>
    triple_ite (fun _ => triple_pure fun _ _ h => ⟨h.present, fun _ => h⟩) fun _ => ?_
  exact bind (M := fun _ w _ => Present goal w)
    ((triple_present (keeps_amend _)).conseq (fun _ _ h => Live.present h) (fun _ _ _ h => h)
      fun _ _ _ h => h) fun _ => bind (M := fun _ w _ => Present goal w)
    (triple_present (keeps_expect _)) fun _ => bind (M := fun _ w _ => Present goal w)
    (triple_present (keeps_invoke fun _ => trivial)) fun _ => triple_pure fun _ _ h => ⟨h, nofun⟩

/-- A poll that ends early is one of a session that goes on. -/
theorem advance_rests {now : Scalar} :
    Triple (conduct SearchCall SearchCall.Reply) (fun w _ => Present goal w)
      (advance views goal now)
      (fun ended w _ => Present goal w ∧ (ended.isSome → Live goal w)) fun _ w _ =>
        Present goal w := by
  refine bind (M := fun _ w _ => Present goal w)
    (triple_present (keeps_invoke fun _ => trivial)) fun motion =>
    bind (M := fun action w _ => Present goal w ∧ (action.isSome → Live goal w))
      (triple_onSession ?_) fun action => ?_
  · rintro w _ ⟨e, hlookup⟩
    refine ⟨e, hlookup, fun w' _ hlookup' => ?_⟩
    rcases hpoll : (SearchSession.poll motion now).on e.session with ⟨error | action, s'⟩
    · exact ⟨_, hlookup'⟩
    · refine ⟨⟨_, hlookup'⟩, fun hsome => ⟨_, hlookup', ?_⟩⟩
      obtain ⟨action, rfl⟩ := Option.isSome_iff_exists.mp hsome
      rw [hpoll]
      exact poll_some hpoll
  · split
    · exact triple_pure fun _ _ h => ⟨h.1, nofun⟩
    next action =>
      refine triple_ite (fun _ => ?_) fun _ => bind (M := fun launched w _ =>
          Present goal w ∧ (launched = false → Live goal w)) ?_ fun launched =>
        triple_ite (fun _ => ?_) fun hnot => triple_pure fun _ _ h => ⟨h.1, fun _ => h.2 ?_⟩
      · exact bind ((triple_present keeps_halt).conseq (fun _ _ h => h.1) (fun _ _ _ h => h)
          fun _ _ _ h => h) fun _ => triple_pure fun _ _ h => ⟨h, nofun⟩
      · exact launch_rests.conseq (fun _ _ h => h.2 rfl) (fun _ _ _ h => h) fun _ _ _ h => h
      · exact bind ((triple_present keeps_follow).conseq (fun _ _ h => h.1)
          (fun _ _ _ h => h) fun _ _ _ h => h) fun _ => triple_pure fun _ _ h => ⟨h, nofun⟩
      · exact Bool.not_eq_true _ ▸ hnot

theorem poll_rests :
    Triple (conduct SearchCall SearchCall.Reply) (fun w _ => RestsAt goal w) (poll views goal)
      (fun _ w _ => RestsAt goal w) fun _ w _ => RestsAt goal w := by
  refine bind (M := fun _ w _ => RestsAt goal w ∧ Present goal w)
    (triple_find.conseq (fun _ _ h => h) (fun e _ _ h => ⟨h.1, e, h.2⟩) fun _ _ _ h => h) fun _ =>
    bind (M := fun _ w _ => Present goal w)
      (triple_invoke (fun _ _ _ h => h.2) fun _ _ _ h => h.1) fun now =>
    bind (M := fun ended w _ => Present goal w ∧ (ended.isSome → Live goal w))
      (tryCatch advance_rests fun error => ?_) fun ended => ?_
  · refine bind (M := fun _ w _ => Present goal w) (triple_onSession ?_) fun _ =>
      triple_pure fun _ _ h => ⟨h, nofun⟩
    rintro w _ ⟨e, hlookup⟩
    exact ⟨e, hlookup, fun _ _ hlookup' => ⟨_, hlookup'⟩⟩
  · split
    · refine triple_pure fun _ _ h => ?_
      obtain ⟨e, hlookup, hlive⟩ := h.2 rfl
      exact restsAt_of_live hlookup hlive
    · exact conclude_rests.conseq (fun _ _ h => h.1) (fun _ _ _ h => h) fun _ _ _ h => h

theorem cancel_rests :
    Triple (conduct SearchCall SearchCall.Reply) (fun w _ => RestsAt goal w) (cancel goal)
      (fun _ w _ => RestsAt goal w) fun _ w _ => RestsAt goal w := by
  refine bind (M := fun _ w _ => RestsAt goal w ∧ Present goal w)
    (triple_find.conseq (fun _ _ h => h) (fun e _ _ h => ⟨h.1, e, h.2⟩) fun _ _ _ h => h) fun _ =>
    bind (M := fun _ w _ => RestsAt goal w ∧ Present goal w)
      (triple_invoke (fun _ _ _ h => h) fun _ _ _ h => h.1) fun now => triple_onSession ?_
  rintro w _ ⟨hrests, e, hlookup⟩
  refine ⟨e, hlookup, fun w' howner hlookup' => ?_⟩
  have hafter : RestsAt goal w' := by
    rcases cancel_cases e.session now with hsame | ⟨time, hsame⟩ | hstopping
    · intro e' h' hterminal
      obtain rfl := Option.some.inj (hlookup'.symm.trans h')
      simp only [hsame] at hterminal ⊢
      rw [howner]
      exact hrests e hlookup hterminal
    · intro e' h' hterminal
      obtain rfl := Option.some.inj (hlookup'.symm.trans h')
      simp only [hsame] at hterminal ⊢
      rw [howner]
      exact hrests e hlookup hterminal
    · exact restsAt_of_live hlookup' (not_terminal_of_stopping hstopping)
  split
  · exact hafter
  · exact hafter

theorem start_rests :
    Triple (conduct SearchCall SearchCall.Reply) (fun w _ => RestsAt goal w)
      (start goal parameters) (fun _ w _ => RestsAt goal w) fun _ w _ => RestsAt goal w := by
  refine bind (M := fun _ w _ => RestsAt goal w) ?_ fun ready => triple_get_bind fun w₀ =>
    triple_ite (fun _ => triple_throw fun _ _ h => h.2) fun _ =>
    bind (M := fun _ w _ => RestsAt goal w)
      (triple_invoke (fun _ _ _ h => h.2) fun _ _ _ h => h.2) fun now =>
    bind (M := fun _ w _ => RestsAt goal w)
      (triple_invoke (fun _ _ _ h => h) fun _ _ _ h => h) fun document =>
    bind (M := fun session w _ => RestsAt goal w ∧ session.state = .selectView)
      (triple_expect (fun _ hcreate _ _ h => ⟨h, create_state hcreate⟩)
        fun _ _ _ _ h => h) fun session => triple_modify fun w _ h => ?_
  · exact triple_kept (F := still) (keeps_ready fun _ _ => id) fun _ _ hsame h => hsame ▸ h
  · refine restsAt_of_live (AList.lookup_insert _) ?_
    rw [h.2]
    decide

variable {w' : SearchPort}

/-- What is done to the goals it is not on, an operation leaves as it was. -/
theorem restsAt_touched {w : SearchPort} {other : String} (h : Touched goal w w')
    (hother : other ≠ goal) (hrests : RestsAt other w) : RestsAt other w' := by
  intro e hlookup hterminal
  rw [h.others other hother] at hlookup
  obtain ⟨howner, hdelivered⟩ := hrests e hlookup hterminal
  refine ⟨?_, hdelivered⟩
  rcases h.owner with h' | h' | h'
  · rwa [h']
  · rw [h']
    exact nofun
  · rw [h']
    exact fun hsame => hother (Option.some.inj hsame).symm

variable {w : SearchPort × SearchJournal} {oracle : Oracle SearchCall SearchCall.Reply}

theorem op_still (h : op = .ready ∨ ∃ goal, op = .phaseSafe goal) :
    (op.action views).Keeps still := by
  rcases h with rfl | ⟨goal, rfl⟩
  · exact (keeps_ready fun _ _ => id).bind fun _ => keeps_pure _
  · exact (keeps_phaseSafe fun _ _ => id).bind fun _ => keeps_pure _

/-- An operation on a goal, where the goal itself is kept at rest. -/
theorem rests_of_own (hgoal : op.goal = some goal)
    (hown : Triple (conduct SearchCall SearchCall.Reply) (fun w _ => RestsAt goal w) (op.action views) (fun _ w _ => RestsAt goal w) fun _ w _ => RestsAt goal w)
    (h : Rests w.1) : Rests (consult (SearchOp.action views) w (op, oracle)).1 := by
  intro other
  by_cases hother : other = goal
  · subst hother
    exact consulted hown oracle (h other)
  · have htouched := (Keeps.consulted (A := SearchOp.action views) (keeps_op fun other' h' =>
      Option.some.inj (h'.symm.trans hgoal)) w oracle).1
    exact restsAt_touched htouched hother (h other)

/-- **A goal at its end owns nothing**, whatever is done next. -/
theorem step_rests (h : Rests w.1) (op : SearchOp × Oracle SearchCall SearchCall.Reply) :
    Rests (consult (SearchOp.action views) w op).1 := by
  obtain ⟨op, oracle⟩ := op
  cases op with
  | ready =>
    rw [((Keeps.consulted (op_still (.inl rfl)) w oracle).1 : _ = _)]
    exact h
  | phaseSafe goal =>
    rw [((Keeps.consulted (op_still (.inr ⟨goal, rfl⟩)) w oracle).1 : _ = _)]
    exact h
  | start goal parameters => exact rests_of_own rfl start_rests h
  | poll goal => exact rests_of_own rfl (poll_rests.bind fun _ => triple_pure fun _ _ h => h) h
  | cancel goal => exact rests_of_own rfl cancel_rests h

/-! ## 5. What is done to a goal at its end -/

variable {e : SearchEntry}

theorem settled_touched {w : SearchPort} {other : String} (h : Touched goal w w')
    (hother : other ≠ goal) (hsettled : Settled w other e) : Settled w' other e := by
  refine ⟨(h.others other hother).trans hsettled.1, hsettled.2.1, ?_⟩
  rcases h.owner with h' | h' | h'
  · rw [h']
    exact hsettled.2.2
  · rw [h']
    exact nofun
  · rw [h']
    exact fun hsame => hother (Option.some.inj hsame).symm

theorem start_settled {w₀ : SearchPort} (h : w₀.entries.lookup goal = some e) :
    Triple (conduct SearchCall SearchCall.Reply) (fun w _ => w = w₀) (start goal parameters)
      (fun _ w _ => w = w₀) fun _ w _ => w = w₀ := by
  refine bind (triple_kept (F := still) (keeps_ready fun _ _ => id) fun _ _ hsame h =>
    hsame.trans h) fun ready => triple_get_bind fun w =>
      triple_ite (fun _ => triple_throw fun _ _ h => h.2) fun hnew => ?_
  rintro _ journal ⟨rfl, rfl⟩
  exact absurd (.inr (.inl (by rw [h]; rfl))) hnew

theorem cancel_settled :
    Triple (conduct SearchCall SearchCall.Reply) (fun w _ => Settled w goal e) (cancel goal)
      (fun _ w _ => ∃ time, Settled w goal (noted e time)) fun _ w _ =>
        ∃ time, Settled w goal (noted e time) := by
  have hstays : ∀ w, Settled w goal e → ∃ time, Settled w goal (noted e time) :=
    fun w h => ⟨e.session.now, h⟩
  refine bind (M := fun _ w _ => Settled w goal e)
    (triple_find.conseq (fun _ _ h => h) (fun _ _ _ h => h.1) fun _ w _ h => hstays w h) fun _ =>
    bind (M := fun _ w _ => Settled w goal e)
      (triple_invoke (fun _ _ _ h => h) fun w _ _ h => hstays w h) fun now => triple_onSession ?_
  rintro w _ ⟨hlookup, hterminal, howner⟩
  refine ⟨e, hlookup, fun w' howner' hlookup' => ?_⟩
  have hafter : ∃ time, Settled w' goal (noted e time) := by
    rw [← howner'] at howner
    by_cases ht : ∃ time, e.session.Timely now time
    · obtain ⟨time, ht⟩ := ht
      refine ⟨time, ?_, hterminal, howner⟩
      rw [hlookup', cancel_of_timely hterminal ht]
      rfl
    · obtain ⟨raised, hcancel⟩ := cancel_of_not_timely ht
      refine ⟨e.session.now, ?_, hterminal, howner⟩
      rw [hlookup', hcancel]
      rfl
  split
  · exact hafter
  · exact hafter

section Serve

variable {w : SearchPort} {journal : SearchJournal} {now : Scalar}

theorem perform_onSession {x : Searching α} {result : Except Raised α} {s' : SearchSession}
    (h : w.entries.lookup goal = some e) (hx : x.on e.session = (result, s')) :
    (onSession goal x).perform oracle.serve w journal =
      ((result, w.update goal fun e => { e with session := s' }), journal) := by
  rw [onSession, perform_bind_ok (perform_entry h), amend, perform_modify_bind, perform_expect, hx]

/-- A poll that fails on its way stops the session, whatever its state. -/
theorem poll_stops {error : Raised} {journal' : SearchJournal}
    (h : w.entries.lookup goal = some e) (hclock : oracle .clock journal = .ok now)
    (hadvance : (advance views goal now).perform oracle.serve w (⟨.clock, .ok now⟩ :: journal) =
      ((.error error, w'), journal')) (hpresent : Present goal w') :
    ∃ e', ((poll views goal).perform oracle.serve w journal).1.2.entries.lookup goal = some e' ∧
      e'.session.state = .stopping := by
  obtain ⟨e₁, h₁⟩ := hpresent
  have hcaught := (perform_tryCatch_error (g := fun error => do
    onSession goal (stop ("search_adapter_error:" ++ error.text) .failed)
    return none) hadvance).trans (perform_bind_ok (perform_onSession h₁ rfl))
  have hlookup : ∀ f, (w'.update goal f).entries.lookup goal = some (f e₁) := fun f =>
    (lookup_update h₁ f goal).trans (if_pos rfl)
  have hstopping := stopped_state e₁.session ("search_adapter_error:" ++ error.text)
    .failed
  have hconclude : ∀ w journal e, w.entries.lookup goal = some e → e.session.state = .stopping →
      ((conclude goal).perform oracle.serve w journal).1.2 = w := by
    intro w journal e hlookup hstopping
    rw [conclude, perform_bind_ok (perform_entry hlookup),
      if_pos (not_terminal_of_stopping hstopping)]
    rfl
  refine ⟨{ e₁ with session := e₁.session.stopped _ _ }, ?_, hstopping⟩
  rw [poll, perform_bind_ok (perform_entry h), perform_bind_ok (perform_invoke_ok hclock),
    perform_bind_ok hcaught, hconclude _ _ _ (hlookup _) hstopping, hlookup]

/-- A poll that cannot tell the time or is given no feedback. -/
theorem poll_unanswered (views : List (String × String)) (h : w.entries.lookup goal = some e)
    (hclock : oracle .clock journal = .ok now)
    (hnot : ¬ ((∃ time, e.session.Timely now time) ∧
      ∃ motion, oracle .motion (⟨.clock, .ok now⟩ :: journal) = .ok motion)) :
    ∃ e', ((poll views goal).perform oracle.serve w journal).1.2.entries.lookup goal = some e' ∧
      e'.session.state = .stopping := by
  cases hmotion : oracle .motion (⟨.clock, .ok now⟩ :: journal) with
  | error error =>
    exact poll_stops h hclock (perform_bind_error (perform_invoke_error hmotion)) ⟨e, h⟩
  | ok motion =>
    have hlate : ¬ ∃ time, e.session.Timely now time := fun ht => hnot ⟨ht, motion, hmotion⟩
    obtain ⟨error, hpoll⟩ := poll_of_not_timely motion hlate
    have hadvance : (advance views goal now).perform oracle.serve w (⟨.clock, .ok now⟩ :: journal) =
        ((.error error, w.update goal fun e' => { e' with session := e.session }),
          ⟨.motion, .ok motion⟩ :: ⟨.clock, .ok now⟩ :: journal) := by
      rw [advance, perform_bind_ok (perform_invoke_ok hmotion)]
      exact perform_bind_error (perform_onSession h hpoll)
    exact poll_stops h hclock hadvance ⟨_, (lookup_update h _ goal).trans (if_pos rfl)⟩

theorem poll_answered (views : List (String × String)) {time : ℚ} (h : Settled w goal e)
    (hdelivered : e.session.state = .found → e.delivered = true)
    (hclock : oracle .clock journal = .ok now) (ht : e.session.Timely now time)
    (hmotion : oracle .motion (⟨.clock, .ok now⟩ :: journal) = .ok motion) :
    ∃ result, (poll views goal).perform oracle.serve w journal =
      ((.ok result, { w.update goal (fun e' => { e' with
        session := { e.session with now := time } }) with owner := none }),
        ⟨.motion, .ok motion⟩ :: ⟨.clock, .ok now⟩ :: journal) := by
  have hadvance : (advance views goal now).perform oracle.serve w (⟨.clock, .ok now⟩ :: journal) =
      ((.ok none, w.update goal fun e' => { e' with session := { e.session with now := time } }),
        ⟨.motion, .ok motion⟩ :: ⟨.clock, .ok now⟩ :: journal) := by
    rw [advance, perform_bind_ok (perform_invoke_ok hmotion),
      perform_bind_ok (perform_onSession h.1 (poll_of_timely h.2.1 ht))]
    rfl
  have hlookup : (w.update goal fun e' => { e' with
      session := { e.session with now := time } }).entries.lookup goal =
        some { e with session := { e.session with now := time } } :=
    (lookup_update h.1 _ goal).trans (if_pos rfl)
  have hconclude : ∀ w journal, w.entries.lookup goal =
      some { e with session := { e.session with now := time } } → ∃ result,
        (conclude goal).perform oracle.serve w journal =
          ((.ok result, { w with owner := none }), journal) := by
    intro w journal hlookup
    rw [conclude, perform_bind_ok (perform_entry hlookup), if_neg (not_not.mpr h.2.1),
      perform_modify_bind]
    split
    next hfound =>
      rw [if_pos (hdelivered hfound)]
      exact ⟨_, rfl⟩
    next => exact ⟨_, rfl⟩
  obtain ⟨result, hend⟩ := hconclude _ (⟨.motion, .ok motion⟩ :: ⟨.clock, .ok now⟩ :: journal)
    hlookup
  refine ⟨result, ?_⟩
  rw [poll, perform_bind_ok (perform_entry h.1), perform_bind_ok (perform_invoke_ok hclock),
    perform_bind_ok (perform_tryCatch_ok hadvance), hend]

end Serve

theorem consult_poll : consult (SearchOp.action views) w (.poll goal, oracle) =
    (((poll views goal).perform oracle.serve w.1 w.2).1.2,
      ((poll views goal).perform oracle.serve w.1 w.2).2) := by
  rcases h : (poll views goal).perform oracle.serve w.1 w.2 with ⟨⟨error | result, w'⟩, journal⟩
  · rw [consult, SearchOp.action, perform_bind_error h]
  · rw [consult, SearchOp.action, perform_bind_ok h]
    rfl

/-- What is said of the goal itself, the others being left alone. -/
theorem absorbs_of_own {op : SearchOp} (hgoal : op.goal = some goal)
    (hown : ∀ e, Settled w.1 goal e →
      (∃ time, Settled (consult (SearchOp.action views) w (op, oracle)).1 goal
        (noted e time)) ∧
      ∃ added, (consult (SearchOp.action views) w (op, oracle)).2 = added ++ w.2 ∧
        ∀ entry ∈ added, ¬ entry.call.Acts) : Absorbs views w (op, oracle) := by
  intro other e hsettled
  by_cases hother : other = goal
  · subst hother
    exact ⟨(hown e hsettled).1, fun _ => (hown e hsettled).2⟩
  · have htouched := (Keeps.consulted (A := SearchOp.action views) (keeps_op fun other' h' =>
      Option.some.inj (h'.symm.trans hgoal)) w oracle).1
    exact ⟨⟨e.session.now, settled_touched htouched hother hsettled⟩, fun hsame =>
      absurd (Option.some.inj (hsame.symm.trans hgoal)) hother⟩

theorem absorbs_still (h : op = .ready ∨ ∃ goal, op = .phaseSafe goal) :
    Absorbs views w (op, oracle) := by
  obtain ⟨hsame, hsilent⟩ := Keeps.consulted (op_still h) w oracle
  intro goal e hsettled
  refine ⟨⟨e.session.now, ?_⟩, fun _ => hsilent⟩
  rw [(hsame : _ = w.1)]
  exact hsettled

theorem poll_absorbs_iff (h : Rests w.1) :
    Absorbs views w (.poll goal, oracle) ↔ Answered w (.poll goal, oracle) := by
  constructor
  · rintro habsorbs _ e now ⟨⟩ hsettled hclock
    by_contra hnot
    obtain ⟨e', hlookup, hstopping⟩ := poll_unanswered views hsettled.1 hclock hnot
    obtain ⟨⟨time, hlookup', hterminal, -⟩, -⟩ := habsorbs goal e hsettled
    rw [consult_poll] at hlookup'
    obtain rfl := Option.some.inj (hlookup.symm.trans hlookup')
    exact not_terminal_of_stopping hstopping hterminal
  · intro hanswered
    refine absorbs_of_own rfl fun e hsettled => ?_
    rw [consult_poll]
    cases hclock : oracle .clock w.2 with
    | error error =>
      have hend : (poll views goal).perform oracle.serve w.1 w.2 =
          ((.error error, w.1), ⟨.clock, .error error⟩ :: w.2) := by
        rw [poll, perform_bind_ok (perform_entry hsettled.1)]
        exact perform_bind_error (perform_invoke_error hclock)
      rw [hend]
      refine ⟨⟨e.session.now, hsettled⟩, [⟨.clock, .error error⟩], rfl, fun entry hmem => ?_⟩
      rw [List.mem_singleton.mp hmem]
      exact id
    | ok now =>
      obtain ⟨⟨time, ht⟩, motion, hmotion⟩ := hanswered goal e now rfl hsettled hclock
      obtain ⟨result, hend⟩ := poll_answered views hsettled
        (h goal e hsettled.1 hsettled.2.1).2 hclock ht hmotion
      rw [hend]
      refine ⟨⟨time, (lookup_update hsettled.1 _ goal).trans (if_pos rfl), hsettled.2.1, nofun⟩,
        [⟨.motion, .ok motion⟩, ⟨.clock, .ok now⟩], rfl, fun entry hmem => ?_⟩
      rcases List.mem_cons.mp hmem with rfl | hmem
      · exact id
      · rw [List.mem_singleton.mp hmem]
        exact id

/-- **Step lemma.** An operation lets the goals at their end be exactly if it is answered. -/
theorem absorbs_iff (h : Rests w.1) (op : SearchOp × Oracle SearchCall SearchCall.Reply) :
    Absorbs views w op ↔ Answered w op := by
  obtain ⟨op, oracle⟩ := op
  cases op with
  | ready => exact ⟨fun _ _ _ _ => nofun, fun _ => absorbs_still (.inl rfl)⟩
  | phaseSafe goal => exact ⟨fun _ _ _ _ => nofun, fun _ => absorbs_still (.inr ⟨goal, rfl⟩)⟩
  | poll goal => exact poll_absorbs_iff h
  | start goal parameters =>
    refine ⟨fun _ _ _ _ => nofun, fun _ => absorbs_of_own rfl fun e hsettled => ?_⟩
    refine ⟨⟨e.session.now, ?_⟩, (Keeps.consulted keeps_start w oracle).2⟩
    have hsame : (consult (SearchOp.action views) w (.start goal parameters, oracle)).1 = w.1 :=
      consulted (start_settled hsettled.1) oracle rfl
    rw [hsame]
    exact hsettled
  | cancel goal =>
    refine ⟨fun _ _ _ _ => nofun, fun _ => absorbs_of_own rfl fun e hsettled => ?_⟩
    exact ⟨consulted cancel_settled oracle hsettled,
      (Keeps.consulted keeps_cancel w oracle).2⟩

/-! ## 6. Every run -/

theorem rests_empty : Rests Registry.empty := by
  intro goal
  exact restsAt_of_missing (AList.lookup_empty goal)

/-- **When the end is the end.** All along a run no operation changes a goal at its end or has
something done for it, exactly if every poll of such a goal that gets a time gets one that has not
gone backwards and is given the feedback of the motion. -/
theorem search_absorbing_iff (views : List (String × String))
    (l : List (SearchOp × Oracle SearchCall SearchCall.Reply)) :
    Along (consult (SearchOp.action views)) (Absorbs views) (Registry.empty, []) l ↔
      Along (consult (SearchOp.action views)) Answered (Registry.empty, []) l :=
  along_congr_of (I := fun w : SearchPort × SearchJournal => Rests w.1)
    (fun _ op h => step_rests h op) (fun _ op h => absorbs_iff h op) l rests_empty

/-! ## 7. A search that is stopped twice -/

def tableCamera : CapturePolicy where
  model := "D415"
  cameraFrame := "camera"
  rootFrame := "base_link"
  calibrationId := "cal"
  width := 1280
  height := 720
  minimumDepth := 1 / 2
  maximumDepth := 3
  settle := 1 / 4
  maximumAge := 1 / 2
  maximumTfSkew := 1 / 50
  positive := by decide +kernel
  limits := by decide +kernel

def tableSearch : SearchDocument where
  runId := "task/search"
  objectId := "cup"
  location := "kitchen"
  sceneRevision := "r1"
  views := [⟨"table", "kitchen", ["left"]⟩]
  camera := tableCamera
  now := .finite 0
  timeout := .finite 120
  capturesPerView := 2
  minimumConfidence := .finite (7 / 10)

/-- At a given time everything answers, the platform stands still and the stop is confirmed; the
feedback of the motion may be missing. -/
def answers (time : ℚ) (motion : Except Raised MotionEvidence) :
    Oracle SearchCall SearchCall.Reply
  | .makeSession .., _ => .ok tableSearch
  | .clock, _ => .ok (.finite time)
  | .motion, _ => motion
  | .ready _, _ | .phaseSafe _, _ => .ok true
  | .start .., _ | .cancel .., _ | .stopRequest .., _ | .sink _, _ => .ok ()
  | .poll .., _ => .ok ⟨.running, ""⟩
  | .result _, _ => .error ⟨"KeyError", "no capture"⟩
  | .stopPoll action _, _ =>
    .ok ⟨action, .finite time, .stopped, [("arms_holding", true)], ""⟩

def standing (time : ℚ) : Except Raised MotionEvidence :=
  .ok ⟨.finite time, .finite 0, "pose", true, true⟩

def noOdometry : Except Raised MotionEvidence := .error ⟨"TimeoutError", "no odometry"⟩

/-- A search is started, cancelled and stopped. -/
def stoppedSearch : List (SearchOp × Oracle SearchCall SearchCall.Reply) := [
  (.start "search" "", answers 0 (standing 0)),
  (.cancel "search", answers 1 (standing 1)),
  (.poll "search", answers 2 (standing 2))]

/-- Polled once more without feedback of the motion, the search that was cancelled stops again. -/
theorem cancelled_search_stops_again :
    ¬ ∀ (views : List (String × String))
      (l : List (SearchOp × Oracle SearchCall SearchCall.Reply)),
      Along (consult (SearchOp.action views)) (Absorbs views) (Registry.empty, []) l := by
  intro h
  have hlast := h [] (stoppedSearch ++ [(.poll "search", answers 3 noOdometry)])
  rw [along_append] at hlast
  have hbefore : ((run (consult (SearchOp.action [])) (Registry.empty, [])
      stoppedSearch).1.entries.lookup "search").map (·.session.state) = some .cancelled := by
    decide +kernel
  have howner : (run (consult (SearchOp.action [])) (Registry.empty, [])
      stoppedSearch).1.owner = none := by
    decide +kernel
  have hafter : ((consult (SearchOp.action []) (run (consult (SearchOp.action []))
      (Registry.empty, []) stoppedSearch) (.poll "search", answers 3 noOdometry)).1.entries.lookup
        "search").map (·.session.state) = some .stopping := by
    decide +kernel
  obtain ⟨e, hlookup, hstate⟩ := Option.map_eq_some_iff.mp hbefore
  obtain ⟨⟨time, hlookup', -, -⟩, -⟩ := hlast.2.1 "search" e
    ⟨hlookup, by rw [hstate]; decide, by rw [howner]; exact nofun⟩
  rw [hlookup'] at hafter
  exact absurd ((Option.some.inj hafter).symm.trans hstate) nofun

end SearchPort

end MobileBimanual.Tasks
