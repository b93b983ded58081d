/-
# How much a search may ask for

Whatever happens to a session, in whatever order, is a chain of a few kinds of change (`Change`):
it goes to a view only where it has not been, captures only where it has settled and not captured
as often as it may, and asks for a stop only while it is under way.  `Bounded` says what the chains
keep of the history, which lists everything that was asked for, and `search_bounded` what follows
for the sums.

A session can be stopped once more after its end, by the handler of the port that carries it out;
`late` counts these calls.
-/
import Mathlib.Algebra.Order.BigOperators.Group.Finset
import Mathlib.Logic.Relation
import MobileBimanual.Tasks.SearchSafety

namespace MobileBimanual.Tasks

open Machine

/-- What may happen to a session; the last is what the port does to it when something fails. -/
inductive SearchInput where
  | poll (motion : MotionEvidence) (now : Scalar)
  | arrive (actionId : String) (motion : MotionEvidence) (now : Scalar)
      (viewReached backendIdle : Bool)
  | skipUnavailable (actionId : String) (motion : MotionEvidence) (now : Scalar)
      (backendIdle : Bool)
  | observe (actionId : String) (observation : SearchSession.Observation) (motion : MotionEvidence)
      (now : Scalar)
  | cancel (now : Scalar)
  | invalidateScene (sceneRevision : String) (now : Scalar)
  | confirmStop (actionId : String) (motion : MotionEvidence) (now : Scalar)
      (backendIdle armsHolding : Bool)
  | stop (reason : String) (destination : StopDestination)

def SearchInput.isStop : SearchInput → Bool
  | .stop .. => true
  | _ => false

namespace SearchSession

def SearchInput.action : SearchInput → Searching Unit
  | .poll motion now => do let _ ← poll motion now
  | .arrive actionId motion now viewReached backendIdle =>
    arrive actionId motion now viewReached backendIdle
  | .skipUnavailable actionId motion now backendIdle =>
    skipUnavailable actionId motion now backendIdle
  | .observe actionId observation motion now => do
    let _ ← observe actionId observation motion now
  | .cancel now => cancel now
  | .invalidateScene sceneRevision now => invalidateScene sceneRevision now
  | .confirmStop actionId motion now backendIdle armsHolding =>
    confirmStop actionId motion now backendIdle armsHolding
  | .stop reason destination => stop reason destination

/-- What happens to the session, whether it raises or not. -/
def step (s : SearchSession) (input : SearchInput) : SearchSession :=
  ((SearchInput.action input).on s).2

/-- The views for which something was asked, in order. -/
def asked (kind : SearchKind) (s : SearchSession) : List (Option String) :=
  s.history.filterMap fun
    | .action kind' viewId _ => if kind' = kind then some viewId else none
    | _ => none

/-- How often a session was stopped at its end. -/
def late : SearchSession → List SearchInput → ℕ
  | _, [] => 0
  | s, input :: l =>
    (if s.state.Terminal ∧ input.isStop then 1 else 0) + late (s.step input) l

/-- The action under way. -/
def Does (s : SearchSession) (kind : SearchKind) : Prop :=
  ∃ action, s.action = some action ∧ action.kind = kind

/-! ## 1. What may change -/

/-- What may change but by an observation that is used. -/
inductive Change (s : SearchSession) : SearchSession → Prop
  | note (time : ℚ) : Change s { s with now := time }
  | stop (reason : String) (destination : StopDestination)
      (hlive : ¬ s.state.Terminal ∨ s.Does .captureRgbd) : Change s (s.stopped reason destination)
  | exhaust (hselect : s.state = .selectView) :
    Change s { s with state := .notFoundUnconfirmed, reason := "viewpoints_exhausted" }
  | go (view : Viewpoint) (hselect : s.state = .selectView) (hnext : s.nextView = some view) :
    Change s ({ s with view := some view, captures := 0, state := .moving }.issued .moveToView)
  | arrive (pose : Option String) (haction : s.Does .moveToView) :
    Change s { s with poseRevision := pose, action := none, state := .settling }
  | skip (haction : s.Does .moveToView) :
    Change s
      { s with history := s.history ++ [SearchEvent.viewUnavailable s.viewId] }.leftView
  | capture (hsettling : s.state = .settling) :
    Change s ({ s with state := .observing }.issued .captureRgbd)
  | reject (reason : String) (haction : s.Does .captureRgbd) : Change s (s.rejected reason)
  | confirm (haction : s.Does .stopSearch) :
    Change s { s with state := s.stopDestination.searchState, action := none }

abbrev Changes := Relation.ReflTransGen Change

variable {s t : SearchSession} {now : Scalar}

/-- The clock raises, notes the time, or stops a session that is late. -/
theorem clock_spec (s : SearchSession) (now : Scalar) :
    (∃ raised, (clock now).on s = (.error raised, s)) ∨
    (∃ time, number "now" now = .ok time ∧ (clock now).on s = (.ok ⟨⟩, { s with now := time })) ∨
    ∃ time, ¬ s.state.Terminal ∧ s.state ≠ .stopping ∧ (clock now).on s =
      (.ok ⟨⟩, { s with now := time }.stopped "search_timeout" .failed) := by
  cases hnumber : number "now" now with
  | error raised => exact .inl ⟨raised, by simp [clock, hnumber]⟩
  | ok time =>
    by_cases hback : time < s.now
    · exact .inl ⟨invalidTask "search clock moved backwards", by simp [clock, hnumber, hback]⟩
    by_cases hlate : ¬ s.state.Terminal ∧ s.state ≠ .stopping ∧ time ≥ s.deadline
    · exact .inr (.inr ⟨time, hlate.1, hlate.2.1, by simp [clock, hnumber, hback, hlate]⟩)
    · exact .inr (.inl ⟨time, rfl, by simp [clock, hnumber, hback, hlate]⟩)

theorem clock_changes (s : SearchSession) (now : Scalar) : Changes s ((clock now).on s).2 := by
  rcases clock_spec s now with ⟨raised, hon⟩ | ⟨time, -, hon⟩ | ⟨time, hlive, -, hon⟩ <;> rw [hon]
  · exact .single (.note time)
  · have hnoted : Change s { s with now := time } := .note time
    exact .tail (.single hnoted) (.stop _ _ (.inl hlive))

variable {α : Type}

/-- An operation that begins with the clock. -/
theorem changes_of_clock {f : Unit → Searching α} (h : ∀ t, Changes t ((f ⟨⟩).on t).2) :
    Changes s ((clock now >>= f).on s).2 := by
  have hclock := clock_changes s now
  rw [on_bind]
  rcases hon : (clock now).on s with ⟨error | ⟨⟩, t⟩
  all_goals rw [hon] at hclock
  · exact hclock
  · exact hclock.trans (h t)

theorem matching_cases (s : SearchSession) (actionId : String) (kind : SearchKind) :
    (∃ raised, (matching actionId kind).on s = (.error raised, s)) ∨
      ∃ action, s.action = some action ∧ action.actionId = actionId ∧ action.kind = kind ∧
        (matching actionId kind).on s = (.ok action, s) := by
  cases haction : s.action with
  | none => exact .inl ⟨invalidTask "wrong_or_late_search_action", by simp [matching, haction]⟩
  | some action =>
    by_cases hmatch : action.actionId = actionId ∧ action.kind = kind
    · exact .inr ⟨action, rfl, hmatch.1, hmatch.2, by simp [matching, haction, hmatch]⟩
    · exact .inl ⟨invalidTask "wrong_or_late_search_action", by
        simp [matching, haction, not_and_or.mp hmatch]⟩

variable {kind : SearchKind}

/-- An operation on the action under way. -/
theorem changes_of_matching {f : SearchAction → Searching α} {actionId : String}
    (h : ∀ action, s.action = some action → action.kind = kind → Changes s ((f action).on s).2) :
    Changes s ((matching actionId kind >>= f).on s).2 := by
  rw [on_bind]
  rcases matching_cases s actionId kind with ⟨raised, hon⟩ | ⟨action, haction, -, hkind, hon⟩
  · rw [hon]
  · rw [hon]
    exact h action haction hkind

theorem changes_of_check {β : Type} {f : α → Searching β} {result : Except Raised α}
    (h : ∀ value, result = .ok value → Changes s ((f value).on s).2) :
    Changes s ((check result >>= f).on s).2 := by
  rw [on_bind, on_check]
  cases result with
  | error raised => rfl
  | ok value => exact h value rfl

theorem changes_of_get {f : SearchSession → Searching α} (h : Changes s ((f s).on s).2) :
    Changes s ((get >>= f).on s).2 := h

theorem changes_ite {c : Prop} [Decidable c] {x y : Searching α} (hx : c → Changes s (x.on s).2)
    (hy : ¬ c → Changes s (y.on s).2) :
    Changes s ((if c then x else y).on s).2 := by
  rw [on_ite]
  split
  · exact hx ‹_›
  · exact hy ‹_›

variable (motion : MotionEvidence)

theorem poll_changes : Changes s ((poll motion now).on s).2 := by
  refine changes_of_clock fun _ => changes_of_get <| changes_ite (fun _ => .refl) fun hlive =>
    changes_ite (fun _ => .refl) fun _ => ?_
  split
  · exact .single (.stop _ _ (.inl hlive))
  refine changes_ite (fun hselect => ?_) fun _ => changes_ite (fun hsettling => ?_) fun _ => .refl
  · split
    · exact .single (.exhaust hselect)
    next view hnext => exact .single (.go view hselect hnext)
  · exact .single (.capture hsettling.1)

variable (actionId : String)

theorem arrive_changes (viewReached backendIdle : Bool) :
    Changes s ((arrive actionId motion now viewReached backendIdle).on s).2 :=
  changes_of_clock fun _ => changes_of_matching fun action haction hkind => changes_of_get <|
    changes_of_check fun _ _ => changes_ite (fun _ => .refl) fun _ =>
      .single (.arrive _ ⟨action, haction, hkind⟩)

theorem skipUnavailable_changes (backendIdle : Bool) :
    Changes s ((skipUnavailable actionId motion now backendIdle).on s).2 :=
  changes_of_clock fun _ => changes_of_matching fun action haction hkind => changes_of_get <|
    changes_of_check fun _ _ => changes_ite (fun _ => .refl) fun _ =>
      .single (.skip ⟨action, haction, hkind⟩)

/-- The observation is used: it has been asked for, the platform stands where it has arrived, and
the frame has passed. -/
def Uses (s : SearchSession) (actionId : String) (observation : Observation)
    (motion : MotionEvidence) (now : Scalar) (action : SearchAction) (time : ℚ) (seen : Seen) : Prop :=
  s.action = some action ∧ action.actionId = actionId ∧ action.kind = .captureRgbd ∧
    number "now" now = .ok time ∧ some motion.poseRevision = s.poseRevision ∧
    ({ s with now := time }).inspect observation motion action.issued = .ok seen

theorem observe_changes (s : SearchSession) (actionId : String) (observation : Observation)
    (motion : MotionEvidence) (now : Scalar) :
    Changes s ((observe actionId observation motion now).on s).2 ∨ ∃ action time seen,
      s.Uses actionId observation motion now action time seen ∧
      ((observe actionId observation motion now).on s).2 =
        ({ s with now := time }.recorded observation seen).concluded observation seen := by
  have hclock := clock_changes s now
  rw [observe, on_bind]
  rcases clock_spec s now with ⟨raised, hon⟩ | ⟨time, htime, hon⟩ | ⟨time, hlive, hgoing, hon⟩ <;>
    rw [hon] at hclock ⊢
  · exact .inl hclock
  · dsimp only
    rw [on_bind]
    rcases matching_cases { s with now := time } actionId .captureRgbd with
      ⟨raised, hmatch⟩ | ⟨action, haction, hid, hkind, hmatch⟩
    · rw [hmatch]
      exact .inl hclock
    rw [hmatch]
    have hdoes : ({ s with now := time }).Does .captureRgbd := ⟨action, haction, hkind⟩
    dsimp only
    rw [on_bind, on_get]
    dsimp only
    rw [on_ite]
    split
    · exact .inl (.tail hclock (.stop _ _ (.inr hdoes)))
    next hpose =>
      cases hinspect : inspect { s with now := time } observation motion action.issued with
      | error raised => exact .inl (.tail hclock (.reject raised.text hdoes))
      | ok seen =>
        exact .inr ⟨action, time, seen, ⟨haction, hid, hkind, htime, not_not.mp hpose, hinspect⟩, rfl⟩
  · -- What is under way now is the stop.
    refine .inl (hclock.trans (changes_of_matching fun action haction hkind => ?_))
    rw [stopped, if_neg hgoing] at haction
    obtain rfl := Option.some.inj haction
    cases hkind

theorem cancel_changes : Changes s ((cancel now).on s).2 :=
  changes_of_clock fun _ => changes_of_get <| changes_ite
    (fun hlive => .single (.stop _ _ (.inl hlive))) fun _ => .refl

theorem invalidateScene_changes (sceneRevision : String) :
    Changes s ((invalidateScene sceneRevision now).on s).2 :=
  changes_of_check fun _ _ => changes_of_clock fun _ => changes_of_get <| changes_ite
    (fun hchanged => .single (.stop _ _ (.inl hchanged.2))) fun _ => .refl

theorem confirmStop_changes (backendIdle armsHolding : Bool) :
    Changes s ((confirmStop actionId motion now backendIdle armsHolding).on s).2 :=
  changes_of_clock fun _ => changes_of_matching fun action haction hkind => changes_of_get <|
    changes_of_check fun _ _ => changes_ite (fun _ => .refl) fun _ =>
      .single (.confirm ⟨action, haction, hkind⟩)

/-- Of an operation nothing is used but what it does. -/
theorem ignore_on (x : Searching α) (s : SearchSession) :
    ((do let _ ← x : Searching Unit).on s).2 = (x.on s).2 := by
  rw [on_bind]
  rcases x.on s with ⟨error | value, t⟩ <;> rfl

theorem changes_ignore {x : Searching α} (h : Changes s (x.on s).2) :
    Changes s ((do let _ ← x : Searching Unit).on s).2 :=
  (ignore_on x s).symm ▸ h

/-- **What a step does**: a chain of changes, or an observation is used, or the session is stopped
at its end. -/
theorem step_changes (s : SearchSession) (input : SearchInput) :
    Changes s (s.step input) ∨
    (∃ actionId observation motion now action time seen,
      input = .observe actionId observation motion now ∧
      s.Uses actionId observation motion now action time seen ∧
      s.step input = ({ s with now := time }.recorded observation seen).concluded observation seen) ∨
    s.state.Terminal ∧ ∃ reason destination, input = .stop reason destination := by
  cases input with
  | poll motion now => exact .inl (changes_ignore (poll_changes motion))
  | arrive actionId motion now viewReached backendIdle => exact .inl (arrive_changes ..)
  | skipUnavailable actionId motion now backendIdle => exact .inl (skipUnavailable_changes ..)
  | observe actionId observation motion now =>
    rcases observe_changes s actionId observation motion now with
      hchanges | ⟨action, time, seen, huses, hend⟩
    · exact .inl (changes_ignore hchanges)
    · exact .inr (.inl ⟨actionId, observation, motion, now, action, time, seen, rfl, huses,
        (ignore_on _ _).trans hend⟩)
  | cancel now => exact .inl cancel_changes
  | invalidateScene sceneRevision now => exact .inl (invalidateScene_changes sceneRevision)
  | confirmStop actionId motion now backendIdle armsHolding => exact .inl (confirmStop_changes ..)
  | stop reason destination =>
    by_cases hlive : s.state.Terminal
    · exact .inr (.inr ⟨hlive, reason, destination, rfl⟩)
    · exact .inl (.single (.stop _ _ (.inl hlive)))

/-! ## 2. What the changes keep -/

/-- The session is at a view: it has gone there, and has captured so often. -/
def At (s : SearchSession) (captured : ℕ) : Prop :=
  ∃ view, s.view = some view ∧ some view.viewId ∈ s.asked .moveToView ∧
    (∀ id, some id ∈ s.asked .moveToView → id ∈ s.visited ∨ id = view.viewId) ∧
    (s.asked .captureRgbd).count (some view.viewId) = captured

/-- What is under way, and how far the session has come with its views. -/
def Stage (s : SearchSession) : Prop :=
  match s.state with
  | .selectView => s.action = none ∧ ∀ id, some id ∈ s.asked .moveToView → id ∈ s.visited
  | .moving => s.Does .moveToView ∧ s.captures < s.captureLimit ∧ s.At s.captures
  | .settling => s.action = none ∧ s.captures < s.captureLimit ∧ s.At s.captures
  | .observing => s.Does .captureRgbd ∧ s.At (s.captures + 1)
  | .stopping => s.Does .stopSearch
  | .found | .notFoundUnconfirmed | .cancelled | .failed => s.action = none

/-- What was asked for is within its bounds. -/
structure Within (s : SearchSession) : Prop where
  limit : 1 ≤ s.captureLimit
  once : (s.asked .moveToView).Nodup
  known : ∀ id ∈ s.asked .moveToView, ∃ view ∈ s.views, id = some view.viewId
  captured : ∀ id ∈ s.asked .captureRgbd, id ∈ s.asked .moveToView
  few : ∀ id, (s.asked .captureRgbd).count id ≤ s.captureLimit

structure Bounded (s : SearchSession) : Prop extends s.Within where
  current : ∀ action, s.action = some action → action.viewId = s.view.map (·.viewId)
  stage : s.Stage

theorem asked_issued (s : SearchSession) (kind kind' : SearchKind) :
    (s.issued kind').asked kind =
      s.asked kind ++ if kind' = kind then [s.view.map (·.viewId)] else [] := by
  unfold asked issued
  rw [List.filterMap_append]
  refine congrArg _ ?_
  by_cases h : kind' = kind <;> simp [h]

theorem issued_current (s : SearchSession) (kind : SearchKind) :
    ∀ action, (s.issued kind).action = some action →
      action.viewId = (s.issued kind).view.map (·.viewId) := by
  rintro _ ⟨⟩
  rfl

/-- The state in which an action is under way. -/
def stateOf : SearchKind → SearchState
  | .moveToView => .moving
  | .captureRgbd => .observing
  | .stopSearch => .stopping

theorem Stage.state_of_does (h : s.Stage) (hdoes : s.Does kind) : s.state = stateOf kind := by
  obtain ⟨action, haction, rfl⟩ := hdoes
  have hother : ∀ {kind}, s.Does kind → action.kind = kind := by
    rintro _ ⟨action', haction', rfl⟩
    rw [Option.some.inj (haction.symm.trans haction')]
  unfold Stage at h
  cases hstate : s.state <;> rw [hstate] at h
  case moving => rw [hother h.1]; rfl
  case observing => rw [hother h.1]; rfl
  case stopping => rw [hother h]; rfl
  case selectView => exact nomatch haction.symm.trans h.1
  case settling => exact nomatch haction.symm.trans h.1
  all_goals exact nomatch haction.symm.trans h

/-- An entry of the history that asks for nothing. -/
theorem asked_append (s : SearchSession) (kind : SearchKind) {event : SearchEvent}
    (h : ∀ kind viewId at_, event ≠ .action kind viewId at_) :
    asked kind { s with history := s.history ++ [event] } = s.asked kind := by
  unfold asked
  rw [List.filterMap_append]
  cases event with
  | action kind viewId at_ => exact absurd rfl (h kind viewId at_)
  | _ => exact List.append_nil _

/-- Nothing is asked for. -/
theorem Within.same (h : s.Within) (hasked : ∀ kind, kind ≠ .stopSearch → t.asked kind = s.asked kind)
    (hviews : t.views = s.views) (hlimit : t.captureLimit = s.captureLimit) : t.Within := by
  have hmoves := hasked .moveToView nofun
  have hcaptures := hasked .captureRgbd nofun
  refine ⟨hlimit ▸ h.limit, hmoves ▸ h.once, ?_, ?_, ?_⟩
  · rw [hmoves, hviews]
    exact h.known
  · rw [hmoves, hcaptures]
    exact h.captured
  · rw [hcaptures, hlimit]
    exact h.few

theorem Bounded.stopped (h : s.Bounded) (reason : String) (destination : StopDestination) :
    (s.stopped reason destination).Bounded := by
  unfold SearchSession.stopped
  split
  · exact h
  · refine ⟨h.toWithin.same (fun kind hkind => ?_) rfl rfl, issued_current _ _, _, rfl, rfl⟩
    rw [asked_issued, if_neg (Ne.symm hkind), List.append_nil]
    rfl

theorem At.leftView {captured : ℕ} (h : s.At captured) : s.leftView.Stage := by
  obtain ⟨view, hview, -, hmoved, -⟩ := h
  refine ⟨rfl, fun id hid => ?_⟩
  show id ∈ s.visited ∪ (s.view.map (·.viewId)).toFinset
  rw [hview, Finset.mem_union]
  rcases hmoved id hid with hvisited | rfl
  · exact .inl hvisited
  · exact .inr (by simp)

theorem Bounded.go (h : s.Bounded) {view : Viewpoint} (hselect : s.state = .selectView)
    (hnext : s.nextView = some view) :
    ({ s with view := some view, captures := 0, state := .moving }.issued .moveToView).Bounded := by
  have hstage := h.stage
  unfold Stage at hstage
  rw [hselect] at hstage
  obtain ⟨hknown, hnew⟩ := List.mem_filter.mp (List.argmax_mem hnext)
  have hunmoved : some view.viewId ∉ s.asked .moveToView := fun hmem =>
    of_decide_eq_true hnew (hstage.2 _ hmem)
  have huncaptured : some view.viewId ∉ s.asked .captureRgbd := fun hmem =>
    hunmoved (h.captured _ hmem)
  have hmoves : asked .moveToView
      ({ s with view := some view, captures := 0, state := .moving }.issued .moveToView) =
        s.asked .moveToView ++ [some view.viewId] := asked_issued _ _ _
  have hcaptures : asked .captureRgbd
      ({ s with view := some view, captures := 0, state := .moving }.issued .moveToView) =
        s.asked .captureRgbd := (asked_issued _ _ _).trans (List.append_nil _)
  refine ⟨⟨h.limit, ?_, ?_, ?_, hcaptures ▸ h.few⟩, issued_current _ _, ⟨_, rfl, rfl⟩, h.limit, view,
    rfl, ?_, ?_, ?_⟩
  · rw [hmoves, List.nodup_append]
    refine ⟨h.once, List.nodup_singleton _, ?_⟩
    rintro id hid _ hmem rfl
    exact hunmoved (List.mem_singleton.mp hmem ▸ hid)
  · intro id hid
    rw [hmoves, List.mem_append, List.mem_singleton] at hid
    rcases hid with hid | rfl
    · exact h.known id hid
    · exact ⟨view, hknown, rfl⟩
  · intro id hid
    rw [hmoves]
    exact List.mem_append_left _ (h.captured id (hcaptures ▸ hid))
  · rw [hmoves]
    exact List.mem_append_right _ (List.mem_singleton.mpr rfl)
  · intro id hid
    rw [hmoves, List.mem_append, List.mem_singleton] at hid
    rcases hid with hid | hid
    · exact .inl (hstage.2 id hid)
    · exact .inr (Option.some.inj hid)
  · rw [hcaptures]
    exact List.count_eq_zero.mpr huncaptured

theorem Bounded.capture (h : s.Bounded) (hsettling : s.state = .settling) :
    ({ s with state := .observing }.issued .captureRgbd).Bounded := by
  have hstage := h.stage
  unfold Stage at hstage
  rw [hsettling] at hstage
  obtain ⟨-, hfew, view, hview, hhere, hmoved, hcount⟩ := hstage
  have hmoves : asked .moveToView ({ s with state := .observing }.issued .captureRgbd) =
      s.asked .moveToView := (asked_issued _ _ _).trans (List.append_nil _)
  have hcaptures : asked .captureRgbd ({ s with state := .observing }.issued .captureRgbd) =
      s.asked .captureRgbd ++ [some view.viewId] := by
    rw [asked_issued, if_pos rfl, hview]
    rfl
  refine ⟨⟨h.limit, hmoves ▸ h.once, hmoves ▸ h.known, ?_, fun id => ?_⟩, issued_current _ _,
    ⟨_, rfl, rfl⟩, view, hview, hmoves ▸ hhere, hmoves ▸ hmoved, ?_⟩
  · intro id hid
    rw [hcaptures, List.mem_append, List.mem_singleton] at hid
    rw [hmoves]
    rcases hid with hid | rfl
    · exact h.captured id hid
    · exact hhere
  · rw [hcaptures, List.count_append, List.count_singleton]
    by_cases hid : id = some view.viewId
    · subst hid
      have hcount' : (s.asked .captureRgbd).count (some view.viewId) + 1 ≤ s.captureLimit := by
        rw [hcount]
        exact hfew
      show _ ≤ s.captureLimit
      simpa using hcount'
    · have hother : (some view.viewId == id) = false := by
        simpa using Ne.symm hid
      rw [hother]
      exact h.few id
  · rw [hcaptures, List.count_append, hcount, List.count_singleton_self]
    rfl

theorem Bounded.arrive (h : s.Bounded) (hdoes : s.Does .moveToView) (pose : Option String) :
    ({ s with poseRevision := pose, action := none, state := .settling }).Bounded := by
  have hstage := h.stage
  unfold Stage at hstage
  rw [h.stage.state_of_does hdoes] at hstage
  exact ⟨h.toWithin.same (fun _ _ => rfl) rfl rfl, nofun, rfl, hstage.2⟩

theorem Bounded.skip (h : s.Bounded) (hdoes : s.Does .moveToView) :
    ({ s with history := s.history ++ [SearchEvent.viewUnavailable s.viewId] }).leftView.Bounded := by
  have hasked : ∀ kind, asked kind
      { s with history := s.history ++ [SearchEvent.viewUnavailable s.viewId] } = s.asked kind :=
    fun kind => asked_append s kind nofun
  have hstage := h.stage
  unfold Stage at hstage
  rw [h.stage.state_of_does hdoes] at hstage
  obtain ⟨-, -, view, hview, hhere, hmoved, hcount⟩ := hstage
  have hat : At { s with history := s.history ++ [SearchEvent.viewUnavailable s.viewId] }
      s.captures := ⟨view, hview, ?_, ?_, ?_⟩
  · exact ⟨h.toWithin.same (fun kind _ => hasked kind) rfl rfl, nofun, hat.leftView⟩
  · rw [hasked]
    exact hhere
  · rw [hasked]
    exact hmoved
  · rw [hasked]
    exact hcount

theorem Bounded.observing (h : s.Bounded) (hdoes : s.Does .captureRgbd) : s.At (s.captures + 1) := by
  have hstage := h.stage
  unfold Stage at hstage
  rw [h.stage.state_of_does hdoes] at hstage
  exact hstage.2

/-- An observation has come in, and is counted. -/
theorem Bounded.counted (h : s.Bounded) (hdoes : s.Does .captureRgbd)
    (hasked : ∀ kind, t.asked kind = s.asked kind) (hviews : t.views = s.views)
    (hlimit : t.captureLimit = s.captureLimit) (hview : t.view = s.view)
    (hvisited : t.visited = s.visited) (hcaptures : t.captures = s.captures + 1) :
    t.Within ∧ t.At t.captures := by
  refine ⟨h.toWithin.same (fun kind _ => hasked kind) hviews hlimit, ?_⟩
  unfold At
  rw [hview, hasked, hasked, hvisited, hcaptures]
  exact h.observing hdoes

/-- The view is looked from again, as long as it may be. -/
theorem Within.again (h : s.Within) (hat : s.At s.captures) (hmore : s.captures < s.captureLimit) :
    ({ s with action := none, state := .settling }).Bounded :=
  ⟨h.same (fun _ _ => rfl) rfl rfl, nofun, rfl, hmore, hat⟩

theorem Within.leftView (h : s.Within) (hat : s.At s.captures) : s.leftView.Bounded :=
  ⟨h.same (fun _ _ => rfl) rfl rfl, nofun, hat.leftView⟩

theorem Bounded.rejected (h : s.Bounded) (hdoes : s.Does .captureRgbd) (reason : String) :
    (s.rejected reason).Bounded := by
  obtain ⟨hwithin, hat⟩ := h.counted (t := { s with
    captures := s.captures + 1
    history := s.history ++ [SearchEvent.rejectedObservation reason] }) hdoes
    (fun kind => asked_append s kind nofun) rfl rfl rfl rfl rfl
  unfold SearchSession.rejected
  dsimp only
  split
  · exact hwithin.leftView hat
  next hmore => exact hwithin.again hat (not_le.mp hmore)

theorem Bounded.recorded (h : s.Bounded) (hdoes : s.Does .captureRgbd) (observation : Observation)
    (seen : Seen) : ((s.recorded observation seen).concluded observation seen).Bounded := by
  obtain ⟨hwithin, hat⟩ := h.counted (t := s.recorded observation seen) hdoes
    (fun kind => asked_append s kind nofun) rfl rfl rfl rfl rfl
  unfold concluded
  split
  · exact ⟨hwithin.same (fun _ _ => rfl) rfl rfl, nofun, rfl⟩
  · split
    next hmore => exact hwithin.again hat hmore.1
    next => exact hwithin.leftView hat

/-- **Every change keeps the bounds.** -/
theorem Bounded.change (h : s.Bounded) (hchange : Change s t) : t.Bounded := by
  cases hchange with
  | note time => exact ⟨h.toWithin.same (fun _ _ => rfl) rfl rfl, h.current, h.stage⟩
  | stop reason destination _ => exact h.stopped reason destination
  | exhaust hselect =>
    have hstage := h.stage
    unfold Stage at hstage
    rw [hselect] at hstage
    exact ⟨h.toWithin.same (fun _ _ => rfl) rfl rfl, h.current, hstage.1⟩
  | go view hselect hnext => exact h.go hselect hnext
  | arrive pose hdoes => exact h.arrive hdoes pose
  | skip hdoes => exact h.skip hdoes
  | capture hsettling => exact h.capture hsettling
  | reject reason hdoes => exact h.rejected hdoes reason
  | confirm hdoes =>
    refine ⟨h.toWithin.same (fun _ _ => rfl) rfl rfl, nofun, ?_⟩
    cases s.stopDestination <;> rfl

theorem Bounded.changes (h : s.Bounded) (hchanges : Changes s t) : t.Bounded := by
  induction hchanges with
  | refl => exact h
  | tail _ hchange ih => exact ih.change hchange

theorem Bounded.step (h : s.Bounded) (input : SearchInput) : (s.step input).Bounded := by
  rcases step_changes s input with hchanges |
    ⟨actionId, observation, motion, now, action, time, seen, -, huses, hend⟩ |
    ⟨-, reason, destination, rfl⟩
  · exact h.changes hchanges
  · rw [hend]
    exact (h.change (.note time)).recorded ⟨action, huses.1, huses.2.2.1⟩ observation seen
  · exact h.stopped reason destination

/-! ## 3. Stops -/

/-- The session is under way, and not stopping. -/
def Live (s : SearchSession) : Prop := ¬ s.state.Terminal ∧ s.state ≠ .stopping

/-- One stop was asked for beyond these, and none as long as the session is under way. -/
structure Halts (stops : ℕ) (s : SearchSession) : Prop where
  most : (s.asked .stopSearch).length ≤ stops + 1
  live : s.Live → (s.asked .stopSearch).length ≤ stops

variable {stops : ℕ}

/-- No stop is asked for, and the session does not come back to life. -/
theorem Halts.same (h : Halts stops s) (hasked : t.asked .stopSearch = s.asked .stopSearch)
    (hlive : t.Live → s.Live) : Halts stops t := by
  refine ⟨?_, fun ht => ?_⟩
  · rw [hasked]
    exact h.most
  · rw [hasked]
    exact h.live (hlive ht)

theorem asked_rejected (s : SearchSession) (reason : String) (kind : SearchKind) :
    (s.rejected reason).asked kind = s.asked kind := by
  unfold rejected
  dsimp only
  split <;> exact asked_append s kind nofun

theorem asked_used (s : SearchSession) (observation : Observation) (seen : Seen)
    (kind : SearchKind) :
    ((s.recorded observation seen).concluded observation seen).asked kind = s.asked kind := by
  unfold concluded
  split
  · exact asked_append s kind nofun
  · split <;> exact asked_append s kind nofun

theorem asked_stopped (hgoing : s.state ≠ .stopping) (reason : String)
    (destination : StopDestination) :
    ((s.stopped reason destination).asked .stopSearch).length =
      (s.asked .stopSearch).length + 1 := by
  rw [stopped, if_neg hgoing, asked_issued, if_pos rfl, List.length_append]
  rfl

theorem not_live_stopped (reason : String) (destination : StopDestination) :
    ¬ (s.stopped reason destination).Live := by
  exact fun hlive => hlive.2 (stopped_state s reason destination)

theorem live_of_does (h : s.Bounded) (hdoes : s.Does kind) (hkind : kind ≠ .stopSearch) :
    s.Live := by
  unfold Live
  rw [h.stage.state_of_does hdoes]
  cases kind with
  | stopSearch => exact absurd rfl hkind
  | _ => decide

theorem live_of_state (h : s.state = .selectView ∨ s.state = .settling) : s.Live := by
  unfold Live
  rcases h with h | h <;> rw [h] <;> decide

theorem Halts.change (h : Halts stops s) (hbounded : s.Bounded) (hchange : Change s t) :
    Halts stops t := by
  cases hchange with
  | note time => exact h.same rfl id
  | stop reason destination hlive =>
    by_cases hstopping : s.state = .stopping
    · rw [stopped, if_pos hstopping]
      exact h
    have hlive' : s.Live := by
      rcases hlive with hlive | hdoes
      · exact ⟨hlive, hstopping⟩
      · exact live_of_does hbounded hdoes nofun
    refine ⟨?_, fun hagain => absurd hagain (not_live_stopped _ _)⟩
    rw [asked_stopped hstopping]
    exact Nat.succ_le_succ (h.live hlive')
  | exhaust hselect => exact h.same rfl fun _ => live_of_state (.inl hselect)
  | go view hselect hnext =>
    exact h.same ((asked_issued _ _ _).trans (List.append_nil _)) fun _ => live_of_state (.inl hselect)
  | arrive pose hdoes => exact h.same rfl fun _ => live_of_does hbounded hdoes nofun
  | skip hdoes =>
    exact h.same (asked_append s .stopSearch nofun) fun _ => live_of_does hbounded hdoes nofun
  | capture hsettling =>
    exact h.same ((asked_issued _ _ _).trans (List.append_nil _)) fun _ =>
      live_of_state (.inr hsettling)
  | reject reason hdoes =>
    exact h.same (asked_rejected ..) fun _ => live_of_does hbounded hdoes nofun
  | confirm hdoes =>
    have hended : ∀ destination : StopDestination, destination.searchState.Terminal := by
      rintro (_ | _) <;> decide
    exact h.same rfl fun hlive => absurd (hended _) hlive.1

theorem Halts.changes (h : Halts stops s) (hbounded : s.Bounded) (hchanges : Changes s t) :
    Halts stops t := by
  induction hchanges with
  | refl => exact h
  | tail hbefore hchange ih => exact ih.change (hbounded.changes hbefore) hchange

/-- A stop that comes late is one more. -/
theorem Halts.step (h : Halts stops s) (hbounded : s.Bounded) (input : SearchInput) :
    Halts (stops + if s.state.Terminal ∧ input.isStop then 1 else 0) (s.step input) := by
  have hmore : ∀ {k t}, Halts stops t → Halts (stops + k) t := fun ht =>
    ⟨by have := ht.most; omega, fun hlive => (ht.live hlive).trans (Nat.le_add_right _ _)⟩
  rcases step_changes s input with hchanges |
    ⟨actionId, observation, motion, now, action, time, seen, -, huses, hend⟩ |
    ⟨hended, reason, destination, rfl⟩
  · exact hmore (h.changes hbounded hchanges)
  · rw [hend]
    have hdoes : s.Does .captureRgbd := ⟨action, huses.1, huses.2.2.1⟩
    exact hmore (h.same (asked_used { s with now := time } observation seen _) fun _ =>
      live_of_does hbounded hdoes nofun)
  · have hgoing : s.state ≠ .stopping := fun hstopping => by
      rw [hstopping] at hended
      exact absurd hended (by decide)
    rw [if_pos ⟨hended, rfl⟩]
    refine ⟨?_, fun hagain => absurd hagain (not_live_stopped _ _)⟩
    exact (asked_stopped hgoing _ _).trans_le (Nat.succ_le_succ h.most)

theorem Halts.run (l : List SearchInput) : ∀ {s : SearchSession} {stops : ℕ}, Halts stops s →
    s.Bounded → Halts (stops + late s l) (Machine.run SearchSession.step s l) := by
  induction l with
  | nil => exact fun h _ => h
  | cons input l ih =>
    intro s stops h hbounded
    rw [run_cons, late, ← Nat.add_assoc]
    exact ih (h.step hbounded input) (hbounded.step input)

/-! ## 4. What is found -/

/-- The session comes to be found only by an observation that it asked for at its view, whose frame
has passed since the platform arrived there. -/
def FoundHere (s : SearchSession) (input : SearchInput) : Prop :=
  (s.step input).state = .found → s.state = .found ∨
    ∃ actionId observation motion now action time view,
      input = .observe actionId observation motion now ∧ s.action = some action ∧
      action.actionId = actionId ∧ action.kind = .captureRgbd ∧ s.view = some view ∧
      action.viewId = some view.viewId ∧ number "now" now = .ok time ∧
      s.poseRevision = some motion.poseRevision ∧
      s.camera.validateFrame observation.frame motion time action.issued = .ok () ∧
      observation.frame.captureId ∉ s.captureIds ∧
      (s.step input).target.map (·.viewId) = some view.viewId

theorem found_of_change (h : Change s t) (hfound : t.state = .found) : s.state = .found := by
  cases h with
  | note time => exact hfound
  | stop reason destination _ =>
    unfold stopped at hfound
    split at hfound
    · exact hfound
    · cases hfound
  | reject reason _ =>
    unfold rejected at hfound
    dsimp only at hfound
    split at hfound <;> cases hfound
  | confirm _ =>
    dsimp only at hfound
    cases hdestination : s.stopDestination <;> rw [hdestination] at hfound <;> cases hfound
  | _ => cases hfound

theorem found_of_changes (h : Changes s t) (hfound : t.state = .found) : s.state = .found := by
  induction h with
  | refl => exact hfound
  | tail _ hchange ih => exact ih (found_of_change hchange hfound)

variable {observation : Observation}

/-- The frame of an observation that is used has passed, and is a new one. -/
theorem inspect_ok {motion : MotionEvidence} {requested : ℚ} {seen : Seen}
    (h : s.inspect observation motion requested = .ok seen) :
    s.camera.validateFrame observation.frame motion s.now requested = .ok () ∧
      observation.frame.captureId ∉ s.captureIds := by
  unfold inspect at h
  obtain ⟨⟨⟩, hframe, h⟩ := Except.bind_eq_ok_iff.mp h
  split at h
  · cases h
  next hnew => exact ⟨hframe, hnew⟩

theorem concluded_found {seen : Seen} (h : (s.concluded observation seen).state = .found) :
    (s.concluded observation seen).target.map (·.viewId) = some s.viewId := by
  unfold concluded at h ⊢
  split
  next => rfl
  next hnone =>
    rw [hnone] at h
    dsimp only at h
    split at h <;> cases h

theorem foundHere_step (h : s.Bounded) (input : SearchInput) : s.FoundHere input := by
  intro hfound
  rcases step_changes s input with hchanges |
    ⟨actionId, observation, motion, now, action, time, seen, rfl, huses, hend⟩ |
    ⟨-, reason, destination, rfl⟩
  · exact .inl (found_of_changes hchanges hfound)
  · obtain ⟨haction, hid, hkind, htime, hpose, hinspect⟩ := huses
    obtain ⟨view, hview, -⟩ := h.observing ⟨action, haction, hkind⟩
    obtain ⟨hframe, hnew⟩ := inspect_ok hinspect
    rw [hend] at hfound
    refine .inr ⟨actionId, observation, motion, now, action, time, view, rfl, haction, hid, hkind,
      hview, ?_, htime, hpose.symm, hframe, hnew, ?_⟩
    · rw [h.current action haction, hview]
      rfl
    · rw [hend, concluded_found hfound]
      show some ((s.view.map (·.viewId)).getD "") = _
      rw [hview]
      rfl
  · exact nomatch (stopped_state s reason destination).symm.trans hfound

/-! ## 5. Every run -/

variable {document : SearchDocument}

theorem bounded_create (h : create document = .ok s) : s.Bounded := by
  obtain ⟨hstate, haction, hhistory, -, -, hlimit⟩ := create_spec h
  have hasked : ∀ kind, s.asked kind = [] := by
    intro kind
    simp [asked, hhistory]
  have hwithin : s.Within := by
    constructor
    · exact hlimit
    all_goals simp [hasked]
  have hstage : s.Stage := by
    unfold Stage
    rw [hstate, hasked]
    exact ⟨haction, fun _ => nofun⟩
  exact ⟨hwithin, fun _ hsome => (nomatch haction.symm.trans hsome), hstage⟩

theorem halts_create (h : create document = .ok s) : Halts 0 s := by
  have hasked : s.asked .stopSearch = [] := by
    simp [asked, (create_spec h).2.2.1]
  constructor <;> simp [hasked]

/-- The views and the limit are those of the document. -/
def Keeps (s t : SearchSession) : Prop := t.views = s.views ∧ t.captureLimit = s.captureLimit

theorem keeps_stopped (reason : String) (destination : StopDestination) :
    s.Keeps (s.stopped reason destination) := by
  unfold stopped
  split <;> exact ⟨rfl, rfl⟩

theorem keeps_change (h : Change s t) : s.Keeps t := by
  cases h with
  | stop reason destination _ => exact keeps_stopped reason destination
  | reject reason _ =>
    unfold rejected
    dsimp only
    split <;> exact ⟨rfl, rfl⟩
  | _ => exact ⟨rfl, rfl⟩

theorem keeps_changes (h : Changes s t) : s.Keeps t := by
  induction h with
  | refl => exact ⟨rfl, rfl⟩
  | tail _ hchange ih =>
    obtain ⟨hviews, hlimit⟩ := keeps_change hchange
    exact ⟨hviews.trans ih.1, hlimit.trans ih.2⟩

theorem keeps_step (s : SearchSession) (input : SearchInput) : s.Keeps (s.step input) := by
  rcases step_changes s input with hchanges |
    ⟨actionId, observation, motion, now, action, time, seen, -, -, hend⟩ |
    ⟨-, reason, destination, rfl⟩
  · exact keeps_changes hchanges
  · rw [hend]
    unfold concluded
    split
    · exact ⟨rfl, rfl⟩
    · split <;> exact ⟨rfl, rfl⟩
  · exact keeps_stopped reason destination

/-- What occurs so often at most, of so many. -/
theorem length_le_mul [DecidableEq α] {l m : List α} {k : ℕ} (hmem : ∀ a ∈ l, a ∈ m)
    (hcount : ∀ a, l.count a ≤ k) : l.length ≤ m.length * k := by
  have hsum : ∑ a ∈ m.toFinset, (l : Multiset α).count a = l.length :=
    Multiset.sum_count_eq_card fun a ha => List.mem_toFinset.mpr (hmem a ha)
  simp only [Multiset.coe_count] at hsum
  calc l.length = ∑ a ∈ m.toFinset, l.count a := hsum.symm
    _ ≤ ∑ _a ∈ m.toFinset, k := Finset.sum_le_sum fun a _ => hcount a
    _ = m.toFinset.card * k := by rw [Finset.sum_const, Nat.nsmul_eq_mul]
    _ ≤ m.length * k := Nat.mul_le_mul_right k m.toFinset_card_le

theorem Within.sums (h : s.Within) :
    (s.asked .moveToView).length ≤ s.views.length ∧
      (s.asked .captureRgbd).length ≤ s.views.length * s.captureLimit := by
  have hmoves : (s.asked .moveToView).length ≤ s.views.length := by
    rw [← List.length_map fun view : Viewpoint => some view.viewId]
    refine (h.once.subperm fun id hid => ?_).length_le
    obtain ⟨view, hview, rfl⟩ := h.known id hid
    exact List.mem_map_of_mem hview
  exact ⟨hmoves, (length_le_mul h.captured fun id => by convert h.few id).trans (Nat.mul_le_mul_right _ hmoves)⟩

theorem along_of_bounded : ∀ {s : SearchSession} (l : List SearchInput), s.Bounded →
    Along step FoundHere s l
  | _, [], _ => trivial
  | _, input :: l, h => ⟨foundHere_step h input, along_of_bounded l (h.step input)⟩

/-- **A search is bounded.** -/
theorem search_bounded (h : create document = .ok s) (l : List SearchInput) :
    (∀ id, ((run step s l).asked .moveToView).count id ≤ 1) ∧
    (∀ id, ((run step s l).asked .captureRgbd).count id ≤ document.capturesPerView.toNat) ∧
    ((run step s l).asked .moveToView).length ≤ document.views.length ∧
    ((run step s l).asked .captureRgbd).length ≤
      document.views.length * document.capturesPerView.toNat ∧
    ((run step s l).asked .stopSearch).length ≤ 1 + late s l ∧
    Along step FoundHere s l := by
  obtain ⟨-, -, -, hviews, hlimit, -⟩ := create_spec h
  have hcreate := bounded_create h
  have hstep : ∀ (t : SearchSession) input, t.Bounded → (t.step input).Bounded :=
    fun _ input ht => ht.step input
  have hbounded : (run step s l).Bounded := run_invariant_all hstep l hcreate
  have hkeeps : s.Keeps (run step s l) := by
    refine run_invariant_all (fun t input (ht : s.Keeps t) => ?_) l ⟨rfl, rfl⟩
    obtain ⟨hviews', hlimit'⟩ := keeps_step t input
    exact ⟨hviews'.trans ht.1, hlimit'.trans ht.2⟩
  rw [← hviews, ← hlimit, ← hkeeps.1, ← hkeeps.2]
  obtain ⟨hmoves, hcaptures⟩ := hbounded.sums
  refine ⟨List.nodup_iff_count_le_one.mp hbounded.once, hbounded.few, hmoves, hcaptures, ?_, ?_⟩
  · have hhalts := (Halts.run l (halts_create h) hcreate).most
    omega
  · exact along_of_bounded l hcreate

/-- The platform goes to the one view of a table, arrives and is asked for a capture; then the search
is cancelled. -/
def cancelledAtTable : List SearchInput :=
  let standing : MotionEvidence := ⟨.finite 0, .finite 0, "pose", true, true⟩
  [.poll standing (.finite 0), .arrive "task/search:1" standing (.finite 0) true true,
    .poll standing (.finite (1 / 2)), .cancel (.finite 1), .cancel (.finite 2)]

theorem search_bounded_table : ∃ s, create SearchPort.tableSearch = .ok s ∧
    ((run step s cancelledAtTable).asked .moveToView).length ≤ 1 ∧
    ((run step s cancelledAtTable).asked .captureRgbd).length ≤ 2 ∧
    ((run step s cancelledAtTable).asked .stopSearch).length ≤ 1 + late s cancelledAtTable := by
  have hok : (create SearchPort.tableSearch).toOption.isSome = true := by decide +kernel
  cases hcreate : create SearchPort.tableSearch with
  | error raised =>
    rw [hcreate] at hok
    cases hok
  | ok s =>
    obtain ⟨-, -, hmoves, hcaptures, hstops, -⟩ := search_bounded hcreate cancelledAtTable
    exact ⟨s, rfl, hmoves, hcaptures, hstops⟩

end SearchSession

end MobileBimanual.Tasks
