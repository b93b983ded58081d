/-
# A search over viewpoints

`SearchSession` of `search.py`: one view after the other is moved to, waited at and looked from,
until the object is found or no view is left.  A session is driven from outside; it only says what
is to be done next.  A stop has to be confirmed before the session comes to its end.
-/
import Mathlib.Data.Finset.Card
import Mathlib.Data.Finset.Option
import Mathlib.Data.List.MinMax
import MobileBimanual.Tasks.StationaryRGBD

namespace MobileBimanual.Tasks

structure Viewpoint where
  viewId : String
  location : String
  expectedRegions : List String

inductive SearchKind where
  | moveToView | captureRgbd | stopSearch
  deriving DecidableEq

structure SearchAction where
  actionId : String
  kind : SearchKind
  viewId : Option String
  issued : ℚ

structure Detection where
  objectId : String
  confidence : Scalar
  samples : List (List Scalar)

inductive SearchState where
  | selectView | moving | settling | observing | stopping
  | found | notFoundUnconfirmed | cancelled | failed
  deriving DecidableEq

/-- `TERMINAL`. -/
def SearchState.Terminal (state : SearchState) : Prop :=
  state = .found ∨ state = .notFoundUnconfirmed ∨ state = .cancelled ∨ state = .failed

instance SearchState.decidableTerminal (state : SearchState) : Decidable state.Terminal :=
  inferInstanceAs (Decidable (_ ∨ _ ∨ _ ∨ _))

def StopDestination.searchState : StopDestination → SearchState
  | .failed => .failed
  | .cancelled => .cancelled

inductive SearchEvent where
  | action (kind : SearchKind) (viewId : Option String) (at_ : ℚ)
  | viewUnavailable (viewId : String)
  | rejectedObservation (reason : String)
  | observed (viewId captureId : String) (visible : Finset String)

/-- The target with the view it was seen from. -/
structure SearchTarget extends LocatedTarget where
  viewId : String

structure SearchSession where
  runId : String
  objectId : String
  sceneRevision : String
  views : List Viewpoint
  camera : CapturePolicy
  captureLimit : ℕ
  confidence : ℚ
  now : ℚ
  deadline : ℚ
  regions : Finset String
  visible : Finset String
  occluded : Finset String
  visited : Finset String
  captureIds : Finset String
  state : SearchState
  reason : String
  action : Option SearchAction
  view : Option Viewpoint
  poseRevision : Option String
  target : Option SearchTarget
  captures : ℕ
  sequence : ℕ
  history : List SearchEvent
  stopDestination : StopDestination

/-- What a session is made from. -/
structure SearchDocument where
  runId : String
  objectId : String
  location : String
  sceneRevision : String
  views : List Viewpoint
  camera : CapturePolicy
  now : Scalar
  timeout : Scalar
  capturesPerView : ℤ
  minimumConfidence : Scalar

/-- What a session does: an exception keeps what was done before it. -/
abbrev Searching (α : Type) := ExceptT Raised (StateM SearchSession) α

/-- What is done to a session, with how it ends. -/
def Searching.on {α : Type} (x : Searching α) (s : SearchSession) :
    Except Raised α × SearchSession := x.run.run s

namespace SearchSession

/-! ## 1. The beginning -/

def runIdChar (c : Char) : Bool := identifierChar c || c = '/'

def checkViews (location : String) : Finset String → List Viewpoint → Except Raised Unit
  | _, [] => .ok ()
  | seen, view :: rest => do
    let _ ← identifier "view id" view.viewId
    if view.viewId ∈ seen ∨ view.location ≠ location then
      .error (invalidTask "duplicate or wrong-location viewpoint")
    else if ¬ (1 ≤ view.expectedRegions.length ∧ view.expectedRegions.length ≤ 64) ∨
        ¬ view.expectedRegions.Nodup then
      .error (invalidTask "bounded unique regions required")
    else
      view.expectedRegions.forM fun region => do
        let _ ← identifier "region" region
      checkViews location (insert view.viewId seen) rest

def create (d : SearchDocument) : Except Raised SearchSession := do
  if ¬ (1 ≤ d.runId.length ∧ d.runId.length ≤ 256 ∧ d.runId.toList.all runIdChar) then
    .error (invalidTask "invalid search run")
  else
    let _ ← identifier "object id" d.objectId
    let _ ← identifier "location" d.location
    let _ ← identifier "scene revision" d.sceneRevision
    if ¬ (1 ≤ d.views.length ∧ d.views.length ≤ 32) then
      .error (invalidTask "bounded viewpoint catalog required")
    else
      checkViews d.location ∅ d.views
      if ¬ (1 ≤ d.capturesPerView ∧ d.capturesPerView ≤ 3) then
        .error (invalidTask "invalid capture retry budget")
      else
        let timeout ← number "timeout" d.timeout
        let confidence ← number "confidence" d.minimumConfidence
        let now ← number "now" d.now
        if timeout ≤ 0 ∨ now < 0 ∨ ¬ (0 < confidence ∧ confidence ≤ 1) then
          .error (invalidTask "invalid search budget")
        else
          return {
            runId := d.runId, objectId := d.objectId, sceneRevision := d.sceneRevision
            views := d.views, camera := d.camera, captureLimit := d.capturesPerView.toNat
            confidence, now, deadline := now + timeout
            regions := (d.views.flatMap (·.expectedRegions)).toFinset
            visible := ∅, occluded := ∅, visited := ∅, captureIds := ∅
            state := .selectView, reason := "", action := none, view := none
            poseRevision := none, target := none, captures := 0, sequence := 0, history := []
            stopDestination := .failed }

/-! ## 2. Steps -/

def check {α : Type} : Except Raised α → Searching α
  | .ok value => pure value
  | .error raised => throw raised

/-- `_issue`, as it leaves the session. -/
def issued (s : SearchSession) (kind : SearchKind) : SearchSession :=
  { s with
    sequence := s.sequence + 1
    action := some ⟨s.runId ++ ":" ++ toString (s.sequence + 1), kind, s.view.map (·.viewId), s.now⟩
    history := s.history ++ [.action kind (s.view.map (·.viewId)) s.now] }

def issue (kind : SearchKind) : Searching (Option SearchAction) := do
  modify fun s => s.issued kind
  return (← get).action

/-- `_stop`, as it leaves the session. -/
def stopped (s : SearchSession) (reason : String) (destination : StopDestination) : SearchSession :=
  if s.state = .stopping then s
  else
    { s with state := .stopping, reason, stopDestination := destination, target := none }.issued
      .stopSearch

def stop (reason : String) (destination : StopDestination) : Searching Unit :=
  modify fun s => s.stopped reason destination

/-- `_clock`. -/
def clock (now : Scalar) : Searching Unit := do
  let now ← check (number "now" now)
  let s ← get
  if now < s.now then throw (invalidTask "search clock moved backwards")
  else
    modify fun s => { s with now }
    if ¬ s.state.Terminal ∧ s.state ≠ .stopping ∧ now ≥ s.deadline then
      stop "search_timeout" .failed
    else pure ()

/-- `_matching`: the action under way. -/
def matching (actionId : String) (kind : SearchKind) : Searching SearchAction := do
  match (← get).action with
  | none => throw (invalidTask "wrong_or_late_search_action")
  | some action =>
    if action.actionId ≠ actionId ∨ action.kind ≠ kind then
      throw (invalidTask "wrong_or_late_search_action")
    else pure action

def cancel (now : Scalar) : Searching Unit := do
  clock now
  if ¬ (← get).state.Terminal then stop "cancelled" .cancelled else pure ()

def invalidateScene (sceneRevision : String) (now : Scalar) : Searching Unit := do
  let _ ← check (identifier "scene revision" sceneRevision)
  clock now
  let s ← get
  if sceneRevision ≠ s.sceneRevision ∧ ¬ s.state.Terminal then stop "scene_changed" .failed
  else pure ()

/-- The platform stands still, and where it did when the view was settled on. -/
def settled (s : SearchSession) (motion : MotionEvidence) : Except Raised ℚ := do
  let since ← s.camera.stationarySince motion s.now
  if (s.state = .settling ∨ s.state = .observing) ∧ some motion.poseRevision ≠ s.poseRevision then
    .error (invalidTask "pose_changed_during_observation")
  else return since

/-- The first of the views that promise most. -/
def nextView (s : SearchSession) : Option Viewpoint :=
  (s.views.filter fun view => decide (view.viewId ∉ s.visited)).argmax fun view =>
    (view.expectedRegions.toFinset \ s.visible).card

def poll (motion : MotionEvidence) (now : Scalar) : Searching (Option SearchAction) := do
  clock now
  let s ← get
  if s.state.Terminal then return none
  else if s.state = .stopping ∨ s.state = .moving then return s.action
  else
    match s.settled motion with
    | .error raised =>
      stop raised.text .failed
      return (← get).action
    | .ok since =>
      if s.state = .selectView then
        match s.nextView with
        | none =>
          modify fun s => { s with state := .notFoundUnconfirmed, reason := "viewpoints_exhausted" }
          return none
        | some view =>
          modify fun s => { s with view := some view, captures := 0, state := .moving }
          issue .moveToView
      else if s.state = .settling ∧ s.now ≥ since + s.camera.settle then
        modify fun s => { s with state := .observing }
        issue .captureRgbd
      else return s.action

def arrive (actionId : String) (motion : MotionEvidence) (now : Scalar)
    (viewReached backendIdle : Bool) : Searching Unit := do
  clock now
  let action ← matching actionId .moveToView
  let s ← get
  let since ← check (s.camera.stationarySince motion s.now)
  if ¬ viewReached ∨ ¬ backendIdle ∨ motion.observed.value < action.issued ∨
      since < action.issued then
    throw (invalidTask "fresh_measured_arrival_required")
  else
    modify fun s =>
      { s with poseRevision := some motion.poseRevision, action := none, state := .settling }

/-- `_next_view`, as it leaves the session. -/
def leftView (s : SearchSession) : SearchSession :=
  { s with
    visited := s.visited ∪ (s.view.map (·.viewId)).toFinset
    action := none
    state := .selectView }

def viewId (s : SearchSession) : String := (s.view.map (·.viewId)).getD ""

def skipUnavailable (actionId : String) (motion : MotionEvidence) (now : Scalar)
    (backendIdle : Bool) : Searching Unit := do
  clock now
  let action ← matching actionId .moveToView
  let s ← get
  let _ ← check (s.camera.stationarySince motion s.now)
  if ¬ backendIdle ∨ motion.observed.value < action.issued then
    throw (invalidTask "unavailable_view_still_active")
  else
    modify fun s => { s with history := s.history ++ [SearchEvent.viewUnavailable s.viewId] }.leftView

/-- `_regions`. -/
def checkRegions (s : SearchSession) (values : List String) : Except Raised (Finset String) := do
  if values.length > 64 then .error (invalidTask "bounded observed regions required")
  else
    values.forM fun value => do
      let _ ← identifier "observed region" value
    if ¬ values.Nodup ∨ ¬ values.toFinset ⊆ s.regions then
      .error (invalidTask "unknown_or_duplicate_region")
    else return values.toFinset

/-- An observation as the camera hands it in. -/
structure Observation where
  frame : RGBDFrame
  visible : List String
  occluded : List String
  detections : List Detection

/-- The detections of the object, with where it is; a detection without depth is no target. -/
def candidates (s : SearchSession) (frame : RGBDFrame) (motion : MotionEvidence)
    (requested : ℚ) : List Detection → Except Raised (List (ℚ × LocatedTarget))
  | [] => return []
  | item :: rest => do
    let _ ← identifier "detected object" item.objectId
    let confidence ← number "detection confidence" item.confidence
    if ¬ (0 ≤ confidence ∧ confidence ≤ 1) then
      .error (invalidTask "invalid detection confidence")
    else
      let others ← s.candidates frame motion requested rest
      if item.objectId = s.objectId ∧ confidence ≥ s.confidence then
        match s.camera.locate frame motion item.samples s.now requested with
        | .ok position => return (confidence, position) :: others
        | .error _ => return others
      else return others

/-- What an observation shows, once its frame has passed. -/
structure Seen where
  visible : Finset String
  occluded : Finset String
  candidates : List (ℚ × LocatedTarget)

def inspect (s : SearchSession) (observation : Observation) (motion : MotionEvidence)
    (requested : ℚ) : Except Raised Seen := do
  s.camera.validateFrame observation.frame motion s.now requested
  if observation.frame.captureId ∈ s.captureIds then .error (invalidTask "duplicate_capture")
  else
    let visible ← s.checkRegions observation.visible
    let occluded ← s.checkRegions observation.occluded
    if (visible ∩ occluded).Nonempty then .error (invalidTask "contradictory_visibility")
    else if observation.detections.length > 64 then
      .error (invalidTask "bounded detections required")
    else
      let candidates ← s.candidates observation.frame motion requested observation.detections
      return { visible, occluded, candidates }

/-- An observation that is not used. -/
def rejected (s : SearchSession) (reason : String) : SearchSession :=
  let s := { s with
    captures := s.captures + 1
    history := s.history ++ [SearchEvent.rejectedObservation reason] }
  if s.captures ≥ s.captureLimit then s.leftView
  else { s with action := none, state := .settling }

/-- An observation that is used. -/
def recorded (s : SearchSession) (observation : Observation) (seen : Seen) : SearchSession :=
  { s with
    captureIds := insert observation.frame.captureId s.captureIds
    captures := s.captures + 1
    visible := s.visible ∪ seen.visible
    occluded := (s.occluded ∪ seen.occluded) \ (s.visible ∪ seen.visible)
    history := s.history ++ [.observed s.viewId observation.frame.captureId seen.visible] }

/-- Where an observation leads. -/
def concluded (s : SearchSession) (observation : Observation) (seen : Seen) : SearchSession :=
  match seen.candidates.argmax (·.1) with
  | some (_, target) =>
    { s with
      visited := s.visited ∪ (s.view.map (·.viewId)).toFinset
      target := some { target with viewId := s.viewId }
      state := .found
      action := none }
  | none =>
    -- One bounded retry for an uncertain sighting; an empty view is left at once.
    if s.captures < s.captureLimit ∧ observation.detections.any (·.objectId = s.objectId) then
      { s with action := none, state := .settling }
    else s.leftView

def observe (actionId : String) (observation : Observation) (motion : MotionEvidence)
    (now : Scalar) : Searching Bool := do
  clock now
  let action ← matching actionId .captureRgbd
  let s ← get
  if some motion.poseRevision ≠ s.poseRevision then
    stop "pose_changed_during_observation" .failed
    return false
  else
    match s.inspect observation motion action.issued with
    | .error raised =>
      modify fun s => s.rejected raised.text
      return false
    | .ok seen =>
      modify fun s => (s.recorded observation seen).concluded observation seen
      return true

def confirmStop (actionId : String) (motion : MotionEvidence) (now : Scalar)
    (backendIdle armsHolding : Bool) : Searching Unit := do
  clock now
  let action ← matching actionId .stopSearch
  let s ← get
  let _ ← check (s.camera.stationarySince motion s.now)
  if motion.observed.value ≤ action.issued ∨ ¬ backendIdle ∨ ¬ armsHolding then
    throw (invalidTask "independent_stop_confirmation_required")
  else modify fun s => { s with state := s.stopDestination.searchState, action := none }

/-! ## 3. How a step ends -/

section On

variable {α β : Type} (s : SearchSession)

@[simp] theorem on_pure (value : α) : (pure value : Searching α).on s = (.ok value, s) := rfl

@[simp] theorem on_throw (raised : Raised) :
    (throw raised : Searching α).on s = (.error raised, s) := rfl

@[simp] theorem on_get : (get : Searching SearchSession).on s = (.ok s, s) := rfl

@[simp] theorem on_modify (f : SearchSession → SearchSession) :
    (modify f : Searching PUnit).on s = (.ok ⟨⟩, f s) := rfl

@[simp] theorem on_check (result : Except Raised α) : (check result).on s = (result, s) := by
  cases result <;> rfl

@[simp] theorem on_ite (c : Prop) [Decidable c] (x y : Searching α) :
    (if c then x else y).on s = if c then x.on s else y.on s := by
  split <;> rfl

@[simp] theorem on_bind (x : Searching α) (f : α → Searching β) :
    (x >>= f).on s =
      match x.on s with
      | (.ok value, s') => (f value).on s'
      | (.error raised, s') => (.error raised, s') := by
  show (ExceptT.run (x >>= f)).run s = _
  rw [ExceptT.run_bind, StateT.run_bind]
  rcases h : x.run.run s with ⟨error | value, s'⟩
  all_goals
    rw [Searching.on, h]
    rfl

@[simp] theorem on_stop (reason : String) (destination : StopDestination) :
    (stop reason destination).on s = (.ok ⟨⟩, s.stopped reason destination) := rfl

end On

end SearchSession

end MobileBimanual.Tasks
