/-
# Plan, then execute

`ManipulationPort` of `manipulation_port.py`: a goal is planned by one backend and executed by
another, on a platform that stands still, and the context in which it was planned is checked again
when the plan is handed over.

Both backends, the context and the clock answer as they like, and every one of them may raise.
-/
import MobileBimanual.Lib.Registry
import MobileBimanual.Tasks.Data

namespace MobileBimanual.Tasks

open Activity Oracle Registry

/-! ## 1. Contexts and entries -/

structure PlanningContext where
  observed : Scalar
  captureId : String
  poseRevision : String
  sceneRevision : String
  calibrationId : String
  frameId : String
  anchor : List Scalar
  baseStopped : Bool
  liftStopped : Bool
  targetObserved : Option Scalar
  jointNames : List String

def PlanningContext.key (c : PlanningContext) : List String :=
  [c.captureId, c.poseRevision, c.sceneRevision, c.calibrationId, c.frameId]

inductive Backend where
  | planner | executor

inductive ManipulationPhase where
  | plan | execute
  deriving DecidableEq

structure ManipulationEntry where
  state : EntryStatus
  port : Backend
  phase : ManipulationPhase
  context : PlanningContext
  reason : String
  cancel : Bool
  destination : StopDestination

/-- `T` is the type of trajectories, which the port hands on unread. -/
inductive ManipulationCall (T : Type) where
  | context
  | clock
  | ready (backend : Backend)
  | plan (goal task : String) (context : PlanningContext)
  | execute (goal : String) (trajectory : T) (context : PlanningContext)
  | poll (backend : Backend) (goal : String)
  | cancel (backend : Backend) (goal : String)
  | result (goal : String)

abbrev ManipulationCall.Result {T : Type} : ManipulationCall T → Type
  | .context => PlanningContext
  | .clock => ℚ
  | .ready _ => Bool
  | .plan .. | .execute .. | .cancel .. => Unit
  | .poll .. => PortResult
  | .result _ => T

abbrev ManipulationCall.Reply {T : Type} (call : ManipulationCall T) : Type :=
  Except Raised call.Result

abbrev ManipulationPort := Registry ManipulationEntry

abbrev Manipulation (T α : Type) :=
  Activity (ManipulationCall T) ManipulationCall.Reply Raised ManipulationPort α

/-- What the constructor settles. -/
structure ManipulationConfig where
  age : ℚ
  tolerance : ℚ
  age_bounds : 0 < age ∧ age ≤ 2
  tolerance_bounds : 0 < tolerance ∧ tolerance ≤ 1 / 10

def ManipulationConfig.create (maximumAge anchorTolerance : Scalar) :
    Except Raised ManipulationConfig := do
  let age ← number "planning age" maximumAge
  let tolerance ← number "anchor tolerance" anchorTolerance
  if h : (0 < age ∧ age ≤ 2) ∧ 0 < tolerance ∧ tolerance ≤ 1 / 10 then
    return ⟨age, tolerance, h.1, h.2⟩
  else .error (invalidTask "invalid planning bounds")

def missingEntry (goal : String) : Raised := ⟨"KeyError", "'" ++ goal ++ "'"⟩

/-! ## 2. The functions of the port -/

namespace PlanningContext

/-- The joints that a context must have an anchor for. -/
def joints (c : PlanningContext) : Nat := if c.jointNames = [] then 12 else c.jointNames.length

def checkTarget (c : PlanningContext) (age now : ℚ) (checkAge : Bool) : Except Raised Unit :=
  match c.targetObserved with
  | none => .ok ()
  | some target => do
    let stamp ← number "target exposure" target
    if ¬ (0 ≤ stamp ∧ stamp ≤ now) ∨ checkAge ∧ now - stamp > age then
      .error (invalidTask "stale planning target")
    else .ok ()

def checkAnchor (c : PlanningContext) : Except Raised Unit :=
  if c.jointNames ≠ [] ∧ (c.joints ∉ [6, 12] ∨ ¬ c.jointNames.Nodup ∨ "" ∈ c.jointNames) then
    .error (invalidTask "installed joint names required")
  else if c.anchor.length ≠ c.joints ∨ Scalar.notNumeric ∈ c.anchor then
    .error (invalidTask "installed joint anchor required")
  else c.anchor.forM fun v => do let _ ← number "anchor" v

/-- The checks of `_context`, at the time `now`. -/
def check (c : PlanningContext) (age now : ℚ) (checkTarget : Bool) : Except Raised Unit := do
  let observed ← number "planning observation" c.observed
  if ¬ (0 ≤ observed ∧ observed ≤ now) ∨ now - observed > age then
    .error (invalidTask "stale planning context")
  else if c.baseStopped = false ∨ c.liftStopped = false then
    .error (invalidTask "moving planning platform")
  else
    c.checkTarget age now checkTarget
    c.checkAnchor
    if "" ∈ c.key then .error (invalidTask "planning context identities required") else .ok ()

/-- Every joint that both anchors have is where it was. -/
def AnchorHeld (tolerance : ℚ) (current planned : PlanningContext) : Prop :=
  ∀ pair ∈ current.anchor.zip planned.anchor, |pair.1.value - pair.2.value| ≤ tolerance

instance (tolerance : ℚ) (current planned : PlanningContext) :
    Decidable (AnchorHeld tolerance current planned) := inferInstanceAs (Decidable (∀ _ ∈ _, _))

/-- The platform, the scene and the target are those of the plan. -/
def Matches (current planned : PlanningContext) : Prop :=
  current.key = planned.key ∧ current.jointNames = planned.jointNames ∧
    current.targetObserved = planned.targetObserved

instance (current planned : PlanningContext) : Decidable (Matches current planned) :=
  inferInstanceAs (Decidable (_ ∧ _ ∧ _))

end PlanningContext

namespace ManipulationPort

variable {T : Type} {config : ManipulationConfig}

/-- `ready`. -/
def isReady : Manipulation T Bool := do
  let w ← get
  if w.owner.isSome then pure false
  else
    let planner ← invoke (ManipulationCall.ready (T := T) .planner)
    if planner then invoke (ManipulationCall.ready (T := T) .executor) else pure false

/-- `_context`. -/
def context (config : ManipulationConfig) (checkTarget : Bool) : Manipulation T PlanningContext := do
  let c ← invoke (ManipulationCall.context (T := T))
  let now ← invoke (ManipulationCall.clock (T := T))
  let now ← expect (number "planning clock" (.finite now))
  expect (c.check config.age now checkTarget)
  pure c

/-- `_cancel`. -/
def cancelEntry (goal reason : String) (cancelled : Bool) : Manipulation T Unit := do
  let e ← Registry.entry missingEntry goal
  if e.cancel ∨ e.state ≠ .running then pure ()
  else
    amend goal fun e =>
      { e with cancel := true, reason, destination := if cancelled then .cancelled else .failed }
    tryCatch (invoke (ManipulationCall.cancel (T := T) e.port goal)) fun _ =>
      amend goal fun e => { e with reason := e.reason ++ ";cancel_unconfirmed" }

def cancel (goal : String) : Manipulation T Unit := cancelEntry goal "cancelled" true

def start (config : ManipulationConfig) (goal parameters : String) : Manipulation T Unit := do
  let ready ← isReady
  let w ← get
  if ¬ ready ∨ (w.entries.lookup goal).isSome ∨ w.size ≥ 128 then
    throw (invalidTask "manipulation busy or duplicate")
  else
    let context ← context config true
    modify fun w => w.enter goal
      { state := .running, port := .planner, phase := .plan, context, reason := "", cancel := false,
        destination := .failed }
    tryCatch (invoke (ManipulationCall.plan (T := T) goal parameters context)) fun error =>
      cancelEntry goal error.text false

/-- The plan is there; what the port reports if it has to wait. -/
def handOff (config : ManipulationConfig) (goal : String) (current planned : PlanningContext) :
    Manipulation T (Option PortResult) := do
  if ¬ PlanningContext.AnchorHeld config.tolerance current planned then
    throw (invalidTask "planning anchor moved")
  else
    let plan ← invoke (ManipulationCall.result (T := T) goal)
    let ready ← invoke (ManipulationCall.ready (T := T) .executor)
    if ¬ ready then pure (some ⟨.running, "waiting for arm executor"⟩)
    else
      amend goal fun e => { e with port := .executor }
      amend goal fun e => { e with phase := .execute }
      invoke (ManipulationCall.execute goal plan current)
      pure none

/-- A cancelled goal ends with its backend. -/
def awaitEnd (goal : String) (e : ManipulationEntry) : Manipulation T Unit := do
  let result ← invoke (ManipulationCall.poll (T := T) e.port goal)
  if result.state.Terminal then finish goal fun e => { e with state := e.destination.entryStatus }
  else pure ()

/-- The body of `poll`; what it returns before its end. -/
def advance (config : ManipulationConfig) (goal : String) (e : ManipulationEntry) :
    Manipulation T (Option PortResult) := do
  if e.cancel then
    awaitEnd goal e
    let e ← Registry.entry missingEntry goal
    pure (some ⟨e.state.status, e.reason⟩)
  else
    let current ← context config (decide (e.phase = .plan))
    if ¬ current.Matches e.context then throw (invalidTask "planning context changed")
    else
      let result ← invoke (ManipulationCall.poll (T := T) e.port goal)
      if result.state = .failed ∨ result.state = .cancelled then
        cancelEntry goal (orElse result.reason "manipulation backend failed") false
        pure none
      else if result.state = .succeeded then
        if e.phase = .plan then handOff config goal current e.context
        else
          finish goal fun e => { e with state := .succeeded }
          pure none
      else pure none

def poll (config : ManipulationConfig) (goal : String) : Manipulation T PortResult := do
  let e ← Registry.entry missingEntry goal
  if e.state ≠ .running then pure ⟨e.state.status, e.reason⟩
  else
    let early ← tryCatch (advance config goal e) fun error => do
      cancelEntry goal error.text false
      pure none
    match early with
    | some result => pure result
    | none =>
      let e ← Registry.entry missingEntry goal
      pure ⟨e.state.status, e.reason⟩

end ManipulationPort

inductive ManipulationOp where
  | start (goal parameters : String)
  | poll (goal : String)
  | cancel (goal : String)

def ManipulationOp.action {T : Type} (config : ManipulationConfig) :
    ManipulationOp → Manipulation T Unit
  | .start goal parameters => ManipulationPort.start config goal parameters
  | .poll goal => do let _ ← ManipulationPort.poll config goal
  | .cancel goal => ManipulationPort.cancel goal

end MobileBimanual.Tasks
