/-
# A search carried out

`SearchSkillPort` of `workflow_ports.py`: each goal has a session of its own, whose actions are
carried out by a port that moves to a view and one that captures.  The ports, the clock, the
feedback of the motion, the stop and the sink of the targets answer as they like, and every one of
them may raise.
-/
import MobileBimanual.Tasks.Search
import MobileBimanual.Tasks.SequencePort

namespace MobileBimanual.Tasks

open Activity Oracle Registry

/-! ## 1. Calls and entries -/

inductive SearchPortName where
  | move | capture

/-- What a child is started with. -/
inductive SearchParameters where
  | view (parameters : String)
  | object (objectId : String) (viewId : Option String) (requested : ℚ)

inductive SearchCall where
  | makeSession (goal parameters : String) (now : Scalar)
  | clock
  | motion
  | ready (port : SearchPortName)
  | start (port : SearchPortName) (action : String) (parameters : SearchParameters)
  | poll (port : SearchPortName) (action : String)
  | cancel (port : SearchPortName) (action : String)
  | phaseSafe (action : String)
  | result (action : String)
  | stopRequest (action : String) (now : Scalar)
  | stopPoll (action : String) (now : Scalar)
  | sink (target : Option SearchTarget)

abbrev SearchCall.Result : SearchCall → Type
  | .makeSession .. => SearchDocument
  | .clock => Scalar
  | .motion => MotionEvidence
  | .ready _ | .phaseSafe _ => Bool
  | .start .. | .cancel .. | .stopRequest .. | .sink _ => Unit
  | .poll .. => PortResult
  | .result _ => SearchSession.Observation
  | .stopPoll .. => Feedback

abbrev SearchCall.Reply (call : SearchCall) : Type := Except Raised call.Result

/-- A session with the child under way, which is a port and the action it carries out. -/
structure SearchEntry where
  session : SearchSession
  child : Option (SearchPortName × String)
  stopSent : Bool
  delivered : Bool

abbrev SearchPort := Registry SearchEntry

abbrev SearchWork (α : Type) := Activity SearchCall SearchCall.Reply Raised SearchPort α

abbrev SearchJournal := Journal SearchCall SearchCall.Reply

namespace SearchPort

/-! ## 2. The functions of the port -/

/-- A step of the session of a goal. -/
def onSession {α : Type} (goal : String) (x : Searching α) : SearchWork α := do
  let e ← Registry.entry keyError goal
  amend goal fun e' => { e' with session := (x.on e.session).2 }
  expect (x.on e.session).1

def ready : SearchWork Bool := do
  if (← get).owner.isSome then return false
  else if ← invoke (SearchCall.ready .move) then invoke (SearchCall.ready .capture)
  else return false

def start (goal parameters : String) : SearchWork Unit := do
  let ready ← ready
  let w ← get
  if ¬ ready ∨ (w.entries.lookup goal).isSome ∨ w.size ≥ 128 then
    throw (invalidTask "search_owned_or_duplicate")
  else
    let now ← invoke SearchCall.clock
    let document ← invoke (SearchCall.makeSession goal parameters now)
    let session ← expect (SearchSession.create document)
    modify fun w => w.enter goal { session, child := none, stopSent := false, delivered := false }

def cancel (goal : String) : SearchWork Unit := do
  let _ ← Registry.entry keyError goal
  let now ← invoke SearchCall.clock
  onSession goal (SearchSession.cancel now)

def cancelChild : Option (SearchPortName × String) → SearchWork Unit
  | none => pure ()
  | some (port, action) => invoke (SearchCall.cancel port action)

/-- The child is cancelled and the stop requested, once both have gone through. -/
def requestStop (goal : String) (action : SearchAction) (now : Scalar) : SearchWork Unit := do
  let e ← Registry.entry keyError goal
  if e.stopSent then pure ()
  else
    let cancelled ← (cancelChild e.child).attempt
    invoke (SearchCall.stopRequest action.actionId now)
    expect cancelled
    amend goal fun e => { e with stopSent := true }

def childIdle (goal : String) : SearchWork Bool := do
  match (← Registry.entry keyError goal).child with
  | none => return true
  | some (port, action) =>
    let result ← invoke (SearchCall.poll port action)
    return decide result.state.Terminal

/-- A session that stops. -/
def halt (goal : String) (action : SearchAction) (now : Scalar) : SearchWork Unit := do
  requestStop goal action now
  let feedback ← invoke (SearchCall.stopPoll action.actionId now)
  let idle ← childIdle goal
  if feedback.status = .stopped ∧ idle then
    let motion ← invoke SearchCall.motion
    onSession goal (SearchSession.confirmStop action.actionId motion now true
      (feedback.conditions.Satisfy ["arms_holding"]))
  else pure ()

/-- The parameters of a child. -/
def parameters (views : List (String × String)) (s : SearchSession) (action : SearchAction) :
    Except Raised SearchParameters :=
  if action.kind = .moveToView then
    match views.lookup (action.viewId.getD "") with
    | none => .error (keyError (action.viewId.getD ""))
    | some parameters => .ok (.view parameters)
  else .ok (.object s.objectId action.viewId action.issued)

def portOf (action : SearchAction) : SearchPortName :=
  if action.kind = .moveToView then .move else .capture

/-- The child for an action is started, unless it is under way; false if its port is not ready. -/
def launch (views : List (String × String)) (goal : String) (action : SearchAction) :
    SearchWork Bool := do
  let e ← Registry.entry keyError goal
  if e.child.map (·.2) = some action.actionId then return true
  else
    let ready ← invoke (SearchCall.ready (portOf action))
    if ¬ ready then return false
    else
      amend goal fun e => { e with child := some (portOf action, action.actionId) }
      let parameters ← expect (parameters views e.session action)
      invoke (SearchCall.start (portOf action) action.actionId parameters)
      return true

/-- The child has done what the action asks for. -/
def complete (goal : String) (action : SearchAction) (now : Scalar) : SearchWork Unit := do
  if action.kind = .moveToView then
    let motion ← invoke SearchCall.motion
    onSession goal (SearchSession.arrive action.actionId motion now true true)
  else
    let observation ← invoke (SearchCall.result action.actionId)
    let motion ← invoke SearchCall.motion
    let _ ← onSession goal (SearchSession.observe action.actionId observation motion now)
  amend goal fun e => { e with child := none }

/-- The child as it stands. -/
def follow (goal : String) (action : SearchAction) (now : Scalar) : SearchWork Unit := do
  let port := ((← Registry.entry keyError goal).child.map (·.1)).getD (portOf action)
  let result ← invoke (SearchCall.poll port action.actionId)
  if result.state = .succeeded then complete goal action now
  else if result.state = .failed ∨ result.state = .cancelled then
    -- A failed movement does not authorize another view before the stop.
    onSession goal (SearchSession.stop (orElse result.reason "search_child_failed") .failed)
  else pure ()

/-- One step of the session and of what carries it out; the result, if the poll ends here. -/
def advance (views : List (String × String)) (goal : String) (now : Scalar) :
    SearchWork (Option PortResult) := do
  let motion ← invoke SearchCall.motion
  match ← onSession goal (SearchSession.poll motion now) with
  | none => return none
  | some action =>
    if action.kind = .stopSearch then
      halt goal action now
      return none
    else if ← launch views goal action then
      follow goal action now
      return none
    else return some ⟨.running, ""⟩

/-- The target is handed over once; the goal owns again if it is not taken. -/
def deliver (goal : String) (target : Option SearchTarget) : SearchWork PortResult := do
  match ← (invoke (SearchCall.sink target)).attempt with
  | .ok _ =>
    amend goal fun e => { e with delivered := true }
    return ⟨.succeeded, ""⟩
  | .error error =>
    modify fun w => { w with owner := some goal }
    onSession goal (SearchSession.stop ("target_sink_failed:" ++ error.text) .failed)
    return ⟨.running, ""⟩

def conclude (goal : String) : SearchWork PortResult := do
  let e ← Registry.entry keyError goal
  if ¬ e.session.state.Terminal then return ⟨.running, ""⟩
  else
    modify fun w => { w with owner := none }
    if e.session.state = .found then
      if e.delivered then return ⟨.succeeded, ""⟩ else deliver goal e.session.target
    else
      return ⟨if e.session.state = .cancelled then .cancelled else .failed, e.session.reason⟩

def poll (views : List (String × String)) (goal : String) : SearchWork PortResult := do
  let _ ← Registry.entry keyError goal
  let now ← invoke SearchCall.clock
  let ended ← tryCatch (advance views goal now) fun error => do
    onSession goal (SearchSession.stop ("search_adapter_error:" ++ error.text) .failed)
    return none
  match ended with
  | some result => return result
  | none => conclude goal

def phaseSafe (goal : String) : SearchWork Bool := do
  let e ← Registry.entry keyError goal
  if e.session.state = .moving then
    match e.child with
    | some (.move, action) => invoke (SearchCall.phaseSafe action)
    | _ => return false
  else
    tryCatch
      (do
        let motion ← invoke SearchCall.motion
        let now ← invoke SearchCall.clock
        let now ← expect (number "now" now)
        let _ ← expect (e.session.camera.stationarySince motion now)
        return decide (e.session.state ≠ .stopping ∧ e.session.state ≠ .failed))
      fun _ => return false

end SearchPort

inductive SearchOp where
  | ready
  | start (goal parameters : String)
  | poll (goal : String)
  | cancel (goal : String)
  | phaseSafe (goal : String)

def SearchOp.action (views : List (String × String)) : SearchOp → SearchWork Unit
  | .ready => do let _ ← SearchPort.ready
  | .start goal parameters => SearchPort.start goal parameters
  | .poll goal => do let _ ← SearchPort.poll views goal
  | .cancel goal => SearchPort.cancel goal
  | .phaseSafe goal => do let _ ← SearchPort.phaseSafe goal

end MobileBimanual.Tasks
