/-
# The application

`RobotApplication` of `application.py`: requests to go somewhere or to fetch something, one task at
a time under one lease, on a map that may be replaced and from a pose that may be lost.

How a fetch request is planned is left open (`planFetch`), and what the callback of admission
answers comes with the request.
-/
import Mathlib.Data.List.AList
import MobileBimanual.Lib.Layer
import MobileBimanual.Tasks.Execution
import MobileBimanual.Tasks.NavigationMap

namespace MobileBimanual.Tasks

open Activity Oracle

/-! ## 1. Requests -/

structure NavigateDocument where
  /-- The fields are the ones expected, and no others. -/
  fields : Bool
  schemaVersion : Option ℤ
  mapId : String
  mapRevision : String
  floorId : String
  frameId : String
  /-- x, y and z, if the point has these and no others. -/
  point : Option (Scalar × Scalar × Scalar)
  yaw : Scalar
  deriving DecidableEq

inductive Operation where
  | navigateTo (document : NavigateDocument)
  /-- Whether the envelope is in order, and what it contains. -/
  | fetchObject (envelope : Bool) (request : String)
  | other (text : String)
  deriving DecidableEq

structure RequestDocument where
  /-- Nothing stands for an id that is missing or no text. -/
  requestId : Option String
  operation : Operation
  deriving DecidableEq

/-- `math.pi`. -/
def pi : ℚ := 884279719003555 / 281474976710656

/-- `NavigateRequest.from_dict`. -/
def NavigateDocument.request (d : NavigateDocument) (requestId : String) :
    Except Raised NavigationMap.NavigateRequest :=
  if ¬ d.fields then .error (invalidTask "invalid navigate_to fields")
  else if d.schemaVersion ≠ some 1 then .error (invalidTask "unsupported navigation request")
  else
    match d.point with
    | none => .error (invalidTask "point must contain x/y/z in map metres")
    | some (x, y, z) => do
      let yaw ← number "yaw_rad" d.yaw
      if ¬ (-pi ≤ yaw ∧ yaw ≤ pi) then .error (invalidTask "yaw_rad outside [-pi, pi]")
      else
        let requestId ← identifier "request_id" requestId
        let mapId ← identifier "map_id" d.mapId
        let mapRevision ← identifier "map_revision" d.mapRevision
        let floorId ← identifier "floor_id" d.floorId
        let frameId ← identifier "frame_id" d.frameId
        let x ← number "x" x
        let y ← number "y" y
        let z ← number "z" z
        return ⟨requestId, mapId, mapRevision, floorId, frameId, x, y, z, yaw⟩

/-- What a request has been planned as. -/
inductive Planned where
  | navigate (plan : NavigationMap.NavigationPlan)
  | fetch (steps : List StepDocument)

def navigateStep (plan : NavigationMap.NavigationPlan) : StepDocument where
  skill := "navigate_to"
  stepId := "01_navigate_to"
  timeout := .finite 180
  startRequires := ["hardware_ready", "localized", "base_stopped", "lift_stopped",
    "arm_in_transport_pose", "lift_in_transport_position"]
  successRequires := ["localized_at_destination", "base_stopped", "lift_stopped",
    "arm_in_transport_pose", "lift_in_transport_position"]
  parameters := reprStr plan

def Planned.steps : Planned → List StepDocument
  | .navigate plan => [navigateStep plan]
  | .fetch steps => steps

/-! ## 2. The application -/

structure AppConfig where
  exactGoalSimulation : Bool
  taskTimeout : ℚ
  /-- The plan of a fetch request in the world of the application. -/
  planFetch : String → Except Raised (List StepDocument)
  timeout_bounds : 0 < taskTimeout ∧ taskTimeout ≤ 3600

/-- A request that was taken on; the lease of its task is the one of the application. -/
structure AppTask where
  request : RequestDocument
  task : TaskExecutor
  plan : Planned

def AppTask.shared (t : AppTask) (lease : TaskLease) : TaskExecutor := { t.task with lease }

structure RobotApplication where
  config : AppConfig
  map : NavigationMap
  x : ℚ
  y : ℚ
  lease : TaskLease
  tasks : AList fun _ : String => AppTask
  now : ℚ
  poseKnown : Bool
  pendingMap : Option NavigationMap

abbrev Application (α : Type) := Activity AdapterCall AdapterCall.Reply Raised RobotApplication α

structure TaskStatus where
  requestId : String
  operation : Operation
  result : TaskExecutor.TaskResult
  plan : Planned

namespace RobotApplication

/-- `RobotApplication(...)`. -/
def create (config : AppConfig) (map : NavigationMap) (x y : Scalar) (lease : TaskLease) :
    Except Raised RobotApplication := do
  let _ ← map.cell x y
  return ⟨config, map, x.value, y.value, lease, ∅, 0, true, none⟩

def clock (now : Scalar) : Application Unit := do
  let now ← expect (seconds "now_s" now)
  if now < (← get).now then throw (invalidTask "application clock moved backwards")
  else modify fun a => { a with now }

/-- The task after something was done by it. -/
def put (requestId : String) (t : AppTask) (e : TaskExecutor) (a : RobotApplication) :
    RobotApplication :=
  { a with tasks := a.tasks.insert requestId { t with task := e }, lease := e.lease }

/-- What is done by the task of a request. -/
def withTask {α : Type} (requestId : String) (x : Execution α) : Application α := do
  match (← get).tasks.lookup requestId with
  | none => throw (keyError requestId)
  | some t =>
    zoom (fun a => t.shared a.lease) (put requestId t) x

def status (a : RobotApplication) (requestId : String) : Except Raised TaskStatus :=
  match a.tasks.lookup requestId with
  | none => .error (invalidTask "unknown_request")
  | some t => .ok ⟨requestId, t.request.operation, (t.shared a.lease).result, t.plan⟩

/-- Where the request is to go, from the pose that is known. -/
def plan (a : RobotApplication) (requestId : String) : Operation → Except Raised Planned
  | .navigateTo document => do
    let goal ← document.request requestId
    if ¬ a.poseKnown then .error (invalidTask "localization_required")
    else return .navigate (← a.map.plan goal a.x a.y)
  | .fetchObject envelope request =>
    if ¬ envelope then .error (invalidTask "invalid fetch envelope")
    else return .fetch (← a.config.planFetch request)
  | .other _ => .error (invalidTask "unsupported operation")

/-- A request that is not known yet. -/
def take (request : RequestDocument) (requestId : String) (admission : Except Raised Bool) :
    Application TaskStatus := do
  let admitted ← expect admission
  let a ← get
  if ¬ admitted then
    throw (invalidTask "runtime not ready; explicit recovery may be required")
  else if a.tasks.keys.length ≥ 128 then throw (invalidTask "session_history_full")
  else if a.lease.owner.isSome then throw (invalidTask "robot_busy")
  else
    let plan ← expect (a.plan requestId request.operation)
    let e ← expect (TaskExecutor.create requestId plan.steps "simulation" a.lease (.finite a.now)
      (.finite (1 / 2)) (.finite 2) (.finite a.config.taskTimeout))
    modify fun a =>
      { a with tasks := a.tasks.insert requestId ⟨request, e, plan⟩, lease := e.lease }
    expect ((← get).status requestId)

def submit (request : RequestDocument) (now : Scalar) (admission : Except Raised Bool) :
    Application TaskStatus := do
  clock now
  let requestId ← expect (match request.requestId with
    | none => .error (invalidTask "invalid request_id")
    | some requestId => identifier "request_id" requestId)
  let a ← get
  match a.tasks.lookup requestId with
  | some t =>
    if t.request ≠ request then throw (invalidTask "request_id_conflict")
    else expect (a.status requestId)
  | none => take request requestId admission

/-- The map is replaced only while no task runs, and the pose has to be found on it. -/
def commitPendingMap : Application Unit :=
  modify fun a =>
    match a.pendingMap, a.lease.owner with
    | some map, none => { a with map, pendingMap := none, poseKnown := false }
    | _, _ => a

/-- Where the robot is after its task. -/
def settlePose (a : RobotApplication) (t : AppTask) : RobotApplication :=
  if t.task.state.Terminal then
    match t.plan with
    | .navigate plan =>
      if a.config.exactGoalSimulation ∧ t.task.state = .succeeded then
        { a with x := plan.goalX, y := plan.goalY, poseKnown := true }
      else { a with poseKnown := false }
    | .fetch _ => { a with poseKnown := false }
  else a

def tick (now : Scalar) : Application (Option TaskStatus) := do
  clock now
  let a ← get
  match a.lease.owner with
  | none =>
    commitPendingMap
    return none
  | some owner =>
    withTask owner (TaskExecutor.tick (.finite a.now))
    modify fun a =>
      match a.tasks.lookup owner with
      | none => a
      | some t => a.settlePose t
    commitPendingMap
    return some (← expect ((← get).status owner))

def cancel (requestId : String) (now : Scalar) : Application TaskStatus := do
  clock now
  let a ← get
  match a.tasks.lookup requestId with
  | none => throw (invalidTask "unknown_request")
  | some t =>
    modify fun a => if t.task.state.Terminal then a else { a with poseKnown := false }
    withTask requestId (TaskExecutor.cancel (.finite a.now) "cancelled")
    expect ((← get).status requestId)

/-- The task that runs is cancelled for a new map. -/
def cancelForMap : Application Unit := do
  let a ← get
  match a.lease.owner with
  | none => pure ()
  | some owner => withTask owner (TaskExecutor.cancel (.finite a.now) "map_changed")

/-- A revision is immutable: its geometry is never replaced silently. -/
def replaceMap (map : NavigationMap) (now : Scalar) : Application Unit := do
  clock now
  let a ← get
  if (map.mapId, map.revision) = (a.map.mapId, a.map.revision) then
    if map.document ≠ a.map.document then throw (invalidTask "map_revision_reused")
    else pure ()
  else
    match a.pendingMap with
    | some pending =>
      if map.document ≠ pending.document then throw (invalidTask "map_update_pending")
      else pure ()
    | none =>
      modify fun a => { a with pendingMap := some map, poseKnown := false }
      cancelForMap
      commitPendingMap

def localizeSimulated (x y now : Scalar) : Application Unit := do
  clock now
  let a ← get
  if a.lease.owner.isSome then throw (invalidTask "robot_busy")
  else
    let _ ← expect (a.map.cell x y)
    modify fun a => { a with x := x.value, y := y.value, poseKnown := true }

end RobotApplication

/-! ## 3. What may be asked of it -/

inductive AppOp where
  | submit (request : RequestDocument) (now : Scalar) (admission : Except Raised Bool)
  | tick (now : Scalar)
  | cancel (requestId : String) (now : Scalar)
  | replaceMap (map : NavigationMap) (now : Scalar)
  | localize (x y now : Scalar)

def AppOp.action : AppOp → Application Unit
  | .submit request now admission => do let _ ← RobotApplication.submit request now admission
  | .tick now => do let _ ← RobotApplication.tick now
  | .cancel requestId now => do let _ ← RobotApplication.cancel requestId now
  | .replaceMap map now => RobotApplication.replaceMap map now
  | .localize x y now => RobotApplication.localizeSimulated x y now

end MobileBimanual.Tasks
