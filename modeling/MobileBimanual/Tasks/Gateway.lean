/-
# The gateway

`GatewayStore` and `Gateway` of `gateway.py`: the application behind its endpoints, and the table of
requests, which outlives the process.

The gateway calls the adapter, the clock, the source of nonces and the database; between two calls
the process may be killed (`Lib/Process`).  `GatewayWorld` is what is then still there.
-/
import MobileBimanual.Lib.Process
import MobileBimanual.Tasks.Application

namespace MobileBimanual.Tasks

open Activity Oracle
open Program (Conduct)

/-! ## 1. The table of requests -/

/-- The result of a request, as it is stored. -/
inductive StoredResult where
  | last (status : TaskStatus)
  /-- INTERRUPTED: the server was restarted before the task came to its end. -/
  | interrupted (status : TaskStatus)

structure Row where
  body : RequestDocument
  result : StoredResult

abbrev Table := AList fun _ : String => Row

namespace Table

/-- The body of a row that is there stays as it is. -/
def upsert (table : Table) (requestId : String) (body : RequestDocument) (result : StoredResult) :
    Table :=
  table.insert requestId ⟨((table.lookup requestId).map Row.body).getD body, result⟩

def update (table : Table) (requestId : String) (result : StoredResult) : Table :=
  match table.lookup requestId with
  | none => table
  | some row => table.insert requestId { row with result }

end Table

/-! ## 2. Calls -/

inductive GatewayCall where
  | adapter (call : AdapterCall)
  | monotonic
  | token
  | createTable
  | rows
  | select (requestId : String)
  | insert (requestId : String) (body : RequestDocument) (result : StoredResult)
  | update (requestId : String) (result : StoredResult)
  | commit

abbrev GatewayCall.Result : GatewayCall → Type
  | .adapter call => call.Result
  | .monotonic => ℚ
  | .token => String
  | .rows => List (String × StoredResult)
  | .select _ => Option Row
  | _ => Unit

abbrev GatewayCall.Reply (call : GatewayCall) : Type := Except Raised call.Result

/-! ## 3. The gateway -/

structure Gateway where
  app : RobotApplication
  /-- When each permit runs out. -/
  permits : List (String × ℚ)
  faulted : Bool

abbrev Service (α : Type) := Activity GatewayCall GatewayCall.Reply Raised Gateway α

inductive Endpoint where
  | permit
  | map
  | preview (requestId : String) (document : NavigateDocument)
  | health
  /-- Nothing stands for a body that is no object. -/
  | submit (body : Option RequestDocument) (permit : Option String)
    (admission : Except Raised Bool)
  | status (requestId : String)
  | cancel (requestId : String) (empty : Bool)
  | unknown

/-- What a gateway that has latched a fault does not serve. -/
def Endpoint.guarded : Endpoint → Bool
  | .permit | .submit .. => true
  | _ => false

inductive GatewayReply where
  | error (code : Nat) (text : String)
  | permit (nonce : String)
  | map (document : MapDocument)
  | plan (plan : NavigationMap.NavigationPlan)
  | health (code : Nat) (activeRequest : Option String)
  | status (code : Nat) (result : StoredResult)

namespace Gateway

/-- Unfinished tasks are interrupted. -/
def interrupt : List (String × StoredResult) → Service Unit
  | [] => pure ()
  | (_, .interrupted _) :: rest => interrupt rest
  | (requestId, .last status) :: rest =>
    if status.result.status.Terminal then interrupt rest
    else do
      invoke (GatewayCall.update requestId (.interrupted status))
      interrupt rest

/-- `GatewayStore(path)`. -/
def openStore : Service Unit := do
  invoke GatewayCall.createTable
  let rows ← invoke GatewayCall.rows
  interrupt rows
  invoke GatewayCall.commit

/-- `GatewayStore.save`. -/
def save (body : RequestDocument) (result : TaskStatus) : Service Unit := do
  match body.requestId with
  | none => throw (keyError "request_id")
  | some requestId =>
    invoke (GatewayCall.insert requestId body (.last result))
    invoke GatewayCall.commit

def now : Service Scalar := do
  let reading ← invoke GatewayCall.monotonic
  return .finite reading

def onApp {α : Type} (x : Application α) : Service α :=
  zoom Gateway.app (fun app g => { g with app }) (x.named GatewayCall.adapter fun _ => id)

/-- The request of the task that was ticked is saved with its status. -/
def record : Option TaskStatus → Service Unit
  | none => pure ()
  | some status => do
    match (← get).app.tasks.lookup status.requestId with
    | none => throw (keyError status.requestId)
    | some t => save t.request status

def tick : Service Unit := do
  let now ← now
  let status ← onApp (RobotApplication.tick now)
  record status

/-- The task that holds the lease is cancelled. -/
def haltOwner : Service Unit := do
  match (← get).app.lease.owner with
  | none => pure ()
  | some owner =>
    let now ← now
    let _ ← onApp (RobotApplication.cancel owner now)

def latchFault : Service Unit := do
  modify fun g => { g with faulted := true, permits := [] }
  haltOwner

def issuePermit : Service GatewayReply := do
  let now ← invoke GatewayCall.monotonic
  modify fun g => { g with permits := g.permits.filter (now < ·.2) }
  if (← get).permits.length ≥ 128 then return .error 429 "too_many_pending_permits"
  else
    let nonce ← invoke GatewayCall.token
    modify fun g =>
      { g with permits := (nonce, now + 3) :: g.permits.filter (·.1 ≠ nonce) }
    return .permit nonce

/-- `self.permits.pop(permit)`. -/
def pop (permit : String) : Service Unit := do
  match (← get).permits.lookup permit with
  | none => throw (keyError permit)
  | some _ => modify fun g => { g with permits := g.permits.filter (·.1 ≠ permit) }

/-- The status that a request has already. -/
def known (requestId : String) (row : Row) : Service StoredResult := do
  let g ← get
  if (g.app.tasks.lookup requestId).isSome then
    return .last (← expect (g.app.status requestId))
  else return row.result

/-- A request is saved before its task may start; a task that cannot be saved is cancelled. -/
def persist (requestId : String) (body : RequestDocument) (status : TaskStatus) : Service Unit :=
  tryCatch (save body status) fun error => do
    let now ← now
    let _ ← onApp (RobotApplication.cancel requestId now)
    throw error

def takeOn (requestId : String) (body : RequestDocument) (permit : String)
    (admission : Except Raised Bool) : Service GatewayReply := do
  let now ← now
  let status ← onApp (RobotApplication.submit body now admission)
  pop permit
  persist requestId body status
  return .status 202 (.last status)

/-- A request that is not stored needs a permit that has not run out. -/
def submitNew (requestId : String) (body : RequestDocument) (permit : Option String)
    (admission : Except Raised Bool) : Service GatewayReply := do
  match permit with
  | none => return .error 409 "fresh_request_permit_required"
  | some permit =>
    let g ← get
    let now ← invoke GatewayCall.monotonic
    if (g.permits.lookup permit).getD 0 ≤ now then
      return .error 409 "fresh_request_permit_required"
    else takeOn requestId body permit admission

/-- A request with the row that the table has of it. -/
def submitFor (requestId : String) (body : RequestDocument) (permit : Option String)
    (admission : Except Raised Bool) : Option Row → Service GatewayReply
  | some row => do
    if row.body ≠ body then return .error 409 "request_id_conflict"
    else return .status 200 (← known requestId row)
  | none => submitNew requestId body permit admission

def submit (body : Option RequestDocument) (permit : Option String)
    (admission : Except Raised Bool) : Service GatewayReply := do
  match body with
  | none => throw (invalidTask "JSON object required")
  | some body =>
    let requestId ← expect (match body.requestId with
      | none => .error (invalidTask "invalid request_id")
      | some requestId => identifier "request_id" requestId)
    let previous ← invoke (GatewayCall.select requestId)
    submitFor requestId body permit admission previous

def statusOf (requestId : String) : Service GatewayReply := do
  let requestId ← expect (identifier "request_id" requestId)
  match ← invoke (GatewayCall.select requestId) with
  | none => return .error 404 "unknown_request"
  | some row => return .status 200 (← known requestId row)

def cancelKnown (requestId : String) (empty : Bool) (row : Row) : Service GatewayReply := do
  if empty = false then throw (invalidTask "cancel body must be {}")
  else if ((← get).app.tasks.lookup requestId).isNone then return .status 200 row.result
  else
    let now ← now
    let status ← onApp (RobotApplication.cancel requestId now)
    save row.body status
    return .status 202 (.last status)

def cancel (requestId : String) (empty : Bool) : Service GatewayReply := do
  let requestId ← expect (identifier "request_id" requestId)
  match ← invoke (GatewayCall.select requestId) with
  | none => return .error 404 "unknown_request"
  | some row => cancelKnown requestId empty row

def serve : Endpoint → Service GatewayReply
  | .permit => issuePermit
  | .map => do return .map (← get).app.map.document
  | .preview requestId document => do
    let app := (← get).app
    if app.poseKnown = false then throw (invalidTask "localization_required")
    else
      let request ← expect (document.request requestId)
      return .plan (← expect (app.map.plan request app.x app.y))
  | .health => do
    let g ← get
    return .health (if g.faulted then 503 else 200) g.app.lease.owner
  | .submit body permit admission => submit body permit admission
  | .status requestId => statusOf requestId
  | .cancel requestId empty => cancel requestId empty
  | .unknown => return .error 404 "unknown_endpoint"

def dispatch (authorized : Bool) (endpoint : Endpoint) : Service GatewayReply := do
  if authorized = false then return .error 401 "unauthorized"
  else if (← get).faulted ∧ endpoint.guarded then return .error 503 "gateway_fault_latched"
  else serve endpoint

end Gateway

inductive GatewayOp where
  | dispatch (authorized : Bool) (endpoint : Endpoint)
  | tick
  | latchFault
  /-- The process is about to end, in good order. -/
  | halt
  /-- What the assistant does to the application. -/
  | replaceMap (map : NavigationMap)
  | localize (x y : Scalar)

def GatewayOp.action : GatewayOp → Service (Option GatewayReply)
  | .dispatch authorized endpoint => do return some (← Gateway.dispatch authorized endpoint)
  | .tick => do
    Gateway.tick
    return none
  | .latchFault => do
    Gateway.latchFault
    return none
  | .halt => do
    Gateway.haltOwner
    return none
  | .replaceMap map => do
    let now ← Gateway.now
    Gateway.onApp (RobotApplication.replaceMap map now)
    return none
  | .localize x y => do
    let now ← Gateway.now
    Gateway.onApp (RobotApplication.localizeSimulated x y now)
    return none

/-! ## 4. The world -/

/-- The table as it was committed and as this connection sees it, the clock, and what the adapter
was told to start, each under the number of the process. -/
structure GatewayWorld where
  durable : Table
  working : Table
  now : ℚ
  lifetime : ℕ
  started : List (ℕ × String)

namespace GatewayWorld

def requestOf (goal : String) : String := String.ofList (goal.toList.takeWhile (· ≠ '/'))

/-- With the process goes what it has not committed. -/
def lost (w : GatewayWorld) : GatewayWorld :=
  { w with working := w.durable, now := 0, lifetime := w.lifetime + 1 }

def noted (w : GatewayWorld) : AdapterCall → GatewayWorld
  | .start goal _ _ => { w with started := (w.lifetime, goal) :: w.started }
  | _ => w

/-- A statement that fails leaves the transaction as it was, or rolls it back. -/
def Failed (w v : GatewayWorld) : Prop := v = w ∨ v = { w with working := w.durable }

/-- How the calls are answered.  The clock does not go back; a commit that fails may have been
carried out, or not, or may have been rolled back. -/
def Answers : (call : GatewayCall) → GatewayWorld → call.Reply → GatewayWorld → Prop
  | .adapter call, w, _, v => v = w.noted call
  | .monotonic, w, .ok now, v => w.now ≤ now ∧ v = { w with now }
  | .monotonic, _, .error _, _ => False
  | .token, w, .ok _, v => v = w
  | .token, _, .error _, _ => False
  | .createTable, w, .ok _, v => v = w
  | .rows, w, .ok rows, v => v = w ∧ rows = w.working.entries.map fun e => (e.1, e.2.result)
  | .select requestId, w, .ok row, v => v = w ∧ row = w.working.lookup requestId
  | .insert requestId body result, w, .ok _, v =>
    v = { w with working := w.working.upsert requestId body result }
  | .update requestId result, w, .ok _, v =>
    v = { w with working := w.working.update requestId result }
  | .commit, w, .ok _, v => v = { w with durable := w.working }
  | .commit, w, .error _, v => w.Failed v ∨ v = { w with durable := w.working }
  | .createTable, w, .error _, v | .rows, w, .error _, v | .select _, w, .error _, v
  | .insert .., w, .error _, v | .update .., w, .error _, v => w.Failed v

end GatewayWorld

end MobileBimanual.Tasks
