/-
# Changes of the planning scene

`SceneUpdatePort` of `planning_scene_port.py`: an object is attached to a gripper or detached from
it by a write whose effect is read back.  A write that is not known to have gone through locks the
port; a cancellation never takes it back.
-/
import MobileBimanual.Tasks.SequencePort

namespace MobileBimanual.Tasks

open Activity Oracle

/-! ## 1. Changes -/

inductive SceneOperation where
  | attach | detach
  deriving DecidableEq

/-- A change as it is asked for; nothing stands for an operation that is none. -/
structure SceneDocument where
  operation : Option SceneOperation
  objectId : String
  arm : String
  linkName : String
  frameId : String
  position : List Scalar
  quaternion : List Scalar
  size : List Scalar
  touchLinks : List String
  observed : Scalar

structure SceneConfig where
  /-- The links of the gripper of an arm. -/
  gripperLinks : String → Option (List String)
  worldFrame : String
  maximumAge : ℚ
  /-- The change that the parameters of a goal describe. -/
  changeOf : String → Except Raised SceneDocument
  age_bounds : 0 < maximumAge ∧ maximumAge ≤ 2

def checkGeometry (values : List Scalar) (count : ℕ) (field : String) :
    Except Raised (List ℚ) :=
  if values.length ≠ count then .error (invalidTask "invalid collision geometry")
  else values.mapM (number field)

/-- `validate_scene_change`. -/
def SceneDocument.validate (p : SceneDocument) (config : SceneConfig) (now : Scalar) :
    Except Raised SceneDocument :=
  match p.operation with
  | none => .error (invalidTask "complete object scene change required")
  | some operation => do
    let _ ← identifier "scene object" p.objectId
    match config.gripperLinks p.arm with
    | none => .error (invalidTask "unknown gripper attachment link")
    | some links =>
      if p.linkName ∉ links then .error (invalidTask "unknown gripper attachment link")
      else if p.touchLinks = [] ∨ ¬ p.touchLinks.Nodup ∨ ¬ p.touchLinks ⊆ links ∨
          p.linkName ∉ p.touchLinks then
        .error (invalidTask "touch links must be confined to the selected gripper")
      else if p.frameId ≠ (if operation = .attach then p.linkName else config.worldFrame) then
        .error (invalidTask "explicit link-relative attachment or world release pose required")
      else
        let _ ← checkGeometry p.position 3 "position_m"
        let quaternion ← checkGeometry p.quaternion 4 "quaternion_xyzw"
        let size ← checkGeometry p.size 3 "size_m"
        if size.any fun d => decide (¬ (0 < d ∧ d ≤ 1)) then
          .error (invalidTask "bounded box geometry required")
        else if |(quaternion.map fun v => v * v).sum - 1| > 1 / 1000000 then
          .error (invalidTask "unit collision quaternion required")
        else
          let now ← number "scene clock" now
          let observed ← number "scene observation" p.observed
          if observed < 0 ∨ ¬ (0 ≤ now - observed ∧ now - observed ≤ config.maximumAge) then
            .error (invalidTask "stale scene pose")
          else return p

/-! ## 2. Entries -/

inductive ScenePhase where
  | apply | read
  deriving DecidableEq

/-- A future is known by a handle. -/
abbrev Future := ℕ

structure SceneEntry where
  change : SceneDocument
  phase : ScenePhase
  future : Option Future
  state : EntryStatus
  reason : String
  cancel : Bool

def SceneEntry.opened (change : SceneDocument) : SceneEntry where
  change := change
  phase := .apply
  future := none
  state := .running
  reason := ""
  cancel := false

/-- What a future comes to: the answer to a write, or a scene that was read. -/
inductive SceneValue where
  | applied (value : Bool)
  | scene (value : String)
  deriving DecidableEq

inductive SceneCall where
  | clock
  | ready
  | apply (change : SceneDocument)
  | read
  | done (future : Future)
  | result (future : Future)
  | agrees (change : SceneDocument) (value : SceneValue)

abbrev SceneCall.Result : SceneCall → Type
  | .clock => Scalar
  | .ready | .done _ | .agrees .. => Bool
  | .apply _ | .read => Future
  | .result _ => SceneValue

abbrev SceneCall.Reply (call : SceneCall) : Type := Except Raised call.Result

structure ScenePort where
  registry : Registry SceneEntry
  fault : Option String
  revision : ℕ

abbrev SceneWork (α : Type) := Activity SceneCall SceneCall.Reply Raised ScenePort α

namespace ScenePort

/-! ## 3. The functions of the port -/

def entry (goal : String) : SceneWork SceneEntry := do
  match (← get).registry.entries.lookup goal with
  | none => throw (keyError goal)
  | some e => pure e

def amend (goal : String) (f : SceneEntry → SceneEntry) : SceneWork PUnit :=
  modify fun w => { w with registry := w.registry.update goal f }

/-- The port is locked until it is recovered. -/
def lock (goal reason : String) : SceneWork PUnit :=
  modify fun w => { w with
    registry := w.registry.update goal fun e => { e with reason }
    fault := some reason }

def isReady : SceneWork Bool := do
  let w ← get
  if w.registry.owner.isSome ∨ w.fault.isSome then pure false else invoke SceneCall.ready

def start (config : SceneConfig) (goal parameters : String) : SceneWork Unit := do
  let ready ← isReady
  let w ← get
  if ¬ ready ∨ (w.registry.entries.lookup goal).isSome ∨ w.registry.size ≥ 128 then
    throw (invalidTask "scene owned, faulted or duplicate")
  else
    let now ← invoke SceneCall.clock
    let document ← expect (config.changeOf parameters)
    let change ← expect (document.validate config now)
    modify fun w => { w with registry := w.registry.enter goal (.opened change) }
    -- The write may have reached the service: it is not sent again.
    tryCatch
      (do
        let future ← invoke (SceneCall.apply change)
        amend goal fun e => { e with future := some future })
      fun error => lock goal ("scene_dispatch_unconfirmed:" ++ error.text)

def cancel (goal : String) : SceneWork Unit := do
  let _ ← entry goal
  amend goal fun e => { e with cancel := true }

/-- The owner's entry comes to its end. -/
def finish (goal : String) (state : EntryStatus) : SceneWork PUnit :=
  modify fun w => { w with registry := w.registry.leave goal fun e => { e with state } }

/-- The scene that was read tells what the write has done. -/
def conclude (goal : String) (e : SceneEntry) (value : SceneValue) : SceneWork Unit := do
  let agrees ← invoke (SceneCall.agrees e.change value)
  if ¬ agrees then
    lock goal "scene_readback_mismatch"
    finish goal .failed
  else if e.reason ≠ "" then
    modify fun w => { w with fault := some e.reason }
    finish goal .failed
  else
    modify fun w => { w with revision := w.revision + 1 }
    finish goal (if e.cancel then .cancelled else .succeeded)

def advance (goal : String) (e : SceneEntry) (future : Future) : SceneWork Unit := do
  let value ← invoke (SceneCall.result future)
  if e.phase = .apply then
    -- Even a negative answer does not tell what the scene was.
    amend goal fun e =>
      { e with
        reason := if value = .applied true then e.reason else "scene_apply_rejected"
        phase := .read }
    let future ← invoke SceneCall.read
    amend goal fun e => { e with future := some future }
  else conclude goal e value

/-- Whether the future of an entry has come to something. -/
def isDone : Option Future → SceneWork Bool
  | none => pure false
  | some future => invoke (SceneCall.done future)

def poll (goal : String) : SceneWork PortResult := do
  let e ← entry goal
  if e.state ≠ .running then return ⟨e.state.status, e.reason⟩
  else if (← get).fault.isSome then return ⟨.running, e.reason⟩
  else
    let done ← isDone e.future
    if ¬ done then return ⟨.running, e.reason⟩
    else
      tryCatch (advance goal e (e.future.getD 0)) fun error =>
        lock goal ("scene_result_unconfirmed:" ++ error.text)
      let e ← entry goal
      return ⟨e.state.status, e.reason⟩

/-- An operation on a goal that is not there raises, and changes nothing. -/
theorem program_entry_absent {α : Type} {w : ScenePort} {goal : String}
    {f : SceneEntry → SceneWork α} (h : w.registry.entries.lookup goal = none) :
    (entry goal >>= f).program w = .done (.error (keyError goal), w) := by
  unfold entry
  simp only [program_bind, program_get, Program.done_bind, goOn_ok, h, program_throw, goOn_error]

end ScenePort

end MobileBimanual.Tasks
