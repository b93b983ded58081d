/-
# Checked composition of skills

`SequencePort` of `workflow_ports.py`: a goal is a list of phases, each carried out by a child port
under conditions that a monitor reports.  The children, the monitor, the clock and the function that
builds the phases answer as they like, and every one of them may raise.

The lemmas of the second half follow the owner's entry through one call (`Lib/Registry`); `Entry.law`
says what an entry and its journal have in common from one call to the next.
-/
import MobileBimanual.Lib.Registry
import MobileBimanual.Tasks.Data

namespace MobileBimanual.Tasks

open Activity Oracle Machine Registry

/-! ## 1. Phases and entries -/

structure Phase (P : Type) where
  name : String
  port : P
  parameters : String
  before : List String
  during : List String
  after : List String
  timeout : ℚ
  deriving DecidableEq

/-- A phase as it is built. -/
structure PhaseDocument (P : Type) where
  name : String
  port : P
  parameters : String
  before : List String
  during : List String
  after : List String
  timeout : Scalar

/-- A child goal: the goal and the index of the phase. -/
structure Child where
  goal : String
  index : Nat
  deriving DecidableEq

def Child.text (child : Child) : String := child.goal ++ "/" ++ toString child.index

structure SequenceEntry (P : Type) where
  phases : List (Phase P)
  index : Nat
  started : Bool
  phaseAt : ℚ
  status : EntryStatus
  cancel : Bool
  destination : StopDestination
  reason : String
  history : List (String × ℚ)

inductive SequenceCall (P : Type) where
  | build (parameters : String)
  | clock
  | monitor (child : Child) (phase : String) (now : ℚ)
  | ready (port : P)
  | start (port : P) (child : Child) (parameters : String)
  | poll (port : P) (child : Child)
  | cancel (port : P) (child : Child)

abbrev SequenceCall.Result {P : Type} : SequenceCall P → Type
  | .build _ => List (PhaseDocument P)
  | .clock => ℚ
  | .monitor .. => Feedback
  | .ready _ => Bool
  | .start .. | .cancel .. => Unit
  | .poll .. => PortResult

abbrev SequenceCall.Reply {P : Type} (call : SequenceCall P) : Type := Except Raised call.Result

abbrev SequencePort (P : Type) := Registry (SequenceEntry P)

abbrev Sequence (P α : Type) := Activity (SequenceCall P) SequenceCall.Reply Raised (SequencePort P) α

def indexError : Raised := ⟨"IndexError", "tuple index out of range"⟩

/-! ## 2. The functions of the port -/

namespace SequencePort

variable {P : Type}

def ready (w : SequencePort P) : Bool := w.owner.isNone

def checkPhase (document : PhaseDocument P) : Except Raised (Phase P) := do
  let timeout ← number "phase timeout" document.timeout
  if 0 < timeout ∧ timeout ≤ 3600 then return { document with timeout }
  else .error (invalidTask "bounded phases required")

def checkPhases (documents : List (PhaseDocument P)) : Except Raised (List (Phase P)) :=
  if ¬ (1 ≤ documents.length ∧ documents.length ≤ 64) then
    .error (invalidTask "bounded phases required")
  else documents.mapM checkPhase

def start (goal parameters : String) : Sequence P Unit := do
  let w ← get
  if w.owner.isSome ∨ (w.entries.lookup goal).isSome ∨ w.size ≥ 128 then
    throw (invalidTask "sequence_owned_or_duplicate")
  else
    let documents ← invoke (SequenceCall.build parameters)
    let phases ← expect (checkPhases documents)
    let now ← invoke (SequenceCall.clock (P := P))
    let now ← expect (number "phase start" (.finite now))
    modify fun w => w.enter goal
      { phases, index := 0, started := false, phaseAt := now, status := .running, cancel := false,
        destination := .failed, reason := "", history := [] }

/-- Fresh conditions of the phase. -/
def evidence (maxAge : ℚ) (child : Child) (phase : Phase P) (earliest : ℚ) :
    Sequence P Conditions := do
  let now ← invoke (SequenceCall.clock (P := P))
  let now ← expect (number "phase clock" (.finite now))
  let feedback ← invoke (SequenceCall.monitor (P := P) child phase.name now)
  if feedback.goalId ≠ child.text then throw (invalidTask "stale_phase_evidence")
  else
    let stamp ← expect (number "feedback time" feedback.observed)
    if ¬ (earliest ≤ stamp ∧ stamp ≤ now) ∨ now - stamp > maxAge then
      throw (invalidTask "stale_phase_evidence")
    else pure feedback.conditions

/-- `_cancel`. -/
def cancelEntry (goal reason : String) (cancelled : Bool) : Sequence P Unit := do
  let e ← Registry.entry keyError goal
  if e.status ≠ .running ∨ e.cancel then pure ()
  else
    amend goal fun e =>
      { e with cancel := true, reason, destination := if cancelled then .cancelled else .failed }
    if e.started then
      match e.phases[e.index]? with
      | none => throw indexError
      | some phase =>
        -- A failed cancel is not evidence of stopped motion: the ownership stays.
        tryCatch (invoke (SequenceCall.cancel phase.port ⟨goal, e.index⟩)) fun error =>
          amend goal fun e => { e with reason := e.reason ++ ";cancel_unconfirmed:" ++ error.text }
    else pure ()

def cancel (goal : String) : Sequence P Unit := cancelEntry goal "cancelled" true

/-- A phase that has been started. -/
def follow (goal : String) (phase : Phase P) (child : Child) (conditions : Conditions) :
    Sequence P Unit := do
  if ¬ conditions.Satisfy phase.during then
    cancelEntry goal ("phase_condition_lost:" ++ phase.name) false
  else
    let result ← invoke (SequenceCall.poll phase.port child)
    if result.state = .failed ∨ result.state = .cancelled then
      cancelEntry goal (orElse result.reason "child_failed") false
    else if result.state = .succeeded ∧ conditions.Satisfy phase.after then
      let now ← invoke (SequenceCall.clock (P := P))
      amend goal fun e => { e with history := e.history ++ [(phase.name, now - e.phaseAt)] }
      amend goal fun e => { e with index := e.index + 1 }
      let now ← invoke (SequenceCall.clock (P := P))
      amend goal fun e => { e with started := false, phaseAt := now }
      let e ← Registry.entry keyError goal
      if e.index = e.phases.length then finish goal fun e => { e with status := .succeeded }
      else pure ()
    else pure ()

/-- A phase that is still to be started. -/
def launch (goal : String) (phase : Phase P) (child : Child) (conditions : Conditions) :
    Sequence P Unit := do
  let ready ← invoke (SequenceCall.ready phase.port)
  if ready ∧ conditions.Satisfy (phase.before ++ phase.during) then
    -- Ownership is recorded before a dispatch that may be partial.
    amend goal fun e => { e with started := true }
    invoke (SequenceCall.start phase.port child phase.parameters)
  else pure ()

def advance (maxAge : ℚ) (goal : String) (phase : Phase P) (child : Child) : Sequence P Unit := do
  let e ← Registry.entry keyError goal
  if e.cancel then pure ()
  else
    let now ← invoke (SequenceCall.clock (P := P))
    if now - e.phaseAt ≥ phase.timeout then
      cancelEntry goal ("phase_timeout:" ++ phase.name) false
    else
      let conditions ← evidence maxAge child phase e.phaseAt
      if e.started then follow goal phase child conditions
      else launch goal phase child conditions

/-- Whether nothing moves any more for a cancelled entry. -/
def idle (e : SequenceEntry P) (phase : Phase P) (child : Child) : Sequence P Bool :=
  if ¬ e.started then pure true
  else
    tryCatch
      (do
        let result ← invoke (SequenceCall.poll phase.port child)
        pure (decide result.state.Terminal))
      fun _ => pure false

def settle (goal : String) (phase : Phase P) (child : Child) : Sequence P Unit := do
  let e ← Registry.entry keyError goal
  if e.cancel then
    let idle ← idle e phase child
    if idle then finish goal fun e => { e with status := e.destination.entryStatus }
    else pure ()
  else pure ()

def poll (maxAge : ℚ) (goal : String) : Sequence P PortResult := do
  let e ← Registry.entry keyError goal
  if e.status ≠ .running then return ⟨e.status.status, e.reason⟩
  else
    match e.phases[e.index]? with
    | none => throw indexError
    | some phase =>
      tryCatch (advance maxAge goal phase ⟨goal, e.index⟩) fun error =>
        cancelEntry goal ("phase_error:" ++ error.text) false
      settle goal phase ⟨goal, e.index⟩
      let e ← Registry.entry keyError goal
      return ⟨e.status.status, e.reason⟩

def phaseSafe (maxAge : ℚ) (goal : String) : Sequence P Bool := do
  let e ← Registry.entry keyError goal
  if e.cancel ∨ e.status = .failed then return false
  else if e.status = .succeeded then return true
  else
    match e.phases[e.index]? with
    | none => throw indexError
    | some phase =>
      tryCatch
        (do
          let conditions ← evidence maxAge ⟨goal, e.index⟩ phase e.phaseAt
          pure (decide (conditions.Satisfy phase.during)))
        fun _ => pure false

end SequencePort

inductive SequenceOp where
  | start (goal parameters : String)
  | poll (goal : String)
  | cancel (goal : String)
  | phaseSafe (goal : String)

def SequenceOp.action {P : Type} (maxAge : ℚ) : SequenceOp → Sequence P Unit
  | .start goal parameters => SequencePort.start goal parameters
  | .poll goal => do let _ ← SequencePort.poll maxAge goal
  | .cancel goal => SequencePort.cancel goal
  | .phaseSafe goal => do let _ ← SequencePort.phaseSafe maxAge goal

end MobileBimanual.Tasks
