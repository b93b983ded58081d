/-
# The adapter of the task executor

`RoutedSkillAdapter` of `skill_ports.py` over ports of four kinds: those that plan and execute, that
capture, that change the scene, and those that carry out one such port after another.  Each call
of the executor is carried out by the adapter, which calls its ports, which call what is outside
(`Lib/Layer`).

`Robot.refusals` is no data of the code: it notes every start that a port refused, by raising while
it had no entry for the goal.
-/
import MobileBimanual.Lib.Layer
import MobileBimanual.Tasks.CapturePort
import MobileBimanual.Tasks.Execution
import MobileBimanual.Tasks.ManipulationPort
import MobileBimanual.Tasks.ScenePort

namespace MobileBimanual.Tasks

open Activity Oracle
open Program (Handler)

/-! ## 1. What every port can be asked -/

inductive PortCall where
  | ready
  | start (goal parameters : String)
  | poll (goal : String)
  | cancel (goal : String)

abbrev PortCall.Result : PortCall → Type
  | .ready => Bool
  | .start .. | .cancel _ => Unit
  | .poll _ => PortResult

abbrev PortCall.Reply (call : PortCall) : Type := Except Raised call.Result

def PortCall.started : PortCall → Option String
  | .start goal _ => some goal
  | _ => none

def ManipulationPort.serve (config : ManipulationConfig) :
    (call : PortCall) → Manipulation String call.Result
  | .ready => ManipulationPort.isReady
  | .start goal parameters => ManipulationPort.start config goal parameters
  | .poll goal => ManipulationPort.poll config goal
  | .cancel goal => ManipulationPort.cancel goal

def CapturePort.serve (config : CaptureConfig) : (call : PortCall) → Capture call.Result
  | .ready => CapturePort.isReady
  | .start goal parameters => CapturePort.start config goal parameters
  | .poll goal => CapturePort.poll config goal
  | .cancel goal => CapturePort.cancel goal

def ScenePort.serve (config : SceneConfig) : (call : PortCall) → SceneWork call.Result
  | .ready => ScenePort.isReady
  | .start goal parameters => ScenePort.start config goal parameters
  | .poll goal => ScenePort.poll goal
  | .cancel goal => ScenePort.cancel goal

def SequencePort.serve {N : Type} (maxAge : ℚ) : (call : PortCall) → Sequence N call.Result
  | .ready => do return SequencePort.ready (← get)
  | .start goal parameters => SequencePort.start goal parameters
  | .poll goal => SequencePort.poll maxAge goal
  | .cancel goal => SequencePort.cancel goal

/-! ## 2. The ports that others are made of -/

inductive LeafCall where
  | manipulation (call : ManipulationCall String)
  | capture (call : CaptureCall)
  | scene (call : SceneCall)

abbrev LeafCall.Reply : LeafCall → Type
  | .manipulation call => call.Reply
  | .capture call => call.Reply
  | .scene call => call.Reply

inductive Leaf where
  | manipulation (config : ManipulationConfig) (w : ManipulationPort)
  | capture (config : CaptureConfig) (w : CapturePort)
  | scene (config : SceneConfig) (w : ScenePort)

namespace Leaf

/-- The port has an entry for the goal. -/
def knows (leaf : Leaf) (goal : String) : Bool :=
  match leaf with
  | .manipulation _ w => (w.entries.lookup goal).isSome
  | .capture _ w => (w.entries.lookup goal).isSome
  | .scene _ w => (w.registry.entries.lookup goal).isSome

def serve (call : PortCall) : Leaf → Program LeafCall LeafCall.Reply (call.Reply × Leaf)
  | .manipulation config w =>
    ((ManipulationPort.serve config call).program w).relabel .manipulation (fun _ reply => reply) >>=
      fun r => .done (r.1, .manipulation config r.2)
  | .capture config w =>
    ((CapturePort.serve config call).program w).relabel .capture (fun _ reply => reply) >>=
      fun r => .done (r.1, .capture config r.2)
  | .scene config w =>
    ((ScenePort.serve config call).program w).relabel .scene (fun _ reply => reply) >>=
      fun r => .done (r.1, .scene config r.2)

end Leaf

/-! ## 3. The robot -/

/-- `N` names the ports of the first three kinds, `M` those that are sequences of them. -/
inductive OutCall (N M : Type) where
  | leaf (name : N) (call : LeafCall)
  | build (name : M) (parameters : String)
  | sequenceClock (name : M)
  | sequenceMonitor (name : M) (child : Child) (phase : String) (now : ℚ)
  | monitor (goal : String) (step : Step) (now : ℚ)
  | stopRequest (run : String) (preserveLoad : Bool) (now : ℚ)
  | stopPoll (run : String) (now : ℚ)

abbrev OutCall.Reply {N M : Type} : OutCall N M → Type
  | .leaf _ call => call.Reply
  | .build .. => Except Raised (List (PhaseDocument N))
  | .sequenceClock _ => Except Raised ℚ
  | .sequenceMonitor .. | .monitor .. | .stopPoll .. => Except Raised Feedback
  | .stopRequest .. => Except Raised Unit

structure Pool (N M : Type) where
  leaves : N → Leaf
  refusals : List ((N ⊕ M) × String)

variable {N M : Type} [DecidableEq N] [DecidableEq M]

/-- A start that raised is noted if the port has no entry for the goal. -/
def noted (refusals : List ((N ⊕ M) × String)) (port : N ⊕ M) (call : PortCall)
    (reply : call.Reply) (knows : String → Bool) : List ((N ⊕ M) × String) :=
  match call.started, reply with
  | some goal, .error _ => if knows goal then refusals else (port, goal) :: refusals
  | _, _ => refusals

namespace Pool

def knows (pool : Pool N M) (name : N) (goal : String) : Bool := (pool.leaves name).knows goal

def serve (name : N) (call : PortCall) (pool : Pool N M) :
    Program (OutCall N M) OutCall.Reply (call.Reply × Pool N M) :=
  ((pool.leaves name).serve call).relabel (.leaf name) (fun _ reply => reply) >>= fun r =>
    .done (r.1, ⟨Function.update pool.leaves name r.2,
      noted pool.refusals (.inl name) call r.1 r.2.knows⟩)

/-- What carries out the calls of a sequence. -/
def handler (name : M) :
    Handler (SequenceCall N) SequenceCall.Reply (OutCall N M) OutCall.Reply (Pool N M)
  | .build parameters, pool => .call (.build name parameters) fun reply => .done (reply, pool)
  | .clock, pool => .call (.sequenceClock name) fun reply => .done (reply, pool)
  | .monitor child phase now, pool =>
    .call (.sequenceMonitor name child phase now) fun reply => .done (reply, pool)
  | .ready port, pool => pool.serve port .ready
  | .start port child parameters, pool => pool.serve port (.start child.text parameters)
  | .poll port child, pool => pool.serve port (.poll child.text)
  | .cancel port child, pool => pool.serve port (.cancel child.text)

end Pool

structure Robot (N M : Type) where
  pool : Pool N M
  sequences : M → SequencePort N
  active : Option (String × (N ⊕ M))

abbrev Adapter (N M α : Type) := Activity (OutCall N M) OutCall.Reply Raised (Robot N M) α

/-- The ports of the adapter, and the ages that its sequences allow. -/
structure AdapterConfig (N M : Type) where
  ports : String → Option (N ⊕ M)
  maxAge : M → ℚ

namespace Robot

variable (config : AdapterConfig N M)

def serve (port : N ⊕ M) (call : PortCall) : Adapter N M call.Result :=
  ExceptT.mk fun r : Robot N M =>
    match port with
    | .inl name => r.pool.serve name call >>= fun x => .done (x.1, { r with pool := x.2 })
    | .inr name =>
      ((SequencePort.serve (config.maxAge name) call).program (r.sequences name)).interpret
        (Pool.handler name) r.pool >>= fun x =>
          .done (x.1.1, {
            pool := ⟨x.2.leaves, noted x.2.refusals (.inr name) call x.1.1 fun goal =>
              (x.1.2.entries.lookup goal).isSome⟩
            sequences := Function.update r.sequences name x.1.2
            active := r.active })

def observe (goal : String) (step : Step) (now : ℚ) : Adapter N M Feedback := do
  let evidence ← expect (← ask (OutCall.monitor goal step now))
  match config.ports step.skill with
  | none => return { evidence with status := .running, reason := "" }
  | some port =>
    let ready ← serve config port .ready
    return { evidence with status := if ready then .ready else .running, reason := "" }

def start (goal : String) (step : Step) : Adapter N M Unit := do
  if (← get).active.isSome then throw ⟨"RuntimeError", "adapter already active"⟩
  else
    match config.ports step.skill with
    | none => throw (keyError step.skill)
    | some port =>
      modify fun r => { r with active := some (goal, port) }
      serve config port (.start goal step.parameters)

def poll (goal : String) (step : Step) (now : ℚ) : Adapter N M Feedback := do
  match (← get).active with
  | none => throw ⟨"RuntimeError", "wrong adapter goal"⟩
  | some (active, port) =>
    if active ≠ goal then throw ⟨"RuntimeError", "wrong adapter goal"⟩
    else
      let result ← serve config port (.poll goal)
      let evidence ← expect (← ask (OutCall.monitor goal step now))
      if result.state = .succeeded then
        -- The resource stays owned until the evidence of the completion arrives.
        if ¬ evidence.conditions.Satisfy step.successRequires then
          return { evidence with status := .running, reason := "awaiting_completion_evidence" }
        else
          modify fun r => { r with active := none }
          return { evidence with status := .succeeded, reason := result.reason }
      else return { evidence with status := result.state, reason := result.reason }

def cancelActive : Adapter N M Unit := do
  match (← get).active with
  | none => pure ()
  | some (goal, port) => serve config port (.cancel goal)

def requestStop (run : String) (preserveLoad : Bool) (now : ℚ) : Adapter N M Unit := do
  let cancelled ← (cancelActive config).attempt
  -- Even a child that could not be cancelled must not keep the stop from being requested.
  expect (← ask (OutCall.stopRequest run preserveLoad now))
  expect cancelled

/-- The action under way, if there is one, has come to its end. -/
def portDone : Adapter N M Bool := do
  match (← get).active with
  | none => return true
  | some (goal, port) =>
    let result ← serve config port (.poll goal)
    return decide result.state.Terminal

def pollStop (run : String) (now : ℚ) : Adapter N M Feedback := do
  let result ← expect (← ask (OutCall.stopPoll run now))
  let portDone ← portDone config
  if result.status = .stopped ∧ portDone then
    modify fun r => { r with active := none }
    return result
  else return { result with goalId := run, status := .running, reason := "" }

/-- What carries out the calls of the executor. -/
def action : (call : AdapterCall) → Adapter N M call.Result
  | .observe goal step now => observe config goal step now
  | .start goal step _ => start config goal step
  | .poll goal step now => poll config goal step now
  | .requestStop run preserveLoad now => requestStop config run preserveLoad now
  | .pollStop run now => pollStop config run now

def handler :
    Handler AdapterCall AdapterCall.Reply (OutCall N M) OutCall.Reply (Robot N M) :=
  fun call r => (action config call).program r

/-- The ports as they are, and no action under way. -/
def idle (leaves : N → Leaf) (sequences : M → SequencePort N) : Robot N M :=
  ⟨⟨leaves, []⟩, sequences, none⟩

/-- A port has refused a goal. -/
def Refused (r : Robot N M) : Prop := r.pool.refusals ≠ []

end Robot

end MobileBimanual.Tasks
