/-
# What the adapter does beside its stream

Most of what the adapter does leaves the stream alone.  Heartbeats, diagnostics and claims command
nothing and leave all but the owner as it is (`Calm`).  The preparation, the arming and every fault
still leave the stream aside (`Aside`), and make no call for it (`quiet`).  A poll and a stop may
also end the stream, and then it is no longer active (`Continues`).  All of it is so whatever the
replies are.
-/
import MobileBimanual.Adapter.Operations

namespace MobileBimanual.Adapter

open Activity

/-! ## 1. The relations -/

/-- A request that leaves the queue of the firmware alone. -/
def Request.quiet : Request → Bool
  | .openStream _ | .append _ | .splice _ => false
  | _ => true

def Request.calm : Request → Bool
  | .openStream _ | .append _ | .splice _ | .arm _ | .enable | .safeStop => false
  | _ => true

def quiet : HostCall → Prop
  | .transport _ request => request.quiet = true
  | .monotonic => True

/-- A call that commands nothing, made in a state. -/
def calm (state : AdapterState) : HostCall → Prop
  | .transport state' request => state' = state ∧ request.calm = true
  | .monotonic => True

variable (a : ResidentAdapter)

theorem quiet_of_calm (call : HostCall) (h : calm a.state call) : quiet call := by
  cases call with
  | transport state request => cases request <;> first | rfl | cases h.2
  | monotonic => trivial

/-- The stream of the adapter is left as it is, and not begun. -/
structure Aside (a a' : ResidentAdapter) : Prop where
  active : a'.state = .active → a.state = .active
  route : a'.routeSamples = a.routeSamples
  pending : a'.pendingFiniteSamples = a.pendingFiniteSamples
  horizon : a'.finiteHorizonTick = a.finiteHorizonTick
  tailTick : a'.tailTick = a.tailTick
  tailPositions : a'.tailPositionsUrad = a.tailPositionsUrad

theorem Aside.refl : Aside a a := ⟨id, rfl, rfl, rfl, rfl, rfl⟩

theorem Aside.trans {a b c : ResidentAdapter} (h : Aside a b) (h' : Aside b c) : Aside a c :=
  ⟨h.active ∘ h'.active, h'.route.trans h.route, h'.pending.trans h.pending,
    h'.horizon.trans h.horizon, h'.tailTick.trans h.tailTick,
    h'.tailPositions.trans h.tailPositions⟩

def Aside.frame : Frame HostCall ResidentAdapter where
  calls _ := quiet
  changes := Aside
  refl := Aside.refl
  trans := Aside.trans
  earlier _ := id

/-- Nothing happens to the adapter but for who owns it and when it was last heard. -/
structure Calm (a a' : ResidentAdapter) : Prop extends Aside a a' where
  state : a'.state = a.state
  armed : a'.armed = a.armed
  prepared : a'.prepared = a.prepared

theorem Calm.refl : Calm a a := ⟨.refl a, rfl, rfl, rfl⟩

def Calm.frame : Frame HostCall ResidentAdapter where
  calls a := calm a.state
  changes := Calm
  refl := Calm.refl
  trans h h' :=
    ⟨h.toAside.trans h'.toAside, h'.state.trans h.state, h'.armed.trans h.armed,
      h'.prepared.trans h.prepared⟩
  earlier h hcalls := h.state ▸ hcalls

/-- A stream that is active afterwards was active before, with the same route. -/
def Continues (a a' : ResidentAdapter) : Prop :=
  a'.state = .active → a.state = .active ∧ a'.routeSamples = a.routeSamples

def Continues.frame : Frame HostCall ResidentAdapter where
  calls _ := quiet
  changes := Continues
  refl _ h := ⟨h, rfl⟩
  trans h h' hactive := ⟨(h (h' hactive).1).1, (h' hactive).2.trans (h (h' hactive).1).2⟩
  earlier _ := id

theorem Aside.continues {a a' : ResidentAdapter} (h : Aside a a') : Continues a a' :=
  fun hactive => ⟨h.active hactive, h.route⟩

variable {α : Type}

theorem continues_of_aside {x : Operation α} (h : x.Keeps Aside.frame) : x.Keeps Continues.frame :=
  h.mono (fun _ _ => id) fun _ _ => Aside.continues

/-! ## 2. Calm actions -/

variable {request : Request}

theorem keeps_transport {F : Frame HostCall ResidentAdapter}
    (h : ∀ a : ResidentAdapter, F.calls a (.transport a.state request)) :
    (transport request).Keeps F := by
  intro adapter
  rw [program_transport]
  exact ⟨h adapter, fun _ => F.refl adapter⟩

theorem aside_transport (h : request.quiet = true) : (transport request).Keeps Aside.frame :=
  keeps_transport fun _ => h

theorem continues_transport (h : request.quiet = true) :
    (transport request).Keeps Continues.frame :=
  keeps_transport fun _ => h

theorem calm_transport (h : request.calm = true) : (transport request).Keeps Calm.frame :=
  keeps_transport fun _ => ⟨rfl, h⟩

variable {f : ResidentAdapter → ResidentAdapter}

theorem calm_modify (h : ∀ a, Calm a (f a)) : (modify f : Operation PUnit).Keeps Calm.frame :=
  keeps_modify h

theorem aside_modify (h : ∀ a, Aside a (f a)) : (modify f : Operation PUnit).Keeps Aside.frame :=
  keeps_modify h

variable {setup : Setup}

theorem healthyHeartbeat_calm : (healthyHeartbeat setup).Keeps Calm.frame :=
  (calm_transport rfl).bind fun _ => (keeps_expect _).bind fun _ =>
    (keeps_ask fun _ => trivial).bind fun _ =>
      Keeps.bind (calm_modify fun _ => ⟨⟨id, rfl, rfl, rfl, rfl, rfl⟩, rfl, rfl, rfl⟩) fun _ =>
        keeps_pure _

variable {owner : String}

/-- The owner comes first, so that a refusal for another reason comes too late for it. -/
theorem claim_calm : (claim owner).Keeps Calm.frame := by
  unfold claim
  dsimp only
  split
  · exact keeps_throw _
  · intro adapter
    rw [program_bind, program_get, Program.done_bind, goOn_ok]
    split
    · exact ⟨⟨id, rfl, rfl, rfl, rfl, rfl⟩, rfl, rfl, rfl⟩
    · rw [program_ite]
      split
      · exact Calm.refl adapter
      · exact Calm.refl adapter

theorem claimStart_calm : (claimStart owner).Keeps Calm.frame := by
  refine keeps_get_bind fun adapter => Keeps.bind claim_calm fun _ => ?_
  split
  · exact calm_modify fun _ => ⟨⟨id, rfl, rfl, rfl, rfl, rfl⟩, rfl, rfl, rfl⟩
  · exact keeps_pure _

theorem readAnchor_calm : (readAnchor setup).Keeps Calm.frame :=
  (calm_transport rfl).bind fun _ => (keeps_expect _).bind fun _ =>
    (calm_transport rfl).bind fun _ => keeps_expect _

theorem validatedFeedbackSnapshot_calm : (validatedFeedbackSnapshot setup).Keeps Calm.frame :=
  (calm_transport rfl).bind fun _ => (keeps_expect _).bind fun _ => keeps_pure _

theorem terminalFeedbackOf_calm {executor : StreamExecutorDiagnosticsV2} :
    (terminalFeedbackOf setup executor).Keeps Calm.frame := by
  unfold terminalFeedbackOf
  split
  · exact validatedFeedbackSnapshot_calm.bind fun _ => keeps_pure _
  · exact keeps_pure _

theorem diagnosticText_calm {label : String} (h : request.calm = true) :
    (diagnosticText setup label request).Keeps Calm.frame :=
  (calm_transport h).attempt.bind fun
    | .ok _ => keeps_pure _
    | .error _ => keeps_pure _

theorem collectPostStopDiagnostics_calm : (collectPostStopDiagnostics setup).Keeps Calm.frame :=
  (diagnosticText_calm rfl).bind fun _ =>
    (diagnosticText_calm rfl).bind fun _ =>
      (diagnosticText_calm rfl).bind fun _ =>
        (diagnosticText_calm rfl).bind fun _ =>
          (diagnosticText_calm rfl).bind fun _ => keeps_pure _

theorem aside_of_calm {x : Operation α} (h : x.Keeps Calm.frame) : x.Keeps Aside.frame :=
  h.mono quiet_of_calm fun _ _ => Calm.toAside

/-! ## 3. Faults and what may end in one -/

theorem stopOnFault_aside : (stopOnFault setup).Keeps Aside.frame :=
  (aside_transport rfl).attempt.bind fun _ =>
    Keeps.bind (aside_modify fun _ => ⟨id, rfl, rfl, rfl, rfl, rfl⟩) fun _ =>
      (aside_of_calm collectPostStopDiagnostics_calm).bind fun _ => keeps_pure _

variable {error : HostError}

/-- What follows the first line of a fault leaves the rest alone. -/
theorem fault_ends (adapter : ResidentAdapter) :
    ((fault setup error : Operation α).program adapter).Within quiet fun result =>
      Aside { adapter with state := .faulted } result.2 := by
  have hnote : ∀ text : String,
      (modify fun a => { a with faultDiagnostic := some text } : Operation PUnit).Keeps
        Aside.frame :=
    fun text => aside_modify fun _ => ⟨id, rfl, rfl, rfl, rfl, rfl⟩
  unfold fault
  rw [program_bind, program_modify, Program.done_bind, goOn_ok]
  refine (keeps_get_bind fun adapter => ?_ : Keeps Aside.frame _) _
  dsimp only
  split
  · exact stopOnFault_aside.bind fun _ => (hnote _).bind fun _ => keeps_throw _
  · exact (keeps_pure _).bind fun _ => (hnote _).bind fun _ => keeps_throw _

theorem fault_aside : (fault setup error : Operation α).Keeps Aside.frame :=
  fun adapter => (fault_ends adapter).mono (fun _ => id) fun _ h =>
    ⟨fun hactive => (nomatch h.active hactive), h.route, h.pending, h.horizon, h.tailTick,
      h.tailPositions⟩

theorem orFault_aside {body : Operation α} (h : body.Keeps Aside.frame) :
    (orFault setup body).Keeps Aside.frame :=
  h.tryCatch fun _ => fault_aside

theorem prepare_aside : (prepare setup).Keeps Aside.frame := by
  refine keeps_get_bind fun _ => (keeps_expect _).bind fun _ => orFault_aside ?_
  exact (aside_transport rfl).bind fun _ => (keeps_expect _).bind fun _ =>
    (aside_transport rfl).bind fun _ => (aside_transport rfl).bind fun _ =>
      (aside_transport rfl).bind fun _ => (aside_transport rfl).bind fun _ =>
        (keeps_expect _).bind fun _ => (keeps_expect _).bind fun _ => (keeps_expect _).bind fun _ =>
          (keeps_expect _).bind fun _ =>
            Keeps.bind (aside_modify fun _ => ⟨nofun, rfl, rfl, rfl, rfl, rfl⟩) fun _ => keeps_pure _

theorem refreshUnarmedAnchor_aside : (refreshUnarmedAnchor setup).Keeps Aside.frame := by
  refine keeps_get_bind fun _ => (keeps_expect _).bind fun _ => orFault_aside ?_
  exact (aside_of_calm readAnchor_calm).bind fun _ =>
    Keeps.bind (aside_modify fun _ => ⟨id, rfl, rfl, rfl, rfl, rfl⟩) fun _ => keeps_pure _

theorem keepalive_aside {force : Bool} : (keepalive setup force).Keeps Aside.frame := by
  refine keeps_get_bind fun adapter => ?_
  split
  · exact keeps_pure _
  · refine (keeps_ask fun _ => trivial).bind fun now => ?_
    split
    · exact keeps_pure _
    · exact orFault_aside ((aside_of_calm healthyHeartbeat_calm).bind fun _ => keeps_pure _)

theorem feedbackFailed_aside : (feedbackFailed setup error).Keeps Aside.frame := by
  unfold feedbackFailed
  split
  · refine Keeps.bind (aside_modify fun _ => ⟨id, rfl, rfl, rfl, rfl, rfl⟩) fun _ =>
      keeps_get_bind fun adapter => ?_
    dsimp only
    split
    · exact keeps_throw _
    · exact fault_aside
  · exact fault_aside

theorem feedbackSnapshot_aside : (feedbackSnapshot setup).Keeps Aside.frame := by
  refine keeps_get_bind fun _ => (keeps_expect _).bind fun _ =>
    Keeps.tryCatch ?_ fun _ => feedbackFailed_aside
  exact keepalive_aside.bind fun _ => (aside_of_calm validatedFeedbackSnapshot_calm).bind fun _ =>
    Keeps.bind (aside_modify fun _ => ⟨id, rfl, rfl, rfl, rfl, rfl⟩) fun _ => keeps_pure _

theorem armAndEnable_aside : (armAndEnable setup).Keeps Aside.frame := by
  refine keeps_get_bind fun adapter => ?_
  split
  · exact keeps_pure _
  · exact Keeps.bind (aside_modify fun _ => ⟨id, rfl, rfl, rfl, rfl, rfl⟩) fun _ =>
      (aside_transport rfl).bind fun _ => (aside_of_calm healthyHeartbeat_calm).bind fun _ =>
        (keeps_expect _).bind fun _ => (aside_transport rfl).bind fun _ => keeps_expect _

theorem freshAnchor_aside : (freshAnchor setup).Keeps Aside.frame := by
  refine keeps_get_bind fun adapter => ?_
  split
  · exact keeps_pure _
  · exact refreshUnarmedAnchor_aside.bind fun _ => keeps_pure _

/-! ## 4. What may end the stream -/

theorem finishWhenDone_continues {report : PollReport}
    {terminalFeedback : Option BimanualFeedbackSnapshotV2} :
    (finishWhenDone setup report terminalFeedback).Keeps Continues.frame := by
  unfold finishWhenDone
  split
  · exact keeps_get_bind fun adapter => (keeps_expect _).bind fun prepared _ => nofun
  · exact keeps_pure _

theorem pollBody_continues : (pollBody setup).Keeps Continues.frame := by
  have hheartbeat := continues_of_aside (aside_of_calm (@healthyHeartbeat_calm setup))
  exact hheartbeat.bind fun _ => (continues_transport rfl).bind fun _ =>
    (continues_of_aside (aside_of_calm terminalFeedbackOf_calm)).bind fun _ =>
      hheartbeat.bind fun _ => (continues_transport rfl).bind fun _ =>
        (continues_transport rfl).bind fun _ => hheartbeat.bind fun _ => (keeps_expect _).bind fun _ =>
          finishWhenDone_continues.bind fun _ => keeps_pure _

theorem stop_continues : (stop setup owner).Keeps Continues.frame := by
  refine (continues_of_aside (aside_of_calm claim_calm)).bind fun _ =>
    keeps_get_bind fun adapter => ?_
  split
  · exact keeps_pure _
  · refine Keeps.tryCatch ?_ fun _ => continues_of_aside fault_aside
    exact (continues_transport rfl).bind fun _ => (keeps_expect _).bind fun _ =>
      keeps_modify fun _ => nofun

end MobileBimanual.Adapter
