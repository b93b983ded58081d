/-
# A process that is killed at any moment

A process is started, serves one operation after another, and may be killed at any moment: before
an operation, after one, or at any call on the way.  What it kept in itself is then lost, and the
world keeps what `lost` leaves of it.  Who answers the calls is an oracle of each answer.

`Process.Contract` says what starting and serving keep; `Process.Holding` is the invariant of the
runs (`holding_run`).  At every moment of a run the world is safe (`Holding.sound`) and a call that
is under way is a proper one (`Holding.permits`).
-/
import MobileBimanual.Lib.Machine
import MobileBimanual.Lib.Program

namespace Process

open Program Activity Machine

variable {Call : Type} {Reply : Call → Type} {ε σ α Op ω : Type}

/-! ## 1. Processes -/

inductive Phase (Call : Type) (Reply : Call → Type) (ε σ α : Type) where
  | down
  | starting (p : Program Call Reply (Except ε Unit × σ))
  | idle (s : σ)
  | serving (p : Program Call Reply (Except ε α × σ))

structure Life (Call : Type) (Reply : Call → Type) (ε σ α ω : Type) where
  phase : Phase Call Reply ε σ α
  world : ω

inductive Event (Call : Type) (Reply : Call → Type) (σ Op ω : Type) where
  | start (s : σ)
  | operate (op : Op)
  | answer (oracle : (c : Call) → ω → Reply c × ω)
  | kill

/-- A process that could not be started is gone. -/
def started (lost : ω → ω) :
    Program Call Reply (Except ε Unit × σ) → ω → Life Call Reply ε σ α ω
  | .done (.ok _, s), w => ⟨.idle s, w⟩
  | .done (.error _, _), w => ⟨.down, lost w⟩
  | p, w => ⟨.starting p, w⟩

def served : Program Call Reply (Except ε α × σ) → ω → Life Call Reply ε σ α ω
  | .done (_, s), w => ⟨.idle s, w⟩
  | p, w => ⟨.serving p, w⟩

def step (boot : Activity Call Reply ε σ Unit) (action : Op → Activity Call Reply ε σ α)
    (lost : ω → ω) (l : Life Call Reply ε σ α ω) :
    Event Call Reply σ Op ω → Life Call Reply ε σ α ω
  | .start s =>
    match l.phase with
    | .down => started lost (boot.program s) l.world
    | _ => l
  | .operate op =>
    match l.phase with
    | .idle s => served ((action op).program s) l.world
    | _ => l
  | .answer oracle =>
    match l.phase with
    | .starting (.call c resume) =>
      started lost (resume (oracle c l.world).1) (oracle c l.world).2
    | .serving (.call c resume) => served (resume (oracle c l.world).1) (oracle c l.world).2
    | _ => l
  | .kill => ⟨.down, lost l.world⟩

/-- The call under way. -/
def Life.calling (l : Life Call Reply ε σ α ω) : Option Call :=
  match l.phase with
  | .starting (.call c _) => some c
  | .serving (.call c _) => some c
  | _ => none

/-- What is started is fresh, and what is answered is answered as the conduct says. -/
def Proper (C : Conduct Call Reply ω) (fresh : σ → Prop) (l : Life Call Reply ε σ α ω) :
    Event Call Reply σ Op ω → Prop
  | .start s => fresh s
  | .answer oracle => ∀ c, l.calling = some c →
      C.answers c l.world (oracle c l.world).1 (oracle c l.world).2
  | _ => True

/-! ## 2. Contracts -/

/-- Between operations state and world are in `settled`; the world is `safe` all along, and in
`between` where there is no process. -/
structure Contract (C : Conduct Call Reply ω) (boot : Activity Call Reply ε σ Unit)
    (action : Op → Activity Call Reply ε σ α) (lost : ω → ω) (fresh : σ → Prop)
    (settled : σ → ω → Prop) (between safe : ω → Prop) : Prop where
  still : ∀ w, C.interferes w w
  boots : Triple C (fun s w => fresh s ∧ between w) boot (fun _ => settled) fun _ _ => safe
  serves : ∀ op, Triple C settled (action op) (fun _ => settled) fun _ => settled
  lost : ∀ w, safe w → between (lost w)
  between_safe : ∀ w, between w → safe w
  settled_safe : ∀ s w, settled s w → safe w
  permits_safe : ∀ c w, C.permits c w → safe w

variable {C : Conduct Call Reply ω} {boot : Activity Call Reply ε σ Unit}
  {action : Op → Activity Call Reply ε σ α} {lost : ω → ω} {fresh : σ → Prop}
  {settled : σ → ω → Prop} {between safe : ω → Prop} {l : Life Call Reply ε σ α ω}

def Holding (C : Conduct Call Reply ω) (settled : σ → ω → Prop) (between safe : ω → Prop)
    (l : Life Call Reply ε σ α ω) : Prop :=
  match l.phase with
  | .down => between l.world
  | .idle s => settled s l.world
  | .starting p => p.Holds C (Ends (fun _ => settled) fun _ _ => safe) l.world
  | .serving p => p.Holds C (Ends (fun _ => settled) fun _ => settled) l.world

theorem holding_started (K : Contract C boot action lost fresh settled between safe)
    {p : Program Call Reply (Except ε Unit × σ)} {w : ω}
    (h : p.Holds C (Ends (fun _ => settled) fun _ _ => safe) w) :
    Holding C settled between safe (started lost p w : Life Call Reply ε σ α ω) := by
  match p, h with
  | .done (.ok _, s), h => exact h
  | .done (.error _, s), h => exact K.lost w h
  | .call c resume, h => exact h

theorem holding_served {p : Program Call Reply (Except ε α × σ)} {w : ω}
    (h : p.Holds C (Ends (fun _ => settled) fun _ => settled) w) :
    Holding C settled between safe (served p w) := by
  match p, h with
  | .done (.ok _, s), h => exact h
  | .done (.error _, s), h => exact h
  | .call c resume, h => exact h

theorem Holding.sound (K : Contract C boot action lost fresh settled between safe)
    (h : Holding C settled between safe l) : safe l.world := by
  obtain ⟨phase, w⟩ := l
  match phase, h with
  | .down, h => exact K.between_safe w h
  | .idle s, h => exact K.settled_safe s w h
  | .starting (.done (.ok _, s)), h => exact K.settled_safe s w h
  | .starting (.done (.error _, s)), h => exact h
  | .starting (.call c resume), h => exact K.permits_safe c w (h w (K.still w)).1
  | .serving (.done (.ok _, s)), h => exact K.settled_safe s w h
  | .serving (.done (.error _, s)), h => exact K.settled_safe s w h
  | .serving (.call c resume), h => exact K.permits_safe c w (h w (K.still w)).1

/-- The call under way is a proper one. -/
theorem Holding.permits (K : Contract C boot action lost fresh settled between safe)
    (h : Holding C settled between safe l) {c : Call} (hcalling : l.calling = some c) :
    C.permits c l.world := by
  obtain ⟨phase, w⟩ := l
  match phase, h, hcalling with
  | .starting (.call c resume), h, rfl => exact (h w (K.still w)).1
  | .serving (.call c resume), h, rfl => exact (h w (K.still w)).1

theorem holding_step (K : Contract C boot action lost fresh settled between safe)
    (h : Holding C settled between safe l) (e : Event Call Reply σ Op ω)
    (hproper : Proper C fresh l e) :
    Holding C settled between safe (step boot action lost l e) := by
  have hsafe := h.sound K
  obtain ⟨phase, w⟩ := l
  match e with
  | .kill => exact K.lost w hsafe
  | .start s =>
    match phase, h with
    | .down, h => exact holding_started K (K.boots s w ⟨hproper, h⟩)
    | .idle _, h => exact h
    | .starting _, h => exact h
    | .serving _, h => exact h
  | .operate op =>
    match phase, h with
    | .idle s, h => exact holding_served (K.serves op s w h)
    | .down, h => exact h
    | .starting _, h => exact h
    | .serving _, h => exact h
  | .answer oracle =>
    match phase, h, hproper with
    | .starting (.call c resume), h, hproper =>
      exact holding_started K ((h w (K.still w)).2 _ _ (hproper c rfl))
    | .serving (.call c resume), h, hproper =>
      exact holding_served ((h w (K.still w)).2 _ _ (hproper c rfl))
    | .starting (.done _), h, _ => exact h
    | .serving (.done _), h, _ => exact h
    | .down, h, _ => exact h
    | .idle _, h, _ => exact h

/-- **What the contract keeps, a run keeps**, whenever the process is killed. -/
theorem holding_run (K : Contract C boot action lost fresh settled between safe)
    {events : List (Event Call Reply σ Op ω)} (h : Holding C settled between safe l)
    (hproper : Along (step boot action lost) (Proper C fresh) l events) :
    Holding C settled between safe (run (step boot action lost) l events) :=
  run_invariant (I := Holding C settled between safe)
    (fun _ e hl he => holding_step K hl e he) events h hproper

end Process
