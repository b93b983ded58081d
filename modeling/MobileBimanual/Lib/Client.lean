/-
# A client with one program under way

A client keeps a state and runs one operation at a time: the program of the operation, begun in
the state, whose calls are answered one by one by the world outside.  A session is the client with
the operation it has under way, if any, and the world.

`Session.Sound` is the invariant of its runs: between operations client and world are settled, and
during one the program under way `Holds` to the conduct of the operation and ends settled.  It is
kept by a new operation (`sound_operate`), by an answer (`sound_serve`), and by whatever the world
does meanwhile (`sound_disturb`); in a sound session the next call is a proper one (`Sound.permits`).
-/
import MobileBimanual.Lib.Program

namespace Client

open Program

structure Session (σ Op ω : Type) (Call : Type) (Reply : Call → Type) (α : Type) where
  state : σ
  flight : Option (Op × Program Call Reply (α × σ))
  world : ω

namespace Session

variable {σ Op ω Call : Type} {Reply : Call → Type} {α : Type}

/-- The operation goes on, or is over. -/
def resume (s : Session σ Op ω Call Reply α) (op : Op) :
    Program Call Reply (α × σ) → Session σ Op ω Call Reply α
  | .done result => { s with state := result.2, flight := none }
  | .call c go => { s with flight := some (op, .call c go) }

/-- A new operation begins, unless one is under way. -/
def operate (program : Op → σ → Program Call Reply (α × σ)) (s : Session σ Op ω Call Reply α)
    (op : Op) : Session σ Op ω Call Reply α :=
  match s.flight with
  | some _ => s
  | none => s.resume op (program op s.state)

/-- The next call is answered. -/
def serve (answer : Op → σ → (c : Call) → ω → Reply c × ω) (s : Session σ Op ω Call Reply α) :
    Session σ Op ω Call Reply α :=
  match s.flight with
  | some (op, .call c go) =>
    let answered := answer op s.state c s.world
    { s with world := answered.2 }.resume op (go answered.1)
  | _ => s

/-- The world changes of itself. -/
def disturb (change : ω → ω) (s : Session σ Op ω Call Reply α) : Session σ Op ω Call Reply α :=
  { s with world := change s.world }

variable {conduct : Op → σ → Conduct Call Reply ω} {settled : σ → ω → Prop}
  {program : Op → σ → Program Call Reply (α × σ)} {s : Session σ Op ω Call Reply α}

def Sound (conduct : Op → σ → Conduct Call Reply ω) (settled : σ → ω → Prop)
    (s : Session σ Op ω Call Reply α) : Prop :=
  match s.flight with
  | none => settled s.state s.world
  | some (op, p) => p.Holds (conduct op s.state) (fun result w => settled result.2 w) s.world

theorem sound_resume {op : Op} {p : Program Call Reply (α × σ)}
    (h : p.Holds (conduct op s.state) (fun result w => settled result.2 w) s.world) :
    (s.resume op p).Sound conduct settled := by
  cases p with
  | done result => exact h
  | call c go => exact h

theorem sound_operate
    (hstart : ∀ op state w, settled state w →
      (program op state).Holds (conduct op state) (fun result w => settled result.2 w) w)
    (h : s.Sound conduct settled) (op : Op) : (s.operate program op).Sound conduct settled := by
  unfold operate
  cases hflight : s.flight with
  | some flight => exact h
  | none =>
    unfold Sound at h
    rw [hflight] at h
    exact sound_resume (hstart op s.state s.world h)

theorem sound_serve {answer : Op → σ → (c : Call) → ω → Reply c × ω}
    (hstill : ∀ op state w, (conduct op state).interferes w w)
    (hanswer : ∀ op c go, s.flight = some (op, .call c go) →
      (conduct op s.state).answers c s.world (answer op s.state c s.world).1
        (answer op s.state c s.world).2)
    (h : s.Sound conduct settled) : (s.serve answer).Sound conduct settled := by
  unfold serve
  split
  · rename_i op c go hflight
    unfold Sound at h
    rw [hflight] at h
    obtain ⟨-, hgo⟩ := h s.world (hstill op s.state s.world)
    exact sound_resume (hgo _ _ (hanswer op c go hflight))
  · exact h

theorem sound_disturb {change : ω → ω}
    (htrans : ∀ op state {w v u}, (conduct op state).interferes w v →
      (conduct op state).interferes v u → (conduct op state).interferes w u)
    (hsettled : ∀ op state state' {w v}, settled state' w → (conduct op state).interferes w v →
      settled state' v)
    (hidle : s.flight = none → settled s.state s.world → settled s.state (change s.world))
    (hchange : ∀ op, (conduct op s.state).interferes s.world (change s.world))
    (h : s.Sound conduct settled) : (s.disturb change).Sound conduct settled := by
  unfold Sound at h ⊢
  cases hflight : s.flight with
  | none =>
    simp only [disturb, hflight] at h ⊢
    exact hidle hflight h
  | some flight =>
    obtain ⟨op, p⟩ := flight
    simp only [disturb, hflight] at h ⊢
    exact h.interfere (fun hwv hvu => htrans op s.state hwv hvu)
      (fun result w v hw hv => hsettled op s.state result.2 hw hv) (hchange op)

/-- The call under way is a proper one. -/
theorem Sound.permits (h : s.Sound conduct settled)
    (hstill : ∀ op state w, (conduct op state).interferes w w) {op : Op} {c : Call}
    {go : Reply c → Program Call Reply (α × σ)} (hflight : s.flight = some (op, .call c go)) :
    (conduct op s.state).permits c s.world := by
  unfold Sound at h
  rw [hflight] at h
  exact (h s.world (hstill op s.state s.world)).1

end Session

end Client
