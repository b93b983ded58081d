/-
# Programs that call out

A program is done, or makes a call and goes on with the reply.  Nothing is said about who replies:
the same program runs against a server that is a function (`exec`), and against one that is only
known by its conduct (`Holds`), with other parties at work between any two calls.

`Conduct` says what such an environment may do: how the world may change while a call is under
way, which calls are proper, and how a call is answered.  `Holds C post p w` says that from the
world `w` the program `p` makes proper calls only and ends in `post`, whatever the environment
does; it is preserved by interference (`Holds.interfere`) and, by its definition, by every answer,
so it serves as the invariant of a machine that has `p` under way.

`Activity` puts exceptions and a state on top, in the order in which an exception keeps the state.
-/
import Mathlib.Control.Monad.Basic
import Mathlib.Tactic.Choose

/-! ## 1. Programs -/

inductive Program (Call : Type) (Reply : Call → Type) (α : Type) where
  | done (value : α)
  | call (call : Call) (resume : Reply call → Program Call Reply α)

namespace Program

variable {Call : Type} {Reply : Call → Type} {α β ω : Type}

def bind : Program Call Reply α → (α → Program Call Reply β) → Program Call Reply β
  | done value, f => f value
  | call c resume, f => call c fun reply => (resume reply).bind f

instance : Monad (Program Call Reply) where
  pure := done
  bind := bind

@[simp] theorem pure_eq (value : α) : (pure value : Program Call Reply α) = done value := rfl

@[simp] theorem done_bind (value : α) (f : α → Program Call Reply β) :
    (done value >>= f) = f value := rfl

@[simp] theorem call_bind (c : Call) (resume : Reply c → Program Call Reply α)
    (f : α → Program Call Reply β) :
    (call c resume >>= f) = call c fun reply => resume reply >>= f := rfl

variable (p : Program Call Reply α)

variable (f : α → Program Call Reply β)

theorem bind_assoc {γ : Type} (g : β → Program Call Reply γ) :
    (p >>= f >>= g) = p >>= fun value => f value >>= g := by
  induction p with
  | done value => rfl
  | call c resume ih =>
    rw [call_bind, call_bind, call_bind]
    exact congrArg (call c) (funext ih)

/-- The program that makes one call. -/
def ask (c : Call) : Program Call Reply (Reply c) := call c done

/-! ## 2. Against a server -/

/-- The run against a server that answers every call. -/
def exec (serve : (c : Call) → ω → Reply c × ω) : Program Call Reply α → ω → α × ω
  | done value, w => (value, w)
  | call c resume, w => (resume (serve c w).1).exec serve (serve c w).2

variable (serve : (c : Call) → ω → Reply c × ω)

theorem exec_bind (p : Program Call Reply α) (f : α → Program Call Reply β) :
    ∀ w, (p >>= f).exec serve w = (f (p.exec serve w).1).exec serve (p.exec serve w).2 := by
  induction p with
  | done value => exact fun _ => rfl
  | call c resume ih =>
    intro w
    rw [call_bind, exec, exec]
    exact ih (serve c w).1 (serve c w).2

/-! ## 3. Against an environment -/

structure Conduct (Call : Type) (Reply : Call → Type) (ω : Type) where
  interferes : ω → ω → Prop
  permits : Call → ω → Prop
  answers : (c : Call) → ω → Reply c → ω → Prop

variable {C : Conduct Call Reply ω} {post post' : α → ω → Prop}

/-- The calls are proper and the end is in `post`, whatever the environment does. -/
def Holds (C : Conduct Call Reply ω) (post : α → ω → Prop) : Program Call Reply α → ω → Prop
  | done value, w => post value w
  | call c resume, w => ∀ v, C.interferes w v →
      C.permits c v ∧ ∀ reply v', C.answers c v reply v' → (resume reply).Holds C post v'

theorem Holds.mono (h : ∀ value w, post value w → post' value w) :
    ∀ {p : Program Call Reply α} {w : ω}, p.Holds C post w → p.Holds C post' w := by
  intro p
  induction p with
  | done value => exact fun hp => h _ _ hp
  | call c resume ih =>
    intro w hp v hv
    obtain ⟨hpermits, hresume⟩ := hp v hv
    exact ⟨hpermits, fun reply v' hanswers => ih reply (hresume reply v' hanswers)⟩

/-- One program after another. -/
theorem holds_bind {post : β → ω → Prop} :
    ∀ w, (p >>= f).Holds C post w ↔ p.Holds C (fun value => (f value).Holds C post) w := by
  induction p with
  | done value => exact fun _ => Iff.rfl
  | call c resume ih =>
    intro w
    rw [call_bind, Holds, Holds]
    constructor
    · intro h v hv
      obtain ⟨hpermits, hresume⟩ := h v hv
      exact ⟨hpermits, fun reply v' hanswers => (ih reply v').mp (hresume reply v' hanswers)⟩
    · intro h v hv
      obtain ⟨hpermits, hresume⟩ := h v hv
      exact ⟨hpermits, fun reply v' hanswers => (ih reply v').mpr (hresume reply v' hanswers)⟩

/-- Interference that composes, and that the end survives, is survived on the way. -/
theorem Holds.interfere (htrans : ∀ {w v u}, C.interferes w v → C.interferes v u → C.interferes w u)
    (hpost : ∀ value {w v}, post value w → C.interferes w v → post value v)
    {p : Program Call Reply α} {w v : ω} (h : p.Holds C post w) (hv : C.interferes w v) :
    p.Holds C post v := by
  cases p with
  | done value => exact hpost value h hv
  | call c resume => exact fun u hu => h u (htrans hv hu)

/-! ## 4. Whatever the replies -/

/-- The calls are among `calls` and the end is in `ends`, whatever the replies. -/
def Within (calls : Call → Prop) (ends : α → Prop) : Program Call Reply α → Prop
  | done value => ends value
  | call c resume => calls c ∧ ∀ reply, (resume reply).Within calls ends

variable {calls : Call → Prop} {ends : α → Prop}

theorem Within.mono {calls' : Call → Prop} {ends' : α → Prop} (hcalls : ∀ c, calls c → calls' c)
    (hends : ∀ value, ends value → ends' value) :
    ∀ {p : Program Call Reply α}, p.Within calls ends → p.Within calls' ends' := by
  intro p
  induction p with
  | done value => exact hends value
  | call c resume ih =>
    rintro ⟨hc, hresume⟩
    exact ⟨hcalls c hc, fun reply => ih reply (hresume reply)⟩

theorem within_bind {ends : β → Prop} :
    (p >>= f).Within calls ends ↔ p.Within calls fun value => (f value).Within calls ends := by
  induction p with
  | done value => exact Iff.rfl
  | call c resume ih =>
    rw [call_bind, Within, Within]
    constructor
    · rintro ⟨hc, hresume⟩
      exact ⟨hc, fun reply => (ih reply).mp (hresume reply)⟩
    · rintro ⟨hc, hresume⟩
      exact ⟨hc, fun reply => (ih reply).mpr (hresume reply)⟩

/-- In an environment that answers such calls within an invariant, the invariant holds at the
end. -/
theorem Within.holds {I : ω → Prop} (hinterferes : ∀ {w v}, I w → C.interferes w v → I v)
    (hcall : ∀ {c w}, calls c → I w →
      C.permits c w ∧ ∀ reply v, C.answers c w reply v → I v) :
    ∀ {p : Program Call Reply α} {w : ω}, p.Within calls ends → I w →
      p.Holds C (fun value w => ends value ∧ I w) w := by
  intro p
  induction p with
  | done value => exact fun hp hw => ⟨hp, hw⟩
  | call c resume ih =>
    rintro w ⟨hc, hresume⟩ hw v hv
    obtain ⟨hpermits, hanswers⟩ := hcall hc (hinterferes hw hv)
    exact ⟨hpermits, fun reply v' h => ih reply (hresume reply) (hanswers reply v' h)⟩

/-- A run against a server is one of the ways it may go. -/
theorem Within.exec :
    ∀ {p : Program Call Reply α}, p.Within calls ends → ∀ w, ends (p.exec serve w).1 := by
  intro p
  induction p with
  | done value => exact fun hp _ => hp
  | call c resume ih => exact fun hp w => ih (serve c w).1 (hp.2 (serve c w).1) (serve c w).2

theorem within_true : ∀ p : Program Call Reply α, p.Within (fun _ => True) fun _ => True := by
  intro p
  induction p with
  | done value => exact trivial
  | call c resume ih => exact ⟨trivial, ih⟩

end Program

/-! ## 5. Exceptions and a state -/

theorem Except.bind_eq_ok_iff {ε α β : Type} {x : Except ε α} {f : α → Except ε β} {b : β} :
    (x >>= f) = .ok b ↔ ∃ a, x = .ok a ∧ f a = .ok b := by
  cases x with
  | error error =>
    constructor
    · exact nofun
    · rintro ⟨a, ⟨⟩, -⟩
  | ok value =>
    constructor
    · exact fun h => ⟨value, rfl, h⟩
    · rintro ⟨a, ⟨⟩, h⟩
      exact h

/-- What is done to the state before an exception stays done. -/
abbrev Activity (Call : Type) (Reply : Call → Type) (ε σ α : Type) :=
  ExceptT ε (StateT σ (Program Call Reply)) α

namespace Activity

open Program

variable {Call : Type} {Reply : Call → Type} {ε σ α β ω : Type}

/-- The program of an action in a state. -/
def program (x : Activity Call Reply ε σ α) (s : σ) : Program Call Reply (Except ε α × σ) :=
  x.run.run s

def ask (c : Call) : Activity Call Reply ε σ (Reply c) :=
  ExceptT.lift (StateT.lift (Program.ask c))

/-- A value, or the exception that took its place. -/
def expect (result : Except ε α) : Activity Call Reply ε σ α :=
  match result with
  | .ok value => pure value
  | .error error => throw error

/-- The action with its exception as a value. -/
def attempt (x : Activity Call Reply ε σ α) : Activity Call Reply ε σ (Except ε α) :=
  ExceptT.mk (Except.ok <$> x.run)

/-- How an action goes on from the end of another. -/
def goOn (f : α → Activity Call Reply ε σ β) :
    Except ε α × σ → Program Call Reply (Except ε β × σ)
  | (.ok value, s) => (f value).program s
  | (.error error, s) => .done (.error error, s)

/-- How the handler takes over from the end of an action. -/
def handle (f : ε → Activity Call Reply ε σ α) :
    Except ε α × σ → Program Call Reply (Except ε α × σ)
  | (.ok value, s) => .done (.ok value, s)
  | (.error error, s) => (f error).program s

@[simp] theorem program_pure (value : α) (s : σ) :
    (pure value : Activity Call Reply ε σ α).program s = .done (.ok value, s) := rfl

@[simp] theorem program_throw (error : ε) (s : σ) :
    (throw error : Activity Call Reply ε σ α).program s = .done (.error error, s) := rfl

@[simp] theorem program_get (s : σ) :
    (get : Activity Call Reply ε σ σ).program s = .done (.ok s, s) := rfl

@[simp] theorem program_modify (f : σ → σ) (s : σ) :
    (modify f : Activity Call Reply ε σ PUnit).program s = .done (.ok ⟨⟩, f s) := rfl

@[simp] theorem program_ask (c : Call) (s : σ) :
    (ask c : Activity Call Reply ε σ (Reply c)).program s =
      .call c fun reply => .done (.ok reply, s) := rfl

@[simp] theorem program_bind (x : Activity Call Reply ε σ α) (f : α → Activity Call Reply ε σ β)
    (s : σ) : (x >>= f).program s = x.program s >>= goOn f := by
  refine congrArg (x.program s >>= ·) (funext fun result => ?_)
  obtain ⟨value | error, s'⟩ := result <;> rfl

@[simp] theorem program_tryCatch (x : Activity Call Reply ε σ α)
    (f : ε → Activity Call Reply ε σ α) (s : σ) :
    (tryCatch x f).program s = x.program s >>= handle f := by
  refine congrArg (x.program s >>= ·) (funext fun result => ?_)
  obtain ⟨value | error, s'⟩ := result <;> rfl

@[simp] theorem program_attempt (x : Activity Call Reply ε σ α) (s : σ) :
    x.attempt.program s = x.program s >>= fun result => .done (.ok result.1, result.2) := rfl

variable (result : Except ε α)

@[simp] theorem program_expect (s : σ) :
    (expect result : Activity Call Reply ε σ α).program s = .done (result, s) := by
  cases result <;> rfl

@[simp] theorem program_ite (c : Prop) [Decidable c] (x y : Activity Call Reply ε σ α) (s : σ) :
    (if c then x else y).program s = if c then x.program s else y.program s := by
  split <;> rfl

@[simp] theorem goOn_ok (f : α → Activity Call Reply ε σ β) (value : α) (s : σ) :
    goOn f (.ok value, s) = (f value).program s := rfl

@[simp] theorem goOn_error (f : α → Activity Call Reply ε σ β) (error : ε) (s : σ) :
    goOn f (.error error, s) = .done (.error error, s) := rfl

@[simp] theorem handle_ok (f : ε → Activity Call Reply ε σ α) (value : α) (s : σ) :
    handle f (.ok value, s) = .done (.ok value, s) := rfl

@[simp] theorem handle_error (f : ε → Activity Call Reply ε σ α) (error : ε) (s : σ) :
    handle f (.error error, s) = (f error).program s := rfl

/-! ## 6. What an action keeps -/

/-- Which calls an action may make from a state, and how it may change the state meanwhile. -/
structure Frame (Call σ : Type) where
  calls : σ → Call → Prop
  changes : σ → σ → Prop
  refl : ∀ s, changes s s
  trans : ∀ {s t u}, changes s t → changes t u → changes s u
  /-- What may be called later might have been called before. -/
  earlier : ∀ {s t c}, changes s t → calls t c → calls s c

/-- Nothing changes. -/
def Frame.still (calls : Call → Prop) : Frame Call σ where
  calls _ := calls
  changes s t := t = s
  refl _ := rfl
  trans h h' := h'.trans h
  earlier _ := id

/-- Anything may change. -/
def Frame.free (calls : Call → Prop) : Frame Call σ where
  calls _ := calls
  changes _ _ := True
  refl _ := trivial
  trans _ _ := trivial
  earlier _ := id

variable {F F' : Frame Call σ}

/-- The action stays in the frame, whatever the replies. -/
def Keeps (F : Frame Call σ) (x : Activity Call Reply ε σ α) : Prop :=
  ∀ s, (x.program s).Within (F.calls s) fun result => F.changes s result.2

theorem Keeps.mono {x : Activity Call Reply ε σ α} (hx : x.Keeps F)
    (hcalls : ∀ s c, F.calls s c → F'.calls s c) (hchanges : ∀ s t, F.changes s t → F'.changes s t) :
    x.Keeps F' :=
  fun s => (hx s).mono (hcalls s) fun _ => hchanges s _

theorem Keeps.bind {x : Activity Call Reply ε σ α} {f : α → Activity Call Reply ε σ β}
    (hx : x.Keeps F) (hf : ∀ value, (f value).Keeps F) : (x >>= f).Keeps F := by
  intro s
  rw [program_bind, within_bind]
  refine (hx s).mono (fun _ => id) ?_
  rintro ⟨value | error, t⟩ hst
  · exact hst
  · exact (hf error t).mono (fun _ => F.earlier hst) fun _ htu => F.trans hst htu

theorem Keeps.tryCatch {x : Activity Call Reply ε σ α} {f : ε → Activity Call Reply ε σ α}
    (hx : x.Keeps F) (hf : ∀ error, (f error).Keeps F) : (MonadExcept.tryCatch x f).Keeps F := by
  intro s
  rw [program_tryCatch, within_bind]
  refine (hx s).mono (fun _ => id) ?_
  rintro ⟨value | error, t⟩ hst
  · exact (hf value t).mono (fun _ => F.earlier hst) fun _ htu => F.trans hst htu
  · exact hst

theorem Keeps.attempt {x : Activity Call Reply ε σ α} (hx : x.Keeps F) : x.attempt.Keeps F := by
  intro s
  rw [program_attempt, within_bind]
  exact hx s

theorem keeps_pure (value : α) : (pure value : Activity Call Reply ε σ α).Keeps F :=
  fun s => F.refl s

theorem keeps_throw (error : ε) : (throw error : Activity Call Reply ε σ α).Keeps F :=
  fun s => F.refl s

theorem keeps_expect : (expect result : Activity Call Reply ε σ α).Keeps F := by
  intro s
  rw [program_expect]
  exact F.refl s

theorem keeps_ask {c : Call} (hc : ∀ s, F.calls s c) :
    (ask c : Activity Call Reply ε σ (Reply c)).Keeps F :=
  fun s => ⟨hc s, fun _ => F.refl s⟩

theorem keeps_modify {f : σ → σ} (hf : ∀ s, F.changes s (f s)) :
    (modify f : Activity Call Reply ε σ PUnit).Keeps F :=
  fun s => hf s

theorem keeps_get_bind {f : σ → Activity Call Reply ε σ β} (hf : ∀ s, (f s).Keeps F) :
    ((get : Activity Call Reply ε σ σ) >>= f).Keeps F := by
  intro s
  rw [program_bind, program_get, done_bind, goOn_ok]
  exact hf s s

/-! ## 7. Pre- and postconditions -/

/-- The end of an action: a value, or an exception. -/
def Ends (post : α → σ → ω → Prop) (raised : ε → σ → ω → Prop) :
    Except ε α × σ → ω → Prop
  | (.ok value, s), w => post value s w
  | (.error error, s), w => raised error s w

/-- From `pre` the action makes proper calls only and ends in `post`, or raises into `raised`. -/
def Triple (C : Conduct Call Reply ω) (pre : σ → ω → Prop) (x : Activity Call Reply ε σ α)
    (post : α → σ → ω → Prop) (raised : ε → σ → ω → Prop) : Prop :=
  ∀ s w, pre s w → (x.program s).Holds C (Ends post raised) w

variable {C : Conduct Call Reply ω} {pre pre' : σ → ω → Prop} {post post' : α → σ → ω → Prop}
  {M : β → σ → ω → Prop} {raised raised' : ε → σ → ω → Prop}

theorem Triple.conseq {x : Activity Call Reply ε σ α} (h : Triple C pre x post raised)
    (hpre : ∀ s w, pre' s w → pre s w) (hpost : ∀ value s w, post value s w → post' value s w)
    (hraised : ∀ error s w, raised error s w → raised' error s w) :
    Triple C pre' x post' raised' := by
  intro s w hs
  refine (h s w (hpre s w hs)).mono ?_
  rintro ⟨error | value, s'⟩ w' hend
  · exact hraised error s' w' hend
  · exact hpost value s' w' hend

theorem Triple.bind {x : Activity Call Reply ε σ β} {f : β → Activity Call Reply ε σ α}
    (hx : Triple C pre x M raised) (hf : ∀ value, Triple C (M value) (f value) post raised) :
    Triple C pre (x >>= f) post raised := by
  intro s w hs
  rw [program_bind, holds_bind]
  refine (hx s w hs).mono ?_
  rintro ⟨error | value, s'⟩ w' hend
  · exact hend
  · exact hf value s' w' hend

theorem Triple.tryCatch {E : ε → σ → ω → Prop} {x : Activity Call Reply ε σ α} {f : ε → Activity Call Reply ε σ α}
    (hx : Triple C pre x post E) (hf : ∀ error, Triple C (E error) (f error) post raised) :
    Triple C pre (MonadExcept.tryCatch x f) post raised := by
  intro s w hs
  rw [program_tryCatch, holds_bind]
  refine (hx s w hs).mono ?_
  rintro ⟨error | value, s'⟩ w' hend
  · exact hf error s' w' hend
  · exact hend

theorem Triple.attempt {x : Activity Call Reply ε σ α} {post : Except ε α → σ → ω → Prop}
    (hx : Triple C pre x (fun value => post (.ok value)) fun error => post (.error error)) :
    Triple C pre x.attempt post raised := by
  intro s w hs
  rw [program_attempt, holds_bind]
  refine (hx s w hs).mono ?_
  rintro ⟨error | value, s'⟩ w' hend
  · exact hend
  · exact hend

theorem triple_pure {value : α} (h : ∀ s w, pre s w → post value s w) :
    Triple C pre (pure value : Activity Call Reply ε σ α) post raised := h

theorem triple_throw {error : ε} (h : ∀ s w, pre s w → raised error s w) :
    Triple C pre (throw error : Activity Call Reply ε σ α) post raised := h

theorem triple_expect {result : Except ε α}
    (hok : ∀ value, result = .ok value → ∀ s w, pre s w → post value s w)
    (herror : ∀ error, result = .error error → ∀ s w, pre s w → raised error s w) :
    Triple C pre (expect result : Activity Call Reply ε σ α) post raised := by
  cases result with
  | ok value => exact triple_pure (hok value rfl)
  | error error => exact triple_throw (herror error rfl)

/-- A check, and what comes after it. -/
theorem triple_expect_bind {result : Except ε β} {f : β → Activity Call Reply ε σ α}
    (hok : ∀ value, result = .ok value → Triple C pre (f value) post raised)
    (herror : ∀ error, result = .error error → ∀ s w, pre s w → raised error s w) :
    Triple C pre (expect result >>= f) post raised := by
  refine Triple.bind (M := fun value s w => result = .ok value ∧ pre s w)
    (triple_expect (fun value hvalue s w hs => ⟨hvalue, hs⟩) herror) fun value s w hs => ?_
  exact hok value hs.1 s w hs.2

theorem triple_modify {f : σ → σ} {post : PUnit → σ → ω → Prop}
    (h : ∀ s w, pre s w → post ⟨⟩ (f s) w) :
    Triple C pre (modify f : Activity Call Reply ε σ PUnit) post raised := h

/-- What is read is known of the state from there on. -/
theorem triple_get_bind {f : σ → Activity Call Reply ε σ α}
    (h : ∀ s, Triple C (fun t w => t = s ∧ pre t w) (f s) post raised) :
    Triple C pre (get >>= f) post raised :=
  fun s w hs => h s s w ⟨rfl, hs⟩

/-- A state that is known before the action begins. -/
theorem Triple.of_state {x : Activity Call Reply ε σ α}
    (h : ∀ s, Triple C (fun t w => t = s ∧ pre t w) x post raised) : Triple C pre x post raised :=
  fun s w hs => h s s w ⟨rfl, hs⟩

theorem triple_ite {c : Prop} [Decidable c] {x y : Activity Call Reply ε σ α}
    (hx : c → Triple C pre x post raised) (hy : ¬ c → Triple C pre y post raised) :
    Triple C pre (if c then x else y) post raised := by
  split
  · exact hx ‹_›
  · exact hy ‹_›

/-- The same for what the changes of the frame preserve. -/
theorem Keeps.triple_kept {x : Activity Call Reply ε σ α} {I : ω → Prop} {P : σ → Prop}
    (hx : x.Keeps F) (hP : ∀ s t, F.changes s t → P s → P t)
    (hinterferes : ∀ {w v}, I w → C.interferes w v → I v)
    (hcall : ∀ {s c w}, F.calls s c → I w →
      C.permits c w ∧ ∀ reply v, C.answers c w reply v → I v) :
    Triple C (fun s w => P s ∧ I w) x (fun _ s w => P s ∧ I w) fun _ s w => P s ∧ I w := by
  rintro s w ⟨hs, hw⟩
  refine Holds.mono ?_ ((hx s).holds hinterferes hcall hw)
  rintro ⟨error | value, t⟩ w' ⟨hchanges, hw'⟩
  · exact ⟨hP s t hchanges hs, hw'⟩
  · exact ⟨hP s t hchanges hs, hw'⟩

/-! ## 8. One run, and its verdict -/

/-- An action carried out against a server: how it ends, and the server behind it. -/
def perform (serve : (c : Call) → ω → Reply c × ω) (x : Activity Call Reply ε σ α) (s : σ) (w : ω) :
    (Except ε α × σ) × ω :=
  (x.program s).exec serve w

section Perform

variable {serve : (c : Call) → ω → Reply c × ω} {x : Activity Call Reply ε σ β} {s s' : σ}
  {w w' : ω} {f : β → Activity Call Reply ε σ α}

theorem perform_bind_ok {value : β} (h : x.perform serve s w = ((.ok value, s'), w')) :
    (x >>= f).perform serve s w = (f value).perform serve s' w' := by
  unfold perform at h ⊢
  rw [program_bind, exec_bind, h]
  rfl

variable {error : ε}

theorem perform_bind_error (h : x.perform serve s w = ((.error error, s'), w')) :
    (x >>= f).perform serve s w = ((.error error, s'), w') := by
  unfold perform at h ⊢
  rw [program_bind, exec_bind, h]
  rfl

variable {g : ε → Activity Call Reply ε σ α}

theorem perform_tryCatch_error {x : Activity Call Reply ε σ α}
    (h : x.perform serve s w = ((.error error, s'), w')) :
    (MonadExcept.tryCatch x g).perform serve s w = (g error).perform serve s' w' := by
  unfold perform at h ⊢
  rw [program_tryCatch, exec_bind, h]
  rfl

theorem perform_tryCatch_ok {x : Activity Call Reply ε σ α} {value : α}
    (h : x.perform serve s w = ((.ok value, s'), w')) :
    (MonadExcept.tryCatch x g).perform serve s w = ((.ok value, s'), w') := by
  unfold perform at h ⊢
  rw [program_tryCatch, exec_bind, h]
  rfl

theorem perform_modify_bind {g : σ → σ} {f : PUnit → Activity Call Reply ε σ α} :
    (modify g >>= f).perform serve s w = (f ⟨⟩).perform serve (g s) w := rfl

theorem perform_get_bind {f : σ → Activity Call Reply ε σ α} :
    (get >>= f).perform serve s w = (f s).perform serve s w := rfl

theorem perform_expect {result : Except ε α} :
    (expect result : Activity Call Reply ε σ α).perform serve s w = ((result, s), w) := by
  unfold perform
  rw [program_expect]
  rfl

theorem perform_throw :
    (throw error : Activity Call Reply ε σ α).perform serve s w = ((.error error, s), w) := rfl

/-- The run raises, and leaves the state in `P`. -/
def Raises (serve : (c : Call) → ω → Reply c × ω) (x : Activity Call Reply ε σ α) (s : σ) (w : ω)
    (P : σ → Prop) : Prop :=
  ∃ error s' w', x.perform serve s w = ((.error error, s'), w') ∧ P s'

variable {P : σ → Prop}

theorem Raises.bind (h : x.Raises serve s w P) : (x >>= f).Raises serve s w P := by
  obtain ⟨error, s', w', hx, hP⟩ := h
  exact ⟨error, s', w', perform_bind_error hx, hP⟩

theorem Raises.mono {Q : σ → Prop} {x : Activity Call Reply ε σ α} (h : x.Raises serve s w P)
    (hPQ : ∀ s', P s' → Q s') : x.Raises serve s w Q := by
  obtain ⟨error, s', w', hx, hP⟩ := h
  exact ⟨error, s', w', hx, hPQ s' hP⟩

theorem Raises.after {value : β} (hx : x.perform serve s w = ((.ok value, s'), w'))
    (h : (f value).Raises serve s' w' P) : (x >>= f).Raises serve s w P := by
  unfold Raises
  rw [perform_bind_ok hx]
  exact h

theorem raises_expect {result : Except ε α} (h : result = .error error) (hP : P s) :
    (expect result : Activity Call Reply ε σ α).Raises serve s w P :=
  ⟨error, s, w, h ▸ perform_expect, hP⟩

theorem raises_throw (hP : P s) : (throw error : Activity Call Reply ε σ α).Raises serve s w P :=
  ⟨error, s, w, perform_throw, hP⟩

/-- A check that fails raises here, and one that passes is known to have passed. -/
theorem raises_expect_bind {result : Except ε β} (hP : ∀ error, result = .error error → P s)
    (h : ∀ value, result = .ok value → (f value).Raises serve s w P) :
    (expect result >>= f).Raises serve s w P := by
  cases hresult : result with
  | error error => exact Raises.bind (raises_expect rfl (hP error hresult))
  | ok value => exact Raises.after perform_expect (h value hresult)

end Perform

/-- The action raises, whatever the replies. -/
def Throws (x : Activity Call Reply ε σ α) : Prop :=
  ∀ s, (x.program s).Within (fun _ => True) fun result => ∃ error, result.1 = .error error

theorem throws_throw (error : ε) : (throw error : Activity Call Reply ε σ α).Throws :=
  fun _ => ⟨error, rfl⟩

theorem throws_bind {x : Activity Call Reply ε σ β} {f : β → Activity Call Reply ε σ α}
    (hf : ∀ value, (f value).Throws) : (x >>= f).Throws := by
  intro s
  rw [program_bind, within_bind]
  refine (within_true (x.program s)).mono (fun _ => id) ?_
  rintro ⟨error | value, s'⟩ -
  · exact ⟨error, rfl⟩
  · exact hf value s'

theorem Throws.perform {x : Activity Call Reply ε σ α} (h : x.Throws)
    (serve : (c : Call) → ω → Reply c × ω) (s : σ) (w : ω) :
    ∃ error, (x.perform serve s w).1.1 = .error error :=
  (h s).exec serve w

/-- What an action calls and how it ends, the state left out. -/
def verdict (x : Activity Call Reply ε σ α) (s : σ) : Program Call Reply (Except ε α) :=
  x.program s >>= fun result => .done result.1

/-- How the verdict goes on from the end of a first action. -/
def verdictOf (f : β → Activity Call Reply ε σ α) : Except ε β × σ → Program Call Reply (Except ε α)
  | (.ok value, s) => (f value).verdict s
  | (.error error, _) => .done (.error error)

theorem verdict_bind (x : Activity Call Reply ε σ β) (f : β → Activity Call Reply ε σ α) (s : σ) :
    (x >>= f).verdict s = x.program s >>= verdictOf f := by
  unfold verdict
  rw [program_bind, Program.bind_assoc]
  refine congrArg (x.program s >>= ·) (funext fun result => ?_)
  obtain ⟨error | value, s'⟩ := result <;> rfl

/-- The action only reads: what it calls and how it ends depends on a view of the state. -/
def Reads {ν : Type} (view : σ → ν) (x : Activity Call Reply ε σ α) : Prop :=
  ∃ reading : ν → Program Call Reply (Except ε α),
    ∀ s, x.program s = reading (view s) >>= fun result => .done (result, s)

variable {ν : Type}

variable {view : σ → ν}

theorem Reads.bind {x : Activity Call Reply ε σ β} {f : β → Activity Call Reply ε σ α}
    (hx : x.Reads view) (hf : ∀ value, (f value).Reads view) : (x >>= f).Reads view := by
  obtain ⟨reading, hreading⟩ := hx
  choose next hnext using hf
  refine ⟨fun v => reading v >>= fun
    | .ok value => next value v
    | .error error => .done (.error error), fun s => ?_⟩
  rw [program_bind, hreading, Program.bind_assoc, Program.bind_assoc]
  refine congrArg (reading (view s) >>= ·) (funext fun result => ?_)
  cases result with
  | error error => rfl
  | ok value => exact hnext value s

theorem verdict_get_bind {f : σ → Activity Call Reply ε σ α} (s : σ) :
    (get >>= f).verdict s = (f s).verdict s := rfl

theorem verdict_expect_bind (result : Except ε β) (f : β → Activity Call Reply ε σ α) (s : σ) :
    (expect result >>= f).verdict s =
      match result with
      | .ok value => (f value).verdict s
      | .error error => .done (.error error) := by
  rw [verdict_bind, program_expect, done_bind]
  cases result <;> rfl

theorem reads_expect : (expect result : Activity Call Reply ε σ α).Reads view :=
  ⟨fun _ => .done result, fun s => by rw [program_expect]; rfl⟩

theorem Reads.perform_state {x : Activity Call Reply ε σ α} (h : x.Reads view)
    (serve : (c : Call) → ω → Reply c × ω) (s : σ) (w : ω) : (x.perform serve s w).1.2 = s := by
  obtain ⟨reading, hreading⟩ := h
  unfold perform
  rw [hreading, exec_bind]
  rfl

end Activity
