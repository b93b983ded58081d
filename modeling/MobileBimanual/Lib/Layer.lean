/-
# Programs in layers

The calls of a program may be carried out by programs of the layer below, on a state of that layer.
A handler says which program carries out which call; `interpret` puts them in their place, and
`relabel` only changes what the calls are named.

An action on a part of the state is one on the whole (`zoom`), and one with some of the calls is one
with all of them (`named`).

`holds_interpret`: where the handler answers as a conduct says, a program that holds against the
conduct holds in layers, whatever the replies below (`onto_within` for actions).
-/
import MobileBimanual.Lib.Program

namespace Program

variable {Call Call' : Type} {Reply : Call → Type} {Reply' : Call' → Type} {τ α : Type}

/-! ## 1. One layer on another -/

/-- The program below that carries out a call. -/
abbrev Handler (Call : Type) (Reply : Call → Type) (Call' : Type) (Reply' : Call' → Type)
    (τ : Type) := (c : Call) → τ → Program Call' Reply' (Reply c × τ)

def interpret (h : Handler Call Reply Call' Reply' τ) :
    Program Call Reply α → τ → Program Call' Reply' (α × τ)
  | done value, t => done (value, t)
  | call c resume, t => h c t >>= fun r => (resume r.1).interpret h r.2

/-- The same calls under other names. -/
def relabel (f : Call → Call') (g : ∀ c, Reply' (f c) → Reply c) :
    Program Call Reply α → Program Call' Reply' α
  | done value => done value
  | call c resume => call (f c) fun reply => (resume (g c reply)).relabel f g

theorem within_relabel {f : Call → Call'} {g : ∀ c, Reply' (f c) → Reply c}
    {calls : Call → Prop} {calls' : Call' → Prop} {ends : α → Prop}
    (hcalls : ∀ c, calls c → calls' (f c)) :
    ∀ {p : Program Call Reply α}, p.Within calls ends → (p.relabel f g).Within calls' ends := by
  intro p
  induction p with
  | done value => exact id
  | call c resume ih => exact fun h => ⟨hcalls c h.1, fun reply => ih _ (h.2 _)⟩

variable {h : Handler Call Reply Call' Reply' τ} {C : Conduct Call Reply τ}
  {calls : Call' → Prop}

/-- The handler answers as the conduct says. -/
def Handler.Meets (h : Handler Call Reply Call' Reply' τ) (C : Conduct Call Reply τ)
    (calls : Call' → Prop) : Prop :=
  ∀ c t, C.permits c t → (h c t).Within calls fun r => C.answers c t r.1 r.2

/-- **What holds against the conduct holds in layers.** -/
theorem holds_interpret (hmeets : h.Meets C calls) (hrefl : ∀ t, C.interferes t t)
    {post : α → τ → Prop} : ∀ {p : Program Call Reply α} {t : τ}, p.Holds C post t →
      (p.interpret h t).Within calls fun r => post r.1 r.2 := by
  intro p
  induction p with
  | done value => exact id
  | call c resume ih =>
    intro t hp
    obtain ⟨hpermits, hresume⟩ := hp t (hrefl t)
    rw [interpret, within_bind]
    exact (hmeets c t hpermits).mono (fun _ => id) fun r hr => ih _ (hresume r.1 r.2 hr)

end Program

namespace Activity

open Program hiding ask

variable {Call Call' : Type} {Reply : Call → Type} {Reply' : Call' → Type} {ε σ τ α : Type}

/-! ## 2. Actions -/

/-- An action whose calls a handler carries out. -/
def onto (h : Handler Call Reply Call' Reply' τ) (x : Activity Call Reply ε σ α) :
    Activity Call' Reply' ε (σ × τ) α :=
  ExceptT.mk fun s => (x.program s.1).interpret h s.2 >>= fun r => .done (r.1.1, (r.1.2, r.2))

theorem program_onto (h : Handler Call Reply Call' Reply' τ) (x : Activity Call Reply ε σ α)
    (s : σ × τ) : (x.onto h).program s =
      (x.program s.1).interpret h s.2 >>= fun r => .done (r.1.1, (r.1.2, r.2)) := rfl

variable {x : Activity Call Reply ε σ α}

/-- What a triple says of the state above and below, the action in layers does. -/
theorem onto_within {h : Handler Call Reply Call' Reply' τ} {C : Conduct Call Reply τ}
    {calls : Call' → Prop} (hmeets : h.Meets C calls) (hrefl : ∀ t, C.interferes t t)
    {pre : σ → τ → Prop} {post : α → σ → τ → Prop} {raised : ε → σ → τ → Prop}
    (hx : Triple C pre x post raised) {s : σ × τ} (hs : pre s.1 s.2) :
    ((x.onto h).program s).Within calls fun r => Ends post raised (r.1, r.2.1) r.2.2 := by
  rw [program_onto, within_bind]
  exact holds_interpret hmeets hrefl (hx s.1 s.2 hs)

/-! ## 3. Nothing is known below -/

/-- An environment that does anything. -/
def anything (Call : Type) (Reply : Call → Type) : Conduct Call Reply Unit where
  interferes _ _ := True
  permits _ _ := True
  answers _ _ _ _ := True

theorem holds_anything {ends : α → Prop} : ∀ {p : Program Call Reply α},
    p.Holds (anything Call Reply) (fun value _ => ends value) () ↔
      p.Within (fun _ => True) ends := by
  intro p
  induction p with
  | done value => exact Iff.rfl
  | call c resume ih =>
    constructor
    · exact fun h => ⟨trivial, fun reply => (ih reply).mp ((h () trivial).2 reply () trivial)⟩
    · exact fun h _ _ => ⟨trivial, fun reply _ _ => (ih reply).mpr (h.2 reply)⟩

/-- What an action does whatever the replies, as a triple. -/
theorem triple_anything {pre : σ → Prop} (ends : Except ε α × σ → Prop)
    (h : ∀ s, pre s → (x.program s).Within (fun _ => True) ends) :
    Triple (anything Call Reply) (fun s _ => pre s) x (fun value s _ => ends (.ok value, s))
      fun error s _ => ends (.error error, s) := by
  rintro s ⟨⟩ hs
  refine (holds_anything.mpr (h s hs)).mono ?_
  rintro ⟨error | value, t⟩ ⟨⟩ hend
  · exact hend
  · exact hend

theorem triple_ask_anything {c : Call} {pre : σ → Prop} {raised : ε → σ → Unit → Prop} :
    Triple (anything Call Reply) (fun s _ => pre s) (ask c : Activity Call Reply ε σ (Reply c))
      (fun _ s _ => pre s) raised :=
  fun _ _ h _ _ => ⟨trivial, fun _ _ _ => h⟩

theorem within_of_triple {pre : σ → Prop} {post : α → σ → Prop} {raised : ε → σ → Prop}
    (h : Triple (anything Call Reply) (fun s _ => pre s) x (fun value s _ => post value s) fun error s _ => raised error s)
    {s : σ} (hs : pre s) {ends : Except ε α × σ → Prop}
    (hpost : ∀ value s, post value s → ends (.ok value, s))
    (hraised : ∀ error s, raised error s → ends (.error error, s)) :
    (x.program s).Within (fun _ => True) ends := by
  refine holds_anything.mp ((h s () hs).mono ?_)
  rintro ⟨error | value, t⟩ ⟨⟩ hend
  · exact hraised error t hend
  · exact hpost value t hend

/-! ## 4. A part of the state -/

/-- An action on a part of the state. -/
def zoom (view : σ → τ) (put : τ → σ → σ) (x : Activity Call Reply ε τ α) :
    Activity Call Reply ε σ α :=
  ExceptT.mk fun s => x.program (view s) >>= fun r => .done (r.1, put r.2 s)

theorem program_zoom (view : σ → τ) (put : τ → σ → σ) (x : Activity Call Reply ε τ α) (s : σ) :
    (zoom view put x).program s = x.program (view s) >>= fun r => .done (r.1, put r.2 s) := rfl

theorem triple_zoom {ω : Type} {C : Conduct Call Reply ω} {view : σ → τ} {put : τ → σ → σ}
    {x : Activity Call Reply ε τ α} {pre : σ → ω → Prop} {post : α → σ → ω → Prop}
    {raised : ε → σ → ω → Prop} (h : ∀ s, Triple C (fun t w => t = view s ∧ pre s w) x
      (fun value t => post value (put t s)) fun error t => raised error (put t s)) :
    Triple C pre (zoom view put x) post raised := by
  intro s w hs
  rw [program_zoom, holds_bind]
  refine (h s (view s) w ⟨rfl, hs⟩).mono ?_
  rintro ⟨error | value, t⟩ w' hend
  · exact hend
  · exact hend

/-! ## 5. From one environment to another -/

variable {ω ω' : Type} {C : Conduct Call Reply ω} {C' : Conduct Call Reply ω'}

/-- The second environment, seen through `f`, allows more and does less. -/
structure Refines (C : Conduct Call Reply ω) (C' : Conduct Call Reply ω') (f : ω' → ω) : Prop where
  interferes : ∀ {w v}, C'.interferes w v → C.interferes (f w) (f v)
  permits : ∀ {c w}, C.permits c (f w) → C'.permits c w
  answers : ∀ {c w reply v}, C'.answers c w reply v → C.answers c (f w) reply (f v)

theorem Refines.holds {f : ω' → ω} (h : Refines C C' f) {post : α → ω → Prop} :
    ∀ {p : Program Call Reply α} {w : ω'}, p.Holds C post (f w) →
      p.Holds C' (fun value w => post value (f w)) w := by
  intro p
  induction p with
  | done value => exact id
  | call c resume ih =>
    intro w hp v hv
    obtain ⟨hpermits, hresume⟩ := hp (f v) (h.interferes hv)
    exact ⟨h.permits hpermits, fun reply v' hanswers => ih _ (hresume reply _ (h.answers hanswers))⟩

variable {pre : σ → ω → Prop} {post : α → σ → ω → Prop} {raised : ε → σ → ω → Prop}

/-- What holds against the first environment holds against the second. -/
theorem Refines.triple {f : ω' → ω} (h : Refines C C' f) (hx : Triple C pre x post raised) :
    Triple C' (fun s w => pre s (f w)) x (fun value s w => post value s (f w))
      fun error s w => raised error s (f w) := by
  intro s w hs
  refine (h.holds (hx s (f w) hs)).mono ?_
  rintro ⟨error | value, t⟩ w' hend
  · exact hend
  · exact hend

/-! ## 6. Some of the calls -/

/-- The same action, its calls under other names. -/
def named (f : Call → Call') (g : ∀ c, Reply' (f c) → Reply c) (x : Activity Call Reply ε σ α) :
    Activity Call' Reply' ε σ α :=
  ExceptT.mk fun s => (x.program s).relabel f g

/-- The second environment does to the calls under their new names what the first may do to them. -/
structure Renames (C : Conduct Call Reply ω) (C' : Conduct Call' Reply' ω) (f : Call → Call')
    (g : ∀ c, Reply' (f c) → Reply c) : Prop where
  interferes : ∀ {w v}, C'.interferes w v → C.interferes w v
  permits : ∀ {c w}, C.permits c w → C'.permits (f c) w
  answers : ∀ {c w reply v}, C.permits c w → C'.answers (f c) w reply v →
    C.answers c w (g c reply) v

variable {f : Call → Call'} {g : ∀ c, Reply' (f c) → Reply c} {D : Conduct Call' Reply' ω}

theorem Renames.holds (h : Renames C D f g) {post : α → ω → Prop} :
    ∀ {p : Program Call Reply α} {w : ω}, p.Holds C post w → (p.relabel f g).Holds D post w := by
  intro p
  induction p with
  | done value => exact id
  | call c resume ih =>
    intro w hp v hv
    obtain ⟨hpermits, hresume⟩ := hp v (h.interferes hv)
    exact ⟨h.permits hpermits, fun reply v' hanswers =>
      ih _ (hresume _ _ (h.answers hpermits hanswers))⟩

theorem Renames.triple (h : Renames C D f g) (hx : Triple C pre x post raised) :
    Triple D pre (x.named f g) post raised :=
  fun s w hs => h.holds (hx s w hs)

theorem Keeps.named {F : Frame Call σ} {F' : Frame Call' σ} (hx : x.Keeps F)
    (hcalls : ∀ s c, F.calls s c → F'.calls s (f c))
    (hchanges : ∀ s t, F.changes s t → F'.changes s t) : (x.named f g).Keeps F' :=
  fun s => (within_relabel (hcalls s) (hx s)).mono (fun _ => id) fun _ => hchanges s _

/-! ## 7. A frame and a triple -/

theorem Keeps.zoom {F : Frame Call τ} {F' : Frame Call σ} {view : σ → τ} {put : τ → σ → σ}
    {x : Activity Call Reply ε τ α} (hx : x.Keeps F)
    (hcalls : ∀ s c, F.calls (view s) c → F'.calls s c)
    (hchanges : ∀ s t, F.changes (view s) t → F'.changes s (put t s)) :
    (zoom view put x).Keeps F' := by
  intro s
  rw [program_zoom, within_bind]
  exact (hx (view s)).mono (hcalls s) fun r hr => hchanges s r.2 hr

theorem holds_within {calls : Call → Prop} {ends : α → Prop} {post : α → ω → Prop} :
    ∀ {p : Program Call Reply α} {w : ω}, p.Holds C post w → p.Within calls ends →
      p.Holds C (fun value w => post value w ∧ ends value) w := by
  intro p
  induction p with
  | done value => exact fun hp hends => ⟨hp, hends⟩
  | call c resume ih =>
    intro w hp hends v hv
    obtain ⟨hpermits, hresume⟩ := hp v hv
    exact ⟨hpermits, fun reply v' hanswers => ih _ (hresume reply v' hanswers) (hends.2 reply)⟩

/-- What an action in a frame does to the state, added to what a triple says. -/
theorem Triple.keeping {F : Frame Call σ} (h : Triple C pre x post raised) (hx : x.Keeps F)
    (s₀ : σ) :
    Triple C (fun s w => s = s₀ ∧ pre s w) x (fun value s w => post value s w ∧ F.changes s₀ s)
      fun error s w => raised error s w ∧ F.changes s₀ s := by
  rintro s w ⟨rfl, hs⟩
  refine (holds_within (h s w hs) (hx s)).mono ?_
  rintro ⟨error | value, t⟩ w' hend
  · exact hend
  · exact hend

/-- What there is before the action begins. -/
theorem Triple.of_exists {β : Type} {pre : β → σ → ω → Prop}
    (h : ∀ b, Triple C (pre b) x post raised) :
    Triple C (fun s w => ∃ b, pre b s w) x post raised :=
  fun s w ⟨b, hs⟩ => h b s w hs

/-- What is a fact before the action begins. -/
theorem Triple.of_fact {p : Prop} (h : p → Triple C pre x post raised) :
    Triple C (fun s w => p ∧ pre s w) x post raised :=
  fun s w ⟨hp, hs⟩ => h hp s w hs

end Activity
