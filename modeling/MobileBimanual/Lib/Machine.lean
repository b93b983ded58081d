/-
# Runs of a deterministic machine

A machine is a step function on states; a run folds it over a list of events.  Two things are
said of a run here, and nothing about what the machine does:

* `Along step ok s l`: every event of `l` meets the condition `ok` in the state it arrives in;
* `run_invariant`: what one step preserves under `ok`, a run along `ok` preserves.

A prefix of a run along `ok` is one too (`along_append`), so an invariant of every run is an
invariant of every state on the way.
-/
import Mathlib.Logic.Basic
import Mathlib.Data.List.Basic
import Mathlib.Tactic.Tauto

namespace Machine

variable {σ τ ε : Type*} {step : σ → ε → σ} {ok ok' : σ → ε → Prop}

def run (step : σ → ε → σ) (s : σ) (l : List ε) : σ := l.foldl step s

variable (s : σ)

@[simp] theorem run_nil : run step s [] = s := rfl

@[simp] theorem run_cons (e : ε) (l : List ε) : run step s (e :: l) = run step (step s e) l := rfl

theorem run_append (l₁ l₂ : List ε) : run step s (l₁ ++ l₂) = run step (run step s l₁) l₂ := by
  simp [run]

/-- Running on events seen through `g` is running with the step that looks through `g`. -/
theorem run_map {δ : Type*} (g : δ → ε) (s : σ) (l : List δ) :
    run step s (l.map g) = run (fun s e => step s (g e)) s l := by
  simp [run, List.foldl_map]

/-- Every event meets `ok` in the state in which it arrives. -/
def Along (step : σ → ε → σ) (ok : σ → ε → Prop) : σ → List ε → Prop
  | _, [] => True
  | s, e :: l => ok s e ∧ Along step ok (step s e) l

instance decidableAlong (step : σ → ε → σ) (ok : σ → ε → Prop) [h : ∀ s e, Decidable (ok s e)] :
    ∀ (s : σ) (l : List ε), Decidable (Along step ok s l)
  | _, [] => isTrue trivial
  | s, e :: l =>
    have := decidableAlong step ok (step s e) l
    inferInstanceAs (Decidable (ok s e ∧ Along step ok (step s e) l))

@[simp] theorem along_nil : Along step ok s [] := trivial

@[simp] theorem along_cons (e : ε) (l : List ε) :
    Along step ok s (e :: l) ↔ ok s e ∧ Along step ok (step s e) l := Iff.rfl

theorem along_append : ∀ (s : σ) (l₁ l₂ : List ε),
    Along step ok s (l₁ ++ l₂) ↔ Along step ok s l₁ ∧ Along step ok (run step s l₁) l₂
  | s, [], l₂ => by simp
  | s, e :: l₁, l₂ => by
    have ih := along_append (step s e) l₁ l₂
    simp only [List.cons_append, along_cons, run_cons, ih, and_assoc]

/-- A condition on the events alone. -/
theorem along_of_forall : ∀ {l : List ε}, (∀ s, ∀ e ∈ l, ok s e) → ∀ s : σ, Along step ok s l
  | [], _, _ => trivial
  | _ :: _, h, s => ⟨h s _ List.mem_cons_self,
      along_of_forall (fun s e he => h s e (List.mem_cons_of_mem _ he)) _⟩

theorem along_and : ∀ {s : σ} {l : List ε},
    Along step (fun s e => ok s e ∧ ok' s e) s l ↔ Along step ok s l ∧ Along step ok' s l
  | _, [] => by simp
  | s, e :: l => by
    have ih : Along step (fun s e => ok s e ∧ ok' s e) (step s e) l ↔ _ := along_and
    rw [along_cons, along_cons, along_cons, ih]
    tauto

/-- Conditions that agree on every event agree along every run. -/
theorem along_congr (h : ∀ s e, ok s e ↔ ok' s e) : ∀ (s : σ) (l : List ε),
    Along step ok s l ↔ Along step ok' s l
  | _, [] => Iff.rfl
  | s, e :: l => by rw [along_cons, along_cons, h s e, along_congr h (step s e) l]

variable {I : σ → Prop}

/-- **What a step preserves, a run preserves.** -/
theorem run_invariant (hstep : ∀ s e, I s → ok s e → I (step s e)) :
    ∀ {s : σ} (l : List ε), I s → Along step ok s l → I (run step s l)
  | _, [], hs, _ => hs
  | _, e :: l, hs, hl => run_invariant hstep l (hstep _ e hs hl.1) hl.2

/-- The same for what every step preserves. -/
theorem run_invariant_all (hstep : ∀ s e, I s → I (step s e)) :
    ∀ {s : σ} (l : List ε), I s → I (run step s l)
  | _, [], hs => hs
  | _, e :: l, hs => run_invariant_all hstep l (hstep _ e hs)

/-- Conditions that agree wherever an invariant of every step holds agree along a run from there. -/
theorem along_congr_of (hstep : ∀ s e, I s → I (step s e)) (h : ∀ s e, I s → (ok s e ↔ ok' s e)) :
    ∀ {s : σ} (l : List ε), I s → (Along step ok s l ↔ Along step ok' s l)
  | _, [], _ => Iff.rfl
  | s, e :: l, hs => by
    rw [along_cons, along_cons, h s e hs, along_congr_of hstep h l (hstep s e hs)]

/-- The same for an invariant that the steps keep under a condition of the run. -/
theorem along_congr_along {domain : σ → ε → Prop} (hstep : ∀ s e, I s → domain s e → I (step s e))
    (h : ∀ s e, I s → domain s e → (ok s e ↔ ok' s e)) :
    ∀ {s : σ} (l : List ε), I s → Along step domain s l →
      (Along step ok s l ↔ Along step ok' s l)
  | _, [], _, _ => Iff.rfl
  | s, e :: l, hs, hl => by
    rw [along_cons, along_cons, h s e hs hl.1,
      along_congr_along hstep h l (hstep s e hs hl.1) hl.2]

theorem along_of_invariant (hstep : ∀ s e, I s → ok s e → I (step s e))
    (h : ∀ s e, I s → ok s e → ok' s e) :
    ∀ {s : σ} (l : List ε), I s → Along step ok s l → Along step ok' s l
  | _, [], _, _ => trivial
  | s, e :: l, hs, hl =>
    ⟨h s e hs hl.1, along_of_invariant hstep h l (hstep s e hs hl.1) hl.2⟩

/-- Where an invariant is kept under `ok` and a step outside of it breaks a property that the
invariant gives, the property holds all along a run exactly if the run is one along `ok`. -/
theorem property_iff_along {I P : σ → Prop} (hI : ∀ s, I s → P s)
    (hstep : ∀ s e, I s → ok s e → I (step s e))
    (hbreaks : ∀ s e, I s → ¬ ok s e → ¬ P (step s e)) :
    ∀ {s : σ} (l : List ε), I s →
      ((∀ before after, l = before ++ after → P (run step s before)) ↔ Along step ok s l)
  | s, [], hs => by
    refine ⟨fun _ => trivial, fun _ before after h => ?_⟩
    rw [(List.append_eq_nil_iff.mp h.symm).1]
    exact hI s hs
  | s, e :: l, hs => by
    constructor
    · intro h
      have hok : ok s e := by
        by_contra hok
        exact hbreaks s e hs hok (h [e] l rfl)
      refine ⟨hok, (property_iff_along hI hstep hbreaks l (hstep s e hs hok)).mp ?_⟩
      rintro before after rfl
      exact h (e :: before) after rfl
    · rintro ⟨hok, hl⟩ before after h
      cases before with
      | nil => exact hI s hs
      | cons e' before =>
        obtain ⟨rfl, rfl⟩ := List.cons.inj h
        exact (property_iff_along hI hstep hbreaks _ (hstep s e hs hok)).mpr hl before after rfl

/-- Where a step keeps an invariant exactly under `ok`, the invariant holds all along a run exactly
if the run is one along `ok`. -/
theorem invariant_iff_along (hstep : ∀ s e, I s → (I (step s e) ↔ ok s e)) {s : σ} (l : List ε)
    (hs : I s) :
    (∀ before after, l = before ++ after → I (run step s before)) ↔ Along step ok s l :=
  property_iff_along (fun _ h => h) (fun s e hs => (hstep s e hs).mpr)
    (fun s e hs hok h => hok ((hstep s e hs).mp h)) l hs

variable {step' : τ → ε → τ}

/-- Instrumentation does not change a run: a projection that commutes with the step commutes
with the run. -/
theorem map_run (f : σ → τ) (h : ∀ s e, f (step s e) = step' (f s) e) :
    ∀ (s : σ) (l : List ε), f (run step s l) = run step' (f s) l
  | _, [] => rfl
  | s, e :: l => by
    rw [run_cons, run_cons, map_run f h, h]

/-- Two machines that take the same events side by side. -/
def sideBySide (step : σ → ε → σ) (step' : τ → ε → τ) (p : σ × τ) (e : ε) : σ × τ :=
  (step p.1 e, step' p.2 e)

/-- Each runs as it runs alone. -/
theorem run_sideBySide (step : σ → ε → σ) (step' : τ → ε → τ) :
    ∀ (s : σ) (t : τ) (l : List ε),
      run (sideBySide step step') (s, t) l = (run step s l, run step' t l)
  | _, _, [] => rfl
  | s, t, e :: l => run_sideBySide step step' (step s e) (step' t e) l

/-- A condition on the projection of an instrumented run is a condition on the run itself. -/
theorem along_map {step' : τ → ε → τ} {ok' : τ → ε → Prop} (f : σ → τ)
    (h : ∀ s e, f (step s e) = step' (f s) e) : ∀ (s : σ) (l : List ε),
      Along step (fun s e => ok' (f s) e) s l ↔ Along step' ok' (f s) l
  | _, [] => Iff.rfl
  | s, e :: l => by
    rw [along_cons, along_cons, along_map f h (step s e) l, h]

/-- A condition on the first of two machines is met side by side if it is met alone. -/
theorem along_sideBySide (t : τ) (l : List ε) :
    Along (sideBySide step step') (fun p e => ok p.1 e) (s, t) l ↔ Along step ok s l :=
  along_map Prod.fst (fun _ _ => rfl) (s, t) l

/-! ## Observations and simulation -/

variable {α δ : Type*}

/-- What is seen of a run: an observation at every event, in the state it arrives in. -/
def trace (step : σ → ε → σ) (observe : σ → ε → α) : σ → List ε → List α
  | _, [] => []
  | s, e :: l => observe s e :: trace step observe (step s e) l

variable {observe : σ → ε → α}

theorem trace_append : ∀ (s : σ) (l₁ l₂ : List ε),
    trace step observe s (l₁ ++ l₂) =
      trace step observe s l₁ ++ trace step observe (run step s l₁) l₂
  | _, [], _ => rfl
  | s, e :: l₁, l₂ => by
    rw [List.cons_append, trace, trace, trace_append (step s e) l₁ l₂, run_cons, List.cons_append]

/-- **Related machines show the same.**  The second machine takes each event through `g`. -/
theorem trace_eq {step' : τ → δ → τ} {observe : σ → ε → α} {observe' : τ → δ → α}
    {R : σ → τ → Prop} {good : ε → Prop} (g : ε → δ)
    (hstep : ∀ s t e, R s t → good e →
      R (step s e) (step' t (g e)) ∧ observe' t (g e) = observe s e) :
    ∀ {s : σ} {t : τ} (l : List ε), R s t → (∀ e ∈ l, good e) →
      trace step' observe' t (l.map g) = trace step observe s l
  | _, _, [], _, _ => rfl
  | s, t, e :: l, hR, hgood => by
    obtain ⟨hnext, hsame⟩ := hstep s t e hR (hgood e List.mem_cons_self)
    have ih := trace_eq g hstep l hnext fun e he => hgood e (List.mem_cons_of_mem _ he)
    rw [List.map_cons, trace, trace, hsame, ih]

end Machine
