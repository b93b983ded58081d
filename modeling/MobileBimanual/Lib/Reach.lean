/-
# What a machine can still reach

`Reach step ok P s`: some run from `s` along `ok` ends where `P` holds.  A run is built one event
at a time (`Reach.next`) or in stages (`Reach.trans`).
-/
import MobileBimanual.Lib.Machine

namespace Machine

variable {σ ε : Type*} {step : σ → ε → σ} {ok : σ → ε → Prop} {P Q : σ → Prop} {s : σ}

def Reach (step : σ → ε → σ) (ok : σ → ε → Prop) (P : σ → Prop) (s : σ) : Prop :=
  ∃ l, Along step ok s l ∧ P (run step s l)

namespace Reach

theorem here (h : P s) : Reach step ok P s := ⟨[], trivial, h⟩

theorem next (e : ε) (hok : ok s e) (h : Reach step ok P (step s e)) : Reach step ok P s := by
  obtain ⟨l, halong, hend⟩ := h
  exact ⟨e :: l, ⟨hok, halong⟩, hend⟩

theorem trans (h : Reach step ok P s) (hmore : ∀ s, P s → Reach step ok Q s) :
    Reach step ok Q s := by
  obtain ⟨l, halong, hend⟩ := h
  obtain ⟨l', halong', hend'⟩ := hmore _ hend
  refine ⟨l ++ l', (along_append s l l').mpr ⟨halong, halong'⟩, ?_⟩
  rw [run_append]
  exact hend'

end Reach

end Machine
