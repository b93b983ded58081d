/-
# Logs that release what they acquire

Entries of a log acquire and release keyed resources.  A log is `Released` when every entry that
acquires a key stands before one that releases it.  Cleaning up is an append: a log whose tail
releases every key its front acquires is released, whatever the front did (`Released.cleanup`),
and a log whose tail never releases a key acquired before it is not (`not_released`).
-/
import Mathlib.Data.List.Basic

namespace Release

variable {α κ : Type*} (acquires releases : α → κ → Prop)

/-- Every acquired key is released later. -/
def Released : List α → Prop
  | [] => True
  | a :: log => (∀ k, acquires a k → ∃ b ∈ log, releases b k) ∧ Released log

variable {acquires releases}

@[simp] theorem released_nil : Released acquires releases [] := trivial

theorem Released.of_append : ∀ {log log' : List α},
    Released acquires releases (log ++ log') → Released acquires releases log'
  | [], _, h => h
  | _ :: _, _, h => Released.of_append h.2

theorem released_of_no_acquire : ∀ {log : List α}, (∀ a ∈ log, ∀ k, ¬ acquires a k) →
    Released acquires releases log
  | [], _ => trivial
  | a :: _, h =>
    ⟨fun k hk => absurd hk (h a List.mem_cons_self k),
      released_of_no_acquire fun b hb => h b (List.mem_cons_of_mem a hb)⟩

/-- **Cleaning up**: a released tail that releases all the front acquires. -/
theorem Released.cleanup : ∀ {log log' : List α},
    (∀ a ∈ log, ∀ k, acquires a k → ∃ b ∈ log', releases b k) →
    Released acquires releases log' → Released acquires releases (log ++ log')
  | [], _, _, h' => h'
  | a :: log, log', h, h' => by
    refine ⟨?_, Released.cleanup (fun b hb => h b (List.mem_cons_of_mem a hb)) h'⟩
    intro k hk
    obtain ⟨b, hb, hrel⟩ := h a List.mem_cons_self k hk
    exact ⟨b, List.mem_append_right log hb, hrel⟩

/-- A key acquired and not released any more. -/
theorem not_released {log log' : List α} {a : α} {k : κ} (ha : acquires a k)
    (h : ∀ b ∈ log', ¬ releases b k) : ¬ Released acquires releases (log ++ a :: log') := by
  intro hall
  obtain ⟨b, hb, hrel⟩ := hall.of_append.1 k ha
  exact h b hb hrel

end Release
