/-
# A registry of goals with one owner

Goals are entered once and never leave; at most one of them, the owner, is under way.  The code of a
goal reads and updates the goal's own entry and calls out in between.

A `Law` says what an entry may count on, as a predicate on the entry and the journal that calls for
other goals do not disturb.  `Sound` is the law for all entries; during an operation on the owner's
entry it is `Attends`: the law for all others, and what the operation knows of its own.  The
triples of the primitive actions turn that knowledge over from step to step, and `Attends.sound`
and `Attends.leave` bring the entry back under the law.
-/
import Mathlib.Data.List.AList
import MobileBimanual.Lib.Journal

structure Registry (E : Type) where
  entries : AList fun _ : String => E
  owner : Option String

namespace Registry

open Program Activity Oracle

variable {E Call : Type} {Reply : Call → Type} {ε α : Type}

def empty : Registry E := ⟨∅, none⟩

def size (w : Registry E) : Nat := w.entries.keys.length

def update (w : Registry E) (goal : String) (f : E → E) : Registry E :=
  match w.entries.lookup goal with
  | none => w
  | some e => { w with entries := w.entries.insert goal (f e) }

/-- The goal comes in and owns. -/
def enter (w : Registry E) (goal : String) (e : E) : Registry E :=
  ⟨w.entries.insert goal e, some goal⟩

/-- The owner's entry comes to its end. -/
def leave (w : Registry E) (goal : String) (f : E → E) : Registry E :=
  { w.update goal f with owner := none }

/-! ## 1. Actions -/

def entry (missing : String → ε) (goal : String) : Activity Call Reply ε (Registry E) E := do
  match (← get).entries.lookup goal with
  | none => throw (missing goal)
  | some e => pure e

def amend (goal : String) (f : E → E) : Activity Call Reply ε (Registry E) PUnit :=
  modify fun w => w.update goal f

def finish (goal : String) (f : E → E) : Activity Call Reply ε (Registry E) PUnit :=
  modify fun w => w.leave goal f

/-! ## 2. The law -/

/-- What entries count on. -/
structure Law (E Call : Type) (Reply : Call → Type) where
  running : E → Prop
  known : String → E → Journal Call Reply → Prop
  unknown : String → Journal Call Reply → Prop
  /-- The calls that are made for a goal. -/
  concerns : Call → String → Prop
  known_cons : ∀ {goal e journal entry}, ¬ concerns entry.call goal → known goal e journal →
    known goal e (entry :: journal)
  unknown_cons : ∀ {goal journal entry}, ¬ concerns entry.call goal → unknown goal journal →
    unknown goal (entry :: journal)

variable {L : Law E Call Reply} {w : Registry E} {journal : Journal Call Reply} {goal : String}

/-- The goal of every entry under way is the owner, and every entry is under the law. -/
structure Sound (L : Law E Call Reply) (w : Registry E) (journal : Journal Call Reply) : Prop where
  owned : ∀ goal e, w.entries.lookup goal = some e → (L.running e ↔ w.owner = some goal)
  present : ∀ goal, w.owner = some goal → ∃ e, w.entries.lookup goal = some e
  known : ∀ goal e, w.entries.lookup goal = some e → L.known goal e journal
  unknown : ∀ goal, w.entries.lookup goal = none → L.unknown goal journal

/-- The same but for the owner's entry, which is under way and of which `P` is known. -/
structure Attends (L : Law E Call Reply) (goal : String) (P : E → Journal Call Reply → Prop)
    (w : Registry E) (journal : Journal Call Reply) : Prop where
  owner : w.owner = some goal
  entry : ∃ e, w.entries.lookup goal = some e ∧ L.running e ∧ P e journal
  others : ∀ other e, other ≠ goal → w.entries.lookup other = some e →
    ¬ L.running e ∧ L.known other e journal
  unknown : ∀ other, w.entries.lookup other = none → L.unknown other journal

variable {P Q : E → Journal Call Reply → Prop}

theorem sound_empty (h : ∀ goal, L.unknown goal []) : Sound L empty [] :=
  ⟨nofun, nofun, nofun, fun goal _ => h goal⟩

/-- An entry under way is the owner's. -/
theorem Sound.attends (h : Sound L w journal) {e : E} (hlookup : w.entries.lookup goal = some e)
    (hrunning : L.running e) :
    Attends L goal (fun e' journal => e' = e ∧ L.known goal e journal) w journal := by
  have howner := (h.owned goal e hlookup).mp hrunning
  refine ⟨howner, ⟨e, hlookup, hrunning, rfl, h.known goal e hlookup⟩, ?_, h.unknown⟩
  intro other e' hother hlookup'
  refine ⟨fun hrunning' => hother ?_, h.known other e' hlookup'⟩
  exact Option.some.inj (((h.owned other e' hlookup').mp hrunning').symm.trans howner)

theorem Attends.mono (h : Attends L goal P w journal)
    (hP : ∀ e, L.running e → P e journal → Q e journal) : Attends L goal Q w journal := by
  obtain ⟨e, hlookup, hrunning, he⟩ := h.entry
  exact ⟨h.owner, ⟨e, hlookup, hrunning, hP e hrunning he⟩, h.others, h.unknown⟩

theorem Attends.sound (h : Attends L goal P w journal)
    (hP : ∀ e, L.running e → P e journal → L.known goal e journal) : Sound L w journal := by
  obtain ⟨e, hlookup, hrunning, he⟩ := h.entry
  refine ⟨fun other e' hlookup' => ?_, fun other howner => ?_, fun other e' hlookup' => ?_,
    h.unknown⟩
  · by_cases hother : other = goal
    · subst hother
      obtain rfl := Option.some.inj (hlookup.symm.trans hlookup')
      exact ⟨fun _ => h.owner, fun _ => hrunning⟩
    · refine ⟨fun hrunning' => absurd hrunning' (h.others other e' hother hlookup').1, fun h' => ?_⟩
      exact absurd (Option.some.inj (h'.symm.trans h.owner)) hother
  · obtain rfl := Option.some.inj (howner.symm.trans h.owner)
    exact ⟨e, hlookup⟩
  · by_cases hother : other = goal
    · subst hother
      obtain rfl := Option.some.inj (hlookup.symm.trans hlookup')
      exact hP e hrunning he
    · exact (h.others other e' hother hlookup').2

theorem lookup_update {e : E} (h : w.entries.lookup goal = some e) (f : E → E) (other : String) :
    (w.update goal f).entries.lookup other =
      if other = goal then some (f e) else w.entries.lookup other := by
  unfold update
  rw [h]
  dsimp only
  split
  next hsame =>
    subst hsame
    exact AList.lookup_insert _
  next hother => exact AList.lookup_insert_ne hother

theorem owner_update (w : Registry E) (goal : String) (f : E → E) :
    (w.update goal f).owner = w.owner := by
  unfold update
  split <;> rfl

/-- The owner's entry is updated and goes on. -/
theorem Attends.update (h : Attends L goal P w journal) {f : E → E}
    (hP : ∀ e, L.running e → P e journal → L.running (f e) ∧ Q (f e) journal) :
    Attends L goal Q (w.update goal f) journal := by
  obtain ⟨e, hlookup, hrunning, he⟩ := h.entry
  have hall := lookup_update hlookup f
  refine ⟨(owner_update w goal f).trans h.owner, ⟨f e, ?_, hP e hrunning he⟩, ?_, ?_⟩
  · rw [hall, if_pos rfl]
  · intro other e' hother hlookup'
    rw [hall, if_neg hother] at hlookup'
    exact h.others other e' hother hlookup'
  · intro other hlookup'
    rw [hall] at hlookup'
    split at hlookup'
    · cases hlookup'
    · exact h.unknown other hlookup'

/-- The owner's entry comes to its end. -/
theorem Attends.leave (h : Attends L goal P w journal) {f : E → E}
    (hP : ∀ e, L.running e → P e journal → ¬ L.running (f e) ∧ L.known goal (f e) journal) :
    Sound L (w.leave goal f) journal := by
  obtain ⟨e, hlookup, hrunning, he⟩ := h.entry
  have hall : ∀ other, (w.leave goal f).entries.lookup other =
      if other = goal then some (f e) else w.entries.lookup other := lookup_update hlookup f
  obtain ⟨hended, hknown⟩ := hP e hrunning he
  refine ⟨fun other e' hlookup' => ?_, nofun, fun other e' hlookup' => ?_, fun other hlookup' => ?_⟩
  · rw [hall] at hlookup'
    split at hlookup'
    · cases hlookup'
      exact ⟨fun h' => absurd h' hended, nofun⟩
    next hother =>
      exact ⟨fun h' => absurd h' (h.others other e' hother hlookup').1, nofun⟩
  · rw [hall] at hlookup'
    split at hlookup'
    next hsame =>
      cases hlookup'
      exact hsame ▸ hknown
    next hother => exact (h.others other e' hother hlookup').2
  · rw [hall] at hlookup'
    split at hlookup'
    · cases hlookup'
    · exact h.unknown other hlookup'

/-- A goal that is not there comes in, where none is under way. -/
theorem Sound.enter (h : Sound L w journal) (hidle : w.owner = none)
    (hnew : w.entries.lookup goal = none) {e : E} (hrunning : L.running e)
    (hP : L.unknown goal journal → P e journal) : Attends L goal P (w.enter goal e) journal := by
  refine ⟨rfl, ⟨e, AList.lookup_insert _, hrunning, hP (h.unknown goal hnew)⟩, ?_, ?_⟩
  · intro other e' hother hlookup'
    rw [Registry.enter, AList.lookup_insert_ne hother] at hlookup'
    refine ⟨fun h' => ?_, h.known other e' hlookup'⟩
    exact nomatch hidle.symm.trans ((h.owned other e' hlookup').mp h')
  · intro other hlookup'
    by_cases hother : other = goal
    · subst hother
      rw [Registry.enter, AList.lookup_insert] at hlookup'
      cases hlookup'
    · rw [Registry.enter, AList.lookup_insert_ne hother] at hlookup'
      exact h.unknown other hlookup'

theorem Attends.cons (h : Attends L goal P w journal) {r : Entry Call Reply}
    (hconcerns : ∀ other, other ≠ goal → ¬ L.concerns r.call other)
    (hP : ∀ e, L.running e → P e journal → Q e (r :: journal)) :
    Attends L goal Q w (r :: journal) := by
  obtain ⟨e, hlookup, hrunning, he⟩ := h.entry
  refine ⟨h.owner, ⟨e, hlookup, hrunning, hP e hrunning he⟩, ?_, ?_⟩
  · intro other e' hother hlookup'
    obtain ⟨hended, hknown⟩ := h.others other e' hother hlookup'
    exact ⟨hended, L.known_cons (hconcerns other hother) hknown⟩
  · intro other hlookup'
    have hother : other ≠ goal := by
      rintro rfl
      exact nomatch hlookup.symm.trans hlookup'
    exact L.unknown_cons (hconcerns other hother) (h.unknown other hlookup')

theorem Sound.cons (h : Sound L w journal) {r : Entry Call Reply}
    (hconcerns : ∀ goal, ¬ L.concerns r.call goal) : Sound L w (r :: journal) :=
  ⟨h.owned, h.present, fun goal e hlookup => L.known_cons (hconcerns goal) (h.known goal e hlookup),
    fun goal hlookup => L.unknown_cons (hconcerns goal) (h.unknown goal hlookup)⟩

theorem Sound.append (h : Sound L w journal) : ∀ {added : Journal Call Reply},
    (∀ entry ∈ added, ∀ goal, ¬ L.concerns entry.call goal) → Sound L w (added ++ journal)
  | [], _ => h
  | _ :: _, hadded => (h.append fun entry hmem => hadded entry (List.mem_cons_of_mem _ hmem)).cons
      (hadded _ List.mem_cons_self)

theorem Attends.append (h : Attends L goal P w journal)
    (hP : ∀ e journal entry, ¬ L.concerns entry.call goal → P e journal → P e (entry :: journal)) :
    ∀ {l : Journal Call Reply},
      (∀ entry ∈ l, ∀ goal, ¬ L.concerns entry.call goal) → Attends L goal P w (l ++ journal)
  | [], _ => h
  | entry :: _, hadded =>
    (h.append hP fun entry hmem => hadded entry (List.mem_cons_of_mem _ hmem)).cons
      (fun other _ => hadded _ List.mem_cons_self other)
      fun e _ he => hP e _ entry (hadded _ List.mem_cons_self goal) he

/-! ## 3. Their triples -/

theorem perform_entry {ω : Type} {serve : (c : Call) → ω → Reply c × ω} {missing : String → ε}
    {e : E} {journal : ω} (h : w.entries.lookup goal = some e) :
    (Registry.entry missing goal : Activity Call Reply ε (Registry E) E).perform serve w journal =
      ((.ok e, w), journal) := by
  unfold Registry.entry
  rw [perform_get_bind, h]
  rfl

variable {missing : String → ε} {raised : ε → Registry E → Journal Call Reply → Prop}

/-- The owner's entry is there. -/
theorem triple_entry :
    Triple (conduct Call Reply) (Attends L goal P) (Registry.entry missing goal)
      (fun e => Attends L goal fun e' journal => e' = e ∧ P e journal) raised := by
  refine triple_get_bind fun w => ?_
  split
  next hnone =>
    refine triple_throw fun _ journal ⟨hw, h⟩ => ?_
    subst hw
    obtain ⟨e, hlookup, -⟩ := h.entry
    exact nomatch hnone.symm.trans hlookup
  next e hsome =>
    refine triple_pure fun _ journal ⟨hw, h⟩ => ?_
    subst hw
    obtain ⟨e', hlookup, hrunning, he⟩ := h.entry
    obtain rfl := Option.some.inj (hsome.symm.trans hlookup)
    exact ⟨h.owner, ⟨e, hlookup, hrunning, rfl, he⟩, h.others, h.unknown⟩

variable {post : α → Registry E → Journal Call Reply → Prop}
  {f : E → Activity Call Reply ε (Registry E) α}

/-- An entry that is known before it is read. -/
theorem triple_entry_bind {e₀ : E} (hP : ∀ e journal, P e journal → e = e₀)
    (hf : Triple (conduct Call Reply) (Attends L goal P) (f e₀) post raised) :
    Triple (conduct Call Reply) (Attends L goal P) (Registry.entry missing goal >>= f) post
      raised := by
  refine Triple.bind triple_entry fun e w journal h => ?_
  obtain ⟨e', -, -, -, he⟩ := h.entry
  obtain rfl := hP e journal he
  refine hf w journal (h.mono ?_)
  rintro e'' - ⟨rfl, he⟩
  exact he

theorem keeps_entry {F : Frame Call (Registry E)} :
    (Registry.entry missing goal : Activity Call Reply ε (Registry E) E).Keeps F := by
  refine keeps_get_bind fun w => ?_
  split
  · exact keeps_throw _
  · exact keeps_pure _

/-- An operation on a goal that is not there raises, and changes nothing. -/
theorem program_entry_absent (h : w.entries.lookup goal = none) :
    (Registry.entry missing goal >>= f).program w = .done (.error (missing goal), w) := by
  unfold Registry.entry
  simp only [program_bind, program_get, done_bind, goOn_ok, h, program_throw, goOn_error]

/-- An operation on a goal either finds it under way or not. -/
theorem triple_by_entry (goal : String) {x : Activity Call Reply ε (Registry E) α}
    (hrunning : ∀ e, Triple (conduct Call Reply)
      (Attends L goal fun e' journal => e' = e ∧ L.known goal e journal) x post raised)
    (hended : Triple (conduct Call Reply) (fun w journal => Sound L w journal ∧
      ∀ e, w.entries.lookup goal = some e → ¬ L.running e) x post raised) :
    Triple (conduct Call Reply) (Sound L) x post raised := by
  intro w journal h
  by_cases hfound : ∃ e, w.entries.lookup goal = some e ∧ L.running e
  · obtain ⟨e, hlookup, he⟩ := hfound
    exact hrunning e w journal (h.attends hlookup he)
  · exact hended w journal ⟨h, fun e hlookup he => hfound ⟨e, hlookup, he⟩⟩

theorem triple_amend {f : E → E}
    (hP : ∀ e journal, L.running e → P e journal → L.running (f e) ∧ Q (f e) journal) :
    Triple (conduct Call Reply) (Attends L goal P) (amend goal f) (fun _ => Attends L goal Q)
      raised :=
  triple_modify fun _ journal h => h.update fun e => hP e journal

theorem triple_finish {f : E → E}
    (hP : ∀ e journal, L.running e → P e journal → ¬ L.running (f e) ∧ L.known goal (f e) journal) :
    Triple (conduct Call Reply) (Attends L goal P) (finish goal f) (fun _ => Sound L) raised :=
  triple_modify fun _ journal h => h.leave fun e => hP e journal

/-- The same with what the ended entry shows. -/
theorem triple_finish_showing {f : E → E} {K : E → Prop}
    (hP : ∀ e journal, L.running e → P e journal → ¬ L.running (f e) ∧ L.known goal (f e) journal)
    (hshows : ∀ e journal, P e journal → K (f e)) :
    Triple (conduct Call Reply) (Attends L goal P) (finish goal f)
      (fun _ w journal => Sound L w journal ∧ ∀ e, w.entries.lookup goal = some e → K e)
      raised := by
  refine triple_modify fun w journal h => ⟨h.leave fun e => hP e journal, fun e' hlookup' => ?_⟩
  obtain ⟨e, hlookup, -, he⟩ := h.entry
  have hall : (w.leave goal f).entries.lookup goal = some (f e) :=
    (lookup_update hlookup f goal).trans (if_pos rfl)
  obtain rfl := Option.some.inj (hall.symm.trans hlookup')
  exact hshows e journal he

/-- An entry that may not be there. -/
theorem triple_find {ω : Type} {C : Conduct Call Reply ω} {I : Registry E → ω → Prop} :
    Triple C I (Registry.entry missing goal)
      (fun e w v => I w v ∧ w.entries.lookup goal = some e) fun _ => I := by
  refine triple_get_bind fun w => ?_
  split
  · refine triple_throw fun _ _ ⟨hw, h⟩ => ?_
    exact h
  next e hsome =>
    refine triple_pure fun _ _ ⟨hw, h⟩ => ?_
    subst hw
    exact ⟨h, hsome⟩

theorem triple_entry_of {ω : Type} {C : Conduct Call Reply ω} {I : Registry E → ω → Prop} {e : E}
    {raised : ε → Registry E → ω → Prop} (h : ∀ w v, I w v → w.entries.lookup goal = some e) :
    Triple C I (Registry.entry missing goal) (fun e' w v => e' = e ∧ I w v) raised := by
  refine triple_get_bind fun w => ?_
  split
  next hnone =>
    rintro _ v ⟨rfl, hI⟩
    exact nomatch hnone.symm.trans (h _ v hI)
  next e' hsome =>
    refine triple_pure ?_
    rintro _ v ⟨rfl, hI⟩
    exact ⟨Option.some.inj (hsome.symm.trans (h _ v hI)), hI⟩

end Registry

namespace Registry

open Program Activity Oracle

variable {E Call : Type} {Result : Call → Type} {ε : Type}
  {L : Law E Call fun c => Except ε (Result c)} {goal : String}
  {P : E → Journal Call (fun c => Except ε (Result c)) → Prop}

/-- A call for the owner. -/
theorem triple_ask {c : Call}
    {Q : Result c → E → Journal Call (fun c => Except ε (Result c)) → Prop}
    {R : ε → E → Journal Call (fun c => Except ε (Result c)) → Prop}
    (hconcerns : ∀ other, other ≠ goal → ¬ L.concerns c other)
    (hok : ∀ e journal value, L.running e → P e journal → Q value e (⟨c, .ok value⟩ :: journal))
    (herror : ∀ e journal error, L.running e → P e journal →
      R error e (⟨c, .error error⟩ :: journal)) :
    Triple (conduct Call fun c => Except ε (Result c)) (Attends L goal P) (invoke c)
      (fun value => Attends L goal (Q value)) fun error => Attends L goal (R error) :=
  triple_invoke (fun _ journal value h => h.cons hconcerns fun e => hok e journal value)
    fun _ journal error h => h.cons hconcerns fun e => herror e journal error

end Registry
