/-
# Custody of queued items

A ledger of what becomes of the items that are admitted to a queue.  An item is entered under
the next number when it is admitted and sits in the queue until it is applied from the front,
cut off with the rest of the queue behind some point, or discarded with the whole queue.  Every
application and every cut carries a note of the caller's.

`Balanced` is the conservation law: the four places together hold the admitted entries, each
exactly once (the numbers are distinct), and what is applied is applied in the order of
admission.  The operations keep it, so a component that edits its queue only as these operations
do neither loses an item, nor uses one twice, nor lets one overtake another.
-/
import Mathlib.Data.List.Perm.Basic
import Mathlib.Data.List.Range
import Mathlib.Data.List.Nodup

namespace Custody

/-- An item under the number of its admission. -/
structure Entry (α : Type*) where
  number : Nat
  item : α

/-- The items in their four places, and the entries admitted so far. -/
structure Ledger (α β γ : Type*) where
  admitted : List (Entry α)
  queued : List (Entry α)
  applied : List (Entry α × β)
  removed : List (Entry α × γ)
  discarded : List (Entry α)

variable {α β γ : Type*}

namespace Ledger

def empty : Ledger α β γ := ⟨[], [], [], [], []⟩

/-! ## 1. The operations -/

/-- The items numbered on from `first`. -/
def number (first : Nat) : List α → List (Entry α)
  | [] => []
  | item :: items => ⟨first, item⟩ :: number (first + 1) items

/-- Items join the end of the queue. -/
def enter (ledger : Ledger α β γ) (items : List α) : Ledger α β γ :=
  { ledger with
    admitted := ledger.admitted ++ number ledger.admitted.length items
    queued := ledger.queued ++ number ledger.admitted.length items }

/-- The queue is cut behind its first `kept` items. -/
def cut (ledger : Ledger α β γ) (kept : Nat) (note : γ) : Ledger α β γ :=
  { ledger with
    queued := ledger.queued.take kept
    removed := ledger.removed ++ (ledger.queued.drop kept).map fun entry => (entry, note) }

/-- The front item is applied. -/
def apply (ledger : Ledger α β γ) (note : β) : Ledger α β γ :=
  match ledger.queued with
  | [] => ledger
  | entry :: rest =>
    { ledger with
      queued := rest
      applied := ledger.applied ++ [(entry, note)] }

/-- The queue is thrown away. -/
def discard (ledger : Ledger α β γ) : Ledger α β γ :=
  { ledger with
    queued := []
    discarded := ledger.discarded ++ ledger.queued }

variable (first : Nat)

variable (items : List α)

@[simp] theorem number_items : (number first items).map (·.item) = items := by
  induction items generalizing first with
  | nil => rfl
  | cons item items ih => simp [number, ih]

@[simp] theorem number_numbers :
    (number first items).map (·.number) = List.range' first items.length := by
  induction items generalizing first with
  | nil => rfl
  | cons item items ih => simp [number, ih, List.range'_succ]

@[simp] theorem number_length : (number first items).length = items.length := by
  rw [← List.length_map (·.item), number_items]

/-! ## 2. Conservation -/

/-- Where everything is. -/
def places (ledger : Ledger α β γ) : List (Entry α) :=
  ledger.applied.map Prod.fst ++ (ledger.removed.map Prod.fst ++
    (ledger.discarded ++ ledger.queued))

/-- The numbers of what was applied and of what is queued, from the first applied on. -/
def line (ledger : Ledger α β γ) : List Nat :=
  ledger.applied.map (·.1.number) ++ ledger.queued.map (·.number)

/-- Everything admitted is in one place, once, and the line keeps the order of admission. -/
structure Balanced (ledger : Ledger α β γ) : Prop where
  places : ledger.places.Perm ledger.admitted
  numbers : ledger.admitted.map (·.number) = List.range ledger.admitted.length
  inTurn : ledger.line.Pairwise (· < ·)

theorem balanced_empty : (empty : Ledger α β γ).Balanced :=
  ⟨List.Perm.refl _, rfl, List.Pairwise.nil⟩

variable {ledger : Ledger α β γ}

/-- What has been admitted has a number below the next. -/
theorem Balanced.line_lt (h : ledger.Balanced) {number : Nat} (hnumber : number ∈ ledger.line) :
    number < ledger.admitted.length := by
  have hplaces : number ∈ ledger.places.map (·.number) := by
    rcases List.mem_append.mp hnumber with hnumber | hnumber
    · obtain ⟨a, ha, rfl⟩ := List.mem_map.mp hnumber
      exact List.mem_map_of_mem (List.mem_append_left _ (List.mem_map_of_mem ha))
    · obtain ⟨entry, hentry, rfl⟩ := List.mem_map.mp hnumber
      refine List.mem_map_of_mem (List.mem_append_right _ (List.mem_append_right _ ?_))
      exact List.mem_append_right _ hentry
  have hadmitted := (h.places.map (·.number)).mem_iff.mp hplaces
  rwa [h.numbers, List.mem_range] at hadmitted

theorem Balanced.enter (h : ledger.Balanced) (items : List α) : (ledger.enter items).Balanced where
  places := by
    have hshape : (ledger.enter items).places =
        ledger.places ++ number ledger.admitted.length items := by
      simp [Ledger.places, Ledger.enter]
    rw [hshape]
    exact h.places.append_right _
  numbers := by
    simp only [Ledger.enter, List.map_append, h.numbers, number_numbers, List.length_append,
      number_length]
    have hsplit := List.range'_append_1 (s := 0) (m := ledger.admitted.length) (n := items.length)
    rw [List.range_eq_range', List.range_eq_range', ← hsplit, Nat.zero_add]
  inTurn := by
    have hline : (ledger.enter items).line =
        ledger.line ++ List.range' ledger.admitted.length items.length := by
      simp [Ledger.line, Ledger.enter]
    rw [hline]
    refine List.pairwise_append.mpr ⟨h.inTurn, List.pairwise_lt_range', ?_⟩
    intro earlier hearlier later hlater
    obtain ⟨hge, -⟩ := List.mem_range'_1.mp hlater
    exact Nat.lt_of_lt_of_le (h.line_lt hearlier) hge

theorem Balanced.cut (h : ledger.Balanced) (kept : Nat) (note : γ) :
    (ledger.cut kept note).Balanced where
  places := by
    refine List.Perm.trans ?_ h.places
    have hqueue : (ledger.queued.drop kept ++ ledger.queued.take kept).Perm ledger.queued := by
      conv_rhs => rw [← List.take_append_drop kept ledger.queued]
      exact List.perm_append_comm
    simp only [Ledger.places, Ledger.cut, List.map_append, List.map_map, List.append_assoc]
    refine List.Perm.append_left _ (List.Perm.append_left _ ?_)
    have hid : Prod.fst ∘ (fun entry : Entry α => (entry, note)) = id := rfl
    rw [hid, List.map_id]
    calc ledger.queued.drop kept ++ (ledger.discarded ++ ledger.queued.take kept)
        |>.Perm (ledger.discarded ++ (ledger.queued.drop kept ++ ledger.queued.take kept)) := by
          rw [← List.append_assoc, ← List.append_assoc]
          exact List.perm_append_comm.append_right _
      _ |>.Perm (ledger.discarded ++ ledger.queued) := hqueue.append_left _
  numbers := h.numbers
  inTurn := h.inTurn.sublist
    (((List.take_sublist kept ledger.queued).map _).append_left _)

theorem Balanced.apply (h : ledger.Balanced) (note : β) : (ledger.apply note).Balanced := by
  unfold Ledger.apply
  split
  · exact h
  · rename_i entry rest hqueue
    refine ⟨List.Perm.trans ?_ h.places, h.numbers, ?_⟩
    swap
    · have hline := h.inTurn
      simpa [Ledger.line, hqueue] using hline
    simp only [Ledger.places, List.map_append, List.map_cons, List.map_nil, hqueue,
      List.append_assoc]
    refine List.Perm.append_left _ ?_
    rw [List.singleton_append, ← List.append_assoc (List.map Prod.fst ledger.removed),
      ← List.append_assoc (List.map Prod.fst ledger.removed)]
    exact List.perm_middle.symm

theorem apply_cons {entry : Entry α} {rest : List (Entry α)} (note : β)
    (hqueue : ledger.queued = entry :: rest) :
    ledger.apply note =
      { ledger with queued := rest, applied := ledger.applied ++ [(entry, note)] } := by
  simp [Ledger.apply, hqueue]

theorem Balanced.discard (h : ledger.Balanced) : ledger.discard.Balanced where
  places := by
    simpa [Ledger.places, Ledger.discard] using h.places
  numbers := h.numbers
  inTurn := h.inTurn.sublist (List.nil_sublist _ |>.append_left _)

end Ledger

end Custody
