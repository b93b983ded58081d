/-
# Ring buffers

A ring buffer of `n` slots: the contents are the `count` slots from `head` on, round the end of
the array.  An item is written behind the last one, and taking the first one moves `head` on; the
slots outside the contents keep what was written there once.

The bounds are fields, so a ring out of its array cannot be built.  `contents` is the queue the
ring stands for, and the operations are the list's: `contents_push`, `contents_pushAll`,
`contents_pop`, `contents_clear`.
-/
import Mathlib.Data.Nat.ModEq
import Mathlib.Data.List.Basic
import Mathlib.Logic.Function.Basic
import Mathlib.Tactic.Common

structure RingBuffer (α : Type*) (n : Nat) where
  slots : Fin n → α
  head : Fin n
  count : Nat
  bounded : count ≤ n

namespace RingBuffer

variable {α : Type*} {n : Nat}

/-! ## 1. The operations -/

/-- The slot `i` places behind the head. -/
def place (ring : RingBuffer α n) (i : Nat) : Fin n :=
  ⟨(ring.head + i) % n, Nat.mod_lt _ (Nat.lt_of_le_of_lt (Nat.zero_le _) ring.head.isLt)⟩

/-- The item `i` places behind the head. -/
def item (ring : RingBuffer α n) (i : Nat) : α := ring.slots (ring.place i)

/-- An empty ring; the slots are left as they are. -/
def clear (ring : RingBuffer α n) (h : 0 < n) : RingBuffer α n :=
  { ring with head := ⟨0, h⟩, count := 0, bounded := Nat.zero_le n }

def push (ring : RingBuffer α n) (a : α) (h : ring.count < n) : RingBuffer α n where
  slots := Function.update ring.slots (ring.place ring.count) a
  head := ring.head
  count := ring.count + 1
  bounded := h

def pushAll (ring : RingBuffer α n) : (l : List α) → ring.count + l.length ≤ n → RingBuffer α n
  | [], _ => ring
  | a :: l, h =>
    (ring.push a (by simp at h; omega)).pushAll l (by simp [push] at h ⊢; omega)

def pop (ring : RingBuffer α n) : RingBuffer α n where
  slots := ring.slots
  head := ring.place 1
  count := ring.count - 1
  bounded := Nat.le_trans (Nat.sub_le _ _) ring.bounded

/-- The queue the ring stands for. -/
def contents (ring : RingBuffer α n) : List α := (List.range ring.count).map ring.item

/-! ## 2. What they do to the contents -/

variable (ring : RingBuffer α n)

@[simp] theorem length_contents : ring.contents.length = ring.count := by
  simp [contents]

theorem contents_eq_nil_iff : ring.contents = [] ↔ ring.count = 0 := by
  rw [← List.length_eq_zero_iff, length_contents]

@[simp] theorem contents_clear (h : 0 < n) : (ring.clear h).contents = [] :=
  rfl

/-- Different places less than a whole turn apart are different slots. -/
theorem place_ne {i j : Nat} (hij : i < j) (hj : j < n) : ring.place i ≠ ring.place j := by
  intro h
  have hmod : ring.head + i ≡ ring.head + j [MOD n] := Fin.mk.inj h
  have heq := (Nat.ModEq.add_left_cancel' _ hmod).eq_of_lt_of_lt (by omega) hj
  omega

/-- **An item is written behind the last one.** -/
theorem contents_push (a : α) (h : ring.count < n) :
    (ring.push a h).contents = ring.contents ++ [a] := by
  have hlast : (ring.push a h).item ring.count = a := Function.update_self _ _ _
  have hothers : ∀ i ∈ List.range ring.count, (ring.push a h).item i = ring.item i := by
    intro i hi
    exact Function.update_of_ne (ring.place_ne (List.mem_range.mp hi) h) _ _
  have hcount : (ring.push a h).count = ring.count + 1 := rfl
  rw [contents, hcount, List.range_succ, List.map_append, List.map_congr_left hothers]
  simp [contents, hlast]

theorem contents_pushAll (l : List α) :
    ∀ (ring : RingBuffer α n) (h : ring.count + l.length ≤ n),
      (ring.pushAll l h).contents = ring.contents ++ l := by
  induction l with
  | nil =>
    intro ring h
    simp [pushAll]
  | cons a l ih =>
    intro ring h
    rw [pushAll, ih, contents_push, List.append_assoc, List.singleton_append]

/-- Behind the first item every place moves up by one. -/
theorem item_pop (i : Nat) : ring.pop.item i = ring.item (i + 1) := by
  have hplace : ring.pop.place i = ring.place (i + 1) := by
    apply Fin.ext
    simp only [place, pop, Nat.mod_add_mod]
    congr 1
    omega
  exact congrArg ring.slots hplace

/-- **Taking the first item leaves the rest of the queue.** -/
theorem contents_pop (h : 0 < ring.count) : ring.contents = ring.item 0 :: ring.pop.contents := by
  obtain ⟨k, hk⟩ := Nat.exists_eq_succ_of_ne_zero (Nat.pos_iff_ne_zero.mp h)
  have hcount : ring.pop.count = k := by simp [pop, hk]
  rw [contents, contents, hk, hcount, List.range_succ_eq_map, List.map_cons, List.map_map]
  congr 1
  refine List.map_congr_left ?_
  intro i _
  exact (item_pop ring i).symm

theorem getLast?_contents (h : 0 < ring.count) :
    ring.contents.getLast? = some (ring.item (ring.count - 1)) := by
  obtain ⟨k, hk⟩ := Nat.exists_eq_succ_of_ne_zero (Nat.pos_iff_ne_zero.mp h)
  simp [contents, hk, List.range_succ]

end RingBuffer
