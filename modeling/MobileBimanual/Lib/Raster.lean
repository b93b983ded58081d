/-
# Rasters

Rows of cells.  `area` counts the cells with a property in a corner of the raster; a window is the
alternating sum of the areas at its corners, so it can be asked for with four of them.  A raster
listed row by row has its cell at a flat index.
-/
import Mathlib.Data.List.Basic
import Mathlib.Tactic.Linarith

namespace Raster

variable {α : Type*} {rows : List (List α)} {bottom top left right : ℕ}

/-- The cells with a property in the first rows and columns. -/
def area (p : α → Bool) (rows : List (List α)) (y x : ℕ) : ℕ :=
  ((rows.take y).map fun row => (row.take x).countP p).sum

/-- The cells from one corner up to the other. -/
def window (rows : List (List α)) (bottom top left right : ℕ) : List α :=
  ((rows.take top).drop bottom).flatMap fun row => (row.take right).drop left

variable (p : α → Bool)

@[simp] theorem area_zero (rows : List (List α)) (x : ℕ) : area p rows 0 x = 0 := rfl

/-- A row more. -/
theorem area_succ {y : ℕ} (hy : y < rows.length) (x : ℕ) :
    area p rows (y + 1) x = area p rows y x + (rows[y].take x).countP p := by
  unfold area
  rw [List.take_add_one, List.getElem?_eq_getElem hy, Option.toList_some, List.map_append,
    List.sum_append]
  rfl

/-- The part of a row up to a column, and the part from there on. -/
theorem countP_take (row : List α) (h : left ≤ right) :
    (row.take right).countP p = (row.take left).countP p + ((row.take right).drop left).countP p := by
  have hsplit : row.take right = row.take left ++ (row.take right).drop left := by
    have htake : (row.take right).take left = row.take left := by
      rw [List.take_take, Nat.min_eq_left h]
    rw [← htake, List.take_append_drop]
  rw [← List.countP_append, ← hsplit]

theorem sum_countP_take (l : List (List α)) (h : left ≤ right) :
    (l.map fun row => (row.take right).countP p).sum =
      (l.map fun row => (row.take left).countP p).sum +
        (l.flatMap fun row => (row.take right).drop left).countP p := by
  induction l with
  | nil => rfl
  | cons row l ih =>
    rw [List.map_cons, List.map_cons, List.sum_cons, List.sum_cons, List.flatMap_cons,
      List.countP_append, ih, countP_take p row h]
    omega

/-- **A window is the alternating sum of the areas at its corners.** -/
theorem area_window (rows : List (List α)) (hy : bottom ≤ top) (hx : left ≤ right) :
    area p rows top right + area p rows bottom left =
      area p rows bottom right + area p rows top left +
        (window rows bottom top left right).countP p := by
  have hsplit : rows.take top = rows.take bottom ++ (rows.take top).drop bottom := by
    have htake : (rows.take top).take bottom = rows.take bottom := by
      rw [List.take_take, Nat.min_eq_left hy]
    rw [← htake, List.take_append_drop]
  have harea : ∀ x, area p rows top x = area p rows bottom x +
      (((rows.take top).drop bottom).map fun row => (row.take x).countP p).sum := by
    intro x
    unfold area
    rw [← List.sum_append, ← List.map_append, ← hsplit]
  have hrows := sum_countP_take p ((rows.take top).drop bottom) hx
  rw [harea right, harea left]
  unfold window
  omega

theorem mem_window {c : α} : c ∈ window rows bottom top left right ↔
    ∃ y x, (bottom ≤ y ∧ y < top) ∧ (left ≤ x ∧ x < right) ∧ ∃ row, rows[y]? = some row ∧
      row[x]? = some c := by
  have hslice : ∀ {β : Type _} (l : List β) (from_ to_ : ℕ) (b : β),
      b ∈ (l.take to_).drop from_ ↔ ∃ i, (from_ ≤ i ∧ i < to_) ∧ l[i]? = some b := by
    intro β l from_ to_ b
    rw [List.mem_iff_getElem?]
    constructor
    · rintro ⟨i, hi⟩
      rw [List.getElem?_drop, List.getElem?_take] at hi
      split at hi
      · exact ⟨from_ + i, ⟨Nat.le_add_right _ _, ‹_›⟩, hi⟩
      · cases hi
    · rintro ⟨i, ⟨hfrom, hto⟩, hi⟩
      refine ⟨i - from_, ?_⟩
      rw [List.getElem?_drop, Nat.add_sub_cancel' hfrom, List.getElem?_take, if_pos hto]
      exact hi
  unfold window
  rw [List.mem_flatMap]
  constructor
  · rintro ⟨row, hrow, hc⟩
    obtain ⟨y, hy, hrow⟩ := (hslice _ _ _ _).mp hrow
    obtain ⟨x, hx, hc⟩ := (hslice _ _ _ _).mp hc
    exact ⟨y, x, hy, hx, row, hrow, hc⟩
  · rintro ⟨y, x, hy, hx, row, hrow, hc⟩
    exact ⟨row, (hslice _ _ _ _).mpr ⟨y, hy, hrow⟩, (hslice _ _ _ _).mpr ⟨x, hx, hc⟩⟩

/-- Row by row, the cell of a column and a row is at the flat index. -/
theorem getElem?_flatMap_range (f : ℕ → ℕ → α) {width height x y : ℕ} (hx : x < width)
    (hy : y < height) :
    ((List.range height).flatMap fun y => (List.range width).map (f y))[y * width + x]? =
      some (f y x) := by
  induction height with
  | zero => cases hy
  | succ height ih =>
    have hlength : ((List.range height).flatMap fun y => (List.range width).map (f y)).length =
        height * width := by
      simp
    rw [List.range_succ, List.flatMap_append]
    rcases Nat.lt_succ_iff_lt_or_eq.mp hy with hlt | rfl
    · have hindex : y * width + x < height * width := by nlinarith
      rw [List.getElem?_append_left (by rw [hlength]; exact hindex)]
      exact ih hlt
    · rw [List.getElem?_append_right (by rw [hlength]; exact Nat.le_add_right _ _), hlength,
        Nat.add_sub_cancel_left]
      simp [hx]

end Raster
