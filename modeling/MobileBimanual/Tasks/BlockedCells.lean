/-
# Which cells of a map are blocked

The prefix sums of `MapDocument.summed` are areas of the raster of cells that are not free
(`sumAt_summed`), so a cell is blocked exactly if it is near the border or near such a cell
(`mem_blocked_iff`).  With fewer free cells, or a larger footprint, no blocked cell becomes free
(`blocked_mono`).
-/
import MobileBimanual.Lib.Raster
import MobileBimanual.Tasks.NavigationMap

namespace MobileBimanual.Tasks

open Raster

namespace MapDocument

/-- A cell that is not free. -/
def solid (cell : Char) : Bool := cell ≠ '.'

/-- The rows of the document. -/
def raster (document : MapDocument) : List (List Char) := document.rows.map String.toList

/-- Every row is as wide as the first. -/
def Rectangular (document : MapDocument) : Prop :=
  ∀ row ∈ document.raster, row.length = document.width

variable {x : ℕ}

/-- A row of sums adds to the row above what is in the row so far. -/
theorem sumRow_getD {left corner : ℤ} {aboves : List ℤ} {cells : List Char}
    (hlength : aboves.length = cells.length) (hx : x < cells.length) :
    (sumRow left corner aboves cells).getD x 0 =
      aboves.getD x 0 + (left - corner) + ((cells.take (x + 1)).countP solid : ℤ) := by
  induction cells generalizing left corner aboves x with
  | nil => cases hx
  | cons cell cells ih =>
    cases aboves with
    | nil => cases hlength
    | cons above aboves =>
      unfold sumRow
      dsimp only
      cases x with
      | zero =>
        by_cases hcell : cell = '.'
        · simp [solid, hcell]
          omega
        · simp [solid, hcell]
          omega
      | succ x =>
        rw [List.getD_cons_succ, List.getD_cons_succ, List.take_succ_cons,
          ih (Nat.succ.inj hlength) (Nat.lt_of_succ_lt_succ hx)]
        by_cases hcell : cell = '.'
        · simp [solid, hcell]
          omega
        · simp [solid, hcell]
          omega

theorem length_sumRow {left corner : ℤ} {aboves : List ℤ} {cells : List Char}
    (hlength : aboves.length = cells.length) :
    (sumRow left corner aboves cells).length = cells.length := by
  induction cells generalizing left corner aboves with
  | nil =>
    cases aboves with
    | nil => rfl
    | cons above aboves => cases hlength
  | cons cell cells ih =>
    cases aboves with
    | nil => cases hlength
    | cons above aboves => exact congrArg (· + 1) (ih (Nat.succ.inj hlength))

variable {y : ℕ}

theorem sumRows_getD {raster : List (List Char)} {rows : List String} {above : List ℤ}
    {width first : ℕ} (hrows : raster.drop first = rows.map String.toList)
    (hwidth : ∀ row ∈ rows, row.toList.length = width) (hlength : above.length = width + 1)
    (habove : ∀ x ≤ width, above.getD x 0 = (area solid raster first x : ℤ)) (hy : y ≤ rows.length)
    (hx : x ≤ width) :
    ((sumRows above rows).getD y []).getD x 0 = (area solid raster (first + y) x : ℤ) := by
  induction rows generalizing above first y with
  | nil =>
    have hzero : y = 0 := Nat.le_zero.mp hy
    subst hzero
    exact habove x hx
  | cons row rows ih =>
    cases y with
    | zero => exact habove x hx
    | succ y =>
      have hfirst : first < raster.length := by
        by_contra hge
        rw [List.drop_eq_nil_of_le (Nat.le_of_not_lt hge)] at hrows
        cases hrows
      rw [List.drop_eq_getElem_cons hfirst] at hrows
      obtain ⟨hrow, hrest⟩ := List.cons.inj hrows
      have hcells : row.toList.length = width := hwidth row List.mem_cons_self
      obtain ⟨corner, aboves, rfl⟩ : ∃ corner aboves, above = corner :: aboves := by
        cases above with
        | nil => cases hlength
        | cons corner aboves => exact ⟨corner, aboves, rfl⟩
      have haboves : aboves.length = row.toList.length := (Nat.succ.inj hlength).trans hcells.symm
      have hsums : ∀ x ≤ width, (0 :: sumRow 0 0 aboves row.toList).getD x 0 =
          (area solid raster (first + 1) x : ℤ) := by
        intro x hx
        rw [area_succ solid hfirst, hrow]
        cases x with
        | zero =>
          have hzero : (area solid raster first 0 : ℤ) = 0 := by
            simp [area]
          simp [hzero]
        | succ x =>
          have hin : x < row.toList.length := hcells ▸ hx
          have hcolumn := habove (x + 1) hx
          rw [List.getD_cons_succ] at hcolumn ⊢
          rw [sumRow_getD haboves hin, hcolumn]
          push_cast
          ring
      have hnext := ih hrest (fun row hrow => hwidth row (List.mem_cons_of_mem _ hrow))
        (by rw [List.length_cons, length_sumRow haboves, hcells]) hsums (Nat.le_of_succ_le_succ hy)
      rw [Nat.add_right_comm] at hnext
      exact hnext

/-- **The prefix sums are areas.** -/
theorem sumAt_summed {document : MapDocument} (h : document.Rectangular) {y x : ℕ}
    (hy : y ≤ document.height) (hx : x ≤ document.width) :
    sumAt document.summed y x = (area solid document.raster y x : ℤ) := by
  have hwidth : ∀ row ∈ document.rows, row.toList.length = document.width :=
    fun row hrow => h _ (List.mem_map_of_mem hrow)
  have hzero : ∀ x ≤ document.width, (List.replicate (document.width + 1) (0 : ℤ)).getD x 0 =
      (area solid document.raster 0 x : ℤ) := by
    intro x hx
    rw [area_zero, List.getD_eq_getElem?_getD, List.getElem?_replicate]
    split <;> rfl
  have hrows : document.raster.drop 0 = document.rows.map String.toList := rfl
  have hsums := sumRows_getD hrows hwidth List.length_replicate hzero hy hx
  rw [Nat.zero_add] at hsums
  exact hsums

/-- The cell of a document, unknown outside. -/
def cellAt (document : MapDocument) (x y : ℕ) : Char :=
  (document.rows.getD y "").toList.getD x '?'

variable {document : MapDocument}

theorem cellAt_of_getElem? {row : List Char} {cell : Char} (hrow : document.raster[y]? = some row)
    (hcell : row[x]? = some cell) : document.cellAt x y = cell := by
  rw [raster, List.getElem?_map, Option.map_eq_some_iff] at hrow
  obtain ⟨text, htext, rfl⟩ := hrow
  rw [cellAt, List.getD_eq_getElem?_getD, List.getD_eq_getElem?_getD, htext]
  dsimp only [Option.getD_some]
  rw [hcell]
  rfl

theorem getElem?_cellAt (h : document.Rectangular) (hx : x < document.width)
    (hy : y < document.height) :
    ∃ row, document.raster[y]? = some row ∧ row[x]? = some (document.cellAt x y) := by
  have hin : y < document.raster.length := by
    rw [raster, List.length_map]
    exact hy
  have hwide : document.raster[y].length = document.width := h _ (List.getElem_mem hin)
  have hcolumn : x < document.raster[y].length := hwide ▸ hx
  refine ⟨document.raster[y], List.getElem?_eq_getElem hin, ?_⟩
  rw [cellAt_of_getElem? (List.getElem?_eq_getElem hin) (List.getElem?_eq_getElem hcolumn)]
  exact List.getElem?_eq_getElem hcolumn

/-- Too near to the border, or to a cell that is not free. -/
def Near (document : MapDocument) (padding x y : ℕ) : Prop :=
  (x < padding ∨ y < padding ∨ document.width ≤ x + padding ∨ document.height ≤ y + padding) ∨
    ∃ x' y', (x ≤ x' + padding ∧ x' ≤ x + padding) ∧ (y ≤ y' + padding ∧ y' ≤ y + padding) ∧
      document.cellAt x' y' ≠ '.'

variable {padding : ℕ}

/-- Away from the border, the four sums tell whether the window has a cell that is not free. -/
theorem window_solid (h : document.Rectangular) (hleft : padding ≤ x) (hbottom : padding ≤ y)
    (hright : x + padding < document.width) (htop : y + padding < document.height) :
    sumAt document.summed (y + padding + 1) (x + padding + 1) -
        sumAt document.summed (y - padding) (x + padding + 1) -
        sumAt document.summed (y + padding + 1) (x - padding) +
        sumAt document.summed (y - padding) (x - padding) ≠ 0 ↔
      ∃ x' y', (x ≤ x' + padding ∧ x' ≤ x + padding) ∧ (y ≤ y' + padding ∧ y' ≤ y + padding) ∧
        document.cellAt x' y' ≠ '.' := by
  have hwindow := area_window solid document.raster (show y - padding ≤ y + padding + 1 by omega)
    (show x - padding ≤ x + padding + 1 by omega)
  rw [sumAt_summed h (by omega) (by omega), sumAt_summed h (by omega) (by omega),
    sumAt_summed h (by omega) (by omega), sumAt_summed h (by omega) (by omega)]
  have hcount : (area solid document.raster (y + padding + 1) (x + padding + 1) : ℤ) -
        area solid document.raster (y - padding) (x + padding + 1) -
        area solid document.raster (y + padding + 1) (x - padding) +
        area solid document.raster (y - padding) (x - padding) =
      ((window document.raster (y - padding) (y + padding + 1) (x - padding)
        (x + padding + 1)).countP solid : ℤ) := by
    omega
  rw [hcount, Int.natCast_ne_zero, ← Nat.pos_iff_ne_zero, List.countP_pos_iff]
  constructor
  · rintro ⟨cell, hcell, hsolid⟩
    obtain ⟨y', x', hy', hx', row, hrow, hcell⟩ := mem_window.mp hcell
    refine ⟨x', y', ⟨by omega, by omega⟩, ⟨by omega, by omega⟩, ?_⟩
    rw [cellAt_of_getElem? hrow hcell]
    exact of_decide_eq_true hsolid
  · rintro ⟨x', y', hx', hy', hsolid⟩
    obtain ⟨row, hrow, hcell⟩ := getElem?_cellAt h (show x' < document.width by omega)
      (show y' < document.height by omega)
    exact ⟨_, mem_window.mpr ⟨y', x', ⟨by omega, by omega⟩, ⟨by omega, by omega⟩, row, hrow, hcell⟩,
      decide_eq_true hsolid⟩

theorem blockedAt_iff (h : document.Rectangular) :
    document.blockedAt document.summed padding x y = true ↔ document.Near padding x y := by
  unfold blockedAt Near
  by_cases hborder : x < padding ∨ y < padding ∨ document.width ≤ x + padding ∨
      document.height ≤ y + padding
  · simp only [hborder, true_or, iff_true]
    rcases hborder with hx | hy | hx | hy
    · simp [hx]
    · simp [hy]
    · simp [hx]
    · simp [hy]
  · simp only [hborder, false_or]
    have hinside := hborder
    simp only [not_or, not_lt, not_le] at hinside
    obtain ⟨hleft, hbottom, hright, htop⟩ := hinside
    rw [← window_solid h hleft hbottom hright htop]
    simp [not_lt.mpr hleft, not_lt.mpr hbottom, not_le.mpr hright, not_le.mpr htop]

/-- **A cell is blocked exactly if it is inside and near.** -/
theorem mem_blocked_iff (h : document.Rectangular) {cell : Cell} : cell ∈ document.blocked padding ↔
      ∃ x y : ℕ, cell = ((x : ℤ), (y : ℤ)) ∧ (x < document.width ∧ y < document.height) ∧
        document.Near padding x y := by
  have hmem : cell ∈ document.blocked padding ↔ ∃ y < document.height, ∃ x < document.width,
      document.blockedAt document.summed padding x y = true ∧ ((x : ℤ), (y : ℤ)) = cell := by
    simp [blocked, and_assoc]
  rw [hmem]
  constructor
  · rintro ⟨y, hy, x, hx, hblocked, rfl⟩
    exact ⟨x, y, rfl, ⟨hx, hy⟩, (blockedAt_iff h).mp hblocked⟩
  · rintro ⟨x, y, rfl, ⟨hx, hy⟩, hnear⟩
    exact ⟨y, hy, x, hx, (blockedAt_iff h).mpr hnear, rfl⟩

/-- **No blocked cell becomes free** with fewer free cells or a larger padding. -/
theorem blocked_mono {fused : MapDocument} (h : document.Rectangular) (h' : fused.Rectangular)
    (hwidth : fused.width = document.width) (hheight : fused.height = document.height)
    {padding' : ℕ} (hpadding : padding ≤ padding')
    (hfree : ∀ x y, x < document.width → y < document.height → fused.cellAt x y = '.' → document.cellAt x y = '.')
    {cell : Cell} (hcell : cell ∈ document.blocked padding) : cell ∈ fused.blocked padding' := by
  obtain ⟨x, y, rfl, ⟨hx, hy⟩, hnear⟩ := (mem_blocked_iff h).mp hcell
  refine (mem_blocked_iff h').mpr ⟨x, y, rfl, ⟨hwidth ▸ hx, hheight ▸ hy⟩, ?_⟩
  unfold Near at hnear ⊢
  rw [hwidth, hheight]
  by_cases hborder : x < padding' ∨ y < padding' ∨ document.width ≤ x + padding' ∨
      document.height ≤ y + padding'
  · exact .inl hborder
  · rcases hnear with hnear | ⟨x', y', hx', hy', hsolid⟩
    · exact absurd hnear (by omega)
    · refine .inr ⟨x', y', by omega, by omega, fun hfused => hsolid ?_⟩
      exact hfree x' y' (by omega) (by omega) hfused

end MapDocument

end MobileBimanual.Tasks
