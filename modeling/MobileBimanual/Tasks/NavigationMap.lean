/-
# Maps of the floor

`NavigationMap` of `navigation.py`: a grid of cells, of which those are blocked that the footprint of
the robot would not clear, and the search for a path from cell to cell.

A map carries what its constructor has checked.
-/
import Mathlib.Data.Rat.Floor
import Mathlib.Data.List.MinMax
import MobileBimanual.Lib.Program
import MobileBimanual.Tasks.Data

namespace MobileBimanual.Tasks

abbrev Cell := ℤ × ℤ

instance Cell.lawfulBEq : LawfulBEq Cell := inferInstance

structure MapDocument where
  mapId : String
  revision : String
  floorId : String
  frameId : String
  floorZ : Scalar
  resolution : Scalar
  originX : Scalar
  originY : Scalar
  rows : List String
  robotRadius : Scalar
  clearance : Scalar
  surfaceTolerance : Scalar
  deriving DecidableEq

/-! ## 1. Blocked cells -/

namespace MapDocument

def width (document : MapDocument) : Nat := (document.rows.headD "").length

def height (document : MapDocument) : Nat := document.rows.length

/-- One row of the prefix sums of cells that are not free, from the row before: `left` and `corner`
are the sums to the left in this row and in the one before. -/
def sumRow (left corner : ℤ) : List ℤ → List Char → List ℤ
  | above :: aboves, cell :: cells =>
    let sum := (if cell ≠ '.' then 1 else 0) + above + left - corner
    sum :: sumRow sum above aboves cells
  | _, _ => []

/-- The prefix sums; a row begins with zero, and so do the rows. -/
def sumRows (above : List ℤ) : List String → List (List ℤ)
  | [] => [above]
  | row :: rows => above :: sumRows (0 :: sumRow 0 0 above.tail row.toList) rows

def summed (document : MapDocument) : List (List ℤ) :=
  sumRows (List.replicate (document.width + 1) 0) document.rows

def sumAt (sums : List (List ℤ)) (y x : ℕ) : ℤ := (sums.getD y []).getD x 0

/-- Too close to the border, or to a cell that is not free. -/
def blockedAt (document : MapDocument) (sums : List (List ℤ)) (padding x y : ℕ) : Bool :=
  x < padding || y < padding || x + padding ≥ document.width || y + padding ≥ document.height ||
    sumAt sums (y + padding + 1) (x + padding + 1) - sumAt sums (y - padding) (x + padding + 1) -
      sumAt sums (y + padding + 1) (x - padding) + sumAt sums (y - padding) (x - padding) ≠ 0

def blocked (document : MapDocument) (padding : ℕ) : List Cell :=
  let sums := document.summed
  (List.range document.height).flatMap fun y =>
    ((List.range document.width).filter fun x => document.blockedAt sums padding x y).map
      fun x => ((x : ℤ), (y : ℤ))

end MapDocument

/-! ## 2. Maps -/

@[ext]
structure NavigationMap where
  document : MapDocument
  floorZ : ℚ
  resolution : ℚ
  originX : ℚ
  originY : ℚ
  tolerance : ℚ
  padding : ℕ
  scaled : 0 < resolution

instance : DecidableEq NavigationMap :=
  fun _ _ => decidable_of_iff _ NavigationMap.ext_iff.symm

namespace NavigationMap

def rowChars : List Char := ['.', '#', '?']

def create (document : MapDocument) : Except Raised NavigationMap := do
  let _ ← identifier "map_id" document.mapId
  let _ ← identifier "revision" document.revision
  let _ ← identifier "floor_id" document.floorId
  let _ ← identifier "frame_id" document.frameId
  let floorZ ← number "floor_z_m" document.floorZ
  let resolution ← number "resolution_m" document.resolution
  let radius ← number "robot_radius_m" document.robotRadius
  let clearance ← number "clearance_m" document.clearance
  let tolerance ← number "surface_tolerance_m" document.surfaceTolerance
  if h : (0 < resolution ∧ resolution ≤ 10) ∧ (0 < radius ∧ radius ≤ 10) ∧
      (0 ≤ clearance ∧ clearance ≤ 10) ∧ 0 < tolerance ∧ tolerance ≤ 1 / 10 then do
    let originX ← number "x" document.originX
    let originY ← number "y" document.originY
    if ¬ (1 ≤ document.height ∧ document.height ≤ 256) ∨
        ¬ (1 ≤ document.width ∧ document.width ≤ 256) then
      .error (invalidTask "invalid map dimensions")
    else if ¬ document.rows.all (fun row => row.length == document.width &&
        row.toList.all (· ∈ rowChars)) then
      .error (invalidTask "rows must be rectangular . free / # occupied / ? unknown")
    else
      let padding := ⌈(radius + clearance) / resolution⌉.toNat
      if padding ≥ min document.width document.height then
        .error (invalidTask "footprint exceeds navigation map")
      else return ⟨document, floorZ, resolution, originX, originY, tolerance, padding, h.1.1⟩
  else .error (invalidTask "invalid map scale or footprint")

def mapId (m : NavigationMap) : String := m.document.mapId

def revision (m : NavigationMap) : String := m.document.revision

def blocked (m : NavigationMap) : List Cell := m.document.blocked m.padding

def Inside (m : NavigationMap) (cell : Cell) : Prop :=
  (0 ≤ cell.1 ∧ cell.1 < m.document.width) ∧ 0 ≤ cell.2 ∧ cell.2 < m.document.height

instance (m : NavigationMap) (cell : Cell) : Decidable (m.Inside cell) :=
  inferInstanceAs (Decidable (_ ∧ _ ∧ _))

/-- The cell of a point. -/
def cellOf (m : NavigationMap) (x y : ℚ) : Cell :=
  (⌊(x - m.originX) / m.resolution⌋, ⌊(y - m.originY) / m.resolution⌋)

/-- The cell of a point is one that the robot may be in. -/
def Free (m : NavigationMap) (x y : ℚ) : Prop :=
  m.Inside (m.cellOf x y) ∧ m.cellOf x y ∉ m.blocked

/-- `_cell`. -/
def cell (m : NavigationMap) (x y : Scalar) : Except Raised Cell := do
  let x ← number "x" x
  let y ← number "y" y
  if ¬ m.Inside (m.cellOf x y) then .error (invalidTask "point_outside_map")
  else if m.cellOf x y ∈ m.blocked then
    .error (invalidTask "point_blocked_or_insufficient_clearance")
  else return m.cellOf x y

variable {m : NavigationMap}

theorem free_of_cell {x y : ℚ} {c : Cell} (h : m.cell (.finite x) (.finite y) = .ok c) :
    m.Free x y := by
  unfold cell at h
  obtain ⟨x', hx, h⟩ := Except.bind_eq_ok_iff.mp h
  obtain ⟨y', hy, h⟩ := Except.bind_eq_ok_iff.mp h
  cases number_eq_ok hx
  cases number_eq_ok hy
  split at h
  next => cases h
  next hinside =>
    split at h
    next => cases h
    next hfree => exact ⟨not_not.mp hinside, hfree⟩

theorem free_of_cell_eq {x y : Scalar} {c : Cell} (h : m.cell x y = .ok c) :
    m.Free x.value y.value := by
  obtain ⟨x', hx, h'⟩ := Except.bind_eq_ok_iff.mp h
  obtain ⟨y', hy, -⟩ := Except.bind_eq_ok_iff.mp h'
  cases number_eq_ok hx
  cases number_eq_ok hy
  exact free_of_cell h

/-! ## 3. Paths -/

structure NavigateRequest where
  requestId : String
  mapId : String
  mapRevision : String
  floorId : String
  frameId : String
  x : ℚ
  y : ℚ
  z : ℚ
  yaw : ℚ

/-- What is known of the search: the queue with its priorities, and cost and parent of each cell
seen. -/
structure Search where
  queue : List (ℕ × Cell)
  cost : List (Cell × ℕ)
  parent : List (Cell × Cell)

/-- The order in which the queue is served. -/
def before (a b : ℕ × Cell) : Bool :=
  a.1 < b.1 || (a.1 == b.1 && (a.2.1 < b.2.1 || (a.2.1 == b.2.1 && a.2.2 ≤ b.2.2)))

/-- The first entry to be served, and the others. -/
def pop : List (ℕ × Cell) → Option ((ℕ × Cell) × List (ℕ × Cell))
  | [] => none
  | entry :: queue =>
    match pop queue with
    | none => some (entry, [])
    | some (least, rest) =>
      if before entry least then some (entry, queue) else some (least, entry :: rest)

def relax (m : NavigationMap) (goal cell : Cell) (s : Search) (next : Cell) : Search :=
  if ¬ m.Inside next ∨ next ∈ m.blocked then s
  else
    let new := (s.cost.lookup cell).getD 0 + 1
    if (s.cost.lookup next).all (new < ·) then
      { queue := (new + (next.1 - goal.1).natAbs + (next.2 - goal.2).natAbs, next) :: s.queue
        cost := (next, new) :: s.cost
        parent := (next, cell) :: s.parent }
    else s

/-- The cells around one. -/
def neighbours (cell : Cell) : List Cell :=
  [(cell.1 + 1, cell.2), (cell.1 - 1, cell.2), (cell.1, cell.2 + 1), (cell.1, cell.2 - 1)]

/-- The search for the goal.  A cell comes into the queue only at a lower cost than before, and its
cost is below the number of cells: the fuel is the square of that number. -/
def explore (m : NavigationMap) (goal : Cell) : ℕ → Search → Search
  | 0, s => s
  | fuel + 1, s =>
    match pop s.queue with
    | none => s
    | some ((_, cell), queue) =>
      if cell = goal then s
      else explore m goal fuel ((neighbours cell).foldl (relax m goal cell) { s with queue })

/-- The cells from the start to this one. -/
def trace (start : Cell) (parent : List (Cell × Cell)) : ℕ → Cell → List Cell → List Cell
  | 0, cell, path => cell :: path
  | fuel + 1, cell, path =>
    if cell = start then cell :: path
    else trace start parent fuel ((parent.lookup cell).getD start) (cell :: path)

def findPath (m : NavigationMap) (start goal : Cell) : Option (List Cell) :=
  let cells := m.document.width * m.document.height
  let found := explore m goal (cells * cells + 1) ⟨[(0, start)], [(start, 0)], []⟩
  if (found.cost.lookup goal).isSome then some (trace start found.parent cells goal []) else none

structure NavigationPlan where
  mapId : String
  mapRevision : String
  floorId : String
  frameId : String
  path : List (ℚ × ℚ)
  goalX : ℚ
  goalY : ℚ
  goalZ : ℚ
  yaw : ℚ
  deriving DecidableEq, Repr

def plan (m : NavigationMap) (request : NavigateRequest) (currentX currentY : ℚ) :
    Except Raised NavigationPlan :=
  if (request.mapId, request.mapRevision, request.floorId, request.frameId) ≠
      (m.mapId, m.revision, m.document.floorId, m.document.frameId) then
    .error (invalidTask "map_revision_floor_or_frame_mismatch")
  else if |request.z - m.floorZ| > m.tolerance then
    .error (invalidTask "select_navigable_floor_surface")
  else do
    let start ← m.cell (.finite currentX) (.finite currentY)
    let goal ← m.cell (.finite request.x) (.finite request.y)
    match m.findPath start goal with
    | none => .error (invalidTask "no_path")
    | some cells =>
      return {
        mapId := m.mapId
        mapRevision := m.revision
        floorId := m.document.floorId
        frameId := m.document.frameId
        path := cells.map fun cell => (m.originX + ((cell.1 : ℚ) + 1 / 2) * m.resolution,
          m.originY + ((cell.2 : ℚ) + 1 / 2) * m.resolution)
        goalX := request.x
        goalY := request.y
        goalZ := m.floorZ
        yaw := request.yaw }

theorem plan_eq_ok {request : NavigateRequest} {currentX currentY : ℚ} {p : NavigationPlan}
    (h : m.plan request currentX currentY = .ok p) :
    (p.mapId = m.mapId ∧ p.mapRevision = m.revision) ∧ m.Free currentX currentY ∧
      m.Free p.goalX p.goalY := by
  unfold plan at h
  split at h
  · cases h
  · split at h
    · cases h
    · obtain ⟨start, hstart, h⟩ := Except.bind_eq_ok_iff.mp h
      obtain ⟨goal, hgoal, h⟩ := Except.bind_eq_ok_iff.mp h
      split at h
      · cases h
      · cases h
        exact ⟨⟨rfl, rfl⟩, free_of_cell hstart, free_of_cell hgoal⟩

end NavigationMap

end MobileBimanual.Tasks
