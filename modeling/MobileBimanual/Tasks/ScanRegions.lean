/-
# Proposals of rooms

`propose_regions` and `infer_room` of `assistant/scanning.py`: the free space of a map is split at
narrow passages into regions, and the furniture that is seen in a region proposes what room it is.
-/
import Mathlib.Data.List.Dedup
import Mathlib.Data.List.Sort
import MobileBimanual.Tasks.NavigationMap

namespace MobileBimanual.Tasks

/-! ## 1. Classification -/

inductive RoomStatus where
  | proposed | uncertain | confirmed

structure Classification where
  label : Option String
  status : RoomStatus
  alternatives : List String
  evidence : List String
  userConfirmed : Bool

/-- `ROOM_EVIDENCE`. -/
def roomEvidence : List (String × List (String × ℕ)) :=
  [("bedroom", [("bed", 3), ("wardrobe", 1), ("nightstand", 1)]),
    ("living_room", [("sofa", 3), ("television", 1), ("coffee_table", 1)]),
    ("kitchen", [("stove", 3), ("refrigerator", 2), ("sink", 1)]),
    ("bathroom", [("toilet", 3), ("bathtub", 2), ("sink", 1)]),
    ("study", [("desk", 2), ("bookshelf", 1)])]

/-- What speaks for a room. -/
def roomScore (observed : List String) (rule : List (String × ℕ)) : ℕ :=
  ((rule.filter (·.1 ∈ observed)).map (·.2)).sum

def inferRoom (categories : List String) : Classification :=
  let observed := categories.dedup.insertionSort (· ≤ ·)
  let scores := roomEvidence.map fun (name, rule) => (name, roomScore observed rule)
  let best := (scores.map (·.2)).foldl max 0
  let candidates := ((scores.filter fun (_, score) => score = best ∧ 2 ≤ score).map
    (·.1)).insertionSort (· ≤ ·)
  match candidates with
  | [name] => ⟨some name, .proposed, candidates, observed, false⟩
  | _ => ⟨none, .uncertain, candidates, observed, false⟩

/-! ## 2. Regions -/

structure Region where
  regionId : String
  cells : List Cell
  area : ℚ
  centerX : ℚ
  centerY : ℚ
  classification : Classification

namespace NavigationMap

/-- A cell of the rows, as it was observed. -/
def observedAt (m : NavigationMap) (cell : Cell) : Char :=
  (m.document.rows.getD cell.2.toNat "").toList.getD cell.1.toNat '?'

/-- The free cells, row by row. -/
def freeCells (m : NavigationMap) : List Cell :=
  (List.range m.document.height).flatMap fun y : ℕ =>
    ((List.range m.document.width).map fun x : ℕ => ((x : ℤ), (y : ℤ))).filter
      fun cell => m.observedAt cell = '.'

/-- The cells in the square around one. -/
def around (erosion : ℕ) (cell : Cell) : List Cell :=
  let offsets : List ℤ := (List.range (2 * erosion + 1)).map fun i : ℕ => (i : ℤ) - erosion
  offsets.flatMap fun dx => offsets.map fun dy => (cell.1 + dx, cell.2 + dy)

/-- What is reached from the queue: the cells that remain, and those that were found. -/
def flood : ℕ → List Cell → List Cell → List Cell → List Cell × List Cell
  | 0, remaining, _, found => (remaining, found)
  | _ + 1, remaining, [], found => (remaining, found)
  | fuel + 1, remaining, cell :: queue, found =>
    let new := (neighbours cell).filter (· ∈ remaining)
    flood fuel (remaining.filter (· ∉ new)) (queue ++ new) (found ++ new)

/-- The first cell, row by row. -/
def firstCell : List Cell → Option Cell
  | [] => none
  | cell :: cells =>
    some (cells.foldl (fun a b => if b.2 < a.2 ∨ b.2 = a.2 ∧ b.1 < a.1 then b else a) cell)

/-- The connected components. -/
def components : ℕ → List Cell → List (List Cell)
  | 0, _ => []
  | fuel + 1, remaining =>
    match firstCell remaining with
    | none => []
    | some first =>
      let (rest, found) := flood (remaining.length + 1) (remaining.erase first) [first] [first]
      found :: components fuel rest

/-- The order of the pairs. -/
def sortCells (cells : List Cell) : List Cell :=
  cells.insertionSort fun a b => a.1 < b.1 ∨ a.1 = b.1 ∧ a.2 ≤ b.2

/-- The free cells around the cores go to the core that reaches them first. -/
def assign (free : List Cell) : ℕ → List Cell → List (Cell × ℕ) → List (Cell × ℕ)
  | 0, _, owners => owners
  | _ + 1, [], owners => owners
  | fuel + 1, cell :: queue, owners =>
    let new := (neighbours cell).filter fun c => c ∈ free ∧ c ∉ owners.map (·.1)
    let owner := (owners.lookup cell).getD 0
    assign free fuel (queue ++ new) (owners ++ new.map fun c => (c, owner))

def sumRat (values : List ℤ) : ℚ := (values.sum : ℚ)

/-- `propose_regions`, the regions. -/
def proposeRegions (m : NavigationMap) (erosionCells minimumCore : ℕ) : List Region :=
  let free := m.freeCells
  let core := free.filter fun cell => (around erosionCells cell).all (· ∈ free)
  let cores := (components (core.length + 1) core).filter (minimumCore ≤ ·.length)
  let owners := cores.zipIdx.flatMap fun (cells, i) => (sortCells cells).map fun cell => (cell, i)
  let owned := assign free (free.length + 1) (owners.map (·.1)) owners
  (List.range cores.length).map fun i =>
    let cells := sortCells ((owned.filter (·.2 = i)).map (·.1))
    { regionId := s!"region-{i + 1}"
      cells
      area := cells.length * m.resolution ^ 2
      centerX := m.originX + (sumRat (cells.map (·.1)) / cells.length + 1 / 2) * m.resolution
      centerY := m.originY + (sumRat (cells.map (·.2)) / cells.length + 1 / 2) * m.resolution
      classification := inferRoom [] }

/-- The free cells whose square is free. -/
def core (m : NavigationMap) (erosionCells : ℕ) : List Cell :=
  m.freeCells.filter fun cell => (around erosionCells cell).all (· ∈ m.freeCells)

/-- The components of the core that are kept. -/
def cores (m : NavigationMap) (erosionCells minimumCore : ℕ) : List (List Cell) :=
  (components ((m.core erosionCells).length + 1) (m.core erosionCells)).filter
    (minimumCore ≤ ·.length)

/-- The cells of the cores, each with the number of its core. -/
def seeds (m : NavigationMap) (erosionCells minimumCore : ℕ) : List (Cell × ℕ) :=
  (m.cores erosionCells minimumCore).zipIdx.flatMap fun (cells, i) =>
    (sortCells cells).map fun cell => (cell, i)

/-- `owners`, when the queue is empty. -/
def owners (m : NavigationMap) (erosionCells minimumCore : ℕ) : List (Cell × ℕ) :=
  let seeds := m.seeds erosionCells minimumCore
  assign m.freeCells (m.freeCells.length + 1) (seeds.map (·.1)) seeds

end NavigationMap

/-- What `propose_regions` returns. -/
structure RegionProposal where
  regions : List Region
  unassignedFreeCells : ℕ
  method : String
  requiresReview : Bool

/-- `propose_regions`: of a setting, nothing that is not an integer. -/
def MapDocument.proposeRegions (document : MapDocument) (erosionCells minimumCoreCells : Option ℤ) :
    Except Raised RegionProposal := do
  let nav ← NavigationMap.create document
  let erosion ← (erosionCells.filter fun erosion => 0 ≤ erosion ∧ erosion ≤ 3).elim
    (.error (invalidTask "bounded region erosion required")) .ok
  let minimum ← (minimumCoreCells.filter (1 ≤ ·)).elim
    (.error (invalidTask "positive region core size required")) .ok
  let owned := (nav.owners erosion.toNat minimum.toNat).map (·.1)
  return {
    regions := nav.proposeRegions erosion.toNat minimum.toNat
    unassignedFreeCells := (nav.freeCells.filter (· ∉ owned)).length
    method := "eroded_free_space_proposals_v1"
    requiresReview := true }

end MobileBimanual.Tasks
