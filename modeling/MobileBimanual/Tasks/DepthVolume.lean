/-
# The depth volume

`DepthVolume` of `navigation_depth.py`: for each voxel what was observed last, an obstacle or free
space, and when.  An image is integrated as a whole or not at all: each valid pixel hits the voxel
of its point, and clears those that its ray goes through.

Distances are rational numbers; a factor of the square root of three is compared by squares.
-/
import Mathlib.Data.List.AList
import Mathlib.Data.List.Sort
import Mathlib.Data.Rat.Floor
import MobileBimanual.Tasks.Data

namespace MobileBimanual.Tasks

/-! ## 1. The profile -/

structure DepthProfile where
  frame : String
  calibration : String
  resolution : ℚ
  minimumDepth : ℚ
  maximumDepth : ℚ
  minimumHeight : ℚ
  maximumHeight : ℚ
  maximumAge : ℚ
  minimumValidFraction : ℚ
  maximumVoxels : ℕ
  maximumRaySteps : ℕ
  worldFrame : String
  named : worldFrame ≠ "" ∧ frame ≠ "" ∧ calibration ≠ ""
  scaled : 1 / 100 ≤ resolution ∧ resolution ≤ 1 / 4
  depths : 0 < minimumDepth ∧ minimumDepth < maximumDepth ∧ maximumDepth ≤ 10
  heights : 0 ≤ minimumHeight ∧ minimumHeight < maximumHeight ∧ maximumHeight ≤ 3
  aged : 0 < maximumAge ∧ maximumAge ≤ 1
  fraction : 0 < minimumValidFraction ∧ minimumValidFraction ≤ 1
  budgets : (100 ≤ maximumVoxels ∧ maximumVoxels ≤ 500000) ∧
    100 ≤ maximumRaySteps ∧ maximumRaySteps ≤ 2000000

namespace DepthProfile

/-- The lowest layer of voxels. -/
def low (p : DepthProfile) : ℤ := ⌊p.minimumHeight / p.resolution⌋

/-- The first layer above. -/
def high (p : DepthProfile) : ℤ := ⌈p.maximumHeight / p.resolution⌉

/-- The voxel is in a layer that is kept. -/
def Kept (p : DepthProfile) (cell : Voxel) : Prop := p.low ≤ cell.z ∧ cell.z < p.high

instance (p : DepthProfile) (cell : Voxel) : Decidable (p.Kept cell) :=
  inferInstanceAs (Decidable (_ ∧ _))

end DepthProfile

/-! ## 2. Rays -/

/-- A point, by its coordinates. -/
abbrev Point := Voxel.Axis → ℚ

def Point.of (x y z : ℚ) : Point
  | .x => x
  | .y => y
  | .z => z

def Point.voxel (resolution : ℚ) (a : Point) : Voxel :=
  ⟨⌊a .x / resolution⌋, ⌊a .y / resolution⌋, ⌊a .z / resolution⌋⟩

/-- The sum over the axes. -/
def Voxel.Axis.sum (f : Voxel.Axis → ℚ) : ℚ := f .x + f .y + f .z

/-- The way of a ray along one axis: which way it steps, where it is, when it crosses next, and how
long it takes to cross a voxel; nothing stands for never. -/
structure RayAxis where
  step : ℤ
  cell : ℤ
  next : Option ℚ
  every : ℚ

def RayAxis.start (resolution a b : ℚ) : RayAxis :=
  let cell := ⌊a / resolution⌋
  if a < b then ⟨1, cell, some (((cell + 1) * resolution - a) / (b - a)), resolution / (b - a)⟩
  else if b < a then ⟨-1, cell, some ((cell * resolution - a) / (b - a)), resolution / (a - b)⟩
  else ⟨0, cell, none, 0⟩

/-- The axis is crossed if that comes up. -/
def RayAxis.cross (crossing : ℚ) (r : RayAxis) : RayAxis :=
  match r.next with
  | none => r
  | some next =>
    if next ≤ crossing then { r with cell := r.cell + r.step, next := some (next + r.every) } else r

/-- The least of what there is. -/
def earliest (times : List (Option ℚ)) : Option ℚ := (times.filterMap id).min?

/-- The voxels of a ray before its end; ties cross all axes. -/
def rayFrom (target : Voxel) : ℕ → RayAxis × RayAxis × RayAxis → List Voxel
  | 0, _ => []
  | fuel + 1, (x, y, z) =>
    let cell : Voxel := ⟨x.cell, y.cell, z.cell⟩
    if cell = target then []
    else
      cell :: rayFrom target fuel (match earliest [x.next, y.next, z.next] with
        | none => (x, y, z)
        | some time =>
          let crossing := time + 1 / 10 ^ 12
          (x.cross crossing, y.cross crossing, z.cross crossing))

/-- `_ray`. -/
def ray (resolution : ℚ) (a b : Point) : List Voxel :=
  let from_ := a.voxel resolution
  let target := b.voxel resolution
  rayFrom target
    ((target.x - from_.x).natAbs + (target.y - from_.y).natAbs + (target.z - from_.z).natAbs + 1)
    (.start resolution (a .x) (b .x), .start resolution (a .y) (b .y),
      .start resolution (a .z) (b .z))

/-! ## 3. Images -/

/-- Where the camera was: a rotation by rows, a translation, and the last row of the matrix. -/
structure CameraPose where
  rotation : Voxel.Axis → Point
  translation : Point
  bottom : List ℚ

namespace CameraPose

/-- `isclose`, with the relative tolerance that it has by default. -/
def close (tolerance a b : ℚ) : Bool := |a - b| ≤ tolerance + |b| / 10 ^ 5

def axes : List Voxel.Axis := [.x, .y, .z]

def determinant (m : Voxel.Axis → Point) : ℚ :=
  m .x .x * (m .y .y * m .z .z - m .y .z * m .z .y) -
    m .x .y * (m .y .x * m .z .z - m .y .z * m .z .x) +
    m .x .z * (m .y .x * m .z .y - m .y .y * m .z .x)

def rigid (t : CameraPose) : Bool :=
  t.bottom.length == 4 && (t.bottom.zip [0, 0, 0, 1]).all (fun (a, b) => close (1 / 10 ^ 8) a b) &&
    axes.all (fun i => axes.all fun j =>
      close (1 / 10 ^ 5) (Voxel.Axis.sum fun k => t.rotation k i * t.rotation k j)
        (if i = j then 1 else 0)) &&
    close (1 / 10 ^ 5) (determinant t.rotation) 1

/-- A point of the camera in the world. -/
def apply (t : CameraPose) (a : Point) : Point := fun i =>
  (Voxel.Axis.sum fun j => t.rotation i j * a j) + t.translation i

/-- How far in front of the camera the middle of a voxel is. -/
def opticalDepth (t : CameraPose) (resolution : ℚ) (cell : Voxel) : ℚ :=
  Voxel.Axis.sum fun i =>
    t.rotation i .z * (((cell.along i : ℚ) + 1 / 2) * resolution - t.translation i)

end CameraPose

/-- An image with where and when it was taken; nothing stands for a depth that is not finite, and
for a transform that is no finite matrix. -/
structure DepthImage where
  depth : List (List (Option ℚ))
  fx : Scalar
  fy : Scalar
  cx : Scalar
  cy : Scalar
  cameraToWorld : Option CameraPose
  observed : Scalar
  now : Scalar
  frame : String
  calibration : String
  epoch : Option String
  motionQualified : Bool

/-- The depths with their pixels, row by row. -/
def pixels (depth : List (List (Option ℚ))) : List (ℕ × ℕ × Option ℚ) :=
  (depth.zipIdx.map fun (row, v) => row.zipIdx.map fun (z, u) => (u, v, z)).flatten

/-- The voxels that are hit, each with the first point in it, in their order. -/
def endpoints (resolution : ℚ) (points : List Point) : List (Voxel × Point) :=
  let keyed := points.map fun a => (a.voxel resolution, a)
  (keyed.reverse.pwFilter fun a b => a.1 ≠ b.1).insertionSort fun a b => a.1.Le b.1

/-! ## 4. The volume -/

/-- What an image says: the voxels that are hit, and those that are cleared. -/
structure Traversal where
  hits : List Voxel
  cleared : List Voxel
  work : ℕ

structure DepthVolume where
  profile : DepthProfile
  /-- Whether it was hit last, and when it was observed. -/
  cells : AList fun _ : Voxel => Bool × ℚ
  lastStamp : Option ℚ
  epoch : Option String
  error : Option String

namespace DepthVolume

def init (profile : DepthProfile) : DepthVolume where
  profile
  cells := ∅
  lastStamp := none
  epoch := none
  error := some "no depth observation"

def reset (v : DepthVolume) (epoch : String) : DepthVolume × Except Raised Unit :=
  if epoch = "" ∨ some epoch = v.epoch then (v, .error (invalidTask "navigation epoch required"))
  else
    ({ v with
        epoch := some epoch
        cells := ∅
        lastStamp := none
        error := some "awaiting new travel observation" }, .ok ())

/-- A voxel on a ray; never cleared in the blind region near the camera. -/
def traverseCell (p : DepthProfile) (t : CameraPose) (acc : Traversal) (cell : Voxel) :
    Except Raised Traversal :=
  if p.maximumRaySteps < acc.work + 1 then
    .error (invalidTask "depth traversal work budget exceeded")
  else
    let ahead := t.opticalDepth p.resolution cell - p.minimumDepth
    let seen := p.Kept cell ∧ 0 ≤ ahead ∧ 3 * p.resolution ^ 2 ≤ ahead ^ 2
    let cleared := if seen then acc.cleared.insert cell else acc.cleared
    if p.maximumVoxels < cleared.length ∨ p.maximumVoxels < acc.hits.length then
      .error (invalidTask "depth ray budget exceeded")
    else .ok ⟨acc.hits, cleared, acc.work + 1⟩

/-- A point with the ray to it. -/
def traversePoint (p : DepthProfile) (t : CameraPose) (acc : Traversal) (endpoint : Voxel × Point) :
    Except Raised Traversal :=
  let hits := if p.Kept endpoint.1 then acc.hits.insert endpoint.1 else acc.hits
  (ray p.resolution t.translation endpoint.2).foldlM (traverseCell p t) { acc with hits }

/-- The stamp of an image that is qualified for this volume. -/
def checkImage (v : DepthVolume) (image : DepthImage) : Except Raised ℚ := do
  let stamp ← number "depth time" image.observed
  let now ← number "clock" image.now
  if (image.frame, image.calibration, image.epoch) ≠
      (v.profile.frame, v.profile.calibration, v.epoch) ∨ ¬ image.motionQualified ∨
      ¬ (0 ≤ now - stamp ∧ now - stamp ≤ v.profile.maximumAge) ∨ v.lastStamp.any (stamp ≤ ·) then
    .error (invalidTask "depth identity, age, motion quality or sequence invalid")
  else return stamp

def checkPoints (p : DepthProfile) (image : DepthImage) : Except Raised (List Point × CameraPose) := do
  let width := (image.depth.headD []).length
  if ¬ image.depth.all (·.length == width) then
    .error ⟨"ValueError", "setting an array element with a sequence."⟩
  else
    match image.cameraToWorld with
    | none => .error (invalidTask "invalid depth image or rigid exposure transform")
    | some t =>
      let size := width * image.depth.length
      if ¬ (1 ≤ size ∧ size ≤ 1280 * 720) ∨ ¬ t.rigid then
        .error (invalidTask "invalid depth image or rigid exposure transform")
      else do
        let fx ← number "intrinsics" image.fx
        let fy ← number "intrinsics" image.fy
        let cx ← number "intrinsics" image.cx
        let cy ← number "intrinsics" image.cy
        if fx ≤ 0 ∨ fy ≤ 0 ∨ ¬ (0 ≤ cx ∧ cx < width) ∨ ¬ (0 ≤ cy ∧ cy < image.depth.length) then
          .error (invalidTask "invalid depth intrinsics")
        else
          let valid := (pixels image.depth).filterMap fun (u, v, z) => z.bind fun z =>
            if p.minimumDepth ≤ z ∧ z ≤ p.maximumDepth then some (u, v, z) else none
          if (valid.length : ℚ) / size < p.minimumValidFraction then
            .error (invalidTask "insufficient valid depth")
          else
            return (valid.map fun (u, v, z) =>
              t.apply (.of ((u - cx) * z / fx) ((v - cy) * z / fy) z), t)

/-- All that an image says, if it is within the budgets. -/
def traverse (v : DepthVolume) (image : DepthImage) : Except Raised (ℚ × Traversal) := do
  let stamp ← v.checkImage image
  let (points, t) ← checkPoints v.profile image
  let ends := endpoints v.profile.resolution points
  if v.profile.maximumVoxels < ends.length then
    .error (invalidTask "depth observation exceeds voxel budget")
  else do
    let found ← ends.foldlM (traversePoint v.profile t) ⟨[], [], 0⟩
    if v.profile.maximumVoxels < (found.hits ∪ (found.cleared ∪ v.cells.keys)).length then
      .error (invalidTask "depth map budget exceeded; explicit local reset required")
    else return (stamp, found)

/-- Each of the voxels is what is observed. -/
def mark (value : Bool × ℚ) (cells : AList fun _ : Voxel => Bool × ℚ) (l : List Voxel) :
    AList fun _ : Voxel => Bool × ℚ :=
  l.foldl (fun cells cell => cells.insert cell value) cells

/-- A hit wins over every ray that clears, within one image. -/
def take (v : DepthVolume) (stamp : ℚ) (found : Traversal) : DepthVolume :=
  { v with
    cells := mark (true, stamp)
      (mark (false, stamp) v.cells (found.cleared.filter (· ∉ found.hits))) found.hits
    lastStamp := some stamp
    error := none }

def integrate (v : DepthVolume) (image : DepthImage) : DepthVolume × Except Raised Unit :=
  match v.traverse image with
  | .error raised => ({ v with error := some raised.text }, .error raised)
  | .ok (stamp, found) => (v.take stamp found, .ok ())

def Fresh (v : DepthVolume) (now : ℚ) : Prop :=
  v.error = none ∧ ∃ last ∈ v.lastStamp, 0 ≤ now - last ∧ now - last ≤ v.profile.maximumAge

instance (v : DepthVolume) (now : ℚ) : Decidable (v.Fresh now) :=
  inferInstanceAs (Decidable (_ ∧ ∃ _ ∈ _, _))

/-- `projected_obstacles`: a voxel of the column is hit. -/
def Obstacle (v : DepthVolume) (x y : ℤ) : Prop :=
  ∃ e ∈ v.cells.entries, (e.1.x, e.1.y) = (x, y) ∧ e.2.1 = true

instance (v : DepthVolume) (x y : ℤ) : Decidable (v.Obstacle x y) :=
  inferInstanceAs (Decidable (∃ _ ∈ _, _))

def free (v : DepthVolume) (cell : Voxel) (now : ℚ) : Bool :=
  match v.cells.lookup cell with
  | none => false
  | some (hit, stamp) => !hit && 0 ≤ now - stamp && now - stamp ≤ v.profile.maximumAge

end DepthVolume

end MobileBimanual.Tasks
