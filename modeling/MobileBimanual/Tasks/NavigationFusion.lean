/-
# The map that the robot travels by

`fuse_navigation_map` of `navigation_fusion.py` with `projected_grid` of `ros_navigation_depth.py`:
the map of the laser and the columns of the depth volume, cell by cell.  An obstacle of either wins,
and free is what both see free.
-/
import MobileBimanual.Lib.Slew
import MobileBimanual.Tasks.DepthVolume
import MobileBimanual.Tasks.NavigationMap

namespace MobileBimanual.Tasks

/-- The body of the robot in its travel posture. -/
structure TravelEnvelope where
  geometryId : String
  radius : ℚ
  height : ℚ
  sized : (0 < radius ∧ radius ≤ 2) ∧ 0 < height ∧ height ≤ 3

def TravelEnvelope.create (geometryId : String) (radius height : Scalar) :
    Except Raised TravelEnvelope := do
  let geometryId ← identifier "travel geometry revision" geometryId
  let radius ← number "full body radius" radius
  let height ← number "full body height" height
  if h : (0 < radius ∧ radius ≤ 2) ∧ 0 < height ∧ height ≤ 3 then
    return ⟨geometryId, radius, height, h⟩
  else .error (invalidTask "invalid full body travel envelope")

/-- Global proposals may use what was seen free in the scan; local clearance may not. -/
inductive PlanningPurpose where
  | globalRouteProposal | localTraversability
  deriving DecidableEq

namespace DepthVolume

/-- Free in the projection: by history, or as of now. -/
def freeFor (v : DepthVolume) (historicalFree : Bool) (now : ℚ) (cell : Voxel) : Bool :=
  if ¬ historicalFree then v.free cell now
  else
    match v.cells.lookup cell with
    | none => false
    | some (hit, stamp) => !hit && 0 ≤ stamp && stamp ≤ now

def layers (v : DepthVolume) : List ℤ :=
  (List.range (v.profile.high - v.profile.low).toNat).map fun i : ℕ => v.profile.low + (i : ℤ)

/-- A column of the volume: an obstacle, free in every layer, or unknown. -/
def column (v : DepthVolume) (historicalFree : Bool) (now : ℚ) (x y : ℤ) : ℤ :=
  if v.Obstacle x y then 100
  else if v.layers.all fun z => v.freeFor historicalFree now ⟨x, y, z⟩ then 0
  else -1

/-- The lattice column of an origin. -/
def latticeOf (v : DepthVolume) (origin : ℚ) : ℤ := Slew.roundEven (origin / v.profile.resolution)

/-- The origin is at a voxel. -/
def Aligned (v : DepthVolume) (origin : ℚ) : Prop :=
  |origin / v.profile.resolution - v.latticeOf origin| ≤ 1 / 10 ^ 6

instance (v : DepthVolume) (origin : ℚ) : Decidable (v.Aligned origin) :=
  inferInstanceAs (Decidable (_ ≤ _))

/-- `projected_grid`. -/
def projectedGrid (v : DepthVolume) (originX originY : ℚ) (width height : ℕ) (now : ℚ)
    (historicalFree : Bool) : Except Raised (List ℤ) := do
  if min width height < 1 ∨ width * height > 250000 then
    .error (invalidTask "bounded projection required")
  else do
    let originX ← number "grid origin" (.finite originX)
    let originY ← number "grid origin" (.finite originY)
    if ¬ v.Aligned originX ∨ ¬ v.Aligned originY then
      .error (invalidTask "grid origin must align with voxel lattice")
    else
      return (List.range height).flatMap fun y : ℕ => (List.range width).map fun x : ℕ =>
        v.column historicalFree now (v.latticeOf originX + x) (v.latticeOf originY + y)

end DepthVolume

structure FusedMap where
  document : MapDocument
  sourceMapRevision : String
  calibrationId : String
  depthEpoch : String
  depthObserved : Option ℚ
  geometryId : String
  purpose : PlanningPurpose
  deriving DecidableEq

/-- One cell: what the laser and the column say. -/
def mergeCell (laser : Char) (cell : ℤ) : Char :=
  if laser = '#' ∨ cell = 100 then '#' else if laser = '.' ∧ cell = 0 then '.' else '?'

def mergeRows (rows : List String) (width : ℕ) (depth : List ℤ) : List String :=
  rows.mapIdx fun y row =>
    String.ofList (row.toList.mapIdx fun x laser => mergeCell laser (depth.getD (y * width + x) (-1)))

/-- `fuse_navigation_map`; nothing stands for a text that names no purpose. -/
def fuseNavigationMap (lidar : MapDocument) (v : DepthVolume) (envelope : TravelEnvelope)
    (calibrationId expectedEpoch revision : String) (now : Scalar)
    (purpose : Option PlanningPurpose) : Except Raised FusedMap := do
  let nav ← NavigationMap.create lidar
  match purpose with
  | none => .error (invalidTask "invalid planning map purpose")
  | some purpose =>
    let revision ← identifier "fused map revision" revision
    if revision = nav.revision then .error (invalidTask "new planning map revision required")
    else if v.profile.worldFrame ≠ nav.document.frameId ∨ v.profile.calibration ≠ calibrationId ∨
        v.epoch ≠ some expectedEpoch ∨ expectedEpoch = "" ∨
        |v.profile.resolution - nav.resolution| > 1 / 10 ^ 9 then
      .error (invalidTask "depth_lidar_frame_calibration_epoch_or_lattice_mismatch")
    else if v.profile.minimumHeight > nav.floorZ ∨
        v.profile.maximumHeight < nav.floorZ + envelope.height then
      .error (invalidTask "depth_volume_does_not_cover_robot_height")
    else do
      let now ← number "projection time" now
      if ¬ v.Fresh now then .error (invalidTask "fresh_depth_required_for_traversability")
      else do
        let depth ← v.projectedGrid nav.originX nav.originY lidar.width lidar.height now
          (purpose = .globalRouteProposal)
        let fused := { lidar with
          revision
          rows := mergeRows lidar.rows lidar.width depth
          robotRadius := .finite envelope.radius }
        let _ ← NavigationMap.create fused
        return ⟨fused, nav.revision, calibrationId, expectedEpoch, v.lastStamp, envelope.geometryId,
          purpose⟩

end MobileBimanual.Tasks
