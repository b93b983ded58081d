/-
# Observations from a platform that stands still

`StationaryRGBD` of `stationary_rgbd.py` with `depth_target` of `perception.py`: a depth image is
used only if the platform has stood still since before the exposure, in one pose, and the transform
of the camera was looked up at the exposure.

Where an image is not used, what is raised says why.
-/
import Mathlib.Data.List.Sort
import MobileBimanual.Tasks.Data

namespace MobileBimanual.Tasks

/-! ## 1. What is observed -/

structure CapturePolicy where
  model : String
  cameraFrame : String
  rootFrame : String
  calibrationId : String
  width : ℕ
  height : ℕ
  minimumDepth : ℚ
  maximumDepth : ℚ
  settle : ℚ
  maximumAge : ℚ
  maximumTfSkew : ℚ
  positive : 0 < minimumDepth ∧ 0 < settle ∧ 0 < maximumTfSkew
  limits : minimumDepth < maximumDepth ∧ maximumTfSkew ≤ maximumAge

structure MotionEvidence where
  observed : Scalar
  stationarySince : Scalar
  poseRevision : String
  baseStopped : Bool
  liftStopped : Bool

structure CameraIntrinsics where
  fx : Scalar
  fy : Scalar
  cx : Scalar
  cy : Scalar

structure RGBDFrame where
  captureId : String
  observed : Scalar
  poseRevision : String
  cameraFrame : String
  calibrationId : String
  width : ℤ
  height : ℤ
  intrinsics : CameraIntrinsics
  rootFrame : String
  transformObserved : Scalar
  rootFromCamera : List (List Scalar)
  registeredRectified : Bool

/-- A point in the colour image, with its depth. -/
abbrev DepthSample := ℚ × ℚ × ℚ

/-- Where an object was seen; it never authorizes a motion. -/
structure DepthTarget where
  position : List ℚ
  frameId : String
  observed : ℚ
  calibrationId : String
  validDepthSamples : ℕ

structure LocatedTarget extends DepthTarget where
  captureId : String
  poseRevision : String
  cameraModel : String

/-! ## 2. From samples to a point -/

def median (values : List ℚ) : ℚ :=
  let sorted := values.mergeSort (· ≤ ·)
  if values.length % 2 = 1 then sorted.getD (values.length / 2) 0
  else (sorted.getD (values.length / 2 - 1) 0 + sorted.getD (values.length / 2) 0) / 2

def depthSample : List Scalar → Except Raised DepthSample
  | [u, v, z] => do
    let u ← number "depth sample" u
    let v ← number "depth sample" v
    let z ← number "depth sample" z
    return (u, v, z)
  | _ => .error (invalidTask "invalid depth sample")

/-- The samples as points before the camera. -/
def project (fx fy cx cy : ℚ) (samples : List DepthSample) : List DepthSample :=
  (samples.filter fun (_, _, z) => decide (0 < z)).map fun (u, v, z) =>
    ((u - cx) * z / fx, (v - cy) * z / fy, z)

def entryAt (matrix : List (List ℚ)) (i j : ℕ) : ℚ := (matrix.getD i []).getD j 0

def gram (matrix : List (List ℚ)) (i j : ℕ) : ℚ :=
  ((List.range 3).map fun k => entryAt matrix i k * entryAt matrix j k).sum

def determinant (matrix : List (List ℚ)) : ℚ :=
  let r := entryAt matrix
  r 0 0 * (r 1 1 * r 2 2 - r 1 2 * r 2 1) - r 0 1 * (r 1 0 * r 2 2 - r 1 2 * r 2 0) +
    r 0 2 * (r 1 0 * r 2 1 - r 1 1 * r 2 0)

/-- A rigid transform, up to rounding. -/
def checkTransform (transform : List (List Scalar)) : Except Raised (List (List ℚ)) := do
  if transform.length ≠ 4 ∨ transform.any (·.length ≠ 4) then
    .error (invalidTask "4x4 transform required")
  else
    let matrix ← transform.mapM fun row => row.mapM (number "transform")
    if matrix.getD 3 [] ≠ [0, 0, 0, 1] then
      .error (invalidTask "invalid homogeneous transform")
    else if (List.range 3).any fun i => (List.range 3).any fun j =>
        decide (|gram matrix i j - if i = j then 1 else 0| > 1 / 1000000) then
      .error (invalidTask "transform rotation is not orthonormal")
    else if |determinant matrix - 1| > 1 / 1000000 then
      .error (invalidTask "reflected transform")
    else return matrix

def transformPoint (matrix : List (List ℚ)) (xyz : List ℚ) : List ℚ :=
  (List.range 3).map fun i =>
    ((List.range 3).map fun j => entryAt matrix i j * xyz.getD j 0).sum + entryAt matrix i 3

/-- The most samples may lie apart in depth. -/
def maximumDepthSpread : ℚ := 1 / 20

def minimumValidSamples : ℕ := 5

/-- `depth_target`, for the frames that a policy expects. -/
def depthTarget (policy : CapturePolicy) (frame : RGBDFrame) (samples : List DepthSample)
    (now : ℚ) : Except Raised DepthTarget := do
  let stamp ← number "time" frame.observed
  if stamp < 0 ∨ now < stamp ∨ now - stamp > policy.maximumAge then
    .error (invalidTask "stale_observation")
  else if frame.cameraFrame = "" ∨ frame.cameraFrame ≠ policy.cameraFrame ∨
      frame.calibrationId = "" ∨ frame.calibrationId ≠ policy.calibrationId then
    .error (invalidTask "frame_or_calibration_mismatch")
  else
    let tfStamp ← number "transform time" frame.transformObserved
    if tfStamp < 0 ∨ tfStamp > now ∨ now - tfStamp > policy.maximumAge ∨
        |tfStamp - stamp| > policy.maximumAge then
      .error (invalidTask "stale_transform")
    else
      let fx ← number "intrinsics" frame.intrinsics.fx
      let fy ← number "intrinsics" frame.intrinsics.fy
      let cx ← number "intrinsics" frame.intrinsics.cx
      let cy ← number "intrinsics" frame.intrinsics.cy
      if fx ≤ 0 ∨ fy ≤ 0 then .error (invalidTask "invalid depth configuration")
      else
        let points := project fx fy cx cy samples
        if points.length < minimumValidSamples then .error (invalidTask "insufficient_depth")
        else
          let depth := median (points.map (·.2.2))
          let near := points.filter fun p => decide (|p.2.2 - depth| ≤ maximumDepthSpread)
          if near.length < minimumValidSamples then .error (invalidTask "inconsistent_depth")
          else
            let xyz := [median (near.map (·.1)), median (near.map (·.2.1)),
              median (near.map (·.2.2))]
            let matrix ← checkTransform frame.rootFromCamera
            return {
              position := transformPoint matrix xyz
              frameId := policy.rootFrame
              observed := stamp
              calibrationId := frame.calibrationId
              validDepthSamples := near.length }

/-! ## 3. The checks -/

namespace CapturePolicy

/-- Since when the platform has stood still. -/
def stationarySince (policy : CapturePolicy) (motion : MotionEvidence) (now : ℚ) :
    Except Raised ℚ := do
  let stamp ← number "motion timestamp" motion.observed
  let since ← number "stationary timestamp" motion.stationarySince
  let _ ← identifier "pose revision" motion.poseRevision
  if ¬ (0 ≤ since ∧ since ≤ stamp ∧ stamp ≤ now) ∨ now - stamp > policy.maximumAge then
    .error (invalidTask "stale_motion_evidence")
  else if ¬ (motion.baseStopped ∧ motion.liftStopped) then
    .error (invalidTask "platform_not_stationary")
  else return since

/-- The stamps of a frame: exposed after it was asked for and after the platform had settled, with
the transform of that moment. -/
def checkStamps (policy : CapturePolicy) (frame : RGBDFrame) (motion : MotionEvidence)
    (since now requested : ℚ) : Except Raised Unit := do
  let stamp ← number "exposure timestamp" frame.observed
  let tfStamp ← number "transform timestamp" frame.transformObserved
  if ¬ (0 ≤ requested ∧ requested ≤ stamp ∧ stamp ≤ now) ∨ now - stamp > policy.maximumAge then
    .error (invalidTask "stale_or_pre_request_frame")
  else if stamp < since + policy.settle ∨ frame.poseRevision ≠ motion.poseRevision then
    .error (invalidTask "frame_before_settling_or_pose_changed")
  else if tfStamp < since ∨ tfStamp > now ∨ |tfStamp - stamp| > policy.maximumTfSkew then
    .error (invalidTask "transform_not_at_exposure")
  else return

def checkProfile (policy : CapturePolicy) (frame : RGBDFrame) : Except Raised Unit :=
  if frame.cameraFrame ≠ policy.cameraFrame ∨ frame.rootFrame ≠ policy.rootFrame ∨
      frame.calibrationId ≠ policy.calibrationId then
    .error (invalidTask "frame_or_calibration_mismatch")
  else if (frame.width, frame.height) ≠ ((policy.width : ℤ), (policy.height : ℤ)) ∨
      ¬ frame.registeredRectified then
    .error (invalidTask "registered_rectified_profile_required")
  else .ok ()

def validateFrame (policy : CapturePolicy) (frame : RGBDFrame) (motion : MotionEvidence)
    (now requested : ℚ) : Except Raised Unit := do
  let since ← policy.stationarySince motion now
  let _ ← identifier "capture id" frame.captureId
  policy.checkStamps frame motion since now requested
  policy.checkProfile frame
  -- Intrinsics and transform are checked even for a frame in which nothing is detected.
  let _ ← depthTarget policy frame (List.replicate 5 (0, 0, policy.minimumDepth)) now

/-- The samples within the image whose depth the camera can measure. -/
def usable (policy : CapturePolicy) (frame : RGBDFrame) :
    List (List Scalar) → Except Raised (List DepthSample)
  | [] => return []
  | sample :: rest => do
    let (u, v, z) ← depthSample sample
    if ¬ (0 ≤ u ∧ u < frame.width ∧ 0 ≤ v ∧ v < frame.height) then
      .error (invalidTask "pixel_outside_image")
    else
      let others ← policy.usable frame rest
      if policy.minimumDepth ≤ z ∧ z ≤ policy.maximumDepth then return (u, v, z) :: others
      else return others

def locate (policy : CapturePolicy) (frame : RGBDFrame) (motion : MotionEvidence)
    (samples : List (List Scalar)) (now requested : ℚ) : Except Raised LocatedTarget := do
  policy.validateFrame frame motion now requested
  if samples.length > 10000 then .error (invalidTask "bounded depth ROI required")
  else
    let samples ← policy.usable frame samples
    let target ← depthTarget policy frame samples now
    return { target with
      captureId := frame.captureId
      poseRevision := frame.poseRevision
      cameraModel := policy.model }

end CapturePolicy

end MobileBimanual.Tasks
