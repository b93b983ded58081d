/-
# The measured state of the robot

`RobotStateStore` of `robot_state.py`: it takes observations one after another, keeps for each what
it says about the motion of the platform, and answers with the conditions of the steps.

Two timers run beside it.  `since` tells since when the platform has stood still, and the revision of
the pose changes whenever it has not; `holdSince` tells since when the lift has been held at one
height, whatever the base does.
-/
import MobileBimanual.Tasks.StationaryRGBD

namespace MobileBimanual.Tasks

/-! ## 1. Observations -/

/-- What is observed besides the measurements. -/
structure RobotFlags where
  healthy : Bool
  localized : Bool
  liftHomed : Bool
  liftSupported : Bool
  surfaceValid : Bool
  collisionSceneReady : Bool
  armClear : Bool
  reachable : Bool
  collisionChecked : Bool
  checkedCaptureId : String
  checkedSceneRevision : String

structure RobotDocument where
  /-- Nothing for what is no integer; so for the others. -/
  sequence : Option ℤ
  bootId : Option ℤ
  observed : Scalar
  xyYaw : List Scalar
  baseVelocity : List Scalar
  joints : List Scalar
  jointNames : List String
  liftUm : Option ℤ
  liftVelocity : Scalar
  flags : RobotFlags

/-- An observation that was accepted. -/
structure RobotObservation where
  sequence : ℤ
  bootId : ℤ
  observed : ℚ
  xyYaw : List ℚ
  baseVelocity : List ℚ
  joints : List ℚ
  liftUm : ℤ
  liftVelocity : ℚ
  flags : RobotFlags

/-! ## 2. The profile -/

/-- Twelve joints, if none are named. -/
def jointCount (names : Option (List String)) : ℕ := (names.map List.length).getD 12

structure RobotProfile where
  maximumAge : ℚ
  baseStoppedSpeed : ℚ
  liftStoppedSpeed : ℚ
  jointTolerance : ℚ
  transportJoints : List ℚ
  liftTransport : ℚ
  liftTolerance : ℚ
  holdDwell : ℚ
  safeMinimum : List ℚ
  safeMaximum : List ℚ
  arrivalTolerance : ℚ
  jointNames : Option (List String)
  nonnegative : 0 ≤ baseStoppedSpeed ∧ 0 ≤ liftStoppedSpeed ∧ 0 ≤ jointTolerance ∧
    0 ≤ liftTransport ∧ 0 ≤ liftTolerance ∧ 0 ≤ arrivalTolerance
  times : (0 < maximumAge ∧ maximumAge ≤ 2) ∧ 0 < holdDwell ∧ holdDwell ≤ 2
  joints : transportJoints.length = jointCount jointNames ∧
    safeMinimum.length = jointCount jointNames ∧ safeMaximum.length = jointCount jointNames
  envelope : ∀ pair ∈ safeMinimum.zip safeMaximum, pair.1 < pair.2

/-- The profile as it is handed in. -/
structure ProfileDocument where
  maximumAge : Scalar
  baseStoppedSpeed : Scalar
  liftStoppedSpeed : Scalar
  jointTolerance : Scalar
  transportJoints : List Scalar
  liftTransport : Scalar
  liftTolerance : Scalar
  holdDwell : Scalar
  safeMinimum : List Scalar
  safeMaximum : List Scalar
  arrivalTolerance : Scalar
  jointNames : Option (List String)

def checkJointNames : Option (List String) → Except Raised Unit
  | none => .ok ()
  | some names =>
    if names.length ∉ [6, 12] ∨ ¬ names.Nodup ∨ "" ∈ names then
      .error (invalidTask "explicit unique installed joint names required")
    else .ok ()

def checkBound (field : String) (value : Scalar) : Except Raised ℚ := do
  let value ← number field value
  if value < 0 then .error (invalidTask "negative observation bound") else return value

def checkJoints (field : String) (count : ℕ) (values : List Scalar) : Except Raised (List ℚ) :=
  if values.length ≠ count then .error (invalidTask "installed joint limits required")
  else values.mapM (number field)

def RobotProfile.create (document : ProfileDocument) : Except Raised RobotProfile := do
  checkJointNames document.jointNames
  let count := jointCount document.jointNames
  let maximumAge ← checkBound "maximum_age_s" document.maximumAge
  let baseStoppedSpeed ← checkBound "base_stopped_speed" document.baseStoppedSpeed
  let liftStoppedSpeed ← checkBound "lift_stopped_speed" document.liftStoppedSpeed
  let jointTolerance ← checkBound "joint_tolerance_rad" document.jointTolerance
  let liftTransport ← checkBound "lift_transport_um" document.liftTransport
  let liftTolerance ← checkBound "lift_tolerance_um" document.liftTolerance
  let holdDwell ← checkBound "hold_dwell_s" document.holdDwell
  let arrivalTolerance ← checkBound "arrival_tolerance_m" document.arrivalTolerance
  if htimes : (0 < maximumAge ∧ maximumAge ≤ 2) ∧ 0 < holdDwell ∧ holdDwell ≤ 2 then do
    let transportJoints ← checkJoints "transport_joints_rad" count document.transportJoints
    let safeMinimum ← checkJoints "safe_minimum_rad" count document.safeMinimum
    let safeMaximum ← checkJoints "safe_maximum_rad" count document.safeMaximum
    if hrest : (0 ≤ baseStoppedSpeed ∧ 0 ≤ liftStoppedSpeed ∧ 0 ≤ jointTolerance ∧
          0 ≤ liftTransport ∧ 0 ≤ liftTolerance ∧ 0 ≤ arrivalTolerance) ∧
        (transportJoints.length = count ∧ safeMinimum.length = count ∧
          safeMaximum.length = count) ∧
        ∀ pair ∈ safeMinimum.zip safeMaximum, pair.1 < pair.2 then
      return ⟨maximumAge, baseStoppedSpeed, liftStoppedSpeed, jointTolerance, transportJoints,
        liftTransport, liftTolerance, holdDwell, safeMinimum, safeMaximum, arrivalTolerance,
        document.jointNames, hrest.1, htimes, hrest.2.1, hrest.2.2⟩
    else .error (invalidTask "invalid safe joint envelope")
  else .error (invalidTask "bounded observation age/dwell required")

/-! ## 3. The store -/

structure RobotStateStore where
  profile : RobotProfile
  latest : Option RobotObservation
  /-- The newest first, 512 at most. -/
  history : List MotionEvidence
  boot : Option ℤ
  fault : Option String
  revision : ℕ
  since : Option ℚ
  holdSince : Option ℚ
  lastHoldHeight : Option ℤ
  liftTarget : ℚ

namespace RobotStateStore

def init (profile : RobotProfile) : RobotStateStore where
  profile
  latest := none
  history := []
  boot := none
  fault := none
  revision := 0
  since := none
  holdSince := none
  lastHoldHeight := none
  liftTarget := profile.liftTransport

def checkCount (message : String) : Option ℤ → Except Raised ℤ
  | none => .error (invalidTask message)
  | some value =>
    if 0 < value ∧ value ≤ 0xFFFFFFFF then .ok value else .error (invalidTask message)

/-- The identity and the time of an observation that the store goes on with. -/
def checkStamp (s : RobotStateStore) (document : RobotDocument) (now : ℚ) :
    Except Raised (ℤ × ℤ × ℚ) := do
  let sequence ← checkCount "invalid sensor sequence" document.sequence
  let bootId ← checkCount "invalid boot identity" document.bootId
  if s.boot.any (decide <| · ≠ bootId) then .error (invalidTask "device restarted")
  else do
    let observed ← number "sensor time" document.observed
    if ¬ (0 ≤ observed ∧ observed ≤ now) ∨ now - observed > s.profile.maximumAge then
      .error (invalidTask "stale robot observation")
    else if s.latest.any fun last => sequence ≤ last.sequence ∨ observed ≤ last.observed then
      .error (invalidTask "repeated robot observation")
    else return (sequence, bootId, observed)

def checkMeasured (field : String) (count : ℕ) (values : List Scalar) : Except Raised (List ℚ) :=
  if values.length ≠ count then .error (invalidTask "invalid robot vector")
  else values.mapM (number field)

def checkLift : Option ℤ → Except Raised ℤ
  | none => .error (invalidTask "invalid lift height")
  | some value =>
    if 0 ≤ value ∧ value ≤ 1000000 then .ok value
    else .error (invalidTask "invalid lift height")

/-- What makes a document an observation. -/
def check (s : RobotStateStore) (document : RobotDocument) (now : ℚ) :
    Except Raised RobotObservation := do
  let (sequence, bootId, observed) ← s.checkStamp document now
  let xyYaw ← checkMeasured "xy_yaw" 3 document.xyYaw
  let baseVelocity ← checkMeasured "base_velocity" 3 document.baseVelocity
  let joints ← checkMeasured "joints_rad" (jointCount s.profile.jointNames) document.joints
  if s.profile.jointNames.any (decide <| document.jointNames ≠ ·) then
    .error (invalidTask "installed joint feedback names mismatch")
  else do
    let liftUm ← checkLift document.liftUm
    let liftVelocity ← number "lift speed" document.liftVelocity
    return ⟨sequence, bootId, observed, xyYaw, baseVelocity, joints, liftUm, liftVelocity,
      document.flags⟩

end RobotStateStore

namespace RobotObservation

def BaseStopped (p : RobotProfile) (o : RobotObservation) : Prop :=
  ∀ v ∈ o.baseVelocity, |v| ≤ p.baseStoppedSpeed

def LiftStopped (p : RobotProfile) (o : RobotObservation) : Prop :=
  |o.liftVelocity| ≤ p.liftStoppedSpeed

def Stopped (p : RobotProfile) (o : RobotObservation) : Prop := o.BaseStopped p ∧ o.LiftStopped p

/-- The base or the lift is elsewhere than at the last observation. -/
def Moved (last o : RobotObservation) : Prop :=
  (∃ pair ∈ o.xyYaw.zip last.xyYaw, |pair.1 - pair.2| > 1 / 1000000) ∨ o.liftUm ≠ last.liftUm

/-- The observation comes too long after the last. -/
def Gapped (p : RobotProfile) (last o : RobotObservation) : Prop :=
  o.observed - last.observed > p.maximumAge

/-- Base motion invalidates the pose of the camera, not a lift that is measured to stand still. -/
def Supported (p : RobotProfile) (o : RobotObservation) : Prop :=
  o.flags.liftSupported = true ∧ o.flags.liftHomed = true ∧ o.LiftStopped p

instance (p : RobotProfile) (o : RobotObservation) : Decidable (o.BaseStopped p) :=
  inferInstanceAs (Decidable (∀ _ ∈ _, _))

instance (p : RobotProfile) (o : RobotObservation) : Decidable (o.LiftStopped p) :=
  inferInstanceAs (Decidable (_ ≤ _))

instance (p : RobotProfile) (o : RobotObservation) : Decidable (o.Stopped p) :=
  inferInstanceAs (Decidable (_ ∧ _))

instance (last o : RobotObservation) : Decidable (Moved last o) :=
  inferInstanceAs (Decidable ((∃ _ ∈ _, _) ∨ _))

instance (p : RobotProfile) (last o : RobotObservation) : Decidable (Gapped p last o) :=
  inferInstanceAs (Decidable (_ > _))

instance (p : RobotProfile) (o : RobotObservation) : Decidable (o.Supported p) :=
  inferInstanceAs (Decidable (_ ∧ _ ∧ _))

/-- What an observation says about motion, with the time and the revision it belongs to. -/
def evidence (p : RobotProfile) (o : RobotObservation) (since : ℚ) (revision : ℕ) :
    MotionEvidence where
  observed := .finite o.observed
  stationarySince := .finite since
  poseRevision := s!"pose-{revision}"
  baseStopped := decide (o.BaseStopped p)
  liftStopped := decide (o.LiftStopped p)

end RobotObservation

namespace RobotStateStore

/-- The observation begins a new pose. -/
def Jolts (s : RobotStateStore) (o : RobotObservation) : Prop :=
  ¬ o.Stopped s.profile ∨ (∃ last ∈ s.latest, RobotObservation.Moved last o) ∨
    ∃ last ∈ s.latest, RobotObservation.Gapped s.profile last o

instance (s : RobotStateStore) (o : RobotObservation) : Decidable (s.Jolts o) :=
  inferInstanceAs (Decidable (_ ∨ (∃ _ ∈ _, _) ∨ ∃ _ ∈ _, _))

/-- Since when the platform has stood still. -/
def sinceAfter (s : RobotStateStore) (o : RobotObservation) : Option ℚ :=
  let since := if s.Jolts o then none else s.since
  if o.Stopped s.profile ∧ since = none then some o.observed else since

/-- Since when, and at which height, the lift has been held. -/
def holdAfter (s : RobotStateStore) (o : RobotObservation) : Option ℚ × Option ℤ :=
  let holdSince :=
    if ∃ last ∈ s.latest, RobotObservation.Gapped s.profile last o then none else s.holdSince
  if ¬ o.Supported s.profile then (none, s.lastHoldHeight)
  else if holdSince = none then (some o.observed, some o.liftUm)
  else if s.lastHoldHeight.any fun height =>
      |((o.liftUm - height : ℤ) : ℚ)| > s.profile.liftTolerance then
    (some o.observed, some o.liftUm)
  else (holdSince, s.lastHoldHeight)

def take (s : RobotStateStore) (o : RobotObservation) : RobotStateStore :=
  let revision := if s.Jolts o then s.revision + 1 else s.revision
  let since := s.sinceAfter o
  { s with
    latest := some o
    history := (o.evidence s.profile (since.getD o.observed) revision :: s.history).take 512
    boot := some o.bootId
    revision
    since
    holdSince := (s.holdAfter o).1
    lastHoldHeight := (s.holdAfter o).2 }

def observe (s : RobotStateStore) (document : RobotDocument) (now : ℚ) :
    RobotStateStore × Except Raised Unit :=
  match s.check document now with
  | .error raised => ({ s with fault := some raised.text }, .error raised)
  | .ok o => (s.take o, .ok ())

/-! ## 4. What it answers -/

def Fresh (s : RobotStateStore) (now : ℚ) : Prop :=
  s.fault = none ∧ ∃ o ∈ s.latest, 0 ≤ now - o.observed ∧ now - o.observed ≤ s.profile.maximumAge

instance (s : RobotStateStore) (now : ℚ) : Decidable (s.Fresh now) :=
  inferInstanceAs (Decidable (_ ∧ ∃ _ ∈ _, _))

/-- The last evidence at or before the stamp; `now` is when it is asked for. -/
def motionAt (s : RobotStateStore) (stamp now : ℚ) : Except Raised MotionEvidence :=
  if ¬ s.Fresh now then .error (invalidTask "robot state unavailable")
  else
    match s.history.find? fun motion => motion.observed.value ≤ stamp with
    | none => .error (invalidTask "exposure motion history unavailable")
    | some motion =>
      if stamp - motion.observed.value > s.profile.maximumAge then
        .error (invalidTask "exposure motion history unavailable")
      else .ok motion

/-- What the catalogue of the mission answers while the conditions are read: whether the robot is
where its goal is, and the capture and the scene of the targets it still vouches for. -/
structure CatalogView where
  near : Bool
  target : Option (String × String)
  surface : Option (String × String)
  objectAtDestination : Bool

/-- The planning evidence is bound to a target that is still valid. -/
def CatalogView.checked (c : CatalogView) (o : RobotObservation) : Bool :=
  o.flags.collisionSceneReady &&
    ([c.target, c.surface].any fun candidate =>
      candidate == some (o.flags.checkedCaptureId, o.flags.checkedSceneRevision))

/-- The joints, each against its own bounds. -/
def within (low high joints : List ℚ) : Bool :=
  (low.zip (joints.zip high)).all fun (a, j, b) => a ≤ j && j ≤ b

/-- The lift was held for the dwell time. -/
def liftHoldVerified (s : RobotStateStore) (o : RobotObservation) : Bool :=
  s.holdSince.any fun since => s.profile.holdDwell ≤ o.observed - since

/-- `conditions`; `reads` are the readings of the clock, one after another. -/
def conditions (s : RobotStateStore) (catalog : Option CatalogView) (reads : ℕ → ℚ) :
    Except Raised Conditions :=
  match s.latest with
  | none => .ok []
  | some o =>
    if ¬ s.Fresh (reads 0) then .ok []
    else do
      let safe := within s.profile.safeMinimum s.profile.safeMaximum o.joints
      let armTransport := (o.joints.zip s.profile.transportJoints).all fun (a, b) =>
        |a - b| ≤ s.profile.jointTolerance
      let arrival := catalog.any fun c => o.flags.localized && c.near
      let target := catalog.any (·.target.isSome)
      let surface := catalog.any (·.surface.isSome)
      let checked := catalog.any (·.checked o)
      let base ← s.motionAt (reads 1) (reads 2)
      let lift ← s.motionAt (reads 3) (reads 4)
      let view ← s.motionAt (reads 5) (reads 6)
      let height ← s.motionAt (reads 7) (reads 8)
      let aimed := decide (|(o.liftUm : ℚ) - s.liftTarget| ≤ s.profile.liftTolerance)
      return [
        ("hardware_ready", o.flags.healthy), ("localized", o.flags.localized),
        ("base_stopped", base.baseStopped), ("lift_stopped", lift.liftStopped),
        ("arm_in_transport_pose", armTransport),
        ("lift_in_transport_position",
          decide (|(o.liftUm : ℚ) - s.profile.liftTransport| ≤ s.profile.liftTolerance)),
        ("arms_safe_for_lift", safe), ("arms_safe_for_alignment", safe),
        ("lift_homed", o.flags.liftHomed), ("lift_hold_verified", s.liftHoldVerified o),
        ("localized_in_source_room", arrival), ("localized_at_destination", arrival),
        ("localized_at_view", arrival), ("alignment_verified", arrival),
        ("base_control_available", o.flags.healthy),
        ("view_reached", view.liftStopped && aimed),
        ("lift_height_verified", height.liftStopped && aimed),
        ("target_observed", target), ("target_pose_resolved", target),
        ("fresh_target_pose", target), ("fresh_observation", target || surface),
        ("fresh_work_surface", o.flags.surfaceValid),
        ("placement_surface_valid", surface && o.flags.surfaceValid),
        ("transform_valid", target || surface), ("reachable", checked && o.flags.reachable),
        ("collision_checked", checked && o.flags.collisionChecked),
        ("arm_clear", o.flags.armClear),
        ("object_at_destination", surface && catalog.any (·.objectAtDestination))]

end RobotStateStore

end MobileBimanual.Tasks
