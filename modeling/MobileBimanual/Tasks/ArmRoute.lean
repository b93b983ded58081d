/-
# Routes of an arm

`route_for_arm` of `classical.py`: from the measured joints of both arms through the targets of a
plan, each leg of the way along a quintic blend, with the other arm where it is.

Joint coordinates are rational numbers.  How long a leg takes is a number of an ordered field with
roots; only the number of samples depends on it.
-/
import Mathlib.Algebra.Order.Floor.Ring
import Mathlib.Data.Finset.Lattice.Fold
import Mathlib.Data.Fintype.Basic
import MobileBimanual.Lib.Program
import MobileBimanual.Lib.Quintic
import MobileBimanual.Tasks.Data

namespace MobileBimanual.Tasks

/-! ## 1. What is asked for -/

/-- A step of a plan, as it comes in; nothing stands for what is no list. -/
inductive RouteStep where
  | arm (targetPositions : Option (List Scalar))
  | gripper (targetPosition : Scalar)
  /-- Another kind, or other fields. -/
  | unsupported
  | notMapping

/-- The arguments; nothing stands for what is no list, or no integer. -/
structure RouteRequest where
  current : Option (List Scalar)
  oppositeHold : Option (List Scalar)
  arm : String
  steps : Option (List RouteStep)
  minimum : Option (List Scalar)
  maximum : Option (List Scalar)
  maxSpeed : Option (List Scalar)
  intervalMs : Option ℤ := some 50
  maxAcceleration : Option (List Scalar) := some (List.replicate 12 (.finite 1))
  maxJerk : Option (List Scalar) := some (List.replicate 12 (.finite 8))

inductive RouteArm where
  | left | right

namespace RouteArm

def ofString? : String → Option RouteArm
  | "left" => some .left
  | "right" => some .right
  | _ => none

def index : RouteArm → ℕ
  | .left => 0
  | .right => 6

/-- The first joint of the other arm. -/
def other (arm : RouteArm) : ℕ := 6 - arm.index

/-- The joints of the arm, the gripper last. -/
def joint (arm : RouteArm) (i : Fin 6) : Fin 12 :=
  ⟨arm.index + i, by cases arm <;> simp only [index] <;> omega⟩

def otherJoint (arm : RouteArm) (i : Fin 6) : Fin 12 :=
  ⟨arm.other + i, by cases arm <;> simp only [other, index] <;> omega⟩

end RouteArm

abbrev RouteJoints := Fin 12 → ℚ

namespace RouteJoints

/-- The joints with a slice of them replaced. -/
def splice (joints : RouteJoints) (first : ℕ) {count : ℕ} (slice : Fin count → ℚ) : RouteJoints :=
  fun j => if h : first ≤ j ∧ j < first + count then slice ⟨j - first, by omega⟩ else joints j

end RouteJoints

/-- The limits that a route is made for. -/
structure RouteProfile where
  arm : RouteArm
  intervalMs : ℤ
  hold : Fin 6 → ℚ
  minimum : RouteJoints
  maximum : RouteJoints
  maxSpeed : RouteJoints
  maxAcceleration : RouteJoints
  maxJerk : RouteJoints
  sampled : (5 ≤ intervalMs ∧ intervalMs ≤ 100) ∧ intervalMs % 5 = 0
  limited : (∀ j, minimum j < maximum j) ∧
    ∀ j, 0 < maxSpeed j ∧ 0 < maxAcceleration j ∧ 0 < maxJerk j

structure RoutePoint where
  offsetMs : ℤ
  positions : RouteJoints
  deriving DecidableEq

/-! ## 2. Targets -/

/-- `vector`. -/
def routeVector (count : ℕ) : Option (List Scalar) → Except Raised (Fin count → ℚ)
  | none => .error (invalidTask "invalid joint vector")
  | some values =>
    if values.length ≠ count then .error (invalidTask "invalid joint vector")
    else do
      let numbers ← values.mapM (number "joint coordinate")
      return fun i => numbers.getD i 0

namespace RouteProfile

/-- `within`. -/
def within (p : RouteProfile) (values : RouteJoints) : Except Raised Unit :=
  if ∃ j, ¬ (p.minimum j ≤ values j ∧ values j ≤ p.maximum j) then
    .error (invalidTask "joint_limit")
  else .ok ()

/-- What a step asks of the arm. -/
def aim (p : RouteProfile) (start : RouteJoints) : RouteStep → Except Raised RouteJoints
  | .notMapping => .error (invalidTask "invalid plan step")
  | .arm targetPositions => do
    let slice ← routeVector 5 targetPositions
    return start.splice p.arm.index slice
  | .gripper targetPosition => do
    let position ← number "gripper" targetPosition
    return start.splice (p.arm.index + 5) fun _ : Fin 1 => position
  | .unsupported => .error (invalidTask "unsupported plan step")

/-- Where a step leads. -/
def target (p : RouteProfile) (start : RouteJoints) (step : RouteStep) :
    Except Raised RouteJoints := do
  let aimed ← p.aim start step
  let target := aimed.splice p.arm.other p.hold
  p.within target
  return target

end RouteProfile

/-! ## 3. Legs -/

/-- The roots that the platform computes. -/
structure Roots (K : Type*) where
  sqrt : K → K
  cbrt : K → K

namespace RouteProfile

section Duration

variable {K : Type*} [Field K] [LinearOrder K]

/-- How long a joint takes at least, by its speed, its acceleration and its jerk. -/
def jointTime (p : RouteProfile) (roots : Roots K) (start target : RouteJoints) (j : Fin 12) : K :=
  let way : ℚ := |target j - start j|
  max (max ((15 / 8 * way / p.maxSpeed j : ℚ) : K)
      (roots.sqrt ((10 : ℕ) / roots.sqrt 3 * (way : K) / (p.maxAcceleration j : K))))
    (roots.cbrt ((60 * way / p.maxJerk j : ℚ) : K))

/-- The slowest joint tells. -/
def duration (p : RouteProfile) (roots : Roots K) (start target : RouteJoints) : K :=
  Finset.univ.sup' ⟨0, Finset.mem_univ _⟩ (p.jointTime roots start target)

/-- Seconds from one sample to the next. -/
def interval (p : RouteProfile) : ℚ := p.intervalMs / 1000

def count [FloorRing K] (p : RouteProfile) (roots : Roots K) (start target : RouteJoints) : ℕ :=
  max 1 ⌈p.duration roots start target / (p.interval : K)⌉.toNat

end Duration

/-- The sample at `n` of a leg behind `offset`. -/
def sample (p : RouteProfile) (start target : RouteJoints) (count : ℕ) (offset : ℤ) (n : ℕ) :
    RoutePoint where
  offsetMs := offset + n * p.intervalMs
  positions :=
    if n < count then
      fun j => start j + (target j - start j) * Quintic.blend ((n : ℚ) / count)
    else target

def leg (p : RouteProfile) (start target : RouteJoints) (count : ℕ) (offset : ℤ) :
    List RoutePoint :=
  (List.range count).map fun n => p.sample start target count offset (n + 1)

variable {K : Type*} [Field K] [LinearOrder K] [FloorRing K]

/-- One step more: where it leads, and the points up to there. -/
def advance (p : RouteProfile) (roots : Roots K) (route : RouteJoints × List RoutePoint)
    (step : RouteStep) : Except Raised (RouteJoints × List RoutePoint) := do
  let (start, points) := route
  let target ← p.target start step
  if ((20000 * p.interval : ℚ) : K) < p.duration roots start target then
    .error (invalidTask "trajectory too long")
  else
    let count := p.count roots start target
    if count + points.length > 20000 then .error (invalidTask "trajectory too long")
    else
      let offset := (points.getLast?.map (·.offsetMs)).getD 0
      return (target, points ++ p.leg start target count offset)

end RouteProfile

/-! ## 4. Routes -/

/-- The checks in front of a route: what it is made for, and where the joints are. -/
def RouteRequest.check (r : RouteRequest) : Except Raised (RouteProfile × RouteJoints) :=
  match RouteArm.ofString? r.arm, r.intervalMs with
  | some arm, some intervalMs =>
    if hsampled : (5 ≤ intervalMs ∧ intervalMs ≤ 100) ∧ intervalMs % 5 = 0 then do
      let start ← routeVector 12 r.current
      let hold ← routeVector 6 r.oppositeHold
      let minimum ← routeVector 12 r.minimum
      let maximum ← routeVector 12 r.maximum
      let maxSpeed ← routeVector 12 r.maxSpeed
      let maxAcceleration ← routeVector 12 r.maxAcceleration
      let maxJerk ← routeVector 12 r.maxJerk
      if hlimited : (∀ j, minimum j < maximum j) ∧
          ∀ j, 0 < maxSpeed j ∧ 0 < maxAcceleration j ∧ 0 < maxJerk j then
        return (⟨arm, intervalMs, hold, minimum, maximum, maxSpeed, maxAcceleration, maxJerk,
          hsampled, hlimited⟩, start)
      else .error (invalidTask "invalid joint limits")
    else .error (invalidTask "invalid arm or sample interval")
  | _, _ => .error (invalidTask "invalid arm or sample interval")

/-- `route_for_arm`; the first point keeps the measured anchor. -/
def routeForArm {K : Type*} [Field K] [LinearOrder K] [FloorRing K] (roots : Roots K)
    (r : RouteRequest) : Except Raised (List RoutePoint) := do
  let (p, start) ← r.check
  p.within start
  let steps := r.steps.getD []
  if steps = [] ∨ steps.length > 64 then .error (invalidTask "bounded nonempty route required")
  else if ∃ i, start (p.arm.otherJoint i) ≠ p.hold i then
    .error (invalidTask "opposite hold differs from measured anchor")
  else do
    let route ← steps.foldlM (p.advance roots) (start, [⟨p.intervalMs, start⟩])
    return route.2

end MobileBimanual.Tasks
