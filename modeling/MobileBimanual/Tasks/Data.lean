/-
# What the task layer passes around

Numbers as they come in, the exceptions of the task code and of what it calls, voxels, feedback with
its stamp and its conditions, the results of ports, and the lease of the robot.

The clock is a rational number of seconds.
-/
import Mathlib.Data.Rat.Defs
import Mathlib.Algebra.Order.Ring.Rat
import Mathlib.Data.List.Basic

namespace MobileBimanual.Tasks

/-- An exception: the name of its type and its text. -/
structure Raised where
  type : String
  text : String
  deriving DecidableEq

def invalidTask (text : String) : Raised := ⟨"InvalidTask", text⟩

def keyError (goal : String) : Raised := ⟨"KeyError", "'" ++ goal ++ "'"⟩

/-! ## 1. Numbers -/

/-- What a field that should hold a number may hold. -/
inductive Scalar where
  | notNumeric
  | boolean
  /-- An integer beyond every float. -/
  | tooLarge
  | notFinite
  | finite (value : ℚ)
  deriving DecidableEq

/-- `_seconds`. -/
def seconds (field : String) : Scalar → Except Raised ℚ
  | .tooLarge => .error (invalidTask s!"{field} is too large")
  | .finite value =>
    if value < 0 then .error (invalidTask s!"{field} must be finite nonnegative seconds")
    else .ok value
  | _ => .error (invalidTask s!"{field} must be finite nonnegative seconds")

def number (field : String) : Scalar → Except Raised ℚ
  | .notNumeric | .boolean => .error (invalidTask s!"{field} must be finite numeric")
  | .tooLarge => .error (invalidTask s!"{field} is too large")
  | .notFinite => .error (invalidTask s!"invalid {field}")
  | .finite value =>
    if |value| > 1000000 then .error (invalidTask s!"invalid {field}") else .ok value

/-- The number that a checked field holds. -/
def Scalar.value : Scalar → ℚ
  | .finite value => value
  | _ => 0

variable {field : String}

theorem seconds_eq_ok {scalar : Scalar} {value : ℚ} (h : seconds field scalar = .ok value) :
    scalar = .finite value ∧ 0 ≤ value := by
  unfold seconds at h
  split at h
  · cases h
  · split at h
    next => cases h
    next hnot =>
      cases h
      exact ⟨rfl, not_lt.mp hnot⟩
  · cases h

theorem number_eq_ok {scalar : Scalar} {value : ℚ} (h : number field scalar = .ok value) :
    scalar = .finite value := by
  unfold number at h
  split at h
  · cases h
  · cases h
  · cases h
  · cases h
  · split at h
    · cases h
    · cases h
      rfl

def identifierChar (c : Char) : Bool :=
  ('A' ≤ c ∧ c ≤ 'Z') || ('a' ≤ c ∧ c ≤ 'z') || ('0' ≤ c ∧ c ≤ '9') || c ∈ ['_', '.', ':', '-']

def identifier (field value : String) : Except Raised String :=
  if 1 ≤ value.length ∧ value.length ≤ 96 ∧ value.toList.all identifierChar then .ok value
  else .error (invalidTask s!"invalid {field}")

theorem identifier_eq_ok {value value' : String} (h : identifier field value = .ok value') :
    value' = value ∧ value.toList.all identifierChar = true := by
  unfold identifier at h
  by_cases hvalid : 1 ≤ value.length ∧ value.length ≤ 96 ∧ value.toList.all identifierChar = true
  · rw [if_pos hvalid] at h
    exact ⟨(Except.ok.inj h).symm, hvalid.2.2⟩
  · rw [if_neg hvalid] at h
    cases h

/-! ## 2. Voxels -/

structure Voxel where
  x : ℤ
  y : ℤ
  z : ℤ
  deriving DecidableEq

namespace Voxel

inductive Axis where
  | x | y | z
  deriving DecidableEq

def along (axis : Axis) (c : Voxel) : ℤ :=
  match axis with
  | .x => c.x
  | .y => c.y
  | .z => c.z

/-- The order of the tuples. -/
def Le (a b : Voxel) : Prop := a.x < b.x ∨ a.x = b.x ∧ (a.y < b.y ∨ a.y = b.y ∧ a.z ≤ b.z)

instance : DecidableRel Le := fun a b => inferInstanceAs (Decidable (a.x < b.x ∨ a.x = b.x ∧ _))

end Voxel

/-! ## 3. Feedback -/

/-- The status of a feedback or the state of a port; `other` is any other text. -/
inductive Status where
  | ready | running | succeeded | failed | stopped | cancelled | other
  deriving DecidableEq

/-- A backend that has come to its end. -/
def Status.Terminal (status : Status) : Prop :=
  status = .succeeded ∨ status = .failed ∨ status = .cancelled

instance (status : Status) : Decidable status.Terminal := inferInstanceAs (Decidable (_ ∨ _ ∨ _))

abbrev Conditions := List (String × Bool)

structure Feedback where
  goalId : String
  observed : Scalar
  status : Status
  conditions : Conditions
  reason : String

/-- Every key is there, and true. -/
def Conditions.Satisfy (conditions : Conditions) (keys : List String) : Prop :=
  ∀ key ∈ keys, conditions.lookup key = some true

instance (conditions : Conditions) (keys : List String) : Decidable (conditions.Satisfy keys) :=
  inferInstanceAs (Decidable (∀ _ ∈ _, _))

structure PortResult where
  state : Status
  reason : String

/-- The state of a goal that a port has taken on. -/
inductive EntryStatus where
  | running | succeeded | failed | cancelled
  deriving DecidableEq

def EntryStatus.status : EntryStatus → Status
  | .running => .running
  | .succeeded => .succeeded
  | .failed => .failed
  | .cancelled => .cancelled

/-- Where a stop may lead. -/
inductive StopDestination where
  | failed | cancelled

def StopDestination.entryStatus : StopDestination → EntryStatus
  | .failed => .failed
  | .cancelled => .cancelled

theorem StopDestination.entryStatus_ne (destination : StopDestination) :
    destination.entryStatus ≠ .running := by
  cases destination <;> exact nofun

/-- A text, or what stands for an empty one. -/
def orElse (text default : String) : String := if text = "" then default else text

/-! ## 4. The lease -/

structure TaskLease where
  owner : Option String

namespace TaskLease

def acquire (lease : TaskLease) (owner : String) : Except Raised TaskLease :=
  if lease.owner.isSome then .error (invalidTask "robot_busy") else .ok ⟨some owner⟩

def release (lease : TaskLease) (owner : String) : Except Raised TaskLease :=
  if lease.owner ≠ some owner then .error (invalidTask "wrong_task_owner") else .ok ⟨none⟩

end TaskLease

end MobileBimanual.Tasks
