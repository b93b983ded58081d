/-
# The memory of the furniture

`FurnitureMemory` of `assistant/furniture.py`: observations, each a set of voxels, and the instances
that they are associated with, each the voxels of its observations.

An observation goes to the one instance of its kind that it overlaps with, or begins a new one, or
stays ambiguous.  The name of a new instance is that of the observation, `fobs-` replaced.
-/
import Mathlib.Data.List.Sort
import MobileBimanual.Tasks.WorldStore

namespace MobileBimanual.Tasks

/-! ## 1. Observations -/

/-- Three integers within bounds; nothing stands for what is no integer. -/
def Voxel.parse : List (Option ℤ) → Except Raised Voxel
  | [some x, some y, some z] =>
    if |x| ≤ 500000 ∧ |y| ≤ 500000 ∧ |z| ≤ 500000 then .ok ⟨x, y, z⟩
    else .error (invalidTask "bounded unique observed voxels required")
  | _ => .error (invalidTask "bounded unique observed voxels required")

/-- `FURNITURE_CATEGORIES`. -/
inductive FurnitureCategory where
  | bed | sofa | desk | table | coffeeTable | chair | wardrobe | bookshelf | nightstand | cabinet
  deriving DecidableEq

inductive FurnitureSource where
  | measured | simulation
  deriving DecidableEq

/-- An observation as it is handed in; nothing stands for a text that names no category or source. -/
structure FurnitureDocument where
  observationId : String
  category : Option FurnitureCategory
  detectorScore : Scalar
  stamp : StampDocument
  source : Option FurnitureSource
  voxelSize : Scalar
  observedVoxels : List (List (Option ℤ))
  extentComplete : Bool
  depthValidFraction : Scalar

structure FurnitureObservation where
  observationId : String
  category : FurnitureCategory
  detectorScore : ℚ
  stamp : Stamp
  source : FurnitureSource
  voxelSize : ℚ
  observedVoxels : List Voxel
  depthValidFraction : ℚ
  size_pos : 0 < voxelSize
  nodup : observedVoxels.Nodup
  bounded : 4 ≤ observedVoxels.length ∧ observedVoxels.length ≤ 4096
  deriving DecidableEq

/-- `_validated`. -/
def validated (context : Context) (now : Scalar) (d : FurnitureDocument) :
    Except Raised FurnitureObservation := do
  let observationId ← identifier "furniture observation" d.observationId
  let stamp ← d.stamp.parse
  stamp.check context now 5
  match d.category, d.source, d.extentComplete with
  | some category, some source, false =>
    let detectorScore ← finite "score" (some 0) (some 1) d.detectorScore
    let depthValidFraction ←
      finite "valid depth fraction" (some (1 / 4)) (some 1) d.depthValidFraction
    let voxelSize ← finite "voxel size" (some (1 / 50)) (some (1 / 5)) d.voxelSize
    let cells ← d.observedVoxels.mapM Voxel.parse
    if h : 0 < voxelSize ∧ cells.Nodup ∧ 4 ≤ cells.length ∧ cells.length ≤ 4096 then
      return ⟨observationId, category, detectorScore, stamp, source, voxelSize, cells,
        depthValidFraction, h.1, h.2.1, h.2.2⟩
    else .error (invalidTask "bounded unique observed voxels required")
  | _, _, _ => .error (invalidTask "invalid furniture provenance or extent")

/-! ## 2. Instances -/

structure FurnitureInstance where
  instanceId : String
  category : FurnitureCategory
  context : Context
  source : FurnitureSource
  voxelSize : ℚ
  observedVoxels : List Voxel
  boundsMin : Voxel.Axis → ℚ
  boundsMax : Voxel.Axis → ℚ
  lastObserved : ℚ
  lastCaptureId : String
  observationCount : ℕ

inductive AssociationStatus where
  | associatedEstimate | newEstimate | ambiguous
  deriving DecidableEq

structure Association where
  status : AssociationStatus
  instanceId : Option String
  candidateIds : List String
  deriving DecidableEq

/-- `fobs-` replaced wherever it stands. -/
def replaceFobs : List Char → List Char
  | 'f' :: 'o' :: 'b' :: 's' :: '-' :: rest => "furniture-".toList ++ replaceFobs rest
  | c :: rest => c :: replaceFobs rest
  | [] => []

/-- The name of the instance that begins with an observation. -/
def derivedId (key : String) : String := String.ofList (replaceFobs key.toList)

namespace FurnitureObservation

/-- The overlap is large for the smaller of both. -/
def Overlaps (obs : FurnitureObservation) (previous : FurnitureInstance) : Prop :=
  ((obs.observedVoxels.filter (· ∈ previous.observedVoxels)).length : ℚ) /
    (min obs.observedVoxels.length previous.observedVoxels.length : ℕ) ≥ 35 / 100

/-- The instance may be what is observed. -/
def Matches (obs : FurnitureObservation) (previous : FurnitureInstance) : Prop :=
  (previous.category, previous.source, previous.voxelSize) =
    (obs.category, obs.source, obs.voxelSize) ∧ obs.Overlaps previous

instance (obs : FurnitureObservation) (previous : FurnitureInstance) :
    Decidable (obs.Overlaps previous) :=
  inferInstanceAs (Decidable (_ ≥ _))

instance (obs : FurnitureObservation) (previous : FurnitureInstance) :
    Decidable (obs.Matches previous) :=
  inferInstanceAs (Decidable (_ ∧ _))

/-- The voxels of the observation and of what it goes to. -/
def merged (obs : FurnitureObservation) (previous : Option FurnitureInstance) : List Voxel :=
  obs.observedVoxels ∪ (previous.map (·.observedVoxels)).getD []

/-- The instance that the observation begins, or what becomes of the one it goes to. -/
def accumulate (obs : FurnitureObservation) (context : Context)
    (previous : Option FurnitureInstance) : FurnitureInstance where
  instanceId := (previous.map (·.instanceId)).getD (derivedId obs.observationId)
  category := obs.category
  context
  source := obs.source
  voxelSize := obs.voxelSize
  observedVoxels := (obs.merged previous).insertionSort Voxel.Le
  boundsMin axis := (((obs.merged previous).map (·.along axis)).min?.getD 0 : ℤ) * obs.voxelSize
  boundsMax axis :=
    ((((obs.merged previous).map (·.along axis)).max?.getD 0 : ℤ) + 1) * obs.voxelSize
  lastObserved := obs.stamp.observed
  lastCaptureId := obs.stamp.captureId
  observationCount := (previous.map (·.observationCount)).getD 0 + 1

end FurnitureObservation

/-! ## 3. The memory -/

structure FurnitureMemory where
  observations : AList fun _ : String => FurnitureObservation × Association
  instances : AList fun _ : String => FurnitureInstance

namespace FurnitureMemory

def empty : FurnitureMemory := ⟨∅, ∅⟩

/-- `instances`: those of the context, by their place. -/
def instancesIn (m : FurnitureMemory) (context : Context) : List FurnitureInstance :=
  (m.instances.entries.map (·.2)).filter fun v => v.context.place = context.place

def candidates (m : FurnitureMemory) (context : Context) (obs : FurnitureObservation) :
    List FurnitureInstance :=
  (m.instancesIn context).filter fun previous => obs.Matches previous

/-- What is stored for the observation, given the one it goes to, if any. -/
def instanceFor (m : FurnitureMemory) (context : Context) (obs : FurnitureObservation)
    (previous : Option FurnitureInstance) : Except Raised FurnitureInstance :=
  if previous.any fun p =>
      p.context.clockId = context.clockId ∧ obs.stamp.observed < p.lastObserved then
    .error (invalidTask "out_of_order_furniture_observation")
  else if previous.isNone ∧ 128 ≤ (m.instancesIn context).length then
    .error (invalidTask "furniture_instance_budget_exceeded")
  else if 16384 < (obs.merged previous).length then
    .error (invalidTask "furniture_instance_geometry_budget_exceeded")
  else .ok (obs.accumulate context previous)

/-- The observation and the geometry are written together. -/
def write (m : FurnitureMemory) (obs : FurnitureObservation) (result : Association)
    (stored : Option FurnitureInstance) : FurnitureMemory where
  observations := m.observations.insert obs.observationId (obs, result)
  instances := stored.elim m.instances fun v => m.instances.insert v.instanceId v

def candidateIds (candidates : List FurnitureInstance) : List String :=
  (candidates.map (·.instanceId)).insertionSort (· ≤ ·)

/-- The observation is associated with what matches it. -/
def associate (m : FurnitureMemory) (context : Context) (obs : FurnitureObservation)
    (candidates : List FurnitureInstance) : FurnitureMemory × Except Raised Association :=
  if candidates.length ≤ 1 then
    match m.instanceFor context obs candidates.head? with
    | .error raised => (m, .error raised)
    | .ok stored =>
      let status := if candidates = [] then .newEstimate else .associatedEstimate
      let result := ⟨status, some stored.instanceId, candidateIds candidates⟩
      (m.write obs result (some stored), .ok result)
  else
    let result := ⟨.ambiguous, none, candidateIds candidates⟩
    (m.write obs result none, .ok result)

def observe (m : FurnitureMemory) (context : Context) (now : Scalar) (d : FurnitureDocument) :
    FurnitureMemory × Except Raised Association :=
  match validated context now d with
  | .error raised => (m, .error raised)
  | .ok obs =>
    match m.observations.lookup obs.observationId with
    | some (old, association) =>
      if old ≠ obs then (m, .error (invalidTask "furniture_observation_id_conflict"))
      else (m, .ok association)
    | none =>
      if 256 ≤ m.observations.entries.length then
        (m, .error (invalidTask "furniture_observation_budget_exceeded"))
      else m.associate context obs (m.candidates context obs)

end FurnitureMemory

end MobileBimanual.Tasks
