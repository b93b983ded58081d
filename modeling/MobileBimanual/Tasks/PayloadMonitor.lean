/-
# Proof of what the gripper holds

`PayloadMonitor` of `payload_monitor.py`: two streams of samples, from the gripper and from a camera,
that arrive between the polls; a state counts as proven when fresh pairs of samples have shown it
for the dwell time.

An exception leaves behind what the handlers of the source leave: the functions return the monitor
with or without it.
-/
import MobileBimanual.Tasks.Data

namespace MobileBimanual.Tasks

/-! ## 1. Samples -/

structure GripDocument where
  sequence : Option ℤ
  observed : Scalar
  gap : Scalar
  effort : Scalar
  healthy : Bool

/-- A measurement that was accepted. -/
structure GripMeasurement where
  sequence : ℤ
  observed : ℚ
  gap : ℚ
  effort : ℚ
  healthy : Bool

inductive Relation where
  | held | empty | unknown
  deriving DecidableEq

structure PayloadDocument where
  sequence : Option ℤ
  observed : Scalar
  objectId : String
  /-- Nothing for any other text. -/
  relation : Option Relation
  destination : Option String
  objectAtDestination : Bool
  cameraFrame : String

/-- An observation that was accepted. -/
structure PayloadObservation where
  sequence : ℤ
  observed : ℚ
  objectId : String
  relation : Relation
  destination : Option String
  objectAtDestination : Bool
  cameraFrame : String

inductive PayloadState where
  | held | empty | released
  deriving DecidableEq

/-- The conditions of a proof, of nothing if it is not verified. -/
def PayloadState.conditions (state : Option PayloadState) : Conditions :=
  [("grasp_verified", state == some .held), ("load_retained", state == some .held),
    ("release_verified", state == some .released),
    ("gripper_empty", state == some .empty || state == some .released),
    ("gripper_open", state == some .empty || state == some .released),
    ("payload_safe", state.isSome)]

structure PayloadProof where
  state : Option PayloadState
  observed : ℚ
  conditions : Conditions
  deriving DecidableEq

inductive Intent where
  | unknown | empty | grasp | release
  deriving DecidableEq

/-! ## 2. The monitor -/

/-- The commissioned thresholds. -/
structure PayloadLimits where
  gapMin : ℚ
  gapMax : ℚ
  openGap : ℚ
  effortMin : ℚ
  effortMax : ℚ
  emptyEffort : ℚ
  age : ℚ
  skew : ℚ
  dwell : ℚ
  cameraFrames : Option (List String)
  gaps : 0 < gapMin ∧ gapMin < gapMax ∧ gapMax < openGap
  efforts : 0 ≤ emptyEffort ∧ emptyEffort < effortMin ∧ effortMin < effortMax
  times : 0 < skew ∧ skew ≤ age ∧ age ≤ 2 ∧ 0 < dwell ∧ dwell ≤ 2

def checkFrames : Option (List String) → Except Raised Unit
  | none => .ok ()
  | some frames =>
    if frames = [] ∨ ¬ frames.Nodup then
      .error (invalidTask "explicit distinct payload camera frames required")
    else frames.forM fun frame => do let _ ← identifier "payload camera" frame

def PayloadLimits.create (gapMin gapMax openGap effortMin effortMax emptyEffort maxAge maxSkew
    dwell : Scalar) (cameraFrames : Option (List String)) : Except Raised PayloadLimits := do
  let gapMin ← number "payload threshold" gapMin
  let gapMax ← number "payload threshold" gapMax
  let openGap ← number "payload threshold" openGap
  let effortMin ← number "payload threshold" effortMin
  let effortMax ← number "payload threshold" effortMax
  let emptyEffort ← number "payload threshold" emptyEffort
  let age ← number "payload threshold" maxAge
  let skew ← number "payload threshold" maxSkew
  let dwell ← number "payload threshold" dwell
  if h : (0 < gapMin ∧ gapMin < gapMax ∧ gapMax < openGap) ∧
      (0 ≤ emptyEffort ∧ emptyEffort < effortMin ∧ effortMin < effortMax) ∧
      0 < skew ∧ skew ≤ age ∧ age ≤ 2 ∧ 0 < dwell ∧ dwell ≤ 2 then do
    checkFrames cameraFrames
    return ⟨gapMin, gapMax, openGap, effortMin, effortMax, emptyEffort, age, skew, dwell,
      cameraFrames, h.1, h.2.1, h.2.2⟩
  else .error (invalidTask "invalid commissioned payload thresholds")

/-- What is expected of the gripper, and since when. -/
structure Expectation where
  intent : Intent
  objectId : Option String
  destination : Option String
  at_ : ℚ

/-- The state that is being followed: `since`, `signature`, `candidate` and `last_pair_stamp`, which
are set and cleared together. -/
structure Track where
  candidate : PayloadState
  since : ℚ
  signature : ℤ × ℤ
  lastPairStamp : ℚ

structure PayloadMonitor where
  limits : PayloadLimits
  grip : Option GripMeasurement
  vision : Option PayloadObservation
  sequences : ℤ × ℤ
  stamps : Option ℚ × Option ℚ
  expectation : Expectation
  track : Option Track
  verified : Bool
  now : ℚ
  carrying : Bool

def GripMeasurement.Shows (limits : PayloadLimits) (g : GripMeasurement) : PayloadState → Prop
  | .held => limits.gapMin ≤ g.gap ∧ g.gap ≤ limits.gapMax ∧ limits.effortMin ≤ g.effort ∧
      g.effort ≤ limits.effortMax
  | .empty | .released => g.gap ≥ limits.openGap ∧ g.effort ≤ limits.emptyEffort

instance (limits : PayloadLimits) (g : GripMeasurement) :
    (state : PayloadState) → Decidable (g.Shows limits state)
  | .held => inferInstanceAs (Decidable (_ ∧ _ ∧ _ ∧ _))
  | .empty => inferInstanceAs (Decidable (_ ∧ _))
  | .released => inferInstanceAs (Decidable (_ ∧ _))

def PayloadObservation.Shows (x : Expectation) (v : PayloadObservation) : PayloadState → Prop
  | .held => v.relation = .held
  | .empty => v.relation = .empty
  | .released => v.relation = .empty ∧ v.destination = x.destination ∧ v.objectAtDestination = true

instance (x : Expectation) (v : PayloadObservation) :
    (state : PayloadState) → Decidable (v.Shows x state)
  | .held => inferInstanceAs (Decidable (_ = _))
  | .empty => inferInstanceAs (Decidable (_ = _))
  | .released => inferInstanceAs (Decidable (_ ∧ _ ∧ _))

/-- A measurement and an observation. -/
structure Pair where
  grip : GripMeasurement
  vision : PayloadObservation

def Pair.stamp (p : Pair) : ℚ := min p.grip.observed p.vision.observed

def Pair.signature (p : Pair) : ℤ × ℤ := (p.grip.sequence, p.vision.sequence)

namespace PayloadMonitor

def init (limits : PayloadLimits) : PayloadMonitor where
  limits
  grip := none
  vision := none
  sequences := (0, 0)
  stamps := (none, none)
  expectation := ⟨.unknown, none, none, 0⟩
  track := none
  verified := false
  now := 0
  carrying := false

/-- `_invalidate`. -/
def invalidate (m : PayloadMonitor) : PayloadMonitor := { m with track := none, verified := false }

/-- `_clock`. -/
def clock (m : PayloadMonitor) (now : Scalar) : PayloadMonitor × Except Raised ℚ :=
  match number "payload clock" now with
  | .error error => (m, .error error)
  | .ok now =>
    if now < m.now then
      ({ m with grip := none, vision := none }.invalidate,
        .error (invalidTask "payload clock moved backwards"))
    else ({ m with now }, .ok now)

/-- What `expect` has to be told. -/
def checkExpect (m : PayloadMonitor) (intent : Intent) (objectId : String)
    (destination : Option String) : Except Raised (String × Option String) :=
  if intent = .unknown then .error (invalidTask "explicit payload intent required")
  else if m.carrying ∧ intent ≠ .release then
    .error (invalidTask "carried object cannot be cleared by a new command")
  else do
    let object ← identifier "payload object" objectId
    if intent = .release then
      if ¬ m.carrying ∨ some object ≠ m.expectation.objectId then
        .error (invalidTask "release requires the verified carried object")
      else do
        let destination ← identifier "payload destination" (destination.getD "")
        return (object, some destination)
    else if destination.isSome then .error (invalidTask "destination only belongs to release")
    else return (object, none)

def expect (m : PayloadMonitor) (intent : Intent) (objectId : String)
    (destination : Option String) (now : Scalar) : PayloadMonitor × Except Raised Unit :=
  match m.clock now with
  | (m, .error error) => (m, .error error)
  | (m, .ok now) =>
    match m.checkExpect intent objectId destination with
    | .error error => (m, .error error)
    | .ok (object, destination) =>
      ({ m with expectation := ⟨intent, some object, destination, now⟩ }.invalidate, .ok ())

/-- `_accept`: the sequence and the stamp of a sample that the stream goes on with. -/
def accept (m : PayloadMonitor) (sequence : Option ℤ) (observed : Scalar) (lastSequence : ℤ)
    (lastStamp : Option ℚ) (now : ℚ) : Except Raised (ℤ × ℚ) := do
  let stamp ← number "payload sample time" observed
  match sequence with
  | none => .error (invalidTask "old, repeated or future payload sample")
  | some sequence =>
    if ¬ (lastSequence < sequence ∧ sequence ≤ 0xFFFFFFFF) ∨ ¬ (0 ≤ stamp ∧ stamp ≤ now) ∨
        now - stamp > m.limits.age ∨ lastStamp.any (decide <| stamp ≤ ·) then
      .error (invalidTask "old, repeated or future payload sample")
    else return (sequence, stamp)

/-- What makes a document a measurement. -/
def checkGrip (m : PayloadMonitor) (document : GripDocument) (now : ℚ) :
    Except Raised GripMeasurement := do
  let gap ← number "gap" document.gap
  if gap < 0 then .error (invalidTask "invalid measured gripper values")
  else do
    let effort ← number "effort" document.effort
    if effort < 0 then .error (invalidTask "invalid measured gripper values")
    else do
      let (sequence, observed) ←
        m.accept document.sequence document.observed m.sequences.1 m.stamps.1 now
      return ⟨sequence, observed, gap, effort, document.healthy⟩

/-- The measurement belies the state that is being followed. -/
def GripBelies (m : PayloadMonitor) (g : GripMeasurement) : Prop :=
  ∃ t ∈ m.track, ¬ (g.healthy = true ∧ g.Shows m.limits t.candidate)

instance (m : PayloadMonitor) (g : GripMeasurement) : Decidable (m.GripBelies g) :=
  inferInstanceAs (Decidable (∃ _ ∈ _, _))

def observeGrip (m : PayloadMonitor) (document : GripDocument) (now : Scalar) :
    PayloadMonitor × Except Raised Unit :=
  match m.clock now with
  | (m, .error error) => (m, .error error)
  | (m, .ok now) =>
    match m.checkGrip document now with
    | .error error => ({ m with grip := none }.invalidate, .error error)
    | .ok g =>
      let m := { m with
        grip := some g
        sequences := (g.sequence, m.sequences.2)
        stamps := (some g.observed, m.stamps.2) }
      (if m.GripBelies g then m.invalidate else m, .ok ())

/-- What makes a document an observation. -/
def checkVision (m : PayloadMonitor) (document : PayloadDocument) (now : ℚ) :
    Except Raised PayloadObservation :=
  match document.relation with
  | none => .error (invalidTask "independent payload observation required")
  | some relation =>
    if m.limits.cameraFrames.any (decide <| document.cameraFrame ∉ ·) then
      .error (invalidTask "unqualified payload camera frame")
    else do
      let _ ← identifier "observed object" document.objectId
      match document.destination with
      | none => pure ()
      | some destination => let _ ← identifier "observed destination" destination
      let (sequence, observed) ←
        m.accept document.sequence document.observed m.sequences.2 m.stamps.2 now
      return ⟨sequence, observed, document.objectId, relation, document.destination,
        document.objectAtDestination, document.cameraFrame⟩

/-- The observation belies the state that is being followed. -/
def VisionBelies (m : PayloadMonitor) (v : PayloadObservation) : Prop :=
  ∃ t ∈ m.track, ¬ (some v.objectId = m.expectation.objectId ∧ v.Shows m.expectation t.candidate)

instance (m : PayloadMonitor) (v : PayloadObservation) : Decidable (m.VisionBelies v) :=
  inferInstanceAs (Decidable (∃ _ ∈ _, _))

def observeVision (m : PayloadMonitor) (document : PayloadDocument) (now : Scalar) :
    PayloadMonitor × Except Raised Unit :=
  match m.clock now with
  | (m, .error error) => (m, .error error)
  | (m, .ok now) =>
    match m.checkVision document now with
    | .error error => ({ m with vision := none }.invalidate, .error error)
    | .ok v =>
      let m := if m.vision.any (decide <| ·.cameraFrame ≠ v.cameraFrame) then m.invalidate else m
      let m := { m with
        vision := some v
        sequences := (m.sequences.1, v.sequence)
        stamps := (m.stamps.1, some v.observed) }
      -- A contradictory sample does not disappear because a good one comes before the next poll.
      (if m.VisionBelies v then m.invalidate else m, .ok ())

def pair (m : PayloadMonitor) : Option Pair := do return ⟨← m.grip, ← m.vision⟩

/-- The pair is one to go by, at the time `now`. -/
def Valid (m : PayloadMonitor) (p : Pair) (now : ℚ) : Prop :=
  p.grip.healthy = true ∧ some p.vision.objectId = m.expectation.objectId ∧
    m.expectation.at_ ≤ p.stamp ∧ now - p.stamp ≤ m.limits.age ∧
    |p.grip.observed - p.vision.observed| ≤ m.limits.skew

instance (m : PayloadMonitor) (p : Pair) (now : ℚ) : Decidable (m.Valid p now) :=
  inferInstanceAs (Decidable (_ ∧ _ ∧ _ ∧ _ ∧ _))

/-- The state that a pair shows, if it is one that the intent can lead to. -/
def stateOf (m : PayloadMonitor) (p : Pair) : Option PayloadState :=
  if (p.grip.Shows m.limits .held ∧ p.vision.Shows m.expectation .held) ∧
      m.expectation.intent ∈ [.grasp, .release] then some .held
  else if (p.grip.Shows m.limits .empty ∧ p.vision.Shows m.expectation .empty) ∧
      m.expectation.intent ∈ [.empty, .grasp] ∧ m.carrying = false then some .empty
  else if (p.grip.Shows m.limits .released ∧ p.vision.Shows m.expectation .released) ∧
      m.expectation.intent = .release then some .released
  else none

/-- The pair begins a new dwell time. -/
def begin (m : PayloadMonitor) (state : PayloadState) (p : Pair) : PayloadMonitor :=
  { m with track := some ⟨state, p.stamp, p.signature, p.stamp⟩, verified := false }

/-- The pair goes on with the state that is being followed. -/
def advance (m : PayloadMonitor) (t : Track) (p : Pair) : PayloadMonitor :=
  -- Both sources must advance: one fresh source does not make a dwell time.
  if t.signature.1 < p.signature.1 ∧ t.signature.2 < p.signature.2 then
    let since := if p.stamp - t.lastPairStamp > m.limits.age then p.stamp else t.since
    { m with track := some ⟨t.candidate, since, p.signature, p.stamp⟩
             verified := decide (p.stamp - since ≥ m.limits.dwell) }
  else m

/-- The bookkeeping of a poll. -/
def follow (m : PayloadMonitor) (p : Pair) (now : ℚ) : PayloadMonitor × Option PayloadState :=
  if m.Valid p now then
    match m.stateOf p with
    | none => (m.invalidate, none)
    | some state =>
      match m.track with
      | none => (m.begin state p, some state)
      | some t => (if t.candidate ≠ state then m.begin state p else m.advance t p, some state)
  else (m.invalidate, none)

/-- What a proof of the state changes, and the proof. -/
def conclude (m : PayloadMonitor) (state : Option PayloadState) (stamp : ℚ) :
    PayloadMonitor × PayloadProof :=
  let shown := if m.verified then state else none
  ({ m with carrying :=
      if shown = some .held then true else if shown = some .released then false else m.carrying },
    ⟨shown, stamp, PayloadState.conditions shown⟩)

def proof (m : PayloadMonitor) (now : Scalar) : PayloadMonitor × Except Raised PayloadProof :=
  match m.clock now with
  | (m, .error error) => (m, .error error)
  | (m, .ok now) =>
    match m.pair with
    | none =>
      let (m, proof) := m.invalidate.conclude none now
      (m, .ok proof)
    | some p =>
      let (m, state) := m.follow p now
      let (m, proof) := m.conclude state p.stamp
      (m, .ok proof)

end PayloadMonitor

end MobileBimanual.Tasks
