/-
# Scan sessions

`ScanManager` of `assistant/scanning.py`: a session takes in maps and captures, proposes regions and
builds the map to travel by, is reviewed by the user and then saved or discarded.

Every operation reads the record of a session, works on a copy and writes it back as its last step,
so what is refused changes nothing.  Digests of documents are given, and so is what the JSON of a
record may hold.
-/
import MobileBimanual.Tasks.NavigationFusion
import MobileBimanual.Tasks.ScanRegions
import MobileBimanual.Tasks.WorldStore

namespace MobileBimanual.Tasks

/-! ## 1. Sessions -/

inductive ScanStatus where
  | scanning | paused | review | saved | discarded
  deriving DecidableEq

inductive ScanMode where
  | simulation | replay
  deriving DecidableEq

/-- What was seen from a place; `observe` takes it in. -/
structure ScanCapture where
  stamp : Stamp
  x : ℚ
  y : ℚ
  categories : List String
  surfaceIds : List String
  deriving DecidableEq

structure ScanCaptureDocument where
  stamp : StampDocument
  xy : List Scalar
  categories : List String
  surfaceIds : List String

/-- Where the map to travel by comes from. -/
structure NavigationBuild where
  sourceMapHash : String
  navigationMapHash : String
  calibrationId : String
  depthEpoch : String
  envelope : TravelEnvelope

structure ScanSession where
  sessionId : String
  name : String
  mode : ScanMode
  status : ScanStatus
  reason : String
  context : Context
  mapDocument : Option MapDocument
  captures : List ScanCapture
  regions : List Region
  navigationMapDocument : Option MapDocument
  navigationBuild : Option NavigationBuild
  navigationReady : Bool
  surfaceViews : List String
  roomEntityIds : List String

/-- The session is not over. -/
def ScanSession.Active (s : ScanSession) : Prop :=
  s.status = .scanning ∨ s.status = .paused ∨ s.status = .review

instance (s : ScanSession) : Decidable s.Active := inferInstanceAs (Decidable (_ ∨ _ ∨ _))

/-- A session that nobody has written to. -/
def ScanSession.begun (sessionId name : String) (mode : ScanMode) (context : Context) :
    ScanSession where
  sessionId
  name
  mode
  status := .scanning
  reason := ""
  context
  mapDocument := none
  captures := []
  regions := []
  navigationMapDocument := none
  navigationBuild := none
  navigationReady := false
  surfaceViews := []
  roomEntityIds := []

/-- The server was stopped while the session was scanning. -/
def ScanSession.halt (s : ScanSession) : ScanSession :=
  if s.status = .scanning then { s with status := .paused, reason := "server_restarted" } else s

/-- What belongs to the map before is dropped. -/
def ScanSession.remap (s : ScanSession) (document : MapDocument) (nav : NavigationMap) :
    ScanSession :=
  { s with
    captures := if s.mapDocument.isSome then [] else s.captures
    surfaceViews := if s.mapDocument.isSome then [] else s.surfaceViews
    mapDocument := some document
    navigationMapDocument := none
    navigationBuild := none
    navigationReady := false
    regions := nav.proposeRegions 1 3 }

def ScanSession.navigate (s : ScanSession) (document : MapDocument) (build : NavigationBuild) :
    ScanSession :=
  { s with
    navigationMapDocument := some document
    navigationBuild := some build
    navigationReady := true }

/-- Digests of the JSON of documents, each as far as it is used. -/
structure ScanDigests where
  /-- Of the session, its context and its map. -/
  depth : String → Context → MapDocument → String
  map : MapDocument → String
  /-- Of the source map, the rows, the envelope and the calibration. -/
  body : MapDocument → List String → TravelEnvelope → String → String
  /-- Of the session and the region. -/
  room : String → String → String
  /-- The record can be encoded. -/
  encodes : ScanSession → Bool

/-! ## 2. The manager -/

structure ScanManager where
  context : Context
  sessions : AList fun _ : String => ScanSession
  world : WorldStore

namespace ScanManager

variable (digests : ScanDigests) (m : ScanManager)

def active : List ScanSession := (m.sessions.entries.map (·.2)).filter fun s => s.Active

/-- The server starts with the sessions that are stored. -/
def restart (context : Context) : ScanManager where
  context
  sessions := ⟨m.sessions.entries.map fun e => ⟨e.1, e.2.halt⟩, by
    have hkeys : (m.sessions.entries.map fun e =>
        (⟨e.1, e.2.halt⟩ : Sigma fun _ : String => ScanSession)).map Sigma.fst =
          m.sessions.entries.map Sigma.fst := by
      rw [List.map_map]
      rfl
    unfold List.NodupKeys List.keys
    rw [hkeys]
    exact m.sessions.nodupKeys⟩
  world := m.world

def get (sessionId : String) : Except Raised ScanSession := do
  let sessionId ← identifier "session_id" sessionId
  match m.sessions.lookup sessionId with
  | none => .error (invalidTask "unknown_scan")
  | some s => .ok s

/-- `save_record`. -/
def saveRecord (s : ScanSession) : Except Raised (ScanManager × ScanSession) :=
  if digests.encodes s then .ok ({ m with sessions := m.sessions.insert s.sessionId s }, s)
  else .error (invalidTask "document too large")

def start (sessionId name : String) (mode : Option ScanMode) (busy : Bool) :
    Except Raised (ScanManager × ScanSession) := do
  let sessionId ← identifier "session_id" sessionId
  let name ← text "scan name" 80 name
  match mode with
  | none => .error (invalidTask "live_scan_adapter_not_commissioned")
  | some mode =>
    match m.sessions.lookup sessionId with
    | some previous =>
      if (previous.name, previous.mode) ≠ (name, mode) then .error (invalidTask "scan_id_conflict")
      else .ok (m, previous)
    | none =>
      if busy ∨ m.active ≠ [] then .error (invalidTask "robot_or_scan_busy")
      else if 64 ≤ m.sessions.entries.length then .error (invalidTask "scan_history_full")
      else m.saveRecord digests (.begun sessionId name mode m.context)

def pause (sessionId : String) : Except Raised (ScanManager × ScanSession) := do
  let s ← m.get sessionId
  if s.status ≠ .scanning ∧ s.status ≠ .paused then .error (invalidTask "scan_not_scanning")
  else m.saveRecord digests { s with status := .paused, reason := "user_paused" }

def resume (sessionId : String) (busy : Bool) : Except Raised (ScanManager × ScanSession) := do
  let s ← m.get sessionId
  if (s.status ≠ .scanning ∧ s.status ≠ .paused) ∨ busy then
    .error (invalidTask "scan_cannot_resume")
  else if s.context ≠ m.context then .error (invalidTask "scan_context_changed_start_new_session")
  else m.saveRecord digests { s with status := .scanning, reason := "" }

def ingestMap (sessionId : String) (document : MapDocument) :
    Except Raised (ScanManager × ScanSession) := do
  let s ← m.get sessionId
  if s.status ≠ .scanning then .error (invalidTask "scan_not_scanning")
  else do
    let nav ← NavigationMap.create document
    if (nav.mapId, nav.document.frameId) ≠ (m.context.mapId, m.context.frameId) then
      .error (invalidTask "scan_map_frame_mismatch")
    else if s.mapDocument = some document then .ok (m, s)
    -- Only the map before this one is looked at.
    else if s.mapDocument.any (·.revision = nav.revision) then
      .error (invalidTask "map_revision_reused")
    else m.saveRecord digests (s.remap document nav)

/-- The epoch of the depth that belongs to a session with this map. -/
def epochOf (s : ScanSession) (document : MapDocument) : String :=
  "scan-depth-" ++ digests.depth s.sessionId s.context document

def depthEpoch (sessionId : String) : Except Raised String := do
  let s ← m.get sessionId
  match s.mapDocument with
  | none => .error (invalidTask "scanning_map_required")
  | some document => .ok (epochOf digests s document)

/-- The fused map under a revision of its own. -/
def bodyMap (source : MapDocument) (envelope : TravelEnvelope) (calibrationId : String)
    (fused : FusedMap) : MapDocument :=
  { fused.document with
    revision := "body-map-" ++ digests.body source fused.document.rows envelope calibrationId }

def buildOf (source document : MapDocument) (envelope : TravelEnvelope) (fused : FusedMap) :
    NavigationBuild where
  sourceMapHash := digests.map source
  navigationMapHash := digests.map document
  calibrationId := fused.calibrationId
  depthEpoch := fused.depthEpoch
  envelope

def buildNavigation (sessionId : String) (volume : DepthVolume) (envelope : TravelEnvelope)
    (now : Scalar) (busy : Bool) : Except Raised (ScanManager × ScanSession) := do
  let s ← m.get sessionId
  if s.status ≠ .scanning ∨ s.mapDocument.isNone ∨ busy then
    .error (invalidTask "idle_scanning_map_required")
  else if s.context ≠ m.context then .error (invalidTask "scan_context_changed_start_new_session")
  else do
    let epoch ← m.depthEpoch digests sessionId
    match s.mapDocument with
    | none => .error (invalidTask "idle_scanning_map_required")
    | some source =>
      let fused ← fuseNavigationMap source volume envelope m.context.calibrationId epoch
        "scan-projection-candidate" now (some .globalRouteProposal)
      let document := bodyMap digests source envelope m.context.calibrationId fused
      m.saveRecord digests (s.navigate document (buildOf digests source document envelope fused))

/-- `navigation_document`, where it is not required. -/
def navigationDocument (sessionId : String) : Except Raised (Option MapDocument) := do
  let s ← m.get sessionId
  match s.navigationMapDocument, s.navigationBuild, s.navigationReady with
  | some nav, some build, true =>
    let epoch ← m.depthEpoch digests sessionId
    if s.mapDocument.any (build.sourceMapHash ≠ digests.map ·) ∨
        build.navigationMapHash ≠ digests.map nav ∨ build.calibrationId ≠ m.context.calibrationId ∨
        build.depthEpoch ≠ epoch then
      .error (invalidTask "scan_navigation_provenance_mismatch")
    else do
      let _ ← NavigationMap.create nav
      return some nav
  | _, _, _ => return none

def ScanCaptureDocument.parse (d : ScanCaptureDocument) (expected : Context) (now : Scalar) :
    Except Raised ScanCapture := do
  let stamp ← d.stamp.parse
  stamp.check expected now 5
  match d.xy with
  | [x, y] =>
    let x ← finite "scan coordinate" (some (-10000)) (some 10000) x
    let y ← finite "scan coordinate" (some (-10000)) (some 10000) y
    if 32 < d.categories.length ∨ 32 < d.surfaceIds.length then
      .error (invalidTask "bounded scan evidence required")
    else do
      d.categories.forM fun c => do let _ ← text "category" 80 c
      d.surfaceIds.forM fun s => do let _ ← identifier "surface_id" s
      return ⟨stamp, x, y, d.categories, d.surfaceIds⟩
  | _ => .error (invalidTask "scan XY required")

/-- What is seen in a region speaks for what it is, unless the user has said so. -/
def classifyRegion (cell : Cell) (categories : List String) (r : Region) : Region :=
  if cell ∈ r.cells ∧ ¬ r.classification.userConfirmed then
    { r with classification := inferRoom (r.classification.evidence ++ categories) }
  else r

def observe (sessionId : String) (d : ScanCaptureDocument) (now : Scalar) :
    Except Raised (ScanManager × ScanSession) := do
  let s ← m.get sessionId
  match s.status, s.mapDocument with
  | .scanning, some document =>
    let expected := ⟨m.context.mapId, document.revision, m.context.calibrationId, m.context.clockId,
      m.context.frameId⟩
    let capture ← ScanCaptureDocument.parse d expected now
    match s.captures.find? (·.stamp.captureId = capture.stamp.captureId) with
    | some old =>
      if old ≠ capture then .error (invalidTask "capture_id_conflict") else .ok (m, s)
    | none =>
      if 256 ≤ s.captures.length then .error (invalidTask "scan_capture_budget_exceeded")
      else do
        let nav ← NavigationMap.create document
        let cell := nav.cellOf capture.x capture.y
        if ¬ nav.Inside cell ∨ nav.observedAt cell ≠ '.' then
          .error (invalidTask "scan_pose_not_observed_free_space")
        else m.saveRecord digests { s with
          captures := s.captures ++ [capture]
          regions := s.regions.map (classifyRegion cell capture.categories)
          surfaceViews := (s.surfaceViews ++ capture.surfaceIds).dedup.insertionSort (· ≤ ·) }
  | _, _ => .error (invalidTask "scanning_map_required")

def review (sessionId : String) : Except Raised (ScanManager × ScanSession) := do
  let s ← m.get sessionId
  if ¬ s.Active ∨ s.mapDocument.isNone then .error (invalidTask "map_required_for_review")
  else m.saveRecord digests { s with status := .review }

/-- The first region of the name has the label that the user gives it. -/
def confirmRegion (regionId label : String) : List Region → List Region
  | [] => []
  | r :: rest =>
    if r.regionId = regionId then
      { r with classification := { r.classification with
          label := some label, userConfirmed := true, status := .confirmed } } :: rest
    else r :: confirmRegion regionId label rest

def label (sessionId regionId label : String) : Except Raised (ScanManager × ScanSession) := do
  let s ← m.get sessionId
  if s.status ≠ .review then .error (invalidTask "scan_review_required")
  else if ¬ s.regions.any (·.regionId = regionId) then .error (invalidTask "unknown_region")
  else do
    let label ← text "region label" 80 label
    m.saveRecord digests { s with regions := confirmRegion regionId label s.regions }

/-- The maps of a session are published; a revision that is known is the same map. -/
def publishMaps (maps : AList fun _ : String × String => NavigationMap) :
    List MapDocument → Except Raised (AList fun _ : String × String => NavigationMap)
  | [] => .ok maps
  | document :: rest => do
    let nav ← NavigationMap.create document
    match maps.lookup (document.mapId, document.revision) with
    | some old =>
      if old.document ≠ document then .error (invalidTask "map_revision_reused")
      else publishMaps maps rest
    | none => publishMaps (maps.insert (document.mapId, document.revision) nav) rest

/-- The rooms are new entities. -/
def publishRooms (entities : AList fun _ : String => Entity) :
    List Entity → Except Raised (AList fun _ : String => Entity)
  | [] => .ok entities
  | room :: rest =>
    if room.entityId ∈ entities then
      .error ⟨"IntegrityError", "UNIQUE constraint failed: assistant_entities.id"⟩
    else publishRooms (entities.insert room.entityId room) rest

/-- The room of a region, as far as it is known. -/
def roomRecord (lower : String → String) (s : ScanSession) (nav : NavigationMap) (index : ℕ)
    (r : Region) : Except Raised Entity :=
  let known := r.classification.label
  let digest := digests.room s.sessionId r.regionId
  entity lower {
    entityId := "room-" ++ digest
    kind := some .room
    label := orElse (known.getD "") s!"구역 {index}"
    category := orElse (known.getD "") "unknown"
    aliases := []
    attributes := []
    roomId := none
    supportId := none
    position := some [.finite r.centerX, .finite r.centerY, .finite nav.floorZ]
    extent := none
    geometryKind := some .bboxCenter
    state := some (if r.classification.userConfirmed then .observed else .unconfirmed)
    source := some (if s.mode = .simulation then .simulation
      else if r.classification.userConfirmed then .user else .inferred)
    stamp :=
      { observed := .finite ((s.captures.map (·.stamp.observed)).foldl max 0)
        context := ⟨m.context.mapId, nav.revision, m.context.calibrationId, m.context.clockId,
          m.context.frameId⟩
        captureId := "scan-" ++ digest }
    revision := 1 }

variable (lower : String → String)

/-- `save`: the maps, the rooms and the session are written together. -/
def save (sessionId : String) (busy : Bool) : Except Raised (ScanManager × ScanSession) := do
  let s ← m.get sessionId
  if s.status = .saved then .ok (m, s)
  else if s.status ≠ .review ∨ busy then .error (invalidTask "idle_review_required")
  else do
    let navigation ← m.navigationDocument digests sessionId
    match s.mapDocument with
    | none => .error (invalidTask "invalid navigation map")
    | some source =>
      let nav ← NavigationMap.create (navigation.getD source)
      let rooms ← s.regions.zipIdx.mapM fun (r, i) => m.roomRecord digests lower s nav (i + 1) r
      let saved := { s with
        status := .saved
        reason := ""
        navigationReady := navigation.isSome
        roomEntityIds := rooms.map (·.entityId) }
      let maps ← publishMaps m.world.maps (source :: navigation.toList)
      let entities ← publishRooms m.world.entities rooms
      let (written, saved) ← m.saveRecord digests saved
      return ({ written with world := ⟨maps, entities⟩ }, saved)

def discard (sessionId : String) : Except Raised (ScanManager × ScanSession) := do
  let s ← m.get sessionId
  if s.status = .saved then .error (invalidTask "saved_map_is_immutable")
  else m.saveRecord digests { s with
    status := .discarded
    captures := []
    surfaceViews := []
    regions := []
    mapDocument := none
    navigationMapDocument := none
    navigationBuild := none
    navigationReady := false }

end ScanManager

end MobileBimanual.Tasks
