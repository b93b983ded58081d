/-
# The memory of the home

`WorldStore` of `assistant/world.py` with the entities of `assistant/contracts.py`: rooms, surfaces
and objects, each observed in a context, that name the room they are in and the surface they are on.

A put checks what the new entity names.  It does not look at the entities that name the one it
replaces (`WorldIntegrity`).
-/
import MobileBimanual.Lib.References
import MobileBimanual.Tasks.NavigationMap

namespace MobileBimanual.Tasks

/-! ## 1. Values -/

/-- `finite`, between bounds. -/
def finite (field : String) (lower upper : Option ℚ) : Scalar → Except Raised ℚ
  | .finite value =>
    if lower.any (value < ·) || upper.any (· < value) then
      .error (invalidTask s!"{field}: outside bounds")
    else .ok value
  | .notFinite => .error (invalidTask s!"{field}: outside bounds")
  | _ => .error (invalidTask s!"{field}: finite number required")

/-- White space that may stand around a text; what is below the blank is refused in any case. -/
def isBlank (c : Char) : Bool :=
  c.toNat ∈ [0x20, 0x85, 0xA0, 0x1680, 0x2028, 0x2029, 0x202F, 0x205F, 0x3000] ||
    (0x2000 ≤ c.toNat && c.toNat ≤ 0x200A)

def strip (value : String) : String :=
  String.ofList (((value.toList.dropWhile isBlank).reverse.dropWhile isBlank).reverse)

def text (field : String) (maximum : ℕ) (value : String) : Except Raised String :=
  if strip value = "" ∨ value.length > maximum ∨ value.toList.any (·.toNat < 32) then
    .error (invalidTask s!"{field}: nonempty bounded text required")
  else .ok (strip value)

def vector (field : String) (value : List Scalar) : Except Raised (List ℚ) :=
  if value.length ≠ 3 then .error (invalidTask s!"{field}: 3 coordinates required")
  else value.mapM (finite field (some (-10000)) (some 10000))

structure Context where
  mapId : String
  mapRevision : String
  calibrationId : String
  clockId : String
  frameId : String
  deriving DecidableEq

def Context.check (c : Context) : Except Raised Unit := do
  let _ ← identifier "map_id" c.mapId
  let _ ← identifier "map_revision" c.mapRevision
  let _ ← identifier "calibration_id" c.calibrationId
  let _ ← identifier "clock_id" c.clockId
  let _ ← identifier "frame_id" c.frameId

/-- The components that must agree where one entity names another. -/
def Context.place (c : Context) : String × String × String × String :=
  (c.mapId, c.mapRevision, c.frameId, c.calibrationId)

structure Stamp where
  observed : ℚ
  context : Context
  captureId : String
  deriving DecidableEq

structure StampDocument where
  observed : Scalar
  context : Context
  captureId : String

/-- `Stamp.parse`. -/
def StampDocument.parse (document : StampDocument) : Except Raised Stamp := do
  document.context.check
  let observed ← finite "observation time" (some 0) none document.observed
  let _ ← identifier "capture_id" document.captureId
  return ⟨observed, document.context, document.captureId⟩

def Stamp.document (stamp : Stamp) : StampDocument :=
  ⟨.finite stamp.observed, stamp.context, stamp.captureId⟩

/-- It was taken in the context, and not long ago. -/
def Stamp.check (stamp : Stamp) (context : Context) (now : Scalar) (maximumAge : ℚ) :
    Except Raised Unit := do
  if stamp.context ≠ context then .error (invalidTask "context_revision_or_clock_mismatch")
  else do
    let now ← finite "now" (some 0) none now
    if 0 ≤ now - stamp.observed ∧ now - stamp.observed ≤ maximumAge then .ok ()
    else .error (invalidTask "stale_or_future_observation")

/-! ## 2. Entities -/

inductive EntityKind where
  | room | surface | object
  deriving DecidableEq

inductive EntityState where
  | observed | unconfirmed | stale | occluded | carried | releasedUnconfirmed | placed
  deriving DecidableEq

inductive EntitySource where
  | sensor | inferred | user | simulation
  deriving DecidableEq

inductive GeometryKind where
  | none | surfacePoint | bboxCenter | supportSurface
  deriving DecidableEq

/-- An entity as it is handed in; nothing stands for a text that names no kind, state or source. -/
structure EntityDocument where
  entityId : String
  kind : Option EntityKind
  label : String
  category : String
  aliases : List String
  attributes : List (String × String)
  roomId : Option String
  supportId : Option String
  position : Option (List Scalar)
  extent : Option (List Scalar)
  geometryKind : Option GeometryKind
  state : Option EntityState
  source : Option EntitySource
  stamp : StampDocument
  revision : ℤ

structure Entity where
  entityId : String
  kind : EntityKind
  label : String
  category : String
  aliases : List String
  /-- In the order of the keys. -/
  attributes : List (String × String)
  roomId : Option String
  supportId : Option String
  position : Option (List ℚ)
  extent : Option (List ℚ)
  geometryKind : GeometryKind
  state : EntityState
  source : EntitySource
  stamp : Stamp
  revision : ℤ
  deriving DecidableEq

/-- An attribute in its place; a later one of the same key stands for it. -/
def setAttribute (key value : String) : List (String × String) → List (String × String)
  | [] => [(key, value)]
  | (k, v) :: rest =>
    if key = k then (key, value) :: rest
    else if key < k then (key, value) :: (k, v) :: rest
    else (k, v) :: setAttribute key value rest

def checkAttributes : List (String × String) → List (String × String) →
    Except Raised (List (String × String))
  | checked, [] => .ok checked
  | checked, (key, value) :: rest => do
    let key ← text "attribute" 40 key
    let value ← text "attribute value" 160 value
    checkAttributes (setAttribute key value checked) rest

/-- What an entity names, if it names something. -/
def checkRelation (field entityId : String) : Option String → Except Raised Unit
  | none => .ok ()
  | some target => do
    let _ ← identifier field target
    if target = entityId then .error (invalidTask "self relation") else .ok ()

def checkVector (field : String) : Option (List Scalar) → Except Raised (Option (List ℚ))
  | none => .ok none
  | some value => some <$> vector field value

/-- What the kind of an entity keeps it from naming. -/
def checkContainment (kind : EntityKind) (roomId supportId : Option String) : Except Raised Unit :=
  if kind = .room ∧ (roomId.isSome ∨ supportId.isSome) then
    .error (invalidTask "room cannot be contained by an entity")
  else if kind = .surface ∧ supportId.isSome then
    .error (invalidTask "surface cannot have an object support")
  else .ok ()

/-- `entity`; `lower` is the lower case of a text. -/
def entity (lower : String → String) (document : EntityDocument) : Except Raised Entity := do
  let _ ← identifier "entity_id" document.entityId
  match document.kind, document.state, document.source with
  | some kind, some state, some source =>
    let label ← text "entity label" 160 document.label
    let category ← text "category" 160 document.category
    if document.aliases.length > 24 then .error (invalidTask "bounded aliases required")
    else
      let aliases ← document.aliases.mapM (text "alias" 160)
      if document.attributes.length > 16 then .error (invalidTask "bounded attributes required")
      else
        let attributes ← checkAttributes [] document.attributes
        checkRelation "room_id" document.entityId document.roomId
        checkRelation "support_id" document.entityId document.supportId
        let position ← checkVector "position_m" document.position
        let extent ← checkVector "extent_m" document.extent
        if extent.any fun extent => extent.any (· ≤ 0) then
          .error (invalidTask "positive extent required")
        else
          match document.geometryKind with
          | none => .error (invalidTask "invalid geometry kind")
          | some geometryKind =>
            if position.isNone ≠ (geometryKind = .none) then
              .error (invalidTask "geometry and position disagree")
            else
              checkContainment kind document.roomId document.supportId
              if document.revision < 1 then
                .error (invalidTask "positive entity revision required")
              else
                let stamp ← document.stamp.parse
                return {
                  entityId := document.entityId
                  kind, label
                  category := lower category
                  aliases := aliases.eraseDups
                  attributes
                  roomId := document.roomId
                  supportId := document.supportId
                  position, extent, geometryKind, state, source, stamp
                  revision := document.revision }
  | _, _, _ => .error (invalidTask "invalid entity kind/state/source")

/-- A stored entity, as it is read and handed in again. -/
def Entity.document (e : Entity) : EntityDocument where
  entityId := e.entityId
  kind := some e.kind
  label := e.label
  category := e.category
  aliases := e.aliases
  attributes := e.attributes
  roomId := e.roomId
  supportId := e.supportId
  position := e.position.map (·.map .finite)
  extent := e.extent.map (·.map .finite)
  geometryKind := some e.geometryKind
  state := some e.state
  source := some e.source
  stamp := e.stamp.document
  revision := e.revision

/-- The context in which an entity was observed, as far as relations go. -/
def Entity.place (e : Entity) : String × String × String × String := e.stamp.context.place

/-! ## 3. The store -/

structure WorldStore where
  maps : AList fun _ : String × String => NavigationMap
  entities : AList fun _ : String => Entity

namespace WorldStore

def empty : WorldStore := ⟨∅, ∅⟩

def get (s : WorldStore) (key : String) : Option Entity := s.entities.lookup key

/-- A revision of a map never changes. -/
def addMap (s : WorldStore) (document : MapDocument) : Except Raised WorldStore := do
  let validated ← NavigationMap.create document
  match s.maps.lookup (validated.mapId, validated.revision) with
  | some old =>
    if old.document ≠ document then .error (invalidTask "map_revision_reused") else .ok s
  | none =>
    return { s with maps := s.maps.insert (validated.mapId, validated.revision) validated }

/-- One of the `_relations`: what is named is of the kind, in the same place, and `agrees`. -/
def checkNamed (s : WorldStore) (e : Entity) (field : String) (kind : EntityKind)
    (agrees : Entity → Bool) : Option String → Except Raised Unit
  | none => .ok ()
  | some target =>
    match s.get target with
    | none => .error (invalidTask s!"invalid {field}")
    | some parent =>
      if parent.kind ≠ kind then .error (invalidTask s!"invalid {field}")
      else if parent.place ≠ e.place then .error (invalidTask "relation_context_mismatch")
      else if ¬ agrees parent then .error (invalidTask "support_room_mismatch")
      else .ok ()

/-- `_relations`. -/
def relations (s : WorldStore) (e : Entity) : Except Raised Unit := do
  s.checkNamed e "room_id" .room (fun _ => true) e.roomId
  s.checkNamed e "support_id" .surface (fun parent => decide (parent.roomId = e.roomId)) e.supportId

/-- The entity was observed on a map that is known, in its frame. -/
def checkMap (s : WorldStore) (e : Entity) : Except Raised Unit :=
  match s.maps.lookup (e.stamp.context.mapId, e.stamp.context.mapRevision) with
  | none => .error (invalidTask "unknown_map_revision")
  | some map =>
    if map.document.frameId ≠ e.stamp.context.frameId then
      .error (invalidTask "entity_map_frame_mismatch")
    else .ok ()

/-- The revision of the entity is the next one. -/
def checkRevision (e : Entity) (expected : Option ℤ) : Option Entity → Except Raised Unit
  | none =>
    if expected.isSome ∨ e.revision ≠ 1 then .error (invalidTask "entity_revision_conflict")
    else .ok ()
  | some previous =>
    if previous.stamp.context = e.stamp.context ∧ e.stamp.observed < previous.stamp.observed then
      .error (invalidTask "out_of_order_observation")
    else if expected ≠ some previous.revision ∨ e.revision ≠ previous.revision + 1 then
      .error (invalidTask "entity_revision_conflict")
    else .ok ()

/-- What a put demands of the entity that it is to store. -/
def admits (s : WorldStore) (e : Entity) (expected : Option ℤ) : Except Raised Unit := do
  s.checkMap e
  s.relations e
  if s.get e.entityId = some e then .ok () else checkRevision e expected (s.get e.entityId)

variable (lower : String → String)

def put (s : WorldStore) (document : EntityDocument) (expected : Option ℤ) :
    Except Raised WorldStore := do
  let e ← entity lower document
  s.admits e expected
  if s.get e.entityId = some e then return s
  else return { s with entities := s.entities.insert e.entityId e }

def aliases (s : WorldStore) (key : String) (aliases : List String) (expected : ℤ) :
    Except Raised WorldStore := do
  let _ ← identifier "entity_id" key
  if expected < 1 then .error (invalidTask "positive expected entity revision required")
  else
    match s.get key with
    | none => .error (invalidTask "unknown_entity")
    | some previous =>
      -- Labels of the user never refresh the time of a sensor.
      s.put lower { previous.document with aliases, revision := previous.revision + 1 }
        (some expected)

/-- What speaks for the new state of an object. -/
structure StateEvidence where
  verified : Bool
  entityId : String
  captureId : String
  deriving DecidableEq

/-- The transitions of an object in memory, with what a placement says. -/
structure MarkRequest where
  state : EntityState
  stamp : Stamp
  expected : Option ℤ
  supportId : Option String
  position : Option (List Scalar)
  evidence : Option StateEvidence

/-- The object as the transition leaves it. -/
def markObject (s : WorldStore) (value : Entity) (r : MarkRequest) :
    Except Raised EntityDocument :=
  match r.state with
  | .placed =>
    if value.state ∉ [.carried, .releasedUnconfirmed] ∨ r.supportId.getD "" = "" ∨
        r.position.isNone then
      .error (invalidTask "placement_requires_carried_object_and_surface")
    else
      match s.get (r.supportId.getD "") with
      | none => .error (invalidTask "unknown_surface")
      | some support =>
        .ok { value.document with
          roomId := support.roomId
          supportId := r.supportId
          position := r.position
          geometryKind := some .surfacePoint }
  | .releasedUnconfirmed =>
    if value.state ≠ .carried then .error (invalidTask "release_requires_carried_object")
    else .ok value.document
  | .carried =>
    if value.state ∉ [.observed, .placed] then
      .error (invalidTask "fresh_object_required_before_carry")
    else
      .ok { value.document with
        supportId := none
        position := none
        geometryKind := some .none }
  | _ => .ok value.document

def markState (s : WorldStore) (key : String) (r : MarkRequest) : Except Raised WorldStore :=
  if r.state ∈ [.observed, .unconfirmed] then
    .error (invalidTask "unsupported memory transition")
  else
    match s.get key with
    | none => .error (invalidTask "known object required")
    | some value =>
      if value.kind ≠ .object then .error (invalidTask "known object required")
      else if value.stamp.context ≠ r.stamp.context then
        .error (invalidTask "context_revision_or_clock_mismatch")
      else if r.stamp.observed < value.stamp.observed then
        .error (invalidTask "out_of_order_observation")
      else if r.state ∈ [.carried, .releasedUnconfirmed, .placed] ∧
          r.evidence ≠ some ⟨true, key, r.stamp.captureId⟩ then
        .error (invalidTask "independent_object_evidence_required")
      else do
        let document ← s.markObject value r
        s.put lower { document with
          state := some r.state
          stamp := r.stamp.document
          revision := value.revision + 1 } r.expected

end WorldStore

inductive WorldOp where
  | addMap (document : MapDocument)
  | put (document : EntityDocument) (expected : Option ℤ)
  | aliases (key : String) (aliases : List String) (expected : ℤ)
  | markState (key : String) (request : WorldStore.MarkRequest)

namespace WorldStore

variable (lower : String → String)

def perform (s : WorldStore) : WorldOp → Except Raised WorldStore
  | .addMap document => s.addMap document
  | .put document expected => s.put lower document expected
  | .aliases key aliases expected => s.aliases lower key aliases expected
  | .markState key request => s.markState lower key request

/-- An operation that raises changes nothing. -/
def step (s : WorldStore) (op : WorldOp) : WorldStore :=
  match s.perform lower op with
  | .ok s' => s'
  | .error _ => s

end WorldStore

end MobileBimanual.Tasks
