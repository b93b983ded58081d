/-
# The relations of the memory

What an entity names is checked when it is put (`relations_resolved`): the room is a room and the
support a surface, both in the place of the entity, and the support is in the same room.  When the
room or the surface itself is put again, nobody looks at what names it.

`world_integral_iff` says when the relations stay in order: exactly if no put that is accepted gives
another kind or place to an entity that others name, nor another room to a surface that something is
on.  New aliases and the transitions of an object never do (`aliases_keeps`, `markState_keeps`).
-/
import MobileBimanual.Lib.Machine
import MobileBimanual.Tasks.WorldStore

namespace MobileBimanual.Tasks

namespace WorldStore

open References

/-! ## 1. What is asked of a relation -/

inductive Relation where
  | room | support

/-- The room is a room, the support a surface, both where the entity is. -/
def Fits : Relation → Entity → Entity → Prop
  | .room, e, parent => parent.kind = .room ∧ parent.place = e.place
  | .support, e, parent =>
    parent.kind = .surface ∧ parent.place = e.place ∧ parent.roomId = e.roomId

def named (e : Entity) : Relation → Option String
  | .room => e.roomId
  | .support => e.supportId

/-- What an entity names is stored and fits. -/
def Integral (s : WorldStore) : Prop :=
  ∀ key e, s.get key = some e → ∀ relation target, named e relation = some target →
    ∃ parent, s.get target = some parent ∧ Fits relation e parent

def schema : Schema String Entity Relation where
  references e := e.roomId.toList.map (.room, ·) ++ e.supportId.toList.map (.support, ·)
  fits := Fits

variable {e : Entity} {relation : Relation} {target : String}

theorem mem_references :
    (relation, target) ∈ schema.references e ↔ named e relation = some target := by
  cases relation <;> simp [schema, named]

variable {s : WorldStore}

theorem integral_iff : s.Integral ↔ References.Integral schema s.entities := by
  simp only [Integral, References.Integral, Resolved, mem_references]
  rfl

/-- What others ask of an entity that is put over another. -/
def Alike : Relation → Entity → Entity → Prop
  | .room, previous, e => e.kind = previous.kind ∧ e.place = previous.place
  | .support, previous, e =>
    e.kind = previous.kind ∧ e.place = previous.place ∧ e.roomId = previous.roomId

theorem fits_iff_alike {child parent : Entity} (h : Fits relation child parent) :
    Fits relation child e ↔ Alike relation parent e := by
  cases relation with
  | room => rw [Fits, Alike, h.1, h.2]
  | support => rw [Fits, Alike, h.1, h.2.1, h.2.2]

/-- The others that name the entity find it as it was. -/
def Suits (s : WorldStore) (previous e : Entity) : Prop :=
  ∀ key child relation, key ≠ e.entityId → s.get key = some child →
    named child relation = some e.entityId → Alike relation previous e

variable (lower : String → String)

/-- A put that is accepted leaves in order what names the entity. -/
def Keeps (s : WorldStore) : WorldOp → Prop
  | .put document expected =>
    ∀ e previous, entity lower document = .ok e → s.admits e expected = .ok () →
      s.get e.entityId = some previous → s.Suits previous e
  | _ => True

/-! ## 2. What a put checks -/

/-- What is stored under a key is the entity of that name. -/
def Keyed (s : WorldStore) : Prop := ∀ key e, s.get key = some e → e.entityId = key

variable {lower}

/-- What a document and the entity made of it have in common. -/
structure Transcribed (document : EntityDocument) (e : Entity) : Prop where
  entityId : e.entityId = document.entityId
  kind : some e.kind = document.kind
  roomId : e.roomId = document.roomId
  supportId : e.supportId = document.supportId
  context : e.stamp.context = document.stamp.context
  state : some e.state = document.state

theorem parse_context {document : StampDocument} {stamp : Stamp} (h : document.parse = .ok stamp) :
    stamp.context = document.context := by
  unfold StampDocument.parse at h
  obtain ⟨-, -, h⟩ := Except.bind_eq_ok_iff.mp h
  obtain ⟨observed, -, h⟩ := Except.bind_eq_ok_iff.mp h
  obtain ⟨-, -, h⟩ := Except.bind_eq_ok_iff.mp h
  cases h
  rfl

theorem checkRelation_ne {field entityId : String} {named : Option String}
    (h : checkRelation field entityId named = .ok ()) : named ≠ some entityId := by
  rintro rfl
  obtain ⟨-, -, h⟩ := Except.bind_eq_ok_iff.mp h
  rw [if_pos rfl] at h
  cases h

variable {document : EntityDocument}

theorem entity_transcribed (h : entity lower document = .ok e) :
    Transcribed document e ∧ ∀ relation, named e relation ≠ some e.entityId := by
  unfold entity at h
  obtain ⟨-, -, h⟩ := Except.bind_eq_ok_iff.mp h
  split at h
  next kind state source hkind hstate hsource =>
    obtain ⟨label, -, h⟩ := Except.bind_eq_ok_iff.mp h
    obtain ⟨category, -, h⟩ := Except.bind_eq_ok_iff.mp h
    split at h
    · cases h
    obtain ⟨aliases, -, h⟩ := Except.bind_eq_ok_iff.mp h
    split at h
    · cases h
    obtain ⟨attributes, -, h⟩ := Except.bind_eq_ok_iff.mp h
    obtain ⟨⟨⟩, hroom, h⟩ := Except.bind_eq_ok_iff.mp h
    obtain ⟨⟨⟩, hsupport, h⟩ := Except.bind_eq_ok_iff.mp h
    obtain ⟨position, -, h⟩ := Except.bind_eq_ok_iff.mp h
    obtain ⟨extent, -, h⟩ := Except.bind_eq_ok_iff.mp h
    split at h
    · cases h
    split at h
    · cases h
    split at h
    · cases h
    obtain ⟨-, -, h⟩ := Except.bind_eq_ok_iff.mp h
    split at h
    · cases h
    obtain ⟨stamp, hstamp, h⟩ := Except.bind_eq_ok_iff.mp h
    cases h
    refine ⟨⟨rfl, hkind.symm, rfl, rfl, parse_context hstamp, hstate.symm⟩, fun relation => ?_⟩
    cases relation with
    | room => exact checkRelation_ne hroom
    | support => exact checkRelation_ne hsupport
  next => cases h

theorem checkNamed_eq_ok {field : String} {kind : EntityKind} {agrees : Entity → Bool}
    (h : s.checkNamed e field kind agrees (some target) = .ok ()) :
    ∃ parent, s.get target = some parent ∧ parent.kind = kind ∧ parent.place = e.place ∧
      agrees parent = true := by
  rw [checkNamed] at h
  split at h
  next => cases h
  next parent hparent =>
    split at h
    · cases h
    next hkind =>
      split at h
      · cases h
      next hplace =>
        split at h
        · cases h
        next hagrees =>
          exact ⟨parent, hparent, not_not.mp hkind, not_not.mp hplace, not_not.mp hagrees⟩

/-- **What an entity names was in order when it was put.** -/
theorem relations_resolved (h : s.relations e = .ok ()) (hnamed : named e relation = some target) :
    ∃ parent, s.get target = some parent ∧ Fits relation e parent := by
  obtain ⟨⟨⟩, hroom, hsupport⟩ := Except.bind_eq_ok_iff.mp h
  cases relation with
  | room =>
    rw [show e.roomId = some target from hnamed] at hroom
    obtain ⟨parent, hparent, hkind, hplace, -⟩ := checkNamed_eq_ok hroom
    exact ⟨parent, hparent, hkind, hplace⟩
  | support =>
    rw [show e.supportId = some target from hnamed] at hsupport
    obtain ⟨parent, hparent, hkind, hplace, hagrees⟩ := checkNamed_eq_ok hsupport
    exact ⟨parent, hparent, hkind, hplace, of_decide_eq_true hagrees⟩

variable {expected : Option ℤ}

theorem admits_relations (h : s.admits e expected = .ok ()) : s.relations e = .ok () := by
  obtain ⟨⟨⟩, -, h⟩ := Except.bind_eq_ok_iff.mp h
  obtain ⟨⟨⟩, hrelations, -⟩ := Except.bind_eq_ok_iff.mp h
  exact hrelations

variable {s' : WorldStore}

theorem put_eq_ok (h : s.put lower document expected = .ok s') :
    ∃ e, entity lower document = .ok e ∧ s.admits e expected = .ok () ∧
      (s' = s ∧ s.get e.entityId = some e ∨
        s' = { s with entities := s.entities.insert e.entityId e }) := by
  obtain ⟨e, he, h⟩ := Except.bind_eq_ok_iff.mp h
  obtain ⟨⟨⟩, hadmits, h⟩ := Except.bind_eq_ok_iff.mp h
  refine ⟨e, he, hadmits, ?_⟩
  split at h
  next hsame =>
    cases h
    exact .inl ⟨rfl, hsame⟩
  next =>
    cases h
    exact .inr rfl

/-! ## 3. What a put keeps -/

/-- **A put keeps the relations in order exactly if what names the entity suits it.** -/
theorem insert_integral_iff (h : s.Integral)
    (hself : ∀ relation, named e relation ≠ some e.entityId) (hrelations : s.relations e = .ok ()) :
    Integral { s with entities := s.entities.insert e.entityId e } ↔
      ∀ previous, s.get e.entityId = some previous → s.Suits previous e := by
  rw [integral_iff, integral_insert_iff (integral_iff.mp h)
    (fun relation hrefers => hself relation (mem_references.mp hrefers))
    (fun relation target hrefers => relations_resolved hrelations (mem_references.mp hrefers)),
    accepted_iff (integral_iff.mp h) Alike (fun _ _ _ => fits_iff_alike)]
  constructor
  · intro hall previous hprevious key child relation hkey hchild hnamed
    exact hall key child relation previous hkey hchild (mem_references.mpr hnamed) hprevious
  · intro hall key child relation previous hkey hchild hrefers hprevious
    exact hall previous hprevious key child relation hkey hchild (mem_references.mp hrefers)

/-- A put of an entity as it was suits whatever names it. -/
theorem suits_self : s.Suits e e := by
  intro key child relation hkey hchild hnamed
  cases relation with
  | room => exact ⟨rfl, rfl⟩
  | support => exact ⟨rfl, rfl, rfl⟩

theorem put_integral_iff (h : s.Integral) (hput : s.put lower document expected = .ok s') :
    s'.Integral ↔ s.Keeps lower (.put document expected) := by
  obtain ⟨e, he, hadmits, ⟨rfl, hsame⟩ | rfl⟩ := put_eq_ok hput
  · refine ⟨fun _ e' previous he' _ hprevious => ?_, fun _ => h⟩
    cases he.symm.trans he'
    cases hsame.symm.trans hprevious
    exact suits_self
  · rw [insert_integral_iff h (entity_transcribed he).2 (admits_relations hadmits)]
    constructor
    · intro hsuits e' previous he' _ hprevious
      cases he.symm.trans he'
      exact hsuits previous hprevious
    · intro hkeeps previous hprevious
      exact hkeeps e previous he hadmits hprevious

theorem put_keyed (h : s.Keyed) (hput : s.put lower document expected = .ok s') : s'.Keyed := by
  obtain ⟨e, -, -, ⟨rfl, -⟩ | rfl⟩ := put_eq_ok hput
  · exact h
  · intro key e' hget
    by_cases hkey : key = e.entityId
    · subst hkey
      rw [get, AList.lookup_insert] at hget
      cases hget
      rfl
    · rw [get, AList.lookup_insert_ne hkey] at hget
      exact h key e' hget

/-! ## 4. Aliases and the transitions of an object -/

variable {key : String} {value : Entity}

/-- A put of the entity under the key that leaves its kind, place and room as they are. -/
theorem keeps_of_alike (hkeyed : s.Keyed) (hvalue : s.get key = some value)
    (hid : document.entityId = value.entityId)
    (halike : ∀ e, Transcribed document e → s.Suits value e) :
    s.Keeps lower (.put document expected) := by
  intro e previous he _ hprevious
  have htranscribed := (entity_transcribed he).1
  have hkey : e.entityId = key := by
    rw [htranscribed.entityId, hid, hkeyed key value hvalue]
  rw [hkey, hvalue] at hprevious
  cases hprevious
  exact halike e htranscribed

theorem aliases_keeps (hkeyed : s.Keyed) {aliases : List String} (hvalue : s.get key = some value) :
    s.Keeps lower
      (.put { value.document with aliases, revision := value.revision + 1 } expected) := by
  refine keeps_of_alike hkeyed hvalue rfl fun e h key child relation _ _ _ => ?_
  have hkind : e.kind = value.kind := Option.some.inj h.kind
  have hplace : e.place = value.place := congrArg Context.place h.context
  cases relation with
  | room => exact ⟨hkind, hplace⟩
  | support => exact ⟨hkind, hplace, h.roomId⟩

/-- Nothing names an object. -/
theorem suits_object (h : s.Integral) (hkeyed : s.Keyed) (hvalue : s.get key = some value)
    (hobject : value.kind = .object) (hid : e.entityId = value.entityId) : s.Suits value e := by
  intro key' child relation _ hchild hnamed
  rw [hid, hkeyed key value hvalue] at hnamed
  obtain ⟨parent, hparent, hfits⟩ := h key' child hchild relation key hnamed
  cases hvalue.symm.trans hparent
  cases relation with
  | room => exact absurd (hobject.symm.trans hfits.1) nofun
  | support => exact absurd (hobject.symm.trans hfits.1) nofun

/-- The document of a transition is one of the object itself. -/
theorem markObject_entityId {r : MarkRequest} (h : s.markObject value r = .ok document) :
    document.entityId = value.entityId := by
  unfold markObject at h
  split at h
  · split at h
    · cases h
    · split at h
      · cases h
      · cases h
        rfl
  · split at h <;> cases h
    rfl
  · split at h <;> cases h
    rfl
  · cases h
    rfl

/-- A put that raises is of no entity that the store admits. -/
theorem keeps_of_refused {raised : Raised} (h : s.put lower document expected = .error raised) :
    s.Keeps lower (.put document expected) := by
  intro e previous he hadmits hprevious
  have hput : ∃ s', s.put lower document expected = .ok s' := by
    rw [put, he]
    by_cases hsame : s.get e.entityId = some e
    · exact ⟨s, by simp [hadmits, hsame, bind, Except.bind, pure, Except.pure]⟩
    · exact ⟨_, by simp [hadmits, hsame, bind, Except.bind, pure, Except.pure]; rfl⟩
  obtain ⟨s', hput⟩ := hput
  rw [h] at hput
  cases hput

theorem addMap_entities {document : MapDocument} (h : s.addMap document = .ok s') :
    s'.entities = s.entities := by
  obtain ⟨validated, -, h⟩ := Except.bind_eq_ok_iff.mp h
  split at h
  · split at h
    · cases h
    · cases h
      rfl
  · cases h
    rfl

/-- Aliases that are accepted are a put of the entity with its next revision. -/
theorem aliases_eq_ok {names : List String} {expected : ℤ}
    (h : s.aliases lower key names expected = .ok s') :
    ∃ value, s.get key = some value ∧
      s.put lower { value.document with aliases := names, revision := value.revision + 1 }
        (some expected) = .ok s' := by
  obtain ⟨-, -, h⟩ := Except.bind_eq_ok_iff.mp h
  split at h
  · cases h
  · split at h
    next => cases h
    next value hvalue => exact ⟨value, hvalue, h⟩

/-- A transition that is accepted is a put of the object it is of. -/
theorem markState_eq_ok {r : MarkRequest} (h : s.markState lower key r = .ok s') :
    ∃ value document, s.get key = some value ∧ value.kind = .object ∧
      document.entityId = value.entityId ∧ s.put lower document r.expected = .ok s' := by
  unfold markState at h
  split at h
  · cases h
  split at h
  · cases h
  next value hvalue =>
    split at h
    · cases h
    next hobject =>
      split at h
      · cases h
      split at h
      · cases h
      split at h
      · cases h
      obtain ⟨document, hdocument, h⟩ := Except.bind_eq_ok_iff.mp h
      refine ⟨value, _, hvalue, not_not.mp hobject, ?_, h⟩
      exact (markObject_entityId hdocument : document.entityId = value.entityId)

/-! ## 5. Runs -/

theorem get_empty (key : String) : empty.get key = none := AList.lookup_empty key

theorem keyed_empty : empty.Keyed := by
  intro key e hget
  rw [get_empty] at hget
  cases hget

theorem integral_at_empty : empty.Integral := by
  intro key e hget
  rw [get_empty] at hget
  cases hget

theorem step_keyed (op : WorldOp) (h : s.Keyed) : (s.step lower op).Keyed := by
  unfold step
  split
  next s' hperform =>
    cases op with
    | addMap document =>
      intro key e hget
      rw [get, addMap_entities hperform] at hget
      exact h key e hget
    | put document expected => exact put_keyed h hperform
    | aliases key names expected =>
      obtain ⟨value, -, hput⟩ := aliases_eq_ok hperform
      exact put_keyed h hput
    | markState key r =>
      obtain ⟨value, document, -, -, -, hput⟩ := markState_eq_ok hperform
      exact put_keyed h hput
  next => exact h

/-- **Step lemma.** An operation leaves the relations in order exactly if it keeps them. -/
theorem step_integral_iff (op : WorldOp) (hkeyed : s.Keyed) (h : s.Integral) :
    (s.step lower op).Integral ↔ s.Keeps lower op := by
  unfold step
  split
  next s' hperform =>
    cases op with
    | addMap document =>
      refine ⟨fun _ => trivial, fun _ => ?_⟩
      rw [integral_iff, addMap_entities hperform, ← integral_iff]
      exact h
    | put document expected => exact put_integral_iff h hperform
    | aliases key names expected =>
      obtain ⟨value, hvalue, hput⟩ := aliases_eq_ok hperform
      refine ⟨fun _ => trivial, fun _ => (put_integral_iff h hput).mpr ?_⟩
      exact aliases_keeps hkeyed hvalue
    | markState key r =>
      obtain ⟨value, document, hvalue, hobject, hid, hput⟩ := markState_eq_ok hperform
      refine ⟨fun _ => trivial, fun _ => (put_integral_iff h hput).mpr ?_⟩
      exact keeps_of_alike hkeyed hvalue hid fun e htranscribed =>
        suits_object h hkeyed hvalue hobject (htranscribed.entityId.trans hid)
  next raised hperform =>
    refine ⟨fun _ => ?_, fun _ => h⟩
    cases op with
    | put document expected => exact keeps_of_refused hperform
    | addMap document => trivial
    | aliases key names expected => trivial
    | markState key r => trivial

/-- **When the relations stay in order.** All along a run of the store they do exactly if no put on
the way that is accepted leaves the entities that name the one it replaces with one that does not
suit them. -/
theorem world_integral_iff (lower : String → String) (l : List WorldOp) :
    (∀ before after, l = before ++ after → (Machine.run (step lower) empty before).Integral) ↔
      Machine.Along (step lower) (Keeps lower) empty l := by
  have hboth : ∀ before, (Machine.run (step lower) empty before).Keyed := fun before =>
    Machine.run_invariant_all (I := Keyed) (fun _ op h => step_keyed op h) before keyed_empty
  rw [← Machine.invariant_iff_along (I := fun s => s.Keyed ∧ s.Integral) ?_ l
    ⟨keyed_empty, integral_at_empty⟩]
  · exact ⟨fun h before after heq => ⟨hboth before, h before after heq⟩,
      fun h before after heq => (h before after heq).2⟩
  · intro s op h
    rw [← step_integral_iff op h.1 h.2]
    exact and_iff_right (step_keyed op h.1)

/-! ## 6. A room that becomes a surface -/

def home : MapDocument where
  mapId := "home"
  revision := "r1"
  floorId := "ground"
  frameId := "map"
  floorZ := .finite 0
  resolution := .finite 1
  originX := .finite 0
  originY := .finite 0
  rows := ["...", "...", "..."]
  robotRadius := .finite (1 / 5)
  clearance := .finite (1 / 10)
  surfaceTolerance := .finite (1 / 50)

def seen (entityId : String) (kind : EntityKind) (roomId : Option String) (revision : ℤ) :
    EntityDocument where
  entityId := entityId
  kind := some kind
  label := entityId
  category := entityId
  aliases := []
  attributes := []
  roomId := roomId
  supportId := none
  position := none
  extent := none
  geometryKind := some .none
  state := some .observed
  source := some .sensor
  stamp := ⟨.finite 1, ⟨"home", "r1", "cal", "clock", "map"⟩, "capture"⟩
  revision := revision

def kitchenOps : List WorldOp := [
  .addMap home,
  .put (seen "kitchen" .room none 1) none,
  .put (seen "cup" .object (some "kitchen") 1) none,
  .put (seen "kitchen" .surface none 2) (some 1)]

/-- The kitchen is put, then a cup in it, then the kitchen again as a surface: the cup is left in a
room that is none. -/
theorem kitchen_becomes_surface :
    ¬ ∀ (lower : String → String) (l : List WorldOp),
      (Machine.run (step lower) empty l).Integral := by
  intro h
  have hcup : ((Machine.run (step id) empty kitchenOps).get "cup").map (·.roomId) =
      some (some "kitchen") := by decide +kernel
  have hkitchen : ((Machine.run (step id) empty kitchenOps).get "kitchen").map (·.kind) =
      some .surface := by decide +kernel
  obtain ⟨cup, hget, hroom⟩ := Option.map_eq_some_iff.mp hcup
  obtain ⟨parent, hparent, hfits⟩ := h id kitchenOps "cup" cup hget .room "kitchen" hroom
  rw [hparent] at hkitchen
  exact absurd ((Option.some.inj hkitchen).symm.trans hfits.1) nofun

end WorldStore

end MobileBimanual.Tasks
