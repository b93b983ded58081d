/-
# Objects in custody

An object that was carried off, or put down without anyone having looked, is in custody:
`candidates` does not offer it.  Out of custody leads `placed`, which wants evidence for the object
and the capture, as `carried` and `released_unconfirmed` do; and so do `occluded` and `stale`, which
want none and do not look at where the object is (`Slips`).

`mark_guarded` is the step, `custody_kept` the run; `stale_frees_carried` is the way out.
-/
import Mathlib.Data.List.Sort
import MobileBimanual.Tasks.WorldIntegrity

namespace MobileBimanual.Tasks

open Machine

/-- Carried, or released and not seen since. -/
def Entity.InCustody (e : Entity) : Prop := e.state ∈ [.carried, .releasedUnconfirmed]

instance (e : Entity) : Decidable e.InCustody := inferInstanceAs (Decidable (_ ∈ _))

namespace WorldStore

/-! ## 1. What is offered -/

/-- What is looked for; nothing stands for any. -/
structure CandidateQuery where
  context : Context
  category : Option String
  attributes : List (String × String)
  roomId : Option String
  supportId : Option String
  now : Scalar
  maximumAge : Scalar

structure Candidate where
  entity : Entity
  fresh : Bool
  requiresReobservation : Bool
  physicalGraspPoseAvailable : Bool

/-- `entities`, of a context, in the order of their names. -/
def entitiesIn (s : WorldStore) (context : Context) : List Entity :=
  ((s.entities.entries.map (·.2)).filter (decide <| ·.place = context.place)).insertionSort
    fun a b => a.entityId ≤ b.entityId

/-- A filter that is given, and is not empty. -/
def asked (filter : Option String) (meets : String → Bool) : Bool :=
  match filter with
  | none => true
  | some value => value == "" || meets value

def CandidateQuery.matches (q : CandidateQuery) (e : Entity) : Bool :=
  e.kind == .object && !decide e.InCustody &&
    asked q.category (fun category => category ∈ e.category :: e.label :: e.aliases) &&
    asked q.roomId (fun room => e.roomId == some room) &&
    asked q.supportId (fun support => e.supportId == some support) &&
    q.attributes.all fun (key, value) => e.attributes.lookup key == some value

def CandidateQuery.offer (q : CandidateQuery) (now maximumAge : ℚ) (e : Entity) : Candidate where
  entity := e
  fresh := decide (e.stamp.context = q.context ∧ e.state ∈ [.observed, .placed] ∧
    0 ≤ now - e.stamp.observed ∧ now - e.stamp.observed ≤ maximumAge)
  requiresReobservation := true
  physicalGraspPoseAvailable := false

def candidates (s : WorldStore) (q : CandidateQuery) : Except Raised (List Candidate) := do
  let now ← finite "now" (some 0) none q.now
  let maximumAge ← finite "age" (some 0) none q.maximumAge
  return ((s.entitiesIn q.context).filter q.matches).map (q.offer now maximumAge)

/-- The object of that name is in custody. -/
def InCustody (s : WorldStore) (key : String) : Prop := ∃ e, s.get key = some e ∧ e.InCustody

variable {s : WorldStore} {key : String}

theorem not_offered (hkeyed : s.Keyed) (h : s.InCustody key) {q : CandidateQuery}
    {offered : List Candidate} (hoffered : s.candidates q = .ok offered) :
    ∀ c ∈ offered, c.entity.entityId ≠ key := by
  obtain ⟨e, hget, he⟩ := h
  obtain ⟨now, -, hoffered⟩ := Except.bind_eq_ok_iff.mp hoffered
  obtain ⟨maximumAge, -, hoffered⟩ := Except.bind_eq_ok_iff.mp hoffered
  cases hoffered
  intro c hc hname
  obtain ⟨found, hfound, rfl⟩ := List.mem_map.mp hc
  obtain ⟨hmem, hmatches⟩ := List.mem_filter.mp hfound
  rw [entitiesIn, List.mem_insertionSort, List.mem_filter, List.mem_map] at hmem
  obtain ⟨⟨entry, hentry, rfl⟩, -⟩ := hmem
  have hlookup : s.get entry.1 = some entry.2 := AList.mem_lookup_iff.mpr hentry
  have hkey : entry.1 = key := (hkeyed _ _ hlookup).symm.trans hname
  rw [hkey, hget] at hlookup
  rw [← Option.some.inj hlookup] at hmatches
  simp [CandidateQuery.matches, he] at hmatches

/-! ## 2. The step -/

abbrev Mark := String × MarkRequest

variable (lower : String → String)

/-- A call of `mark_state`; one that raises changes nothing. -/
def mark (s : WorldStore) (m : Mark) : WorldStore := s.step lower (.markState m.1 m.2)

/-- The call carries verified evidence for the object, of the capture it is stamped with. -/
def Proves (key : String) (m : Mark) : Prop :=
  m.1 = key ∧ m.2.evidence = some ⟨true, key, m.2.stamp.captureId⟩

instance (key : String) (m : Mark) : Decidable (Proves key m) := inferInstanceAs (Decidable (_ ∧ _))

/-- The call leaves in custody what is there, or carries evidence for it. -/
def Guarded (s : WorldStore) (m : Mark) : Prop :=
  ∀ key, s.InCustody key → (s.mark lower m).InCustody key ∨ Proves key m

/-- The call marks an object in custody as occluded or stale, in turn, and has nothing to show. -/
def Slips (s : WorldStore) (m : Mark) : Prop :=
  ∃ value, s.get m.1 = some value ∧ value.InCustody ∧ m.2.state ∈ [.occluded, .stale] ∧
    m.2.expected = some value.revision ∧ value.stamp.context = m.2.stamp.context ∧
    value.stamp.observed ≤ m.2.stamp.observed ∧ ¬ Proves m.1 m

variable {lower}

/-- What a transition that is accepted has passed. -/
theorem markState_guards {s s' : WorldStore} {key : String} {r : MarkRequest}
    (h : s.markState lower key r = .ok s') :
    ∃ value document, s.get key = some value ∧ r.state ∉ [.observed, .unconfirmed] ∧
      value.stamp.context = r.stamp.context ∧ value.stamp.observed ≤ r.stamp.observed ∧
      (r.state ∈ [.carried, .releasedUnconfirmed, .placed] →
        r.evidence = some ⟨true, key, r.stamp.captureId⟩) ∧
      s.markObject value r = .ok document ∧
      s.put lower { document with
        state := some r.state
        stamp := r.stamp.document
        revision := value.revision + 1 } r.expected = .ok s' := by
  unfold markState at h
  split at h
  · cases h
  next hstate =>
    split at h
    · cases h
    next value hvalue =>
      split at h
      · cases h
      split at h
      · cases h
      next hcontext =>
        split at h
        · cases h
        next hordered =>
          split at h
          · cases h
          next hevidence =>
            obtain ⟨document, hdocument, h⟩ := Except.bind_eq_ok_iff.mp h
            refine ⟨value, document, hvalue, hstate, not_not.mp hcontext, not_lt.mp hordered, ?_,
              hdocument, h⟩
            exact fun hcustody => not_not.mp fun hmissing => hevidence ⟨hcustody, hmissing⟩

theorem get_insert_ne {e : Entity} (h : key ≠ e.entityId) :
    ({ s with entities := s.entities.insert e.entityId e } : WorldStore).get key = s.get key :=
  AList.lookup_insert_ne h

/-- What replaces an entity was made of the revision that is stored. -/
theorem admits_revision {e previous : Entity} {expected : Option ℤ}
    (h : s.admits e expected = .ok ()) (hprevious : s.get e.entityId = some previous)
    (hnew : previous ≠ e) : expected = some previous.revision := by
  obtain ⟨⟨⟩, -, h⟩ := Except.bind_eq_ok_iff.mp h
  obtain ⟨⟨⟩, -, h⟩ := Except.bind_eq_ok_iff.mp h
  rw [hprevious, if_neg (fun hsame => hnew (Option.some.inj hsame))] at h
  unfold checkRevision at h
  dsimp only at h
  split at h
  · cases h
  split at h
  · cases h
  next hrevision => exact not_not.mp (not_or.mp hrevision).1

/-- **The step**: a call that does not slip is guarded. -/
theorem mark_guarded (hkeyed : s.Keyed) {m : Mark} (h : ¬ s.Slips m) : s.Guarded lower m := by
  obtain ⟨key, r⟩ := m
  intro other hcustody
  unfold mark step perform
  dsimp only
  cases hmark : s.markState lower key r with
  | error raised => exact .inl hcustody
  | ok s' =>
    obtain ⟨value, document, hvalue, hstate, hcontext, hordered, hevidence, hdocument, hput⟩ :=
      markState_guards hmark
    obtain ⟨e, he, hadmits, ⟨rfl, -⟩ | rfl⟩ := put_eq_ok hput
    · exact .inl hcustody
    obtain ⟨htranscribed, -⟩ := entity_transcribed he
    have hname : e.entityId = key := by
      rw [htranscribed.entityId]
      exact (markObject_entityId hdocument).trans (hkeyed key value hvalue)
    by_cases hother : other = key
    · subst hother
      obtain ⟨held, hheld, hin⟩ := hcustody
      obtain rfl := Option.some.inj (hvalue.symm.trans hheld)
      by_cases hneeds : r.state ∈ [.carried, .releasedUnconfirmed, .placed]
      · exact .inr ⟨rfl, hevidence hneeds⟩
      · have hlost : r.state ∈ [.occluded, .stale] := by
          revert hstate hneeds
          cases r.state <;> decide
        have hnew : value ≠ e := by
          rintro rfl
          have hsame : value.state = r.state := Option.some.inj htranscribed.state
          unfold Entity.InCustody at hin
          rw [hsame] at hin
          revert hin hlost
          cases r.state <;> decide
        have hexpected := admits_revision hadmits (hname ▸ hvalue) hnew
        exact .inr (not_not.mp fun hproves =>
          h ⟨value, hvalue, hin, hlost, hexpected, hcontext, hordered, hproves⟩)
    · refine .inl ?_
      obtain ⟨held, hheld, hin⟩ := hcustody
      exact ⟨held, (get_insert_ne (hname ▸ hother)).trans hheld, hin⟩

/-! ## 3. Every run -/

theorem mark_keyed (m : Mark) (h : s.Keyed) : (s.mark lower m).Keyed :=
  step_keyed _ h

/-- What is in custody stays there while nothing speaks for it. -/
theorem guarded_run : ∀ {s : WorldStore} {marks : List Mark},
    Along (mark lower) (Guarded lower) s marks → s.InCustody key →
      (∀ m ∈ marks, ¬ Proves key m) → (run (mark lower) s marks).InCustody key
  | _, [], _, h, _ => h
  | s, m :: marks, hguarded, h, hsilent => by
    have hnext := (hguarded.1 key h).resolve_right (hsilent m List.mem_cons_self)
    have hrest : ∀ m' ∈ marks, ¬ Proves key m' := fun m' hm' =>
      hsilent m' (List.mem_cons_of_mem m hm')
    exact @guarded_run (s.mark lower m) marks hguarded.2 hnext hrest

variable (lower) in
/-- **Custody is kept.**  In a run of calls none of which slips, an object leaves custody only with
evidence, and what is in custody is not offered before there is some. -/
theorem custody_kept (ops : List WorldOp) (marks : List Mark)
    (hcareful : Along (mark lower) (fun s m => ¬ s.Slips m)
      (run (step lower) empty ops) marks) :
    Along (mark lower) (Guarded lower) (run (step lower) empty ops) marks ∧
    ∀ before after, marks = before ++ after →
      ∀ key, (run (mark lower) (run (step lower) empty ops) before).InCustody key →
        (∀ m ∈ after, ¬ Proves key m) →
          ∀ q offered,
            (run (mark lower) (run (step lower) empty ops) marks).candidates q =
              .ok offered → ∀ c ∈ offered, c.entity.entityId ≠ key := by
  have hkeyed : (run (step lower) empty ops).Keyed :=
    run_invariant_all (I := Keyed) (fun _ op h => step_keyed op h) ops keyed_empty
  have hguarded : Along (mark lower) (Guarded lower) (run (step lower) empty ops)
      marks :=
    along_of_invariant (I := Keyed) (fun _ m h _ => mark_keyed m h)
      (fun _ _ h hslips => mark_guarded h hslips) marks hkeyed hcareful
  refine ⟨hguarded, ?_⟩
  rintro before after rfl key hcustody hsilent q offered hoffered
  have hend : (run (mark lower) (run (step lower) empty ops)
      (before ++ after)).Keyed :=
    run_invariant_all (I := Keyed) (fun _ m h => mark_keyed m h) _ hkeyed
  refine not_offered hend ?_ hoffered
  rw [run_append]
  exact guarded_run ((along_append _ _ _).mp hguarded).2 hcustody hsilent

/-- A kitchen, and a cup in it. -/
def cupOps : List WorldOp :=
  [.addMap home, .put (seen "kitchen" .room none 1) none,
    .put (seen "cup" .object (some "kitchen") 1) none]

/-- What the cup becomes, with evidence or without. -/
def markCup (state : EntityState) (revision : ℤ) (evidence : Option StateEvidence) : Mark :=
  ("cup", ⟨state, ⟨2, ⟨"home", "r1", "cal", "clock", "map"⟩, "hand"⟩, some revision, none, none,
    evidence⟩)

instance (s : WorldStore) (m : Mark) : Decidable (s.Slips m) :=
  decidable_of_iff
    (∃ value ∈ s.get m.1, value.InCustody ∧ m.2.state ∈ [.occluded, .stale] ∧
      m.2.expected = some value.revision ∧ value.stamp.context = m.2.stamp.context ∧
      value.stamp.observed ≤ m.2.stamp.observed ∧ ¬ Proves m.1 m)
    Iff.rfl

/-- The cup is carried and released, each with evidence, and lost from sight under an old
revision, which is refused. -/
theorem custody_kept_cup :
    Along (mark id) (Guarded id) (run (step id) empty cupOps)
      [markCup .carried 1 (some ⟨true, "cup", "hand"⟩), markCup .stale 1 none,
        markCup .releasedUnconfirmed 2 (some ⟨true, "cup", "hand"⟩)] ∧
    ∀ before after,
      [markCup .carried 1 (some ⟨true, "cup", "hand"⟩), markCup .stale 1 none,
        markCup .releasedUnconfirmed 2 (some ⟨true, "cup", "hand"⟩)] = before ++ after →
      ∀ key, (run (mark id) (run (step id) empty cupOps) before).InCustody key →
        (∀ m ∈ after, ¬ Proves key m) →
          ∀ q offered,
            (run (mark id) (run (step id) empty cupOps)
              [markCup .carried 1 (some ⟨true, "cup", "hand"⟩), markCup .stale 1 none,
                markCup .releasedUnconfirmed 2 (some ⟨true, "cup", "hand"⟩)]).candidates q =
              .ok offered → ∀ c ∈ offered, c.entity.entityId ≠ key :=
  custody_kept id cupOps _ (by decide +kernel)

/-- Whatever there is at home. -/
def anything : CandidateQuery where
  context := ⟨"home", "r1", "cal", "clock", "map"⟩
  category := none
  attributes := []
  roomId := none
  supportId := none
  now := .finite 3
  maximumAge := .finite 60

/-- The cup is carried with evidence, and then marked as stale without any: it is offered again. -/
theorem stale_frees_carried :
    ¬ ∀ (lower : String → String) (ops : List WorldOp) (marks : List Mark),
      Along (mark lower) (Guarded lower) (run (step lower) empty ops) marks ∧
      ∀ before after, marks = before ++ after →
        ∀ key, (run (mark lower) (run (step lower) empty ops) before).InCustody key →
          (∀ m ∈ after, ¬ Proves key m) →
            ∀ q offered,
              (run (mark lower) (run (step lower) empty ops) marks).candidates q =
                .ok offered → ∀ c ∈ offered, c.entity.entityId ≠ key := by
  intro h
  obtain ⟨-, hnever⟩ := h id cupOps
    [markCup .carried 1 (some ⟨true, "cup", "hand"⟩), markCup .stale 2 none]
  have hcarried : ((run (mark id) (run (step id) empty cupOps)
      [markCup .carried 1 (some ⟨true, "cup", "hand"⟩)]).get "cup").map (·.state) =
        some .carried := by decide +kernel
  obtain ⟨cup, hget, hstate⟩ := Option.map_eq_some_iff.mp hcarried
  have hcustody : cup.InCustody := by
    unfold Entity.InCustody
    rw [hstate]
    decide
  have hsilent : ∀ m ∈ [markCup .stale 2 none], ¬ Proves "cup" m := by decide +kernel
  have hoffers : ((run (mark id) (run (step id) empty cupOps)
      [markCup .carried 1 (some ⟨true, "cup", "hand"⟩), markCup .stale 2 none]).candidates
        anything).toOption.map (·.map (·.entity.entityId)) = some ["cup"] := by decide +kernel
  generalize hrun : (run (mark id) (run (step id) empty cupOps)
    [markCup .carried 1 (some ⟨true, "cup", "hand"⟩), markCup .stale 2 none]).candidates
      anything = answer at hoffers
  cases answer with
  | error raised => cases hoffers
  | ok offered =>
    have hnames : offered.map (·.entity.entityId) = ["cup"] := Option.some.inj hoffers
    have hcup : "cup" ∈ offered.map (·.entity.entityId) := hnames ▸ List.mem_cons_self
    obtain ⟨c, hc, hname⟩ := List.mem_map.mp hcup
    exact hnever [markCup .carried 1 (some ⟨true, "cup", "hand"⟩)] [markCup .stale 2 none] rfl
      "cup" ⟨cup, hget, hcustody⟩ hsilent anything offered hrun c hc hname

end WorldStore

end MobileBimanual.Tasks
