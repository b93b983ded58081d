/-
# What the evidence of a scan speaks for

`Evidence`: one session at most is not over, what a session was shown lies in free cells of the map
that it has, and the map to travel by was generated from that map.  Every event keeps it
(`evidence_step`), and a session that is saved does not change (`saved_step`).

The revision of a map is compared with that of the map before it alone.  A revision therefore
speaks for one document exactly as long as no operation `Reuses` one, and a revision may come back
with another document after a map in between (`revision_returns`).
-/
import MobileBimanual.Lib.Machine
import MobileBimanual.Tasks.ScanOperations

namespace MobileBimanual.Tasks

open Machine ScanManager

/-! ## 1. The history of a manager -/

/-- The manager, and every map that a session of it has had. -/
structure ScanHistory where
  manager : ScanManager
  given : List (String × MapDocument)

namespace ScanHistory

inductive Event where
  | call (op : ScanManager.Operation)
  | restart (context : Context)
  /-- The service has another context. -/
  | activate (context : Context)
  /-- Others write to the world. -/
  | others (world : WorldStore)

def init (context : Context) (world : WorldStore) : ScanHistory := ⟨⟨context, ∅, world⟩, []⟩

variable (digests : ScanDigests) (lower : String → String)

def step (w : ScanHistory) : Event → ScanHistory
  | .call op =>
    match w.manager.perform digests lower op with
    | .ok (m, s) => ⟨m, w.given ++ s.maps.map fun d => (s.sessionId, d)⟩
    | .error _ => w
  | .restart context => { w with manager := w.manager.restart context }
  | .activate context => { w with manager := { w.manager with context := context } }
  | .others world => { w with manager := { w.manager with world := world } }

/-- A session is given a map under a revision that another map of it has had. -/
def Reuses (w : ScanHistory) : Event → Prop
  | .call op => ∃ id d old, w.manager.Gives digests op id d ∧ (id, old) ∈ w.given ∧
      old.revision = d.revision ∧ old ≠ d
  | _ => False

/-- Within a session a revision is one document. -/
def OneDocument (w : ScanHistory) : Prop :=
  ∀ id a b, (id, a) ∈ w.given → (id, b) ∈ w.given → a.revision = b.revision → a = b

structure Evidence (w : ScanHistory) : Prop where
  keyed : ∀ id s, w.manager.sessions.lookup id = some s → s.sessionId = id
  sound : ∀ id s, w.manager.sessions.lookup id = some s → s.Sound digests
  single : ∀ id id' s s', w.manager.sessions.lookup id = some s →
    w.manager.sessions.lookup id' = some s' → s.Active → s'.Active → id = id'
  recorded : ∀ id s, w.manager.sessions.lookup id = some s → ∀ d ∈ s.maps, (id, d) ∈ w.given

variable {digests lower} {w : ScanHistory} {e : Event} {op : ScanManager.Operation}

theorem step_of_error {raised : Raised} (h : w.manager.perform digests lower op = .error raised) :
    w.step digests lower (.call op) = w := by
  simp only [step, h]

theorem step_of_ok {result : ScanManager × ScanSession}
    (h : w.manager.perform digests lower op = .ok result) :
    w.step digests lower (.call op) =
      ⟨result.1, w.given ++ result.2.maps.map fun d => (result.2.sessionId, d)⟩ := by
  simp only [step, h]

theorem evidence_init (context : Context) (world : WorldStore) :
    (init context world).Evidence digests := by
  constructor <;> intro id <;> intros <;> contradiction

/-! ## 2. Every event keeps it -/

theorem lookup_restart (m : ScanManager) (context : Context) (id : String) :
    (m.restart context).sessions.lookup id = (m.sessions.lookup id).map ScanSession.halt :=
  List.dlookup_map (f := fun id => id) m.sessions.entries (fun _ _ h => h)
    (fun _ => ScanSession.halt) id

theorem halt_active {s : ScanSession} : s.halt.Active ↔ s.Active := by
  unfold ScanSession.halt
  split
  next h => simp [ScanSession.Active, h]
  · exact Iff.rfl

theorem halt_maps (s : ScanSession) : s.halt.maps = s.maps := by
  unfold ScanSession.halt
  split <;> rfl

theorem halt_sessionId (s : ScanSession) : s.halt.sessionId = s.sessionId := by
  unfold ScanSession.halt
  split <;> rfl

theorem evidence_restart (h : w.Evidence digests) (context : Context) :
    (w.step digests lower (.restart context)).Evidence digests := by
  have hstored : ∀ {id s}, (w.manager.restart context).sessions.lookup id = some s →
      ∃ old, w.manager.sessions.lookup id = some old ∧ old.halt = s := by
    intro id s hlookup
    rw [lookup_restart] at hlookup
    exact Option.map_eq_some_iff.mp hlookup
  constructor
  · intro id s hlookup
    obtain ⟨old, hold, rfl⟩ := hstored hlookup
    exact (halt_sessionId old).trans (h.keyed id old hold)
  · intro id s hlookup
    obtain ⟨old, hold, rfl⟩ := hstored hlookup
    exact ScanSession.halt_sound (h.sound id old hold)
  · intro id id' s s' hlookup hlookup' hactive hactive'
    obtain ⟨old, hold, rfl⟩ := hstored hlookup
    obtain ⟨old', hold', rfl⟩ := hstored hlookup'
    exact h.single id id' old old' hold hold' (halt_active.mp hactive) (halt_active.mp hactive')
  · intro id s hlookup d hd
    obtain ⟨old, hold, rfl⟩ := hstored hlookup
    rw [halt_maps] at hd
    exact h.recorded id old hold d hd

/-- While a session is active another one is not begun. -/
theorem not_active_of_nil {m : ScanManager} (h : m.active = []) {id : String} {s : ScanSession}
    (hlookup : m.sessions.lookup id = some s) : ¬ s.Active := by
  intro hactive
  have hmem : s ∈ m.active :=
    List.mem_filter.mpr ⟨List.mem_map_of_mem (AList.mem_lookup_iff.mp hlookup),
      by simpa using hactive⟩
  rw [h] at hmem
  cases hmem

/-- One session is written; it is active only if no other one is. -/
theorem evidence_insert (h : w.Evidence digests) (s : ScanSession) (world : WorldStore)
    (hs : s.Sound digests) (hsingle : s.Active → ∀ id' s', id' ≠ s.sessionId →
      w.manager.sessions.lookup id' = some s' → ¬ s'.Active) :
    ScanHistory.Evidence digests
      ⟨{ w.manager with sessions := w.manager.sessions.insert s.sessionId s, world := world },
        w.given ++ s.maps.map fun d => (s.sessionId, d)⟩ := by
  have hstored : ∀ {id t}, (w.manager.sessions.insert s.sessionId s).lookup id = some t →
      id = s.sessionId ∧ t = s ∨
        id ≠ s.sessionId ∧ w.manager.sessions.lookup id = some t := by
    intro id t hlookup
    by_cases hid : id = s.sessionId
    · subst hid
      rw [AList.lookup_insert] at hlookup
      exact .inl ⟨rfl, (Option.some.inj hlookup).symm⟩
    · rw [AList.lookup_insert_ne hid] at hlookup
      exact .inr ⟨hid, hlookup⟩
  constructor
  · intro id t hlookup
    rcases hstored hlookup with ⟨rfl, rfl⟩ | ⟨-, hold⟩
    · rfl
    · exact h.keyed id t hold
  · intro id t hlookup
    rcases hstored hlookup with ⟨rfl, rfl⟩ | ⟨-, hold⟩
    · exact hs
    · exact h.sound id t hold
  · intro id id' t t' hlookup hlookup' hactive hactive'
    rcases hstored hlookup with ⟨rfl, rfl⟩ | ⟨hne, hold⟩ <;>
      rcases hstored hlookup' with ⟨rfl, rfl⟩ | ⟨hne', hold'⟩
    · rfl
    · exact absurd hactive' (hsingle hactive id' t' hne' hold')
    · exact absurd hactive (hsingle hactive' id t hne hold)
    · exact h.single id id' t t' hold hold' hactive hactive'
  · intro id t hlookup d hd
    rcases hstored hlookup with ⟨rfl, rfl⟩ | ⟨-, hold⟩
    · exact List.mem_append_right _ (List.mem_map_of_mem hd)
    · exact List.mem_append_left _ (h.recorded id t hold d hd)

theorem evidence_call (h : w.Evidence digests) (op : ScanManager.Operation) :
    (w.step digests lower (.call op)).Evidence digests := by
  cases hresult : w.manager.perform digests lower op with
  | error raised =>
    rw [step_of_error hresult]
    exact h
  | ok result =>
    rw [step_of_ok hresult]
    have hperformed : Performed digests w.manager op result := perform_performed h.keyed hresult
    cases hperformed with
    | same id s hlookup =>
      refine ⟨h.keyed, h.sound, h.single, fun id' t hlookup' d hd => ?_⟩
      exact List.mem_append_left _ (h.recorded id' t hlookup' d hd)
    | begun id name mode hnone hactive =>
      refine evidence_insert h (.begun id name mode _) w.manager.world
        (ScanSession.begun_sound _ _ _ _) fun _ id' s' _ hlookup' => ?_
      exact not_active_of_nil hactive hlookup'
    | changed id s s' world hlookup hc =>
      refine evidence_insert h s' world (hc.sound (h.sound id s hlookup)) ?_
      intro hactive id' t hne hlookup' hactive'
      refine hne ?_
      rw [hc.sessionId_eq, h.keyed id s hlookup]
      exact h.single id' id t s hlookup' hlookup hactive' (hc.active hactive)

theorem evidence_step (h : w.Evidence digests) (e : Event) :
    (w.step digests lower e).Evidence digests := by
  cases e with
  | call op => exact evidence_call h op
  | restart context => exact evidence_restart h context
  | activate context => exact ⟨h.keyed, h.sound, h.single, h.recorded⟩
  | others world => exact ⟨h.keyed, h.sound, h.single, h.recorded⟩

theorem saved_step (h : w.Evidence digests) (e : Event) {id : String} {s : ScanSession}
    (hlookup : w.manager.sessions.lookup id = some s) (hsaved : s.status = .saved) :
    (w.step digests lower e).manager.sessions.lookup id = some s := by
  cases e with
  | call op =>
    cases hresult : w.manager.perform digests lower op with
    | error raised =>
      rw [step_of_error hresult]
      exact hlookup
    | ok result =>
      rw [step_of_ok hresult]
      have hperformed : Performed digests w.manager op result := perform_performed h.keyed hresult
      cases hperformed with
      | same id' t hlookup' => exact hlookup
      | begun id' name mode hnone hactive =>
        have hne : id ≠ id' := by
          rintro rfl
          cases hnone.symm.trans hlookup
        exact (AList.lookup_insert_ne hne).trans hlookup
      | changed id' t t' world hlookup' hc =>
        have hne : id ≠ t'.sessionId := by
          intro hid
          rw [hc.sessionId_eq, h.keyed id' t hlookup'] at hid
          subst hid
          cases hlookup.symm.trans hlookup'
          exact hc.open hsaved
        exact (AList.lookup_insert_ne hne).trans hlookup
  | restart context =>
    change (w.manager.restart context).sessions.lookup id = some s
    rw [lookup_restart, hlookup]
    have hhalt : s.halt = s := by simp [ScanSession.halt, hsaved]
    exact congrArg some hhalt
  | activate context => exact hlookup
  | others world => exact hlookup

/-! ## 3. Revisions -/

theorem mem_given_call (h : w.Evidence digests) {id : String} {d : MapDocument}
    (hd : (id, d) ∈ (w.step digests lower (.call op)).given) :
    (id, d) ∈ w.given ∨ w.manager.Gives digests op id d := by
  cases hresult : w.manager.perform digests lower op with
  | error raised =>
    rw [step_of_error hresult] at hd
    exact .inl hd
  | ok result =>
    rw [step_of_ok hresult] at hd
    rcases List.mem_append.mp hd with hold | hnew
    · exact .inl hold
    · obtain ⟨d', hd', heq⟩ := List.mem_map.mp hnew
      obtain ⟨rfl, rfl⟩ := Prod.mk.inj heq
      have hperformed : Performed digests w.manager op result := perform_performed h.keyed hresult
      cases hperformed with
      | same id s hlookup =>
        rw [h.keyed id s hlookup]
        exact .inl (h.recorded id s hlookup d' hd')
      | begun id name mode hnone hactive => cases hd'
      | changed id s s' world hlookup hc =>
        rw [hc.sessionId_eq]
        refine (hc.maps hd').imp_left fun hold => ?_
        rw [h.keyed id s hlookup]
        exact h.recorded id s hlookup d' hold

theorem given_of_gives (h : w.Evidence digests) {id : String} {d : MapDocument}
    (hgives : w.manager.Gives digests op id d) :
    (id, d) ∈ (w.step digests lower (.call op)).given := by
  cases op with
  | ingestMap sessionId document =>
    obtain ⟨rfl, rfl, s, nav, hget, hstatus, hnav, hframe, hother, hrevision, hencodes⟩ := hgives
    have hresult : w.manager.perform digests lower (.ingestMap id d) =
        .ok ({ w.manager with sessions := w.manager.sessions.insert s.sessionId (s.remap d nav) },
          s.remap d nav) := by
      change w.manager.ingestMap digests id d = _
      unfold ingestMap
      rw [hget]
      refine (if_neg (not_not.mpr hstatus)).trans ?_
      rw [hnav]
      refine (if_neg (not_not.mpr hframe)).trans ((if_neg hother).trans ?_)
      refine (if_neg hrevision).trans ?_
      exact if_pos hencodes
    rw [step_of_ok hresult]
    refine List.mem_append_right _ (List.mem_map.mpr ⟨d, ?_, ?_⟩)
    · exact ScanSession.mem_maps.mpr (.inl rfl)
    · exact congrArg (·, d) (h.keyed id s (get_eq_ok hget))
  | buildNavigation sessionId volume envelope now busy =>
    obtain ⟨rfl, s, source, fused, hget, hstatus, hsource, rfl, hcontext, hfused, rfl, hencodes⟩ :=
      hgives
    let d := bodyMap digests source envelope w.manager.context.calibrationId fused
    let written := s.navigate d (buildOf digests source d envelope fused)
    have hperform :
        w.manager.perform digests lower (.buildNavigation id volume envelope now false) =
          .ok ({ w.manager with sessions := w.manager.sessions.insert s.sessionId written },
            written) := by
      change w.manager.buildNavigation digests id volume envelope now false = _
      unfold buildNavigation
      rw [hget]
      refine (if_neg ?_).trans ((if_neg (not_not.mpr hcontext)).trans ?_)
      · simp [hstatus, hsource]
      · rw [depthEpoch_eq_ok hget hsource, hsource]
        change (fuseNavigationMap _ _ _ _ _ _ _ _ >>= _) = _
        rw [hfused]
        exact if_pos hencodes
    rw [step_of_ok hperform]
    refine List.mem_append_right _ (List.mem_map.mpr ⟨d, ?_, ?_⟩)
    · exact ScanSession.mem_maps.mpr (.inr rfl)
    · exact congrArg (·, d) (h.keyed id s (get_eq_ok hget))
  | _ => cases hgives

/-- An operation gives one map at most. -/
theorem gives_unique {m : ScanManager} {id id' : String} {d d' : MapDocument}
    (h : m.Gives digests op id d) (h' : m.Gives digests op id' d') : d = d' := by
  cases op with
  | ingestMap sessionId document =>
    obtain ⟨-, rfl, -⟩ := h
    obtain ⟨-, rfl, -⟩ := h'
    rfl
  | buildNavigation sessionId volume envelope now busy =>
    obtain ⟨-, s, source, fused, hget, -, hsource, -, -, hfused, rfl, -⟩ := h
    obtain ⟨-, s', source', fused', hget', -, hsource', -, -, hfused', rfl, -⟩ := h'
    cases hget.symm.trans hget'
    cases hsource.symm.trans hsource'
    cases hfused.symm.trans hfused'
    rfl
  | _ => cases h

/-- **A revision speaks for one document as long as it is not reused.** -/
theorem oneDocument_step_iff (h : w.Evidence digests) (hone : w.OneDocument) (e : Event) :
    (w.step digests lower e).OneDocument ↔ ¬ w.Reuses digests e := by
  cases e with
  | call op =>
    constructor
    · rintro hstep ⟨id, d, old, hgives, hold, hrevision, hne⟩
      refine hne (hstep id old d ?_ (given_of_gives h hgives) hrevision)
      cases hresult : w.manager.perform digests lower op with
      | error raised =>
        rw [step_of_error hresult]
        exact hold
      | ok result =>
        rw [step_of_ok hresult]
        exact List.mem_append_left _ hold
    · intro hreuses id a b ha hb hrevision
      rcases mem_given_call h ha with hold | hgives <;>
        rcases mem_given_call h hb with hold' | hgives'
      · exact hone id a b hold hold' hrevision
      · exact not_not.mp fun hne => hreuses ⟨id, b, a, hgives', hold, hrevision, hne⟩
      · exact (not_not.mp fun hne => hreuses ⟨id, a, b, hgives, hold', hrevision.symm, hne⟩).symm
      · exact gives_unique hgives hgives'
  | restart context => exact iff_of_true hone id
  | activate context => exact iff_of_true hone id
  | others world => exact iff_of_true hone id

/-! ## 4. The run -/

/-- What is claimed of an event: what is there after it, and what it leaves alone. -/
structure Kept (digests : ScanDigests) (lower : String → String) (w : ScanHistory) (e : Event) :
    Prop where
  single : ∀ id id' s s', (w.step digests lower e).manager.sessions.lookup id = some s →
    (w.step digests lower e).manager.sessions.lookup id' = some s' →
    s.Active → s'.Active → id = id'
  shown : ∀ id s, (w.step digests lower e).manager.sessions.lookup id = some s →
    ∀ c ∈ s.captures, ∃ document, s.mapDocument = some document ∧ ScanSession.Shows document c
  generated : ∀ id s, (w.step digests lower e).manager.sessions.lookup id = some s →
    s.navigationReady = true → ∃ source, s.mapDocument = some source ∧ s.Generated digests source
  revisions : (w.step digests lower e).OneDocument
  saved : ∀ id s, w.manager.sessions.lookup id = some s → s.status = .saved →
    (w.step digests lower e).manager.sessions.lookup id = some s

theorem kept_of_evidence (h : w.Evidence digests)
    (hone : (w.step digests lower e).OneDocument) : Kept digests lower w e where
  single := (evidence_step h e).single
  shown id s hlookup := ((evidence_step h e).sound id s hlookup).shown
  generated id s hlookup := ((evidence_step h e).sound id s hlookup).generated
  revisions := hone
  saved _ _ hlookup hsaved := saved_step h e hlookup hsaved

/-- **The evidence of every session is what it is taken for exactly as long as no map comes under a
revision that another map of its session has had.** -/
theorem provenance_kept (digests : ScanDigests) (lower : String → String) (context : Context)
    (world : WorldStore) (l : List Event) :
    (∀ before e after, l = before ++ e :: after →
      Kept digests lower (run (step digests lower) (init context world) before) e) ↔
      Along (step digests lower) (fun w e => ¬ w.Reuses digests e) (init context world) l := by
  have hevidence : ∀ before,
      (run (step digests lower) (init context world) before).Evidence digests := fun before =>
    run_invariant_all (I := Evidence digests) (fun _ e hw => evidence_step hw e) before
      (evidence_init context world)
  have hfirst : (init context world).OneDocument := by
    intro id a b ha
    cases ha
  have hinvariant : (∀ before after, l = before ++ after →
      (run (step digests lower) (init context world) before).Evidence digests ∧
        (run (step digests lower) (init context world) before).OneDocument) ↔
      Along (step digests lower) (fun w e => ¬ w.Reuses digests e) (init context world) l :=
    invariant_iff_along (I := fun w : ScanHistory => w.Evidence digests ∧ w.OneDocument)
      (fun w e h => ⟨fun hnext => (oneDocument_step_iff h.1 h.2 e).mp hnext.2, fun hreuses =>
        ⟨evidence_step h.1 e, (oneDocument_step_iff h.1 h.2 e).mpr hreuses⟩⟩)
      l ⟨evidence_init context world, hfirst⟩
  constructor
  · intro h
    refine hinvariant.mp ?_
    rintro before after rfl
    refine ⟨hevidence before, ?_⟩
    rcases List.eq_nil_or_concat before with rfl | ⟨before, e, rfl⟩
    · exact hfirst
    · have hkept := (h before e after (by simp)).revisions
      rwa [List.concat_eq_append, run_append]
  · intro halong before e after hl
    refine kept_of_evidence (hevidence before) ?_
    have hnext := (hinvariant.mpr halong (before ++ [e]) after (by simp [hl])).2
    rwa [run_append] at hnext

/-- A room of three cells by three, with this row in the middle. -/
def room (revision row : String) : MapDocument where
  mapId := "home"
  revision
  floorId := "1"
  frameId := "map"
  floorZ := .finite 0
  resolution := .finite 1
  originX := .finite 0
  originY := .finite 0
  rows := ["...", row, "..."]
  robotRadius := .finite (1 / 2)
  clearance := .finite 0
  surfaceTolerance := .finite (1 / 100)

def sameDigests : ScanDigests := ⟨fun _ _ _ => "", fun _ => "", fun _ _ _ _ => "", fun _ _ => "",
  fun _ => true⟩

/-- The first revision is taken in again after the second, and it is another map. -/
def returning : List Event :=
  [.call (.start "scan" "home" (some .replay) false), .call (.ingestMap "scan" (room "1" "...")),
    .call (.ingestMap "scan" (room "2" "..."))]

theorem revision_returns : ¬ ∀ before e after,
    returning ++ [.call (.ingestMap "scan" (room "1" ".#."))] = before ++ e :: after →
      Kept sameDigests id
        (run (step sameDigests id) (init ⟨"home", "1", "cal", "clock", "map"⟩ .empty) before) e := by
  intro h
  have hone := (h returning (.call (.ingestMap "scan" (room "1" ".#."))) [] rfl).revisions
  have hgiven : ∀ d ∈ [room "1" "...", room "1" ".#."], ("scan", d) ∈
      (step sameDigests id (run (step sameDigests id)
        (init ⟨"home", "1", "cal", "clock", "map"⟩ .empty) returning)
          (.call (.ingestMap "scan" (room "1" ".#.")))).given := by
    decide +kernel
  have hsame := hone "scan" (room "1" "...") (room "1" ".#.") (hgiven _ (by simp))
    (hgiven _ (by simp)) rfl
  revert hsame
  decide

end ScanHistory

end MobileBimanual.Tasks
