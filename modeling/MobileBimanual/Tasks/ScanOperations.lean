/-
# What an operation may do to a session

An operation that is accepted is one of `Changes` to one session, or begins a session while every
other one is over (`perform_performed`).  Each change keeps that what a session has belongs to the
map that it has (`Changes.sound`).
-/
import MobileBimanual.Tasks.ScanManager

namespace MobileBimanual.Tasks

/-! ## 1. One session -/

namespace ScanSession

def maps (s : ScanSession) : List MapDocument :=
  s.mapDocument.toList ++ s.navigationMapDocument.toList

theorem mem_maps {s : ScanSession} {d : MapDocument} :
    d ∈ s.maps ↔ s.mapDocument = some d ∨ s.navigationMapDocument = some d := by
  simp [maps, Option.mem_toList]

/-- The capture was stamped for the map and lies in a free cell of it. -/
def Shows (document : MapDocument) (c : ScanCapture) : Prop :=
  ∃ nav, NavigationMap.create document = .ok nav ∧
    c.stamp.context.mapRevision = document.revision ∧
    nav.Inside (nav.cellOf c.x c.y) ∧ nav.observedAt (nav.cellOf c.x c.y) = '.'

/-- The map to travel by is generated from the map, the context and the depth of the session. -/
def Generated (digests : ScanDigests) (s : ScanSession) (source : MapDocument) : Prop :=
  ∃ volume envelope now fused,
    fuseNavigationMap source volume envelope s.context.calibrationId
      (ScanManager.epochOf digests s source) "scan-projection-candidate" now
      (some .globalRouteProposal) = .ok fused ∧
    s.navigationMapDocument =
      some (ScanManager.bodyMap digests source envelope s.context.calibrationId fused)

/-- What the session has belongs to the map that it has. -/
structure Sound (digests : ScanDigests) (s : ScanSession) : Prop where
  shown : ∀ c ∈ s.captures, ∃ document, s.mapDocument = some document ∧ Shows document c
  generated : s.navigationReady = true →
    ∃ source, s.mapDocument = some source ∧ s.Generated digests source

variable {digests : ScanDigests} {s : ScanSession}

theorem begun_sound (sessionId name : String) (mode : ScanMode) (context : Context) :
    (begun sessionId name mode context).Sound digests where
  shown := by
    intro c hc
    cases hc
  generated := by
    intro h
    cases h

/-- A change that leaves map, captures and the map to travel by as they are. -/
theorem Sound.congr {s' : ScanSession} (h : s.Sound digests) (hid : s'.sessionId = s.sessionId)
    (hcontext : s'.context = s.context) (hmap : s'.mapDocument = s.mapDocument)
    (hcaptures : s'.captures = s.captures)
    (hnavigation : s'.navigationMapDocument = s.navigationMapDocument)
    (hready : s'.navigationReady = true → s.navigationReady = true) : s'.Sound digests where
  shown := by
    rw [hcaptures, hmap]
    exact h.shown
  generated := by
    intro hr
    obtain ⟨source, hsource, volume, envelope, now, fused, hfused, hdocument⟩ :=
      h.generated (hready hr)
    refine ⟨source, hmap.trans hsource, volume, envelope, now, fused, ?_, ?_⟩
    · unfold ScanManager.epochOf
      rw [hid, hcontext]
      exact hfused
    · rw [hnavigation, hcontext]
      exact hdocument

theorem halt_sound (h : s.Sound digests) : s.halt.Sound digests := by
  unfold halt
  split
  · exact h.congr rfl rfl rfl rfl rfl id
  · exact h

/-- A map that is new takes what belongs to the one before. -/
theorem remap_sound (h : s.Sound digests) (document : MapDocument) (nav : NavigationMap) :
    (s.remap document nav).Sound digests where
  shown := by
    intro c hc
    change c ∈ (if s.mapDocument.isSome then [] else s.captures) at hc
    split at hc
    · cases hc
    next hnone =>
      obtain ⟨old, hold, -⟩ := h.shown c hc
      rw [hold] at hnone
      exact absurd rfl hnone
  generated := by
    intro hr
    cases hr

end ScanSession

/-! ## 2. Operations -/

namespace ScanManager

inductive Operation where
  | start (sessionId name : String) (mode : Option ScanMode) (busy : Bool)
  | pause (sessionId : String)
  | resume (sessionId : String) (busy : Bool)
  | ingestMap (sessionId : String) (document : MapDocument)
  | buildNavigation (sessionId : String) (volume : DepthVolume) (envelope : TravelEnvelope)
    (now : Scalar) (busy : Bool)
  | observe (sessionId : String) (d : ScanCaptureDocument) (now : Scalar)
  | review (sessionId : String)
  | label (sessionId regionId label : String)
  | save (sessionId : String) (busy : Bool)
  | discard (sessionId : String)

variable (digests : ScanDigests) (lower : String → String)

def perform (m : ScanManager) : Operation → Except Raised (ScanManager × ScanSession)
  | .start sessionId name mode busy => m.start digests sessionId name mode busy
  | .pause sessionId => m.pause digests sessionId
  | .resume sessionId busy => m.resume digests sessionId busy
  | .ingestMap sessionId document => m.ingestMap digests sessionId document
  | .buildNavigation sessionId volume envelope now busy =>
    m.buildNavigation digests sessionId volume envelope now busy
  | .observe sessionId d now => m.observe digests sessionId d now
  | .review sessionId => m.review digests sessionId
  | .label sessionId regionId label => m.label digests sessionId regionId label
  | .save sessionId busy => m.save digests lower sessionId busy
  | .discard sessionId => m.discard digests sessionId

def Gives (m : ScanManager) : Operation → String → MapDocument → Prop
  | .ingestMap sessionId document, id, d => id = sessionId ∧ d = document ∧
      ∃ s nav, m.get sessionId = .ok s ∧ s.status = .scanning ∧
        NavigationMap.create document = .ok nav ∧
        (nav.mapId, nav.document.frameId) = (m.context.mapId, m.context.frameId) ∧
        s.mapDocument ≠ some document ∧ ¬ s.mapDocument.any (·.revision = nav.revision) ∧
        digests.encodes (s.remap document nav)
  | .buildNavigation sessionId volume envelope now busy, id, d => id = sessionId ∧
      ∃ s source fused, m.get sessionId = .ok s ∧ s.status = .scanning ∧
        s.mapDocument = some source ∧ busy = false ∧ s.context = m.context ∧
        fuseNavigationMap source volume envelope m.context.calibrationId
          (epochOf digests s source) "scan-projection-candidate" now
          (some .globalRouteProposal) = .ok fused ∧
        d = bodyMap digests source envelope m.context.calibrationId fused ∧
        digests.encodes (s.navigate d (buildOf digests source d envelope fused))
  | _, _, _ => False

/-- What an operation may make of a session. -/
inductive Changes (m : ScanManager) (op : Operation) (s : ScanSession) : ScanSession → Prop
  | moved (status : ScanStatus) (reason : String) (hactive : s.Active) :
    Changes m op s { s with status, reason }
  | mapped (document : MapDocument) (nav : NavigationMap) (hactive : s.Active)
    (hgives : m.Gives digests op s.sessionId document) : Changes m op s (s.remap document nav)
  | navigated (source : MapDocument) (volume : DepthVolume) (envelope : TravelEnvelope)
    (now : Scalar) (fused : FusedMap) (build : NavigationBuild) (hactive : s.Active)
    (hsource : s.mapDocument = some source)
    (hfused : fuseNavigationMap source volume envelope s.context.calibrationId
      (epochOf digests s source) "scan-projection-candidate" now
      (some .globalRouteProposal) = .ok fused)
    (hgives : m.Gives digests op s.sessionId
      (bodyMap digests source envelope s.context.calibrationId fused)) :
    Changes m op s
      (s.navigate (bodyMap digests source envelope s.context.calibrationId fused) build)
  | shown (document : MapDocument) (capture : ScanCapture) (regions : List Region)
    (surfaceViews : List String) (hactive : s.Active) (hsource : s.mapDocument = some document)
    (hshows : ScanSession.Shows document capture) :
    Changes m op s { s with captures := s.captures ++ [capture], regions, surfaceViews }
  | labelled (regions : List Region) (hactive : s.Active) : Changes m op s { s with regions }
  | saved (reason : String) (ready : Bool) (rooms : List String) (hactive : s.Active)
    (hready : ready = true → s.navigationReady = true) :
    Changes m op s
      { s with status := .saved, reason, navigationReady := ready, roomEntityIds := rooms }
  | discarded (hsaved : s.status ≠ .saved) :
    Changes m op s { s with
      status := .discarded
      captures := []
      surfaceViews := []
      regions := []
      mapDocument := none
      navigationMapDocument := none
      navigationBuild := none
      navigationReady := false }

/-- What an operation that is accepted may do. -/
inductive Performed (m : ScanManager) (op : Operation) : ScanManager × ScanSession → Prop
  | same (id : String) (s : ScanSession) (h : m.sessions.lookup id = some s) :
    Performed m op (m, s)
  | begun (id name : String) (mode : ScanMode) (hnone : m.sessions.lookup id = none)
    (hactive : m.active = []) :
    Performed m op ({ m with sessions := m.sessions.insert id (.begun id name mode m.context) },
      .begun id name mode m.context)
  | changed (id : String) (s s' : ScanSession) (world : WorldStore)
    (h : m.sessions.lookup id = some s) (hc : Changes digests m op s s') :
    Performed m op
      ({ m with sessions := m.sessions.insert s'.sessionId s', world := world }, s')

variable {digests lower} {m m' : ScanManager} {op : Operation} {s s' : ScanSession} {id : String}

theorem Changes.sessionId_eq (h : Changes digests m op s s') : s'.sessionId = s.sessionId := by
  cases h <;> rfl

/-- A session that is over stays over. -/
theorem Changes.active (h : Changes digests m op s s') (hactive : s'.Active) : s.Active := by
  cases h with
  | discarded hsaved =>
    rcases hactive with h | h | h <;> cases h
  | _ => assumption

theorem Changes.open (h : Changes digests m op s s') : s.status ≠ .saved := by
  have hactive : s.Active → s.status ≠ .saved := by
    rintro (h | h | h) <;> rw [h] <;> decide
  cases h with
  | discarded hsaved => exact hsaved
  | _ => exact hactive (by assumption)

theorem Changes.sound (h : Changes digests m op s s') (hs : s.Sound digests) :
    s'.Sound digests := by
  cases h with
  | moved status reason hactive => exact hs.congr rfl rfl rfl rfl rfl id
  | mapped document nav hactive hgives => exact s.remap_sound hs document nav
  | navigated source volume envelope now fused build hactive hsource hfused hgives =>
    exact ⟨hs.shown, fun _ => ⟨source, hsource, volume, envelope, now, fused, hfused, rfl⟩⟩
  | shown document capture regions surfaceViews hactive hsource hshows =>
    refine ⟨fun c hc => ?_, hs.generated⟩
    rcases List.mem_append.mp hc with hold | hnew
    · exact hs.shown c hold
    · rw [List.mem_singleton.mp hnew]
      exact ⟨document, hsource, hshows⟩
  | labelled regions hactive => exact hs.congr rfl rfl rfl rfl rfl id
  | saved reason ready rooms hactive hready => exact hs.congr rfl rfl rfl rfl rfl hready
  | discarded hsaved =>
    refine ⟨fun c hc => ?_, fun hr => ?_⟩
    · cases hc
    · cases hr

theorem Changes.maps (h : Changes digests m op s s') {d : MapDocument} (hd : d ∈ s'.maps) :
    d ∈ s.maps ∨ m.Gives digests op s.sessionId d := by
  cases h with
  | mapped document nav hactive hgives =>
    rcases ScanSession.mem_maps.mp hd with hmap | hnav
    · cases hmap
      exact .inr hgives
    · cases hnav
  | navigated source volume envelope now fused build hactive hsource hfused hgives =>
    rcases ScanSession.mem_maps.mp hd with hmap | hnav
    · exact .inl (ScanSession.mem_maps.mpr (.inl hmap))
    · cases hnav
      exact .inr hgives
  | discarded hsaved => cases hd
  | _ => exact .inl hd

/-! ## 3. What each operation may do -/

theorem get_eq_ok (h : m.get id = .ok s) : m.sessions.lookup id = some s := by
  unfold get at h
  obtain ⟨id', hid, hfound⟩ := Except.bind_eq_ok_iff.mp h
  rw [(identifier_eq_ok hid).1] at hfound
  cases hlookup : m.sessions.lookup id with
  | none =>
    rw [hlookup] at hfound
    cases hfound
  | some old =>
    rw [hlookup] at hfound
    exact congrArg some (Except.ok.inj hfound)

variable {result : ScanManager × ScanSession}

theorem saveRecord_eq_ok (h : m.saveRecord digests s = .ok result) : digests.encodes s = true ∧
      result = ({ m with sessions := m.sessions.insert s.sessionId s }, s) := by
  unfold saveRecord at h
  split at h
  next hencodes => exact ⟨hencodes, (Except.ok.inj h).symm⟩
  · cases h

/-- A change that is written. -/
theorem performed_of_save (hs : m.sessions.lookup id = some s)
    (h : m.saveRecord digests s' = .ok result)
    (hc : digests.encodes s' = true → Changes digests m op s s') :
    Performed digests m op result := by
  obtain ⟨hencodes, rfl⟩ := saveRecord_eq_ok h
  exact .changed id s s' m.world hs (hc hencodes)

variable {busy : Bool}

theorem start_performed {name : String} {mode : Option ScanMode}
    (h : m.start digests id name mode busy = .ok result) : Performed digests m op result := by
  unfold start at h
  obtain ⟨id', hid, h⟩ := Except.bind_eq_ok_iff.mp h
  obtain ⟨name', -, h⟩ := Except.bind_eq_ok_iff.mp h
  cases mode with
  | none => cases h
  | some mode =>
    dsimp only at h
    cases hlookup : m.sessions.lookup id' with
    | some previous =>
      rw [hlookup] at h
      dsimp only at h
      split at h
      · cases h
      · cases h
        exact .same id' previous hlookup
    | none =>
      rw [hlookup] at h
      dsimp only at h
      split at h
      · cases h
      next hidle =>
        split at h
        · cases h
        · obtain ⟨-, rfl⟩ := saveRecord_eq_ok h
          exact .begun id' name' mode hlookup (not_not.mp (not_or.mp hidle).2)

theorem pause_performed (h : m.pause digests id = .ok result) : Performed digests m op result := by
  unfold pause at h
  obtain ⟨s, hget, h⟩ := Except.bind_eq_ok_iff.mp h
  split at h
  · cases h
  next hstatus =>
    refine performed_of_save (get_eq_ok hget) h fun _ => .moved _ _ ?_
    unfold ScanSession.Active
    tauto

theorem resume_performed (h : m.resume digests id busy = .ok result) :
    Performed digests m op result := by
  unfold resume at h
  obtain ⟨s, hget, h⟩ := Except.bind_eq_ok_iff.mp h
  split at h
  · cases h
  next hstatus =>
    split at h
    · cases h
    · refine performed_of_save (get_eq_ok hget) h fun _ => .moved _ _ ?_
      unfold ScanSession.Active
      tauto

theorem review_performed (h : m.review digests id = .ok result) :
    Performed digests m op result := by
  unfold review at h
  obtain ⟨s, hget, h⟩ := Except.bind_eq_ok_iff.mp h
  split at h
  · cases h
  next hstatus =>
    exact performed_of_save (get_eq_ok hget) h fun _ =>
      .moved _ _ (not_not.mp (not_or.mp hstatus).1)

theorem label_performed {regionId label : String}
    (h : m.label digests id regionId label = .ok result) : Performed digests m op result := by
  unfold ScanManager.label at h
  obtain ⟨s, hget, h⟩ := Except.bind_eq_ok_iff.mp h
  split at h
  · cases h
  next hstatus =>
    split at h
    · cases h
    · obtain ⟨label', -, h⟩ := Except.bind_eq_ok_iff.mp h
      exact performed_of_save (get_eq_ok hget) h fun _ =>
        .labelled _ (.inr (.inr (not_not.mp hstatus)))

theorem discard_performed (h : m.discard digests id = .ok result) :
    Performed digests m op result := by
  unfold discard at h
  obtain ⟨s, hget, h⟩ := Except.bind_eq_ok_iff.mp h
  split at h
  · cases h
  next hsaved => exact performed_of_save (get_eq_ok hget) h fun _ => .discarded hsaved

/-- The epoch that is expected is that of the session. -/
theorem depthEpoch_eq_ok {source : MapDocument} (hget : m.get id = .ok s)
    (hsource : s.mapDocument = some source) :
    m.depthEpoch digests id = .ok (epochOf digests s source) := by
  unfold depthEpoch
  rw [hget]
  dsimp only [bind, Except.bind]
  rw [hsource]

theorem ingestMap_performed (hkey : ∀ id s, m.sessions.lookup id = some s → s.sessionId = id)
    {document : MapDocument} (h : m.ingestMap digests id document = .ok result) :
    Performed digests m (.ingestMap id document) result := by
  unfold ingestMap at h
  obtain ⟨s, hget, h⟩ := Except.bind_eq_ok_iff.mp h
  have hlookup := get_eq_ok hget
  split at h
  · cases h
  next hstatus =>
    have hscanning := not_not.mp hstatus
    obtain ⟨nav, hnav, h⟩ := Except.bind_eq_ok_iff.mp h
    split at h
    · cases h
    next hframe =>
      split at h
      · cases h
        exact .same id s hlookup
      next hother =>
        split at h
        · cases h
        next hrevision =>
          refine performed_of_save hlookup h fun hencodes =>
            .mapped document nav (.inl hscanning) ?_
          exact ⟨hkey id s hlookup, rfl, s, nav, hget, hscanning, hnav, not_not.mp hframe, hother,
            hrevision, hencodes⟩

variable {now : Scalar}

theorem buildNavigation_performed (hkey : ∀ id s, m.sessions.lookup id = some s → s.sessionId = id)
    {volume : DepthVolume} {envelope : TravelEnvelope}
    (h : m.buildNavigation digests id volume envelope now busy = .ok result) :
    Performed digests m (.buildNavigation id volume envelope now busy) result := by
  unfold buildNavigation at h
  obtain ⟨s, hget, h⟩ := Except.bind_eq_ok_iff.mp h
  have hlookup := get_eq_ok hget
  split at h
  · cases h
  next hidle =>
    have hscanning : s.status = .scanning := not_not.mp (not_or.mp hidle).1
    have hbusy : busy = false := Bool.eq_false_iff.mpr (not_or.mp (not_or.mp hidle).2).2
    split at h
    · cases h
    next hcontext =>
      have hcontext := not_not.mp hcontext
      obtain ⟨epoch, hepoch, h⟩ := Except.bind_eq_ok_iff.mp h
      cases hsource : s.mapDocument with
      | none =>
        rw [hsource] at h
        cases h
      | some source =>
        rw [hsource] at h
        rw [depthEpoch_eq_ok hget hsource] at hepoch
        obtain rfl := Except.ok.inj hepoch
        obtain ⟨fused, hfused, hwritten⟩ := Except.bind_eq_ok_iff.mp h
        refine performed_of_save hlookup hwritten fun hencodes => ?_
        rw [← hcontext] at hfused hencodes ⊢
        refine .navigated source volume envelope now fused _ (.inl hscanning) hsource hfused ?_
        refine ⟨hkey id s hlookup, s, source, fused, hget, hscanning, hsource, hbusy, hcontext, ?_,
          ?_, ?_⟩
        · rw [← hcontext]
          exact hfused
        · rw [← hcontext]
        · exact hencodes

theorem parse_eq_ok {d : ScanCaptureDocument} {expected : Context} {capture : ScanCapture}
    (h : ScanCaptureDocument.parse d expected now = .ok capture) :
    capture.stamp.context = expected := by
  unfold ScanCaptureDocument.parse at h
  obtain ⟨stamp, -, h⟩ := Except.bind_eq_ok_iff.mp h
  obtain ⟨_, hchecked, h⟩ := Except.bind_eq_ok_iff.mp h
  have hcontext : stamp.context = expected := by
    by_contra hne
    unfold Stamp.check at hchecked
    rw [if_pos hne] at hchecked
    cases hchecked
  split at h
  · obtain ⟨x, -, h⟩ := Except.bind_eq_ok_iff.mp h
    obtain ⟨y, -, h⟩ := Except.bind_eq_ok_iff.mp h
    split at h
    · cases h
    · obtain ⟨-, -, h⟩ := Except.bind_eq_ok_iff.mp h
      obtain ⟨-, -, h⟩ := Except.bind_eq_ok_iff.mp h
      cases h
      exact hcontext
  · cases h

theorem observe_performed {d : ScanCaptureDocument} (h : m.observe digests id d now = .ok result) :
    Performed digests m op result := by
  unfold observe at h
  obtain ⟨s, hget, h⟩ := Except.bind_eq_ok_iff.mp h
  have hlookup := get_eq_ok hget
  split at h
  next document hscanning hsource =>
    obtain ⟨capture, hparsed, h⟩ := Except.bind_eq_ok_iff.mp h
    split at h
    · split at h
      · cases h
      · cases h
        exact .same id s hlookup
    · split at h
      · cases h
      · obtain ⟨nav, hnav, h⟩ := Except.bind_eq_ok_iff.mp h
        dsimp only at h
        split at h
        · cases h
        next hfree =>
          obtain ⟨hinside, hcell⟩ := not_or.mp hfree
          refine performed_of_save hlookup h fun _ =>
            .shown document capture _ _ (.inl hscanning) hsource ⟨nav, hnav, ?_, ?_, ?_⟩
          · rw [parse_eq_ok hparsed]
          · exact not_not.mp hinside
          · exact not_not.mp hcell
  · cases h

/-- A document to travel by is there only while the session has one. -/
theorem navigationDocument_isSome {document : Option MapDocument} (hget : m.get id = .ok s)
    (h : m.navigationDocument digests id = .ok document) (hsome : document.isSome = true) :
    s.navigationReady = true := by
  unfold navigationDocument at h
  rw [hget] at h
  dsimp only [bind, Except.bind] at h
  split at h
  next hready => exact hready
  · cases h
    cases hsome

theorem save_performed (h : m.save digests lower id busy = .ok result) :
    Performed digests m op result := by
  unfold save at h
  obtain ⟨s, hget, h⟩ := Except.bind_eq_ok_iff.mp h
  have hlookup := get_eq_ok hget
  split at h
  · cases h
    exact .same id s hlookup
  · split at h
    · cases h
    next hidle =>
      have hreview : s.status = .review := not_not.mp (not_or.mp hidle).1
      obtain ⟨navigation, hnavigation, h⟩ := Except.bind_eq_ok_iff.mp h
      split at h
      · cases h
      · obtain ⟨nav, -, h⟩ := Except.bind_eq_ok_iff.mp h
        obtain ⟨rooms, -, h⟩ := Except.bind_eq_ok_iff.mp h
        obtain ⟨maps, -, h⟩ := Except.bind_eq_ok_iff.mp h
        obtain ⟨entities, -, h⟩ := Except.bind_eq_ok_iff.mp h
        obtain ⟨⟨written, saved⟩, hwritten, h⟩ := Except.bind_eq_ok_iff.mp h
        obtain ⟨-, heq⟩ := saveRecord_eq_ok hwritten
        obtain ⟨rfl, rfl⟩ := Prod.mk.inj heq
        cases h
        exact .changed id s _ ⟨maps, entities⟩ hlookup (.saved _ _ _ (.inr (.inr hreview))
          (navigationDocument_isSome hget hnavigation))

/-- **What is accepted is one of the changes.** -/
theorem perform_performed (hkey : ∀ id s, m.sessions.lookup id = some s → s.sessionId = id)
    (h : m.perform digests lower op = .ok result) : Performed digests m op result := by
  cases op with
  | start sessionId name mode busy => exact start_performed h
  | pause sessionId => exact pause_performed h
  | resume sessionId busy => exact resume_performed h
  | ingestMap sessionId document => exact ingestMap_performed hkey h
  | buildNavigation sessionId volume envelope now busy => exact buildNavigation_performed hkey h
  | observe sessionId d now => exact observe_performed h
  | review sessionId => exact review_performed h
  | label sessionId regionId label => exact label_performed h
  | save sessionId busy => exact save_performed h
  | discard sessionId => exact discard_performed h

end ScanManager

end MobileBimanual.Tasks
