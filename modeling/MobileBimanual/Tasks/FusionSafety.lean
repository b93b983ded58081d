/-
# The fused map is conservative

The history of a volume is the images that it has accepted since the last reset, the newest first.
What the volume says of a voxel is what the last image that touched it said (`lookup_eq_last`), so a
cell of the fused map is free only where the laser saw it free and those images saw every layer of
its column free.
-/
import MobileBimanual.Lib.Machine
import MobileBimanual.Tasks.BlockedCells
import MobileBimanual.Tasks.NavigationFusion

namespace MobileBimanual.Tasks

open Machine DepthVolume

/-! ## 1. The history of a volume -/

namespace Traversal

/-- The image says something of the voxel. -/
def Touches (found : Traversal) (cell : Voxel) : Prop := cell ∈ found.hits ∨ cell ∈ found.cleared

instance (found : Traversal) (cell : Voxel) : Decidable (found.Touches cell) :=
  inferInstanceAs (Decidable (_ ∨ _))

end Traversal

/-- Accepted images with their stamps. -/
abbrev DepthHistory := List (ℚ × Traversal)

namespace DepthHistory

/-- The last image that touched the voxel. -/
def last (history : DepthHistory) (cell : Voxel) : Option (ℚ × Traversal) :=
  history.find? fun image => image.2.Touches cell

/-- That image hit it. -/
def Occupied (history : DepthHistory) (cell : Voxel) : Prop :=
  ∃ image ∈ history.last cell, cell ∈ image.2.hits

/-- That image saw it free. -/
def SeenFree (history : DepthHistory) (cell : Voxel) : Prop :=
  ∃ image ∈ history.last cell, cell ∈ image.2.cleared ∧ cell ∉ image.2.hits

end DepthHistory

namespace DepthVolume

abbrev World := DepthVolume × DepthHistory

inductive Op where
  | reset (epoch : String)
  | integrate (image : DepthImage)

def step (w : World) : Op → World
  | .reset epoch =>
    match w.1.reset epoch with
    | (v, .ok ()) => (v, [])
    | (v, .error _) => (v, w.2)
  | .integrate image =>
    match w.1.traverse image with
    | .ok found => ((w.1.integrate image).1, found :: w.2)
    | .error _ => ((w.1.integrate image).1, w.2)

/-- What the volume says of a voxel is what the last image said of it. -/
def Faithful (w : World) : Prop := ∀ cell, w.1.cells.lookup cell =
  (w.2.last cell).map fun image => (decide (cell ∈ image.2.hits), image.1)

theorem lookup_mark (value : Bool × ℚ) (cells : AList fun _ : Voxel => Bool × ℚ) (l : List Voxel)
    (cell : Voxel) :
    (mark value cells l).lookup cell = if cell ∈ l then some value else cells.lookup cell := by
  induction l generalizing cells with
  | nil => rfl
  | cons other l ih =>
    change (mark value (cells.insert other value) l).lookup cell = _
    rw [ih]
    by_cases hin : cell ∈ l
    · rw [if_pos hin, if_pos (List.mem_cons_of_mem _ hin)]
    · rw [if_neg hin]
      by_cases hsame : cell = other
      · rw [hsame, AList.lookup_insert, if_pos List.mem_cons_self]
      · rw [AList.lookup_insert_ne hsame, if_neg]
        simp [hsame, hin]

theorem lookup_take (v : DepthVolume) (stamp : ℚ) (found : Traversal) (cell : Voxel) :
    (v.take stamp found).cells.lookup cell =
      if found.Touches cell then some (decide (cell ∈ found.hits), stamp)
      else v.cells.lookup cell := by
  change (mark _ (mark _ _ _) _).lookup cell = _
  rw [lookup_mark, lookup_mark]
  unfold Traversal.Touches
  by_cases hhit : cell ∈ found.hits
  · simp [hhit]
  · by_cases hcleared : cell ∈ found.cleared <;> simp [hhit, hcleared]

/-- An operation leaves the voxels, or forgets them, or takes an image. -/
theorem step_cases (w : World) (op : Op) :
    (∃ v : DepthVolume, step w op = (v, w.2) ∧ v.cells = w.1.cells ∧ v.profile = w.1.profile) ∨
      (∃ v : DepthVolume, step w op = (v, []) ∧ v.cells = ∅ ∧ v.profile = w.1.profile) ∨
      ∃ stamp found, step w op = (w.1.take stamp found, (stamp, found) :: w.2) := by
  cases op with
  | reset epoch =>
    by_cases hrefused : epoch = "" ∨ some epoch = w.1.epoch
    · exact .inl ⟨w.1, by simp [step, reset, hrefused], rfl, rfl⟩
    · exact .inr (.inl ⟨(w.1.reset epoch).1, by simp [step, reset, hrefused],
        by simp [reset, hrefused], by simp [reset, hrefused]⟩)
  | integrate image =>
    cases htraverse : w.1.traverse image with
    | error raised =>
      exact .inl ⟨(w.1.integrate image).1, by simp [step, htraverse],
        by simp [integrate, htraverse], by simp [integrate, htraverse]⟩
    | ok found =>
      exact .inr (.inr ⟨found.1, found.2, by simp [step, integrate, htraverse]⟩)

theorem faithful_step (w : World) (op : Op) (h : Faithful w) : Faithful (step w op) := by
  intro cell
  rcases step_cases w op with ⟨v, hstep, hcells, -⟩ | ⟨v, hstep, hcells, -⟩ | ⟨stamp, found, hstep⟩
  · rw [hstep, hcells]
    exact h cell
  · rw [hstep, hcells]
    rfl
  · rw [hstep]
    dsimp only
    rw [lookup_take, h cell]
    by_cases htouches : found.Touches cell
    · simp [DepthHistory.last, htouches]
    · simp [DepthHistory.last, htouches]

theorem profile_step (w : World) (op : Op) : (step w op).1.profile = w.1.profile := by
  rcases step_cases w op with ⟨v, hstep, -, hsame⟩ | ⟨v, hstep, -, hsame⟩ | ⟨stamp, found, hstep⟩
  · rw [hstep, hsame]
  · rw [hstep, hsame]
  · rw [hstep]
    rfl

theorem faithful_run (p : DepthProfile) (l : List Op) : Faithful (run step (init p, []) l) :=
  run_invariant_all faithful_step l fun _ => rfl

theorem profile_run (p : DepthProfile) (l : List Op) :
    (run step (init p, []) l).1.profile = p :=
  run_invariant_all (I := fun w : World => w.1.profile = p)
    (fun w op h => (profile_step w op).trans h) l rfl

variable {w : World} {cell : Voxel}

theorem occupied_iff (h : Faithful w) :
    w.2.Occupied cell ↔ ∃ stamp, w.1.cells.lookup cell = some (true, stamp) := by
  rw [h cell]
  unfold DepthHistory.Occupied
  cases w.2.last cell with
  | none => simp
  | some image => simp

/-- An obstacle of the volume is a voxel that was hit. -/
theorem obstacle_iff (h : Faithful w) (x y : ℤ) :
    w.1.Obstacle x y ↔ ∃ z, w.2.Occupied ⟨x, y, z⟩ := by
  constructor
  · rintro ⟨⟨⟨x', y', z⟩, hit, stamp⟩, hentry, hcolumn, hhit⟩
    obtain ⟨rfl, rfl⟩ := Prod.mk.inj hcolumn
    have hhit : hit = true := hhit
    subst hhit
    exact ⟨z, (occupied_iff h).mpr ⟨stamp, AList.mem_lookup_iff.mpr hentry⟩⟩
  · rintro ⟨z, hoccupied⟩
    obtain ⟨stamp, hlookup⟩ := (occupied_iff h).mp hoccupied
    exact ⟨⟨⟨x, y, z⟩, true, stamp⟩, AList.mem_lookup_iff.mp hlookup, rfl, rfl⟩

/-- What was not hit by the last image that touched it was seen free by it. -/
theorem seenFree_of_lookup (h : Faithful w) {stamp : ℚ}
    (hlookup : w.1.cells.lookup cell = some (false, stamp)) : w.2.SeenFree cell := by
  rw [h cell] at hlookup
  obtain ⟨image, hlast, himage⟩ := Option.map_eq_some_iff.mp hlookup
  have hmissed : cell ∉ image.2.hits := of_decide_eq_false (Prod.mk.inj himage).1
  have hfound : decide (image.2.Touches cell) = true :=
    @List.find?_some (ℚ × Traversal) (fun image => decide (image.2.Touches cell)) image w.2 hlast
  have htouches : image.2.Touches cell := of_decide_eq_true hfound
  exact ⟨image, hlast, htouches.resolve_left hmissed, hmissed⟩

theorem seenFree_of_freeFor (h : Faithful w) {historicalFree : Bool} {now : ℚ}
    (hfree : w.1.freeFor historicalFree now cell = true) : w.2.SeenFree cell := by
  unfold freeFor free at hfree
  cases hlookup : w.1.cells.lookup cell with
  | none =>
    rw [hlookup] at hfree
    split at hfree <;> cases hfree
  | some value =>
    obtain ⟨hit, stamp⟩ := value
    rw [hlookup] at hfree
    have hmissed : hit = false := by
      cases hit with
      | false => rfl
      | true => split at hfree <;> cases hfree
    subst hmissed
    exact seenFree_of_lookup h hlookup

end DepthVolume

/-! ## 2. One cell -/

theorem mergeCell_free {laser : Char} {cell : ℤ} (h : mergeCell laser cell = '.') :
    laser = '.' ∧ cell = 0 := by
  unfold mergeCell at h
  split at h
  · cases h
  · split at h
    next hboth => exact hboth
    next => cases h

theorem mergeCell_obstacle {laser : Char} {cell : ℤ} (h : laser = '#' ∨ cell = 100) :
    mergeCell laser cell = '#' := by
  unfold mergeCell
  rw [if_pos h]

namespace DepthVolume

variable {w : World} {historicalFree : Bool} {now : ℚ} {x y : ℤ}

theorem column_obstacle (h : Faithful w) (hoccupied : ∃ z, w.2.Occupied ⟨x, y, z⟩) :
    w.1.column historicalFree now x y = 100 := by
  unfold column
  rw [if_pos ((obstacle_iff h x y).mpr hoccupied)]

theorem column_free (h : Faithful w) (hfree : w.1.column historicalFree now x y = 0) :
    (∀ z, w.1.profile.low ≤ z → z < w.1.profile.high → w.2.SeenFree ⟨x, y, z⟩) ∧
      ∀ z, ¬ w.2.Occupied ⟨x, y, z⟩ := by
  unfold column at hfree
  split at hfree
  · cases hfree
  next hclear =>
    split at hfree
    next hall =>
      refine ⟨fun z hlow hhigh => ?_, fun z hoccupied => ?_⟩
      · refine seenFree_of_freeFor h (List.all_eq_true.mp hall z ?_)
        refine List.mem_map.mpr ⟨(z - w.1.profile.low).toNat, List.mem_range.mpr ?_, ?_⟩ <;> omega
      · exact hclear ((obstacle_iff h x y).mpr ⟨z, hoccupied⟩)
    next => cases hfree

theorem projectedGrid_eq_ok {v : DepthVolume} {originX originY : ℚ} {width height : ℕ}
    {depth : List ℤ} (h : v.projectedGrid originX originY width height now historicalFree = .ok depth) :
    depth = (List.range height).flatMap fun y : ℕ => (List.range width).map fun x : ℕ =>
      v.column historicalFree now (v.latticeOf originX + x) (v.latticeOf originY + y) := by
  unfold projectedGrid at h
  split at h
  · cases h
  · obtain ⟨originX', hx, h⟩ := Except.bind_eq_ok_iff.mp h
    obtain ⟨originY', hy, h⟩ := Except.bind_eq_ok_iff.mp h
    cases number_eq_ok hx
    cases number_eq_ok hy
    split at h
    · cases h
    · cases h
      rfl

end DepthVolume

namespace MapDocument

theorem getD_mapIdx {α β : Type} {l : List α} {f : ℕ → α → β} {i : ℕ} {a d : α} {b : β}
    (h : l[i]? = some a) : (l.mapIdx f).getD i b = f i (l.getD i d) := by
  rw [List.getD_eq_getElem?_getD, List.getD_eq_getElem?_getD, List.getElem?_mapIdx, h]
  rfl

variable {lidar fused : MapDocument} {depth : List ℤ}

theorem cellAt_mergeRows (hrows : fused.rows = mergeRows lidar.rows lidar.width depth)
    (h : lidar.Rectangular) {x y : ℕ} (hx : x < lidar.width) (hy : y < lidar.height) :
    fused.cellAt x y = mergeCell (lidar.cellAt x y) (depth.getD (y * lidar.width + x) (-1)) := by
  have hrow : lidar.rows[y]? = some lidar.rows[y] := List.getElem?_eq_getElem hy
  have hcell : (lidar.rows.getD y "").toList[x]? = some (lidar.cellAt x y) := by
    obtain ⟨row, hraster, hcell⟩ := getElem?_cellAt h hx hy
    rw [raster, List.getElem?_map, hrow] at hraster
    cases hraster
    rw [List.getD_eq_getElem?_getD, hrow]
    exact hcell
  unfold cellAt
  rw [hrows, mergeRows, getD_mapIdx hrow, String.toList_ofList, getD_mapIdx hcell]

/-- Merging keeps the size. -/
theorem width_mergeRows (hrows : fused.rows = mergeRows lidar.rows lidar.width depth) :
    fused.width = lidar.width := by
  unfold width
  rw [hrows, mergeRows]
  cases lidar.rows with
  | nil => rfl
  | cons row rows => simp [String.length_toList]

theorem height_mergeRows (hrows : fused.rows = mergeRows lidar.rows lidar.width depth) :
    fused.height = lidar.height := by
  unfold height
  rw [hrows, mergeRows, List.length_mapIdx]

end MapDocument

/-! ## 3. The fused map -/

theorem NavigationMap.create_checked {document : MapDocument} {m : NavigationMap}
    (h : NavigationMap.create document = .ok m) : m.document = document ∧ document.Rectangular ∧
      ∃ radius clearance, document.robotRadius = .finite radius ∧
        document.clearance = .finite clearance ∧
        document.resolution = .finite m.resolution ∧
        m.padding = ⌈(radius + clearance) / m.resolution⌉.toNat := by
  obtain ⟨_, -, h⟩ := Except.bind_eq_ok_iff.mp h
  obtain ⟨_, -, h⟩ := Except.bind_eq_ok_iff.mp h
  obtain ⟨_, -, h⟩ := Except.bind_eq_ok_iff.mp h
  obtain ⟨_, -, h⟩ := Except.bind_eq_ok_iff.mp h
  obtain ⟨floorZ, -, h⟩ := Except.bind_eq_ok_iff.mp h
  obtain ⟨resolution, hresolution, h⟩ := Except.bind_eq_ok_iff.mp h
  obtain ⟨radius, hradius, h⟩ := Except.bind_eq_ok_iff.mp h
  obtain ⟨clearance, hclearance, h⟩ := Except.bind_eq_ok_iff.mp h
  obtain ⟨tolerance, -, h⟩ := Except.bind_eq_ok_iff.mp h
  split at h
  next hscale =>
    obtain ⟨originX, -, h⟩ := Except.bind_eq_ok_iff.mp h
    obtain ⟨originY, -, h⟩ := Except.bind_eq_ok_iff.mp h
    split at h
    · cases h
    split at h
    · cases h
    next hrows =>
      dsimp only at h
      split at h
      · cases h
      · cases h
        refine ⟨rfl, ?_, radius, clearance, number_eq_ok hradius, number_eq_ok hclearance,
          number_eq_ok hresolution, rfl⟩
        intro row hrow
        obtain ⟨text, htext, rfl⟩ := List.mem_map.mp hrow
        have hall := List.all_eq_true.mp (not_not.mp hrows) text htext
        simp only [Bool.and_eq_true, beq_iff_eq] at hall
        rw [String.length_toList]
        exact hall.1
  next => cases h

/-- What an accepted fusion is made of. -/
theorem fuse_eq_ok {lidar : MapDocument} {v : DepthVolume} {envelope : TravelEnvelope}
    {calibrationId expectedEpoch revision : String} {now : Scalar} {purpose : Option PlanningPurpose}
    {fused : FusedMap} (h : fuseNavigationMap lidar v envelope calibrationId expectedEpoch revision
      now purpose = .ok fused) :
    ∃ source result depth, NavigationMap.create lidar = .ok source ∧
      NavigationMap.create fused.document = .ok result ∧
      (∃ time historicalFree, v.projectedGrid source.originX source.originY lidar.width lidar.height
        time historicalFree = .ok depth) ∧
      fused.document = { lidar with
        revision
        rows := mergeRows lidar.rows lidar.width depth
        robotRadius := .finite envelope.radius } := by
  obtain ⟨source, hsource, h⟩ := Except.bind_eq_ok_iff.mp h
  split at h
  · cases h
  · obtain ⟨revision', hrevision, h⟩ := Except.bind_eq_ok_iff.mp h
    obtain ⟨hsame, -⟩ := identifier_eq_ok hrevision
    split at h
    · cases h
    split at h
    · cases h
    split at h
    · cases h
    obtain ⟨time, -, h⟩ := Except.bind_eq_ok_iff.mp h
    split at h
    · cases h
    · obtain ⟨depth, hdepth, h⟩ := Except.bind_eq_ok_iff.mp h
      obtain ⟨result, hresult, h⟩ := Except.bind_eq_ok_iff.mp h
      cases h
      exact ⟨source, result, depth, hsource, hresult, ⟨time, _, hdepth⟩, by rw [hsame]⟩

/-- A larger body needs no smaller padding. -/
theorem padding_le {radius radius' clearance resolution : ℚ} (hresolution : 0 < resolution)
    (h : radius ≤ radius') :
    ⌈(radius + clearance) / resolution⌉.toNat ≤ ⌈(radius' + clearance) / resolution⌉.toNat := by
  refine Int.toNat_le_toNat (Int.ceil_le_ceil ?_)
  exact div_le_div_of_nonneg_right (by linarith) hresolution.le

theorem cellAt_fused {lidar fused : MapDocument} {v : DepthVolume} {originX originY time : ℚ}
    {historicalFree : Bool} {depth : List ℤ} (hrectangular : lidar.Rectangular)
    (hdepth : v.projectedGrid originX originY lidar.width lidar.height time historicalFree = .ok depth)
    (hrows : fused.rows = mergeRows lidar.rows lidar.width depth) {x y : ℕ} (hx : x < lidar.width)
    (hy : y < lidar.height) :
    fused.cellAt x y = mergeCell (lidar.cellAt x y) (v.column historicalFree time
      (v.latticeOf originX + x) (v.latticeOf originY + y)) := by
  rw [MapDocument.cellAt_mergeRows hrows hrectangular hx hy, projectedGrid_eq_ok hdepth,
    List.getD_eq_getElem?_getD, Raster.getElem?_flatMap_range _ hx hy]
  rfl

/-- **The fused map is conservative.**  Over every run of the volume: a cell that is free is free for
the laser, and every layer of its column was seen free by the last image that touched it; an
obstacle of the laser or of the column is an obstacle; and what is blocked in the source map stays
blocked, if the body is not smaller. -/
theorem fused_conservative (p : DepthProfile) (l : List Op) (lidar : MapDocument)
    (envelope : TravelEnvelope) (calibrationId expectedEpoch revision : String) (now : Scalar)
    (purpose : Option PlanningPurpose) (fused : FusedMap)
    (h : fuseNavigationMap lidar (Machine.run step (init p, []) l).1 envelope
      calibrationId expectedEpoch revision now purpose = .ok fused) :
    let w := Machine.run step (init p, []) l
    ∃ source result, NavigationMap.create lidar = .ok source ∧
      NavigationMap.create fused.document = .ok result ∧
      (∀ x y : ℕ, x < lidar.width → y < lidar.height →
        let column (z : ℤ) : Voxel :=
          ⟨w.1.latticeOf source.originX + x, w.1.latticeOf source.originY + y, z⟩
        (fused.document.cellAt x y = '.' → lidar.cellAt x y = '.' ∧
          (∀ z, p.low ≤ z → z < p.high → w.2.SeenFree (column z)) ∧ ∀ z, ¬ w.2.Occupied (column z)) ∧
        (lidar.cellAt x y = '#' ∨ (∃ z, w.2.Occupied (column z)) →
          fused.document.cellAt x y = '#')) ∧
      (lidar.robotRadius.value ≤ envelope.radius → ∀ cell ∈ source.blocked, cell ∈ result.blocked) := by
  intro w
  have hfaithful : Faithful w := faithful_run p l
  have hprofile : w.1.profile = p := profile_run p l
  obtain ⟨source, result, depth, hsource, hresult, ⟨time, historicalFree, hdepth⟩, hdocument⟩ :=
    fuse_eq_ok h
  obtain ⟨hsame, hrectangular, radius, clearance, hradius, hclearance, hresolution, hpadding⟩ :=
    NavigationMap.create_checked hsource
  obtain ⟨hsame', hrectangular', radius', clearance', hradius', hclearance', hresolution',
    hpadding'⟩ := NavigationMap.create_checked hresult
  have hrows : fused.document.rows = mergeRows lidar.rows lidar.width depth := by rw [hdocument]
  have hcell : ∀ x y : ℕ, x < lidar.width → y < lidar.height → fused.document.cellAt x y =
      mergeCell (lidar.cellAt x y) (w.1.column historicalFree time
        (w.1.latticeOf source.originX + x) (w.1.latticeOf source.originY + y)) :=
    fun x y hx hy => cellAt_fused hrectangular hdepth hrows hx hy
  refine ⟨source, result, hsource, hresult, fun x y hx hy => ⟨fun hfree => ?_, fun hoccupied => ?_⟩,
    fun hsmaller cell hblocked => ?_⟩
  · rw [hcell x y hx hy] at hfree
    obtain ⟨hlaser, hcolumn⟩ := mergeCell_free hfree
    obtain ⟨hlayers, hclear⟩ := column_free hfaithful hcolumn
    rw [hprofile] at hlayers
    exact ⟨hlaser, hlayers, hclear⟩
  · rw [hcell x y hx hy]
    exact mergeCell_obstacle (hoccupied.imp_right fun hz => column_obstacle hfaithful hz)
  · rw [hdocument] at hradius' hclearance' hresolution'
    cases hradius'
    cases hclearance.symm.trans hclearance'
    have hscale : source.resolution = result.resolution :=
      Scalar.finite.inj (hresolution.symm.trans hresolution')
    have hgrown : source.padding ≤ result.padding := by
      rw [hpadding, hpadding', hscale]
      rw [hradius] at hsmaller
      exact padding_le result.scaled hsmaller
    unfold NavigationMap.blocked at hblocked ⊢
    rw [hsame] at hblocked
    rw [hsame']
    refine MapDocument.blocked_mono hrectangular hrectangular' (MapDocument.width_mergeRows hrows)
      (MapDocument.height_mergeRows hrows) hgrown (fun x y hx hy hfree => ?_) hblocked
    rw [hcell x y hx hy] at hfree
    exact (mergeCell_free hfree).1

/-- One layer of voxels of 25 cm. -/
def layerProfile : DepthProfile where
  frame := "depth"
  calibration := "cal"
  resolution := 1 / 4
  minimumDepth := 1 / 10
  maximumDepth := 4
  minimumHeight := 0
  maximumHeight := 1 / 4
  maximumAge := 1 / 2
  minimumValidFraction := 1 / 2
  maximumVoxels := 1000
  maximumRaySteps := 1000
  worldFrame := "map"
  named := by decide
  scaled := by norm_num
  depths := by norm_num
  heights := by norm_num
  aged := by norm_num
  fraction := by norm_num
  budgets := by norm_num

/-- One pixel that looks along the corridor, with a wall at two metres. -/
def corridorImage : DepthImage where
  depth := [[some 2]]
  fx := .finite 1
  fy := .finite 1
  cx := .finite 0
  cy := .finite 0
  cameraToWorld := some ⟨fun
    | .x => .of 0 0 1
    | .y => .of (-1) 0 0
    | .z => .of 0 (-1) 0, .of (1 / 8) (1 / 8) (1 / 8), [0, 0, 0, 1]⟩
  observed := .finite 1
  now := .finite 1
  frame := "depth"
  calibration := "cal"
  epoch := some "travel-1"
  motionQualified := true

def corridorLidar : MapDocument where
  mapId := "home"
  revision := "1"
  floorId := "ground"
  frameId := "map"
  floorZ := .finite 0
  resolution := .finite (1 / 4)
  originX := .finite 0
  originY := .finite (-1 / 4)
  rows := ["##########", "..........", "##########"]
  robotRadius := .finite (1 / 8)
  clearance := .finite 0
  surfaceTolerance := .finite (1 / 10)

def corridorRun : List Op := [.reset "travel-1", .integrate corridorImage]

def corridorMap : FusedMap where
  document :=
    { corridorLidar with
      revision := "2"
      rows := ["##########", "???.....#?", "##########"]
      robotRadius := .finite (1 / 5) }
  sourceMapRevision := "1"
  calibrationId := "cal"
  depthEpoch := "travel-1"
  depthObserved := some 1
  geometryId := "stowed"
  purpose := .localTraversability

/-- The fifth cell of the corridor is free. -/
theorem fused_conservative_corridor :
    ∃ source, NavigationMap.create corridorLidar = .ok source ∧
      ∀ z, layerProfile.low ≤ z → z < layerProfile.high →
        (Machine.run step (init layerProfile, []) corridorRun).2.SeenFree
          ⟨(Machine.run step (init layerProfile, [])
              corridorRun).1.latticeOf source.originX + (4 : ℕ),
            (Machine.run step (init layerProfile, [])
              corridorRun).1.latticeOf source.originY + (1 : ℕ), z⟩ := by
  obtain ⟨source, _, hsource, -, hcells, -⟩ := fused_conservative layerProfile corridorRun
    corridorLidar ⟨"stowed", 1 / 5, 1 / 4, by norm_num⟩ "cal" "travel-1" "2" (.finite 1)
    (some .localTraversability) corridorMap (by decide +kernel)
  exact ⟨source, hsource,
    ((hcells 4 1 (by decide +kernel) (by decide +kernel)).1 (by decide +kernel)).2.1⟩

end MobileBimanual.Tasks
