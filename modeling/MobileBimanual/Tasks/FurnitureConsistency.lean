/-
# The instances are what their observations say

`Consistent`: an instance holds the voxels of the observations that are associated with it, counts
them, and its bounds are tight.  A call keeps it (`consistent_observe`) unless it `Collides`: two
observations may have one derived name, and the instance of the second, though it matches nothing,
is then written over that of the first (`renamed_overwrites`).
-/
import Mathlib.Data.List.Perm.Subperm
import MobileBimanual.Lib.Machine
import MobileBimanual.Tasks.FurnitureMemory

namespace MobileBimanual.Tasks

open Machine

/-! ## 1. One instance -/

/-- The instance is what the observations say. -/
structure FurnitureInstance.Sums (v : FurnitureInstance) (l : List FurnitureObservation) : Prop where
  union : ∀ c, c ∈ v.observedVoxels ↔ ∃ obs ∈ l, c ∈ obs.observedVoxels
  count : v.observationCount = l.length
  lower : ∀ axis, (∃ c ∈ v.observedVoxels, v.boundsMin axis = c.along axis * v.voxelSize) ∧
    ∀ c ∈ v.observedVoxels, v.boundsMin axis ≤ c.along axis * v.voxelSize
  upper : ∀ axis, (∃ c ∈ v.observedVoxels, v.boundsMax axis = (c.along axis + 1) * v.voxelSize) ∧
    ∀ c ∈ v.observedVoxels, (c.along axis + 1) * v.voxelSize ≤ v.boundsMax axis

namespace FurnitureObservation

variable {obs : FurnitureObservation} {context : Context} {previous : Option FurnitureInstance}

theorem mem_accumulate {c : Voxel} :
    c ∈ (obs.accumulate context previous).observedVoxels ↔ c ∈ obs.merged previous :=
  (List.perm_insertionSort Voxel.Le _).mem_iff

theorem merged_ne_nil : obs.merged previous ≠ [] := by
  intro h
  have hempty : obs.observedVoxels = [] := List.eq_nil_iff_forall_not_mem.mpr fun c hc => by
    have hmem : c ∈ obs.merged previous := List.mem_union_iff.mpr (.inl hc)
    rw [h] at hmem
    cases hmem
  have hbounded := obs.bounded.1
  rw [hempty] at hbounded
  cases hbounded

/-- Its bounds are tight, whatever it was before. -/
theorem accumulate_lower (axis : Voxel.Axis) :
    let v := obs.accumulate context previous
    (∃ c ∈ v.observedVoxels, v.boundsMin axis = c.along axis * v.voxelSize) ∧
      ∀ c ∈ v.observedVoxels, v.boundsMin axis ≤ c.along axis * v.voxelSize := by
  intro v
  cases hmin : ((obs.merged previous).map (·.along axis)).min? with
  | none => exact absurd (List.map_eq_nil_iff.mp (List.min?_eq_none_iff.mp hmin)) merged_ne_nil
  | some lowest =>
    have hbounds : v.boundsMin axis = lowest * obs.voxelSize := by
      change ((((obs.merged previous).map (·.along axis)).min?.getD 0 : ℤ) : ℚ) * _ = _
      rw [hmin]
      rfl
    obtain ⟨hmem, hle⟩ := List.min?_eq_some_iff.mp hmin
    obtain ⟨c, hc, rfl⟩ := List.mem_map.mp hmem
    refine ⟨⟨c, mem_accumulate.mpr hc, hbounds⟩, fun c' hc' => ?_⟩
    rw [hbounds]
    have hlowest := hle _ (List.mem_map_of_mem (mem_accumulate.mp hc'))
    exact mul_le_mul_of_nonneg_right (by exact_mod_cast hlowest) obs.size_pos.le

theorem accumulate_upper (axis : Voxel.Axis) :
    let v := obs.accumulate context previous
    (∃ c ∈ v.observedVoxels, v.boundsMax axis = (c.along axis + 1) * v.voxelSize) ∧
      ∀ c ∈ v.observedVoxels, (c.along axis + 1) * v.voxelSize ≤ v.boundsMax axis := by
  intro v
  cases hmax : ((obs.merged previous).map (·.along axis)).max? with
  | none => exact absurd (List.map_eq_nil_iff.mp (List.max?_eq_none_iff.mp hmax)) merged_ne_nil
  | some highest =>
    have hbounds : v.boundsMax axis = (highest + 1) * obs.voxelSize := by
      change (((((obs.merged previous).map (·.along axis)).max?.getD 0 : ℤ) : ℚ) + 1) * _ = _
      rw [hmax]
      rfl
    obtain ⟨hmem, hle⟩ := List.max?_eq_some_iff.mp hmax
    obtain ⟨c, hc, rfl⟩ := List.mem_map.mp hmem
    refine ⟨⟨c, mem_accumulate.mpr hc, hbounds⟩, fun c' hc' => ?_⟩
    rw [hbounds]
    have hhighest := hle _ (List.mem_map_of_mem (mem_accumulate.mp hc'))
    exact mul_le_mul_of_nonneg_right (by exact_mod_cast Int.add_le_add_right hhighest 1)
      obs.size_pos.le

/-- A new instance is what its observation says. -/
theorem accumulate_new : (obs.accumulate context none).Sums [obs] where
  union c := by
    rw [mem_accumulate]
    simp [merged, List.mem_union_iff]
  count := rfl
  lower := accumulate_lower
  upper := accumulate_upper

variable {v : FurnitureInstance}

/-- The observation is added to what the instance was. -/
theorem accumulate_sums {l : List FurnitureObservation} (h : v.Sums l) :
    (obs.accumulate context (some v)).Sums (obs :: l) where
  union c := by
    rw [mem_accumulate]
    simp [merged, List.mem_union_iff, h.union c]
  count := congrArg (· + 1) h.count
  lower := accumulate_lower
  upper := accumulate_upper

/-- What a new instance holds is within every budget. -/
theorem merged_new_le : (obs.merged none).length ≤ 4096 := by
  have hsub : obs.merged none ⊆ obs.observedVoxels := by
    intro c hc
    simpa [merged, List.mem_union_iff] using hc
  have hnodup : (obs.merged none).Nodup := List.Nodup.union _ List.nodup_nil
  exact (List.subperm_of_subset hnodup hsub).length_le.trans obs.bounded.2

end FurnitureObservation

/-! ## 2. The memory -/

namespace FurnitureMemory

/-- The observations that are associated with the instance. -/
def named (m : FurnitureMemory) (id : String) : List FurnitureObservation :=
  m.observations.entries.filterMap fun e =>
    if e.2.2.instanceId = some id then some e.2.1 else none

/-- Every instance is what the observations that name it say. -/
def Consistent (m : FurnitureMemory) : Prop :=
  ∀ id v, m.instances.lookup id = some v → v.instanceId = id ∧ v.Sums (m.named id)

def Named (m : FurnitureMemory) : Prop := ∀ id, m.named id ≠ [] → id ∈ m.instances

structure Call where
  context : Context
  now : Scalar
  document : FurnitureDocument

def step (m : FurnitureMemory) (e : Call) : FurnitureMemory :=
  (m.observe e.context e.now e.document).1

/-- An observation that is new and matches nothing has the name of an instance that is there. -/
def Collides (m : FurnitureMemory) (e : Call) : Prop :=
  ∃ obs, validated e.context e.now e.document = .ok obs ∧
    m.observations.lookup obs.observationId = none ∧ m.observations.entries.length < 256 ∧
    m.candidates e.context obs = [] ∧ (m.instancesIn e.context).length < 128 ∧
    derivedId obs.observationId ∈ m.instances

variable {m : FurnitureMemory} {context : Context} {now : Scalar} {obs : FurnitureObservation}
  {d : FurnitureDocument}

/-- What a call may do. -/
inductive Observed (m : FurnitureMemory) (context : Context) (obs : FurnitureObservation) :
    FurnitureMemory × Except Raised Association → Prop
  | refused (raised : Raised) : Observed m context obs (m, .error raised)
  | repeated (r : Association) (h : m.observations.lookup obs.observationId = some (obs, r)) :
    Observed m context obs (m, .ok r)
  | ambiguous (r : Association) (hid : r.instanceId = none) (hstatus : r.status = .ambiguous)
    (hnew : m.observations.lookup obs.observationId = none) :
    Observed m context obs (m.write obs r none, .ok r)
  | begun (r : Association) (hid : r.instanceId = some (derivedId obs.observationId))
    (hnew : m.observations.lookup obs.observationId = none)
    (hbudget : m.observations.entries.length < 256) (hnone : m.candidates context obs = [])
    (hroom : (m.instancesIn context).length < 128) :
    Observed m context obs (m.write obs r (some (obs.accumulate context none)), .ok r)
  | joined (r : Association) (previous : FurnitureInstance)
    (hid : r.instanceId = some previous.instanceId)
    (hstatus : r.status = .associatedEstimate)
    (hnew : m.observations.lookup obs.observationId = none)
    (hone : m.candidates context obs = [previous]) :
    Observed m context obs (m.write obs r (some (obs.accumulate context (some previous))), .ok r)

theorem instanceFor_eq_ok {previous : Option FurnitureInstance}
    (h : m.instanceFor context obs previous = .ok v) : v = obs.accumulate context previous ∧
      (previous = none → (m.instancesIn context).length < 128) := by
  unfold instanceFor at h
  split at h
  · cases h
  split at h
  · cases h
  next hroom =>
    split at h
    · cases h
    · cases h
      refine ⟨rfl, ?_⟩
      rintro rfl
      simpa using hroom

theorem observe_cases (hvalid : validated context now d = .ok obs) :
    Observed m context obs (m.observe context now d) := by
  unfold observe
  rw [hvalid]
  dsimp only
  cases hlookup : m.observations.lookup obs.observationId with
  | some entry =>
    obtain ⟨old, r⟩ := entry
    by_cases hsame : old = obs
    · subst hsame
      simpa using .repeated r hlookup
    · simpa [hsame] using .refused _
  | none =>
    dsimp only
    split
    · exact .refused _
    next hbudget =>
      have hbudget : m.observations.entries.length < 256 := by omega
      cases hcandidates : m.candidates context obs with
      | nil =>
        cases hstored : m.instanceFor context obs none with
        | error raised => simpa [associate, hstored] using .refused raised
        | ok v =>
          obtain ⟨rfl, hroom⟩ := instanceFor_eq_ok hstored
          simpa [associate, hstored] using
            Observed.begun _ rfl hlookup hbudget hcandidates (hroom rfl)
      | cons previous rest =>
        cases rest with
        | nil =>
          cases hstored : m.instanceFor context obs (some previous) with
          | error raised => simpa [associate, hstored] using .refused raised
          | ok v =>
            obtain ⟨rfl, -⟩ := instanceFor_eq_ok hstored
            simpa [associate, hstored] using
              Observed.joined _ previous rfl rfl hlookup hcandidates
        | cons other rest =>
          simpa [associate] using Observed.ambiguous _ rfl rfl hlookup

/-! ## 3. What is written -/

section Write

variable {r : Association} {stored : Option FurnitureInstance}
  (hnew : m.observations.lookup obs.observationId = none)
include hnew

/-- The observation counts for the instance it is associated with. -/
theorem named_write (id : String) : (m.write obs r stored).named id =
    if r.instanceId = some id then obs :: m.named id else m.named id := by
  have hfresh : obs.observationId ∉ m.observations := AList.lookup_eq_none.mp hnew
  unfold named write
  rw [AList.entries_insert_of_notMem hfresh]
  by_cases hid : r.instanceId = some id <;> simp [hid]

/-- An observation without an instance leaves the instances as they are. -/
theorem consistent_write_none (h : m.Consistent) (hid : r.instanceId = none) :
    (m.write obs r none).Consistent := by
  intro id v hlookup
  rw [named_write hnew, if_neg (by simp [hid])]
  exact h id v hlookup

/-- An instance that is what its observations say is written. -/
theorem consistent_write_some (h : m.Consistent) (hid : r.instanceId = some v.instanceId)
    (hv : v.Sums (obs :: m.named v.instanceId)) : (m.write obs r (some v)).Consistent := by
  intro id w hlookup
  rw [named_write hnew]
  by_cases hsame : id = v.instanceId
  · subst hsame
    have hw : w = v := by
      change (m.instances.insert _ _).lookup _ = _ at hlookup
      rw [AList.lookup_insert] at hlookup
      exact (Option.some.inj hlookup).symm
    subst hw
    rw [if_pos hid]
    exact ⟨rfl, hv⟩
  · have hother : m.instances.lookup id = some w := by
      change (m.instances.insert _ _).lookup _ = _ at hlookup
      rwa [AList.lookup_insert_ne hsame] at hlookup
    rw [if_neg (by rw [hid]; exact fun heq => hsame (Option.some.inj heq).symm)]
    exact h id w hother

theorem named_write_none (h : m.Named) (hid : r.instanceId = none) :
    (m.write obs r none).Named := by
  intro id hne
  rw [named_write hnew, if_neg (by simp [hid])] at hne
  exact h id hne

theorem named_write_some (h : m.Named) (hid : r.instanceId = some v.instanceId) :
    (m.write obs r (some v)).Named := by
  intro id hne
  change id ∈ m.instances.insert v.instanceId v
  rw [AList.mem_insert]
  rw [named_write hnew] at hne
  by_cases hsame : id = v.instanceId
  · exact .inl hsame
  · rw [if_neg (by rw [hid]; exact fun heq => hsame (Option.some.inj heq).symm)] at hne
    exact .inr (h id hne)

end Write

/-- A candidate is stored under its name. -/
theorem lookup_of_candidate (h : m.Consistent) {previous : FurnitureInstance}
    (hmem : previous ∈ m.candidates context obs) :
    m.instances.lookup previous.instanceId = some previous := by
  obtain ⟨hin, -⟩ := List.mem_filter.mp hmem
  obtain ⟨hin, -⟩ := List.mem_filter.mp hin
  obtain ⟨⟨id, v⟩, hentry, rfl⟩ := List.mem_map.mp hin
  have hlookup : m.instances.lookup id = some v := AList.mem_lookup_iff.mpr hentry
  rw [(h id v hlookup).1]
  exact hlookup

theorem named_step (h : m.Named) (e : Call) : (m.step e).Named := by
  unfold step
  cases hvalid : validated e.context e.now e.document with
  | error raised => simpa [observe, hvalid] using h
  | ok obs =>
    have hobserved : Observed m e.context obs (m.observe e.context e.now e.document) :=
      observe_cases hvalid
    generalize m.observe e.context e.now e.document = result at hobserved ⊢
    cases hobserved with
    | refused raised => exact h
    | repeated r hlookup => exact h
    | ambiguous r hid hstatus hnew => exact named_write_none hnew h hid
    | begun r hid hnew hbudget hnone hroom => exact named_write_some hnew h hid
    | joined r previous hid hstatus hnew hone => exact named_write_some hnew h hid

theorem consistent_step (h : m.Consistent) (hnamed : m.Named) (e : Call)
    (hcollides : ¬ m.Collides e) : (m.step e).Consistent := by
  unfold step
  cases hvalid : validated e.context e.now e.document with
  | error raised => simpa [observe, hvalid] using h
  | ok obs =>
    have hobserved : Observed m e.context obs (m.observe e.context e.now e.document) :=
      observe_cases hvalid
    generalize m.observe e.context e.now e.document = result at hobserved ⊢
    cases hobserved with
    | refused raised => exact h
    | repeated r hlookup => exact h
    | ambiguous r hid hstatus hnew => exact consistent_write_none hnew h hid
    | begun r hid hnew hbudget hnone hroom =>
      have hfree : derivedId obs.observationId ∉ m.instances := fun hmem =>
        hcollides ⟨obs, hvalid, hnew, hbudget, hnone, hroom, hmem⟩
      have hfirst : m.named (derivedId obs.observationId) = [] :=
        not_not.mp fun hne => hfree (hnamed _ hne)
      refine consistent_write_some hnew h hid ?_
      change FurnitureInstance.Sums _ (obs :: m.named (derivedId obs.observationId))
      rw [hfirst]
      exact obs.accumulate_new
    | joined r previous hid hstatus hnew hone =>
      have hstored : m.instances.lookup previous.instanceId = some previous :=
        lookup_of_candidate h (hone.symm ▸ List.mem_singleton_self previous)
      exact consistent_write_some hnew h hid (obs.accumulate_sums (h _ _ hstored).2)

/-- An instance that is there has an observation. -/
theorem named_ne_nil (h : m.Consistent) {id : String} (hmem : id ∈ m.instances) :
    m.named id ≠ [] := by
  intro hnil
  obtain ⟨v, hlookup⟩ := Option.isSome_iff_exists.mp (AList.lookup_isSome.mpr hmem)
  have hsums := (h id v hlookup).2
  obtain ⟨⟨c, hc, -⟩, -⟩ := hsums.lower .x
  obtain ⟨obs, hobs, -⟩ := (hsums.union c).mp hc
  rw [hnil] at hobs
  cases hobs

variable {e : Call}

/-- A call that collides begins an instance where there is one. -/
theorem step_of_collides (h : m.Collides e) :
    ∃ obs r, m.observations.lookup obs.observationId = none ∧
      r.instanceId = some (derivedId obs.observationId) ∧
      derivedId obs.observationId ∈ m.instances ∧
      m.step e = m.write obs r (some (obs.accumulate e.context none)) := by
  obtain ⟨obs, hvalid, hnew, hbudget, hnone, hroom, hmem⟩ := h
  have hstored : m.instanceFor e.context obs none = .ok (obs.accumulate e.context none) := by
    have hmerged := obs.merged_new_le
    simp [instanceFor, show ¬ 16384 < (obs.merged none).length by omega, hroom]
  refine ⟨obs, ⟨.newEstimate, some (derivedId obs.observationId), []⟩, hnew, rfl, hmem, ?_⟩
  unfold step observe
  rw [hvalid]
  dsimp only
  rw [hnew]
  dsimp only
  rw [if_neg (by omega), hnone]
  simp only [associate, List.length_nil, Nat.zero_le, if_true, List.head?_nil, hstored]
  rfl

/-- **A call keeps it exactly if it does not collide.** -/
theorem consistent_step_iff (h : m.Consistent) (hnamed : m.Named) (e : Call) :
    (m.step e).Consistent ↔ ¬ m.Collides e := by
  refine ⟨fun hkept hcollides => ?_, consistent_step h hnamed e⟩
  obtain ⟨obs, r, hnew, hid, hmem, hstep⟩ := step_of_collides hcollides
  rw [hstep] at hkept
  -- The instance counts one observation, but another one names it too.
  have hcount := (hkept (derivedId obs.observationId) _ (AList.lookup_insert _)).2.count
  rw [named_write hnew, if_pos hid] at hcount
  have hzero : (m.named (derivedId obs.observationId)).length = 0 :=
    (Nat.succ.inj hcount).symm
  exact named_ne_nil h hmem (List.length_eq_zero_iff.mp hzero)

/-! ## 4. The run -/

/-- What is claimed of a call and of what comes after it. -/
structure Kept (m : FurnitureMemory) (e : Call) (after : List Call) : Prop where
  consistent : (m.step e).Consistent
  begun : ∀ r, (m.observe e.context e.now e.document).2 = .ok r → r.status = .newEstimate →
    ∀ id v, m.instances.lookup id = some v → (m.step e).instances.lookup id = some v
  refused : ∀ raised, (m.observe e.context e.now e.document).2 = .error raised → m.step e = m
  repeated : ∀ r, (m.observe e.context e.now e.document).2 = .ok r → ∀ context now obs,
    validated context now e.document = .ok obs →
      let w := run step (m.step e) after
      w.observe context now e.document = (w, .ok r)

/-- A call that is refused changes nothing. -/
theorem step_of_refused {raised : Raised}
    (h : (m.observe e.context e.now e.document).2 = .error raised) : m.step e = m := by
  unfold step
  cases hvalid : validated e.context e.now e.document with
  | error raised => simp [observe, hvalid]
  | ok obs =>
    have hobserved : Observed m e.context obs (m.observe e.context e.now e.document) :=
      observe_cases hvalid
    generalize m.observe e.context e.now e.document = result at hobserved h ⊢
    cases hobserved with
    | refused raised => rfl
    | repeated r hlookup => rfl
    | ambiguous r hid hstatus hnew => cases h
    | begun r hid hnew hbudget hnone hroom => cases h
    | joined r previous hid hstatus hnew hone => cases h

theorem recorded_of_answered {r : Association} (hvalid : validated context now d = .ok obs)
    (h : (m.observe context now d).2 = .ok r) :
    (m.observe context now d).1.observations.lookup obs.observationId = some (obs, r) := by
  have hobserved : Observed m context obs (m.observe context now d) := observe_cases hvalid
  generalize m.observe context now d = result at hobserved h ⊢
  cases hobserved with
  | refused raised => cases h
  | repeated r hlookup =>
    cases h
    exact hlookup
  | ambiguous r hid hstatus hnew =>
    cases h
    exact AList.lookup_insert _
  | begun r hid hnew hbudget hnone hroom =>
    cases h
    exact AList.lookup_insert _
  | joined r previous hid hstatus hnew hone =>
    cases h
    exact AList.lookup_insert _

variable {key : String} {entry : FurnitureObservation × Association}

/-- What is recorded stays. -/
theorem lookup_write {r : Association} {stored : Option FurnitureInstance}
    (hnew : m.observations.lookup obs.observationId = none)
    (h : m.observations.lookup key = some entry) :
    (m.write obs r stored).observations.lookup key = some entry := by
  have hne : key ≠ obs.observationId := by
    rintro rfl
    cases hnew.symm.trans h
  exact (AList.lookup_insert_ne hne).trans h

theorem recorded_step (e : Call) (h : m.observations.lookup key = some entry) :
    (m.step e).observations.lookup key = some entry := by
  unfold step
  cases hvalid : validated e.context e.now e.document with
  | error raised => simpa [observe, hvalid] using h
  | ok obs =>
    have hobserved : Observed m e.context obs (m.observe e.context e.now e.document) :=
      observe_cases hvalid
    generalize m.observe e.context e.now e.document = result at hobserved ⊢
    cases hobserved with
    | refused raised => exact h
    | repeated r hlookup => exact h
    | ambiguous r hid hstatus hnew => exact lookup_write hnew h
    | begun r hid hnew hbudget hnone hroom => exact lookup_write hnew h
    | joined r previous hid hstatus hnew hone => exact lookup_write hnew h

theorem recorded_run (l : List Call) (h : m.observations.lookup key = some entry) :
    (run step m l).observations.lookup key = some entry :=
  run_invariant_all (I := fun w : FurnitureMemory => w.observations.lookup key = some entry)
    (fun _ e hw => recorded_step e hw) l h

/-- What is checked does not depend on when it is checked. -/
theorem validated_unique {context' : Context} {now' : Scalar} {obs' : FurnitureObservation}
    (h : validated context now d = .ok obs) (h' : validated context' now' d = .ok obs') :
    obs = obs' := by
  obtain ⟨observationId, hid, h⟩ := Except.bind_eq_ok_iff.mp h
  obtain ⟨stamp, hstamp, h⟩ := Except.bind_eq_ok_iff.mp h
  obtain ⟨_, -, h⟩ := Except.bind_eq_ok_iff.mp h
  obtain ⟨observationId', hid', h'⟩ := Except.bind_eq_ok_iff.mp h'
  obtain ⟨stamp', hstamp', h'⟩ := Except.bind_eq_ok_iff.mp h'
  obtain ⟨_, -, h'⟩ := Except.bind_eq_ok_iff.mp h'
  cases hid.symm.trans hid'
  cases hstamp.symm.trans hstamp'
  exact Except.ok.inj (h.symm.trans h')

/-- What was answered once is answered again. -/
theorem repeated_of_recorded {r : Association} (hvalid : validated context now d = .ok obs)
    (h : m.observations.lookup obs.observationId = some (obs, r)) :
    m.observe context now d = (m, .ok r) := by
  simp [observe, hvalid, h]

theorem lookup_of_begun {r : Association} (hcollides : ¬ m.Collides e)
    (hanswer : (m.observe e.context e.now e.document).2 = .ok r)
    (hstatus : r.status = .newEstimate) {id : String} (h : m.instances.lookup id = some v) :
    (m.step e).instances.lookup id = some v := by
  unfold step
  cases hvalid : validated e.context e.now e.document with
  | error raised => simpa [observe, hvalid] using h
  | ok obs =>
    have hobserved : Observed m e.context obs (m.observe e.context e.now e.document) :=
      observe_cases hvalid
    generalize m.observe e.context e.now e.document = result at hobserved hanswer ⊢
    cases hobserved with
    | refused raised => exact h
    | repeated r hlookup => exact h
    | ambiguous r hid hambiguous hnew => exact h
    | begun r hid hnew hbudget hnone hroom =>
      have hne : id ≠ derivedId obs.observationId := by
        rintro rfl
        have hmem : derivedId obs.observationId ∈ m.instances :=
          AList.lookup_isSome.mp (Option.isSome_iff_exists.mpr ⟨v, h⟩)
        exact hcollides ⟨obs, hvalid, hnew, hbudget, hnone, hroom, hmem⟩
      exact (AList.lookup_insert_ne hne).trans h
    | joined r previous hid hjoined hnew hone =>
      cases hanswer
      cases hjoined.symm.trans hstatus

theorem kept_of_consistent (h : m.Consistent) (hnamed : m.Named) (hcollides : ¬ m.Collides e)
    (after : List Call) : m.Kept e after where
  consistent := consistent_step h hnamed e hcollides
  begun _ hanswer hstatus _ _ hlookup := lookup_of_begun hcollides hanswer hstatus hlookup
  refused _ hanswer := step_of_refused hanswer
  repeated := by
    intro r hanswer context now obs hvalid w
    have hfirst : ∃ obs', validated e.context e.now e.document = .ok obs' := by
      cases hfirst : validated e.context e.now e.document with
      | error raised => simp [observe, hfirst] at hanswer
      | ok obs' => exact ⟨obs', rfl⟩
    obtain ⟨obs', hfirst⟩ := hfirst
    cases validated_unique hfirst hvalid
    exact repeated_of_recorded hvalid (recorded_run after (recorded_of_answered hfirst hanswer))

theorem consistent_empty : empty.Consistent := by
  intro id v h
  cases h

theorem named_empty : empty.Named := fun _ h => absurd rfl h

/-- **The memory is consistent exactly as long as no call collides.**  All that is claimed of the
calls of a run holds if and only if none begins an instance whose name another one has. -/
theorem memory_kept (l : List Call) :
    (∀ before e after, l = before ++ e :: after → Kept (run step empty before) e after) ↔
      Along step (fun m e => ¬ m.Collides e) empty l := by
  have hinvariant : (∀ before after, l = before ++ after →
      (run step empty before).Consistent ∧ (run step empty before).Named) ↔
        Along step (fun m e => ¬ m.Collides e) empty l :=
    invariant_iff_along (I := fun m : FurnitureMemory => m.Consistent ∧ m.Named)
      (fun m e h => ⟨fun hnext => (consistent_step_iff h.1 h.2 e).mp hnext.1, fun hcollides =>
        ⟨consistent_step h.1 h.2 e hcollides, named_step h.2 e⟩⟩)
      l ⟨consistent_empty, named_empty⟩
  constructor
  · intro h
    refine hinvariant.mp ?_
    rintro before after rfl
    refine ⟨?_, run_invariant_all (I := Named) (fun _ e hm => named_step hm e) before named_empty⟩
    rcases List.eq_nil_or_concat before with rfl | ⟨before, e, rfl⟩
    · exact consistent_empty
    · have hkept := (h before e after (by simp)).consistent
      rwa [List.concat_eq_append, run_append]
  · intro halong before e after hl
    obtain ⟨hconsistent, hnamed⟩ := hinvariant.mpr halong before (e :: after) hl
    rw [hl, along_append, along_cons] at halong
    exact kept_of_consistent hconsistent hnamed halong.2.1 after

/-- Four voxels of a bed, from the given one on. -/
def bedCall (observationId : String) (x : ℤ) : Call where
  context := ⟨"home", "1", "cal", "clock", "map"⟩
  now := .finite 1
  document :=
    { observationId
      category := some .bed
      detectorScore := .finite (9 / 10)
      stamp := ⟨.finite 1, ⟨"home", "1", "cal", "clock", "map"⟩, "capture"⟩
      source := some .measured
      voxelSize := .finite (1 / 20)
      observedVoxels := [[some x, some 0, some 0], [some (x + 1), some 0, some 0],
        [some (x + 2), some 0, some 0], [some (x + 3), some 0, some 0]]
      extentComplete := false
      depthValidFraction := .finite 1 }

/-- Two beds apart, the second observed under the name that the first instance has. -/
theorem renamed_overwrites : ¬ ∀ before e after,
    [bedCall "fobs-a" 0, bedCall "furniture-a" 10] = before ++ e :: after →
      Kept (run step empty before) e after := by
  intro h
  have hkept := (h [bedCall "fobs-a" 0] (bedCall "furniture-a" 10) [] rfl).begun
    ⟨.newEstimate, some "furniture-a", []⟩ (by decide +kernel) rfl
  have hbefore : ((step empty (bedCall "fobs-a" 0)).instances.lookup "furniture-a").map
      (·.observedVoxels) = some [⟨0, 0, 0⟩, ⟨1, 0, 0⟩, ⟨2, 0, 0⟩, ⟨3, 0, 0⟩] := by
    decide +kernel
  have hafter : ((step (step empty (bedCall "fobs-a" 0)) (bedCall "furniture-a" 10)).instances.lookup
      "furniture-a").map (·.observedVoxels) =
        some [⟨10, 0, 0⟩, ⟨11, 0, 0⟩, ⟨12, 0, 0⟩, ⟨13, 0, 0⟩] := by
    decide +kernel
  obtain ⟨v, hlookup, hvoxels⟩ := Option.map_eq_some_iff.mp hbefore
  have hstays : (step (step empty (bedCall "fobs-a" 0)) (bedCall "furniture-a" 10)).instances.lookup
      "furniture-a" = some v := hkept "furniture-a" v hlookup
  rw [hstays, Option.map_some, hvoxels] at hafter
  exact absurd hafter (by decide)

end FurnitureMemory

end MobileBimanual.Tasks
