/-
# A route is safe

Every route that `routeForArm` returns is sampled at the interval, starts at the measured anchor,
leaves the other arm where it is, stays inside the limits of every joint, passes through the target
of every step in order, and asks no joint for more than its speed (`route_safe`).

The number of samples of a leg is at least what the speeds need (`way_le_count`), whatever the roots
are; the blend then does the rest on every part of the leg (`follows_sample`).
-/
import Mathlib.Data.List.Range
import Mathlib.Data.Rat.Floor
import MobileBimanual.Tasks.ArmRoute

namespace MobileBimanual.Tasks

/-! ## 1. Vectors -/

/-- The scalars that a vector of numbers comes from. -/
def coordinates {count : ℕ} (values : Fin count → ℚ) : Option (List Scalar) :=
  some (List.ofFn fun i => .finite (values i))

theorem mapM_number_eq_ok {field : String} {values : List Scalar} {numbers : List ℚ}
    (h : values.mapM (number field) = .ok numbers) : values = numbers.map .finite := by
  induction values generalizing numbers with
  | nil =>
    cases h
    rfl
  | cons value values ih =>
    rw [List.mapM_cons] at h
    obtain ⟨x, hx, h⟩ := Except.bind_eq_ok_iff.mp h
    obtain ⟨xs, hxs, h⟩ := Except.bind_eq_ok_iff.mp h
    cases h
    rw [List.map_cons, number_eq_ok hx, ih hxs]

theorem routeVector_eq_ok {count : ℕ} {values : Option (List Scalar)} {vector : Fin count → ℚ}
    (h : routeVector count values = .ok vector) : values = coordinates vector := by
  cases values with
  | none => cases h
  | some values =>
    unfold routeVector at h
    dsimp only at h
    split at h
    · cases h
    next hlength =>
      obtain ⟨numbers, hnumbers, h⟩ := Except.bind_eq_ok_iff.mp h
      cases h
      obtain rfl := mapM_number_eq_ok hnumbers
      rw [List.length_map, not_not] at hlength
      subst hlength
      refine congrArg some (List.ext_getElem ?_ fun i hi hi' => ?_)
      · simp
      · simp

namespace RouteJoints

variable {joints : RouteJoints} {first count : ℕ} {slice : Fin count → ℚ} {j : Fin 12}

theorem splice_inside (i : Fin count) (h : (j : ℕ) = first + i) :
    joints.splice first slice j = slice i := by
  have hin : first ≤ (j : ℕ) ∧ (j : ℕ) < first + count := by omega
  rw [splice, dif_pos hin]
  congr 1
  ext
  simp [h]

theorem splice_outside (h : (j : ℕ) < first ∨ first + count ≤ j) :
    joints.splice first slice j = joints j := by
  rw [splice, dif_neg (by omega)]

end RouteJoints

/-! ## 2. Targets -/

namespace RouteProfile

variable {p : RouteProfile} {start target : RouteJoints}

/-- The joints may be there. -/
structure Allowed (p : RouteProfile) (joints : RouteJoints) : Prop where
  limits : ∀ j, p.minimum j ≤ joints j ∧ joints j ≤ p.maximum j
  hold : ∀ i, joints (p.arm.otherJoint i) = p.hold i

/-- The step asks for this: five joints or the gripper are set, and what is left of the arm stays. -/
def Leads (p : RouteProfile) (start target : RouteJoints) : RouteStep → Prop
  | .arm targetPositions =>
    targetPositions = coordinates (fun i : Fin 5 => target (p.arm.joint i.castSucc)) ∧
      target (p.arm.joint (Fin.last 5)) = start (p.arm.joint (Fin.last 5))
  | .gripper targetPosition => targetPosition = .finite (target (p.arm.joint (Fin.last 5))) ∧
      ∀ i : Fin 5, target (p.arm.joint i.castSucc) = start (p.arm.joint i.castSucc)
  | .unsupported | .notMapping => False

/-- The targets of the steps, each from the one before. -/
def Passes (p : RouteProfile) : RouteJoints → List RouteStep → List RouteJoints → Prop
  | _, [], [] => True
  | start, step :: steps, target :: targets =>
    p.Leads start target step ∧ p.Passes target steps targets
  | _, _, _ => False

theorem within_eq_ok {joints : RouteJoints} (h : p.within joints = .ok ()) (j : Fin 12) :
    p.minimum j ≤ joints j ∧ joints j ≤ p.maximum j := by
  unfold within at h
  split at h
  next => cases h
  next hnone => exact not_not.mp (not_exists.mp hnone j)

theorem splice_hold_joint {joints : RouteJoints} (i : Fin 6) :
    joints.splice p.arm.other p.hold (p.arm.joint i) = joints (p.arm.joint i) := by
  refine RouteJoints.splice_outside ?_
  cases h : p.arm with
  | left => exact .inl (by simp only [RouteArm.joint, RouteArm.other, RouteArm.index]; omega)
  | right => exact .inr (by simp only [RouteArm.joint, RouteArm.other, RouteArm.index]; omega)

theorem target_eq_ok {step : RouteStep} (h : p.target start step = .ok target) :
    p.Allowed target ∧ p.Leads start target step := by
  obtain ⟨aimed, haimed, h⟩ := Except.bind_eq_ok_iff.mp h
  obtain ⟨⟨⟩, hwithin, h⟩ := Except.bind_eq_ok_iff.mp h
  cases h
  have harm : ∀ i, aimed.splice p.arm.other p.hold (p.arm.joint i) = aimed (p.arm.joint i) :=
    splice_hold_joint
  refine ⟨⟨within_eq_ok hwithin, fun i => RouteJoints.splice_inside i rfl⟩, ?_⟩
  cases step with
  | arm targetPositions =>
    obtain ⟨slice, hslice, haimed⟩ := Except.bind_eq_ok_iff.mp haimed
    cases haimed
    unfold Leads
    simp only [harm]
    refine ⟨?_, RouteJoints.splice_outside (.inr le_rfl)⟩
    rw [routeVector_eq_ok hslice]
    congr 1
    funext i
    exact (RouteJoints.splice_inside i rfl).symm
  | gripper targetPosition =>
    obtain ⟨position, hposition, haimed⟩ := Except.bind_eq_ok_iff.mp haimed
    cases haimed
    unfold Leads
    simp only [harm]
    refine ⟨?_, fun i => RouteJoints.splice_outside (.inl ?_)⟩
    · have hgripper : start.splice (p.arm.index + 5) (fun _ : Fin 1 => position)
          (p.arm.joint (Fin.last 5)) = position := RouteJoints.splice_inside 0 rfl
      rw [number_eq_ok hposition, hgripper]
    · exact Nat.add_lt_add_left i.isLt _
  | unsupported => cases haimed
  | notMapping => cases haimed

/-! ## 3. Legs -/

theorem interval_pos (p : RouteProfile) : 0 < p.interval := by
  have hpos : (0 : ℚ) < p.intervalMs := by
    exact_mod_cast lt_of_lt_of_le (by decide : (0 : ℤ) < 5) p.sampled.1.1
  exact div_pos hpos (by norm_num)

section Count

variable {K : Type*} [Field K] [LinearOrder K] [FloorRing K] {roots : Roots K}

omit [FloorRing K] in
theorem jointTime_le_duration (j : Fin 12) :
    p.jointTime roots start target j ≤ p.duration roots start target :=
  Finset.le_sup' (p.jointTime roots start target) (Finset.mem_univ j)

theorem count_pos : 0 < p.count roots start target :=
  lt_of_lt_of_le Nat.one_pos (le_max_left _ _)

/-- **There are samples enough for the speed of every joint.** -/
theorem way_le_count [IsStrictOrderedRing K] (j : Fin 12) :
    15 / 8 * |target j - start j| ≤ p.maxSpeed j * p.interval * p.count roots start target := by
  have hspeed : 0 < p.maxSpeed j := (p.limited.2 j).1
  have hinterval : (0 : K) < (p.interval : K) := Rat.cast_pos.mpr p.interval_pos
  have htime : ((15 / 8 * |target j - start j| / p.maxSpeed j : ℚ) : K) ≤
      p.duration roots start target :=
    ((le_max_left _ _).trans (le_max_left _ _)).trans (jointTime_le_duration j)
  have hcount : p.duration roots start target / (p.interval : K) ≤
      (p.count roots start target : K) := by
    have hceil : (⌈p.duration roots start target / (p.interval : K)⌉ : ℤ) ≤
        (p.count roots start target : ℤ) :=
      (Int.self_le_toNat _).trans (Int.ofNat_le.mpr (le_max_right _ _))
    calc p.duration roots start target / (p.interval : K)
        ≤ ((⌈p.duration roots start target / (p.interval : K)⌉ : ℤ) : K) := Int.le_ceil _
      _ ≤ ((p.count roots start target : ℤ) : K) := Int.cast_le.mpr hceil
      _ = (p.count roots start target : K) := Int.cast_natCast _
  have hbound : ((15 / 8 * |target j - start j| / p.maxSpeed j : ℚ) : K) ≤
      ((p.count roots start target * p.interval : ℚ) : K) := by
    push_cast
    rw [div_le_iff₀ hinterval] at hcount
    push_cast at htime
    exact htime.trans hcount
  have hrat := (div_le_iff₀ hspeed).mp (Rat.cast_le.mp hbound)
  linarith

end Count

variable {count : ℕ} {offset : ℤ} {n : ℕ}

/-- Also the last sample is one of the blend. -/
theorem sample_positions (hcount : 0 < count) (hn : n ≤ count) (j : Fin 12) :
    (p.sample start target count offset n).positions j =
      start j + (target j - start j) * Quintic.blend ((n : ℚ) / count) := by
  unfold sample
  dsimp only
  split
  · rfl
  next hlast =>
    have hsame : n = count := le_antisymm hn (not_lt.mp hlast)
    rw [hsame, div_self (Nat.cast_ne_zero.mpr hcount.ne'), Quintic.blend_one]
    ring

theorem sample_zero (hcount : 0 < count) :
    p.sample start target count offset 0 = ⟨offset, start⟩ := by
  have hstart : (p.sample start target count offset 0).positions = start := by
    funext j
    rw [sample_positions hcount (Nat.zero_le _), Nat.cast_zero, zero_div, Quintic.blend_zero]
    ring
  have hoffset : (p.sample start target count offset 0).offsetMs = offset := by simp [sample]
  calc p.sample start target count offset 0
      = ⟨(p.sample start target count offset 0).offsetMs,
          (p.sample start target count offset 0).positions⟩ := rfl
    _ = ⟨offset, start⟩ := by rw [hstart, hoffset]

theorem fraction_mem (hn : n ≤ count) : (0 : ℚ) ≤ (n : ℚ) / count ∧ (n : ℚ) / count ≤ 1 :=
  ⟨div_nonneg n.cast_nonneg count.cast_nonneg,
    div_le_one_of_le₀ (Nat.cast_le.mpr hn) count.cast_nonneg⟩

theorem allowed_sample (hcount : 0 < count) (hn : n ≤ count) (hstart : p.Allowed start)
    (htarget : p.Allowed target) : p.Allowed (p.sample start target count offset n).positions := by
  obtain ⟨hlow, hhigh⟩ := fraction_mem hn
  refine ⟨fun j => ?_, fun i => ?_⟩
  · rw [sample_positions hcount hn]
    exact Quintic.mem_of_blend (hstart.limits j) (htarget.limits j) hlow hhigh
  · rw [sample_positions hcount hn, hstart.hold, htarget.hold, sub_self, zero_mul, add_zero]

/-- From one point to the next: the interval, and no further than the speeds allow. -/
structure Follows (p : RouteProfile) (a b : RoutePoint) : Prop where
  offset : b.offsetMs = a.offsetMs + p.intervalMs
  speed : ∀ j, |b.positions j - a.positions j| ≤ p.maxSpeed j * p.interval

/-- **Any part of a leg keeps to the speeds**, if there are samples enough. -/
theorem follows_sample (hcount : 0 < count) (hn : n < count)
    (hspeed : ∀ j, 15 / 8 * |target j - start j| ≤ p.maxSpeed j * p.interval * count) :
    p.Follows (p.sample start target count offset n)
      (p.sample start target count offset (n + 1)) := by
  have hpos : (0 : ℚ) < count := Nat.cast_pos.mpr hcount
  refine ⟨?_, fun j => ?_⟩
  · unfold sample
    push_cast
    ring
  · have hstep : ((n + 1 : ℕ) : ℚ) / count - n / count = 1 / count := by
      rw [← sub_div]
      push_cast
      ring
    have hle : (n : ℚ) / count ≤ ((n + 1 : ℕ) : ℚ) / count :=
      div_le_div_of_nonneg_right (Nat.cast_le.mpr (Nat.le_succ n)) hpos.le
    have hblend := Quintic.abs_blend_sub_le (start j) (target j) (fraction_mem hn.le).1 hle
      (fraction_mem hn).2
    rw [sample_positions hcount hn.le, sample_positions hcount hn]
    calc |start j + (target j - start j) * Quintic.blend (((n + 1 : ℕ) : ℚ) / count) -
            (start j + (target j - start j) * Quintic.blend ((n : ℚ) / count))|
        ≤ 15 / 8 * |target j - start j| * (((n + 1 : ℕ) : ℚ) / count - n / count) := hblend
      _ = 15 / 8 * |target j - start j| / count := by rw [hstep]; ring
      _ ≤ p.maxSpeed j * p.interval := (div_le_iff₀ hpos).mpr (hspeed j)

theorem cons_leg (hcount : 0 < count) :
    (⟨offset, start⟩ : RoutePoint) :: p.leg start target count offset =
      (List.range (count + 1)).map (p.sample start target count offset) := by
  rw [List.range_succ_eq_map, List.map_cons, sample_zero hcount, List.map_map]
  rfl

theorem getLast?_leg (p : RouteProfile) (start target : RouteJoints) (offset : ℤ)
    (hcount : 0 < count) :
    ∃ offset', (p.leg start target count offset).getLast? = some ⟨offset', target⟩ := by
  obtain ⟨last, rfl⟩ := Nat.exists_eq_add_one.mpr hcount
  refine ⟨offset + (last + 1 : ℕ) * p.intervalMs, ?_⟩
  unfold leg
  rw [List.range_succ, List.map_append, List.getLast?_append]
  simp [sample]

/-! ## 4. Routes -/

/-- The points so far are safe, and the last is where the next leg starts. -/
structure Sound (p : RouteProfile) (route : RouteJoints × List RoutePoint) : Prop where
  last : ∃ offset, route.2.getLast? = some ⟨offset, route.1⟩
  follows : route.2.IsChain p.Follows
  allowed : ∀ point ∈ route.2, p.Allowed point.positions

variable {K : Type*} [Field K] [LinearOrder K] [IsStrictOrderedRing K] [FloorRing K]
  {roots : Roots K}

theorem Sound.allowed_start {route : RouteJoints × List RoutePoint} (h : p.Sound route) :
    p.Allowed route.1 := by
  obtain ⟨offset, hlast⟩ := h.last
  exact h.allowed _ (List.mem_of_getLast? hlast)

/-- A leg with samples enough may follow a route that ends where it starts. -/
theorem Sound.append_leg {points : List RoutePoint} (h : p.Sound (start, points))
    (hlast : points.getLast? = some ⟨offset, start⟩) (hcount : 0 < count)
    (hspeed : ∀ j, 15 / 8 * |target j - start j| ≤ p.maxSpeed j * p.interval * count)
    (htarget : p.Allowed target) : p.Sound (target, points ++ p.leg start target count offset) := by
  have hchain : List.IsChain p.Follows
      ((⟨offset, start⟩ : RoutePoint) :: p.leg start target count offset) := by
    rw [cons_leg hcount, List.isChain_map]
    exact (List.isChain_range_succ _ _).mpr fun n hn => follows_sample hcount hn hspeed
  obtain ⟨hjoin, hleg⟩ := List.isChain_cons.mp hchain
  refine ⟨?_, h.follows.append hleg ?_, ?_⟩
  · obtain ⟨offset', hend⟩ := getLast?_leg p start target offset hcount
    exact ⟨offset', by rw [List.getLast?_append, hend]; rfl⟩
  · intro a ha b hb
    obtain rfl : (⟨offset, start⟩ : RoutePoint) = a := Option.some.inj (hlast.symm.trans ha)
    exact hjoin b hb
  · intro point hpoint
    rcases List.mem_append.mp hpoint with hpoint | hpoint
    · exact h.allowed point hpoint
    · obtain ⟨n, hn, rfl⟩ := List.mem_map.mp hpoint
      exact allowed_sample hcount (List.mem_range.mp hn) h.allowed_start htarget

/-- **One step**: its leg ends at its target. -/
theorem Sound.advance {route route' : RouteJoints × List RoutePoint} {step : RouteStep}
    (h : p.Sound route) (hadvance : p.advance roots route step = .ok route') :
    p.Sound route' ∧ p.Leads route.1 route'.1 step ∧
      ∃ more, route'.2 = route.2 ++ more ∧ route'.1 ∈ more.map (·.positions) := by
  obtain ⟨start, points⟩ := route
  obtain ⟨target, htarget, hadvance⟩ := Except.bind_eq_ok_iff.mp hadvance
  obtain ⟨hallowed, hleads⟩ := target_eq_ok htarget
  obtain ⟨offset, hlast⟩ := h.last
  split at hadvance
  · cases hadvance
  dsimp only at hadvance hlast
  split at hadvance
  · cases hadvance
  rw [hlast] at hadvance
  cases hadvance
  refine ⟨h.append_leg hlast count_pos (way_le_count ·) hallowed, hleads, _, rfl, ?_⟩
  have hcount : 0 < p.count roots start target := count_pos
  obtain ⟨offset', hend⟩ := getLast?_leg p start target offset hcount
  exact List.mem_map.mpr ⟨_, List.mem_of_getLast? hend, rfl⟩

/-- **All steps**, by induction on those that are left. -/
theorem Sound.steps {steps : List RouteStep} {route route' : RouteJoints × List RoutePoint}
    (h : p.Sound route) (hsteps : steps.foldlM (p.advance roots) route = .ok route') :
    p.Sound route' ∧ ∃ targets more, p.Passes route.1 steps targets ∧
      route'.2 = route.2 ++ more ∧ targets.Sublist (more.map (·.positions)) := by
  induction steps generalizing route with
  | nil =>
    cases hsteps
    exact ⟨h, [], [], trivial, (List.append_nil _).symm, List.nil_sublist _⟩
  | cons step steps ih =>
    rw [List.foldlM_cons] at hsteps
    obtain ⟨route₁, hadvance, hsteps⟩ := Except.bind_eq_ok_iff.mp hsteps
    obtain ⟨hsound, hleads, leg, hleg, htarget⟩ := h.advance hadvance
    obtain ⟨hend, targets, more, hpasses, hmore, hsublist⟩ := ih hsound hsteps
    refine ⟨hend, route₁.1 :: targets, leg ++ more, ⟨hleads, hpasses⟩, ?_, ?_⟩
    · rw [hmore, hleg, List.append_assoc]
    · rw [List.map_append, ← List.singleton_append]
      exact (List.singleton_sublist.mpr htarget).append hsublist

/-! ## 5. The claim on requests -/

/-- The profile holds what the request says. -/
structure MadeFor (p : RouteProfile) (r : RouteRequest) : Prop where
  arm : RouteArm.ofString? r.arm = some p.arm
  intervalMs : r.intervalMs = some p.intervalMs
  hold : r.oppositeHold = coordinates p.hold
  minimum : r.minimum = coordinates p.minimum
  maximum : r.maximum = coordinates p.maximum
  maxSpeed : r.maxSpeed = coordinates p.maxSpeed

end RouteProfile

theorem RouteRequest.check_eq_ok {r : RouteRequest} {p : RouteProfile} {anchor : RouteJoints}
    (h : r.check = .ok (p, anchor)) : p.MadeFor r ∧ r.current = coordinates anchor := by
  unfold check at h
  split at h
  next arm intervalMs harm hinterval =>
    split at h
    next hsampled =>
      obtain ⟨start, hstart, h⟩ := Except.bind_eq_ok_iff.mp h
      obtain ⟨hold, hhold, h⟩ := Except.bind_eq_ok_iff.mp h
      obtain ⟨minimum, hminimum, h⟩ := Except.bind_eq_ok_iff.mp h
      obtain ⟨maximum, hmaximum, h⟩ := Except.bind_eq_ok_iff.mp h
      obtain ⟨maxSpeed, hmaxSpeed, h⟩ := Except.bind_eq_ok_iff.mp h
      obtain ⟨maxAcceleration, -, h⟩ := Except.bind_eq_ok_iff.mp h
      obtain ⟨maxJerk, -, h⟩ := Except.bind_eq_ok_iff.mp h
      split at h
      next hlimited =>
        cases h
        exact ⟨⟨harm, hinterval, routeVector_eq_ok hhold, routeVector_eq_ok hminimum,
          routeVector_eq_ok hmaximum, routeVector_eq_ok hmaxSpeed⟩, routeVector_eq_ok hstart⟩
      next => cases h
    next => cases h
  next => cases h

/-- **A route is safe.**  For whatever request is accepted, and whatever the roots: the points are
the interval apart and start at the measured anchor; in every point the other arm is at its hold
position and every joint inside its limits; the targets of the steps are passed through in order;
and from one point to the next no joint moves faster than its speed. -/
theorem route_safe {K : Type*} [Field K] [LinearOrder K] [IsStrictOrderedRing K] [FloorRing K]
    (roots : Roots K) (r : RouteRequest) (points : List RoutePoint)
    (h : routeForArm roots r = .ok points) :
    ∃ (p : RouteProfile) (anchor : RouteJoints) (steps : List RouteStep)
        (targets : List RouteJoints),
      (p.MadeFor r ∧ r.current = coordinates anchor ∧ r.steps = some steps) ∧
      points.head? = some ⟨p.intervalMs, anchor⟩ ∧
      points.IsChain (fun a b => b.offsetMs = a.offsetMs + p.intervalMs) ∧
      (∀ point ∈ points, ∀ i, point.positions (p.arm.otherJoint i) = p.hold i) ∧
      (∀ point ∈ points, ∀ j,
        p.minimum j ≤ point.positions j ∧ point.positions j ≤ p.maximum j) ∧
      (p.Passes anchor steps targets ∧
        (anchor :: targets).Sublist (points.map (·.positions))) ∧
      points.IsChain (fun a b => ∀ j,
        |b.positions j - a.positions j| ≤ p.maxSpeed j * ((p.intervalMs : ℚ) / 1000)) := by
  obtain ⟨⟨p, anchor⟩, hcheck, h⟩ := Except.bind_eq_ok_iff.mp h
  obtain ⟨hmade, hcurrent⟩ := RouteRequest.check_eq_ok hcheck
  obtain ⟨⟨⟩, hwithin, h⟩ := Except.bind_eq_ok_iff.mp h
  dsimp only at h
  split at h
  · cases h
  next hbounded =>
    split at h
    next => cases h
    next hhold =>
      obtain ⟨route, hroute, h⟩ := Except.bind_eq_ok_iff.mp h
      cases h
      obtain ⟨steps, hsteps⟩ : ∃ steps, r.steps = some steps := by
        cases hsteps : r.steps with
        | none => exact absurd (.inl (by rw [hsteps]; rfl)) hbounded
        | some steps => exact ⟨steps, rfl⟩
      rw [hsteps, Option.getD_some] at hroute
      have hbegin : p.Sound (anchor, [⟨p.intervalMs, anchor⟩]) := by
        refine ⟨⟨_, rfl⟩, List.isChain_singleton _, ?_⟩
        intro point hpoint
        obtain rfl := List.mem_singleton.mp hpoint
        exact ⟨RouteProfile.within_eq_ok hwithin, fun i => not_not.mp (not_exists.mp hhold i)⟩
      obtain ⟨hsound, targets, more, hpasses, hmore, hsublist⟩ := hbegin.steps hroute
      refine ⟨p, anchor, steps, targets, ⟨hmade, hcurrent, hsteps⟩, ?_,
        hsound.follows.imp fun _ _ hstep => hstep.offset,
        fun point hpoint => (hsound.allowed point hpoint).hold,
        fun point hpoint => (hsound.allowed point hpoint).limits, ⟨hpasses, ?_⟩,
        hsound.follows.imp fun _ _ hstep => hstep.speed⟩
      · rw [hmore]
        rfl
      · rw [hmore]
        exact hsublist.cons_cons _

/-- Roots to a hundredth, cut off. -/
def benchRoots : Roots ℚ where
  sqrt x := (Nat.sqrt ⌊x * 10 ^ 4⌋.toNat : ℚ) / 10 ^ 2
  cbrt x := (Nat.findGreatest (fun n => n ^ 3 ≤ ⌊x * 10 ^ 6⌋.toNat) 100 : ℚ) / 10 ^ 2

/-- The left arm closes its gripper. -/
def benchRequest : RouteRequest where
  current := some (List.replicate 12 (.finite 0))
  oppositeHold := some (List.replicate 6 (.finite 0))
  arm := "left"
  steps := some [.gripper (.finite (1 / 20))]
  minimum := some (List.replicate 12 (.finite (-1)))
  maximum := some (List.replicate 12 (.finite 1))
  maxSpeed := some (List.replicate 12 (.finite (1 / 2)))
  intervalMs := some 100

def benchRoute : List RoutePoint := (routeForArm benchRoots benchRequest).toOption.getD []

theorem route_safe_bench : benchRoute.length = 9 ∧ ∃ p : RouteProfile, p.MadeFor benchRequest ∧
    benchRoute.IsChain (fun a b => ∀ j,
      |b.positions j - a.positions j| ≤ p.maxSpeed j * ((p.intervalMs : ℚ) / 1000)) := by
  obtain ⟨p, -, -, -, ⟨hmade, -, -⟩, -, -, -, -, -, hspeed⟩ :=
    route_safe benchRoots benchRequest benchRoute (by decide +kernel)
  exact ⟨by decide +kernel, p, hmade, hspeed⟩

end MobileBimanual.Tasks
