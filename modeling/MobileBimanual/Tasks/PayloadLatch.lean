/-
# The latch of a carried object

A verified grasp sets the latch and names the object.  Samples, exceptions and a clock that goes
backwards clear the pair, the track and what was verified, but not these two; `expect` takes only
the release of that object, and a poll that verifies it is the only way out.

* `latch_step` is the step: the object is carried on, unless the operation `Releases` it;
* `latch_run` carries it over a run, together with what the polls answer on the way.
-/
import MobileBimanual.Lib.Program
import MobileBimanual.Tasks.PayloadEvidence

namespace MobileBimanual.Tasks

open Machine

def lastRelease : PayloadLog → Option Expectation
  | [] => none
  | .expected x :: log => if x.intent = .release then some x else lastRelease log
  | _ :: log => lastRelease log

theorem lastRelease_of_expectation : ∀ {log : PayloadLog},
    (expectationOf log).intent = .release → lastRelease log = some (expectationOf log)
  | [], h => nomatch h
  | .expected x :: _, h => by
    have hx : x.intent = .release := h
    simp [lastRelease, expectationOf, hx]
  | .grip _ :: log, h => @lastRelease_of_expectation log h
  | .vision _ :: log, h => @lastRelease_of_expectation log h
  | .polled _ :: log, h => @lastRelease_of_expectation log h

namespace PayloadMonitor

/-- What an operation answers: only a poll does. -/
def reply (m : PayloadMonitor) : PayloadOp → Option PayloadProof
  | .proof now => (m.proof now).2.toOption
  | _ => none

/-- The latch: the object is carried, and it is the one that is tracked. -/
structure Carries (object : String) (m : PayloadMonitor) : Prop where
  carrying : m.carrying = true
  tracked : m.expectation.objectId = some object

/-- The operation verifies a grasp of the object. -/
def Grasps (object : String) (w : PayloadMonitor × PayloadLog) (op : PayloadOp) : Prop :=
  ∃ proof ∈ reply w.1 op, proof.state = some .held ∧ w.1.expectation.objectId = some object

/-- The operation verifies a release of the object, seen at the destination that the last intent
to release it names. -/
def Releases (object : String) (w : PayloadMonitor × PayloadLog) (op : PayloadOp) : Prop :=
  ∃ proof ∈ reply w.1 op, proof.state = some .released ∧
    ∃ x ∈ lastRelease w.2, x.objectId = some object ∧
      ∃ destination, x.destination = some destination ∧
        ∃ v ∈ w.1.vision, v.objectId = object ∧ v.relation = .empty ∧
          v.destination = some destination ∧ v.objectAtDestination = true

/-- The poll does not prove the gripper empty. -/
def NotEmptied (w : PayloadMonitor × PayloadLog) (op : PayloadOp) : Prop :=
  ∀ proof ∈ reply w.1 op, ("gripper_empty", true) ∉ proof.conditions

/-! ## 1. What the operations leave alone -/

/-- The latch, and what is expected, are as they were. -/
structure SameLatch (m m' : PayloadMonitor) : Prop where
  carrying : m'.carrying = m.carrying
  expectation : m'.expectation = m.expectation

variable {m m' : PayloadMonitor} {object : String}

theorem SameLatch.carries (h : SameLatch m m') (hc : Carries object m) : Carries object m' :=
  ⟨h.carrying.trans hc.carrying, (congrArg _ h.expectation).trans hc.tracked⟩

theorem SameLatch.refl (m : PayloadMonitor) : SameLatch m m := ⟨rfl, rfl⟩

theorem SameLatch.trans {m'' : PayloadMonitor} (h : SameLatch m m') (h' : SameLatch m' m'') :
    SameLatch m m'' :=
  ⟨h'.carrying.trans h.carrying, h'.expectation.trans h.expectation⟩

theorem sameLatch_clock (m : PayloadMonitor) (now : Scalar) : SameLatch m (m.clock now).1 := by
  unfold clock
  split
  · exact .refl m
  · split <;> exact ⟨rfl, rfl⟩

/-- A clock that is taken leaves the samples. -/
theorem clock_vision {now : Scalar} {now' : ℚ} (h : m.clock now = (m', .ok now')) :
    m'.vision = m.vision := by
  unfold clock at h
  split at h
  · cases h
  · split at h
    · cases h
    · cases h
      rfl

variable {p : Pair}

theorem vision_of_pair (h : m.pair = some p) : m.vision = some p.vision := by
  unfold pair at h
  cases hg : m.grip with
  | none =>
    rw [hg] at h
    cases h
  | some g =>
    cases hv : m.vision with
    | none =>
      rw [hg, hv] at h
      cases h
    | some v =>
      rw [hg, hv] at h
      cases h
      rfl

theorem sameLatch_observeGrip (m : PayloadMonitor) (document : GripDocument) (now : Scalar) :
    SameLatch m (m.observeGrip document now).1 := by
  have hclock := sameLatch_clock m now
  unfold observeGrip
  generalize m.clock now = clocked at hclock
  obtain ⟨m', error | now'⟩ := clocked
  · exact hclock
  · dsimp only at hclock ⊢
    cases m'.checkGrip document now' with
    | error error => exact hclock.trans ⟨rfl, rfl⟩
    | ok g =>
      dsimp only
      split
      · exact hclock.trans ⟨rfl, rfl⟩
      · exact hclock.trans ⟨rfl, rfl⟩

theorem sameLatch_observeVision (m : PayloadMonitor) (document : PayloadDocument) (now : Scalar) :
    SameLatch m (m.observeVision document now).1 := by
  have hclock := sameLatch_clock m now
  unfold observeVision
  generalize m.clock now = clocked at hclock
  obtain ⟨m', error | now'⟩ := clocked
  · exact hclock
  · dsimp only at hclock ⊢
    cases m'.checkVision document now' with
    | error error => exact hclock.trans ⟨rfl, rfl⟩
    | ok v =>
      dsimp only
      split_ifs <;> exact hclock.trans ⟨rfl, rfl⟩

theorem sameLatch_follow (m : PayloadMonitor) (p : Pair) (now : ℚ) :
    SameLatch m (m.follow p now).1 := by
  unfold follow
  split
  · cases m.stateOf p with
    | none => exact ⟨rfl, rfl⟩
    | some state =>
      cases m.track with
      | none => exact ⟨rfl, rfl⟩
      | some t =>
        dsimp only
        split
        · exact ⟨rfl, rfl⟩
        · unfold advance
          split
          · exact ⟨rfl, rfl⟩
          · exact .refl m
  · exact ⟨rfl, rfl⟩

/-- The state that a poll goes by is one that the pair shows. -/
theorem follow_state {now : ℚ} {state : PayloadState} (h : (m.follow p now).2 = some state) :
    m.Valid p now ∧ m.stateOf p = some state := by
  unfold follow at h
  split at h
  next hvalid =>
    refine ⟨hvalid, ?_⟩
    cases hstate : m.stateOf p with
    | none =>
      rw [hstate] at h
      cases h
    | some shown =>
      rw [hstate] at h
      cases htrack : m.track with
      | none =>
        rw [htrack] at h
        exact h
      | some t =>
        rw [htrack] at h
        exact h
  next => cases h

/-- While something is carried, a pair does not show an empty gripper, and shows a release only if
one is expected. -/
theorem stateOf_carrying {state : PayloadState} (hcarrying : m.carrying = true)
    (h : m.stateOf p = some state) :
    state = .held ∨ state = .released ∧ m.expectation.intent = .release ∧
      p.vision.Shows m.expectation .released := by
  unfold stateOf at h
  split at h
  · cases h
    exact .inl rfl
  · split at h
    next hempty =>
      rw [hcarrying] at hempty
      cases hempty.2.2
    · split at h
      next hreleased =>
        cases h
        exact .inr ⟨rfl, hreleased.2, hreleased.1.2⟩
      next => cases h

/-! ## 2. The step -/

/-- A release that is expected has a destination. -/
def Destined (m : PayloadMonitor) : Prop :=
  m.expectation.intent = .release → m.expectation.destination.isSome = true

theorem checkExpect_destined {intent : Intent} {objectId : String}
    {destination named : Option String}
    (h : m.checkExpect intent objectId destination = .ok (object, named)) :
    (intent = .release → named.isSome = true) ∧
      (m.carrying = true → intent = .release ∧ some object = m.expectation.objectId) := by
  unfold checkExpect at h
  split at h
  · cases h
  split at h
  · cases h
  next hcarried =>
    obtain ⟨checked, -, h⟩ := Except.bind_eq_ok_iff.mp h
    split at h
    next hrelease =>
      split at h
      · cases h
      next hobject =>
        obtain ⟨named, -, h⟩ := Except.bind_eq_ok_iff.mp h
        cases h
        refine ⟨fun _ => rfl, fun _ => ⟨hrelease, ?_⟩⟩
        exact not_not.mp (not_or.mp hobject).2
    next hother =>
      refine ⟨fun hrelease => absurd hrelease hother, fun hcarrying => ?_⟩
      exact absurd ⟨hcarrying, hother⟩ hcarried

variable {w : PayloadMonitor × PayloadLog}

theorem destined_step (h : Destined w.1) (op : PayloadOp) : Destined (step w op).1 := by
  have hsame : ∀ {m' : PayloadMonitor}, m'.expectation = w.1.expectation → Destined m' := by
    intro m' hsame
    unfold Destined
    rw [hsame]
    exact h
  cases op with
  | expect intent objectId destination now =>
    have hclock := hsame (sameLatch_clock w.1 now).expectation
    simp only [step, expect]
    generalize w.1.clock now = clocked at hclock
    obtain ⟨m', error | now'⟩ := clocked
    · exact hclock
    · dsimp only at hclock ⊢
      cases hcheck : m'.checkExpect intent objectId destination with
      | error error => exact hclock
      | ok checked => exact (checkExpect_destined hcheck).1
  | observeGrip document now => exact hsame (sameLatch_observeGrip _ _ _).expectation
  | observeVision document now => exact hsame (sameLatch_observeVision _ _ _).expectation
  | proof now =>
    have hclock := (sameLatch_clock w.1 now).expectation
    simp only [step, proof]
    generalize w.1.clock now = clocked at hclock
    obtain ⟨m', error | now'⟩ := clocked
    · exact hsame hclock
    · dsimp only at hclock ⊢
      cases m'.pair with
      | none => exact hsame hclock
      | some p => exact hsame ((sameLatch_follow m' p now').expectation.trans hclock)

/-- While something is carried only its release can be expected. -/
theorem carries_expect (h : Carries object m) (intent : Intent) (objectId : String)
    (destination : Option String) (now : Scalar) :
    Carries object (m.expect intent objectId destination now).1 := by
  have hclock := (sameLatch_clock m now).carries h
  unfold expect
  generalize m.clock now = clocked at hclock
  obtain ⟨m', error | now'⟩ := clocked
  · exact hclock
  · dsimp only at hclock ⊢
    cases hcheck : m'.checkExpect intent objectId destination with
    | error error => exact hclock
    | ok checked =>
      obtain ⟨-, hobject⟩ := (checkExpect_destined hcheck).2 hclock.carrying
      exact ⟨hclock.carrying, hobject.trans hclock.tracked⟩

variable {state : Option PayloadState}

/-- What a proof says of the gripper, by its state. -/
theorem emptied_iff :
    ("gripper_empty", true) ∈ PayloadState.conditions state ↔
      state = some .empty ∨ state = some .released := by
  cases state with
  | none => decide
  | some state => cases state <;> decide

theorem conclude_state (m : PayloadMonitor) (state : Option PayloadState) (stamp : ℚ) :
    (m.conclude state stamp).2.state = none ∨ (m.conclude state stamp).2.state = state := by
  unfold conclude
  cases m.verified with
  | false => exact .inl rfl
  | true => exact .inr rfl

/-- Only a verified release opens the latch. -/
theorem conclude_carries (h : Carries object m) {stamp : ℚ}
    (hkept : (m.conclude state stamp).2.state ≠ some .released) :
    Carries object (m.conclude state stamp).1 := by
  refine ⟨?_, h.tracked⟩
  unfold conclude at hkept ⊢
  dsimp only at hkept ⊢
  rw [if_neg hkept]
  generalize (if m.verified = true then state else none) = shown
  split
  · rfl
  · exact h.carrying

/-- What a poll goes by: the samples there are, at the time that the clock took. -/
theorem proof_cases (m : PayloadMonitor) (now : Scalar) :
    (∃ error, m.proof now = ((m.clock now).1, .error error)) ∨
    ∃ m' now', m.clock now = (m', .ok now') ∧
      (m.proof now = ((m'.invalidate.conclude none now').1,
          .ok (m'.invalidate.conclude none now').2) ∨
        ∃ p, m'.pair = some p ∧
          m.proof now = (((m'.follow p now').1.conclude (m'.follow p now').2 p.stamp).1,
            .ok ((m'.follow p now').1.conclude (m'.follow p now').2 p.stamp).2)) := by
  unfold proof
  cases m.clock now with
  | mk m' result =>
    cases result with
    | error error => exact .inl ⟨error, rfl⟩
    | ok now' =>
      refine .inr ⟨m', now', rfl, ?_⟩
      dsimp only
      cases m'.pair with
      | none => exact .inl rfl
      | some p => exact .inr ⟨p, rfl, rfl⟩

/-- **A poll** leaves the latch set, or verifies a release that was expected and seen. -/
theorem carries_follow (h : Carries object m) (p : Pair) (now : ℚ)
    {concluded : PayloadMonitor × PayloadProof}
    (hconclude : (m.follow p now).1.conclude (m.follow p now).2 p.stamp = concluded) :
    (Carries object concluded.1 ∧ ("gripper_empty", true) ∉ concluded.2.conditions) ∨
      concluded.2.state = some .released ∧ some p.vision.objectId = m.expectation.objectId ∧
        m.expectation.intent = .release ∧ p.vision.Shows m.expectation .released := by
  subst hconclude
  have hfollow := (sameLatch_follow m p now).carries h
  have hconditions : ((m.follow p now).1.conclude (m.follow p now).2 p.stamp).2.conditions =
      PayloadState.conditions ((m.follow p now).1.conclude (m.follow p now).2 p.stamp).2.state := rfl
  rw [hconditions, emptied_iff]
  rcases conclude_state (m.follow p now).1 (m.follow p now).2 p.stamp with hnone | hstate
  · refine .inl ⟨conclude_carries hfollow ?_, ?_⟩ <;> simp [hnone]
  · cases hshown : (m.follow p now).2 with
    | none =>
      rw [hshown] at hstate
      refine .inl ⟨conclude_carries hfollow ?_, ?_⟩ <;> simp [hstate]
    | some state =>
      rw [hshown] at hstate
      obtain ⟨hvalid, hshows⟩ := follow_state hshown
      rcases stateOf_carrying h.carrying hshows with rfl | ⟨rfl, hreleased⟩
      · refine .inl ⟨conclude_carries hfollow ?_, ?_⟩ <;> simp [hstate]
      · exact .inr ⟨hstate, hvalid.2.1, hreleased⟩

/-- **The step**: what is carried stays carried, and the gripper is not proven empty, unless the
operation releases it. -/
theorem latch_step (hlog : expectationOf w.2 = w.1.expectation) (hdestined : Destined w.1)
    (h : Carries object w.1) {op : PayloadOp} (hkept : ¬ Releases object w op) :
    Carries object (step w op).1 ∧ NotEmptied w op := by
  cases op with
  | expect intent objectId destination now =>
    exact ⟨carries_expect h intent objectId destination now, fun _ hnone => by cases hnone⟩
  | observeGrip document now =>
    exact ⟨(sameLatch_observeGrip _ _ _).carries h, fun _ hnone => by cases hnone⟩
  | observeVision document now =>
    exact ⟨(sameLatch_observeVision _ _ _).carries h, fun _ hnone => by cases hnone⟩
  | proof now =>
    have hclock := sameLatch_clock w.1 now
    unfold Releases NotEmptied reply at *
    simp only [step] at hkept ⊢
    rcases proof_cases w.1 now with
      ⟨error, hproof⟩ | ⟨m', now', hclocked, hproof | ⟨p, hpair, hproof⟩⟩
    · rw [hproof]
      exact ⟨hclock.carries h, fun _ hnone => by cases hnone⟩
    · rw [hclocked] at hclock
      rw [hproof]
      have hnone : (m'.invalidate.conclude none now').2.state = none := rfl
      have hkept : (m'.invalidate.conclude none now').2.state ≠ some .released := by
        rw [hnone]
        exact (Option.some_ne_none _).symm
      refine ⟨conclude_carries ?_ hkept, ?_⟩
      · have hm' := hclock.carries h
        exact ⟨hm'.carrying, hm'.tracked⟩
      · rintro _ ⟨⟩
        exact emptied_iff.not.mpr (by simp)
    · rw [hclocked] at hclock
      rw [hproof] at hkept ⊢
      rcases carries_follow (hclock.carries h) p now' rfl with
        ⟨hcarries, hempty⟩ | ⟨hstate, hobject, hintent, hrelation, hplace, hat⟩
      · refine ⟨hcarries, ?_⟩
        rintro _ ⟨⟩
        exact hempty
      · rw [hclock.expectation] at hintent hobject hplace
        have hlast : lastRelease w.2 = some w.1.expectation := by
          rw [← hlog] at hintent ⊢
          exact lastRelease_of_expectation hintent
        have hvision : w.1.vision = some p.vision := by
          rw [← clock_vision hclocked]
          exact vision_of_pair hpair
        obtain ⟨destination, hdestination⟩ := Option.isSome_iff_exists.mp (hdestined hintent)
        exact absurd ⟨_, rfl, hstate, w.1.expectation, hlast, h.tracked, destination, hdestination,
          p.vision, hvision, Option.some.inj (hobject.trans h.tracked), hrelation,
          hplace.trans hdestination, hat⟩ hkept

/-! ## 3. Every run -/

/-- A verified grasp sets the latch. -/
theorem carries_of_grasps {op : PayloadOp} (h : Grasps object w op) :
    Carries object (step w op).1 := by
  obtain ⟨proof, hreply, hstate, hobject⟩ := h
  cases op with
  | proof now =>
    have hclock := sameLatch_clock w.1 now
    simp only [reply] at hreply
    simp only [step]
    rcases proof_cases w.1 now with
      ⟨error, hproof⟩ | ⟨m', now', hclocked, hproof | ⟨p, -, hproof⟩⟩
    · rw [hproof] at hreply
      cases hreply
    · rw [hproof] at hreply
      cases hreply
      cases hstate
    · rw [hproof] at hreply ⊢
      rw [hclocked] at hclock
      obtain rfl := Option.some.inj hreply
      have hfollow := (sameLatch_follow m' p now').expectation.trans hclock.expectation
      exact ⟨if_pos hstate, (congrArg _ hfollow).trans hobject⟩
  | _ => cases hreply

/-- **The latch over a run.** -/
theorem latch_run {limits : PayloadLimits} :
    ∀ {l : List PayloadOp} {w : PayloadMonitor × PayloadLog}, Inv limits w.1 w.2 → Destined w.1 →
      Carries object w.1 → Along step (fun w op => ¬ Releases object w op) w l →
      Carries object (run step w l).1 ∧ Along step NotEmptied w l
  | [], _, _, _, h, _ => ⟨h, trivial⟩
  | op :: l, w, hinv, hdestined, h, hkept => by
    obtain ⟨hcarries, hempty⟩ := latch_step hinv.expectation hdestined h hkept.1
    obtain ⟨hrun, halong⟩ :=
      latch_run (l := l) (inv_step hinv op) (destined_step hdestined op) hcarries hkept.2
    exact ⟨hrun, hempty, halong⟩

/-- **The carrying latch.**  From a verified grasp of an object, and as long as no operation
releases it at the destination the last intent to release it names, it is carried and tracked, and
no poll proves the gripper empty. -/
theorem carrying_latch (limits : PayloadLimits) (object : String) (before after : List PayloadOp)
    (grasp : PayloadOp) (hgrasp : Grasps object (run step (init limits, []) before) grasp)
    (hkept : Along step (fun w op => ¬ Releases object w op)
      (run step (init limits, []) (before ++ [grasp])) after) :
    Carries object (run step (init limits, []) (before ++ grasp :: after)).1 ∧
      Along step NotEmptied (run step (init limits, []) (before ++ [grasp])) after := by
  have hinv : Inv limits (run step (init limits, []) (before ++ [grasp])).1
      (run step (init limits, []) (before ++ [grasp])).2 :=
    run_invariant_all (I := fun w : PayloadMonitor × PayloadLog => Inv limits w.1 w.2)
      (fun _ op h => inv_step h op) _ (inv_init limits)
  have hdestined : Destined (run step (init limits, []) (before ++ [grasp])).1 :=
    run_invariant_all (I := fun w : PayloadMonitor × PayloadLog => Destined w.1)
      (fun _ op h => destined_step h op) _ nofun
  have hcarries : Carries object (run step (init limits, []) (before ++ [grasp])).1 := by
    rw [run_append]
    exact carries_of_grasps hgrasp
  have hsplit : before ++ grasp :: after = (before ++ [grasp]) ++ after := by simp
  rw [hsplit, run_append]
  exact latch_run hinv hdestined hcarries hkept

/-- A new command, a clock that goes backwards, samples of an empty gripper and polls. -/
def cupTroubles : List PayloadOp :=
  [.expect .empty "cup" none (.finite 2), .proof (.finite 1),
    .observeGrip ⟨some 3, .finite 3, .finite 70, .finite 1, true⟩ (.finite 3),
    .observeVision ⟨some 3, .finite 3, "cup", some .empty, none, false, ""⟩ (.finite 3),
    .proof (.finite 3), .observeGrip ⟨none, .notFinite, .finite 70, .finite 1, true⟩ (.finite 3)]

instance (object : String) (w : PayloadMonitor × PayloadLog) (op : PayloadOp) :
    Decidable (Releases object w op) :=
  decidable_of_iff
    (∃ proof ∈ reply w.1 op, proof.state = some .released ∧
      ∃ x ∈ lastRelease w.2, x.objectId = some object ∧
        ∃ destination ∈ x.destination, ∃ v ∈ w.1.vision, v.objectId = object ∧
          v.relation = .empty ∧ v.destination = some destination ∧ v.objectAtDestination = true)
    Iff.rfl

theorem carrying_latch_cup :
    Carries "cup" (run step (init cupLimits, []) (cupHeld ++ .proof (.finite 2) :: cupTroubles)).1 ∧
      Along step NotEmptied (run step (init cupLimits, []) (cupHeld ++ [.proof (.finite 2)]))
        cupTroubles :=
  carrying_latch cupLimits "cup" cupHeld cupTroubles (.proof (.finite 2))
    ⟨⟨some .held, 2, PayloadState.conditions (some .held)⟩, by decide +kernel, rfl,
      by decide +kernel⟩
    (by decide +kernel)

end PayloadMonitor

end MobileBimanual.Tasks
