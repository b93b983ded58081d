/-
# What the evidence of the robot's state rests on

The world is the store with a record for each observation that it accepted: the observation, the
revision it was given and the time it was said to stand still since.

* `Inv` ties both timers to spells of the accepted observations and the revisions to their epochs;
  `inv_take` is the step.
* `evidence_sound` is the run: what stationary evidence says of the observations up to its own, what
  two of one revision say of those in between, and what a verified hold says of the lift.
-/
import MobileBimanual.Lib.Machine
import MobileBimanual.Lib.Program
import MobileBimanual.Lib.Spells
import MobileBimanual.Tasks.RobotState

namespace MobileBimanual.Tasks

open Machine Spells RobotObservation

/-! ## 1. The records -/

/-- An accepted observation with what its evidence says. -/
structure Recorded where
  observation : RobotObservation
  revision : ℕ
  since : ℚ

def Recorded.evidence (p : RobotProfile) (r : Recorded) : MotionEvidence :=
  r.observation.evidence p r.since r.revision

namespace RobotStateStore

/-- The store, and the records, the newest first. -/
abbrev World := RobotStateStore × List Recorded

def record (s : RobotStateStore) (o : RobotObservation) : Recorded where
  observation := o
  revision := (s.take o).revision
  since := (s.sinceAfter o).getD o.observed

/-- An observation, with the reading of the clock. -/
def step (w : World) (e : RobotDocument × ℚ) : World :=
  match w.1.check e.1 e.2 with
  | .error _ => ((w.1.observe e.1 e.2).1, w.2)
  | .ok o => ((w.1.observe e.1 e.2).1, w.1.record o :: w.2)

/-- The observations that were accepted, the newest first. -/
def accepted (w : World) : List RobotObservation := w.2.map (·.observation)

/-! ## 2. What is claimed -/

variable (p : RobotProfile)

/-- Neither a move nor a gap. -/
def Near (last o : RobotObservation) : Prop :=
  ¬ Moved last o ∧ ¬ Gapped p last o

/-- The robot stood, and where it stood before. -/
def Calm (last o : RobotObservation) : Prop := o.Stopped p ∧ Near p last o

/-- Homed, supported and at rest, about a height. -/
def HeldAt (height : ℤ) (o : RobotObservation) : Prop :=
  o.Supported p ∧ |((o.liftUm - height : ℤ) : ℚ)| ≤ p.liftTolerance

/-- What is observed between the two times is good, and one after another linked. -/
structure Throughout (good : RobotObservation → Prop)
    (link : RobotObservation → RobotObservation → Prop) (since until_ : ℚ)
    (log : List RobotObservation) : Prop where
  begins : ∃ o ∈ log, o.observed = since
  ends : ∃ o ∈ log, o.observed = until_
  good : ∀ o ∈ log, since ≤ o.observed → o.observed ≤ until_ → good o
  link : ∀ newer older a b, log = newer ++ b :: a :: older → since ≤ a.observed →
    b.observed ≤ until_ → link a b

/-! ## 3. The invariant -/

structure Inv (w : World) : Prop where
  profile : w.1.profile = p
  history : w.1.history = (w.2.map (·.evidence p)).take 512
  latest : w.1.latest = (accepted w).head?
  revision : ∀ r ∈ w.2.head?, w.1.revision = r.revision
  since : ∀ r ∈ w.2.head?, w.1.since = if r.observation.Stopped p then some r.since else none
  empty : w.2 = [] → w.1.since = none ∧ w.1.holdSince = none
  ordered : Ordered observed (accepted w)
  epochs : Epochs (Calm p) (w.2.map fun r => (r.revision, r.observation))
  spells : ∀ newer r older, w.2 = newer ++ r :: older → r.observation.Stopped p →
    ∃ first, first.observed = r.since ∧
      Spelling (Stopped p) (Near p) first
        (r.observation :: older.map (·.observation))
  hold : ∀ since, w.1.holdSince = some since →
    ∃ first, first.observed = since ∧ w.1.lastHoldHeight = some first.liftUm ∧
      Spelling (HeldAt p first.liftUm) (fun last o => ¬ Gapped p last o) first
        (accepted w)

variable {p} {w : World} {o : RobotObservation}

theorem inv_init (p : RobotProfile) : Inv p (init p, []) where
  profile := rfl
  history := List.take_nil.symm
  latest := rfl
  revision r hr := by cases hr
  since r hr := by cases hr
  empty _ := ⟨rfl, rfl⟩
  ordered := .nil
  epochs := .none
  spells newer r older h := absurd h (by simp)
  hold since h := by cases h

theorem check_newer {s : RobotStateStore} {document : RobotDocument} {now : ℚ}
    (h : s.check document now = .ok o) : ∀ last ∈ s.latest, last.observed < o.observed := by
  obtain ⟨⟨sequence, bootId, observed⟩, hstamp, h⟩ := Except.bind_eq_ok_iff.mp h
  obtain ⟨xyYaw, -, h⟩ := Except.bind_eq_ok_iff.mp h
  obtain ⟨baseVelocity, -, h⟩ := Except.bind_eq_ok_iff.mp h
  obtain ⟨joints, -, h⟩ := Except.bind_eq_ok_iff.mp h
  have hobserved : o.observed = observed := by
    split at h
    · cases h
    · obtain ⟨liftUm, -, h⟩ := Except.bind_eq_ok_iff.mp h
      obtain ⟨liftVelocity, -, h⟩ := Except.bind_eq_ok_iff.mp h
      cases h
      rfl
  obtain ⟨sequence', -, h⟩ := Except.bind_eq_ok_iff.mp hstamp
  obtain ⟨bootId', -, h⟩ := Except.bind_eq_ok_iff.mp h
  split at h
  · cases h
  obtain ⟨observed', -, h⟩ := Except.bind_eq_ok_iff.mp h
  split at h
  · cases h
  split at h
  · cases h
  next hnew =>
    cases h
    intro last hlast
    rw [hobserved]
    rw [Option.mem_def.mp hlast] at hnew
    simp only [Option.any_some, decide_eq_true_eq, not_or, not_le] at hnew
    exact hnew.2

/-- After an observation the store goes on calmly, or begins a new pose. -/
theorem jolts_iff (h : Inv p w) : w.1.Jolts o ↔
    ¬ o.Stopped p ∨ ∃ last ∈ w.1.latest, ¬ Near p last o := by
  unfold Jolts Near
  rw [h.profile]
  constructor
  · rintro (hstopped | ⟨last, hlast, hmoved⟩ | ⟨last, hlast, hgapped⟩)
    · exact .inl hstopped
    · exact .inr ⟨last, hlast, fun hnear => hnear.1 hmoved⟩
    · exact .inr ⟨last, hlast, fun hnear => hnear.2 hgapped⟩
  · rintro (hstopped | ⟨last, hlast, hnear⟩)
    · exact .inl hstopped
    · rcases not_and_or.mp hnear with hmoved | hgapped
      · exact .inr (.inl ⟨last, hlast, not_not.mp hmoved⟩)
      · exact .inr (.inr ⟨last, hlast, not_not.mp hgapped⟩)

theorem head_cases (h : Inv p w) :
    w.2 = [] ∧ w.1.latest = none ∨
      ∃ r older, w.2 = r :: older ∧ w.1.latest = some r.observation := by
  have hlatest := h.latest
  unfold accepted at hlatest
  cases hrecords : w.2 with
  | nil => exact .inl ⟨rfl, by rw [hlatest, hrecords]; rfl⟩
  | cons r older => exact .inr ⟨r, older, rfl, by rw [hlatest, hrecords]; rfl⟩

/-- The time of a platform that stands is that of the spell it is in. -/
theorem spell_take (h : Inv p w) (hstopped : o.Stopped p) :
    ∃ first, first.observed = (w.1.record o).since ∧
      Spelling (Stopped p) (Near p) first (o :: accepted w) := by
  have hstart : w.1.sinceAfter o = some o.observed → ∃ first : RobotObservation,
      first.observed = (w.1.record o).since ∧
        Spelling (Stopped p) (Near p) first (o :: accepted w) := by
    intro hsince
    refine ⟨o, ?_, .start hstopped⟩
    rw [record, hsince]
    rfl
  by_cases hjolts : w.1.Jolts o
  · refine hstart ?_
    rw [sinceAfter, if_pos hjolts, h.profile, if_pos ⟨hstopped, rfl⟩]
  · cases hsince : w.1.since with
    | none =>
      refine hstart ?_
      rw [sinceAfter, if_neg hjolts, h.profile, if_pos ⟨hstopped, hsince⟩]
    | some since =>
      have hafter : w.1.sinceAfter o = some since := by
        simp [sinceAfter, hjolts, hsince]
      rcases head_cases h with ⟨hnone, -⟩ | ⟨r, older, hrecords, hlatest⟩
      · have hempty := h.empty hnone
        rw [hsince] at hempty
        cases hempty.1
      · have hlast := h.since r (by rw [hrecords]; rfl)
        rw [hsince] at hlast
        split at hlast
        next hstood =>
          obtain ⟨first, hfirst, hspell⟩ := h.spells [] r older hrecords hstood
          have hnear : Near p r.observation o := by
            by_contra hnot
            exact hjolts ((jolts_iff h).mpr (.inr ⟨_, hlatest, hnot⟩))
          refine ⟨first, ?_, ?_⟩
          · rw [hfirst, record, hafter, ← Option.some.inj hlast]
            rfl
          · rw [accepted, hrecords]
            exact hspell.more hstopped hnear
        next => cases hlast

/-- The hold is lost, or begins with the observation, or goes on with it. -/
theorem holdAfter_cases (s : RobotStateStore) (o : RobotObservation) :
    (s.holdAfter o).1 = none ∨
      (o.Supported s.profile ∧ s.holdAfter o = (some o.observed, some o.liftUm)) ∨
      (o.Supported s.profile ∧ s.holdAfter o = (s.holdSince, s.lastHoldHeight) ∧
        (∀ last ∈ s.latest, ¬ Gapped s.profile last o) ∧
        ∀ height ∈ s.lastHoldHeight,
          |((o.liftUm - height : ℤ) : ℚ)| ≤ s.profile.liftTolerance) := by
  unfold holdAfter
  dsimp only
  by_cases hsupported : o.Supported s.profile
  · rw [if_neg (not_not.mpr hsupported)]
    by_cases hgap : ∃ last ∈ s.latest, Gapped s.profile last o
    · rw [if_pos hgap, if_pos rfl]
      exact .inr (.inl ⟨hsupported, rfl⟩)
    · rw [if_neg hgap]
      split_ifs with hnone hdrift
      · exact .inr (.inl ⟨hsupported, rfl⟩)
      · exact .inr (.inl ⟨hsupported, rfl⟩)
      · refine .inr (.inr ⟨hsupported, rfl, fun last hlast hgapped => hgap ⟨last, hlast, hgapped⟩, ?_⟩)
        intro height hheight
        rw [Option.mem_def.mp hheight] at hdrift
        simpa using hdrift
  · rw [if_pos hsupported]
    exact .inl rfl

theorem hold_take (h : Inv p w) {since : ℚ} (hhold : (w.1.holdAfter o).1 = some since) :
    ∃ first, first.observed = since ∧ (w.1.holdAfter o).2 = some first.liftUm ∧
      Spelling (HeldAt p first.liftUm) (fun last o => ¬ Gapped p last o) first
        (o :: accepted w) := by
  have hcases := w.1.holdAfter_cases o
  rw [h.profile] at hcases
  rcases hcases with hnone | ⟨hsupported, hafter⟩ | ⟨hsupported, hafter, hgap, hsteady⟩
  · cases hnone.symm.trans hhold
  · rw [hafter] at hhold ⊢
    refine ⟨o, Option.some.inj hhold, rfl, .start ⟨hsupported, ?_⟩⟩
    simpa using p.nonnegative.2.2.2.2.1
  · rw [hafter] at hhold ⊢
    obtain ⟨first, hfirst, hheight, hspell⟩ := h.hold since hhold
    refine ⟨first, hfirst, hheight, ?_⟩
    rcases head_cases h with ⟨hnone, -⟩ | ⟨r, older, hrecords, hlatest⟩
    · cases (h.empty hnone).2.symm.trans hhold
    · rw [accepted, hrecords] at hspell ⊢
      exact hspell.more ⟨hsupported, hsteady _ hheight⟩ (hgap _ hlatest)

/-- **An observation keeps it.** -/
theorem inv_take (h : Inv p w) (hnewer : ∀ last ∈ w.1.latest, last.observed < o.observed) :
    Inv p (w.1.take o, w.1.record o :: w.2) where
  profile := h.profile
  history := by
    have hevidence : o.evidence w.1.profile ((w.1.sinceAfter o).getD o.observed)
        (w.1.take o).revision = (w.1.record o).evidence p := by
      rw [h.profile]
      rfl
    change (o.evidence w.1.profile ((w.1.sinceAfter o).getD o.observed)
      (w.1.take o).revision :: w.1.history).take 512 = _
    rw [hevidence, h.history, List.map_cons]
    simp [List.take_take]
  latest := rfl
  revision := by
    rintro _ ⟨⟩
    rfl
  since := by
    rintro _ ⟨⟩
    change w.1.sinceAfter o = if o.Stopped p then some ((w.1.sinceAfter o).getD o.observed) else none
    rw [sinceAfter, h.profile]
    by_cases hstopped : o.Stopped p
    · cases hsince : (if w.1.Jolts o then none else w.1.since) <;> simp [hstopped]
    · have hjolts : w.1.Jolts o := (jolts_iff h).mpr (.inl hstopped)
      simp [hstopped, hjolts]
  empty := nofun
  ordered := by
    refine List.pairwise_cons.mpr ⟨fun last hlast => ?_, h.ordered⟩
    rcases head_cases h with ⟨hnone, -⟩ | ⟨r, older, hrecords, hlatest⟩
    · change last ∈ w.2.map _ at hlast
      rw [hnone] at hlast
      cases hlast
    · have hordered := h.ordered
      change last ∈ w.2.map _ at hlast
      unfold accepted at hordered
      rw [hrecords] at hlast hordered
      have hhead := hnewer _ hlatest
      rcases List.mem_cons.mp hlast with rfl | hlast
      · exact hhead
      · exact ((List.pairwise_cons.mp hordered).1 last hlast).trans hhead
  epochs := by
    have hepochs := h.epochs
    rcases head_cases h with ⟨hnone, -⟩ | ⟨r, older, hrecords, hlatest⟩
    · rw [hnone]
      exact .first _ _
    · have hrevision := h.revision r (by rw [hrecords]; rfl)
      rw [hrecords] at hepochs ⊢
      by_cases hjolts : w.1.Jolts o
      · have hnext : (w.1.record o).revision = r.revision + 1 := by
          simp [record, take, hjolts, hrevision]
        rw [List.map_cons, hnext]
        exact .next hepochs
      · have hsame : (w.1.record o).revision = r.revision := by
          simp [record, take, hjolts, hrevision]
        rw [List.map_cons, hsame]
        refine .same hepochs ?_
        rw [jolts_iff h, not_or] at hjolts
        exact ⟨not_not.mp hjolts.1, by_contra fun hnot => hjolts.2 ⟨_, hlatest, hnot⟩⟩
  spells := by
    rintro (_ | ⟨c, newer⟩) r older heq hstopped
    · obtain ⟨rfl, rfl⟩ := List.cons.inj heq
      exact spell_take h hstopped
    · exact h.spells newer r older (List.cons.inj heq).2 hstopped
  hold _ hhold := hold_take h hhold

theorem inv_step (w : World) (e : RobotDocument × ℚ) (h : Inv p w) : Inv p (step w e) := by
  unfold step observe
  cases hcheck : w.1.check e.1 e.2 with
  | error raised => exact { h with }
  | ok o => exact inv_take h (check_newer hcheck)

theorem inv_run (p : RobotProfile) (l : List (RobotDocument × ℚ)) :
    Inv p (run step (init p, []) l) :=
  run_invariant_all inv_step l (inv_init p)

/-- The records stay. -/
theorem records_run (w : World) (l : List (RobotDocument × ℚ)) :
    ∃ new, (run step w l).2 = new ++ w.2 := by
  induction l generalizing w with
  | nil => exact ⟨[], rfl⟩
  | cons e l ih =>
    obtain ⟨new, hnew⟩ := ih (step w e)
    rw [run_cons, hnew]
    unfold step
    cases w.1.check e.1 e.2 with
    | error raised => exact ⟨new, rfl⟩
    | ok o => exact ⟨new ++ [w.1.record o], by simp⟩

/-! ## 4. What follows -/

theorem recorded_of_mem (h : Inv p w) {motion : MotionEvidence} (hmotion : motion ∈ w.1.history) :
    ∃ r ∈ w.2, motion = r.evidence p := by
  rw [h.history] at hmotion
  obtain ⟨r, hr, rfl⟩ := List.mem_map.mp (List.mem_of_mem_take hmotion)
  exact ⟨r, hr, rfl⟩

/-- Different poses have different names. -/
theorem pose_injective {n m : ℕ} (h : s!"pose-{n}" = s!"pose-{m}") : n = m := by
  have happend : "pose-" ++ n.repr = "pose-" ++ m.repr := h
  have hrepr : n.repr.toList = m.repr.toList := by
    have hlist := congrArg String.toList happend
    rw [String.toList_append, String.toList_append] at hlist
    exact List.append_cancel_left hlist
  rw [Nat.toList_repr, Nat.toList_repr] at hrepr
  rw [← Nat.ofDigitChars_ten_toDigits (n := n), hrepr, Nat.ofDigitChars_ten_toDigits]

theorem stationary_of_inv (h : Inv p w) {r : Recorded} (hr : r ∈ w.2)
    (hstopped : r.observation.Stopped p) :
    Throughout (Stopped p) (Near p) r.since r.observation.observed (accepted w) := by
  obtain ⟨newer, older, hrecords⟩ := List.append_of_mem hr
  obtain ⟨first, hfirst, hspell⟩ := h.spells newer r older hrecords hstopped
  have hordered := h.ordered
  have hlog : accepted w = newer.map (·.observation) ++
      (r.observation :: older.map (·.observation)) := by
    rw [accepted, hrecords, List.map_append, List.map_cons]
  rw [hlog] at hordered ⊢
  have hrest := (List.pairwise_append.mp hordered).2.1
  refine ⟨⟨first, List.mem_append_right _ hspell.mem, hfirst⟩, ⟨_, by simp, rfl⟩, ?_, ?_⟩
  · intro o ho hsince huntil
    exact hspell.forall_good hrest o (hordered.mem_of_le ho huntil) (hfirst ▸ hsince)
  · intro newer' older' a b heq hsince huntil
    have hle : b.observed ≤ r.observation.observed := huntil
    obtain ⟨between, hbetween⟩ := hordered.rest_of_le heq hle
    exact hspell.forall_linked hrest between older' a b hbetween (hfirst ▸ hsince)

theorem calm_of_inv (h : Inv p w) {r r' : Recorded} (hr : r ∈ w.2) (hr' : r' ∈ w.2)
    (hrevision : r.revision = r'.revision) {newer older : List RobotObservation}
    {a b : RobotObservation} (hlog : accepted w = newer ++ b :: a :: older)
    (hafter : r.observation.observed ≤ a.observed) (hbefore : b.observed ≤ r'.observation.observed) :
    Calm p a b := by
  obtain ⟨newer', rest, hrecords, -, hrest⟩ := List.map_eq_append_iff.mp hlog
  obtain ⟨rb, rest', rfl, rfl, hrest'⟩ := List.map_eq_cons_iff.mp hrest
  obtain ⟨ra, older', rfl, rfl, -⟩ := List.map_eq_cons_iff.mp hrest'
  have hordered : Ordered (fun r => r.observation.observed) w.2 := List.pairwise_map.mp h.ordered
  have hepochs := h.epochs
  rw [hrecords] at hr hr' hordered hepochs
  have holder : r ∈ ra :: older' := by
    have hsplit : newer' ++ rb :: ra :: older' = (newer' ++ [rb]) ++ ra :: older' := by simp
    rw [hsplit] at hr hordered
    exact hordered.mem_of_le hr hafter
  have hnewer : r' ∈ newer' ++ [rb] := hordered.mem_of_ge hr' hbefore
  rw [List.map_append, List.map_cons, List.map_cons] at hepochs
  refine hepochs.calm_between (n := r.revision) ?_ ?_
  · refine ⟨(r'.revision, r'.observation), ?_, hrevision.symm⟩
    rcases List.mem_append.mp hnewer with hnewer | hnewer
    · exact List.mem_append_left _ (List.mem_map_of_mem hnewer)
    · exact List.mem_append_right _ (by rw [List.mem_singleton.mp hnewer]; simp)
  · refine ⟨(r.revision, r.observation), ?_, rfl⟩
    exact List.mem_map_of_mem (f := fun r => (r.revision, r.observation)) holder

/-- Only the latest observation is asked whether the hold is verified. -/
theorem verified_of_conditions {s : RobotStateStore} {catalog : Option CatalogView}
    {reads : ℕ → ℚ} {c : Conditions} (h : s.conditions catalog reads = .ok c)
    (hheld : ("lift_hold_verified", true) ∈ c) : ∃ o ∈ s.latest, s.liftHoldVerified o = true := by
  unfold conditions at h
  split at h
  · cases h
    cases hheld
  next o hlatest =>
    split at h
    · cases h
      cases hheld
    · obtain ⟨base, -, h⟩ := Except.bind_eq_ok_iff.mp h
      obtain ⟨lift, -, h⟩ := Except.bind_eq_ok_iff.mp h
      obtain ⟨view, -, h⟩ := Except.bind_eq_ok_iff.mp h
      obtain ⟨height, -, h⟩ := Except.bind_eq_ok_iff.mp h
      cases h
      refine ⟨o, hlatest, ?_⟩
      simpa using hheld

theorem held_of_inv (h : Inv p w) (hlatest : w.1.latest = some o)
    (hverified : w.1.liftHoldVerified o = true) :
    ∃ height since, p.holdDwell ≤ o.observed - since ∧
      Throughout (HeldAt p height) (fun last o => ¬ Gapped p last o) since
        o.observed (accepted w) := by
  cases hsince : w.1.holdSince with
  | none => simp [liftHoldVerified, hsince] at hverified
  | some since =>
    obtain ⟨first, hfirst, -, hspell⟩ := h.hold since hsince
    refine ⟨first.liftUm, since, ?_, ⟨first, hspell.mem, hfirst⟩, ?_, ?_, ?_⟩
    · simpa [liftHoldVerified, hsince, h.profile] using hverified
    · exact ⟨o, List.mem_of_mem_head? (h.latest.symm.trans hlatest), rfl⟩
    · intro a ha hafter _
      exact hspell.forall_good h.ordered a ha (hfirst ▸ hafter)
    · intro newer older a b heq hafter _
      exact hspell.forall_linked h.ordered newer older a b heq (hfirst ▸ hafter)

/-- **The evidence is sound.**  Over every run: what stationary evidence says holds of every
observation from its beginning to its own, two pieces of one revision have only calm observations
in between, and a verified hold lasts for the dwell time at one height. -/
theorem evidence_sound (p : RobotProfile) (before after : List (RobotDocument × ℚ)) :
    let past := run step (init p, []) before
    let w := run step (init p, []) (before ++ after)
    (∀ motion ∈ w.1.history, motion.baseStopped = true ∧ motion.liftStopped = true →
      ∃ since observed, motion.stationarySince = .finite since ∧
        motion.observed = .finite observed ∧
        Throughout (Stopped p) (Near p) since observed (accepted w)) ∧
    (∀ motion ∈ past.1.history, ∀ motion' ∈ w.1.history,
      motion.poseRevision = motion'.poseRevision →
      ∃ observed observed', motion.observed = .finite observed ∧
        motion'.observed = .finite observed' ∧
        ∀ newer older a b, accepted w = newer ++ b :: a :: older →
          min observed observed' ≤ a.observed → b.observed ≤ max observed observed' →
          Calm p a b) ∧
    ∀ catalog reads c, w.1.conditions catalog reads = .ok c → ("lift_hold_verified", true) ∈ c →
      ∃ height since, ∃ latest ∈ w.1.latest, p.holdDwell ≤ latest.observed - since ∧
        Throughout (HeldAt p height) (fun last o => ¬ Gapped p last o) since
          latest.observed (accepted w) := by
  intro past w
  have hinv : Inv p w := inv_run p (before ++ after)
  refine ⟨?_, ?_, ?_⟩
  · intro motion hmotion hstopped
    obtain ⟨r, hr, rfl⟩ := recorded_of_mem hinv hmotion
    have hstood : r.observation.Stopped p :=
      ⟨of_decide_eq_true hstopped.1, of_decide_eq_true hstopped.2⟩
    exact ⟨r.since, r.observation.observed, rfl, rfl, stationary_of_inv hinv hr hstood⟩
  · intro motion hmotion motion' hmotion' hrevision
    obtain ⟨r, hr, rfl⟩ := recorded_of_mem (inv_run p before) hmotion
    obtain ⟨r', hr', rfl⟩ := recorded_of_mem hinv hmotion'
    have hkept : r ∈ w.2 := by
      obtain ⟨new, hnew⟩ := records_run past after
      have hw : w = run step past after := run_append _ _ _
      rw [hw, hnew]
      exact List.mem_append_right new hr
    have hsame : r.revision = r'.revision := pose_injective hrevision
    refine ⟨r.observation.observed, r'.observation.observed, rfl, rfl, ?_⟩
    intro newer older a b hlog hafter hbefore
    rcases le_total r.observation.observed r'.observation.observed with hle | hle
    · rw [min_eq_left hle] at hafter
      rw [max_eq_right hle] at hbefore
      exact calm_of_inv hinv hkept hr' hsame hlog hafter hbefore
    · rw [min_eq_right hle] at hafter
      rw [max_eq_left hle] at hbefore
      exact calm_of_inv hinv hr' hkept hsame.symm hlog hafter hbefore
  · intro catalog reads c hconditions hheld
    obtain ⟨o, hlatest, hverified⟩ := verified_of_conditions hconditions hheld
    obtain ⟨height, since, hdwell, hthroughout⟩ := held_of_inv hinv hlatest hverified
    exact ⟨height, since, o, hlatest, hdwell, hthroughout⟩

end RobotStateStore

end MobileBimanual.Tasks
