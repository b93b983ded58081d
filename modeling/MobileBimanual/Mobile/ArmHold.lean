/-
# The arm hold monitor

`arm_hold_monitor.c` in full: the paired positions that the arms report after a stop, joint by
joint, and the proof that both hold where they were told to.

A sample that is stale, out of order or out of tolerance ends the joint's stretch, and the next good
one begins a new stretch.  What the monitor was shown is written down beside it, newest first;
`Held` says of that log what a proof stands for, and `hold_proof_sound` that no proof is given
without it.  The invariant (`Stretch`) is about one joint: its stretch, while it stands, is a spell
of the newest samples, from the time on record.
-/
import MobileBimanual.Lib.Spells
import MobileBimanual.Mobile.SystemStop

namespace MobileBimanual.Mobile

open MobileBimanual.Stream (Byte Tick)
open Serial (After ahead)
open Spells

/-! ## 1. The monitor -/

abbrev ArmJoint := Fin 6

/-- `target` holds the left arm's positions and then the right arm's; `seen` and `stable` are bit
masks over the joints. -/
structure ArmHoldMonitor where
  leftTarget : ArmPositions
  rightTarget : ArmPositions
  seen : ArmJoint → Bool
  afterMs : Tick
  stamp : ArmJoint → Tick
  stableSince : ArmJoint → Tick
  dwellMs : Tick
  maxAgeMs : Tick
  toleranceRaw : Word
  stable : ArmJoint → Bool
  configured : Bool

/-- A paired measurement. -/
structure HoldSample where
  joint : Byte
  left : Word
  right : Word
  observedMs : Tick
  nowMs : Tick

namespace ArmHoldMonitor

def newer (a b : Tick) : Bool := a - b != 0 && a - b < 0x80000000

/-- `d > 2048 ? 4096 - d : d` -/
def distance (a b : Word) : Word :=
  let d := if a > b then a - b else b - a
  if d > 2048 then 4096 - d else d

def init (left right : ArmPositions) (afterMs : Tick) (toleranceRaw : Word)
    (dwellMs maxAgeMs : Tick) : Option ArmHoldMonitor :=
  if toleranceRaw = 0 ∨ toleranceRaw ≥ 2048 ∨ dwellMs = 0 ∨ dwellMs ≥ 0x80000000 ∨
      maxAgeMs = 0 ∨ maxAgeMs ≥ 0x80000000 ∨ ∃ joint, left joint ≥ 4096 ∨ right joint ≥ 4096 then
    none
  else some
    { leftTarget := left
      rightTarget := right
      seen := fun _ => false
      afterMs := afterMs
      stamp := fun _ => 0
      stableSince := fun _ => 0
      dwellMs := dwellMs
      maxAgeMs := maxAgeMs
      toleranceRaw := toleranceRaw
      stable := fun _ => false
      configured := true }

variable (m : ArmHoldMonitor)

/-- `m->stable &= ~bit` -/
def unsettle (joint : ArmJoint) : ArmHoldMonitor :=
  { m with stable := Function.update m.stable joint false }

/-- The sample is no measurement, or one that says nothing new. -/
def refuses (joint : ArmJoint) (sample : HoldSample) : Bool :=
  sample.left ≥ 4096 || sample.right ≥ 4096 || sample.nowMs - sample.observedMs ≥ m.maxAgeMs ||
    !newer sample.observedMs m.afterMs ||
    (m.seen joint && !newer sample.observedMs (m.stamp joint))

def continuous (joint : ArmJoint) (sample : HoldSample) : Bool :=
  m.seen joint && sample.observedMs - m.stamp joint < m.maxAgeMs

def note (joint : ArmJoint) (sample : HoldSample) : ArmHoldMonitor :=
  { m with
    seen := Function.update m.seen joint true
    stamp := Function.update m.stamp joint sample.observedMs }

def outOfTolerance (joint : ArmJoint) (sample : HoldSample) : Bool :=
  distance sample.left (m.leftTarget joint) > m.toleranceRaw ||
    distance sample.right (m.rightTarget joint) > m.toleranceRaw

/-- A good sample that does not go on with the stretch begins a new one. -/
def settle (joint : ArmJoint) (continuous : Bool) (sample : HoldSample) : ArmHoldMonitor :=
  if !continuous || !m.stable joint then
    { m with
      stableSince := Function.update m.stableSince joint sample.observedMs
      stable := Function.update m.stable joint true }
  else m

def observe (sample : HoldSample) : ArmHoldMonitor × Bool :=
  if h : m.configured = true ∧ sample.joint.toNat < 6 then
    let joint : ArmJoint := ⟨sample.joint.toNat, h.2⟩
    if m.refuses joint sample then (m.unsettle joint, false)
    else if m.outOfTolerance joint sample then ((m.note joint sample).unsettle joint, false)
    else ((m.note joint sample).settle joint (m.continuous joint sample) sample, true)
  else (m, false)

/-- The loop of `proof`: the greatest age so far, or none. -/
def greatestAge (nowMs : Tick) : List ArmJoint → Tick → Option Tick
  | [], age => some age
  | joint :: joints, age =>
    let a := nowMs - m.stamp joint
    if a ≥ m.maxAgeMs ∨ m.stamp joint - m.stableSince joint < m.dwellMs then none
    else greatestAge nowMs joints (if a > age then a else age)

/-- `*oldest`, where the call returns true. -/
def proof (nowMs : Tick) : Option Tick :=
  if !m.configured ∨ ¬ (∀ joint, m.stable joint = true) ∨ ¬ ∀ joint, m.seen joint = true then none
  else (m.greatestAge nowMs (List.finRange 6) 0).map fun age => nowMs - age

end ArmHoldMonitor

/-! ## 2. What a proof stands for -/

/-- A sample, and what the monitor made of it. -/
structure HoldEntry where
  sample : HoldSample
  accepted : Bool

/-- The samples since the monitor was set up, newest first. -/
structure HoldRun where
  monitor : ArmHoldMonitor
  log : List HoldEntry

def HoldRun.step (r : HoldRun) (sample : HoldSample) : HoldRun where
  monitor := (r.monitor.observe sample).1
  log := ⟨sample, (r.monitor.observe sample).2⟩ :: r.log

def samplesOf (joint : ArmJoint) (log : List HoldEntry) : List HoldEntry :=
  log.filter fun e => e.sample.joint.toNat = joint

/-- How far round the servo's circle of 4096 positions one lies from another. -/
def around (a b : ℕ) : ℕ :=
  min ((a + 4096 - b) % 4096) ((b + 4096 - a) % 4096)

/-- Both arms were where they were to hold, when the monitor asked no earlier than it should. -/
structure Holding (left right : ArmPositions) (afterMs : Tick) (toleranceRaw : Word)
    (joint : ArmJoint) (e : HoldEntry) : Prop where
  accepted : e.accepted = true
  left : around e.sample.left.toNat (left joint).toNat ≤ toleranceRaw.toNat
  right : around e.sample.right.toNat (right joint).toNat ≤ toleranceRaw.toNat
  after : After e.sample.observedMs afterMs

/-- One sample was taken after another, and before the other had aged. -/
def Follows (maxAgeMs : Tick) (e later : HoldEntry) : Prop :=
  After later.sample.observedMs e.sample.observedMs ∧
    ahead later.sample.observedMs e.sample.observedMs < maxAgeMs.toNat

/-- The time that a chain of samples spans, newest first. -/
def span : List HoldEntry → ℕ
  | later :: e :: older => ahead later.sample.observedMs e.sample.observedMs + span (e :: older)
  | _ => 0

/-- The newest samples of the joint are a chain of samples that found it holding, each before the
one ahead of it had aged; the chain spans the dwell time, and its newest sample is fresh. -/
def Held (left right : ArmPositions) (afterMs : Tick) (toleranceRaw : Word) (dwellMs maxAgeMs : Tick)
    (nowMs : Tick) (log : List HoldEntry) (joint : ArmJoint) (latestMs : Tick) : Prop :=
  ∃ chain, chain <+: samplesOf joint log ∧
    (∀ e ∈ chain, Holding left right afterMs toleranceRaw joint e) ∧
    chain.IsChain (fun later e => Follows maxAgeMs e later) ∧
    dwellMs.toNat ≤ span chain ∧
    chain.head?.map (·.sample.observedMs) = some latestMs ∧
    ahead nowMs latestMs < maxAgeMs.toNat

/-! ## 3. The checks -/

theorem ArmHoldMonitor.newer_iff {a b : Tick} : ArmHoldMonitor.newer a b = true ↔ After a b := by
  have hlt : a - b < 0x80000000 ↔ ahead a b < 0x80000000 := BitVec.lt_def
  have hne : a - b ≠ 0 ↔ 0 < ahead a b := by
    rw [Ne, ← BitVec.toNat_inj]
    exact (Nat.pos_iff_ne_zero (n := ahead a b)).symm
  rw [newer, Bool.and_eq_true, bne_iff_ne, decide_eq_true_iff, hlt, hne, Serial.after_iff]
  omega

theorem ArmHoldMonitor.toNat_distance {a b : Word} (ha : a < 4096) (hb : b < 4096) :
    (distance a b).toNat = around a.toNat b.toNat := by
  unfold distance around
  dsimp only
  split_ifs <;> bv_omega

namespace ArmHoldMonitor

variable {m : ArmHoldMonitor} {joint : ArmJoint} {sample : HoldSample} {nowMs : Tick}

/-- What a sample must be to be noted at all. -/
structure Noted (m : ArmHoldMonitor) (joint : ArmJoint) (sample : HoldSample) : Prop where
  left : sample.left < 4096
  right : sample.right < 4096
  after : After sample.observedMs m.afterMs
  later : m.seen joint = true → After sample.observedMs (m.stamp joint)

theorem noted_of_not_refuses (h : m.refuses joint sample = false) : m.Noted joint sample := by
  simp only [refuses, Bool.or_eq_false_iff, Bool.and_eq_false_iff, Bool.not_eq_false',
    decide_eq_false_iff_not, newer_iff] at h
  obtain ⟨⟨⟨⟨hleft, hright⟩, -⟩, hafter⟩, hlater⟩ := h
  refine ⟨BitVec.not_le.mp hleft, BitVec.not_le.mp hright, hafter, fun hseen => ?_⟩
  rcases hlater with hunseen | hlater
  · rw [hseen] at hunseen
    cases hunseen
  · exact hlater

/-- The readings are within the tolerance, round the circle. -/
theorem within_of_not_outOfTolerance (hnoted : m.Noted joint sample)
    (hleft : m.leftTarget joint < 4096) (hright : m.rightTarget joint < 4096)
    (h : m.outOfTolerance joint sample = false) :
    around sample.left.toNat (m.leftTarget joint).toNat ≤ m.toleranceRaw.toNat ∧
      around sample.right.toNat (m.rightTarget joint).toNat ≤ m.toleranceRaw.toNat := by
  simp only [outOfTolerance, Bool.or_eq_false_iff, decide_eq_false_iff_not] at h
  rw [← toNat_distance hnoted.left hleft, ← toNat_distance hnoted.right hright]
  exact ⟨BitVec.le_def.mp (BitVec.not_lt.mp h.1), BitVec.le_def.mp (BitVec.not_lt.mp h.2)⟩

/-- What a joint must show for a proof. -/
structure Steady (m : ArmHoldMonitor) (nowMs : Tick) (joint : ArmJoint) : Prop where
  fresh : nowMs - m.stamp joint < m.maxAgeMs
  dwelt : m.dwellMs ≤ m.stamp joint - m.stableSince joint

/-- **The loop's answer** is the greatest of the ages and its start, over joints that are all
steady. -/
theorem greatestAge_some : ∀ {joints : List ArmJoint} {age total : Tick},
    m.greatestAge nowMs joints age = some total →
      (∀ joint ∈ joints, m.Steady nowMs joint ∧ nowMs - m.stamp joint ≤ total) ∧ age ≤ total ∧
      (total = age ∨ ∃ joint ∈ joints, nowMs - m.stamp joint = total)
  | [], age, total, h => by
    cases h
    exact ⟨nofun, BitVec.le_refl _, Or.inl rfl⟩
  | joint :: joints, age, total, h => by
    unfold greatestAge at h
    dsimp only at h
    split_ifs at h with hfails hgreater
    all_goals
      push Not at hfails
      have hsteady : m.Steady nowMs joint :=
        ⟨BitVec.not_le.mp hfails.1, BitVec.not_lt.mp hfails.2⟩
      obtain ⟨hrest, hle, hfrom⟩ := greatestAge_some h
    · refine ⟨List.forall_mem_cons.mpr ⟨⟨hsteady, hle⟩, hrest⟩,
        BitVec.le_trans (BitVec.le_of_lt hgreater) hle, Or.inr ?_⟩
      rcases hfrom with rfl | ⟨other, hmem, heq⟩
      · exact ⟨joint, List.mem_cons_self, rfl⟩
      · exact ⟨other, List.mem_cons_of_mem _ hmem, heq⟩
    · refine ⟨List.forall_mem_cons.mpr
        ⟨⟨hsteady, BitVec.le_trans (BitVec.not_lt.mp hgreater) hle⟩, hrest⟩, hle, ?_⟩
      rcases hfrom with rfl | ⟨other, hmem, heq⟩
      · exact Or.inl rfl
      · exact Or.inr ⟨other, List.mem_cons_of_mem _ hmem, heq⟩

/-- A proof is about six stretches that stand, and gives the oldest of their newest times. -/
theorem proof_some {oldest : Tick} (h : m.proof nowMs = some oldest) :
    (∀ joint, m.stable joint = true ∧ m.Steady nowMs joint) ∧
      (∃ joint, m.stamp joint = oldest) ∧
      ∀ joint, nowMs - m.stamp joint ≤ nowMs - oldest := by
  unfold proof at h
  split_ifs at h with hfails
  push Not at hfails
  obtain ⟨total, htotal, rfl⟩ := Option.map_eq_some_iff.mp h
  obtain ⟨hall, -, hfrom⟩ := greatestAge_some htotal
  have hage : nowMs - (nowMs - total) = total := by simp
  rw [hage]
  refine ⟨fun joint => ⟨hfails.2.1 joint, (hall joint (List.mem_finRange joint)).1⟩, ?_,
    fun joint => (hall joint (List.mem_finRange joint)).2⟩
  rcases hfrom with rfl | ⟨joint, -, rfl⟩
  · have hzero := (hall 0 (List.mem_finRange 0)).2
    refine ⟨0, ?_⟩
    bv_omega
  · exact ⟨joint, by simp⟩

end ArmHoldMonitor

/-! ## 4. The stretches -/

section Stretches

variable {left right : ArmPositions} {afterMs : Tick} {toleranceRaw : Word} {dwellMs maxAgeMs : Tick}
  {m : ArmHoldMonitor} {joint other : ArmJoint} {sample : HoldSample} {first : HoldEntry}
  {log : List HoldEntry}

/-- The monitor was set up so. -/
structure Watches (left right : ArmPositions) (afterMs : Tick) (toleranceRaw : Word)
    (dwellMs maxAgeMs : Tick) (m : ArmHoldMonitor) : Prop where
  leftTarget : m.leftTarget = left
  rightTarget : m.rightTarget = right
  after : m.afterMs = afterMs
  tolerance : m.toleranceRaw = toleranceRaw
  dwell : m.dwellMs = dwellMs
  age : m.maxAgeMs = maxAgeMs
  configured : m.configured = true
  bounded : maxAgeMs < 0x80000000
  reachable : ∀ joint, left joint < 4096 ∧ right joint < 4096

/-- While a joint's bit is set its newest samples are a spell, which began at the time on record. -/
structure Stretch (left right : ArmPositions) (afterMs : Tick) (toleranceRaw : Word)
    (maxAgeMs : Tick) (joint : ArmJoint) (m : ArmHoldMonitor) (samples : List HoldEntry)
    (first : HoldEntry) : Prop where
  seen : m.seen joint = true
  since : m.stableSince joint = first.sample.observedMs
  latest : samples.head?.map (·.sample.observedMs) = some (m.stamp joint)
  spell : Spelling (Holding left right afterMs toleranceRaw joint) (Follows maxAgeMs) first samples

/-- A sample either leaves the joint alone, or ends its stretch, or goes on with it. -/
inductive Shown (left right : ArmPositions) (afterMs : Tick) (toleranceRaw : Word)
    (maxAgeMs : Tick) (m m' : ArmHoldMonitor) (e : HoldEntry) (joint : ArmJoint) : Prop
  | aside (hother : e.sample.joint.toNat ≠ joint) (hseen : m'.seen joint = m.seen joint)
    (hstamp : m'.stamp joint = m.stamp joint) (hsince : m'.stableSince joint = m.stableSince joint)
    (hstable : m'.stable joint = m.stable joint)
  | ended (hunstable : m'.stable joint = false)
  | began (hjoint : e.sample.joint.toNat = joint) (hseen : m'.seen joint = true)
    (hstamp : m'.stamp joint = e.sample.observedMs)
    (hsince : m'.stableSince joint = e.sample.observedMs)
    (hholding : Holding left right afterMs toleranceRaw joint e)
  | wentOn (hjoint : e.sample.joint.toNat = joint) (hseen : m'.seen joint = true)
    (hstamp : m'.stamp joint = e.sample.observedMs)
    (hsince : m'.stableSince joint = m.stableSince joint) (hstable : m.stable joint = true)
    (hholding : Holding left right afterMs toleranceRaw joint e)
    (hafter : After e.sample.observedMs (m.stamp joint))
    (hgap : ahead e.sample.observedMs (m.stamp joint) < maxAgeMs.toNat)

namespace ArmHoldMonitor

theorem holding_of_accepted (hwatches : Watches left right afterMs toleranceRaw dwellMs maxAgeMs m)
    (hrefuses : m.refuses joint sample = false) (hwithin : m.outOfTolerance joint sample = false) :
    Holding left right afterMs toleranceRaw joint ⟨sample, true⟩ := by
  have hnoted := noted_of_not_refuses hrefuses
  obtain ⟨hleft, hright⟩ := hwatches.reachable joint
  have hboth := within_of_not_outOfTolerance hnoted
    (by rw [hwatches.leftTarget]; exact hleft) (by rw [hwatches.rightTarget]; exact hright) hwithin
  rw [hwatches.leftTarget, hwatches.rightTarget, hwatches.tolerance] at hboth
  have hafter := hnoted.after
  rw [hwatches.after] at hafter
  exact ⟨rfl, hboth.1, hboth.2, hafter⟩

/-- A call that only writes the joint's own fields leaves the others' alone. -/
theorem shown_unsettle (h : sample.joint.toNat = joint) (other : ArmJoint) :
    Shown left right afterMs toleranceRaw maxAgeMs m (m.unsettle joint) ⟨sample, false⟩ other := by
  by_cases hother : other = joint
  · subst hother
    exact .ended (Function.update_self ..)
  · refine .aside ?_ rfl rfl rfl (Function.update_of_ne hother ..)
    intro heq
    exact hother (Fin.ext (heq.symm.trans h))

theorem shown_note (h : sample.joint.toNat = joint) (other : ArmJoint) :
    Shown left right afterMs toleranceRaw maxAgeMs m ((m.note joint sample).unsettle joint)
      ⟨sample, false⟩ other := by
  by_cases hother : other = joint
  · subst hother
    exact .ended (Function.update_self ..)
  · refine .aside ?_ (Function.update_of_ne hother ..) (Function.update_of_ne hother ..) rfl
      (Function.update_of_ne hother ..)
    intro heq
    exact hother (Fin.ext (heq.symm.trans h))

theorem shown_settle (hwatches : Watches left right afterMs toleranceRaw dwellMs maxAgeMs m)
    (h : sample.joint.toNat = joint) (hrefuses : m.refuses joint sample = false)
    (hwithin : m.outOfTolerance joint sample = false) (other : ArmJoint) :
    Shown left right afterMs toleranceRaw maxAgeMs m
      ((m.note joint sample).settle joint (m.continuous joint sample) sample) ⟨sample, true⟩
      other := by
  have hholding := holding_of_accepted hwatches hrefuses hwithin
  by_cases hother : other = joint
  · subst hother
    unfold settle
    split_ifs with hbegins
    · exact .began h (Function.update_self ..) (Function.update_self ..) (Function.update_self ..)
        hholding
    · simp only [Bool.or_eq_true, Bool.not_eq_true', not_or, Bool.not_eq_false] at hbegins
      obtain ⟨hcontinuous, hstable⟩ := hbegins
      simp only [continuous, Bool.and_eq_true, decide_eq_true_eq] at hcontinuous
      have hlater := (noted_of_not_refuses hrefuses).later hcontinuous.1
      refine .wentOn h (Function.update_self ..) (Function.update_self ..) rfl hstable hholding
        hlater ?_
      rw [← hwatches.age]
      exact BitVec.lt_def.mp hcontinuous.2
  · have haside : sample.joint.toNat ≠ other := fun heq => hother (Fin.ext (heq.symm.trans h))
    unfold settle
    split_ifs with hbegins
    · exact .aside haside (Function.update_of_ne hother ..) (Function.update_of_ne hother ..)
        (Function.update_of_ne hother ..) (Function.update_of_ne hother ..)
    · exact .aside haside (Function.update_of_ne hother ..) (Function.update_of_ne hother ..) rfl rfl

/-- **What one sample does to a joint.** -/
theorem observe_shown (hwatches : Watches left right afterMs toleranceRaw dwellMs maxAgeMs m)
    (sample : HoldSample) (joint : ArmJoint) :
    Shown left right afterMs toleranceRaw maxAgeMs m (m.observe sample).1
      ⟨sample, (m.observe sample).2⟩ joint := by
  unfold observe
  by_cases hserved : m.configured = true ∧ sample.joint.toNat < 6
  · rw [dif_pos hserved]
    dsimp only
    split_ifs with hrefuses hwithin
    · exact shown_unsettle rfl joint
    · exact shown_note rfl joint
    · exact shown_settle hwatches rfl (by simpa using hrefuses) (by simpa using hwithin) joint
  · rw [dif_neg hserved]
    refine .aside (fun heq => hserved ⟨hwatches.configured, ?_⟩) rfl rfl rfl rfl
    exact heq ▸ joint.isLt

theorem observe_watches (h : Watches left right afterMs toleranceRaw dwellMs maxAgeMs m)
    (sample : HoldSample) :
    Watches left right afterMs toleranceRaw dwellMs maxAgeMs (m.observe sample).1 := by
  have hsame : ∀ m' : ArmHoldMonitor, m'.leftTarget = m.leftTarget → m'.rightTarget = m.rightTarget →
      m'.afterMs = m.afterMs → m'.toleranceRaw = m.toleranceRaw → m'.dwellMs = m.dwellMs →
      m'.maxAgeMs = m.maxAgeMs → m'.configured = m.configured →
      Watches left right afterMs toleranceRaw dwellMs maxAgeMs m' := by
    intro m' hleft hright hafter htolerance hdwell hage hconfigured
    exact ⟨hleft.trans h.leftTarget, hright.trans h.rightTarget, hafter.trans h.after,
      htolerance.trans h.tolerance, hdwell.trans h.dwell, hage.trans h.age,
      hconfigured.trans h.configured, h.bounded, h.reachable⟩
  unfold observe
  split
  · dsimp only
    split_ifs
    · exact hsame _ rfl rfl rfl rfl rfl rfl rfl
    · exact hsame _ rfl rfl rfl rfl rfl rfl rfl
    · unfold settle
      split_ifs <;> exact hsame _ rfl rfl rfl rfl rfl rfl rfl
  · exact h

theorem init_watches
    (h : init left right afterMs toleranceRaw dwellMs maxAgeMs = some m) :
    Watches left right afterMs toleranceRaw dwellMs maxAgeMs m ∧
      ∀ joint, m.stable joint = false := by
  unfold init at h
  split_ifs at h with hrefuses
  cases h
  push Not at hrefuses
  obtain ⟨-, -, -, -, -, hage, hreachable⟩ := hrefuses
  refine ⟨⟨rfl, rfl, rfl, rfl, rfl, rfl, rfl, BitVec.not_le.mp hage, fun joint => ?_⟩, fun _ => rfl⟩
  exact ⟨BitVec.not_le.mp (hreachable joint).1, BitVec.not_le.mp (hreachable joint).2⟩

end ArmHoldMonitor

theorem samplesOf_cons (e : HoldEntry) (h : e.sample.joint.toNat = joint) :
    samplesOf joint (e :: log) = e :: samplesOf joint log :=
  List.filter_cons_of_pos (by simpa using h)

theorem samplesOf_cons_ne (e : HoldEntry) (h : e.sample.joint.toNat ≠ joint) :
    samplesOf joint (e :: log) = samplesOf joint log :=
  List.filter_cons_of_neg (by simpa using h)

/-- The invariant: every bit that is set has its stretch behind it. -/
structure HoldRun.Sound (left right : ArmPositions) (afterMs : Tick) (toleranceRaw : Word)
    (dwellMs maxAgeMs : Tick) (r : HoldRun) : Prop where
  watches : Watches left right afterMs toleranceRaw dwellMs maxAgeMs r.monitor
  stretch : ∀ joint, r.monitor.stable joint = true → ∃ first,
    Stretch left right afterMs toleranceRaw maxAgeMs joint r.monitor (samplesOf joint r.log) first

/-- A joint's stretch goes on as long as its samples are taken. -/
theorem Shown.stretch {m' : ArmHoldMonitor} {e : HoldEntry}
    (hshown : Shown left right afterMs toleranceRaw maxAgeMs m m' e joint)
    (h : m.stable joint = true → ∃ first,
      Stretch left right afterMs toleranceRaw maxAgeMs joint m (samplesOf joint log) first)
    (hstable : m'.stable joint = true) : ∃ first,
      Stretch left right afterMs toleranceRaw maxAgeMs joint m' (samplesOf joint (e :: log))
        first := by
  cases hshown with
  | aside hother hseen hstamp hsince hsame =>
    obtain ⟨first, hstretch⟩ := h (hsame ▸ hstable)
    refine ⟨first, hseen.trans hstretch.seen, hsince.trans hstretch.since, ?_, ?_⟩
    · rw [samplesOf_cons_ne e hother, hstamp]
      exact hstretch.latest
    · rw [samplesOf_cons_ne e hother]
      exact hstretch.spell
  | ended hunstable =>
    rw [hunstable] at hstable
    cases hstable
  | began hjoint hseen hstamp hsince hholding =>
    refine ⟨e, hseen, hsince, ?_, ?_⟩
    · rw [samplesOf_cons e hjoint, hstamp]
      rfl
    · rw [samplesOf_cons e hjoint]
      exact .start hholding
  | wentOn hjoint hseen hstamp hsince hbefore hholding hafter hgap =>
    obtain ⟨first, hstretch⟩ := h hbefore
    obtain ⟨newest, hnewest, hlatest⟩ := Option.map_eq_some_iff.mp hstretch.latest
    obtain ⟨older, heq⟩ := List.head?_eq_some_iff.mp hnewest
    have hspell := hstretch.spell
    refine ⟨first, hseen, hsince.trans hstretch.since, ?_, ?_⟩
    · rw [samplesOf_cons e hjoint, hstamp]
      rfl
    · rw [samplesOf_cons e hjoint, heq]
      rw [heq] at hspell
      exact hspell.more hholding ⟨hlatest ▸ hafter, hlatest ▸ hgap⟩

theorem HoldRun.Sound.step {r : HoldRun}
    (h : r.Sound left right afterMs toleranceRaw dwellMs maxAgeMs) (sample : HoldSample) :
    (r.step sample).Sound left right afterMs toleranceRaw dwellMs maxAgeMs where
  watches := ArmHoldMonitor.observe_watches h.watches sample
  stretch := fun joint => (ArmHoldMonitor.observe_shown h.watches sample joint).stretch
    (h.stretch joint)

/-! ## 5. Proofs -/

/-- The chain's time is what the clock shows between its ends, unless the clock came round. -/
theorem ahead_le_span {newest : HoldEntry} {older : List HoldEntry}
    (h : Spell (Holding left right afterMs toleranceRaw joint) (Follows maxAgeMs) first
      (newest :: older)) :
    ahead newest.sample.observedMs first.sample.observedMs ≤ span (newest :: older) := by
  generalize hchain : newest :: older = chain at h
  induction h generalizing newest older with
  | start h =>
    cases hchain
    simp [span]
  | @more a b l h hgood hlink ih =>
    cases hchain
    have hrest := ih rfl
    rw [span]
    by_cases hround : ahead b.sample.observedMs a.sample.observedMs +
        ahead a.sample.observedMs first.sample.observedMs < 2 ^ 32
    · have hsum := Serial.ahead_add hround
      omega
    · have hlt := Serial.ahead_lt b.sample.observedMs first.sample.observedMs
      omega

/-- A stretch that is steady is what a proof stands for. -/
theorem Stretch.held (hwatches : Watches left right afterMs toleranceRaw dwellMs maxAgeMs m)
    {nowMs : Tick}
    (h : Stretch left right afterMs toleranceRaw maxAgeMs joint m (samplesOf joint log) first)
    (hsteady : m.Steady nowMs joint) :
    Held left right afterMs toleranceRaw dwellMs maxAgeMs nowMs log joint (m.stamp joint) := by
  obtain ⟨chain, older, heq, hspell⟩ := h.spell
  obtain ⟨newest, hnewest, hlatest⟩ := Option.map_eq_some_iff.mp h.latest
  have hne : chain ≠ [] := by
    rintro rfl
    cases hspell
  obtain ⟨e, rest, rfl⟩ := List.exists_cons_of_ne_nil hne
  rw [heq] at hnewest
  obtain rfl : e = newest := by simpa using hnewest
  refine ⟨e :: rest, ⟨older, heq.symm⟩, hspell.good_of_mem, hspell.isChain, ?_, ?_, ?_⟩
  · have hdwelt := hsteady.dwelt
    rw [hwatches.dwell, h.since, ← hlatest] at hdwelt
    exact Nat.le_trans (BitVec.le_def.mp hdwelt) (ahead_le_span hspell)
  · rw [← hlatest]
    rfl
  · rw [← hwatches.age]
    exact BitVec.lt_def.mp hsteady.fresh

/-- Of two times no further back than half the clock's circle the one further back is the older. -/
theorem eq_or_after_of_age_le {nowMs stampMs oldest : Tick} (hle : nowMs - stampMs ≤ nowMs - oldest)
    (hhalf : nowMs - oldest < 0x80000000) : stampMs = oldest ∨ After stampMs oldest := by
  have hapart : ahead stampMs oldest = ahead nowMs oldest - ahead nowMs stampMs := by
    unfold ahead
    bv_omega
  have hage : ahead nowMs oldest < 0x80000000 := BitVec.lt_def.mp hhalf
  rcases Nat.eq_zero_or_pos (ahead stampMs oldest) with hzero | hpos
  · exact Or.inl (Serial.eq_of_ahead_eq_zero hzero)
  · refine Or.inr ((Serial.after_iff _ _).mpr ⟨hpos, ?_⟩)
    omega

/-- The samples that a monitor is shown, from its setup on. -/
def HoldRun.begin (m : ArmHoldMonitor) : HoldRun := ⟨m, []⟩

variable (samples : List HoldSample)

theorem HoldRun.sound_run
    (hinit : ArmHoldMonitor.init left right afterMs toleranceRaw dwellMs maxAgeMs = some m) :
    (Machine.run HoldRun.step (.begin m) samples).Sound left right afterMs toleranceRaw dwellMs
      maxAgeMs := by
  obtain ⟨hwatches, hunstable⟩ := ArmHoldMonitor.init_watches hinit
  refine Machine.run_invariant_all (fun r sample h => h.step sample) samples ⟨hwatches, ?_⟩
  intro joint hstable
  have hunset : m.stable joint = true := hstable
  rw [hunstable joint] at hunset
  cases hunset

/-- **Soundness of the proof of a hold.**  Each joint was found holding over the dwell time by a
chain of samples that were all taken after the time asked for, the newest of them still fresh; and
the proof is dated by the oldest of the joints' newest samples. -/
theorem hold_proof_sound (nowMs oldest : Tick)
    (hinit : ArmHoldMonitor.init left right afterMs toleranceRaw dwellMs maxAgeMs = some m)
    (hproof : (Machine.run HoldRun.step (.begin m) samples).monitor.proof nowMs = some oldest) :
    ∃ latest : ArmJoint → Tick,
      (∀ joint, Held left right afterMs toleranceRaw dwellMs maxAgeMs nowMs
        (Machine.run HoldRun.step (.begin m) samples).log joint (latest joint)) ∧
      (∃ joint, latest joint = oldest) ∧
      ∀ joint, latest joint = oldest ∨ After (latest joint) oldest := by
  have hsound := HoldRun.sound_run samples hinit
  generalize Machine.run HoldRun.step (.begin m) samples = r at hsound hproof ⊢
  obtain ⟨hjoints, hattained, hleast⟩ := ArmHoldMonitor.proof_some hproof
  refine ⟨r.monitor.stamp, fun joint => ?_, hattained, fun joint => ?_⟩
  · obtain ⟨first, hstretch⟩ := hsound.stretch joint (hjoints joint).1
    exact hstretch.held hsound.watches (hjoints joint).2
  · obtain ⟨other, rfl⟩ := hattained
    have hfresh := (hjoints other).2.fresh
    rw [hsound.watches.age] at hfresh
    exact eq_or_after_of_age_le (hleast joint) (BitVec.lt_trans hfresh hsound.watches.bounded)

end Stretches

/-- Both arms hold the middle of every joint; 20 ms of it, within 10 counts, will do. -/
def holdBench : ArmHoldMonitor where
  leftTarget := fun _ => 2048
  rightTarget := fun _ => 2048
  seen := fun _ => false
  afterMs := 0
  stamp := fun _ => 0
  stableSince := fun _ => 0
  dwellMs := 20
  maxAgeMs := 100
  toleranceRaw := 10
  stable := fun _ => false
  configured := true

/-- Every joint is read twice. -/
def holdBenchSamples : List HoldSample :=
  (List.range 12).map fun i => ⟨BitVec.ofNat 8 (i % 6), 2048, 2050, 10 + 5 * BitVec.ofNat 32 i, 70⟩

theorem hold_proof_sound_bench :
    ∃ latest : ArmJoint → Tick,
      (∀ joint, Held (fun _ => 2048) (fun _ => 2048) 0 10 20 100 70
        (Machine.run HoldRun.step (.begin holdBench) holdBenchSamples).log joint (latest joint)) ∧
      (∃ joint, latest joint = 40) ∧
      ∀ joint, latest joint = 40 ∨ After (latest joint) 40 :=
  hold_proof_sound holdBenchSamples 70 40 (if_neg (by decide)) (by decide +kernel)

end MobileBimanual.Mobile
