/-
# The guard of the taught poses

`taught_pose_guard.c`, which every output of a taught replay passes before it is dispatched.  Five
taught poses are the vertices of a path; the first leg goes back to the first of them (alignment),
and from there each leg ends at a neighbour of the pose it starts at.  The profile is generated
from a capture, and is a parameter here.

On an edge the guard asks that the progress does not fall by more than 4 micro-radians from one
accepted position to the next, and in alignment that no joint's error to the first pose rises by
more.  Both are measured from the last accepted position, so steps that are tolerated one by one
add up (`creep`).  The run beside the guard keeps the furthest progress and the smallest errors
accepted so far (`GuardRun`), and they are kept to exactly as long as the setbacks that have not
been made good do not add up to more than the tolerance (`monotone_along_iff`).

The products of the C are 64 bits wide and fit for targets within a turn, so they are integers.
-/
import MobileBimanual.Servo.GoalMap

namespace MobileBimanual.Servo

open Machine

/-! ## 1. The profile and the state -/

abbrev Vertex := Fin 5

structure TaughtProfile where
  targets : Vertex → ArmJoint → Urad
  minimumUrad : ArmJoint → Urad
  maximumUrad : ArmJoint → Urad

structure TaughtPoseGuard where
  vertex : Vertex
  destination : Option Vertex
  progress : ℤ
  previous : ArmJoint → Urad
  hasPrevious : Bool
  failed : Bool
  aligned : Bool

def corridor : ℤ := 12000
def maxStep : ℤ := 1100

/-- How far a position may fall back from the one before it. -/
def setbackTolerance : ℤ := 4

namespace TaughtPoseGuard

/-- `TaughtPoseGuard_Reset` leaves the previous position where it is. -/
def reset (g : TaughtPoseGuard) : TaughtPoseGuard where
  vertex := 0
  destination := none
  progress := 0
  previous := g.previous
  hasPrevious := false
  failed := false
  aligned := false

end TaughtPoseGuard

/-! ## 2. The geometry -/

section Geometry

variable (p : TaughtProfile) (q : Joint → Urad)

/-- The error of a joint to a pose. -/
def TaughtProfile.error (v : Vertex) (position : Urad) (j : ArmJoint) : ℤ :=
  position.toInt - (p.targets v j).toInt

def near (v : Vertex) : Bool :=
  decide (∀ j, |p.error v (q (leftJoint j)) j| ≤ corridor)

/-- `d[j]`. -/
def TaughtProfile.span (a b : Vertex) (j : ArmJoint) : ℤ :=
  (p.targets b j).toInt - (p.targets a j).toInt

/-- The joint that has furthest to go, the first one of several. -/
def TaughtProfile.leading (a b : Vertex) : ArmJoint :=
  (List.finRange 6).foldl (fun k j => if |p.span a b j| > |p.span a b k| then j else k) 0

def TaughtProfile.width (a b : Vertex) : ℤ := |p.span a b (p.leading a b)|

def edgeProgress (a b : Vertex) : ℤ :=
  p.error a (q (leftJoint (p.leading a b))) (p.leading a b) *
    if p.span a b (p.leading a b) < 0 then -1 else 1

/-- The progress of a position on an edge, if it is on it. -/
def onEdge (a b : Vertex) : Option ℤ :=
  let width := p.width a b
  let s := edgeProgress p q a b
  if width = 0 then none
  else if s < -corridor ∨ s > width + corridor then none
  else if ∃ j, |p.error a (q (leftJoint j)) j * width - p.span a b j * s| > corridor * width then
    none
  else some s

end Geometry

/-! ## 3. The check -/

namespace TaughtPoseGuard

variable (p : TaughtProfile) (g : TaughtPoseGuard) (q : Joint → Urad) (terminal : Bool)

def accept : TaughtPoseGuard × Bool :=
  ({ g with previous := fun j => q (leftJoint j), hasPrevious := true }, true)

def reject : TaughtPoseGuard × Bool := ({ g with failed := true }, false)

/-- The other arm is asked to move, or a joint to move too far in one step. -/
def outOfStep : Bool :=
  decide (∃ j, q (rightJoint j) ≠ 0) ||
    (g.hasPrevious && decide (∃ j, |(q (leftJoint j)).toInt - (g.previous j).toInt| > maxStep))

/-- A joint is out of its bounds, or moves away from the first pose or across it. -/
def misaligned : Bool :=
  decide (∃ j, (q (leftJoint j)).toInt < (p.minimumUrad j).toInt ∨
      (q (leftJoint j)).toInt > (p.maximumUrad j).toInt ∨
      g.hasPrevious = true ∧
        (|p.error 0 (q (leftJoint j)) j| > |p.error 0 (g.previous j) j| + setbackTolerance ∨
          (p.error 0 (g.previous j) j > setbackTolerance ∧
            p.error 0 (q (leftJoint j)) j < -setbackTolerance) ∨
          (p.error 0 (g.previous j) j < -setbackTolerance ∧
            p.error 0 (q (leftJoint j)) j > setbackTolerance)))

def align : TaughtPoseGuard × Bool :=
  if g.misaligned p q then g.reject
  else if terminal then
    if near p q 0 then { g with aligned := true }.accept q else g.reject
  else g.accept q

/-- The first neighbour of the vertex whose edge the position is on. -/
def candidate : Option (Vertex × ℤ) :=
  (List.finRange 5).findSome? fun v =>
    if v.val = g.vertex.val + 1 ∨ g.vertex.val = v.val + 1 then
      (onEdge p q g.vertex v).map fun s => (v, s)
    else none

/-- The position is on the way to `v`. -/
def advance (v : Vertex) : TaughtPoseGuard × Bool :=
  match onEdge p q g.vertex v with
  | none => g.reject
  | some s =>
    if s < g.progress - setbackTolerance then g.reject
    else if terminal then
      if near p q v then { g with vertex := v, destination := none, progress := 0 }.accept q
      else { g with progress := s }.reject
    else { g with progress := s }.accept q

def check : TaughtPoseGuard × Bool :=
  if g.failed then (g, false)
  else if g.outOfStep q then g.reject
  else if !g.aligned then g.align p q terminal
  else match g.destination with
  | some v => g.advance p q terminal v
  | none =>
    if near p q g.vertex then g.accept q
    else match g.candidate p q with
    | none => g.reject
    | some (v, s) => { g with destination := some v, progress := s }.advance p q terminal v

end TaughtPoseGuard

/-! ## 4. The run -/

inductive GuardCall where
  | reset
  | check (q : Joint → Urad) (terminal : Bool)

/-- The guard; the furthest progress accepted on the edge at hand and what of the setbacks there
is not made good; the smallest errors accepted in alignment and what of the setbacks of each joint
is not made good. -/
structure GuardRun where
  guard : TaughtPoseGuard
  furthest : ℤ
  edgeSetback : ℤ
  closest : ArmJoint → ℤ
  jointSetback : ArmJoint → ℤ

namespace GuardRun

variable (p : TaughtProfile) (r : GuardRun)

def begin (guard : TaughtPoseGuard) : GuardRun := ⟨guard.reset, 0, 0, fun _ => 0, fun _ => 0⟩

/-- A setback is added to those before it, and an advance makes good for them. -/
def settle (setback fall : ℤ) : ℤ := max 0 (setback + fall)

/-- The error of a joint to the first pose, in alignment. -/
def homeError (position : Urad) (j : ArmJoint) : ℤ := |p.error 0 position j|

/-- A position is accepted in alignment. -/
def aligning (q : Joint → Urad) (guard : TaughtPoseGuard) : GuardRun :=
  let errors := fun j => homeError p (q (leftJoint j)) j
  if r.guard.hasPrevious then
    { r with
      guard
      closest := fun j => min (r.closest j) (errors j)
      jointSetback := fun j =>
        settle (r.jointSetback j) (errors j - homeError p (r.guard.previous j) j) }
  else { r with guard, closest := errors, jointSetback := fun _ => 0 }

/-- A position is accepted on the way to `v`, or the first one to be on it. -/
def advancing (q : Joint → Urad) (guard : TaughtPoseGuard) : GuardRun :=
  match r.guard.destination with
  | some v =>
    let s := edgeProgress p q r.guard.vertex v
    { r with
      guard
      furthest := max r.furthest s
      edgeSetback := settle r.edgeSetback (r.guard.progress - s) }
  | none => { r with guard, furthest := guard.progress, edgeSetback := 0 }

def step : GuardCall → GuardRun
  | .reset => begin r.guard
  | .check q terminal =>
    let guard := (r.guard.check p q terminal).1
    if r.guard.aligned then r.advancing p q guard else r.aligning p q guard

/-- The guard takes the position. -/
def Accepted : GuardCall → Prop
  | .reset => True
  | .check q terminal => (r.guard.check p q terminal).2 = true

/-- The progress on an edge is no more than the tolerance behind the furthest accepted on it, and
no joint's error is more than the tolerance over the smallest accepted in alignment. -/
def Monotone : GuardCall → Prop
  | .reset => True
  | .check q _ =>
    if r.guard.aligned then
      ∀ v ∈ r.guard.destination.toList,
        r.furthest - setbackTolerance ≤ edgeProgress p q r.guard.vertex v
    else r.guard.hasPrevious = true →
      ∀ j, homeError p (q (leftJoint j)) j ≤ r.closest j + setbackTolerance

/-- The setbacks that have not been made good add up to no more than the tolerance. -/
def MadeGood : GuardCall → Prop
  | .reset => True
  | .check q _ =>
    if r.guard.aligned then
      ∀ v ∈ r.guard.destination.toList,
        r.edgeSetback + (r.guard.progress - edgeProgress p q r.guard.vertex v) ≤ setbackTolerance
    else r.guard.hasPrevious = true →
      ∀ j, r.jointSetback j +
        (homeError p (q (leftJoint j)) j - homeError p (r.guard.previous j) j) ≤ setbackTolerance

instance : ∀ c : GuardCall, Decidable (r.Accepted p c)
  | .reset => isTrue trivial
  | .check _ _ => inferInstanceAs (Decidable (_ = true))

instance : ∀ c : GuardCall, Decidable (r.Monotone p c)
  | .reset => isTrue trivial
  | .check _ _ => inferInstanceAs (Decidable (if r.guard.aligned then _ else _))

instance : ∀ c : GuardCall, Decidable (r.MadeGood p c)
  | .reset => isTrue trivial
  | .check _ _ => inferInstanceAs (Decidable (if r.guard.aligned then _ else _))

end GuardRun

/-! ## 5. What an accepted position leaves -/

namespace TaughtPoseGuard

variable {p : TaughtProfile} {g : TaughtPoseGuard} {q : Joint → Urad} {terminal : Bool}

theorem onEdge_eq {a b : Vertex} {s : ℤ} (h : onEdge p q a b = some s) :
    s = edgeProgress p q a b := by
  simp only [onEdge] at h
  split_ifs at h
  exact (Option.some.inj h).symm

theorem advance_accepted {v : Vertex} (h : (g.advance p q terminal v).2 = true) :
    (g.advance p q terminal v).1.aligned = g.aligned ∧
      ((g.advance p q terminal v).1.destination = none ∨
        (g.advance p q terminal v).1.destination = g.destination ∧
          (g.advance p q terminal v).1.progress = edgeProgress p q g.vertex v) := by
  unfold advance at h ⊢
  cases hedge : onEdge p q g.vertex v with
  | none =>
    rw [hedge] at h
    exact nomatch h
  | some s =>
    rw [hedge] at h
    dsimp only at h ⊢
    split at h
    · exact nomatch h
    rename_i hback
    rw [if_neg hback]
    split at h
    · split at h
      · rename_i hterminal hnear
        rw [if_pos hterminal, if_pos hnear]
        exact ⟨rfl, .inl rfl⟩
      · exact nomatch h
    · rename_i hmore
      rw [if_neg hmore]
      exact ⟨rfl, .inr ⟨rfl, onEdge_eq hedge⟩⟩

theorem align_accepted (h : (g.align p q terminal).2 = true) :
    (g.align p q terminal).1.destination = g.destination ∧
      (g.align p q terminal).1.hasPrevious = true ∧
      (g.align p q terminal).1.previous = fun j => q (leftJoint j) := by
  unfold align at h ⊢
  split at h
  · exact nomatch h
  rename_i hfit
  rw [if_neg hfit]
  split at h
  · split at h
    · rename_i hterminal hnear
      rw [if_pos hterminal, if_pos hnear]
      exact ⟨rfl, rfl, rfl⟩
    · exact nomatch h
  · rename_i hmore
    rw [if_neg hmore]
    exact ⟨rfl, rfl, rfl⟩

theorem check_open (hopen : g.aligned = false) (h : (g.check p q terminal).2 = true) :
    g.check p q terminal = g.align p q terminal := by
  unfold check at h ⊢
  split at h
  · exact nomatch h
  rename_i hlive
  rw [if_neg hlive]
  split at h
  · exact nomatch h
  rename_i hstep
  rw [if_neg hstep, if_pos (by simp [hopen])]

/-- Past the alignment a position is accepted at a vertex, at the end of an edge, at the start of
one, or on the one at hand. -/
theorem check_aligned (haligned : g.aligned = true) (h : (g.check p q terminal).2 = true) :
    (g.check p q terminal).1.aligned = true ∧
      ((g.check p q terminal).1.destination = none ∨ g.destination = none ∨
        ∃ v, g.destination = some v ∧
          (g.check p q terminal).1.progress = edgeProgress p q g.vertex v) := by
  unfold check at h ⊢
  split at h
  · exact nomatch h
  rename_i hlive
  rw [if_neg hlive]
  split at h
  · exact nomatch h
  rename_i hstep
  rw [if_neg hstep]
  have hnot : ¬ (!g.aligned) = true := by simp [haligned]
  rw [if_neg hnot] at h ⊢
  cases hdestination : g.destination with
  | some v =>
    rw [hdestination] at h
    obtain ⟨hkeeps, hends⟩ := advance_accepted h
    exact ⟨hkeeps.trans haligned, hends.imp id fun hmore => .inr ⟨v, rfl, hmore.2⟩⟩
  | none =>
    rw [hdestination] at h
    refine ⟨?_, .inr (.inl rfl)⟩
    dsimp only at h ⊢
    split at h
    · rename_i hnear
      rw [if_pos hnear]
      exact haligned
    rename_i haway
    rw [if_neg haway]
    cases hcandidate : g.candidate p q with
    | none =>
      rw [hcandidate] at h
      exact nomatch h
    | some found =>
      rw [hcandidate] at h
      exact (advance_accepted h).1.trans haligned

end TaughtPoseGuard

/-! ## 6. The setbacks of a run -/

namespace GuardRun

variable {p : TaughtProfile} {r : GuardRun}

/-- The distance to the extremum is what of the setbacks is not made good. -/
theorem max_settle (furthest setback last s : ℤ) (h : furthest = last + setback) :
    max furthest s = s + settle setback (last - s) := by
  rw [settle, h]
  omega

theorem min_settle (closest setback last e : ℤ) (h : last = closest + setback) :
    e = min closest e + settle setback (e - last) := by
  rw [settle, h]
  omega

structure Kept (r : GuardRun) (p : TaughtProfile) : Prop where
  closed : r.guard.aligned = false → r.guard.destination = none
  edge : r.guard.aligned = true → r.guard.destination ≠ none →
    r.furthest = r.guard.progress + r.edgeSetback
  joints : r.guard.aligned = false → r.guard.hasPrevious = true →
    ∀ j, homeError p (r.guard.previous j) j = r.closest j + r.jointSetback j

theorem kept_begin (guard : TaughtPoseGuard) (p : TaughtProfile) : (begin guard).Kept p :=
  ⟨fun _ => rfl, nofun, nofun⟩

/-- An accepted position past the alignment. -/
theorem Kept.advancing (h : r.Kept p) {q : Joint → Urad} {guard : TaughtPoseGuard}
    (haligned : r.guard.aligned = true) (hkeeps : guard.aligned = true)
    (hends : guard.destination = none ∨ r.guard.destination = none ∨
      ∃ v, r.guard.destination = some v ∧
        guard.progress = edgeProgress p q r.guard.vertex v) :
    (r.advancing p q guard).Kept p := by
  have hopen : guard.aligned ≠ false := by simp [hkeeps]
  unfold GuardRun.advancing
  cases hdestination : r.guard.destination with
  | none => exact ⟨fun h => absurd h hopen, fun _ _ => (Int.add_zero _).symm, fun h => absurd h hopen⟩
  | some v =>
    refine ⟨fun h => absurd h hopen, fun _ hmore => ?_, fun h => absurd h hopen⟩
    rcases hends with hnone | hnone | ⟨v', hv, hprogress⟩
    · exact absurd hnone hmore
    · exact nomatch hdestination.symm.trans hnone
    · obtain rfl := Option.some.inj (hdestination.symm.trans hv)
      dsimp only at hmore ⊢
      rw [hprogress]
      exact max_settle _ _ _ _ (h.edge haligned (by simp [hdestination]))

/-- An accepted position in alignment. -/
theorem Kept.aligning (h : r.Kept p) {q : Joint → Urad} {guard : TaughtPoseGuard}
    (hopen : r.guard.aligned = false) (hsame : guard.destination = r.guard.destination)
    (hprevious : guard.previous = fun j => q (leftJoint j)) :
    (r.aligning p q guard).Kept p := by
  have hclosed := hsame.trans (h.closed hopen)
  unfold GuardRun.aligning
  cases hhas : r.guard.hasPrevious with
  | true =>
    refine ⟨fun _ => hclosed, fun _ hmore => absurd hclosed hmore, fun _ _ j => ?_⟩
    simp only [if_true, hprevious]
    exact min_settle _ _ _ _ (h.joints hopen hhas j)
  | false =>
    refine ⟨fun _ => hclosed, fun _ hmore => absurd hclosed hmore, fun _ _ j => ?_⟩
    simp only [Bool.false_eq_true, if_false, hprevious]
    exact (Int.add_zero _).symm

theorem Kept.step (h : r.Kept p) {c : GuardCall} (haccepted : r.Accepted p c) :
    (r.step p c).Kept p := by
  cases c with
  | reset => exact kept_begin _ p
  | check q terminal =>
    unfold GuardRun.step
    cases haligned : r.guard.aligned with
    | true =>
      obtain ⟨hkeeps, hends⟩ := TaughtPoseGuard.check_aligned haligned haccepted
      exact h.advancing haligned hkeeps hends
    | false =>
      have hcheck := TaughtPoseGuard.check_open haligned haccepted
      have htaken : (r.guard.align p q terminal).2 = true := hcheck ▸ haccepted
      obtain ⟨hsame, -, hprevious⟩ := TaughtPoseGuard.align_accepted htaken
      simp only [Bool.false_eq_true, if_false, hcheck]
      exact h.aligning haligned hsame hprevious

theorem Kept.monotone_iff (h : r.Kept p) (c : GuardCall) : r.Monotone p c ↔ r.MadeGood p c := by
  cases c with
  | reset => exact Iff.rfl
  | check q terminal =>
    simp only [Monotone, MadeGood]
    cases haligned : r.guard.aligned with
    | true =>
      rw [if_pos rfl, if_pos rfl]
      refine forall₂_congr fun v hv => ?_
      have hedge := h.edge haligned (by intro hnone; rw [hnone] at hv; exact nomatch hv)
      omega
    | false =>
      rw [if_neg nofun, if_neg nofun]
      refine forall_congr' fun hprevious => forall_congr' fun j => ?_
      have hjoint := h.joints haligned hprevious j
      omega

/-- A path along the first joint. -/
def Bench.profile : TaughtProfile where
  targets := fun v j => if j = 0 then BitVec.ofNat 32 (100000 * v.val) else 0
  minimumUrad := fun _ => BitVec.ofInt 32 (-500000)
  maximumUrad := fun _ => 500000

def Bench.guard : TaughtPoseGuard where
  vertex := 0
  destination := some 0
  progress := 0
  previous := fun _ => 0
  hasPrevious := false
  failed := false
  aligned := false

/-- A check of a position of the first joint. -/
def Bench.at_ (position : Urad) (terminal : Bool) : GuardCall :=
  .check (fun joint => if joint = 0 then position else 0) terminal

/-- Setbacks that are made good: the tolerance is used up twice. -/
def Bench.steady : List GuardCall :=
  [Bench.at_ 12000 true, Bench.at_ 12100 false, Bench.at_ 12096 false, Bench.at_ 13000 false,
    Bench.at_ 12996 false]

end GuardRun

end MobileBimanual.Servo
