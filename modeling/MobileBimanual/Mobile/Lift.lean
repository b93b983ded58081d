/-
# The lift controller

`lift_controller.c` in full: homing against the lower stop, moving to a height, and holding.  A
movement ends in HOLD_PENDING; the controller holds only after a zero-speed packet was
transmitted (`zeroSent`) and a newer sample shows the lift at rest and verified.

The heights, speeds and currents are integers; the source's 32-bit fields have passed a range
check, and its 64-bit products stay below 2^63 for every configuration `init` takes.
-/
import MobileBimanual.Mobile.Supervisor

namespace MobileBimanual.Mobile

open MobileBimanual.Stream (Byte Tick)

/-! ## 1. The record -/

inductive LiftState where
  | unhomed
  | homing
  | ready
  | moving
  | holdPending
  | holding
  | fault
  deriving DecidableEq

inductive LiftFault where
  | ok
  | badFeedback
  | timeout
  | encoderJump
  | travelLimit
  | overCurrent
  deriving DecidableEq

structure LiftConfig where
  umPerTurn : Int
  maximumHeightUm : Int
  toleranceUm : Int
  maximumSpeedRaw : Int
  homingSpeedRaw : Int
  stoppedSpeedRaw : Int
  slowdownDistanceUm : Int
  homeCurrentMa : Int
  maximumCurrentMa : Int
  feedbackTimeoutMs : Tick
  homingTimeoutMs : Tick
  contactDwellMs : Tick
  maximumEncoderStepRaw : Nat
  encoderUpDirection : Int

structure LiftFeedback where
  observedMs : Tick
  positionRaw : Nat
  velocityRaw : Int
  currentMa : Int
  healthy : Bool
  holdVerified : Bool

structure Lift where
  config : LiftConfig
  state : LiftState
  fault : LiftFault
  configured : Bool
  haveSample : Bool
  homed : Bool
  contactTracking : Bool
  observedMs : Tick
  homingStartedMs : Tick
  contactStartedMs : Tick
  previousRaw : Nat
  accumulatedRaw : Int
  homeRaw : Int
  heightUm : Int
  targetUm : Int
  commandRaw : Int
  feedback : LiftFeedback
  zeroSent : Bool
  zeroSentMs : Tick

namespace Lift

/-! ## 2. The checks -/

def fresh (l : Lift) (nowMs : Tick) : Bool :=
  l.haveSample && nowMs - l.observedMs < l.config.feedbackTimeoutMs

def fail (l : Lift) (reason : LiftFault) : Lift :=
  { l with fault := reason, state := .fault, commandRaw := 0, homed := false }

def stopped (l : Lift) : Bool :=
  l.feedback.velocityRaw ≤ l.config.stoppedSpeedRaw &&
    -l.config.stoppedSpeedRaw ≤ l.feedback.velocityRaw

/-! ## 3. The operations -/

/-- The memory before `init`. -/
def blank : Lift where
  config :=
    { umPerTurn := 0, maximumHeightUm := 0, toleranceUm := 0, maximumSpeedRaw := 0
      homingSpeedRaw := 0, stoppedSpeedRaw := 0, slowdownDistanceUm := 0, homeCurrentMa := 0
      maximumCurrentMa := 0, feedbackTimeoutMs := 0, homingTimeoutMs := 0, contactDwellMs := 0
      maximumEncoderStepRaw := 0, encoderUpDirection := 0 }
  state := .unhomed
  fault := .ok
  configured := false
  haveSample := false
  homed := false
  contactTracking := false
  observedMs := 0
  homingStartedMs := 0
  contactStartedMs := 0
  previousRaw := 0
  accumulatedRaw := 0
  homeRaw := 0
  heightUm := 0
  targetUm := 0
  commandRaw := 0
  feedback :=
    { observedMs := 0, positionRaw := 0, velocityRaw := 0, currentMa := 0, healthy := false
      holdVerified := false }
  zeroSent := false
  zeroSentMs := 0

def configOk (c : LiftConfig) : Bool :=
  0 < c.umPerTurn && c.umPerTurn ≤ 10000000 &&
    0 < c.maximumHeightUm && c.maximumHeightUm ≤ 10000000 &&
    0 < c.toleranceUm && c.toleranceUm < c.maximumHeightUm &&
    0 < c.maximumSpeedRaw && c.maximumSpeedRaw ≤ 32767 &&
    0 < c.homingSpeedRaw && c.homingSpeedRaw ≤ c.maximumSpeedRaw &&
    0 ≤ c.stoppedSpeedRaw && c.stoppedSpeedRaw < c.homingSpeedRaw &&
    c.toleranceUm < c.slowdownDistanceUm &&
    0 < c.homeCurrentMa && c.homeCurrentMa < c.maximumCurrentMa &&
    c.feedbackTimeoutMs != 0 && c.feedbackTimeoutMs < halfClock &&
    c.homingTimeoutMs != 0 && c.homingTimeoutMs < halfClock &&
    c.contactDwellMs != 0 && c.contactDwellMs < c.homingTimeoutMs &&
    0 < c.maximumEncoderStepRaw && c.maximumEncoderStepRaw < 2048 &&
    (c.encoderUpDirection == 1 || c.encoderUpDirection == -1)

def init (config : LiftConfig) : Lift × Bool :=
  if configOk config then ({ blank with config, configured := true }, true) else (blank, false)

def reset (l : Lift) : Lift :=
  if !l.configured then l
  else
    { l with
      state := .unhomed
      fault := .ok
      commandRaw := 0
      homed := false
      haveSample := false
      contactTracking := false
      accumulatedRaw := 0
      homeRaw := 0 }

/-- The speed of a movement: slowed down near the target, but never to nothing. -/
def speed (l : Lift) (magnitude : Int) : Int :=
  let speed := Int.tdiv (l.config.maximumSpeedRaw * magnitude) l.config.slowdownDistanceUm
  let speed := if l.config.maximumSpeedRaw < speed then l.config.maximumSpeedRaw else speed
  if speed < 1 then 1 else speed

/-- The movement's end, or its next command. -/
def steer (l : Lift) : Lift :=
  let error := l.targetUm - l.heightUm
  let magnitude := if error < 0 then -error else error
  if magnitude ≤ l.config.toleranceUm then
    { l with state := .holdPending, commandRaw := 0, zeroSent := false }
  else { l with commandRaw := if error < 0 then -l.speed magnitude else l.speed magnitude }

/-- Homing, the travel limit and the movement. -/
def advance (l : Lift) : Lift :=
  if l.state = .homing then { l with commandRaw := -l.config.homingSpeedRaw }
  else if l.homed && (l.heightUm < -l.config.toleranceUm || l.config.maximumHeightUm < l.heightUm)
  then l.fail .travelLimit
  else if l.state = .moving then l.steer
  else l

/-- A pending hold is confirmed by a sample newer than the transmitted zero. -/
def confirm (l : Lift) : Lift :=
  let age := l.observedMs - l.zeroSentMs
  if l.state = .holdPending && l.zeroSent && age != 0 && age < halfClock && l.stopped &&
      l.feedback.holdVerified then { l with state := .holding, commandRaw := 0 }
  else l

/-- A hold is lost when the lift moves or leaves its height. -/
def guardHold (l : Lift) : Lift :=
  if (l.state = .holding || l.state = .ready) &&
      (!l.stopped || !l.feedback.holdVerified || l.config.toleranceUm < l.heightUm - l.targetUm ||
        l.config.toleranceUm < l.targetUm - l.heightUm) then l.fail .badFeedback
  else l

def poll (l : Lift) (nowMs : Tick) : Lift :=
  if !l.configured || l.state = .fault || l.state = .unhomed then l
  else if !l.fresh nowMs || !l.feedback.healthy then l.fail .badFeedback
  else if l.config.maximumCurrentMa < l.feedback.currentMa then l.fail .overCurrent
  else if l.state = .homing && l.config.homingTimeoutMs ≤ nowMs - l.homingStartedMs then
    l.fail .timeout
  else l.advance.confirm.guardHold

/-- The encoder's step from one reading to the next, the short way round. -/
def encoderStep (previousRaw positionRaw : Nat) : Int :=
  let delta : Int := positionRaw - previousRaw
  let delta := if 2048 < delta then delta - 4096 else delta
  if delta < -2048 then delta + 4096 else delta

/-- A sample the controller takes: in range, fresh and newer than the last. -/
def acceptable (l : Lift) (f : LiftFeedback) (nowMs : Tick) : Bool :=
  let advance := f.observedMs - l.observedMs
  !(4096 ≤ f.positionRaw || f.velocityRaw < -32767 || 32767 < f.velocityRaw || f.currentMa < 0 ||
    l.config.feedbackTimeoutMs ≤ nowMs - f.observedMs ||
    (l.haveSample && (advance == 0 || halfClock ≤ advance)))

/-- Contact with the lower stop, long enough, is the origin. -/
def trackContact (l : Lift) (f : LiftFeedback) : Lift :=
  if l.state != .homing then l
  else if f.healthy && l.stopped && l.config.homeCurrentMa ≤ f.currentMa &&
      f.currentMa ≤ l.config.maximumCurrentMa then
    if !l.contactTracking then { l with contactTracking := true, contactStartedMs := f.observedMs }
    else if l.config.contactDwellMs ≤ f.observedMs - l.contactStartedMs then
      { l with
        homeRaw := l.accumulatedRaw
        heightUm := 0
        targetUm := 0
        homed := true
        state := .holdPending
        commandRaw := 0
        zeroSent := false }
    else l
  else { l with contactTracking := false }

/-- The height of an accumulated reading, truncated as the source's division truncates. -/
def heightOf (l : Lift) : Int :=
  Int.tdiv ((l.accumulatedRaw - l.homeRaw) * l.config.umPerTurn) 4096

def accumulate (l : Lift) (delta : Int) : Lift :=
  { l with accumulatedRaw := l.accumulatedRaw + delta * l.config.encoderUpDirection }

def takeSample (l : Lift) (f : LiftFeedback) : Lift :=
  { l with
    previousRaw := f.positionRaw
    observedMs := f.observedMs
    feedback := f
    haveSample := true }

/-- The sample is in the record; the rest of `observe`. -/
def measure (l : Lift) (f : LiftFeedback) (nowMs : Tick) : Lift × Bool :=
  if l.homed && (l.heightOf < -2147483648 || 2147483647 < l.heightOf) then
    (l.fail .travelLimit, false)
  else
    let l := if l.homed then { l with heightUm := l.heightOf } else l
    ((l.trackContact f).poll nowMs, true)

def observe (l : Lift) (f : LiftFeedback) (nowMs : Tick) : Lift × Bool :=
  if !l.configured then (l, false)
  else
    let l := l.poll nowMs
    let delta := encoderStep l.previousRaw f.positionRaw
    if !l.acceptable f nowMs then (l, false)
    else if l.haveSample && (l.config.maximumEncoderStepRaw < delta ||
        delta < -(l.config.maximumEncoderStepRaw : Int)) then (l.fail .encoderJump, false)
    -- the source bounds the accumulator so that its products stay in range
    else if l.haveSample && (1000000000 < l.accumulatedRaw || l.accumulatedRaw < -1000000000) then
      (l.fail .encoderJump, false)
    else
      let l := if l.haveSample then l.accumulate delta else l
      (l.takeSample f).measure f nowMs

def home (l : Lift) (nowMs : Tick) : Lift × Bool :=
  if !l.configured then (l, false)
  else
    let l := l.poll nowMs
    if l.state != .unhomed || !l.fresh nowMs || !l.feedback.healthy || !l.stopped ||
        l.config.maximumCurrentMa < l.feedback.currentMa then (l, false)
    else
      ({ l with
          homingStartedMs := nowMs
          contactTracking := false
          state := .homing
          commandRaw := -l.config.homingSpeedRaw }, true)

def move (l : Lift) (heightUm : Int) (nowMs : Tick) : Lift × Bool :=
  if !l.configured then (l, false)
  else
    let l := l.poll nowMs
    if !l.homed || (l.state != .ready && l.state != .holding) || heightUm < 0 ||
        l.config.maximumHeightUm < heightUm || !l.fresh nowMs then (l, false)
    else (({ l with targetUm := heightUm, state := .moving } : Lift).poll nowMs, true)

def cancel (l : Lift) : Lift :=
  if !l.configured || l.state = .fault then l
  else if l.state = .holdPending || l.state = .holding then l
  else
    { l with
      commandRaw := 0
      contactTracking := false
      targetUm := l.heightUm
      state := if l.homed then .holdPending else .unhomed
      zeroSent := false }

def inhibit (l : Lift) (reason : LiftFault) : Lift :=
  if l.configured then l.fail (if reason = .ok then .badFeedback else reason) else l

/-- A zero-speed packet was transmitted. -/
def markZeroSent (l : Lift) (nowMs : Tick) : Lift :=
  if l.configured && l.state = .holdPending && !l.zeroSent then
    { l with zeroSent := true, zeroSentMs := nowMs }
  else l

/-! ## 4. The hold -/

/-- The lift is held, or waits for it. -/
def Held (l : Lift) : Prop := l.state = .holdPending ∨ l.state = .holding

instance (l : Lift) : Decidable l.Held := inferInstanceAs (Decidable (_ ∨ _))

/-- A held lift commands standstill, and where its zero counts as sent, `truth` holds. -/
structure Settled (truth : Prop) (l : Lift) : Prop where
  still : l.Held → l.commandRaw = 0
  sent : l.Held → l.zeroSent = true → truth

/-- Where no hold is claimed there is nothing to keep. -/
theorem Settled.of_not_held {truth : Prop} {l : Lift} (h : ¬ l.Held) : Settled truth l :=
  ⟨fun hl => absurd hl h, fun hl => absurd hl h⟩

theorem not_held_fail (l : Lift) (reason : LiftFault) : ¬ (l.fail reason).Held := by
  simp [Held, fail]

/-- A hold that is new has its zero still to send. -/
theorem Settled.of_unsent {truth : Prop} {l : Lift} (hstill : l.commandRaw = 0)
    (hunsent : l.zeroSent = false) : Settled truth l :=
  ⟨fun _ => hstill, fun _ hs => by rw [hunsent] at hs; cases hs⟩

namespace Settled

variable {truth : Prop} {l : Lift}

theorem mono {truth' : Prop} (h : Settled truth l) (himp : truth → truth') : Settled truth' l :=
  ⟨h.still, fun hl hs => himp (h.sent hl hs)⟩

theorem init (config : LiftConfig) : Settled truth (Lift.init config).1 := by
  unfold Lift.init
  split
  · exact of_not_held (by simp [Held, blank])
  · exact of_not_held (by simp [Held, blank])

/-- Only the state, the command and the flag matter. -/
theorem congr (h : Settled truth l) {l' : Lift} (hstate : l'.state = l.state)
    (hcommand : l'.commandRaw = l.commandRaw) (hsent : l'.zeroSent = l.zeroSent) :
    Settled truth l' := by
  have hheld : l'.Held ↔ l.Held := by rw [Held, Held, hstate]
  constructor
  · intro hl
    rw [hcommand]
    exact h.still (hheld.mp hl)
  · intro hl hs
    exact h.sent (hheld.mp hl) (hsent ▸ hs)

theorem steer (hmoving : l.state = .moving) : Settled truth l.steer := by
  unfold Lift.steer
  dsimp only
  split_ifs
  · exact of_unsent rfl rfl
  · exact of_not_held (by simp [Held, hmoving])
  · exact of_unsent rfl rfl
  · exact of_not_held (by simp [Held, hmoving])

theorem advance (h : Settled truth l) : Settled truth l.advance := by
  unfold Lift.advance
  split_ifs with hhoming hlimit hmoving
  · exact of_not_held (by simp [Held, hhoming])
  · exact of_not_held (l.not_held_fail _)
  · exact steer hmoving
  · exact h

theorem confirm (h : Settled truth l) : Settled truth l.confirm := by
  unfold Lift.confirm
  dsimp only
  split
  · rename_i hconfirmed
    simp only [Bool.and_eq_true, decide_eq_true_eq] at hconfirmed
    obtain ⟨⟨⟨⟨⟨hstate, -⟩, -⟩, -⟩, -⟩, -⟩ := hconfirmed
    exact ⟨fun _ => rfl, fun _ hs => h.sent (Or.inl hstate) hs⟩
  · exact h

theorem guardHold (h : Settled truth l) : Settled truth l.guardHold := by
  unfold Lift.guardHold
  split
  · exact of_not_held (l.not_held_fail _)
  · exact h

theorem poll (h : Settled truth l) (now : Tick) : Settled truth (l.poll now) := by
  unfold Lift.poll
  split_ifs
  · exact h
  · exact of_not_held (l.not_held_fail _)
  · exact of_not_held (l.not_held_fail _)
  · exact of_not_held (l.not_held_fail _)
  · exact h.advance.confirm.guardHold

theorem reset (h : Settled truth l) : Settled truth l.reset := by
  unfold Lift.reset
  split
  · exact h
  · exact of_not_held (by simp [Held])

theorem inhibit (h : Settled truth l) (reason : LiftFault) : Settled truth (l.inhibit reason) := by
  unfold Lift.inhibit
  split
  · exact of_not_held (l.not_held_fail _)
  · exact h

theorem cancel (h : Settled truth l) : Settled truth l.cancel := by
  unfold Lift.cancel
  split_ifs
  · exact h
  · exact h
  · exact of_unsent rfl rfl
  · exact of_unsent rfl rfl

theorem home (h : Settled truth l) (now : Tick) : Settled truth (l.home now).1 := by
  unfold Lift.home
  dsimp only
  split_ifs
  · exact h
  · exact h.poll now
  · exact of_not_held (by simp [Held])

theorem move (h : Settled truth l) (height : Int) (now : Tick) :
    Settled truth (l.move height now).1 := by
  unfold Lift.move
  dsimp only
  split_ifs
  · exact h
  · exact h.poll now
  · exact (of_not_held (by simp [Held])).poll now

theorem trackContact (h : Settled truth l) (f : LiftFeedback) :
    Settled truth (l.trackContact f) := by
  unfold Lift.trackContact
  split_ifs
  · exact h
  · exact h.congr rfl rfl rfl
  · exact of_unsent rfl rfl
  · exact h
  · exact h.congr rfl rfl rfl

theorem measure (h : Settled truth l) (f : LiftFeedback) (now : Tick) :
    Settled truth (l.measure f now).1 := by
  have hheight : Settled truth { l with heightUm := l.heightOf } := h.congr rfl rfl rfl
  unfold Lift.measure
  dsimp only
  split_ifs
  · exact of_not_held (l.not_held_fail _)
  · exact (hheight.trackContact f).poll now
  · exact (h.trackContact f).poll now

theorem takeSample (h : Settled truth l) (f : LiftFeedback) : Settled truth (l.takeSample f) :=
  h.congr rfl rfl rfl

theorem accumulate (h : Settled truth l) (delta : Int) : Settled truth (l.accumulate delta) :=
  h.congr rfl rfl rfl

theorem observe (h : Settled truth l) (f : LiftFeedback) (now : Tick) :
    Settled truth (l.observe f now).1 := by
  unfold Lift.observe
  dsimp only
  split_ifs
  · exact h
  · exact h.poll now
  · exact of_not_held (not_held_fail _ _)
  · exact of_not_held (not_held_fail _ _)
  · exact (((h.poll now).accumulate _).takeSample f).measure f now
  · exact ((h.poll now).takeSample f).measure f now

/-- The completion of a zero claims a hold, if one is pending without it. -/
theorem markZeroSent {truth' : Prop} (h : Settled truth l) (himp : truth → truth')
    (hclaim : l.state = .holdPending → l.zeroSent = false → truth') (now : Tick) :
    Settled truth' (l.markZeroSent now) := by
  unfold Lift.markZeroSent
  split
  · rename_i hmark
    simp only [Bool.and_eq_true, decide_eq_true_eq, Bool.not_eq_true'] at hmark
    exact ⟨fun _ => h.still (Or.inl hmark.1.2), fun _ _ => hclaim hmark.1.2 hmark.2⟩
  · exact ⟨h.still, fun hl hs => himp (h.sent hl hs)⟩

end Settled

end Lift

end MobileBimanual.Mobile
