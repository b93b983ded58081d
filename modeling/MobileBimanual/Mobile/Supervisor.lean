/-
# The mobile supervisor

`mobile_supervisor.c` in full: session and sequence of the velocity commands for the four mobile
axes, the watchdog over the command and over the feedback, the travel limits of the lift, and
the stop latch that only a new session takes off.

Velocities and positions are integers; the source's are 32-bit and every one it stores has passed
a range check.  Times are readings of the 32-bit millisecond clock.
-/
import MobileBimanual.Stream.Contract

namespace MobileBimanual.Mobile

open MobileBimanual.Stream (Byte Tick)

/-! ## 1. The record -/

/-- The three wheels and, last, the lift. -/
abbrev Axis := Fin 4

instance Axis.neZero : NeZero 4 := ⟨by decide⟩

def liftAxis : Axis := 3

structure MobileConfig where
  maxVelocityRaw : Axis → Int
  stoppedVelocityRaw : Int
  commandTimeoutMs : Tick
  feedbackTimeoutMs : Tick
  liftMinUm : Int
  liftMaxUm : Int

structure MobileFeedback where
  observedMs : Tick
  velocityRaw : Axis → Int
  liftPositionUm : Int
  velocityModesVerified : Bool
  liftHomed : Bool
  hardwareOk : Bool

inductive MobileState where
  | disabled
  | ready
  | active
  | stopLatched
  deriving DecidableEq

inductive MobileReason where
  | none
  | request
  | commandTimeout
  | feedback
  | liftLimit

structure MobileSupervisor where
  config : MobileConfig
  feedback : MobileFeedback
  state : MobileState
  reason : MobileReason
  configured : Bool
  haveFeedback : Bool
  haveSequence : Bool
  session : Tick
  sequence : Tick
  commandMs : Tick
  commandValidForMs : Tick
  targetRaw : Axis → Int

/-- What lies half the clock's circle ahead or more counts as past. -/
def halfClock : Tick := 0x80000000

namespace MobileSupervisor

/-! ## 2. The checks -/

def latch (s : MobileSupervisor) (reason : MobileReason) : MobileSupervisor :=
  { s with
    reason := if s.state = .stopLatched then s.reason else reason
    state := .stopLatched
    targetRaw := fun _ => 0 }

def fresh (s : MobileSupervisor) (nowMs : Tick) : Bool :=
  s.haveFeedback && nowMs - s.feedback.observedMs < s.config.feedbackTimeoutMs

def healthy (s : MobileSupervisor) (nowMs : Tick) : Bool :=
  s.fresh nowMs && s.feedback.hardwareOk && s.feedback.velocityModesVerified &&
    s.feedback.liftHomed

def liftInside (s : MobileSupervisor) : Bool :=
  s.config.liftMinUm ≤ s.feedback.liftPositionUm && s.feedback.liftPositionUm ≤ s.config.liftMaxUm

/-- The velocity would drive the lift out of its travel. -/
def liftOutward (s : MobileSupervisor) (velocityRaw : Axis → Int) : Bool :=
  (0 < velocityRaw liftAxis && s.config.liftMaxUm ≤ s.feedback.liftPositionUm) ||
    (velocityRaw liftAxis < 0 && s.feedback.liftPositionUm ≤ s.config.liftMinUm)

/-- All four axes are measured at standstill. -/
def slow (s : MobileSupervisor) : Bool :=
  decide (∀ axis, s.feedback.velocityRaw axis ≤ s.config.stoppedVelocityRaw ∧
    -s.config.stoppedVelocityRaw ≤ s.feedback.velocityRaw axis)

def axesStopped (s : MobileSupervisor) (nowMs : Tick) : Bool :=
  s.configured && s.fresh nowMs && s.feedback.hardwareOk && s.feedback.velocityModesVerified &&
    s.slow

def measuredStopped (s : MobileSupervisor) (nowMs : Tick) : Bool :=
  s.configured && s.healthy nowMs && s.liftInside && s.slow

/-! ## 3. The operations -/

/-- The memory before `init`. -/
def blank : MobileSupervisor where
  config :=
    { maxVelocityRaw := fun _ => 0, stoppedVelocityRaw := 0, commandTimeoutMs := 0
      feedbackTimeoutMs := 0, liftMinUm := 0, liftMaxUm := 0 }
  feedback :=
    { observedMs := 0, velocityRaw := fun _ => 0, liftPositionUm := 0
      velocityModesVerified := false, liftHomed := false, hardwareOk := false }
  state := .disabled
  reason := .none
  configured := false
  haveFeedback := false
  haveSequence := false
  session := 0
  sequence := 0
  commandMs := 0
  commandValidForMs := 0
  targetRaw _ := 0

def configOk (config : MobileConfig) : Bool :=
  config.commandTimeoutMs != 0 && config.commandTimeoutMs < halfClock &&
    config.feedbackTimeoutMs != 0 && config.feedbackTimeoutMs < halfClock &&
    config.liftMinUm < config.liftMaxUm && 0 ≤ config.stoppedVelocityRaw &&
    config.stoppedVelocityRaw ≤ 32767 &&
    decide (∀ axis, config.stoppedVelocityRaw < config.maxVelocityRaw axis ∧
      config.maxVelocityRaw axis ≤ 32767)

def init (config : MobileConfig) : MobileSupervisor × Bool :=
  if configOk config then ({ blank with config, configured := true }, true) else (blank, false)

def poll (s : MobileSupervisor) (nowMs : Tick) : MobileSupervisor :=
  if !s.configured || (s.state != .ready && s.state != .active) then s
  else if !s.healthy nowMs then s.latch .feedback
  else if !s.liftInside || s.liftOutward s.targetRaw then s.latch .liftLimit
  else if s.state == .active && s.commandValidForMs ≤ nowMs - s.commandMs then
    s.latch .commandTimeout
  else s

def observe (s : MobileSupervisor) (feedback : MobileFeedback) (nowMs : Tick) :
    MobileSupervisor × Bool :=
  if !s.configured then (s, false)
  else
    let s := s.poll nowMs
    let advance := feedback.observedMs - s.feedback.observedMs
    if s.config.feedbackTimeoutMs ≤ nowMs - feedback.observedMs then (s, false)
    else if s.haveFeedback && (advance == 0 || halfClock ≤ advance) then (s, false)
    else if !decide (∀ axis, -32767 ≤ feedback.velocityRaw axis ∧ feedback.velocityRaw axis ≤ 32767)
    then (s, false)
    else (({ s with feedback, haveFeedback := true } : MobileSupervisor).poll nowMs, true)

def arm (s : MobileSupervisor) (session nowMs : Tick) : MobileSupervisor × Bool :=
  let s := s.poll nowMs
  if session == 0 || session ≤ s.session || (s.state != .disabled && s.state != .stopLatched) ||
      !s.measuredStopped nowMs then (s, false)
  else
    ({ s with
        session
        haveSequence := false
        state := .ready
        reason := .none
        targetRaw := fun _ => 0 }, true)

def command (s : MobileSupervisor) (session sequence : Tick) (velocityRaw : Axis → Int)
    (nowMs : Tick) : MobileSupervisor × Bool :=
  let s := s.poll nowMs
  if !s.configured || session != s.session || (s.state != .ready && s.state != .active) ||
      (s.haveSequence && sequence ≤ s.sequence) then (s, false)
  else if !decide (∀ axis, -s.config.maxVelocityRaw axis ≤ velocityRaw axis ∧
      velocityRaw axis ≤ s.config.maxVelocityRaw axis) then (s, false)
  else if s.liftOutward velocityRaw then (s, false)
  else
    ({ s with
        targetRaw := velocityRaw
        sequence
        haveSequence := true
        commandMs := nowMs
        commandValidForMs := s.config.commandTimeoutMs
        state := .active }, true)

def commandUntil (s : MobileSupervisor) (session sequence : Tick) (velocityRaw : Axis → Int)
    (validUntilMs nowMs : Tick) : MobileSupervisor × Bool :=
  let remaining := validUntilMs - nowMs
  let s := s.poll nowMs
  if !s.configured || remaining == 0 || s.config.commandTimeoutMs < remaining then (s, false)
  else
    match s.command session sequence velocityRaw nowMs with
    | (s, false) => (s, false)
    | (s, true) => ({ s with commandValidForMs := remaining }, true)

def stop (s : MobileSupervisor) : MobileSupervisor :=
  if s.configured then s.latch .request else s

/-! ## 4. What they do to the target -/

theorem poll_eq (s : MobileSupervisor) (now : Tick) :
    s.poll now = s ∨ ∃ reason, s.poll now = s.latch reason := by
  unfold poll
  split_ifs
  · exact Or.inl rfl
  · exact Or.inr ⟨_, rfl⟩
  · exact Or.inr ⟨_, rfl⟩
  · exact Or.inr ⟨_, rfl⟩
  · exact Or.inl rfl

theorem poll_of_latched {s : MobileSupervisor} (h : s.state = .stopLatched) (now : Tick) :
    s.poll now = s := by
  simp [poll, h]

/-- A supervisor that is not active has no target but standstill. -/
def Rests (s : MobileSupervisor) : Prop := s.state ≠ .active → ∀ axis, s.targetRaw axis = 0

theorem rests_latch (s : MobileSupervisor) (reason : MobileReason) : (s.latch reason).Rests :=
  fun _ _ => rfl

namespace Rests

variable {s : MobileSupervisor}

theorem init (config : MobileConfig) : (MobileSupervisor.init config).1.Rests := by
  unfold MobileSupervisor.init
  split
  · exact fun _ _ => rfl
  · exact fun _ _ => rfl

end Rests

end MobileSupervisor

end MobileBimanual.Mobile
