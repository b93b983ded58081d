/-
# The mobile feedback reader

`mobile_feedback.c` in full.  The reader asks the four mobile servos in turn, one query at a time
under a token of its own: for the operating mode when it is unknown or half its timeout old, else
for the telemetry.  A reply is private until `commit`, which also wants the transport's proof that
the line is quiet.  `publish` hands the supervisor one feedback made of a sample of every axis that
is new since the last one and of the lift's own evidence.

The source holds a pointer to the supervisor; here the record holds it.  The mask of new samples is
a predicate on the axes.
-/
import MobileBimanual.Mobile.ServoResponse

namespace MobileBimanual.Mobile

open MobileBimanual.Stream (Byte Tick readU16Le)

/-! ## 1. The record -/

structure AxisFeedbackConfig where
  velocityDirection : Int
  minimumVoltageRaw : Byte
  maximumVoltageRaw : Byte
  maximumTemperature : Byte
  maximumCurrentRaw : Word

structure FeedbackReaderConfig where
  axes : Axis → AxisFeedbackConfig
  sampleTimeoutMs : Tick
  modeTimeoutMs : Tick
  responseTimeoutMs : Tick
  maximumSampleSkewMs : Tick

structure AxisSample where
  positionRaw : Int
  velocityRaw : Int
  loadRaw : Int
  currentRaw : Int
  voltageRaw : Byte
  temperature : Byte
  moving : Byte
  observedMs : Tick
  modeMs : Tick
  valid : Bool
  modeVerified : Bool

/-- The memory before the first reply. -/
def AxisSample.blank : AxisSample where
  positionRaw := 0
  velocityRaw := 0
  loadRaw := 0
  currentRaw := 0
  voltageRaw := 0
  temperature := 0
  moving := 0
  observedMs := 0
  modeMs := 0
  valid := false
  modeVerified := false

/-- What the lift controller says of its own axis. -/
structure LiftEvidence where
  observedMs : Tick
  positionUm : Int
  homed : Bool
  hardwareOk : Bool

inductive FeedbackFault where
  | ok
  | timeout
  | status
  | overflow
  | ambiguous
  | mode
  | device
  | transport
  deriving DecidableEq

structure FeedbackReader where
  supervisor : MobileSupervisor
  config : FeedbackReaderConfig
  axes : Axis → AxisSample
  parser : ServoResponse
  fault : FeedbackFault
  token : Tick
  startedMs : Tick
  axis : Axis
  cursor : Axis
  dirty : Axis → Bool
  receivedBytes : Nat
  configured : Bool
  active : Bool
  readingMode : Bool
  replyReady : Bool

/-- A reading of the clock is less than the limit old. -/
def recent (thenMs nowMs limit : Tick) : Bool := nowMs - thenMs < limit

/-- The evidence is withdrawn; the measurements stay. -/
def MobileSupervisor.invalidate (s : MobileSupervisor) : MobileSupervisor :=
  { s with
    feedback :=
      { s.feedback with hardwareOk := false, velocityModesVerified := false, liftHomed := false } }

namespace FeedbackReader

/-! ## 2. Faults -/

def invalidate (r : FeedbackReader) : FeedbackReader :=
  { r with supervisor := r.supervisor.invalidate }

def pollSupervisor (r : FeedbackReader) (nowMs : Tick) : FeedbackReader :=
  { r with supervisor := r.supervisor.poll nowMs }

/-- Nothing read so far counts any more.  The first fault stays on record, and the query stays
pending. -/
def discard (r : FeedbackReader) (why : FeedbackFault) : FeedbackReader :=
  { r with
    fault := if r.fault = .ok then why else r.fault
    dirty := fun _ => false
    axes := fun axis => { r.axes axis with valid := false, modeVerified := false } }

def fail (r : FeedbackReader) (why : FeedbackFault) : FeedbackReader :=
  if !r.configured then r else (r.discard why).invalidate.pollSupervisor r.startedMs

/-! ## 3. Starting and polling -/

def duration (value : Tick) : Bool := value != 0 && value < halfClock

def axisConfigOk (a : AxisFeedbackConfig) : Bool :=
  (a.velocityDirection == 1 || a.velocityDirection == -1) && a.minimumVoltageRaw != 0 &&
    a.minimumVoltageRaw < a.maximumVoltageRaw && a.maximumTemperature != 0 &&
    a.maximumCurrentRaw != 0 && a.maximumCurrentRaw ≤ 32767

def configOk (s : MobileSupervisor) (c : FeedbackReaderConfig) : Bool :=
  s.configured && s.state = .disabled && duration c.sampleTimeoutMs && duration c.modeTimeoutMs &&
    duration c.responseTimeoutMs && c.sampleTimeoutMs ≤ s.config.feedbackTimeoutMs &&
    c.responseTimeoutMs < c.sampleTimeoutMs && c.responseTimeoutMs < c.modeTimeoutMs &&
    c.maximumSampleSkewMs < c.sampleTimeoutMs && decide (∀ axis, axisConfigOk (c.axes axis) = true)

def init (supervisor : MobileSupervisor) (config : FeedbackReaderConfig) : Option FeedbackReader :=
  if !configOk supervisor config then none
  else
    some
      { supervisor := { supervisor.invalidate with haveFeedback := false }
        config
        axes := fun _ => AxisSample.blank
        parser := ServoResponse.init 0 0
        fault := .ok
        token := 0
        startedMs := 0
        axis := 0
        cursor := 0
        dirty := fun _ => false
        receivedBytes := 0
        configured := true
        active := false
        readingMode := false
        replyReady := false }

def staleSample (r : FeedbackReader) (nowMs : Tick) (axis : Axis) : Bool :=
  (r.axes axis).valid && !recent (r.axes axis).observedMs nowMs r.config.sampleTimeoutMs

def staleMode (r : FeedbackReader) (nowMs : Tick) (axis : Axis) : Bool :=
  (r.axes axis).modeVerified && !recent (r.axes axis).modeMs nowMs r.config.modeTimeoutMs

/-- Samples and modes past their time are dropped. -/
def expire (r : FeedbackReader) (nowMs : Tick) : FeedbackReader :=
  { r with
    axes := fun axis =>
      { r.axes axis with
        valid := (r.axes axis).valid && !r.staleSample nowMs axis
        modeVerified := (r.axes axis).modeVerified && !r.staleMode nowMs axis }
    dirty := fun axis => r.dirty axis && !r.staleSample nowMs axis }

/-- Every axis has a sample and a mode. -/
def swept (r : FeedbackReader) : Bool :=
  decide (∀ axis, (r.axes axis).valid = true ∧ (r.axes axis).modeVerified = true)

def complete (r : FeedbackReader) : Bool := r.fault = .ok && r.swept

/-- What was published has run out. -/
def outdated (r : FeedbackReader) (nowMs : Tick) : Bool :=
  r.supervisor.haveFeedback &&
    !recent r.supervisor.feedback.observedMs nowMs r.config.sampleTimeoutMs

def watch (r : FeedbackReader) (nowMs : Tick) : FeedbackReader :=
  if r.active && !recent r.startedMs nowMs r.config.responseTimeoutMs then r.fail .timeout else r

def withhold (r : FeedbackReader) (nowMs : Tick) : FeedbackReader :=
  if !r.complete || r.outdated nowMs then r.invalidate else r

def poll (r : FeedbackReader) (nowMs : Tick) : FeedbackReader :=
  if !r.configured then r
  else (((r.watch nowMs).expire nowMs).withhold nowMs).pollSupervisor nowMs

/-! ## 4. A query and its reply -/

/-- The mode is read when it is unknown, and again at half its timeout. -/
def wantsMode (r : FeedbackReader) (nowMs : Tick) (axis : Axis) : Bool :=
  !(r.axes axis).modeVerified || r.config.modeTimeoutMs / 2 ≤ nowMs - (r.axes axis).modeMs

def begin (ids : MobileIds) (r : FeedbackReader) (nowMs : Tick) (quiet : Bool) :
    FeedbackReader × Option (List Byte × Tick) :=
  if !r.configured then (r, none)
  else
    let r := r.poll nowMs
    if !quiet || r.active || r.fault != .ok || r.token == 0xFFFFFFFF then (r, none)
    else
      let axis := r.cursor
      let mode := r.wantsMode nowMs axis
      let length : Byte := if mode then 1 else 15
      match buildRead (ids.servo axis) (if mode then 33 else 56) length with
      | .error _ => (r, none)
      | .ok request =>
        ({ r with
            axis
            readingMode := mode
            startedMs := nowMs
            active := true
            replyReady := false
            receivedBytes := 0
            parser := ServoResponse.init (ids.servo axis) length
            token := r.token + 1 }, some (request, r.token + 1))

/-- Bytes are for the query that is out, under its token. -/
def outstanding (r : FeedbackReader) (token : Tick) : Bool :=
  r.configured && r.active && token == r.token && token != 0

def maximumReply : Nat := 64

/-- A byte behind a complete reply makes it ambiguous. -/
def feedByte (r : FeedbackReader) (byte : Byte) : FeedbackReader × Bool :=
  if r.replyReady then (r.fail .ambiguous, false)
  else
    let r := { r with receivedBytes := r.receivedBytes + 1 }
    match r.parser.push byte with
    | (parser, .statusError) => ({ r with parser }.fail .status, false)
    | (parser, result) => ({ r with parser, replyReady := result == .frameReady }, true)

def feedBytes (r : FeedbackReader) : List Byte → FeedbackReader × Bool
  | [] => (r, true)
  | byte :: bytes =>
    match r.feedByte byte with
    | (r, false) => (r, false)
    | (r, true) => feedBytes r bytes

def feed (r : FeedbackReader) (token : Tick) (bytes : List Byte) (nowMs : Tick) :
    FeedbackReader × Bool :=
  if !r.outstanding token then (r, false)
  else
    let r := r.poll nowMs
    if r.fault != .ok then (r, false)
    else if maximumReply - r.receivedBytes < bytes.length then (r.fail .overflow, false)
    else
      match r.feedBytes bytes with
      | (r, false) => (r, false)
      | (r, true) =>
        if r.receivedBytes = maximumReply && !r.replyReady then (r.fail .overflow, false)
        else (r, true)

/-- Sign and magnitude, the sign in bit `signBit`. -/
def signedWord (data : List Byte) (offset signBit : Nat) : Int :=
  let word := readU16Le data offset
  let magnitude : Int := (word &&& ((1 <<< signBit) - 1)).toNat
  if word.getLsbD signBit then -magnitude else magnitude

/-- The telemetry registers, 56 to 70. -/
def telemetry (c : AxisFeedbackConfig) (sample : AxisSample) (data : List Byte) : AxisSample :=
  { sample with
    positionRaw := signedWord data 0 15
    velocityRaw := signedWord data 2 15 * c.velocityDirection
    loadRaw := signedWord data 4 10
    currentRaw := signedWord data 13 15
    voltageRaw := data.getD 6 0
    temperature := data.getD 7 0
    moving := data.getD 10 0 }

/-- The device reports something out of its limits. -/
def deviceFault (c : AxisFeedbackConfig) (sample : AxisSample) (data : List Byte) : Bool :=
  sample.voltageRaw < c.minimumVoltageRaw || c.maximumVoltageRaw < sample.voltageRaw ||
    c.maximumTemperature < sample.temperature || 1 < sample.moving ||
    (c.maximumCurrentRaw.toNat : Int) < sample.currentRaw ||
    sample.currentRaw < -(c.maximumCurrentRaw.toNat : Int) || data.getD 5 0 &&& 0xF8 != 0

/-- The query is answered: its axis has a new record, and the next one is asked. -/
def settle (r : FeedbackReader) (sample : AxisSample) : FeedbackReader :=
  { r with
    axes := Function.update r.axes r.axis sample
    active := false
    replyReady := false
    cursor := r.axis + 1 }

def commitMode (r : FeedbackReader) (data : List Byte) : FeedbackReader × Bool :=
  if data.getD 0 0 != 1 then (r.fail .mode, false)
  else (r.settle { r.axes r.axis with modeMs := r.startedMs, modeVerified := true }, true)

/-- The samples of an axis come in the order of their queries. -/
def inOrder (sample : AxisSample) (startedMs : Tick) : Bool :=
  !sample.valid ||
    !(startedMs - sample.observedMs == 0 || halfClock ≤ startedMs - sample.observedMs)

def commitSample (r : FeedbackReader) (data : List Byte) : FeedbackReader × Bool :=
  let c := r.config.axes r.axis
  let sample := telemetry c (r.axes r.axis) data
  if deviceFault c sample data then (r.fail .device, false)
  else if !inOrder sample r.startedMs then (r, false)
  else
    ({ r with dirty := Function.update r.dirty r.axis true }.settle
      { sample with observedMs := r.startedMs, valid := true }, true)

def commit (r : FeedbackReader) (token nowMs : Tick) (txDone quiet : Bool) :
    FeedbackReader × Bool :=
  if !r.outstanding token then (r, false)
  else
    let r := r.poll nowMs
    if r.fault != .ok || !r.replyReady || !txDone || !quiet then (r, false)
    else
      match r.parser.data with
      -- a ready reply has its data
      | none => (r, false)
      | some data => if r.readingMode then r.commitMode data else r.commitSample data

/-! ## 5. Publishing -/

def age (r : FeedbackReader) (nowMs : Tick) (axis : Axis) : Tick :=
  nowMs - (r.axes axis).observedMs

def larger (a b : Tick) : Tick := if a < b then b else a

def smaller (a b : Tick) : Tick := if b < a then b else a

def oldestAge (r : FeedbackReader) (nowMs : Tick) : Tick :=
  (List.finRange 4).foldl (fun oldest axis => larger oldest (r.age nowMs axis)) 0

def youngestAge (r : FeedbackReader) (nowMs : Tick) : Tick :=
  (List.finRange 4).foldl (fun youngest axis => smaller youngest (r.age nowMs axis)) 0xFFFFFFFF

/-- The lift's evidence, unless there is none or it is too old. -/
def recentLift (r : FeedbackReader) (lift : Option LiftEvidence) (nowMs : Tick) :
    Option LiftEvidence :=
  lift.filter fun lift => recent lift.observedMs nowMs r.config.sampleTimeoutMs

def liftFit (r : FeedbackReader) (lift : Option LiftEvidence) (nowMs : Tick) : Bool :=
  match r.recentLift lift nowMs with
  | none => false
  | some lift => lift.homed && lift.hardwareOk

/-- The feedback is as old as the oldest of what it is made of. -/
def gather (r : FeedbackReader) (lift : Option LiftEvidence) (nowMs : Tick) : MobileFeedback :=
  match r.recentLift lift nowMs with
  | none =>
    { observedMs := nowMs - r.oldestAge nowMs
      velocityRaw := fun axis => (r.axes axis).velocityRaw
      liftPositionUm := 0
      velocityModesVerified := true
      liftHomed := false
      hardwareOk := false }
  | some lift =>
    { observedMs := nowMs - larger (r.oldestAge nowMs) (nowMs - lift.observedMs)
      velocityRaw := fun axis => (r.axes axis).velocityRaw
      liftPositionUm := lift.positionUm
      velocityModesVerified := true
      liftHomed := lift.homed
      hardwareOk := lift.hardwareOk }

def publish (r : FeedbackReader) (lift : Option LiftEvidence) (nowMs : Tick) :
    FeedbackReader × Bool :=
  if !r.configured then (r, false)
  else
    let r := r.poll nowMs
    let r := if r.liftFit lift nowMs then r else r.invalidate.pollSupervisor nowMs
    if r.fault != .ok || !decide (∀ axis, r.dirty axis = true) || !r.swept then (r, false)
    else if r.config.maximumSampleSkewMs < r.oldestAge nowMs - r.youngestAge nowMs then
      (r.invalidate.pollSupervisor nowMs, false)
    else
      match r.supervisor.observe (r.gather lift nowMs) nowMs with
      | (supervisor, false) => ({ r with supervisor }, false)
      | (supervisor, true) => ({ r with supervisor, dirty := fun _ => false }, true)

/-! ## 6. Recovery -/

def failTransport (r : FeedbackReader) : FeedbackReader := r.fail .transport

def reset (r : FeedbackReader) (quiet stopped : Bool) : FeedbackReader × Bool :=
  if !r.configured || !quiet || !stopped || r.supervisor.state = .ready ||
      r.supervisor.state = .active then (r, false)
  else
    ({ r with
        axes := fun _ => AxisSample.blank
        active := false
        replyReady := false
        dirty := fun _ => false
        cursor := 0
        fault := .ok
        supervisor := { r.supervisor.invalidate with haveFeedback := false } }, true)

end FeedbackReader

end MobileBimanual.Mobile
