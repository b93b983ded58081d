/-
# The driver of the base

`MobileBaseDriver` of `base_driver.py` with the kinematics and the odometry of `base_motion.py`:
twists come in, wheel rates go out to the mobile client.

Each tick slews the wheels towards the newest command by at most what the acceleration allows for
the cycle, rounds to counts, lets the guard check what the board will receive, and sends it with a
lifetime.  What the clock, the client, the evidence and the guard answer is handed in, and each may
raise instead.
-/
import Mathlib.Data.Fin.VecNotation
import Mathlib.Data.Rat.Floor
import MobileBimanual.Lib.Slew
import MobileBimanual.Tasks.Data

namespace MobileBimanual.Tasks

/-! ## 1. Kinematics -/

/-- Three wheels, or the three components of a twist or of a pose. -/
abbrev Motion := Fin 3 → ℚ

namespace Motion

def dot (a b : Motion) : ℚ := a 0 * b 0 + a 1 * b 1 + a 2 * b 2

def cross (a b : Motion) : Motion :=
  ![a 1 * b 2 - a 2 * b 1, a 2 * b 0 - a 0 * b 2, a 0 * b 1 - a 1 * b 0]

/-- `_vector`. -/
def motion (values : Motion) : Except Raised Motion := do
  let x ← number "motion component" (.finite (values 0))
  let y ← number "motion component" (.finite (values 1))
  let z ← number "motion component" (.finite (values 2))
  return ![x, y, z]

end Motion

/-- The rolling directions of the wheels over their radii, as the geometry gives them. -/
structure OmniKinematics where
  rows : Fin 3 → Motion
  regular : (rows 0).dot ((rows 1).cross (rows 2)) ≠ 0

namespace OmniKinematics

def determinant (k : OmniKinematics) : ℚ := (k.rows 0).dot ((k.rows 1).cross (k.rows 2))

def inverseColumns (k : OmniKinematics) : Fin 3 → Motion :=
  ![fun i => (k.rows 1).cross (k.rows 2) i / k.determinant,
    fun i => (k.rows 2).cross (k.rows 0) i / k.determinant,
    fun i => (k.rows 0).cross (k.rows 1) i / k.determinant]

/-- One factor for all wheels keeps them within their limits. -/
def wheelRates (k : OmniKinematics) (twist limits : Motion) : Except Raised Motion := do
  let values ← Motion.motion twist
  let limits ← Motion.motion limits
  if ∃ i, limits i ≤ 0 then .error (invalidTask "positive wheel speed limits required")
  else
    let rates : Motion := fun i => (k.rows i).dot values
    let scale := max 1 (max (|rates 0| / limits 0) (max (|rates 1| / limits 1) (|rates 2| / limits 2)))
    return fun i => rates i / scale

def bodyTwist (k : OmniKinematics) (measured : Motion) : Except Raised Motion := do
  let values ← Motion.motion measured
  return fun i => k.inverseColumns 0 i * values 0 + k.inverseColumns 1 i * values 1 +
    k.inverseColumns 2 i * values 2

end OmniKinematics

structure WheelOdometry where
  pose : Motion
  previous : Option (ℚ × Motion)
  discontinuities : ℕ
  lastStamp : Option ℚ

/-- `WheelOdometry.observe`; `integrate` is the pose after a twist was held for a time. -/
def WheelOdometry.observe (w : WheelOdometry) (k : OmniKinematics) (maxGap : ℚ)
    (integrate : Motion → Motion → ℚ → Motion) (measured : Motion) (observed : ℚ) :
    WheelOdometry × Except Raised Unit :=
  match (do
    let stamp ← seconds "observed_s" (.finite observed)
    let twist ← k.bodyTwist measured
    if w.lastStamp.any (stamp ≤ ·) then
      .error (invalidTask "odometry observation must advance")
    else return (stamp, twist)) with
  | .error raised => (w, .error raised)
  | .ok (stamp, twist) =>
    match w.previous with
    | none => ({ w with previous := some (stamp, twist), lastStamp := some stamp }, .ok ())
    | some (last, held) =>
      if stamp - last ≤ 0 then (w, .error (invalidTask "odometry observation must advance"))
      else if stamp - last > maxGap then
        ({ w with
            previous := none
            discontinuities := w.discontinuities + 1
            lastStamp := some stamp }, .error (invalidTask "odometry_feedback_gap"))
      else
        ({ w with
            pose := integrate w.pose held (stamp - last)
            previous := some (stamp, twist)
            lastStamp := some stamp }, .ok ())

/-! ## 2. The driver -/

structure BaseProfile where
  rawPerRad : Motion
  maximumWheel : Motion
  maximumAcceleration : Motion
  maximumCommandAge : ℚ
  maximumFeedbackAge : ℚ
  maximumCycle : ℚ
  positive : ∀ i, 0 < rawPerRad i ∧ 0 < maximumWheel i ∧ 0 < maximumAcceleration i
  wire : ∀ i, rawPerRad i * maximumWheel i ≤ 32767
  budgets : (0 < maximumCommandAge ∧ maximumCommandAge ≤ 1 / 2) ∧
    (0 < maximumFeedbackAge ∧ maximumFeedbackAge ≤ 1 / 2) ∧
    0 < maximumCycle ∧ maximumCycle ≤ 1 / 2

namespace BaseProfile

/-- The steps of the wheels that the acceleration allows. -/
def stepsFor (p : BaseProfile) (cycle : ℚ) : Motion := fun i =>
  p.maximumAcceleration i * cycle

/-- The counts after one step from the rates towards the target. -/
def counts (p : BaseProfile) (rates target : Motion) (cycle : ℚ) : Fin 3 → ℤ := fun i =>
  Slew.roundEven (Slew.slewed rates target (p.stepsFor cycle) i * p.rawPerRad i)

/-- The rates that counts stand for. -/
def ratesOf (p : BaseProfile) (raw : Fin 3 → ℤ) : Motion := fun i =>
  (raw i : ℚ) / p.rawPerRad i

end BaseProfile

structure BaseObservation where
  observed : ℚ
  pose : Motion
  twist : Motion
  bootId : ℤ
  feedbackTick : ℤ

/-- What the client reports; `ready` is its own `ready_for_motion`. -/
structure BaseStatus where
  ready : Bool
  bootId : ℤ
  feedbackTick : ℤ
  mcuTick : ℤ
  velocityRaw : Fin 3 → ℤ

structure TravelEvidence where
  observed : ℚ
  epoch : String
  ready : Bool
  localized : Bool
  envelopeClear : Bool

structure BaseDriver where
  geometry : OmniKinematics
  profile : BaseProfile
  odometry : WheelOdometry
  owner : Option String
  source : Option String
  epoch : Option String
  /-- Its stamp and its twist. -/
  command : Option (ℚ × Motion)
  granted : Option ℚ
  lastCycle : Option ℚ
  /-- The last tick of the wheels, and when that was. -/
  feedback : Option (ℤ × ℚ)
  observation : Option BaseObservation
  lastRates : Motion
  fault : Option String
  stopError : Option String
  braking : Bool

namespace BaseDriver

def init (geometry : OmniKinematics) (profile : BaseProfile) : BaseDriver where
  geometry
  profile
  odometry := ⟨0, none, 0, none⟩
  owner := none
  source := none
  epoch := none
  command := none
  granted := none
  lastCycle := none
  feedback := none
  observation := none
  lastRates := 0
  fault := none
  stopError := none
  braking := false

/-- A fault with a text; one without counts for none. -/
def faulted (s : BaseDriver) : Bool := s.fault.any (· ≠ "")

/-- `_fault`: the owner is kept. -/
def fail (s : BaseDriver) (reason : String) (stop : Except Raised Unit) : BaseDriver where
  __ := s
  fault := if s.faulted then s.fault else some reason
  command := none
  stopError :=
    match stop with
    | .error raised => some raised.text
    | .ok () => s.stopError

/-- What Python says where nothing stands for a number. -/
def noNumber : Raised := ⟨"TypeError", "unsupported operand type(s) for 'NoneType' and 'float'"⟩

/-! ## 3. Ownership and commands -/

structure AcquireCall where
  owner : String
  source : String
  epoch : String
  session : Option ℤ
  clock : Except Raised ℚ

def checkAcquire (s : BaseDriver) (c : AcquireCall) : Except Raised (String × String) := do
  if s.owner ≠ none ∨ s.faulted ∨ c.session = none then
    .error (invalidTask "base requires unowned prepared session")
  else if ¬ (1 ≤ c.owner.length ∧ c.owner.length ≤ 256) ∨ c.owner.toList.any (·.toNat < 32) then
    .error (invalidTask "invalid base owner")
  else do
    let source ← identifier "base authority" c.source
    let epoch ← identifier "base authority" c.epoch
    return (source, epoch)

/-- The clock at the grant. -/
def AcquireCall.grant (c : AcquireCall) : Except Raised ℚ := do
  let now ← c.clock
  number "grant time" (.finite now)

def acquire (s : BaseDriver) (c : AcquireCall) : BaseDriver × Except Raised Unit :=
  match s.checkAcquire c with
  | .error raised => (s, .error raised)
  | .ok (source, epoch) =>
    let s := { s with
      owner := some c.owner, source := some source, epoch := some epoch, braking := false }
    match c.grant with
    -- The owner stays, and so does what the one before left behind.
    | .error raised => (s, .error raised)
    | .ok granted =>
      ({ s with
          granted := some granted
          command := none
          lastCycle := some granted
          lastRates := 0 }, .ok ())

structure SubmitCall where
  twist : List Scalar
  observed : Scalar
  owner : String
  source : String
  epoch : String
  clock : Except Raised ℚ
  stop : Except Raised Unit

def checkSubmit (s : BaseDriver) (c : SubmitCall) : Except Raised (ℚ × Motion) := do
  let now ← c.clock
  if s.faulted ∨ s.owner = none ∨
      (some c.owner, some c.source, some c.epoch) ≠ (s.owner, s.source, s.epoch) then
    .error (invalidTask "base command has no current owner")
  else do
    let stamp ← number "command acquisition time" c.observed
    let values ← c.twist.mapM (number "SI twist")
    match values with
    | [x, y, z] =>
      if ¬ (0 ≤ now - stamp ∧ now - stamp ≤ s.profile.maximumCommandAge) then
        .error (invalidTask "stale, replayed or invalid base command")
      else
        match s.granted with
        | none => .error noNumber
        | some granted =>
          if stamp ≤ granted ∨ s.command.any (stamp ≤ ·.1) then
            .error (invalidTask "stale, replayed or invalid base command")
          else if s.braking ∧ (x ≠ 0 ∨ y ≠ 0 ∨ z ≠ 0) then
            .error (invalidTask "navigation completed; only stop commands accepted")
          else return (stamp, ![x, y, z])
    | _ => .error (invalidTask "stale, replayed or invalid base command")

def submit (s : BaseDriver) (c : SubmitCall) : BaseDriver × Except Raised Unit :=
  match s.checkSubmit c with
  | .ok command => ({ s with command := some command }, .ok ())
  | .error raised =>
    (if s.owner ≠ none then s.fail raised.text c.stop else s, .error raised)

def release (s : BaseDriver) (stopConfirmed : Bool) : BaseDriver × Except Raised Unit :=
  if stopConfirmed then
    ({ s with owner := none, source := none, epoch := none, command := none }, .ok ())
  else (s, .error (invalidTask "independent whole-stop confirmation required"))

/-! ## 4. The tick -/

/-- What is answered in a tick, in the order in which it is asked for. -/
structure TickAnswers where
  session : Option ℤ
  now : Except Raised ℚ
  sent : Except Raised ℚ
  status : Except Raised BaseStatus
  received : Except Raised ℚ
  planned : Except Raised ℚ
  evidence : Except Raised TravelEvidence
  /-- `check`, of the twist that is applied, the measured one, the pose, the evidence and the time. -/
  guard : Motion → Motion → Motion → TravelEvidence → ℚ → Except Raised Unit
  checked : Except Raised ℚ
  /-- Whether the acknowledgement is ready for motion. -/
  velocity : Except Raised Bool
  stop : Except Raised Unit

/-- When the wheels were measured, and whether they were measured before: nothing for a new sample. -/
def checkFeedback (s : BaseDriver) (a : TickAnswers) :
    Except Raised (BaseStatus × ℚ × Option BaseObservation) := do
  let sent ← a.sent
  let status ← a.status
  let received ← a.received
  if received < sent ∨ received - sent > s.profile.maximumCycle ∨ ¬ status.ready then
    .error (invalidTask "mobile feedback unhealthy, unowned or late")
  else if s.observation.any (status.bootId ≠ ·.bootId) then
    .error (invalidTask "mobile device restarted")
  else
    let ticks : ℤ := (status.mcuTick - status.feedbackTick) % 2 ^ 32
    let oldest := sent - (ticks : ℚ) / 1000
    match s.feedback with
    | none =>
      if 0 ≤ received - oldest ∧ received - oldest ≤ s.profile.maximumFeedbackAge then
        return (status, oldest, none)
      else .error (invalidTask "wheel sample aged during transport")
    | some (tick, time) =>
      let delta : ℤ := (status.feedbackTick - tick) % 2 ^ 32
      if delta = 0 then
        if received - time > s.profile.maximumFeedbackAge then
          .error (invalidTask "repeated wheel sample expired")
        else
          match s.observation with
          | none => .error ⟨"AttributeError", "'NoneType' object has no attribute 'twist'"⟩
          | some observation => return (status, time, some observation)
      else if delta ≥ 2 ^ 31 then .error (invalidTask "wheel acquisition clock regressed")
      else
        let stamp := min oldest (time + (delta : ℚ) / 1000)
        if 0 ≤ received - stamp ∧ received - stamp ≤ s.profile.maximumFeedbackAge then
          return (status, stamp, none)
        else .error (invalidTask "wheel sample aged during transport")

variable (integrate : Motion → Motion → ℚ → Motion)

/-- A new sample of the wheels. -/
def measure (s : BaseDriver) (status : BaseStatus) (stamp : ℚ) :
    BaseDriver × Except Raised BaseObservation :=
  let rates : Motion := fun i => (status.velocityRaw i : ℚ) / s.profile.rawPerRad i
  if ∃ i, |rates i| > s.profile.maximumWheel i * (12 / 10) then
    (s, .error (invalidTask "measured wheel speed outside profile"))
  else
    let (odometry, result) := s.odometry.observe s.geometry s.profile.maximumFeedbackAge
      integrate rates stamp
    match (do
      let () ← result
      s.geometry.bodyTwist rates) with
    | .error raised => ({ s with odometry }, .error raised)
    | .ok twist =>
      let observation := ⟨stamp, odometry.pose, twist, status.bootId, status.feedbackTick⟩
      ({ s with
          odometry
          feedback := some (status.feedbackTick, stamp)
          observation := some observation }, .ok observation)

def observe (s : BaseDriver) (a : TickAnswers) : BaseDriver × Except Raised BaseObservation :=
  match s.checkFeedback a with
  | .error raised => (s, .error raised)
  | .ok (_, _, some observation) => (s, .ok observation)
  | .ok (status, stamp, none) => s.measure integrate status stamp

/-- The time of the cycle, and how long it took. -/
def checkCycle (s : BaseDriver) (a : TickAnswers) : Except Raised (ℚ × ℚ) := do
  let now ← a.now
  match s.lastCycle with
  | none => .error noNumber
  | some last =>
    if 0 < now - last ∧ now - last ≤ s.profile.maximumCycle then return (now, now - last)
    else .error (invalidTask "base control cycle missed")

/-- The twist that is asked for, and since when: that of the command, or none since the grant. -/
def requested (s : BaseDriver) (now : ℚ) : Except Raised (ℚ × Motion) :=
  match s.command with
  | some command =>
    if 0 ≤ now - command.1 ∧ now - command.1 ≤ s.profile.maximumCommandAge then .ok command
    else .error (invalidTask "base command expired")
  | none =>
    match s.granted with
    | none => .error noNumber
    | some granted =>
      if now - granted > s.profile.maximumCommandAge then
        .error (invalidTask "first base command timed out")
      else .ok (granted, 0)

/-- What the client is handed; the fourth rate is zero. -/
structure Sending where
  raw : Fin 3 → ℤ
  lifetimeMs : ℤ

/-- All of a tick from the observation to the call of the client. -/
def plan (s : BaseDriver) (a : TickAnswers) (now cycle : ℚ) (observation : BaseObservation) :
    Except Raised Sending := do
  let planned ← a.planned
  let (since, twist) ← s.requested planned
  let target ← s.geometry.wheelRates twist s.profile.maximumWheel
  let raw := s.profile.counts s.lastRates target cycle
  -- What is checked is what the board will receive.
  let applied ← s.geometry.bodyTwist (s.profile.ratesOf raw)
  let evidence ← a.evidence
  if some evidence.epoch ≠ s.epoch then
    .error (invalidTask "travel mode changed under base owner")
  else do
    let () ← a.guard applied observation.twist observation.pose evidence planned
    let checked ← a.checked
    if checked - now > s.profile.maximumCycle then
      .error (invalidTask "base control processing deadline missed")
    else
      let lifetime := min 200 ⌊(s.profile.maximumCommandAge - (checked - since)) * 1000⌋
      if lifetime < 1 then .error (invalidTask "base command expired during observation")
      else return ⟨raw, lifetime⟩

/-- A tick of the owner: the driver after it, what the client was handed, and what is returned. -/
def tickOwned (s : BaseDriver) (a : TickAnswers) :
    BaseDriver × Option Sending × Option BaseObservation :=
  match s.checkCycle a with
  | .error raised => (s.fail raised.text a.stop, none, none)
  | .ok (now, cycle) =>
    match observe integrate { s with lastCycle := some now } a with
    | (s, .error raised) => (s.fail raised.text a.stop, none, none)
    | (s, .ok observation) =>
      match s.plan a now cycle observation with
      | .error raised => (s.fail raised.text a.stop, none, none)
      | .ok sending =>
        match a.velocity with
        | .error raised => (s.fail raised.text a.stop, some sending, none)
        | .ok false =>
          (s.fail "mobile command acknowledgement not active" a.stop, some sending, none)
        | .ok true =>
          ({ s with lastRates := s.profile.ratesOf sending.raw }, some sending,
            some observation)

def tick (s : BaseDriver) (a : TickAnswers) :
    BaseDriver × Option Sending × Option BaseObservation :=
  if s.faulted then (s.fail (s.fault.getD "") a.stop, none, none)
  else if s.owner ≠ none then s.tickOwned integrate a
  else if a.session = none then (s, none, none)
  else
    match s.observe integrate a with
    | (s, .error raised) => (s.fail raised.text a.stop, none, none)
    | (s, .ok observation) => (s, none, some observation)

end BaseDriver

end MobileBimanual.Tasks
