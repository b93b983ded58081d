/-
# The mobile output

`mobile_output.c` in full: the owner of the router, the schedule, the supervisor and, once it is
bound, the lift endpoint.  A poll turns the supervisor's target, or the lift's command, into
WHEELS and LIFT velocity jobs when they are due; anything that goes wrong requests a stop, which
empties the router's normal slots and queues the STOP packet, and which only `rearm` takes back.

The source holds pointers to the supervisor and to the lift endpoint; here the record holds them,
and `liftBound` says whether the pointer to the endpoint is set.  `ids` are the identifiers the
build was made with.
-/
import MobileBimanual.Bus.Fence
import MobileBimanual.Bus.Schedule
import MobileBimanual.Mobile.LiftEndpoint
import MobileBimanual.Mobile.Packet

namespace MobileBimanual.Mobile

open MobileBimanual.Stream (Byte Tick)
open MobileBimanual.Bus

/-! ## 1. The record -/

inductive OutputFault where
  | ok
  | schedule
  | queue
  | transport
  | commandExpiring
  deriving DecidableEq

structure MobileOutputConfig where
  schedule : ScheduleConfig
  wheelsBudgetUs : Tick
  liftBudgetUs : Tick
  stopBudgetUs : Tick
  jobLifetimeUs : Tick
  velocityDirection : Axis → Int

structure MobileOutput where
  supervisor : MobileSupervisor
  config : MobileOutputConfig
  schedule : Schedule
  router : Router
  fault : OutputFault
  configured : Bool
  stopRequested : Bool
  stopWritten : Bool
  feedbackDue : Bool
  availableUs : Tick
  writesCompleted : Tick
  stopWrittenMs : Tick
  liftBound : Bool
  endpoint : LiftEndpoint
  liftEngaged : Bool

namespace MobileOutput

/-! ## 2. Starting -/

def configOk (c : MobileOutputConfig) : Bool :=
  let window := c.schedule.armPeriodUs - c.schedule.armReservedUs - c.schedule.guardUs
  decide (∀ axis, c.velocityDirection axis = 1 ∨ c.velocityDirection axis = -1) &&
    c.wheelsBudgetUs != 0 && c.liftBudgetUs != 0 && c.stopBudgetUs != 0 &&
    c.wheelsBudgetUs ≤ window && c.liftBudgetUs ≤ window && c.stopBudgetUs < halfCircle &&
    c.wheelsBudgetUs < c.jobLifetimeUs && c.liftBudgetUs < c.jobLifetimeUs &&
    c.stopBudgetUs < c.jobLifetimeUs && c.jobLifetimeUs ≤ 1000000

/-- The endpoint stands beside the output until `bindLift`. -/
def init (supervisor : MobileSupervisor) (endpoint : LiftEndpoint) (config : MobileOutputConfig)
    (epochUs : Tick) : Option MobileOutput :=
  if !supervisor.configured || supervisor.state != .disabled || !configOk config then none
  else
    (Schedule.init config.schedule epochUs).map fun schedule =>
      { supervisor
        config
        schedule
        router := Router.init
        fault := .ok
        configured := true
        stopRequested := false
        stopWritten := false
        feedbackDue := false
        availableUs := 0
        writesCompleted := 0
        stopWrittenMs := 0
        liftBound := false
        endpoint
        liftEngaged := false }

def bindLift (o : MobileOutput) : MobileOutput × Bool :=
  if !o.configured || o.liftBound || o.supervisor.state != .disabled || o.endpoint.active ||
      o.supervisor.config.maxVelocityRaw liftAxis < o.endpoint.lift.config.maximumSpeedRaw then
    (o, false)
  else ({ o with liftBound := true }, true)

/-! ## 3. Stopping -/

/-- The first fault stays on record. -/
def noteFault (o : MobileOutput) (fault : OutputFault) : MobileOutput :=
  { o with fault := if o.fault = .ok then fault else o.fault }

/-- The router's part of a stop.  The bus is not asked for a STOP that was written already. -/
def stopRouter (r : Router) (stopWritten : Bool) : Router :=
  let r := r.inhibit
  (if stopWritten then r else r.requestStop).flush

def stop (o : MobileOutput) (fault : OutputFault) : MobileOutput :=
  if !o.configured then o
  else
    { o.noteFault fault with
      supervisor := o.supervisor.stop
      stopRequested := true
      endpoint := if o.liftBound then o.endpoint.stop else o.endpoint
      router := stopRouter o.router o.stopWritten }

/-- The STOP packet tells the four axes to stand still. -/
def zeroServos (ids : MobileIds) : List (Byte × Word) :=
  [(ids.servo 0, 0), (ids.servo 1, 0), (ids.servo 2, 0), (ids.servo 3, 0)]

def queueStop (ids : MobileIds) (o : MobileOutput) (nowUs : Tick) : MobileOutput :=
  if o.stopWritten || (o.router.jobs .stop).pending ||
      (o.router.bus.active && o.router.bus.owner == .stop) then o
  else
    match buildSyncWriteWords velocityAddress (zeroServos ids) with
    | .error _ => o.noteFault .queue
    | .ok packet =>
      match o.router.submitWork .stop packet nowUs (nowUs + o.config.jobLifetimeUs)
          o.config.stopBudgetUs with
      | (router, true) => { o with router }
      | (router, false) => { o with router }.noteFault .queue

/-- How a poll ends that has to stop. -/
def halt (ids : MobileIds) (o : MobileOutput) (fault : OutputFault) (nowUs : Tick) : MobileOutput :=
  queueStop ids (o.stop fault) nowUs

/-! ## 4. Polling -/

/-- A slot's deadline is looked at even while the bus is taken: an expired job is dropped, and
a stop requested unless it was the STOP. -/
def sweepJob (nowUs : Tick) (o : MobileOutput) (kind : Work) : MobileOutput :=
  if !(o.router.jobs kind).expired nowUs then o
  else
    let r := o.router.drop kind
    let o :=
      { o with
        router :=
          { r with
            expiredJobs :=
              if r.expiredJobs = 0xFFFFFFFF then r.expiredJobs else r.expiredJobs + 1 } }
    if kind = .stop then o else o.stop .queue

def sweep (o : MobileOutput) (nowUs : Tick) : MobileOutput :=
  [Work.stop, .arm, .wheels, .lift, .feedback].foldl (sweepJob nowUs) o

/-- The schedule is aligned to the arm's epoch and polled. -/
def align (o : MobileOutput) (nowUs armEpochUs : Tick) : MobileOutput × Window :=
  let phase := nowUs - armEpochUs
  let period := o.config.schedule.armPeriodUs
  let o := if period ≤ phase then o.stop .schedule else o
  let schedule :=
    if phase < period then
      { o.schedule with
        phaseUs := (phase + period - (nowUs - o.schedule.lastPollUs) % period) % period }
    else o.schedule
  let (schedule, window) := schedule.poll nowUs
  ({ o with schedule }, window)

/-- What else stops the output before it drives. -/
def supervise (o : MobileOutput) (window : Window) : MobileOutput :=
  let o := if window.stopRequired then o.stop .schedule else o
  let o :=
    if o.router.bus.faulted || (!o.stopRequested && (o.router.inhibited || o.router.bus.stopPending))
    then o.stop .transport
    else o
  if o.supervisor.state = .stopLatched && !o.stopRequested then o.stop .ok else o

def liftActive (o : MobileOutput) : Bool := o.liftBound && o.endpoint.active

/-- The lift came to hold, with a zero sent and a fresh sample. -/
def liftHeld (o : MobileOutput) (nowMs : Tick) : Bool :=
  let l := o.endpoint.lift
  l.state = .holding && l.zeroSent && l.commandRaw == 0 && l.haveSample &&
    nowMs - l.observedMs < l.config.feedbackTimeoutMs

/-- A normal end of a lift movement discards what is queued. -/
def disengage (o : MobileOutput) : MobileOutput :=
  { o with router := (o.router.drop .wheels).drop .lift, liftEngaged := false }

/-- A deadline in milliseconds, a millisecond short, as a bound on a lifetime in microseconds. -/
def cap (lifetimeUs remainingMs : Tick) : Tick :=
  if (remainingMs.toNat - 1) * 1000 < lifetimeUs.toNat then
    BitVec.ofNat 32 ((remainingMs.toNat - 1) * 1000)
  else lifetimeUs

/-- The velocity of an axis in the motor's own direction. -/
def motorVelocity (o : MobileOutput) (lifting : Bool) (axis : Axis) : Int :=
  if !lifting then o.supervisor.targetRaw axis * o.config.velocityDirection axis
  else if axis = liftAxis then
    o.endpoint.lift.commandRaw * o.config.velocityDirection liftAxis
  else 0

/-- The two velocity jobs: kind, group, its velocities and budget. -/
structure VelocityJob where
  kind : Work
  group : MotorGroup
  velocities : List Int
  budgetUs : Tick

def wheelsJob (o : MobileOutput) (lifting : Bool) : VelocityJob where
  kind := .wheels
  group := .baseWheels
  velocities := [o.motorVelocity lifting 0, o.motorVelocity lifting 1, o.motorVelocity lifting 2]
  budgetUs := o.config.wheelsBudgetUs

def liftJob (o : MobileOutput) (lifting : Bool) : VelocityJob where
  kind := .lift
  group := .lift
  velocities := [o.motorVelocity lifting liftAxis]
  budgetUs := o.config.liftBudgetUs

/-- A job that cannot be queued stops the output. -/
def queueJob (ids : MobileIds) (o : MobileOutput) (job : VelocityJob) (lifetimeUs nowUs : Tick) :
    MobileOutput × Bool :=
  if lifetimeUs ≤ job.budgetUs then (halt ids o .queue nowUs, false)
  else
    match motorGroupVelocities ids job.group job.velocities with
    | .error _ => (halt ids o .queue nowUs, false)
    | .ok packet =>
      match o.router.submitWork job.kind packet nowUs (nowUs + lifetimeUs) job.budgetUs with
      | (router, true) => ({ o with router }, true)
      | (router, false) => (halt ids { o with router } .queue nowUs, false)

/-- The wheels first, then the lift; the first that fails ends it. -/
def queueDue (ids : MobileIds) (o : MobileOutput) (window : Window) (lifting : Bool)
    (lifetimeUs nowUs : Tick) : MobileOutput :=
  let wheels := o.wheelsJob lifting
  let lift := o.liftJob lifting
  let (o, go) := if window.due .wheels then queueJob ids o wheels lifetimeUs nowUs else (o, true)
  if go && window.due .lift then (queueJob ids o lift lifetimeUs nowUs).1 else o

/-- How long the jobs of this poll may live, or none if the command is about to run out. -/
def commandLife (o : MobileOutput) (nowMs : Tick) : Option Tick :=
  if o.supervisor.state = .active then
    let remaining := o.supervisor.commandValidForMs - (nowMs - o.supervisor.commandMs)
    if remaining ≤ 1 then none else some (cap o.config.jobLifetimeUs remaining)
  else some o.config.jobLifetimeUs

def leaseLife (o : MobileOutput) (lifting : Bool) (lifetimeUs nowMs : Tick) : Option Tick :=
  if lifting then
    let remaining := o.endpoint.validUntilMs - nowMs
    if remaining ≤ 1 then none else some (cap lifetimeUs remaining)
  else some lifetimeUs

/-- The end of a poll that drives. -/
def command (ids : MobileIds) (o : MobileOutput) (window : Window) (lifting : Bool)
    (nowUs nowMs : Tick) : MobileOutput :=
  if !lifting && o.supervisor.state != .ready && o.supervisor.state != .active then o
  else
    match (o.commandLife nowMs).bind fun lifetime => o.leaseLife lifting lifetime nowMs with
    | none => halt ids o .commandExpiring nowUs
    | some lifetime => queueDue ids o window lifting lifetime nowUs

/-- The lift's lease is polled; one that ended, or that meets a driving base, stops the output. -/
def lead (ids : MobileIds) (o : MobileOutput) (window : Window) (nowUs nowMs : Tick) :
    MobileOutput :=
  if o.liftActive then
    let o := { o with liftEngaged := true, endpoint := o.endpoint.poll nowMs }
    if !o.endpoint.active || o.supervisor.state = .active then halt ids o .transport nowUs
    else command ids o window true nowUs nowMs
  else command ids o window false nowUs nowMs

/-- A poll without a stop. -/
def drive (ids : MobileIds) (o : MobileOutput) (window : Window) (nowUs nowMs : Tick) :
    MobileOutput :=
  let o :=
    { o with availableUs := window.availableUs, feedbackDue := window.due .feedback }
  if o.liftEngaged && !o.liftActive then
    if o.liftHeld nowMs then lead ids o.disengage window nowUs nowMs
    else halt ids o .ok nowUs
  else lead ids o window nowUs nowMs

/-- What a poll looks at before it decides between stopping and driving. -/
def inspect (o : MobileOutput) (nowUs nowMs armEpochUs : Tick) : MobileOutput × Window :=
  let o :=
    { o with
      feedbackDue := false
      availableUs := 0
      supervisor := o.supervisor.poll nowMs
      router := o.router.poll nowUs }
  let (o, window) := (o.sweep nowUs).align nowUs armEpochUs
  (o.supervise window, window)

def poll (ids : MobileIds) (o : MobileOutput) (nowUs nowMs armEpochUs : Tick) : MobileOutput :=
  if !o.configured then o
  else
    let (o, window) := o.inspect nowUs nowMs armEpochUs
    if o.stopRequested then queueStop ids { o with supervisor := o.supervisor.stop } nowUs
    else drive ids o window nowUs nowMs

/-! ## 5. Completions and rearming -/

/-- The LIFT packet that stands the lift still. -/
def zeroLift (ids : MobileIds) (packet : List Byte) : Bool :=
  packet.length == 11 && packet.getD 5 0 == velocityAddress && packet.getD 7 0 == ids.liftId &&
    packet.getD 8 0 == 0 && packet.getD 9 0 == 0

/-- The STOP packet that does. -/
def zeroAll (ids : MobileIds) (packet : List Byte) : Bool :=
  packet.length == 20 && packet.getD 5 0 == velocityAddress && packet.getD 16 0 == ids.liftId &&
    packet.getD 17 0 == 0 && packet.getD 18 0 == 0

def sendsZero (ids : MobileIds) (kind : Work) (packet : List Byte) : Bool :=
  (kind = .lift && zeroLift ids packet) || (kind = .stop && zeroAll ids packet)

def writesStop (kind : Work) (packet : List Byte) : Bool :=
  kind = .stop && packet.length == 20 && packet.getD 5 0 == velocityAddress

def completed (ids : MobileIds) (o : MobileOutput) (kind : Work) (completedMs : Tick) :
    MobileOutput :=
  if !o.configured || o.router.bus.active || o.router.bus.faulted || kind != o.router.bus.owner
  then o
  else
    { o with
      endpoint :=
        if o.liftBound && sendsZero ids kind o.router.activeBytes then
          { o.endpoint with lift := o.endpoint.lift.markZeroSent completedMs }
        else o.endpoint
      writesCompleted :=
        if o.writesCompleted = 0xFFFFFFFF then o.writesCompleted else o.writesCompleted + 1
      stopWritten := writesStop kind o.router.activeBytes || o.stopWritten
      stopWrittenMs :=
        if writesStop kind o.router.activeBytes then completedMs else o.stopWrittenMs }

def rearmable (o : MobileOutput) (session nowMs : Tick) (wholeStopConfirmed : Bool) : Bool :=
  let proof := o.supervisor.feedback.observedMs - o.stopWrittenMs
  o.configured && wholeStopConfirmed && o.stopWritten && o.stopRequested &&
    !o.router.bus.active && !o.router.bus.faulted && !o.router.bus.stopPending &&
    !(o.router.jobs .stop).pending && o.supervisor.state = .stopLatched &&
    o.supervisor.measuredStopped nowMs && proof != 0 && proof < halfClock &&
    o.supervisor.session < session && session != 0

def rearm (o : MobileOutput) (session epochUs nowMs : Tick) (wholeStopConfirmed : Bool) :
    MobileOutput × Bool :=
  if !o.rearmable session nowMs wholeStopConfirmed then (o, false)
  else
    match Schedule.init o.config.schedule epochUs with
    | none => (o, false)
    | some schedule =>
      match o.router.resume true with
      | (router, false) => ({ o with router }, false)
      | (router, true) =>
        match o.supervisor.arm session nowMs with
        | (supervisor, false) => ({ o with router, supervisor }, false)
        | (supervisor, true) =>
          ({ o with
              router
              supervisor
              schedule
              stopRequested := false
              stopWritten := false
              fault := .ok
              liftEngaged := false }, true)

/-! ## 6. What a poll is made of -/

/-- A relation between an output and what becomes of it that the sweep of the slots and what
follows it keep. -/
structure Swept (now : Tick) (R : MobileOutput → MobileOutput → Prop) : Prop where
  refl : ∀ o, R o o
  trans : ∀ {o o' o''}, R o o' → R o' o'' → R o o''
  stop : ∀ o fault, R o (o.stop fault)
  /-- The slot of an expired job is emptied and the loss counted. -/
  drop : ∀ o kind expired, (o.router.jobs kind).expired now = true →
    R o { o with router := { o.router.drop kind with expiredJobs := expired } }
  schedule : ∀ o schedule, R o { o with schedule }

namespace Swept

variable {now : Tick} {R : MobileOutput → MobileOutput → Prop}

/-- A conditional stop. -/
theorem ite_stop (k : Swept now R) (c : Bool) (o : MobileOutput) (fault : OutputFault) :
    R o (if c then o.stop fault else o) := by
  cases c
  · exact k.refl o
  · exact k.stop o fault

open MobileOutput

theorem sweepJob (k : Swept now R) (o : MobileOutput) (kind : Work) :
    R o (sweepJob now o kind) := by
  unfold MobileOutput.sweepJob
  dsimp only
  split
  · exact k.refl o
  · rename_i hfound
    have hexpired : (o.router.jobs kind).expired now = true := by simpa using hfound
    split_ifs
    · exact k.drop o kind _ hexpired
    · exact k.drop o kind _ hexpired
    · exact k.trans (k.drop o kind _ hexpired) (k.stop _ .queue)
    · exact k.trans (k.drop o kind _ hexpired) (k.stop _ .queue)

theorem fold (k : Swept now R) : ∀ (l : List Work) (o : MobileOutput),
    R o (l.foldl (MobileOutput.sweepJob now) o) := by
  intro l
  induction l with
  | nil => exact k.refl
  | cons kind l ih => exact fun o => k.trans (k.sweepJob o kind) (ih _)

theorem align (k : Swept now R) (o : MobileOutput) (epoch : Tick) : R o (o.align now epoch).1 := by
  have hstop := k.ite_stop (decide (o.config.schedule.armPeriodUs ≤ now - epoch)) o .schedule
  unfold MobileOutput.align
  simp only [decide_eq_true_eq] at hstop
  exact k.trans hstop (k.schedule _ _)

theorem supervise (k : Swept now R) (o : MobileOutput) (window : Window) :
    R o (o.supervise window) := by
  unfold MobileOutput.supervise
  exact k.trans (k.trans (k.ite_stop _ o .schedule) (k.ite_stop _ _ .transport))
    (k.ite_stop _ _ .ok)

end Swept

/-- A relation that the parts of an inspection keep. -/
structure Kept (R : MobileOutput → MobileOutput → Prop) : Prop where
  refl : ∀ o, R o o
  trans : ∀ {o o' o''}, R o o' → R o' o'' → R o o''
  stop : ∀ o fault, R o (o.stop fault)
  /-- A slot is emptied and the loss counted. -/
  drop : ∀ o kind expired, R o { o with router := { o.router.drop kind with expiredJobs := expired } }
  schedule : ∀ o schedule, R o { o with schedule }
  /-- The supervisor and the bus are polled. -/
  watch : ∀ o nowUs nowMs, R o
    { o with
      feedbackDue := false
      availableUs := 0
      supervisor := o.supervisor.poll nowMs
      router := o.router.poll nowUs }

namespace Kept

variable {R : MobileOutput → MobileOutput → Prop}

theorem swept (k : Kept R) (now : Tick) : Swept now R :=
  ⟨k.refl, k.trans, k.stop, fun o kind expired _ => k.drop o kind expired, k.schedule⟩

/-- **An inspection keeps what its parts keep.** -/
theorem inspect (k : Kept R) (o : MobileOutput) (now nowMs epoch : Tick) :
    R o (o.inspect now nowMs epoch).1 :=
  have s := k.swept now
  k.trans (k.trans (k.trans (k.watch o now nowMs) (s.fold _ _)) (s.align _ epoch)) (s.supervise _ _)

end Kept

/-- A relation that every part of a poll keeps. -/
structure Driven (ids : MobileIds) (R : MobileOutput → MobileOutput → Prop) : Prop extends Kept R where
  /-- What a relation of the stop and the router does not see. -/
  same : ∀ {o o'}, o'.configured = o.configured → o'.config = o.config →
    o'.stopRequested = o.stopRequested → o'.stopWritten = o.stopWritten → o'.router = o.router →
      R o o'
  submit : ∀ o {kind}, kind ≠ .stop → ∀ bytes now deadline budget, R o
    { o with router := (o.router.submitWork kind bytes now deadline budget).1 }
  queueStop : ∀ o now, R o (queueStop ids o now)

namespace Driven

variable {ids : MobileIds} {R : MobileOutput → MobileOutput → Prop}

theorem halt (k : Driven ids R) (o : MobileOutput) (fault : OutputFault) (now : Tick) :
    R o (halt ids o fault now) :=
  k.trans (k.stop o fault) (k.queueStop _ now)

theorem queueJob (k : Driven ids R) (o : MobileOutput) {job : VelocityJob}
    (hkind : job.kind ≠ .stop) (lifetime now : Tick) :
    R o (queueJob ids o job lifetime now).1 := by
  unfold MobileOutput.queueJob
  split
  · exact k.halt o .queue now
  split
  · exact k.halt o .queue now
  · rename_i packet _
    have hrouter := k.submit o hkind packet now (now + lifetime) job.budgetUs
    split
    · rename_i router heq
      rw [heq] at hrouter
      exact hrouter
    · rename_i router heq
      rw [heq] at hrouter
      exact k.trans hrouter (k.halt _ .queue now)

theorem queueDue (k : Driven ids R) (o : MobileOutput) (window : Window) (lifting : Bool)
    (lifetime now : Tick) : R o (queueDue ids o window lifting lifetime now) := by
  have hwheels : (o.wheelsJob lifting).kind ≠ .stop := by simp [wheelsJob]
  have hlift : (o.liftJob lifting).kind ≠ .stop := by simp [liftJob]
  unfold MobileOutput.queueDue
  dsimp only
  split_ifs
  · exact k.trans (k.queueJob o hwheels lifetime now) (k.queueJob _ hlift lifetime now)
  · exact k.queueJob o hwheels lifetime now
  · exact k.queueJob o hlift lifetime now
  · exact k.refl o

theorem command (k : Driven ids R) (o : MobileOutput) (window : Window) (lifting : Bool)
    (now nowMs : Tick) : R o (command ids o window lifting now nowMs) := by
  unfold MobileOutput.command
  split
  · exact k.refl o
  split
  · exact k.halt o .commandExpiring now
  · exact k.queueDue o window lifting _ now

theorem lead (k : Driven ids R) (o : MobileOutput) (window : Window) (now nowMs : Tick) :
    R o (lead ids o window now nowMs) := by
  unfold MobileOutput.lead
  dsimp only
  split
  · have hpolled : R o { o with liftEngaged := true, endpoint := o.endpoint.poll nowMs } :=
      k.same rfl rfl rfl rfl rfl
    refine k.trans hpolled ?_
    split
    · exact k.halt _ .transport now
    · exact k.command _ window true now nowMs
  · exact k.command o window false now nowMs

theorem disengage (k : Driven ids R) (o : MobileOutput) : R o o.disengage := by
  have hwheels := k.drop o .wheels o.router.expiredJobs
  have hlift := k.drop { o with router := o.router.drop .wheels } .lift o.router.expiredJobs
  exact k.trans (k.trans hwheels hlift) (k.same rfl rfl rfl rfl rfl)

theorem drive (k : Driven ids R) (o : MobileOutput) (window : Window) (now nowMs : Tick) :
    R o (drive ids o window now nowMs) := by
  unfold MobileOutput.drive
  dsimp only
  have hwindow : R o
      { o with availableUs := window.availableUs, feedbackDue := window.due .feedback } :=
    k.same rfl rfl rfl rfl rfl
  refine k.trans hwindow ?_
  split_ifs
  · exact k.trans (k.disengage _) (k.lead _ window now nowMs)
  · exact k.halt _ .ok now
  · exact k.lead _ window now nowMs

/-- **A poll keeps what its parts keep.** -/
theorem poll (k : Driven ids R) (o : MobileOutput) (now nowMs epoch : Tick) :
    R o (poll ids o now nowMs epoch) := by
  unfold MobileOutput.poll
  dsimp only
  have hinspect := k.inspect o now nowMs epoch
  split_ifs
  · exact k.refl o
  · have hstop : R (o.inspect now nowMs epoch).1
        { (o.inspect now nowMs epoch).1 with
          supervisor := (o.inspect now nowMs epoch).1.supervisor.stop } :=
      k.same rfl rfl rfl rfl rfl
    exact k.trans (k.trans hinspect hstop) (k.queueStop _ now)
  · exact k.trans hinspect (k.drive _ _ now nowMs)

end Driven

/-! ## 7. The bench -/

/-- The set-up of the source's tests. -/
def benchSupervisor : MobileConfig where
  maxVelocityRaw := ![1000, 1000, 1000, 100]
  stoppedVelocityRaw := 2
  commandTimeoutMs := 200
  feedbackTimeoutMs := 50
  liftMinUm := 0
  liftMaxUm := 500000

def benchLift : LiftConfig where
  umPerTurn := 409600
  maximumHeightUm := 500000
  toleranceUm := 100
  maximumSpeedRaw := 100
  homingSpeedRaw := 20
  stoppedSpeedRaw := 2
  slowdownDistanceUm := 10000
  homeCurrentMa := 500
  maximumCurrentMa := 1000
  feedbackTimeoutMs := 100
  homingTimeoutMs := 1000
  contactDwellMs := 20
  maximumEncoderStepRaw := 200
  encoderUpDirection := 1

def benchConfig : MobileOutputConfig where
  schedule :=
    { armPeriodUs := 5000, armReservedUs := 1000, guardUs := 200, wheelsPeriodUs := 10000
      liftPeriodUs := 20000, feedbackPeriodUs := 5000, maximumPollGapUs := 500 }
  wheelsBudgetUs := 500
  liftBudgetUs := 400
  stopBudgetUs := 600
  jobLifetimeUs := 4000
  velocityDirection _ := 1

def benchEndpoint : LiftEndpoint :=
  (LiftEndpoint.init (Lift.init benchLift).1 42 200).get (by decide +kernel)

theorem init_benchEndpoint :
    LiftEndpoint.init (Lift.init benchLift).1 42 200 = some benchEndpoint :=
  (Option.some_get _).symm

def bench (config : MobileOutputConfig)
    (h : (init (MobileSupervisor.init benchSupervisor).1 benchEndpoint config 0).isSome = true) :
    MobileOutput :=
  (init (MobileSupervisor.init benchSupervisor).1 benchEndpoint config 0).get h

theorem init_bench {config : MobileOutputConfig}
    (h : (init (MobileSupervisor.init benchSupervisor).1 benchEndpoint config 0).isSome = true) :
    init (MobileSupervisor.init benchSupervisor).1 benchEndpoint config 0 =
      some (bench config h) :=
  (Option.some_get h).symm

theorem bench_starts :
    (init (MobileSupervisor.init benchSupervisor).1 benchEndpoint benchConfig 0).isSome = true := by
  decide +kernel

end MobileOutput

end MobileBimanual.Mobile
