/-
# The command route of the buffered executor

`buffered_command_route.c`: what stands between a JOINT_SETPOINT_BATCH frame and the executor.

* `bufferedCommandDecode` reads the payload of a frame, with its reserved fields and the slots of
  the arm that is not there;
* `CommandRoute.admitCommand` is the admission under the flags of the frame.  A command that carries
  VALIDATION_ONLY goes through the same checks, and the queue and the diagnostics it has touched are
  put back;
* the other calls hand on to the executor.

The dry run and the real one share the executor's own admission and differ in what follows.  What
follows cannot fail (`markInputComplete_of_admitted`), so the two answer alike, and the dry run
leaves the route as it was (`dryRun_faithful`).
-/
import MobileBimanual.Buffered.Integrity

namespace MobileBimanual.Buffered

open MobileBimanual.Stream (Byte Tick Urad tickIsAfter readU16Le readU32Le)
open Serial (After)
open Machine

/-! ## 1. The commands -/

def bufferedWireMaxSamples : Nat := 9
def bufferedWireHeaderSize : Nat := 8
def bufferedWireSampleSize : Nat := 52

def flagValidationOnly : BitVec 16 := 0x0001
def flagCandidate : BitVec 16 := 0x0002
def flagBegin : BitVec 16 := 0x0004
def flagStart : BitVec 16 := 0x0008
def flagEnd : BitVec 16 := 0x0010
def flagMask : BitVec 16 := 0x001F

inductive CommandResult where
  | ok
  | invalidLength
  | invalidFlags
  | invalidArmMask
  | invalidReserved
  | nonMonotonicTick
  | unsupportedRightSlot
  | badState
  | queueRejected

structure Command where
  flags : BitVec 16
  firstApplyTick : Tick
  samples : List Setpoint

def Command.has (command : Command) (flag : BitVec 16) : Bool := command.flags &&& flag != 0

/-- CANDIDATE is set and nothing unknown is. -/
def Command.flagsAreValid (command : Command) : Bool :=
  command.has flagCandidate && !command.has (~~~flagMask)

/-- Where a sample starts in the payload. -/
def sampleOffset (index : Nat) : Nat := bufferedWireHeaderSize + index * bufferedWireSampleSize

def readSample (payload : List Byte) (firstApplyTick : Tick) (index : Nat) : Setpoint where
  applyTick := firstApplyTick + readU32Le payload (sampleOffset index)
  positionUrad := fun joint => readU32Le payload (sampleOffset index + 4 + joint * 4)

/-- The second half of a sample is for an arm this firmware does not have. -/
def rightSlotIsUsed (payload : List Byte) (index : Nat) : Bool :=
  decide (∃ joint : Joint, readU32Le payload (sampleOffset index + 28 + joint * 4) ≠ 0)

/-- The sample loop of `decode`, with the tick of the sample before. -/
def readSamples (payload : List Byte) (firstApplyTick : Tick) :
    Option Tick → List Nat → Except CommandResult (List Setpoint)
  | _, [] => .ok []
  | previousTick, index :: indices =>
    let sample := readSample payload firstApplyTick index
    if previousTick.any fun previous => !tickIsAfter sample.applyTick previous then
      .error .nonMonotonicTick
    else if rightSlotIsUsed payload index then .error .unsupportedRightSlot
    else match readSamples payload firstApplyTick (some sample.applyTick) indices with
      | .ok samples => .ok (sample :: samples)
      | .error result => .error result

def bufferedCommandDecode (payload : List Byte) (frameFlags : BitVec 16) :
    Except CommandResult Command :=
  let sampleCount := (payload.getD 4 0).toNat
  let command : Command :=
    { flags := frameFlags, firstApplyTick := readU32Le payload 0, samples := [] }
  if payload.length < bufferedWireHeaderSize then .error .invalidLength
  else if sampleCount = 0 ∨ sampleCount > bufferedWireMaxSamples then .error .invalidLength
  else if payload.length ≠ sampleOffset sampleCount then .error .invalidLength
  else if !command.flagsAreValid then .error .invalidFlags
  else if payload.getD 5 0 ≠ 1 then .error .invalidArmMask
  else if readU16Le payload 6 ≠ 0 then .error .invalidReserved
  else match readSamples payload command.firstApplyTick none (List.range sampleCount) with
    | .ok samples => .ok { command with samples := samples }
    | .error result => .error result

/-! ## 2. The route -/

structure CommandRoute where
  executor : BufferedExecutor
  limits : JointLimits
  trajectorySequence : BitVec 32
  admittedBatches : BitVec 32
  trajectoryActive : Bool
  startRequested : Bool
  started : Bool

/-- When an admission came and how much lead it asks for. -/
structure Admission where
  requestSequence : BitVec 32
  currentTick : Tick
  minimumLeadTicks : Tick
  maximumLeadTicks : Tick

namespace CommandRoute

def init (minimumStartSamples : Nat) (maximumApplyLatenessTicks : Tick) (limits : JointLimits) :
    Except BufferedResult CommandRoute :=
  match BufferedExecutor.init minimumStartSamples maximumApplyLatenessTicks with
  | .error result => .error result
  | .ok executor => .ok
    { executor := executor
      limits := limits
      trajectorySequence := 0
      admittedBatches := 0
      trajectoryActive := false
      startRequested := false
      started := false }

/-- The common part of the two admissions. -/
def admitSamples (route : CommandRoute) (command : Command) (admission : Admission) :
    BufferedExecutor × BufferedResult :=
  route.executor.admitBatch command.samples admission.currentTick admission.minimumLeadTicks
    admission.maximumLeadTicks route.limits

/-- BEGIN opens a trajectory, everything else continues one, and START is asked for once. -/
def outOfTurn (route : CommandRoute) (command : Command) : Bool :=
  (command.has flagBegin && route.trajectoryActive) ||
    (!command.has flagBegin && !route.trajectoryActive) ||
    (command.has flagStart && route.startRequested)

/-- The executor has taken the samples. -/
def accept (route : CommandRoute) (command : Command) (admission : Admission)
    (executor : BufferedExecutor) : CommandRoute :=
  { route with
    executor := executor
    trajectoryActive := route.trajectoryActive || command.has flagBegin
    trajectorySequence :=
      if command.has flagBegin then admission.requestSequence else route.trajectorySequence
    startRequested := route.startRequested || command.has flagStart }

def countBatch (route : CommandRoute) : CommandRoute :=
  { route with admittedBatches := route.admittedBatches + 1 }

def admitCommand (route : CommandRoute) (command : Command) (admission : Admission) :
    CommandRoute × CommandResult :=
  if !command.flagsAreValid then (route, .invalidFlags)
  else if route.outOfTurn command then (route, .badState)
  else if command.has flagValidationOnly then
    let (executor, result) := route.admitSamples command admission
    -- `saved_queue` and `saved_diagnostics` are put back, whatever came out
    ({ route with
        executor :=
          { executor with
            queue := route.executor.queue
            diagnostics := route.executor.diagnostics } },
      if result = .ok then .ok else .queueRejected)
  else match route.admitSamples command admission with
    | (executor, .ok) =>
      let route := route.accept command admission executor
      if command.has flagEnd then
        match route.executor.markInputComplete with
        | (executor, .ok) => (countBatch { route with executor := executor }, .ok)
        | (executor, _) => ({ route with executor := executor }, .badState)
      else (route.countBatch, .ok)
    | (executor, _) => ({ route with executor := executor }, .queueRejected)

def start (route : CommandRoute) (anchorTick : Tick) (anchorPositionsUrad : Joints) :
    CommandRoute × BufferedResult :=
  if !route.trajectoryActive || !route.startRequested || route.started then (route, .badState)
  else
    let (executor, result) :=
      route.executor.start anchorTick anchorPositionsUrad route.limits
    ({ route with
        executor := executor
        started := route.started || decide (result = .ok) }, result)

def withExecutor (route : CommandRoute) (executor : BufferedExecutor) : CommandRoute :=
  { route with executor := executor }

def step (route : CommandRoute) (currentTick : Tick) :
    CommandRoute × BufferedResult × Option Joints :=
  let (executor, answer) := route.executor.step currentTick
  (route.withExecutor executor, answer)

def plannedHold (route : CommandRoute) (currentTick : Tick) : CommandRoute × BufferedResult :=
  let (executor, result) := route.executor.plannedHold currentTick
  (route.withExecutor executor, result)

def cancel (route : CommandRoute) (currentTick : Tick) : CommandRoute × BufferedResult :=
  let (executor, result) := route.executor.cancel currentTick
  (route.withExecutor executor, result)

def connectionLoss (route : CommandRoute) (currentTick : Tick) : CommandRoute × BufferedResult :=
  let (executor, result) := route.executor.connectionLoss currentTick
  (route.withExecutor executor, result)

def trackingError (route : CommandRoute) (currentTick : Tick) : CommandRoute × BufferedResult :=
  let (executor, result) := route.executor.trackingError currentTick
  (route.withExecutor executor, result)

end CommandRoute

/-! ## 3. The dry run -/

/-- The command as a dry run of itself, and as the real thing. -/
def Command.dry (command : Command) : Command :=
  { command with flags := command.flags ||| flagValidationOnly }

def Command.real (command : Command) : Command :=
  { command with flags := command.flags &&& ~~~flagValidationOnly }

section Flags

variable (command : Command) {flag : BitVec 16}

theorem Command.dry_validates : command.dry.has flagValidationOnly = true := by
  have hset : command.dry.flags &&& flagValidationOnly ≠ 0#16 := by
    intro hclear
    rw [Command.dry, BitVec.and_or_distrib_right, BitVec.or_eq_zero_iff] at hclear
    exact absurd hclear.2 (by decide)
  simpa [Command.has] using hset

theorem Command.real_does_not : command.real.has flagValidationOnly = false := by
  have hclear : command.real.flags &&& flagValidationOnly = 0#16 := by
    rw [Command.real, BitVec.and_assoc,
      show ~~~flagValidationOnly &&& flagValidationOnly = 0#16 by decide, BitVec.and_zero]
  simpa [Command.has] using hclear

/-- The other flags are those of the command. -/
theorem Command.dry_has (h : flagValidationOnly &&& flag = 0#16) :
    command.dry.has flag = command.has flag := by
  rw [Command.has, Command.dry, BitVec.and_or_distrib_right, h, BitVec.or_zero, Command.has]

theorem Command.real_has (h : ~~~flagValidationOnly &&& flag = flag) :
    command.real.has flag = command.has flag := by
  rw [Command.has, Command.real, BitVec.and_assoc, h, Command.has]

theorem Command.dry_valid : command.dry.flagsAreValid = command.flagsAreValid := by
  rw [Command.flagsAreValid, command.dry_has (by decide), command.dry_has (by decide),
    Command.flagsAreValid]

theorem Command.real_valid : command.real.flagsAreValid = command.flagsAreValid := by
  rw [Command.flagsAreValid, command.real_has (by decide), command.real_has (by decide),
    Command.flagsAreValid]

end Flags

variable {executor : BufferedExecutor}

theorem admitBatch_ok_live {executor' : BufferedExecutor} {samples : List Setpoint}
    {currentTick minimumLeadTicks maximumLeadTicks : Tick} {limits : JointLimits}
    (h : executor.admitBatch samples currentTick minimumLeadTicks maximumLeadTicks limits =
      (executor', .ok)) : stateAcceptsCommands executor'.diagnostics.state = true := by
  simp only [BufferedExecutor.admitBatch] at h
  split at h
  · exact absurd (congrArg Prod.snd h) (by simp)
  · next haccepts =>
    split at h
    · obtain ⟨rfl, -⟩ := Prod.mk.inj h
      simp only [Bool.or_eq_true, Bool.not_eq_true', not_or, Bool.not_eq_false] at haccepts
      exact haccepts.1
    · exact absurd (congrArg Prod.snd h) (by simp)

namespace CommandRoute

variable (route : CommandRoute) (command : Command) (admission : Admission)

theorem dry_outOfTurn : route.outOfTurn command.dry = route.outOfTurn command := by
  rw [outOfTurn, command.dry_has (by decide), command.dry_has (by decide), outOfTurn]

theorem real_outOfTurn : route.outOfTurn command.real = route.outOfTurn command := by
  rw [outOfTurn, command.real_has (by decide), command.real_has (by decide), outOfTurn]

/-- The input of an executor that has just admitted a batch can be completed. -/
theorem markInputComplete_of_admitted (h : route.admitSamples command admission = (executor, .ok)) :
    (route.accept command admission executor).executor.markInputComplete.2 = .ok := by
  simp only [accept, BufferedExecutor.markInputComplete, admitBatch_ok_live h]
  rfl

/-- An admission changes nothing but the queue and the diagnostics. -/
theorem admitSamples_restored :
    { (route.admitSamples command admission).1 with
      queue := route.executor.queue
      diagnostics := route.executor.diagnostics } = route.executor := by
  simp only [admitSamples, BufferedExecutor.admitBatch]
  split
  · rfl
  · split
    all_goals rfl

/-- The answer of an admission, dry or real. -/
def verdict : CommandResult :=
  if !command.flagsAreValid then .invalidFlags
  else if route.outOfTurn command then .badState
  else if (route.admitSamples command admission).2 = .ok then .ok
  else .queueRejected

/-- **The dry run answers the verdict and leaves the route.** -/
theorem admit_dry :
    route.admitCommand command.dry admission = (route, route.verdict command admission) := by
  have hrestored := route.admitSamples_restored command admission
  have hsame : route.admitSamples command.dry admission = route.admitSamples command admission :=
    rfl
  rw [admitCommand, command.dry_valid, route.dry_outOfTurn, command.dry_validates, hsame, verdict]
  cases command.flagsAreValid with
  | false => rfl
  | true =>
    cases route.outOfTurn command with
    | true => rfl
    | false =>
      simp only [Bool.not_true, Bool.false_eq_true, if_false, if_true, Prod.mk.injEq, and_true]
      rw [hrestored]

/-- **The real admission answers it too**: nothing after the admission of the samples fails. -/
theorem admit_real :
    (route.admitCommand command.real admission).2 = route.verdict command admission := by
  have hsame : route.admitSamples command.real admission = route.admitSamples command admission :=
    rfl
  rw [admitCommand, command.real_valid, route.real_outOfTurn, command.real_does_not, hsame, verdict]
  cases command.flagsAreValid with
  | false => rfl
  | true =>
    cases route.outOfTurn command with
    | true => rfl
    | false =>
      simp only [Bool.not_true, Bool.false_eq_true, if_false]
      cases hadmitted : route.admitSamples command admission with
      | mk executor result =>
        by_cases hok : result = .ok
        · subst hok
          have hcomplete := route.markInputComplete_of_admitted command.real admission hadmitted
          cases hmark : (route.accept command.real admission executor).executor.markInputComplete
          rw [hmark] at hcomplete
          obtain rfl := hcomplete
          cases command.real.has flagEnd with
          | false => rfl
          | true => simp [hmark]
        · rw [if_neg hok]
          cases result with
          | ok => exact absurd rfl hok
          | _ => rfl

/-- **A dry run is faithful**: it answers OK exactly when the command without the flag would be
admitted, and nothing is changed by asking. -/
theorem dryRun_faithful :
    ((route.admitCommand command.dry admission).2 = .ok ↔
        (route.admitCommand command.real admission).2 = .ok) ∧
      (route.admitCommand command.dry admission).1 = route := by
  rw [admit_real, admit_dry]
  exact ⟨Iff.rfl, rfl⟩

end CommandRoute

end MobileBimanual.Buffered
