/-
# How far apart the writes of an execution are

The runs of the buffered execution: frames, service calls, aborts and what the rest of the
firmware does to the latch and the safety machine, in any order.  Beside the host stand the tick
of the last write of the execution at hand and the tick of its last call in a slot of the output
grid (`Spacing`).

A step writes in the slots of the grid and with the last sample, and nowhere else
(`service_of_due`, `service_of_not_due`).  The executor takes a sample up to a period late, and
a call between two slots takes it without a write.  So the writes are a period and a lateness apart
exactly as long as the calls do not pass two slots in a row (`spaced_along_iff`).
-/
import MobileBimanual.Buffered.ExecutionService

namespace MobileBimanual.Buffered

open MobileBimanual.Stream (Byte Tick tickIsAfter)
open MobileBimanual.Servo (Raw)
open MobileBimanual.Transport (HalStatus)
open MobileBimanual.Firmware (ActuatorSafety safetyAcceptsSetpoint)
open Machine

/-! ## 1. The run -/

inductive ExecutionEvent where
  | request (request : SetpointRequest) (now : Tick)
  | service (inputs : ServiceInputs)
  | abort (now : Tick) (reason : BufferedReason) (detail : Byte)
  | outside (stopLatched : Bool) (safety : ActuatorSafety)
    (servosConfigured binaryMotionActive : Bool)

def HostEffect.isWrite : HostEffect → Bool
  | .syncWrite _ => true
  | _ => false

/-- A status that says that several samples were applied, and all of them. -/
def HostEffect.reportsApplied : HostEffect → Bool
  | .status _ _ _ _ _ diagnostics =>
    diagnostics.state == .succeeded && 2 ≤ diagnostics.appliedSamples.toNat
  | _ => false

/-- The front of a queue is due. -/
def frontDue (next : Setpoint) (now : Tick) : Bool :=
  now == next.applyTick || tickIsAfter now next.applyTick

namespace ExecutionHost

variable (servoJoints : ServoJoints) (host : ExecutionHost)

def serve : ExecutionEvent → Served
  | .request request now => host.executeBufferedCandidate servoJoints request now
  | .service inputs => host.serviceBufferedExecution servoJoints inputs
  | .abort now reason detail => host.abortBufferedExecution servoJoints now reason detail
  | .outside stopLatched safety servosConfigured binaryMotionActive =>
    ({ host with stopLatched, safety, servosConfigured, binaryMotionActive }, [])

/-- An execution has been started and is not over. -/
def inExecution : Bool := host.motion.active && host.route.started

/-- The service steps the executor. -/
def steps (now : Tick) : Bool :=
  host.motion.active && !(host.stopLatched || !safetyAcceptsSetpoint host.safety) &&
    host.route.started && !host.beforeAnchor now &&
    !(host.motion.lastStepValid && host.motion.lastStepTick == now)

def isRunning : Bool := host.executor.diagnostics.state == .running

/-- A tick of the output grid. -/
def inSlot (now : Tick) : Bool := (now - host.motion.anchorTick) % executionOutputPeriodMs == 0

/-- The input is complete, and its last sample is due. -/
def takesLast (now : Tick) : Bool :=
  host.executor.diagnostics.inputComplete && host.executor.queue.count == 1 &&
    (peek host.executor.queue).any (frontDue · now)

/-- A running executor is stepped in a slot, or with the last sample. -/
def due (now : Tick) : Bool :=
  host.steps now && host.isRunning && (host.inSlot now || host.takesLast now)

/-- The call comes neither too late for a running executor nor before its anchor, its output is in
the range of the servos, and the servo bus does what it is asked to. -/
def Smooth : ExecutionEvent → Prop
  | .service inputs =>
    host.steps inputs.now = true → host.isRunning = true →
      (host.route.step inputs.now).2.1 = .output ∧
        (outputPositionsRaw servoJoints
          ((host.route.step inputs.now).2.2.getD fun _ => 0)).toBool = true ∧
        inputs.telemetryPoll ≠ .error ∧ inputs.telemetryPoll ≠ .timeout ∧
        (host.due inputs.now = true → inputs.telemetryPending = false) ∧
        inputs.syncWrite = .ok ∧ inputs.telemetryStart = .ok
  | _ => True

instance : ∀ e : ExecutionEvent, Decidable (host.Smooth servoJoints e)
  | .service inputs =>
    inferInstanceAs (Decidable (host.steps inputs.now = true → host.isRunning = true → _))
  | .request _ _ | .abort _ _ _ | .outside _ _ _ _ => isTrue trivial

end ExecutionHost

structure Spacing where
  host : ExecutionHost
  lastWrite : Option Tick
  lastSlot : Option Tick

namespace Spacing

variable (servoJoints : ServoJoints) (w : Spacing)

def begin (host : ExecutionHost) : Spacing := ⟨host, none, none⟩

/-- The marks of an execution that is over are wiped out. -/
def marked (host : ExecutionHost) (lastWrite lastSlot : Option Tick) : Spacing :=
  if host.inExecution then ⟨host, lastWrite, lastSlot⟩ else .begin host

def next (e : ExecutionEvent) : Spacing :=
  let served := w.host.serve servoJoints e
  match e with
  | .service inputs =>
    marked served.1 (if served.2.any (·.isWrite) then some inputs.now else w.lastWrite)
      (if w.host.steps inputs.now && w.host.isRunning && w.host.inSlot inputs.now then
        some inputs.now else w.lastSlot)
  | _ => marked served.1 w.lastWrite w.lastSlot

/-- A write comes at most a period and a lateness after the one before it, and what is reported as
applied was not written at the end alone. -/
def Spaced : ExecutionEvent → Prop
  | .service inputs =>
    let effects := (w.host.serviceBufferedExecution servoJoints inputs).2
    (effects.any (·.isWrite) = true → w.lastWrite.all (fun last =>
        (inputs.now - last).toNat ≤
          executionOutputPeriodMs.toNat + executionMaximumApplyLatenessMs.toNat) = true) ∧
      (effects.any (·.reportsApplied) = true → w.lastWrite.isSome = true)
  | _ => True

/-- How many slots lie between a slot and a later tick. -/
def slotsPassed (slot now : Tick) : Nat := ((now - slot).toNat - 1) / executionOutputPeriodMs.toNat

/-- No two slots pass in a row without a call, and the last of several samples is not taken before
there was one. -/
def Attended : ExecutionEvent → Prop
  | .service inputs =>
    w.host.due inputs.now = true →
      w.lastSlot.all (fun slot => slotsPassed slot inputs.now ≤ 1) = true ∧
        (w.host.takesLast inputs.now = true →
          1 ≤ w.host.executor.diagnostics.appliedSamples.toNat → w.lastSlot.isSome = true)
  | _ => True

instance : ∀ e : ExecutionEvent, Decidable (w.Spaced servoJoints e)
  | .service _ => inferInstanceAs (Decidable (_ ∧ _))
  | .request _ _ | .abort _ _ _ | .outside _ _ _ _ => isTrue trivial

instance : ∀ e : ExecutionEvent, Decidable (w.Attended e)
  | .service inputs => inferInstanceAs (Decidable (w.host.due inputs.now = true → _))
  | .request _ _ | .abort _ _ _ | .outside _ _ _ _ => isTrue trivial

end Spacing

/-! ## 2. A step of the executor -/

section Step

variable {executor : BufferedExecutor} {now : Tick}

theorem frontDue_iff (next : Setpoint) (now : Tick) :
    frontDue next now = true ↔ now = next.applyTick ∨ tickIsAfter now next.applyTick = true := by
  simp [frontDue]

theorem applied_count (executor : BufferedExecutor) (queue : SetpointQueue) (next : Setpoint)
    (now : Tick) :
    (executor.applied queue next now).diagnostics.appliedSamples =
      saturatingAdd executor.diagnostics.appliedSamples 1 := by
  simp only [BufferedExecutor.applied, BufferedExecutor.updateQueueDepth,
    BufferedExecutor.noteApplied]

theorem finishIfEmpty_count (executor : BufferedExecutor) (now : Tick) :
    (executor.finishIfEmpty now).diagnostics.appliedSamples =
      executor.diagnostics.appliedSamples := by
  unfold BufferedExecutor.finishIfEmpty
  split
  · split
    · rfl
    · rfl
  · rfl

theorem finishIfEmpty_succeeded (hrunning : executor.diagnostics.state = .running) (now : Tick) :
    (executor.finishIfEmpty now).diagnostics.state = .succeeded ↔
      executor.diagnostics.inputComplete = true ∧ executor.queue.count = 0 := by
  unfold BufferedExecutor.finishIfEmpty
  split
  · rename_i hempty
    split
    · rename_i hcomplete
      exact iff_of_true rfl ⟨hcomplete, hempty⟩
    · rename_i hcomplete
      exact iff_of_false nofun fun h => hcomplete h.1
  · rename_i hmore
    rw [hrunning]
    exact iff_of_false nofun fun h => hmore h.2

theorem step_output (hrunning : executor.diagnostics.state = .running)
    (houtput : (executor.step now).2.1 = .output) :
    ((executor.step now).1.diagnostics.state = .succeeded ↔
        executor.diagnostics.inputComplete = true ∧ executor.queue.count = 1 ∧
          (peek executor.queue).any (frontDue · now) = true) ∧
      ((executor.step now).1.diagnostics.state = .succeeded →
        (executor.step now).1.diagnostics.appliedSamples =
          saturatingAdd executor.diagnostics.appliedSamples 1) := by
  unfold BufferedExecutor.step at houtput ⊢
  by_cases hguard : executor.diagnostics.state ≠ .running ∨ !executor.anchorValid
  · rw [if_pos hguard] at houtput
    exact nomatch houtput
  rw [if_neg hguard] at houtput ⊢
  by_cases hempty : executor.queue.count = 0
  · rw [if_pos hempty] at houtput
    split at houtput
    · exact nomatch houtput
    · exact nomatch houtput
  rw [if_neg hempty] at houtput ⊢
  have hpeek : peek executor.queue = some (executor.queue.item 0) := if_neg hempty
  simp only [hpeek] at houtput ⊢
  rw [Option.any_some, frontDue_iff]
  by_cases hdue : now = (executor.queue.item 0).applyTick ∨
      tickIsAfter now (executor.queue.item 0).applyTick = true
  · rw [if_pos hdue] at houtput ⊢
    unfold BufferedExecutor.stepApply at houtput ⊢
    split at houtput
    · exact nomatch houtput
    rename_i hlate
    rw [if_neg hlate, takeDue_front hpeek]
    refine ⟨?_, fun _ => (finishIfEmpty_count _ _).trans (applied_count _ _ _ _)⟩
    have hrun : (executor.applied executor.queue.pop (executor.queue.item 0) now).diagnostics.state =
        .running := hrunning
    have hcount : (executor.applied executor.queue.pop (executor.queue.item 0) now).queue.count =
        executor.queue.count - 1 := rfl
    have hinput : (executor.applied executor.queue.pop (executor.queue.item 0)
        now).diagnostics.inputComplete = executor.diagnostics.inputComplete := rfl
    rw [finishIfEmpty_succeeded hrun, hcount, hinput]
    refine and_congr_right fun _ => ?_
    rw [and_iff_left hdue]
    omega
  · rw [if_neg hdue] at houtput ⊢
    have hsame : (executor.stepInterpolate (executor.queue.item 0) now).1 = executor := by
      unfold BufferedExecutor.stepInterpolate at houtput ⊢
      split
      · rfl
      · rename_i hbefore
        rw [if_neg hbefore] at houtput
        split
        · rename_i hover
          rw [if_pos hover] at houtput
          exact nomatch houtput
        · rfl
    rw [hsame, hrunning]
    exact ⟨iff_of_false nofun fun h => hdue h.2.2, nofun⟩

end Step

/-! ## 3. A call of the service -/

namespace ExecutionHost

section Service

variable {servoJoints : ServoJoints} {host : ExecutionHost} {inputs : ServiceInputs}

/-- Nothing is written and nothing reported. -/
def Quiet (served : Served) : Prop :=
  served.2.any (·.isWrite) = false ∧ served.2.any (·.reportsApplied) = false

theorem quiet_nil (host : ExecutionHost) : Quiet (host, []) := ⟨rfl, rfl⟩

theorem finalize_writes (host : ExecutionHost) (detail : Byte) :
    (host.finalizeBufferedExecution servoJoints detail).2.any (·.isWrite) = false := by
  unfold finalizeBufferedExecution
  cases host.executor.diagnostics.safeStopRequired with
  | false => simp [HostEffect.isWrite]
  | true => simp [HostEffect.isWrite]

theorem finalize_reports (host : ExecutionHost) (detail : Byte) :
    (host.finalizeBufferedExecution servoJoints detail).2.any (·.reportsApplied) =
      (host.succeeded && decide (2 ≤ host.executor.diagnostics.appliedSamples.toNat)) := by
  unfold finalizeBufferedExecution
  cases host.executor.diagnostics.safeStopRequired with
  | false => simp [HostEffect.reportsApplied, succeeded]
  | true => simp [HostEffect.reportsApplied, succeeded]

theorem endRoute_state {reason : BufferedReason} {now : Tick}
    (h : (host.endRoute reason now).2 = .terminal) :
    (host.endRoute reason now).1.executor.diagnostics.state ≠ .succeeded := by
  have hended : ∀ {state : BufferedState} {why : BufferedReason} {safeStopRequired : Bool},
      state ≠ .succeeded →
      (host.route.executor.endExecution state why safeStopRequired now).2 = .terminal →
      (host.route.executor.endExecution state why safeStopRequired now).1.diagnostics.state ≠
        .succeeded := by
    intro state why safeStopRequired hstate hterminal
    unfold BufferedExecutor.endExecution at hterminal ⊢
    split at hterminal
    · exact nomatch hterminal
    · rename_i hlive
      rw [if_neg hlive]
      exact hstate
  cases reason with
  | plannedHold => exact hended nofun h
  | operatorCancel => exact hended nofun h
  | connectionLoss => exact hended nofun h
  | _ => exact @hended .aborted .trackingError true nofun h

theorem quiet_abort (host : ExecutionHost) (now : Tick) (reason : BufferedReason) (detail : Byte) :
    Quiet (host.abortBufferedExecution servoJoints now reason detail) := by
  unfold abortBufferedExecution
  split
  · exact quiet_nil host
  · dsimp only
    split
    · rename_i hterminal
      refine ⟨finalize_writes _ _, ?_⟩
      have hstate : (host.withRoute (host.endRoute reason now).1).succeeded = false := by
        simpa [succeeded, executor, withRoute] using endRoute_state hterminal
      rw [finalize_reports, hstate]
      rfl
    · exact ⟨rfl, rfl⟩

theorem service_of_steps (h : host.steps inputs.now = true) :
    host.serviceBufferedExecution servoJoints inputs = host.serviceStep servoJoints inputs := by
  simp only [steps, Bool.and_eq_true, Bool.not_eq_true'] at h
  obtain ⟨⟨⟨⟨hactive, hfit⟩, hstarted⟩, hanchor⟩, hsame⟩ := h
  simp only [serviceBufferedExecution, hactive, hfit, hstarted, hanchor, hsame]
  rfl

theorem service_of_not_steps (h : host.steps inputs.now = false) :
    Quiet (host.serviceBufferedExecution servoJoints inputs) := by
  unfold serviceBufferedExecution
  split
  · exact quiet_nil host
  split
  · exact quiet_abort _ _ _ _
  split
  · split
    · exact quiet_nil host
    · exact quiet_abort _ _ _ _
  split
  · exact quiet_nil host
  split
  · exact quiet_nil host
  · simp_all [steps]

/-- An executor that does not run has no output. -/
theorem serviceStep_of_not_running (h : host.isRunning = false) :
    Quiet (host.serviceStep servoJoints inputs) := by
  have hbad : (host.route.step inputs.now).2 = (.badState, none) := by
    have hstate : host.route.executor.diagnostics.state ≠ .running := by
      simpa [isRunning, executor] using h
    simp only [CommandRoute.step, BufferedExecutor.step, if_pos (Or.inl hstate)]
  simp only [serviceStep, hbad]
  exact quiet_abort _ _ _ _

theorem takesLast_iff (host : ExecutionHost) (now : Tick) :
    host.takesLast now = true ↔
      host.executor.diagnostics.inputComplete = true ∧ host.executor.queue.count = 1 ∧
        (peek host.executor.queue).any (frontDue · now) = true := by
  simp only [takesLast, Bool.and_eq_true, beq_iff_eq, and_assoc]

theorem stepped_succeeded (hrunning : host.isRunning = true)
    (houtput : (host.route.step inputs.now).2.1 = .output) :
    (host.stepped inputs.now).succeeded = host.takesLast inputs.now := by
  have hstate : host.route.executor.diagnostics.state = .running := by
    simpa [isRunning, executor] using hrunning
  refine Bool.eq_iff_iff.mpr ?_
  rw [takesLast_iff, succeeded, beq_iff_eq]
  exact (step_output hstate houtput).1

theorem stepped_writeDue (hrunning : host.isRunning = true)
    (houtput : (host.route.step inputs.now).2.1 = .output) :
    (host.stepped inputs.now).writeDue inputs.now =
      (host.inSlot inputs.now || host.takesLast inputs.now) := by
  rw [← stepped_succeeded hrunning houtput]
  rfl

/-- A call that does not write has nothing to report. -/
theorem quiet_conclude (h : host.succeeded = false) : Quiet (host.concludeOutput servoJoints) := by
  rw [concludeOutput, h]
  exact quiet_nil host

/-- A write that goes through. -/
theorem writeOutput_smooth (hsync : inputs.syncWrite = .ok) (hstart : inputs.telemetryStart = .ok)
    (positionsRaw : Joint → Raw) :
    let served := host.writeOutput servoJoints inputs positionsRaw
    served.2.any (·.isWrite) = true ∧
      served.2.any (·.reportsApplied) =
        (host.succeeded && decide (2 ≤ host.executor.diagnostics.appliedSamples.toNat)) ∧
      (host.succeeded = true → served.1.inExecution = false) := by
  intro served
  simp only [served, writeOutput, hsync, hstart, ne_eq, not_true_eq_false, if_false]
  cases hsucceeded : host.succeeded with
  | true =>
    simp only [if_true, concludeOutput, hsucceeded]
    exact ⟨rfl, (finalize_reports host _).trans (by rw [hsucceeded]), fun _ => rfl⟩
  | false =>
    have hturned : host.turnTelemetry.succeeded = false := hsucceeded
    simp only [Bool.false_eq_true, if_false, concludeOutput, hturned, Served.after]
    exact ⟨rfl, rfl, nofun⟩

theorem two_le_saturatingAdd (count : BitVec 32) :
    2 ≤ (saturatingAdd count 1).toNat ↔ 1 ≤ count.toNat := by
  have hlt := count.isLt
  have hroom : (BitVec.allOnes 32 - count).toNat = 2 ^ 32 - 1 - count.toNat := by
    rw [BitVec.toNat_sub, BitVec.toNat_allOnes]
    omega
  unfold saturatingAdd
  rw [hroom]
  split
  · exact iff_of_true (by decide) (by omega)
  · rw [BitVec.toNat_add, BitVec.toNat_ofNat]
    omega

/-- **A step writes in the slots of the grid and with the last sample**, and reports that all was
applied with the last sample. -/
theorem serviceStep_of_running (hsteps : host.steps inputs.now = true)
    (hrunning : host.isRunning = true) (hsmooth : host.Smooth servoJoints (.service inputs)) :
    let served := host.serviceStep servoJoints inputs
    served.2.any (·.isWrite) = host.due inputs.now ∧
      (served.2.any (·.reportsApplied) = true ↔ host.takesLast inputs.now = true ∧
        1 ≤ host.executor.diagnostics.appliedSamples.toNat) ∧
      (host.takesLast inputs.now = true → served.1.inExecution = false) := by
  intro served
  obtain ⟨houtput, hraw, herror, htimeout, hpending, hsync, hstart⟩ := hsmooth hsteps hrunning
  have hsucceeded := stepped_succeeded hrunning houtput
  have hwriteDue := stepped_writeDue hrunning houtput
  have hdue : host.due inputs.now = (host.inSlot inputs.now || host.takesLast inputs.now) := by
    rw [due, hsteps, hrunning]
    rfl
  obtain ⟨positionsRaw, hpositions⟩ : ∃ raw, outputPositionsRaw servoJoints
      ((host.route.step inputs.now).2.2.getD fun _ => 0) = .ok raw := by
    cases h : outputPositionsRaw servoJoints ((host.route.step inputs.now).2.2.getD fun _ => 0) with
    | error joint => rw [h] at hraw; exact nomatch hraw
    | ok raw => exact ⟨raw, rfl⟩
  have hserved : served = (host.stepped inputs.now).serviceOutput servoJoints inputs
      ((host.route.step inputs.now).2.2.getD fun _ => 0) := by
    have hstep : (host.route.step inputs.now).2 = (.output, (host.route.step inputs.now).2.2) :=
      Prod.ext houtput rfl
    simp only [served, serviceStep]
    rw [hstep]
  have hbus : ¬ (inputs.telemetryPoll = .error ∨ inputs.telemetryPoll = .timeout) :=
    not_or.mpr ⟨herror, htimeout⟩
  rw [hserved, serviceOutput, hpositions, hdue]
  dsimp only
  rw [if_neg hbus, hwriteDue]
  cases hwrites : (host.inSlot inputs.now || host.takesLast inputs.now) with
  | false =>
    have hlast : host.takesLast inputs.now = false := (Bool.or_eq_false_iff.mp hwrites).2
    have hquiet := @quiet_conclude servoJoints _ (hsucceeded.trans hlast)
    simp only [Bool.false_and, Bool.false_eq_true, if_false]
    refine ⟨hquiet.1, ?_, by simp [hlast]⟩
    rw [hquiet.2, hlast]
    simp
  | true =>
    rw [hpending (hdue.trans hwrites)]
    simp only [Bool.and_false, Bool.false_eq_true, if_false, if_true]
    obtain ⟨hwrite, hreports, hends⟩ :=
      @writeOutput_smooth servoJoints (host.stepped inputs.now) _ hsync hstart positionsRaw
    refine ⟨hwrite, ?_, fun hlast => hends (hsucceeded.trans hlast)⟩
    rw [hreports, hsucceeded, Bool.and_eq_true, decide_eq_true_iff]
    refine and_congr_right fun hlast => ?_
    have hstate : host.route.executor.diagnostics.state = .running := by
      simpa [isRunning, executor] using hrunning
    have hcount := (step_output hstate houtput).2 (beq_iff_eq.mp (hsucceeded.trans hlast))
    have happlied : (host.stepped inputs.now).executor.diagnostics.appliedSamples =
        saturatingAdd host.executor.diagnostics.appliedSamples 1 := hcount
    rw [happlied]
    exact two_le_saturatingAdd _

end Service

end ExecutionHost

/-! ## 4. The run -/

namespace Spacing

section Run

variable {servoJoints : ServoJoints} {w : Spacing} {inputs : ServiceInputs}

theorem slotsPassed_le_iff (slot now : Tick) :
    slotsPassed slot now ≤ 1 ↔ (now - slot).toNat ≤
      executionOutputPeriodMs.toNat + executionMaximumApplyLatenessMs.toNat := by
  have hperiod : executionOutputPeriodMs.toNat = 5 := rfl
  have hlateness : executionMaximumApplyLatenessMs.toNat = 5 := rfl
  rw [slotsPassed, hperiod, hlateness]
  omega

/-- The writes of an execution are its calls in a slot. -/
def Matched (w : Spacing) : Prop := w.lastWrite = w.lastSlot

theorem matched_marked {host : ExecutionHost} {lastWrite lastSlot : Option Tick}
    (h : host.inExecution = true → lastWrite = lastSlot) :
    (marked host lastWrite lastSlot).Matched := by
  unfold marked
  split
  · rename_i hin
    exact h hin
  · rfl

/-- What a call of the service does, in the words of the slots. -/
theorem service_cases (servoJoints : ServoJoints) (w : Spacing) (inputs : ServiceInputs) :
    (w.host.steps inputs.now && w.host.isRunning) = false ∧
        ExecutionHost.Quiet (w.host.serviceBufferedExecution servoJoints inputs) ∨
      w.host.steps inputs.now = true ∧ w.host.isRunning = true ∧
        w.host.serviceBufferedExecution servoJoints inputs =
          w.host.serviceStep servoJoints inputs := by
  cases hsteps : w.host.steps inputs.now with
  | false => exact .inl ⟨rfl, ExecutionHost.service_of_not_steps hsteps⟩
  | true =>
    have hserve := @ExecutionHost.service_of_steps servoJoints _ _ hsteps
    cases hrunning : w.host.isRunning with
    | false =>
      rw [hserve]
      exact .inl ⟨rfl, ExecutionHost.serviceStep_of_not_running hrunning⟩
    | true => exact .inr ⟨rfl, rfl, hserve⟩

theorem Matched.next (h : w.Matched) {e : ExecutionEvent} (hsmooth : w.host.Smooth servoJoints e) :
    (w.next servoJoints e).Matched := by
  cases e with
  | service inputs =>
    refine matched_marked fun hin => ?_
    rcases service_cases servoJoints w inputs with ⟨hidle, hquiet⟩ | ⟨hsteps, hrunning, hserve⟩
    · rw [hidle, ExecutionHost.serve, hquiet.1]
      exact h
    · obtain ⟨hwrites, -, hends⟩ := ExecutionHost.serviceStep_of_running hsteps hrunning hsmooth
      rw [ExecutionHost.serve, hserve] at hin ⊢
      have hlast : w.host.takesLast inputs.now = false := by
        by_contra hlast
        exact Bool.false_ne_true ((hends (by simpa using hlast)).symm.trans hin)
      rw [hwrites, ExecutionHost.due, hsteps, hrunning, hlast, Bool.or_false, h]
  | request request now => exact matched_marked fun _ => h
  | abort now reason detail => exact matched_marked fun _ => h
  | outside stopLatched safety servosConfigured binaryMotionActive =>
    exact matched_marked fun _ => h

theorem Matched.spaced_iff (h : w.Matched) {e : ExecutionEvent}
    (hsmooth : w.host.Smooth servoJoints e) : w.Spaced servoJoints e ↔ w.Attended e := by
  cases e with
  | service inputs =>
    rcases service_cases servoJoints w inputs with ⟨hidle, hquiet⟩ | ⟨hsteps, hrunning, hserve⟩
    · have hdue : w.host.due inputs.now = false := by rw [ExecutionHost.due, hidle, Bool.false_and]
      simp only [Spaced, Attended, hquiet.1, hquiet.2, hdue, Bool.false_eq_true, false_implies,
        and_self]
    · obtain ⟨hwrites, hreports, -⟩ := ExecutionHost.serviceStep_of_running hsteps hrunning hsmooth
      have hdue : w.host.takesLast inputs.now = true → w.host.due inputs.now = true := by
        intro hlast
        rw [ExecutionHost.due, hsteps, hrunning, hlast, Bool.or_true]
        rfl
      have hmarks : w.lastWrite = w.lastSlot := h
      simp only [Spaced, Attended, hserve, hwrites, hreports, slotsPassed_le_iff, hmarks]
      tauto
  | request request now => exact Iff.rfl
  | abort now reason detail => exact Iff.rfl
  | outside stopLatched safety servosConfigured binaryMotionActive => exact Iff.rfl

/-- **The writes of every run are a period and a lateness apart exactly if its calls attend the
slots of the grid**, as long as the calls are in time and the servo bus does what it is asked to. -/
theorem spaced_along_iff (servoJoints : ServoJoints) (host : ExecutionHost)
    (events : List ExecutionEvent)
    (hsmooth : Along (next servoJoints) (fun w e => w.host.Smooth servoJoints e) (begin host)
      events) :
    Along (next servoJoints) (fun w e => w.Spaced servoJoints e) (begin host) events ↔
      Along (next servoJoints) (fun w e => w.Attended e) (begin host) events :=
  @along_congr_along _ _ _ _ _ Matched _ (fun _ _ h he => h.next he)
    (fun _ _ h he => h.spaced_iff he) _ events rfl hsmooth

end Run

/-! ## 5. Two samples -/

namespace Bench

def servoJoints : ServoJoints := fun _ => ⟨1, 2048, 1024, 3072, 1⟩

def idleRoute : CommandRoute where
  executor :=
    { queue := .init, anchor := .zero, diagnostics := .zero, minimumStartSamples := 16,
      maximumApplyLatenessTicks := 5, anchorValid := false }
  limits := fun _ => ⟨0, 0⟩
  trajectorySequence := 0
  admittedBatches := 0
  trajectoryActive := false
  startRequested := false
  started := false

/-- A host that may be commanded. -/
def host : ExecutionHost :=
  { motion := .zero
    route := idleRoute
    routeReady := false
    stopLatched := false
    safety :=
      { Firmware.safetyInit 500 with state := .active, torqueDisableRequested := false }
    servosConfigured := true
    binaryMotionActive := false : ExecutionHost }.resetBufferedExecution servoJoints

/-- Two samples, at 1100 and at 1120, that are started at once. -/
def request : SetpointRequest where
  sequence := 7
  flags := 0x1E
  payload := [0x4C, 0x04, 0, 0, 2, 1, 0, 0] ++ List.replicate 52 0 ++ (20 :: List.replicate 51 0)

/-- A call of the service to which the servo bus does what it is asked to. -/
def call (now : Tick) : ExecutionEvent := .service ⟨now, now, .ok, false, .ok, .ok⟩

def events (ticks : List Tick) : List ExecutionEvent := .request request 1000 :: ticks.map call

end Bench

open Bench (events) in
/-- Every second slot is enough. -/
theorem spaced_along_iff_bench :
    Along (next Bench.servoJoints) (fun w e => w.Spaced Bench.servoJoints e) (begin Bench.host)
      (events [1080, 1090, 1095, 1101, 1105, 1115, 1121]) := by
  refine (spaced_along_iff _ _ _ ?_).mpr ?_
  · decide +kernel
  · decide +kernel

open Bench (events) in
/-- A host that calls a tick after every slot applies both samples in time, and writes the last
one alone. -/
theorem samples_unwritten :
    Along (next Bench.servoJoints) (fun w e => w.host.Smooth Bench.servoJoints e)
        (begin Bench.host) (events [1081, 1086, 1091, 1096, 1101, 1106, 1111, 1116, 1121]) ∧
      ¬ Along (next Bench.servoJoints) (fun w e => w.Spaced Bench.servoJoints e)
        (begin Bench.host) (events [1081, 1086, 1091, 1096, 1101, 1106, 1111, 1116, 1121]) := by
  constructor
  · decide +kernel
  · decide +kernel

end Spacing

end MobileBimanual.Buffered
