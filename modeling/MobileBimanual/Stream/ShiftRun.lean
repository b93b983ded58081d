/-
# Moving the zero of the tick counter: the executor and its runs

A run whose ticks are all moved by `k` shows what the run showed (`tick_equivariance`).  Nothing
the executor does depends on where the counter wraps.

The executor keeps ticks of its own: the anchor's, the control epoch, the last step's, the last
command's and the terminal one.  Until they are set they hold leftovers, which do not move.  So
the moved executor is `moved k marks executor`, with these ticks given by `marks`, and
`Marks.Good` says which of them must be the moved ones: those that a flag or the state says are
set.
-/
import MobileBimanual.Stream.Shift
import MobileBimanual.Stream.Run

namespace MobileBimanual.Stream

/-! ## 1. The moved executor -/

/-- The fields of an executor that hold ticks of its own. -/
structure Marks where
  anchor : Setpoint
  controlEpochTick : Tick
  lastStepTick : Tick
  lastCommandTick : Tick
  terminalTick : Tick

def moved (k : Tick) (marks : Marks) (executor : StreamExecutor) : StreamExecutor :=
  { executor with
    session := executor.session.shift k
    anchor := marks.anchor
    controlEpochTick := marks.controlEpochTick
    lastStepTick := marks.lastStepTick
    diagnostics :=
      { executor.diagnostics with
        lastCommandTick := marks.lastCommandTick
        terminalTick := marks.terminalTick } }

/-- The ticks that are set are the moved ones. -/
structure Marks.Good (k : Tick) (executor : StreamExecutor) (marks : Marks) : Prop where
  horizon : KeepsMark k executor.session.horizonEndTick
  anchor : executor.anchorValid = true →
    marks.anchor = executor.anchor.shift k ∧
      marks.controlEpochTick = executor.controlEpochTick + k
  lastStep : executor.lastStepValid = true → marks.lastStepTick = executor.lastStepTick + k
  commanded : executor.diagnostics.state = .running ∨ executor.queue ≠ [] →
    marks.lastCommandTick = executor.diagnostics.lastCommandTick + k

def Shifted (k : Tick) (executor executor' : StreamExecutor) : Prop :=
  ∃ marks : Marks, executor' = moved k marks executor ∧ marks.Good k executor

section Moved

variable {k : Tick} {marks : Marks} {executor : StreamExecutor}

@[simp] theorem moved_queue : (moved k marks executor).queue =
    executor.queue.map (Setpoint.shift k) := rfl

theorem updateQueueDiagnostics_moved :
    updateQueueDiagnostics (moved k marks executor) =
      moved k marks (updateQueueDiagnostics executor) := by
  unfold updateQueueDiagnostics
  rw [moved_queue, List.length_map]
  rfl

theorem consumeFirstSample_moved (k : Tick) (marks : Marks) (executor : StreamExecutor) :
    consumeFirstSample (moved k marks executor) = moved k marks (consumeFirstSample executor) := by
  have htail : (executor.session.validatedSamples.shift k).tail =
      executor.session.validatedSamples.tail.shift k := by
    rw [SampleQueue.tail, SampleQueue.shift, SampleQueue.mk.injEq]
    exact List.map_tail.symm
  unfold consumeFirstSample
  rw [← updateQueueDiagnostics_moved]
  congr 1
  simp only [moved, StreamSession.shift, htail]

theorem firstControlTickAtOrAfter_shift (controlEpochTick applyTick : Tick) :
    firstControlTickAtOrAfter (controlEpochTick + k) (applyTick + k) =
      firstControlTickAtOrAfter controlEpochTick applyTick + k := by
  unfold firstControlTickAtOrAfter
  rw [sub_shift]
  exact add_right_comm _ _ _

theorem due_moved (hepoch : marks.controlEpochTick = executor.controlEpochTick + k)
    (sample : Setpoint) :
    (moved k marks executor).due (sample.shift k) = executor.due sample + k := by
  have hmoved : (moved k marks executor).controlEpochTick = executor.controlEpochTick + k := hepoch
  rw [StreamExecutor.due, hmoved]
  exact firstControlTickAtOrAfter_shift _ _

end Moved

/-! ## 2. Opening, admission and start -/

section Commands

variable {k : Tick} {executor executor' : StreamExecutor}

theorem Shifted.state (h : Shifted k executor executor') :
    executor'.diagnostics.state = executor.diagnostics.state := by
  obtain ⟨marks, rfl, -⟩ := h
  rfl

/-- What a session call leaves in the diagnostics moves nothing. -/
theorem shifted_recordSession (h : Shifted k executor executor')
    {result result' : StreamSessionResult} (hverdict : SameVerdict result result') :
    Shifted k (recordSession executor executor.session result)
      (recordSession executor' executor'.session result') := by
  obtain ⟨marks, rfl, hgood⟩ := h
  refine ⟨marks, ?_, ⟨hgood.horizon, hgood.anchor, hgood.lastStep, hgood.commanded⟩⟩
  unfold recordSession
  rw [hverdict.1, hverdict.2]
  rfl

theorem shifted_recordContractResult (h : Shifted k executor executor')
    (result : ContractResult) :
    Shifted k (recordContractResult executor result) (recordContractResult executor' result) := by
  obtain ⟨marks, rfl, hgood⟩ := h
  exact ⟨marks, rfl, ⟨hgood.horizon, hgood.anchor, hgood.lastStep, hgood.commanded⟩⟩

variable {payload : List Byte}

theorem streamExecutorOpen_refused {currentTick : Tick} {result : ContractResult}
    (hrunning : executor.diagnostics.state ≠ .running)
    (haccept : acceptPolicy payload executor.hardCaps currentTick = .error result) :
    streamExecutorOpen executor payload currentTick =
      (recordSession executor executor.session
        (resultFromSession executor.session .contractRejected result), .contractRejected) := by
  have hne : result ≠ .ok := acceptPolicy_error haccept
  unfold streamExecutorOpen streamSessionOpen
  rw [if_neg hrunning, haccept]
  exact if_pos hne

theorem streamExecutorOpen_accepted {currentTick : Tick} {policy : StreamPolicy}
    (hrunning : executor.diagnostics.state ≠ .running)
    (haccept : acceptPolicy payload executor.hardCaps currentTick = .ok policy) :
    streamExecutorOpen executor payload currentTick =
      (primed executor (openedSession policy)
        (resultFromSession (openedSession policy) .validationOnly .ok), .ok) := by
  unfold streamExecutorOpen streamSessionOpen
  rw [if_neg hrunning, haccept]
  exact if_neg (not_not.mpr rfl)

theorem streamExecutorOpen_shift (h : Shifted k executor executor')
    (hhorizon : KeepsMark k (readU32Le payload 8)) (currentTick : Tick) :
    Shifted k (streamExecutorOpen executor payload currentTick).1
        (streamExecutorOpen executor' (shiftOpen k payload) (currentTick + k)).1 ∧
      (streamExecutorOpen executor' (shiftOpen k payload) (currentTick + k)).2 =
        (streamExecutorOpen executor payload currentTick).2 := by
  have hcaps : executor'.hardCaps = executor.hardCaps := by
    obtain ⟨marks, rfl, -⟩ := h
    rfl
  by_cases hrunning : executor.diagnostics.state = .running
  · unfold streamExecutorOpen
    rw [if_pos (h.state.trans hrunning), if_pos hrunning]
    exact ⟨h, rfl⟩
  · have hrunning' : executor'.diagnostics.state ≠ .running := by
      rw [h.state]
      exact hrunning
    have hshift := acceptPolicy_shift hhorizon executor.hardCaps currentTick
    rw [← hcaps] at hshift
    cases haccept : acceptPolicy payload executor.hardCaps currentTick with
    | error result =>
      rw [hcaps, haccept, ← hcaps] at hshift
      rw [streamExecutorOpen_refused hrunning haccept,
        streamExecutorOpen_refused hrunning' hshift]
      exact ⟨shifted_recordSession h ⟨rfl, rfl⟩, rfl⟩
    | ok policy =>
      have hmark : KeepsMark k policy.horizonEndTick := by
        rw [acceptPolicy_horizon haccept]
        exact hhorizon
      rw [hcaps, haccept, ← hcaps] at hshift
      rw [streamExecutorOpen_accepted hrunning haccept,
        streamExecutorOpen_accepted hrunning' hshift]
      obtain ⟨marks, rfl, -⟩ := h
      refine ⟨⟨⟨Setpoint.zero, marks.controlEpochTick, marks.lastStepTick, 0, 0⟩, rfl, ?_⟩, rfl⟩
      refine ⟨hmark, ?_, ?_, ?_⟩
      · intro hvalid
        cases hvalid
      · intro hvalid
        cases hvalid
      · rintro (hlive | hqueue)
        · cases hlive
        · exact absurd rfl hqueue

/-! ### Admission -/

theorem headD_shift_positionUrad (samples : List Setpoint) :
    ((samples.map (Setpoint.shift k)).headD Setpoint.zero).positionUrad =
      (samples.headD Setpoint.zero).positionUrad := by
  cases samples with
  | nil => rfl
  | cons sample samples => rfl

theorem appendTailDiscontinuous_shift (session : StreamSession) (batch : Batch)
    (kind : BatchKind) :
    appendTailDiscontinuous (session.shift k) (batch.shift k) kind =
      appendTailDiscontinuous session batch kind := by
  have hposition : (batch.shift k).firstSample.positionUrad = batch.firstSample.positionUrad :=
    headD_shift_positionUrad batch.samples
  have hfirst : (batch.shift k).firstApplyTick = batch.firstApplyTick + k := rfl
  cases kind with
  | splice => rfl
  | append =>
    unfold appendTailDiscontinuous
    rw [tailSample_shift]
    cases session.tailSample with
    | none => rfl
    | some tail =>
      simp only [Option.map_some, hfirst, hposition, Setpoint.shift_applyTick,
        Setpoint.shift_positionUrad, tickIsAfter_shift, sub_shift]
      rfl

theorem anyOutOfLimits_shift (jointLimits : JointLimits) (samples : List Setpoint) :
    ((samples.map (Setpoint.shift k)).any fun sample =>
        !positionsWithinLimits jointLimits sample.positionUrad) =
      samples.any fun sample => !positionsWithinLimits jointLimits sample.positionUrad := by
  rw [List.any_map]
  rfl

/-- What the executor does with the session's answer to a batch. -/
def settleAdmission (executor : StreamExecutor) (decoded : Batch) (kind : BatchKind)
    (currentTick : Tick) (answer : StreamSession × StreamSessionResult) :
    StreamExecutor × ExecutorResult :=
  if answer.2.contractResult ≠ .ok ∨ answer.2.statusCode ≠ .validationOnly then
    (recordSession executor answer.1 answer.2, .batchRejected)
  else
    (countAdmission (recordSession executor answer.1 answer.2) decoded kind currentTick, .ok)

theorem settleAdmission_shift (h : Shifted k executor executor')
    {answer answer' : StreamSession × StreamSessionResult}
    (hsession : answer'.1 = answer.1.shift k) (hverdict : SameVerdict answer.2 answer'.2)
    (hrefused : answer.2.contractResult ≠ .ok ∨ answer.2.statusCode ≠ .validationOnly →
      answer.1 = executor.session)
    (hhorizon : KeepsMark k answer.1.horizonEndTick) (decoded : Batch) (kind : BatchKind)
    (currentTick : Tick) :
    Shifted k (settleAdmission executor decoded kind currentTick answer).1
        (settleAdmission executor' (decoded.shift k) kind (currentTick + k) answer').1 ∧
      (settleAdmission executor' (decoded.shift k) kind (currentTick + k) answer').2 =
        (settleAdmission executor decoded kind currentTick answer).2 := by
  have hsame := shifted_recordSession h hverdict
  unfold settleAdmission
  rw [hverdict.1, hverdict.2]
  by_cases hbad : answer.2.contractResult ≠ .ok ∨ answer.2.statusCode ≠ .validationOnly
  · have hsession' : answer'.1 = executor'.session := by
      obtain ⟨marks, rfl, -⟩ := h
      rw [hsession, hrefused hbad]
      rfl
    rw [if_pos hbad, if_pos hbad, hrefused hbad, hsession']
    exact ⟨hsame, rfl⟩
  · rw [if_neg hbad, if_neg hbad]
    obtain ⟨marks, rfl, hgood⟩ := h
    refine ⟨⟨{ marks with lastCommandTick := currentTick + k }, ?_, ?_⟩, rfl⟩
    · have hlength : (decoded.shift k).samples.length = decoded.samples.length :=
        List.length_map _
      unfold countAdmission
      rw [← updateQueueDiagnostics_moved, hlength]
      simp only [recordSession, moved, hsession, hverdict.1, hverdict.2]
    · exact ⟨hhorizon, hgood.anchor, hgood.lastStep, fun _ => rfl⟩

theorem streamExecutorAdmit_shift (h : Shifted k executor executor')
    (hhorizon : KeepsMark k (readU32Le payload 4)) (hsplice : KeepsMark k (readU32Le payload 12))
    (kind : BatchKind) (currentTick : Tick) :
    Shifted k (streamExecutorAdmit executor payload kind currentTick).1
        (streamExecutorAdmit executor' (shiftBatch k payload) kind (currentTick + k)).1 ∧
      (streamExecutorAdmit executor' (shiftBatch k payload) kind (currentTick + k)).2 =
        (streamExecutorAdmit executor payload kind currentTick).2 := by
  have hsession : executor'.session = executor.session.shift k := by
    obtain ⟨marks, rfl, -⟩ := h
    rfl
  have hlimits : executor'.jointLimits = executor.jointLimits := by
    obtain ⟨marks, rfl, -⟩ := h
    rfl
  have hmark : KeepsMark k executor.session.horizonEndTick := by
    obtain ⟨marks, rfl, hgood⟩ := h
    exact hgood.horizon
  unfold streamExecutorAdmit
  rw [h.state, batchDecode_shiftBatch hsplice, hsession, hlimits]
  by_cases hdead : executor.diagnostics.state ≠ .priming ∧ executor.diagnostics.state ≠ .running
  · rw [if_pos hdead, if_pos hdead]
    exact ⟨h, rfl⟩
  rw [if_neg hdead, if_neg hdead]
  cases batchDecode payload kind with
  | error result => exact ⟨shifted_recordContractResult h result, rfl⟩
  | ok decoded =>
    have hlimit : ((decoded.shift k).samples.any fun sample =>
        !positionsWithinLimits executor.jointLimits sample.positionUrad) =
        decoded.samples.any fun sample =>
          !positionsWithinLimits executor.jointLimits sample.positionUrad :=
      anyOutOfLimits_shift executor.jointLimits decoded.samples
    simp only [Except.map, hlimit, appendTailDiscontinuous_shift]
    by_cases hoff : (decoded.samples.any fun sample =>
        !positionsWithinLimits executor.jointLimits sample.positionUrad) = true
    · rw [if_pos hoff, if_pos hoff]
      exact ⟨h, rfl⟩
    rw [if_neg hoff, if_neg hoff]
    by_cases htail : appendTailDiscontinuous executor.session decoded kind = true
    · rw [if_pos htail, if_pos htail]
      exact ⟨shifted_recordContractResult h .sampleDiscontinuity, rfl⟩
    rw [if_neg htail, if_neg htail]
    obtain ⟨hmoved, hverdict⟩ :=
      streamSessionBatch_shift kind hhorizon hsplice hmark currentTick
    refine settleAdmission_shift h hmoved hverdict ?_
      (keepsMark_streamSessionBatch hhorizon hmark currentTick) decoded kind currentTick
    intro hrefused
    rcases streamSessionBatch_cases executor.session payload kind currentTick with
      ⟨status, contract, -, heq⟩ | ⟨batch, haccepts, heq⟩
    · rw [heq]
    · rw [heq] at hrefused
      rcases hrefused with hcontract | hstatus
      · exact absurd rfl hcontract
      · exact absurd rfl hstatus

/-! ### Start -/

theorem streamExecutorStart_shift (h : Shifted k executor executor') (hsound : Sound executor)
    (currentTick : Tick) (positionUrad : Joints) :
    Shifted k (streamExecutorStart executor currentTick positionUrad).1
        (streamExecutorStart executor' (currentTick + k) positionUrad).1 ∧
      (streamExecutorStart executor' (currentTick + k) positionUrad).2 =
        (streamExecutorStart executor currentTick positionUrad).2 := by
  obtain ⟨marks, rfl, hgood⟩ := h
  have hstate' : (moved k marks executor).diagnostics.state = executor.diagnostics.state := rfl
  have hminimum : (moved k marks executor).session.policy.minimumStartSamples =
      executor.session.policy.minimumStartSamples := rfl
  unfold streamExecutorStart
  rw [hstate', hminimum, moved_queue, List.length_map]
  by_cases hstate : executor.diagnostics.state ≠ .priming
  · rw [if_pos hstate, if_pos hstate]
    exact ⟨⟨marks, rfl, hgood⟩, rfl⟩
  rw [if_neg hstate, if_neg hstate]
  by_cases hshort : executor.queue.length < executor.session.policy.minimumStartSamples.toNat
  · rw [if_pos hshort, if_pos hshort]
    exact ⟨⟨marks, rfl, hgood⟩, rfl⟩
  rw [if_neg hshort, if_neg hshort]
  -- a PRIMING executor wants at least one sample, so there is a first one here
  have hstart := (hsound.isOpen (Or.inl (not_not.mp hstate))).2.start
  obtain ⟨first, rest, hqueue⟩ : ∃ first rest, executor.queue = first :: rest := by
    refine List.exists_cons_of_ne_nil ?_
    intro hnil
    rw [hnil, List.length_nil] at hshort
    omega
  have hfirst : (moved k marks executor).firstSample = executor.firstSample.shift k := by
    rw [StreamExecutor.firstSample, StreamExecutor.firstSample, moved_queue, hqueue]
    rfl
  have hlimits : (moved k marks executor).jointLimits = executor.jointLimits := rfl
  have hticks : startOutputTicks (moved k marks executor) (currentTick + k) =
      startOutputTicks executor currentTick := by
    rw [startOutputTicks, hfirst, Setpoint.shift_applyTick, sub_shift, startOutputTicks]
  have hrate : exceedsRate (moved k marks executor).session.policy =
      exceedsRate executor.session.policy := rfl
  rw [hfirst, hlimits, hticks, hrate, Setpoint.shift_applyTick, Setpoint.shift_positionUrad,
    tickIsAfter_shift]
  split_ifs
  · exact ⟨⟨marks, rfl, hgood⟩, rfl⟩
  · exact ⟨⟨marks, rfl, hgood⟩, rfl⟩
  · refine ⟨⟨{ marks with
        anchor := { applyTick := currentTick + k, positionUrad := positionUrad }
        controlEpochTick := currentTick + k
        lastStepTick := currentTick + k }, rfl, ?_⟩, rfl⟩
    refine ⟨hgood.horizon, fun _ => ⟨rfl, rfl⟩, fun _ => rfl, fun _ => ?_⟩
    exact hgood.commanded (Or.inr (by rw [hqueue]; exact List.cons_ne_nil _ _))

end Commands

/-! ## 3. The control step -/

section Step

variable {k : Tick} {marks : Marks} {executor : StreamExecutor} {currentTick : Tick}

/-- An executor that was RUNNING before a step keeps the tick of its last command. -/
theorem shifted_terminate (hgood : marks.Good k executor)
    (hcommand : marks.lastCommandTick = executor.diagnostics.lastCommandTick + k)
    (state : ExecutorState) (reason : TerminalReason) (safeStopRequired : Bool) :
    Shifted k (terminate executor state reason currentTick safeStopRequired)
      (terminate (moved k marks executor) state reason (currentTick + k) safeStopRequired) :=
  ⟨{ marks with terminalTick := currentTick + k }, rfl,
    ⟨hgood.horizon, hgood.anchor, hgood.lastStep, fun _ => hcommand⟩⟩

theorem good_recordOutput (hgood : marks.Good k executor) (outputUrad : Joints) :
    marks.Good k (recordOutput executor outputUrad) :=
  ⟨hgood.horizon, hgood.anchor, hgood.lastStep, hgood.commanded⟩

theorem applyFirstSample_moved (sample : Setpoint) (lateness : Tick) :
    applyFirstSample (moved k marks executor) (sample.shift k) lateness =
      moved k { marks with anchor := sample.shift k }
        (applyFirstSample executor sample lateness) :=
  congrArg (fun e : StreamExecutor =>
      recordOutput
        { e with
          diagnostics :=
            { e.diagnostics with appliedSamples := e.diagnostics.appliedSamples + 1 } }
        sample.positionUrad)
    (consumeFirstSample_moved k { marks with anchor := sample.shift k }
      { executor with
        anchor := sample
        diagnostics :=
          { executor.diagnostics with
            maximumApplyLatenessMs :=
              if lateness > executor.diagnostics.maximumApplyLatenessMs then lateness
              else executor.diagnostics.maximumApplyLatenessMs } })

theorem good_applyFirstSample (hgood : marks.Good k executor) (hvalid : executor.anchorValid = true)
    (hcommand : marks.lastCommandTick = executor.diagnostics.lastCommandTick + k)
    (sample : Setpoint) (lateness : Tick) :
    ({ marks with anchor := sample.shift k } : Marks).Good k
      (applyFirstSample executor sample lateness) :=
  ⟨hgood.horizon, fun _ => ⟨rfl, (hgood.anchor hvalid).2⟩, hgood.lastStep, fun _ => hcommand⟩

theorem horizonReached_moved (hhorizon : KeepsMark k executor.session.horizonEndTick)
    (hanchor : marks.anchor = executor.anchor.shift k) :
    horizonReached (moved k marks executor) = horizonReached executor := by
  have hanchor' : (moved k marks executor).anchor.applyTick = executor.anchor.applyTick + k := by
    rw [← Setpoint.shift_applyTick, ← hanchor]
    rfl
  have hsession : (moved k marks executor).session.horizonEndTick =
      shiftMark k executor.session.horizonEndTick := rfl
  have hqueue : (moved k marks executor).queue.isEmpty = executor.queue.isEmpty := by
    rw [moved_queue, List.isEmpty_map]
  unfold horizonReached
  rw [hanchor', hsession, hqueue]
  by_cases hnone : executor.session.horizonEndTick = 0
  · simp [hnone, shiftMark]
  · have hmark := hhorizon hnone
    rw [shiftMark_of_ne hnone]
    congr 2
    · rw [Bool.eq_iff_iff, bne_iff_ne, bne_iff_ne]
      exact iff_of_true hmark hnone
    · rw [Bool.eq_iff_iff, beq_iff_eq, beq_iff_eq, BitVec.add_left_inj]

/-- A step and its moved step: related executors, the same result and the same output. -/
def SameStep (k : Tick) (step step' : StreamExecutor × ExecutorResult × Option Joints) : Prop :=
  Shifted k step.1 step'.1 ∧ step'.2 = step.2

theorem stepApply_shift (hgood : marks.Good k executor) (hvalid : executor.anchorValid = true)
    (hcommand : marks.lastCommandTick = executor.diagnostics.lastCommandTick + k)
    (sample : Setpoint) :
    SameStep k (stepApply executor sample currentTick)
      (stepApply (moved k marks executor) (sample.shift k) (currentTick + k)) := by
  have hdue := due_moved (hgood.anchor hvalid).2 sample
  have hlateness : (moved k marks executor).session.policy.maximumApplyLatenessMs =
      executor.session.policy.maximumApplyLatenessMs := rfl
  have happly := good_applyFirstSample hgood hvalid hcommand sample
    (currentTick - executor.due sample)
  have hreached := horizonReached_moved happly.horizon (happly.anchor hvalid).1
  unfold stepApply
  rw [hdue, sub_shift, hlateness, applyFirstSample_moved, hreached]
  split_ifs
  · exact ⟨shifted_terminate hgood hcommand _ _ _, rfl⟩
  · exact ⟨shifted_terminate happly hcommand _ _ _, rfl⟩
  · exact ⟨⟨_, rfl, happly⟩, rfl⟩

theorem stepInterpolate_shift (hgood : marks.Good k executor)
    (hvalid : executor.anchorValid = true)
    (hcommand : marks.lastCommandTick = executor.diagnostics.lastCommandTick + k)
    (sample : Setpoint) :
    SameStep k (stepInterpolate executor sample currentTick)
      (stepInterpolate (moved k marks executor) (sample.shift k) (currentTick + k)) := by
  have hdue := due_moved (hgood.anchor hvalid).2 sample
  have hanchor : (moved k marks executor).anchor = executor.anchor.shift k :=
    (hgood.anchor hvalid).1
  have hdueAnchor := due_moved (hgood.anchor hvalid).2 executor.anchor
  rw [← hanchor] at hdueAnchor
  have htowards : (moved k marks executor).towards (sample.shift k) (currentTick + k) =
      executor.towards sample currentTick := by
    unfold StreamExecutor.towards
    rw [hdue, hdueAnchor, sub_shift, sub_shift, hanchor]
    rfl
  unfold stepInterpolate
  rw [hdue, hdueAnchor, sub_shift, sub_shift, htowards]
  split_ifs
  · exact ⟨shifted_terminate hgood hcommand _ _ _, rfl⟩
  · exact ⟨⟨marks, rfl, good_recordOutput hgood _⟩, rfl⟩

theorem stepRunning_shift (hgood : marks.Good k executor) (hvalid : executor.anchorValid = true)
    (hcommand : marks.lastCommandTick = executor.diagnostics.lastCommandTick + k) :
    SameStep k (stepRunning executor currentTick)
      (stepRunning (moved k marks executor) (currentTick + k)) := by
  have hhorizon : (moved k marks executor).session.horizonEndTick = 0 ↔
      executor.session.horizonEndTick = 0 := shiftMark_eq_zero_iff hgood.horizon
  have hlast : (moved k marks executor).diagnostics.lastCommandTick =
      executor.diagnostics.lastCommandTick + k := hcommand
  have htimeout : (moved k marks executor).session.policy.commandTimeoutMs =
      executor.session.policy.commandTimeoutMs := rfl
  have hposition : (moved k marks executor).anchor.positionUrad =
      (executor.anchor.shift k).positionUrad :=
    congrArg Setpoint.positionUrad (hgood.anchor hvalid).1
  rw [Setpoint.shift_positionUrad] at hposition
  unfold stepRunning
  simp only [ne_eq, hhorizon, hlast, htimeout, hposition, sub_shift, moved_queue]
  by_cases hlate : executor.session.horizonEndTick = 0 ∧
      currentTick - executor.diagnostics.lastCommandTick > executor.session.policy.commandTimeoutMs
  · rw [if_pos hlate, if_pos hlate]
    exact ⟨shifted_terminate (good_recordOutput hgood _) hcommand _ _ _, rfl⟩
  rw [if_neg hlate, if_neg hlate]
  cases executor.queue with
  | nil =>
    simp only [List.map_nil]
    by_cases hopen : executor.session.horizonEndTick = 0
    · rw [if_neg (not_not.mpr hopen), if_neg (not_not.mpr hopen)]
      exact ⟨⟨marks, rfl, good_recordOutput hgood _⟩, rfl⟩
    · rw [if_pos hopen, if_pos hopen]
      exact ⟨shifted_terminate hgood hcommand _ _ _, rfl⟩
  | cons sample rest =>
    simp only [List.map_cons, due_moved (hgood.anchor hvalid).2, tickIsBefore_shift]
    by_cases hdue : (!tickIsBefore currentTick (executor.due sample)) = true
    · rw [if_pos hdue, if_pos hdue]
      exact stepApply_shift hgood hvalid hcommand sample
    · rw [if_neg hdue, if_neg hdue]
      exact stepInterpolate_shift hgood hvalid hcommand sample

theorem streamExecutorStep_shift {executor' : StreamExecutor} (h : Shifted k executor executor')
    (currentTick : Tick) :
    SameStep k (streamExecutorStep executor currentTick)
      (streamExecutorStep executor' (currentTick + k)) := by
  obtain ⟨marks, rfl, hgood⟩ := h
  have hstate : (moved k marks executor).diagnostics.state = executor.diagnostics.state := rfl
  have hanchorValid : (moved k marks executor).anchorValid = executor.anchorValid := rfl
  have hlastValid : (moved k marks executor).lastStepValid = executor.lastStepValid := rfl
  unfold streamExecutorStep
  rw [hstate, hanchorValid, hlastValid]
  by_cases hpriming : executor.diagnostics.state = .priming
  · rw [if_pos hpriming, if_pos hpriming]
    exact ⟨⟨marks, rfl, hgood⟩, rfl⟩
  rw [if_neg hpriming, if_neg hpriming]
  by_cases hdead : executor.diagnostics.state ≠ .running ∨ !executor.anchorValid
  · rw [if_pos hdead, if_pos hdead]
    exact ⟨⟨marks, rfl, hgood⟩, rfl⟩
  rw [if_neg hdead, if_neg hdead]
  obtain ⟨hrunning, hvalid⟩ := not_or.mp hdead
  have hvalid : executor.anchorValid = true := by simpa using hvalid
  have hcommand := hgood.commanded (Or.inl (not_not.mp hrunning))
  have hanchorTick : (moved k marks executor).anchor.applyTick =
      (executor.anchor.shift k).applyTick :=
    congrArg Setpoint.applyTick (hgood.anchor hvalid).1
  have hback : (executor.lastStepValid = true ∧
        tickIsBefore (currentTick + k) (moved k marks executor).lastStepTick = true) ↔
      (executor.lastStepValid = true ∧
        tickIsBefore currentTick executor.lastStepTick = true) := by
    refine and_congr_right fun hset => ?_
    have hlast : (moved k marks executor).lastStepTick = executor.lastStepTick + k :=
      hgood.lastStep hset
    rw [hlast, tickIsBefore_shift]
  simp only [hback, hanchorTick, Setpoint.shift_applyTick, tickIsBefore_shift]
  split_ifs
  · exact ⟨shifted_terminate hgood hcommand _ _ _, rfl⟩
  · have hticked : ({ marks with lastStepTick := currentTick + k } : Marks).Good k
        (ticked executor currentTick) :=
      ⟨hgood.horizon, hgood.anchor, fun _ => rfl, hgood.commanded⟩
    exact stepRunning_shift hticked hvalid hcommand

end Step

/-! ## 4. Feedback -/

section Feedback

variable {k : Tick} {executor executor' : StreamExecutor}

theorem checkTrackingError_shift (h : Shifted k executor executor') (currentTick : Tick)
    (joint : Joint) (commandedUrad measuredUrad : Urad) :
    Shifted k (checkTrackingError executor currentTick joint commandedUrad measuredUrad).1
        (checkTrackingError executor' (currentTick + k) joint commandedUrad measuredUrad).1 ∧
      (checkTrackingError executor' (currentTick + k) joint commandedUrad measuredUrad).2 =
        (checkTrackingError executor currentTick joint commandedUrad measuredUrad).2 := by
  obtain ⟨marks, rfl, hgood⟩ := h
  have hlimit : ∀ e : StreamExecutor,
      (moved k marks e).session.policy.trackingErrorLimitUrad joint =
        e.session.policy.trackingErrorLimitUrad joint := fun _ => rfl
  have hrecord : ∀ error, recordTrackingError (moved k marks executor) joint error =
      moved k marks (recordTrackingError executor joint error) := fun _ => rfl
  unfold checkTrackingError
  simp only [hrecord, hlimit]
  split_ifs
  · refine ⟨⟨{ marks with terminalTick := currentTick + k }, rfl, ?_⟩, rfl⟩
    refine ⟨hgood.horizon, hgood.anchor, hgood.lastStep, ?_⟩
    rintro (hrunning | hqueue)
    · cases hrunning
    · exact hgood.commanded (Or.inr hqueue)
  · exact ⟨⟨marks, rfl, ⟨hgood.horizon, hgood.anchor, hgood.lastStep, hgood.commanded⟩⟩, rfl⟩

theorem streamExecutorCheckJointFeedback_shift (h : Shifted k executor executor')
    (currentTick : Tick) (joint : Byte) (commandedUrad measuredUrad : Urad) :
    Shifted k
        (streamExecutorCheckJointFeedback executor currentTick joint commandedUrad measuredUrad).1
        (streamExecutorCheckJointFeedback executor' (currentTick + k) joint commandedUrad
          measuredUrad).1 ∧
      (streamExecutorCheckJointFeedback executor' (currentTick + k) joint commandedUrad
          measuredUrad).2 =
        (streamExecutorCheckJointFeedback executor currentTick joint commandedUrad
          measuredUrad).2 := by
  have houtput : executor'.outputValid = executor.outputValid := by
    obtain ⟨marks, rfl, -⟩ := h
    rfl
  unfold streamExecutorCheckJointFeedback
  rw [h.state, houtput]
  split_ifs with hjoint
  · exact ⟨h, rfl⟩
  · obtain ⟨hnext, hsame⟩ :=
      checkTrackingError_shift h currentTick ⟨joint.toNat, hjoint⟩ commandedUrad measuredUrad
    cases hleft : checkTrackingError executor currentTick ⟨joint.toNat, hjoint⟩ commandedUrad
      measuredUrad with
    | mk left terminated =>
      cases hright : checkTrackingError executor' (currentTick + k) ⟨joint.toNat, hjoint⟩
        commandedUrad measuredUrad with
      | mk right terminated' =>
        rw [hleft, hright] at hnext hsame
        cases hsame
        cases terminated with
        | true => exact ⟨hnext, rfl⟩
        | false => exact ⟨hnext, rfl⟩
  · exact ⟨h, rfl⟩

theorem checkFeedbackJoints_shift (currentTick : Tick) (measuredUrad : Joints) :
    ∀ (joints : List Joint) {executor executor' : StreamExecutor}, Shifted k executor executor' →
      Shifted k (checkFeedbackJoints currentTick measuredUrad joints executor).1
          (checkFeedbackJoints (currentTick + k) measuredUrad joints executor').1 ∧
        (checkFeedbackJoints (currentTick + k) measuredUrad joints executor').2 =
          (checkFeedbackJoints currentTick measuredUrad joints executor).2
  | [], _, _, h => ⟨h, rfl⟩
  | joint :: joints, executor, executor', h => by
    have houtput : executor'.lastOutputUrad = executor.lastOutputUrad := by
      obtain ⟨marks, rfl, -⟩ := h
      rfl
    obtain ⟨hnext, hsame⟩ := checkTrackingError_shift h currentTick joint
      (executor.lastOutputUrad joint) (measuredUrad joint)
    rw [checkFeedbackJoints, checkFeedbackJoints, houtput]
    cases hleft : checkTrackingError executor currentTick joint (executor.lastOutputUrad joint)
      (measuredUrad joint) with
    | mk left terminated =>
      cases hright : checkTrackingError executor' (currentTick + k) joint
        (executor.lastOutputUrad joint) (measuredUrad joint) with
      | mk right terminated' =>
        rw [hleft, hright] at hnext hsame
        cases hsame
        cases terminated with
        | true => exact ⟨hnext, rfl⟩
        | false => exact checkFeedbackJoints_shift currentTick measuredUrad joints hnext

theorem streamExecutorCheckFeedback_shift (h : Shifted k executor executor') (currentTick : Tick)
    (measuredUrad : Joints) :
    Shifted k (streamExecutorCheckFeedback executor currentTick measuredUrad).1
        (streamExecutorCheckFeedback executor' (currentTick + k) measuredUrad).1 ∧
      (streamExecutorCheckFeedback executor' (currentTick + k) measuredUrad).2 =
        (streamExecutorCheckFeedback executor currentTick measuredUrad).2 := by
  have houtput : executor'.outputValid = executor.outputValid := by
    obtain ⟨marks, rfl, -⟩ := h
    rfl
  unfold streamExecutorCheckFeedback
  rw [h.state, houtput]
  split_ifs
  · exact ⟨h, rfl⟩
  · exact checkFeedbackJoints_shift currentTick measuredUrad _ h

end Feedback

/-! ## 5. Runs -/

def Call.shift (k : Tick) : Call → Call
  | .openStream payload => .openStream (shiftOpen k payload)
  | .admitBatch payload kind => .admitBatch (shiftBatch k payload) kind
  | call => call

def Event.shift (k : Tick) (event : Event) : Event where
  tick := event.tick + k
  call := event.call.shift k

/-- The horizon and splice ticks of the event stay what they are, there or not there. -/
def Event.KeepsMarks (k : Tick) (event : Event) : Prop :=
  match event.call with
  | .openStream payload => KeepsMark k (readU32Le payload 8)
  | .admitBatch payload _ => KeepsMark k (readU32Le payload 4) ∧ KeepsMark k (readU32Le payload 12)
  | _ => True

instance (k : Tick) : (event : Event) → Decidable (event.KeepsMarks k)
  | ⟨_, .openStream payload⟩ => inferInstanceAs (Decidable (KeepsMark k (readU32Le payload 8)))
  | ⟨_, .admitBatch payload _⟩ =>
    inferInstanceAs (Decidable (KeepsMark k (readU32Le payload 4) ∧
      KeepsMark k (readU32Le payload 12)))
  | ⟨_, .start _⟩ | ⟨_, .step⟩ | ⟨_, .checkJointFeedback ..⟩ | ⟨_, .checkFeedback _⟩
  | ⟨_, .noteFailedJoint _⟩ => isTrue trivial

/-- What a call shows: its result, the output it writes, and the state, the terminal reason and
the two statuses that it leaves. -/
structure Observation where
  result : ExecutorResult
  output : Option Joints
  state : ExecutorState
  terminalReason : TerminalReason
  lastStreamStatus : StreamStatusCode
  lastContractResult : ContractResult

def observe (executor : StreamExecutor) (event : Event) : Observation where
  result := (perform executor event).2.1
  output := (perform executor event).2.2
  state := (next executor event).diagnostics.state
  terminalReason := (next executor event).diagnostics.terminalReason
  lastStreamStatus := (next executor event).diagnostics.lastStreamStatus
  lastContractResult := (next executor event).diagnostics.lastContractResult

theorem perform_shift {k : Tick} {executor executor' : StreamExecutor}
    (h : Shifted k executor executor') (hsound : Sound executor) {event : Event}
    (hmarks : event.KeepsMarks k) :
    SameStep k (perform executor event) (perform executor' (event.shift k)) := by
  obtain ⟨tick, call⟩ := event
  cases call with
  | openStream payload =>
    obtain ⟨hnext, hsame⟩ := streamExecutorOpen_shift h hmarks tick
    exact ⟨hnext, congrArg (·, none) hsame⟩
  | admitBatch payload kind =>
    obtain ⟨hnext, hsame⟩ := streamExecutorAdmit_shift h hmarks.1 hmarks.2 kind tick
    exact ⟨hnext, congrArg (·, none) hsame⟩
  | start positionUrad =>
    obtain ⟨hnext, hsame⟩ := streamExecutorStart_shift h hsound tick positionUrad
    exact ⟨hnext, congrArg (·, none) hsame⟩
  | step => exact streamExecutorStep_shift h tick
  | checkJointFeedback joint commandedUrad measuredUrad =>
    obtain ⟨hnext, hsame⟩ :=
      streamExecutorCheckJointFeedback_shift h tick joint commandedUrad measuredUrad
    exact ⟨hnext, congrArg (·, none) hsame⟩
  | checkFeedback measuredUrad =>
    obtain ⟨hnext, hsame⟩ := streamExecutorCheckFeedback_shift h tick measuredUrad
    exact ⟨hnext, congrArg (·, none) hsame⟩
  | noteFailedJoint joint =>
    obtain ⟨marks, rfl, hgood⟩ := h
    exact ⟨⟨marks, rfl, ⟨hgood.horizon, hgood.anchor, hgood.lastStep, hgood.commanded⟩⟩, rfl⟩

theorem observe_shift {k : Tick} {executor executor' : StreamExecutor} {event : Event}
    (h : SameStep k (perform executor event) (perform executor' (event.shift k))) :
    observe executor' (event.shift k) = observe executor event := by
  obtain ⟨⟨marks, hmoved, -⟩, hsame⟩ := h
  have hnext : next executor' (event.shift k) = moved k marks (next executor event) := hmoved
  unfold observe
  rw [hsame, hnext]
  rfl

theorem shifted_closed (k : Tick) (hardCaps : StreamHardCaps) (jointLimits : JointLimits) :
    Shifted k (closedExecutor hardCaps jointLimits) (closedExecutor hardCaps jointLimits) := by
  refine ⟨⟨Setpoint.zero, 0, 0, 0, 0⟩, rfl, ⟨?_, ?_, ?_, ?_⟩⟩
  · exact fun hne => absurd rfl hne
  · intro hvalid
    cases hvalid
  · intro hvalid
    cases hvalid
  · rintro (hrunning | hqueue)
    · cases hrunning
    · exact absurd rfl hqueue

/-- **A run with every tick moved shows what the run showed**, from a freshly initialised
executor, whatever the calls and whatever `k`. -/
theorem tick_equivariance {hardCaps : StreamHardCaps} {jointLimits : JointLimits}
    {executor : StreamExecutor} (hinit : streamExecutorInit hardCaps jointLimits = .ok executor)
    (k : Tick) (events : List Event) (hmarks : ∀ event ∈ events, event.KeepsMarks k) :
    Machine.trace next observe executor (events.map (Event.shift k)) =
      Machine.trace next observe executor events := by
  have hclosed : executor = closedExecutor hardCaps jointLimits := by
    unfold streamExecutorInit at hinit
    split_ifs at hinit
    cases hinit
    rfl
  have hshifted : Shifted k executor executor := by
    rw [hclosed]
    exact shifted_closed k hardCaps jointLimits
  refine Machine.trace_eq (R := fun e e' => Sound e ∧ Shifted k e e') (Event.shift k) ?_ events
    ⟨sound_init hinit, hshifted⟩ hmarks
  rintro e e' event ⟨hsound, hrel⟩ hgood
  have hstep := perform_shift hrel hsound hgood
  exact ⟨⟨sound_next event hsound, hstep.1⟩, observe_shift hstep⟩

/-- A stream to a planned horizon, and the counter wraps between its two samples. -/
def Bench.plannedRun : List Event :=
  [⟨100, .openStream (openPayload 1 140 100)⟩,
    ⟨100, .admitBatch (batchPayload 140 0 [(120, 5000), (140, 6000)]) .append⟩,
    ⟨100, .start fun _ => 0⟩, ⟨110, .step⟩, ⟨120, .step⟩, ⟨135, .step⟩, ⟨140, .step⟩]

theorem tick_equivariance_bench :
    (after Bench.executor Bench.plannedRun).diagnostics.state = .succeeded ∧
      Machine.trace next observe Bench.executor
          (Bench.plannedRun.map (Event.shift 4294967166)) =
        Machine.trace next observe Bench.executor Bench.plannedRun :=
  ⟨by decide +kernel,
    tick_equivariance Bench.executor_init 4294967166 Bench.plannedRun (by decide +kernel)⟩

end MobileBimanual.Stream
