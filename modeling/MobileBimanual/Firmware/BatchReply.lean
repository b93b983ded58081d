/-
# The answer to a batch

The executor takes a batch whole or not at all (`streamExecutorAdmit_cases`).  The host adds
refusals of its own, but only after the executor has taken the batch: the outputs that are not
powered, the anchor that is missing, the start that fails.  A batch refused there is answered as
rejected and stays in the queue.  So a rejected batch leaves the host as it was exactly when the
host would have gone along with every batch that the executor takes (`rejectedKeeps_iff`).
-/
import MobileBimanual.Firmware.HostService
import MobileBimanual.Stream.Outcomes

namespace MobileBimanual.Firmware

open Machine
open MobileBimanual.Stream

/-! ## 1. Rejected batches -/

/-- The answer of `Host_ValidateV2Batch` to a batch it takes: OK from the executor, and
VALIDATION_ONLY from the image that has a session alone. -/
def answersAccepted (result : StreamSessionResult) : Bool :=
  (result.statusCode == .ok || result.statusCode == .validationOnly) &&
    result.contractResult == .ok

/-- The host without what a rejected frame may change: the last-status fields of the executor
and the count of rejected frames. -/
def forgetRejection (host : HostControl) : HostControl :=
  { host with streamExecutor := forgetStatus host.streamExecutor, rejectedFrameCount := 0 }

/-- A batch answered as rejected changes nothing. -/
def RejectedKeeps (build : Build) (payload : List Byte) (kind : BatchKind)
    (replies : BatchReplies) (host : HostControl) : Prop :=
  answersAccepted (validateV2Batch build payload kind replies host).2 = false →
    forgetRejection (validateV2Batch build payload kind replies host).1 = forgetRejection host

/-! ## 2. What the executor takes -/

/-- The checks of the executor, the session and the contract on a batch. -/
structure Admissible (executor : StreamExecutor) (payload : List Byte) (kind : BatchKind)
    (currentTick : Tick) (batch : Batch) : Prop where
  live : executor.diagnostics.state = .priming ∨ executor.diagnostics.state = .running
  decodes : batchDecode payload kind = .ok batch
  withinLimits : ∀ s ∈ batch.samples,
    positionsWithinLimits executor.jointLimits s.positionUrad = true
  tail : appendTailDiscontinuous executor.session batch kind = false
  isOpen : executor.session.isOpen = true
  transition : ∃ position, transitionPosition executor.session batch kind = some position ∧
    executor.session.transitionResult batch kind currentTick position = .ok
  fits : (retainedSamples executor.session batch kind ++ batch.samples).length ≤ queueCapacity

variable {executor : StreamExecutor} {payload : List Byte} {kind : BatchKind} {batch : Batch}

theorem Admissible.admitted {currentTick : Tick}
    (h : Admissible executor payload kind currentTick batch) :
    streamExecutorAdmit executor payload kind currentTick =
      (admitted executor batch kind currentTick h.fits, .ok) := by
  obtain ⟨position, hposition, htransition⟩ := h.transition
  have hsession : streamSessionBatch executor.session payload kind currentTick =
      (executor.session.edit batch kind h.fits,
        resultFromSession (executor.session.edit batch kind h.fits) .validationOnly .ok) := by
    simp only [streamSessionBatch, h.isOpen, h.decodes, hposition, htransition, Bool.not_true,
      Bool.false_eq_true, ne_eq, not_true_eq_false, if_false]
    exact dif_pos h.fits
  have hlive : ¬ (executor.diagnostics.state ≠ .priming ∧
      executor.diagnostics.state ≠ .running) := by
    have := h.live
    tauto
  have hlimits : (batch.samples.any fun sample =>
      !positionsWithinLimits executor.jointLimits sample.positionUrad) = false := by
    simpa using h.withinLimits
  unfold streamExecutorAdmit
  rw [if_neg hlive, h.decodes]
  simp only [hlimits, h.tail, hsession, Bool.false_eq_true, if_false]
  rfl

/-- A batch that the executor takes passed all its checks. -/
theorem streamExecutorAdmit_ok {currentTick : Tick}
    (h : (streamExecutorAdmit executor payload kind currentTick).2 = .ok) :
    ∃ batch, Admissible executor payload kind currentTick batch := by
  rcases streamExecutorAdmit_cases executor payload kind currentTick with
    ⟨hne, -⟩ | ⟨batch, hadmits, heq⟩
  · exact absurd h hne
  · refine ⟨batch, hadmits.live, hadmits.accepts.decodes, hadmits.withinLimits, hadmits.tail,
      hadmits.accepts.isOpen, ?_, hadmits.accepts.fits⟩
    rcases hbatch : streamSessionBatch executor.session payload kind currentTick with
      ⟨session, result⟩
    have hresult : result.contractResult = .ok ∧ result.statusCode = .validationOnly := by
      unfold streamExecutorAdmit at h
      split_ifs at h with hlive
      rw [hadmits.accepts.decodes, hbatch] at h
      simp only [] at h
      split_ifs at h with h₁ h₂ h₃
      simpa only [ne_eq, not_or, not_not] using h₃
    unfold streamSessionBatch at hbatch
    rw [hadmits.accepts.isOpen, hadmits.accepts.decodes] at hbatch
    simp only [Bool.not_true, Bool.false_eq_true, if_false] at hbatch
    cases hposition : transitionPosition executor.session batch kind with
    | none =>
      rw [hposition] at hbatch
      obtain ⟨-, rfl⟩ := Prod.mk.inj hbatch
      exact absurd hresult.2 (by simp [resultFromSession])
    | some position =>
      rw [hposition] at hbatch
      simp only [] at hbatch
      refine ⟨position, rfl, ?_⟩
      by_contra hrefused
      rw [if_pos hrefused] at hbatch
      obtain ⟨-, rfl⟩ := Prod.mk.inj hbatch
      exact hrefused hresult.1

/-! ## 3. What the host adds -/

/-- The anchor of a start on this very tick. -/
def startAnchor (build : Build) (host : HostControl) : Joints :=
  if build.shadowValidation then host.shadowExecutorAnchorUrad else fun _ => 0

/-- The start that a filled queue asks for can be made: at once, or in the shadow image with the
dispatcher on the next control tick. -/
structure StartMade (build : Build) (replies : BatchReplies) (host : HostControl)
    (executor : StreamExecutor) : Prop where
  anchor : build.shadowValidation = true → host.shadowAnchorReady = true
  tracking : build.shadowValidation = true → build.dmaDispatch = true →
    build.trackingFeedback = true →
      replies.referencePrepared = true ∧ replies.feedbackBegun = true
  starts : ¬ (build.shadowValidation = true ∧ build.dmaDispatch = true) →
    Starts executor replies.startTick (startAnchor build host)

/-- The host goes along with a batch that the executor has taken. -/
structure HostTakes (build : Build) (replies : BatchReplies) (host : HostControl)
    (executor : StreamExecutor) : Prop where
  outputs : build.dmaDispatch = true → outputsReady build host = true
  start : readyToStart executor = true → StartMade build replies host executor

variable (build : Build)

variable (replies : BatchReplies)

theorem startStream_cases (host : HostControl) :
    ((startStream build replies host).2 = .ok ∧
      Starts host.streamExecutor replies.startTick (startAnchor build host)) ∨
    ((startStream build replies host).2 ≠ .ok ∧
      (startStream build replies host).1.streamExecutor = host.streamExecutor ∧
      ¬ Starts host.streamExecutor replies.startTick (startAnchor build host)) := by
  have hstart : (startStream build replies host).2 =
        (streamExecutorStart host.streamExecutor replies.startTick (startAnchor build host)).2 ∧
      (startStream build replies host).1.streamExecutor =
        (streamExecutorStart host.streamExecutor replies.startTick
          (startAnchor build host)).1 := by
    unfold startStream startAnchor
    simp only []
    generalize streamExecutorStart host.streamExecutor replies.startTick
      (if build.shadowValidation = true then host.shadowExecutorAnchorUrad else fun _ => 0) = out
    obtain ⟨executor, result⟩ := out
    cases result <;> exact ⟨rfl, rfl⟩
  rw [hstart.1, hstart.2]
  rcases streamExecutorStart_cases host.streamExecutor replies.startTick
    (startAnchor build host) with ⟨hne, hsame⟩ | ⟨hstarts, heq⟩
  · refine Or.inr ⟨hne, hsame, ?_⟩
    intro hstarts
    exact hne (by rw [hstarts.ok])
  · exact Or.inl ⟨by rw [heq], hstarts⟩

/-- **The start of a filled queue is made, or refused with the executor untouched.** -/
theorem primeStream_cases (host : HostControl) :
    ((primeStream build replies host).2 = .ok ∧
      StartMade build replies host host.streamExecutor) ∨
    ((primeStream build replies host).2 ≠ .ok ∧
      (primeStream build replies host).1.streamExecutor = host.streamExecutor ∧
      ¬ StartMade build replies host host.streamExecutor) := by
  unfold primeStream
  split_ifs with hanchor hdma htracking hfeedback hmobile
  · right
    refine ⟨nofun, rfl, ?_⟩
    intro h
    have := h.anchor
    simp_all
  · right
    refine ⟨nofun, rfl, ?_⟩
    intro h
    have := h.tracking
    simp_all
  · right
    refine ⟨nofun, rfl, ?_⟩
    intro h
    have := h.tracking
    simp_all
  · left
    refine ⟨rfl, ?_, ?_, ?_⟩ <;> simp_all
  · left
    refine ⟨rfl, ?_, ?_, ?_⟩ <;> simp_all
  · rcases startStream_cases build replies host with ⟨hok, hstarts⟩ | ⟨hne, hsame, hnot⟩
    · left
      refine ⟨hok, ?_, ?_, fun _ => hstarts⟩ <;> simp_all
    · right
      refine ⟨hne, hsame, ?_⟩
      intro h
      exact hnot (h.starts (by simpa using hdma))

variable {host : HostControl}

theorem hostBatchResult_blocked {build : Build}
    (h : build.dmaDispatch = true ∧ outputsReady build host = false) :
    hostBatchResult build replies .ok host = (host, .badState) := by
  simp [hostBatchResult, h]

theorem hostBatchResult_clear {build : Build}
    (h : build.dmaDispatch = true → outputsReady build host = true) :
    hostBatchResult build replies .ok host =
      if readyToStart host.streamExecutor = true then primeStream build replies host
      else (host, .ok) := by
  have hpassed : ¬ (build.dmaDispatch = true ∧ outputsReady build host = false) := by
    rintro ⟨hdma, hoff⟩
    rw [h hdma] at hoff
    cases hoff
  simp [hostBatchResult, hpassed]

/-- **The host goes along, or refuses with the batch in the queue.** -/
theorem hostBatchResult_cases (host : HostControl) :
    ((hostBatchResult build replies .ok host).2 = .ok ∧
      HostTakes build replies host host.streamExecutor) ∨
    ((hostBatchResult build replies .ok host).2 ≠ .ok ∧
      (hostBatchResult build replies .ok host).1.streamExecutor = host.streamExecutor ∧
      ¬ HostTakes build replies host host.streamExecutor) := by
  by_cases houtputs : build.dmaDispatch = true → outputsReady build host = true
  · rw [hostBatchResult_clear replies houtputs]
    by_cases hready : readyToStart host.streamExecutor = true
    · rw [if_pos hready]
      rcases primeStream_cases build replies host with ⟨hok, hmade⟩ | ⟨hne, hsame, hnot⟩
      · exact Or.inl ⟨hok, houtputs, fun _ => hmade⟩
      · exact Or.inr ⟨hne, hsame, fun h => hnot (h.start hready)⟩
    · rw [if_neg hready]
      exact Or.inl ⟨rfl, houtputs, fun h => absurd h hready⟩
  · rw [hostBatchResult_blocked replies (by simpa using houtputs)]
    exact Or.inr ⟨nofun, rfl, fun h => houtputs h.outputs⟩

/-! ## 4. The answer -/

/-- The condition on a batch: when the executor has room for it, the host has no objection. -/
def BatchWellTimed (build : Build) (payload : List Byte) (kind : BatchKind)
    (replies : BatchReplies) (host : HostControl) : Prop :=
  build.executorValidation = true → ∀ batch,
    ∀ h : Admissible host.streamExecutor payload kind replies.now batch,
      HostTakes build replies host
        (admitted host.streamExecutor batch kind replies.now h.fits)

/-- A taken batch shows in the admission counter. -/
theorem acceptedSamples_admitted_ne (hdecoded : Decoded kind batch) (currentTick : Tick)
    (fits : (retainedSamples executor.session batch kind ++ batch.samples).length ≤ queueCapacity) :
    (admitted executor batch kind currentTick fits).diagnostics.acceptedSamples ≠
      executor.diagnostics.acceptedSamples := by
  have hpos : 0 < batch.samples.length := List.length_pos_iff.mpr hdecoded.nonempty
  have hshort : batch.samples.length ≤ 9 := hdecoded.short
  intro heq
  have hcount : executor.diagnostics.acceptedSamples + BitVec.ofNat 32 batch.samples.length =
      executor.diagnostics.acceptedSamples := heq
  bv_omega

theorem answerBatch_ok (host : HostControl) :
    answersAccepted (answerBatch host .ok).2 = true := by
  simp [answerBatch, answersAccepted, executorSessionResult, resultFromSession]
  split_ifs <;> simp

theorem answerBatch_refused {result : ExecutorResult} (host : HostControl) (h : result ≠ .ok) :
    answersAccepted (answerBatch host result).2 = false ∧
    (answerBatch host result).1 = countRejected host := by
  simp only [answerBatch, if_neg h, answersAccepted, executorSessionResult, resultFromSession]
  split_ifs <;> simp

theorem rejectedKeeps_session {build : Build} (h : build.executorValidation = false)
    (payload : List Byte) (kind : BatchKind) (replies : BatchReplies) (host : HostControl) :
    RejectedKeeps build payload kind replies host := by
  intro hrejected
  have hcase := streamSessionBatch_cases host.streamSession payload kind replies.now
  unfold validateV2Batch at hrejected ⊢
  simp only [h, Bool.false_eq_true, if_false] at hrejected ⊢
  rcases hcase with ⟨status, contract, -, heq⟩ | ⟨batch, haccepts, heq⟩
  · rw [heq]
    split_ifs <;> rfl
  · rw [heq] at hrejected
    simp [answersAccepted, resultFromSession] at hrejected

/-- The host whose executor has taken the batch. -/
def HostControl.withExecutor (host : HostControl) (executor : StreamExecutor) : HostControl :=
  { host with streamExecutor := executor }

theorem hostTakes_withExecutor (host : HostControl) (executor : StreamExecutor) :
    HostTakes build replies (host.withExecutor executor) executor ↔
      HostTakes build replies host executor := by
  constructor
  · rintro ⟨houtputs, hstart⟩
    exact ⟨houtputs, fun hr => ⟨(hstart hr).anchor, (hstart hr).tracking, (hstart hr).starts⟩⟩
  · rintro ⟨houtputs, hstart⟩
    exact ⟨houtputs, fun hr => ⟨(hstart hr).anchor, (hstart hr).tracking, (hstart hr).starts⟩⟩

theorem validateV2Batch_executor {build : Build} (h : build.executorValidation = true)
    (payload : List Byte) (kind : BatchKind) (replies : BatchReplies) (host : HostControl) :
    validateV2Batch build payload kind replies host =
      let admission := streamExecutorAdmit host.streamExecutor payload kind replies.now
      let taken := hostBatchResult build replies admission.2 (host.withExecutor admission.1)
      answerBatch taken.1 taken.2 := by
  simp only [validateV2Batch, h, if_true]
  rfl

theorem rejectedKeeps_of_refused {build : Build} (hbuild : build.executorValidation = true)
    {replies : BatchReplies}
    (h : (streamExecutorAdmit host.streamExecutor payload kind replies.now).2 ≠ .ok) :
    RejectedKeeps build payload kind replies host := by
  intro _
  have hresult : hostBatchResult build replies
      (streamExecutorAdmit host.streamExecutor payload kind replies.now).2
      (host.withExecutor (streamExecutorAdmit host.streamExecutor payload kind replies.now).1) =
      (host.withExecutor (streamExecutorAdmit host.streamExecutor payload kind replies.now).1,
        (streamExecutorAdmit host.streamExecutor payload kind replies.now).2) := by
    simp [hostBatchResult, h]
  rw [validateV2Batch_executor hbuild]
  simp only [hresult, (answerBatch_refused _ h).2]
  rcases streamExecutorAdmit_cases host.streamExecutor payload kind replies.now with
    ⟨-, hsame⟩ | ⟨batch, hadm, heq⟩
  · simp only [forgetRejection, countRejected, HostControl.withExecutor, hsame]
  · exact absurd (by rw [heq]) h

theorem rejectedKeeps_of_taken {build : Build} (hbuild : build.executorValidation = true)
    {replies : BatchReplies} (h : Admissible host.streamExecutor payload kind replies.now batch) :
    RejectedKeeps build payload kind replies host ↔
      HostTakes build replies host
        (admitted host.streamExecutor batch kind replies.now h.fits) := by
  set executor := admitted host.streamExecutor batch kind replies.now h.fits with hexecutor
  unfold RejectedKeeps
  rw [validateV2Batch_executor hbuild, h.admitted, ← hexecutor,
    ← hostTakes_withExecutor build replies host executor]
  simp only []
  rcases hostBatchResult_cases build replies (host.withExecutor executor) with
    ⟨hresult, htakes⟩ | ⟨hresult, hsame, hnot⟩
  · refine iff_of_true ?_ htakes
    intro hrejected
    rw [hresult, answerBatch_ok] at hrejected
    cases hrejected
  · refine iff_of_false ?_ hnot
    intro hkeeps
    obtain ⟨hanswer, hafter⟩ := answerBatch_refused
      (hostBatchResult build replies .ok (host.withExecutor executor)).1 hresult
    have hsamples := congrArg (·.streamExecutor.diagnostics.acceptedSamples) (hkeeps hanswer)
    rw [hafter] at hsamples
    refine acceptedSamples_admitted_ne (batchDecode_ok h.decodes) replies.now h.fits ?_
    have hqueue : executor.diagnostics.acceptedSamples =
        (hostBatchResult build replies .ok
          (host.withExecutor executor)).1.streamExecutor.diagnostics.acceptedSamples := by
      rw [hsame]
      rfl
    exact hqueue.trans hsamples

/-- **A rejected batch changes nothing, exactly if the host goes along with the executor.** -/
theorem rejectedKeeps_iff (payload : List Byte) (kind : BatchKind) (replies : BatchReplies)
    (host : HostControl) :
    RejectedKeeps build payload kind replies host ↔
      BatchWellTimed build payload kind replies host := by
  cases hbuild : build.executorValidation with
  | false =>
    refine iff_of_true (rejectedKeeps_session hbuild payload kind replies host) ?_
    intro hexec
    rw [hbuild] at hexec
    cases hexec
  | true =>
    by_cases hok : (streamExecutorAdmit host.streamExecutor payload kind replies.now).2 = .ok
    · obtain ⟨batch, hadm⟩ := streamExecutorAdmit_ok hok
      rw [rejectedKeeps_of_taken hbuild hadm]
      constructor
      · intro htakes _ batch' h
        obtain rfl : batch = batch' := Except.ok.inj (hadm.decodes.symm.trans h.decodes)
        exact htakes
      · intro hwell
        exact hwell hbuild batch hadm
    · refine iff_of_true (rejectedKeeps_of_refused hbuild hok) ?_
      intro _ batch h
      exact absurd (by rw [h.admitted]) hok

/-! ## 5. Runs -/

/-- What a batch frame owes, once it is past the filters. -/
def BatchFrameKeeps (build : Build) (host : HostControl) : HostEvent → Prop
  | .frame .setpointBatch payload replies =>
    frameFiltered build .setpointBatch = false →
      RejectedKeeps build payload .append replies.batch host
  | .frame .splice payload replies =>
    frameFiltered build .splice = false → RejectedKeeps build payload .splice replies.batch host
  | _ => True

/-- The condition on a batch frame. -/
def BatchFrameWellTimed (build : Build) (host : HostControl) : HostEvent → Prop
  | .frame .setpointBatch payload replies =>
    frameFiltered build .setpointBatch = false →
      BatchWellTimed build payload .append replies.batch host
  | .frame .splice payload replies =>
    frameFiltered build .splice = false → BatchWellTimed build payload .splice replies.batch host
  | _ => True

theorem batchFrameKeeps_iff (host : HostControl) (event : HostEvent) :
    BatchFrameKeeps build host event ↔ BatchFrameWellTimed build host event := by
  unfold BatchFrameKeeps BatchFrameWellTimed
  split
  · exact imp_congr_right fun _ => rejectedKeeps_iff build _ _ _ host
  · exact imp_congr_right fun _ => rejectedKeeps_iff build _ _ _ host
  · exact Iff.rfl

/-- **No batch of a run is executed after a rejection, exactly if the host has no objection to
any batch that the executor takes.** -/
theorem rejected_batches_keep (build : Build) (events : List HostEvent) :
    Along (hostStep build) (BatchFrameKeeps build) (binaryControlInit build) events ↔
      Along (hostStep build) (BatchFrameWellTimed build) (binaryControlInit build) events :=
  along_congr (batchFrameKeeps_iff build) _ _

/-- A stream opened on arms that were never powered takes a batch that is answered as
rejected. -/
theorem batch_unpowered_kept :
    ¬ RejectedKeeps Bench.build (Stream.Bench.batchPayload 0 0 [(120, 0)]) .append { now := 100 }
      (Bench.after [.frame .streamOpen (Stream.Bench.openPayload 1 0 100) { now := 100 }]) := by
  intro h
  have hsamples := congrArg (·.streamExecutor.diagnostics.acceptedSamples) (h (by decide +kernel))
  revert hsamples
  decide +kernel

end MobileBimanual.Firmware
