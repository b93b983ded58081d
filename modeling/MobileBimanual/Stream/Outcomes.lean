/-
# What one call can do

One theorem for each operation of the contract, the session and the executor, saying everything
a call of it can do, guards included.  Nothing above this file unfolds an operation again: the
invariants and the runs are case distinctions on these outcomes.

* `batchDecode_ok`, `batchValidateTransition_ok`: what an accepted payload satisfies;
* `streamSessionBatch_cases`: a batch is refused and the session untouched, or it `Accepts` and
  the session is the `edit`ed one;
* `streamExecutorOpen_cases`, `_Admit_cases`, `_Start_cases`: a command is refused and the
  executor untouched up to the two status fields (`forgetStatus`), or it succeeds;
* `streamExecutorStep_outcome`: the ten ways through the control step;
* `streamExecutorCheckJointFeedback_outcome`, `streamExecutorCheckFeedback_outcome`.
-/
import MobileBimanual.Stream.Executor

namespace MobileBimanual.Stream

open Serial (After ahead)

/-! ## 1. Decoding -/

/-- What holds of a batch that a payload decodes to. -/
structure Decoded (kind : BatchKind) (batch : Batch) : Prop where
  nonempty : batch.samples ≠ []
  short : batch.samples.length ≤ wireMaxSamples
  first : batch.firstSample.applyTick = batch.firstApplyTick
  increasing : List.IsChain (fun p s : Setpoint => After s.applyTick p.applyTick) batch.samples
  splice : kind = .append → batch.spliceAtTick = 0

variable {payload : List Byte}

/-- The sample loop: each sample is after the one before it, the first one of a batch on the
batch's first tick. -/
theorem decodeSamples_ok {firstApplyTick : Tick} :
    ∀ {remaining sampleIndex : Nat} {previousTick : Tick} {samples : List Setpoint},
      decodeSamples payload firstApplyTick remaining sampleIndex previousTick = .ok samples →
      samples.length = remaining ∧
      List.IsChain (fun p s : Setpoint => After s.applyTick p.applyTick) samples ∧
      (∀ s ∈ samples.head?, 0 < sampleIndex → After s.applyTick previousTick) ∧
      (∀ s ∈ samples.head?, sampleIndex = 0 → s.applyTick = firstApplyTick)
  | 0, _, _, samples, h => by
    cases h
    simp
  | remaining + 1, sampleIndex, previousTick, samples, h => by
    simp only [decodeSamples] at h
    split at h
    · cases h
    · rename_i hguard
      split at h
      · cases h
      · rename_i rest hrest
        obtain ⟨hlen, hchain, hafter, -⟩ := decodeSamples_ok hrest
        cases h
        simp only [not_or, not_and, Bool.not_eq_eq_eq_not, Bool.not_true,
          tickIsAfter_eq_false_iff, not_not, ne_eq] at hguard
        refine ⟨by simp [hlen], ?_, ?_, ?_⟩
        · rw [List.isChain_cons]
          exact ⟨fun s hs => hafter s hs (by omega), hchain⟩
        · intro s hs hpos
          cases hs
          exact hguard.1 hpos
        · intro s hs hzero
          cases hs
          simp [hguard.2 hzero]

variable {kind : BatchKind} {batch : Batch}

theorem batchDecode_ok (h : batchDecode payload kind = .ok batch) : Decoded kind batch := by
  simp only [batchDecode] at h
  split_ifs at h with _ hcount _ _ _ hsplice
  split at h
  · cases h
  · rename_i samples hsamples
    obtain ⟨hlen, hchain, -, hfirst⟩ := decodeSamples_ok hsamples
    cases h
    have hne : samples ≠ [] := by
      rintro rfl
      simp only [List.length_nil] at hlen
      omega
    obtain ⟨s, rest, rfl⟩ := List.exists_cons_of_ne_nil hne
    refine ⟨hne, ?_, ?_, hchain, ?_⟩
    · show (s :: rest).length ≤ wireMaxSamples
      omega
    · exact hfirst s rfl rfl
    · rintro rfl
      by_contra hne0
      exact hsplice (Or.inl ⟨rfl, hne0⟩)

/-! ## 2. The transition check -/

/-- Two samples in a row: a positive number of control ticks apart, and on no joint further
apart than so many ticks allow. -/
structure Continuous (policy : StreamPolicy) (p s : Setpoint) : Prop where
  pos : 0 < ahead s.applyTick p.applyTick
  onGrid : 5 ∣ ahead s.applyTick p.applyTick
  rate : ∀ joint, (absoluteDifference (s.positionUrad joint) (p.positionUrad joint) : Int) ≤
    (policy.maximumStepUradPerTick joint).toInt * (ahead s.applyTick p.applyTick / 5 : Nat)

theorem stepIsContinuous_iff (policy : StreamPolicy) (p s : Setpoint) :
    stepIsContinuous policy p s = true ↔ Continuous policy p s := by
  have hmod : (s.applyTick - p.applyTick) % controlTickMs = 0 ↔
      5 ∣ ahead s.applyTick p.applyTick := by
    rw [← BitVec.toNat_inj, BitVec.toNat_umod, Nat.dvd_iff_mod_eq_zero]
    rfl
  have hzero : s.applyTick - p.applyTick = 0 ↔ ahead s.applyTick p.applyTick = 0 := by
    rw [← BitVec.toNat_inj]
    rfl
  have hdiv : ((s.applyTick - p.applyTick) / controlTickMs).toNat =
      ahead s.applyTick p.applyTick / 5 := by
    rw [BitVec.toNat_udiv]
    rfl
  simp only [stepIsContinuous, hdiv, Bool.and_eq_true, Bool.not_eq_true', Bool.or_eq_false_iff,
    beq_eq_false_iff_ne, bne_eq_false_iff_eq, decide_eq_false_iff_not, not_exists, not_lt,
    gt_iff_lt, ne_eq, hzero, hmod]
  constructor
  · rintro ⟨⟨h0, h5⟩, hr⟩
    exact ⟨Nat.pos_of_ne_zero h0, h5, hr⟩
  · rintro ⟨h0, h5, hr⟩
    exact ⟨⟨Nat.ne_of_gt h0, h5⟩, hr⟩

theorem samplesAreContinuous_iff (policy : StreamPolicy) : ∀ samples : List Setpoint,
    samplesAreContinuous policy samples = true ↔ List.IsChain (Continuous policy) samples
  | [] => by simp [samplesAreContinuous]
  | [s] => by simp [samplesAreContinuous]
  | p :: s :: rest => by
    rw [List.isChain_cons_cons, ← samplesAreContinuous_iff policy (s :: rest),
      ← stepIsContinuous_iff, samplesAreContinuous, Bool.and_eq_true]

/-- What a batch that passes the transition check satisfies, whatever its kind. -/
structure TransitionOk (batch : Batch) (policy : StreamPolicy) (currentTick : Tick) : Prop where
  lead : ahead batch.finalApplyTick currentTick ≤ policy.maximumLeadMs.toNat
  horizon : batch.horizonEndTick ≠ 0 → ¬ After batch.finalApplyTick batch.horizonEndTick
  continuous : List.IsChain (Continuous policy) batch.samples

structure AppendOk (batch : Batch) (policy : StreamPolicy) (currentTick lastApplyTick : Tick) :
    Prop where
  afterNow : After batch.firstApplyTick currentTick
  lead : policy.minimumLeadMs.toNat ≤ ahead batch.firstApplyTick currentTick
  afterLast : After batch.firstApplyTick lastApplyTick

structure SpliceOk (batch : Batch) (policy : StreamPolicy) (currentTick lastApplyTick : Tick)
    (position : Joints) : Prop where
  afterNow : After batch.spliceAtTick currentTick
  spliceLead : 20 ≤ ahead batch.spliceAtTick currentTick
  lead : policy.minimumLeadMs.toNat ≤ ahead batch.spliceAtTick currentTick
  notAfterLast : ¬ After batch.spliceAtTick lastApplyTick
  first : batch.firstSample.applyTick = batch.spliceAtTick
  near : ∀ joint, (absoluteDifference (batch.firstSample.positionUrad joint) (position joint) :
    Int) ≤ (policy.maximumStepUradPerTick joint).toInt

/-- A chain of guards that ends well passes its first guard, and the rest of it ends well. -/
theorem passes_guard {guard : Prop} [Decidable guard] {refusal rest : ContractResult}
    (hrefusal : refusal ≠ .ok) (h : (if guard then refusal else rest) = .ok) :
    ¬ guard ∧ rest = .ok := by
  split at h
  · exact absurd h hrefusal
  · exact ⟨by assumption, h⟩

variable {policy : StreamPolicy} {currentTick : Tick}

/-- **What the transition check establishes**, for each kind of batch. -/
theorem batchValidateTransition_ok {epoch : BitVec 32} {horizon last : Tick} {position : Joints}
    (h : batchValidateTransition batch kind policy currentTick epoch horizon last position = .ok) :
    TransitionOk batch policy currentTick ∧
    (kind = .append → AppendOk batch policy currentTick last) ∧
    (kind = .splice → SpliceOk batch policy currentTick last position) := by
  unfold batchValidateTransition at h
  obtain ⟨-, h⟩ := passes_guard (by decide) h
  obtain ⟨-, h⟩ := passes_guard (by decide) h
  obtain ⟨hearly, h⟩ := passes_guard (by decide) h
  obtain ⟨hlate, h⟩ := passes_guard (by decide) h
  obtain ⟨hhorizon, h⟩ := passes_guard (by decide) h
  obtain ⟨-, h⟩ := passes_guard (by decide) h
  obtain ⟨-, h⟩ := passes_guard (by decide) h
  obtain ⟨hcontinuous, h⟩ := passes_guard (by decide) h
  have hcommon : TransitionOk batch policy currentTick := by
    refine ⟨Nat.le_of_not_lt fun hlt => hlate hlt, ?_, ?_⟩
    · intro hne hafter
      exact hhorizon ⟨hne, by simpa using hafter⟩
    · rw [← samplesAreContinuous_iff]
      simpa using hcontinuous
  refine ⟨hcommon, ?_, ?_⟩
  · rintro rfl
    obtain ⟨-, h⟩ := passes_guard (by decide) h
    obtain ⟨-, h⟩ := passes_guard (by decide) h
    obtain ⟨hafter, -⟩ := passes_guard (by decide) h
    simp only [true_and, not_or, Bool.not_eq_true', tickIsAfter_eq_false_iff,
      not_not] at hearly hafter
    exact ⟨hearly.1, Nat.le_of_not_lt fun hlt => hearly.2 hlt, hafter⟩
  · rintro rfl
    obtain ⟨-, h⟩ := passes_guard (by decide) h
    obtain ⟨hnear, h⟩ := passes_guard (by decide) h
    obtain ⟨hlast, h⟩ := passes_guard (by decide) h
    obtain ⟨hfirst, h⟩ := passes_guard (by decide) h
    obtain ⟨hjoint, -⟩ := passes_guard (by decide) h
    simp only [not_or, Bool.not_eq_true', tickIsAfter_eq_false_iff, not_not] at hnear
    refine ⟨hnear.1, Nat.le_of_not_lt fun hlt => hnear.2.1 hlt,
      Nat.le_of_not_lt fun hlt => hnear.2.2 hlt, by simpa using hlast, by simpa using hfirst, ?_⟩
    intro joint
    by_contra hgt
    exact hjoint ⟨joint, by omega⟩

/-! ## 3. The policy and the session -/

/-- What an accepted policy satisfies. -/
structure PolicyOk (policy : StreamPolicy) : Prop where
  start : 0 < policy.minimumStartSamples.toNat
  window : policy.minimumLeadMs.toNat ≤ policy.maximumLeadMs.toNat
  timeout : 0 < policy.commandTimeoutMs.toNat
  step : ∀ joint, 0 < (policy.maximumStepUradPerTick joint).toInt
  tracking : ∀ joint, 0 < (policy.trackingErrorLimitUrad joint).toInt

variable {hardCaps : StreamHardCaps}

/-- A joint that fails a check never reports OK, so an OK loop found no such joint. -/
theorem policyJointCheck_eq_none
    (h : ((List.finRange 12).findSome? (policyJointCheck policy hardCaps)).getD .ok = .ok)
    (joint : Joint) : policyJointCheck policy hardCaps joint = none := by
  cases hfound : (List.finRange 12).findSome? (policyJointCheck policy hardCaps) with
  | none => exact List.findSome?_eq_none_iff.mp hfound joint (List.mem_finRange joint)
  | some result =>
    obtain ⟨bad, -, hbad⟩ := List.exists_of_findSome?_eq_some hfound
    rw [hfound, Option.getD_some] at h
    subst h
    simp only [policyJointCheck] at hbad
    split_ifs at hbad <;> simp at hbad

theorem streamPolicyValidate_ok (h : streamPolicyValidate policy hardCaps currentTick = .ok) :
    PolicyOk policy := by
  unfold streamPolicyValidate at h
  obtain ⟨-, h⟩ := passes_guard (by decide) h
  obtain ⟨hstart, h⟩ := passes_guard (by decide) h
  obtain ⟨-, h⟩ := passes_guard (by decide) h
  obtain ⟨-, h⟩ := passes_guard (by decide) h
  obtain ⟨hwindow, h⟩ := passes_guard (by decide) h
  obtain ⟨htimeout, h⟩ := passes_guard (by decide) h
  obtain ⟨-, h⟩ := passes_guard (by decide) h
  obtain ⟨-, h⟩ := passes_guard (by decide) h
  obtain ⟨-, h⟩ := passes_guard (by decide) h
  have hjoint : ∀ joint, 0 < (policy.trackingErrorLimitUrad joint).toInt ∧
      0 < (policy.maximumStepUradPerTick joint).toInt := by
    intro joint
    have hnone := policyJointCheck_eq_none h joint
    simp only [policyJointCheck] at hnone
    split_ifs at hnone with htracking hstep
    omega
  refine ⟨?_, Nat.le_of_not_lt fun hlt => hwindow hlt, ?_, fun joint => (hjoint joint).2,
    fun joint => (hjoint joint).1⟩
  · exact Nat.pos_of_ne_zero fun h0 => hstart (Or.inl (BitVec.eq_of_toNat_eq h0))
  · exact Nat.pos_of_ne_zero fun h0 => htimeout (Or.inl (BitVec.eq_of_toNat_eq h0))

theorem acceptPolicy_ok (h : acceptPolicy payload hardCaps currentTick = .ok policy) :
    PolicyOk policy := by
  unfold acceptPolicy at h
  split at h
  · cases h
  · split at h
    · cases h
    · rename_i hok
      cases h
      exact streamPolicyValidate_ok (not_not.mp hok)

/-- A refused policy is refused with the contract's reason. -/
theorem acceptPolicy_error {result : ContractResult}
    (h : acceptPolicy payload hardCaps currentTick = .error result) : result ≠ .ok := by
  unfold acceptPolicy at h
  split at h
  · rename_i hdecode
    cases h
    rintro rfl
    simp only [streamPolicyDecode] at hdecode
    split_ifs at hdecode
    all_goals cases hdecode
  · split at h
    · cases h
      assumption
    · cases h

/-- What makes a session take a batch. -/
structure Accepts (session : StreamSession) (payload : List Byte) (kind : BatchKind)
    (currentTick : Tick) (batch : Batch) : Prop where
  isOpen : session.isOpen = true
  decodes : batchDecode payload kind = .ok batch
  fits : (retainedSamples session batch kind ++ batch.samples).length ≤ queueCapacity
  transition : TransitionOk batch session.policy currentTick
  append : kind = .append →
    AppendOk batch session.policy currentTick (session.lastTick currentTick)
  splice : kind = .splice → ∃ position,
    interpolatePosition batch.spliceAtTick session.validatedSamples.samples = some position ∧
    SpliceOk batch session.policy currentTick (session.lastTick currentTick) position

theorem Accepts.decoded {session : StreamSession}
    (h : Accepts session payload kind currentTick batch) :
    Decoded kind batch := batchDecode_ok h.decodes

/-- **A batch is refused and nothing happens, or it is taken whole.** -/
theorem streamSessionBatch_cases (session : StreamSession) (payload : List Byte)
    (kind : BatchKind) (currentTick : Tick) :
    (∃ status contract, (contract ≠ .ok ∨ status ≠ .validationOnly) ∧
      streamSessionBatch session payload kind currentTick =
        (session, resultFromSession session status contract)) ∨
    ∃ batch, ∃ h : Accepts session payload kind currentTick batch,
      streamSessionBatch session payload kind currentTick =
        (session.edit batch kind h.fits,
          resultFromSession (session.edit batch kind h.fits) .validationOnly .ok) := by
  unfold streamSessionBatch
  split
  · exact Or.inl ⟨.notOpen, .ok, Or.inr nofun, rfl⟩
  · rename_i hopen
    split
    · rename_i result _
      exact Or.inl ⟨.contractRejected, result, Or.inr nofun, rfl⟩
    · rename_i batch hdecode
      split
      · exact Or.inl ⟨.splicePositionUnavailable, .ok, Or.inr nofun, rfl⟩
      · rename_i position hposition
        split
        · exact Or.inl ⟨.contractRejected, _, Or.inr nofun, rfl⟩
        · rename_i hok
          obtain ⟨htransition, happend, hsplice⟩ :=
            batchValidateTransition_ok (not_not.mp hok)
          split
          · rename_i hfits
            refine Or.inr ⟨batch, ⟨by simpa using hopen, hdecode, hfits, htransition, happend,
              ?_⟩, rfl⟩
            rintro rfl
            exact ⟨position, hposition, hsplice rfl⟩
          · exact Or.inl ⟨.queueOverflow, .ok, Or.inr nofun, rfl⟩

/-! ## 4. The commands of the executor -/

/-- The executor with the last-status fields of its diagnostics blanked: two executors that
agree here differ in nothing else. -/
def forgetStatus (executor : StreamExecutor) : StreamExecutor :=
  { executor with
    diagnostics :=
      { executor.diagnostics with lastStreamStatus := .ok, lastContractResult := .ok } }

/-- The executor that an accepted policy opens. -/
def opened (executor : StreamExecutor) (policy : StreamPolicy) : StreamExecutor :=
  primed executor (openedSession policy)
    (resultFromSession (openedSession policy) .validationOnly .ok)

variable (executor : StreamExecutor)

theorem streamExecutorOpen_cases (payload : List Byte) (currentTick : Tick) :
    ((streamExecutorOpen executor payload currentTick).2 ≠ .ok ∧
      forgetStatus (streamExecutorOpen executor payload currentTick).1 =
        forgetStatus executor) ∨
    ∃ policy, executor.diagnostics.state ≠ .running ∧
      acceptPolicy payload executor.hardCaps currentTick = .ok policy ∧
      streamExecutorOpen executor payload currentTick = (opened executor policy, .ok) := by
  unfold streamExecutorOpen streamSessionOpen
  split
  · exact Or.inl ⟨nofun, rfl⟩
  · rename_i hrunning
    cases hpolicy : acceptPolicy payload executor.hardCaps currentTick with
    | error result =>
      have hne : result ≠ .ok := acceptPolicy_error hpolicy
      simp only [resultFromSession, ne_eq, hne, not_false_eq_true, if_true]
      exact Or.inl ⟨nofun, rfl⟩
    | ok policy => exact Or.inr ⟨policy, hrunning, rfl, rfl⟩

/-- What makes an executor take a batch. -/
structure Admits (executor : StreamExecutor) (payload : List Byte) (kind : BatchKind)
    (currentTick : Tick) (batch : Batch) : Prop where
  live : executor.diagnostics.state = .priming ∨ executor.diagnostics.state = .running
  withinLimits : ∀ s ∈ batch.samples,
    positionsWithinLimits executor.jointLimits s.positionUrad = true
  tail : appendTailDiscontinuous executor.session batch kind = false
  accepts : Accepts executor.session payload kind currentTick batch

/-- The executor that has taken the batch. -/
def admitted (batch : Batch) (kind : BatchKind) (currentTick : Tick)
    (fits : (retainedSamples executor.session batch kind ++ batch.samples).length ≤
      queueCapacity) : StreamExecutor :=
  countAdmission
    (recordSession executor (executor.session.edit batch kind fits)
      (resultFromSession (executor.session.edit batch kind fits) .validationOnly .ok))
    batch kind currentTick

theorem streamExecutorAdmit_cases (payload : List Byte) (kind : BatchKind) (currentTick : Tick) :
    ((streamExecutorAdmit executor payload kind currentTick).2 ≠ .ok ∧
      forgetStatus (streamExecutorAdmit executor payload kind currentTick).1 =
        forgetStatus executor) ∨
    ∃ batch, ∃ h : Admits executor payload kind currentTick batch,
      streamExecutorAdmit executor payload kind currentTick =
        (admitted executor batch kind currentTick h.accepts.fits, .ok) := by
  unfold streamExecutorAdmit
  split
  · exact Or.inl ⟨nofun, rfl⟩
  · rename_i hlive
    split
    · exact Or.inl ⟨nofun, rfl⟩
    · rename_i decoded hdecode
      split
      · exact Or.inl ⟨nofun, rfl⟩
      · rename_i hlimits
        split
        · exact Or.inl ⟨nofun, rfl⟩
        · rename_i htail
          rcases streamSessionBatch_cases executor.session payload kind currentTick with
            ⟨status, contract, hrefused, heq⟩ | ⟨batch, haccepts, heq⟩
          · simp only [heq, resultFromSession, if_pos hrefused]
            exact Or.inl ⟨nofun, rfl⟩
          · have hbatch : decoded = batch := by
              have := hdecode.symm.trans haccepts.decodes
              cases this
              rfl
            subst hbatch
            rw [heq]
            refine Or.inr ⟨decoded, ⟨by tauto, ?_, by simpa using htail, haccepts⟩, rfl⟩
            intro s hs
            by_contra hbad
            exact hlimits (List.any_eq_true.mpr ⟨s, hs, by simpa using hbad⟩)

/-- What lets a PRIMING executor start. -/
structure Starts (executor : StreamExecutor) (currentTick : Tick) (positionUrad : Joints) :
    Prop where
  priming : executor.diagnostics.state = .priming
  enough : executor.session.policy.minimumStartSamples.toNat ≤ executor.queue.length
  withinLimits : positionsWithinLimits executor.jointLimits positionUrad = true
  afterNow : After executor.firstSample.applyTick currentTick
  rate : exceedsRate executor.session.policy executor.firstSample.positionUrad positionUrad
    (startOutputTicks executor currentTick) = false

/-- What lets it start is all that its guards ask. -/
theorem Starts.ok {executor : StreamExecutor} {positionUrad : Joints}
    (h : Starts executor currentTick positionUrad) :
    streamExecutorStart executor currentTick positionUrad =
      (started executor currentTick positionUrad, .ok) := by
  have hafter : tickIsAfter executor.firstSample.applyTick currentTick = true :=
    (tickIsAfter_iff _ _).mpr h.afterNow
  simp [streamExecutorStart, h.priming, Nat.not_lt.mpr h.enough, h.withinLimits, hafter, h.rate]

theorem streamExecutorStart_cases (currentTick : Tick) (positionUrad : Joints) :
    ((streamExecutorStart executor currentTick positionUrad).2 ≠ .ok ∧
      (streamExecutorStart executor currentTick positionUrad).1 = executor) ∨
    (Starts executor currentTick positionUrad ∧
      streamExecutorStart executor currentTick positionUrad =
        (started executor currentTick positionUrad, .ok)) := by
  unfold streamExecutorStart
  split
  · exact Or.inl ⟨nofun, rfl⟩
  · rename_i hpriming
    split
    · exact Or.inl ⟨nofun, rfl⟩
    · rename_i henough
      split
      · exact Or.inl ⟨nofun, rfl⟩
      · rename_i hanchor
        split
        · exact Or.inl ⟨nofun, rfl⟩
        · rename_i hrate
          simp only [Bool.or_eq_true, Bool.not_eq_true', not_or, Bool.not_eq_false,
            tickIsAfter_eq_false_iff, not_not] at hanchor
          exact Or.inr ⟨⟨not_not.mp hpriming, Nat.le_of_not_lt henough, hanchor.1, hanchor.2,
            by simpa using hrate⟩, rfl⟩

/-! ## 5. The control step -/

/-- **The ways through the control step.** -/
inductive StepOutcome (executor : StreamExecutor) (currentTick : Tick) :
    StreamExecutor × ExecutorResult × Option Joints → Prop
  | idle (result : ExecutorResult)
      (state : executor.diagnostics.state = .running → executor.anchorValid = false) :
      StepOutcome executor currentTick (executor, result, none)
  | backwards (running : executor.diagnostics.state = .running)
      (late : executor.lastStepValid = true ∧ After executor.lastStepTick currentTick ∨
        After executor.anchor.applyTick currentTick) :
      StepOutcome executor currentTick
        (terminate executor .aborted .invalidTimeline currentTick true, .terminal, none)
  | timeout (running : executor.diagnostics.state = .running)
      (openEnded : executor.session.horizonEndTick = 0)
      (silent : executor.session.policy.commandTimeoutMs.toNat <
        ahead currentTick executor.diagnostics.lastCommandTick) :
      StepOutcome executor currentTick
        (terminate (recordOutput (ticked executor currentTick) executor.anchor.positionUrad)
          .hold .commandTimeout currentTick true, .terminal, some executor.anchor.positionUrad)
  | underflow (running : executor.diagnostics.state = .running)
      (planned : executor.session.horizonEndTick ≠ 0) (drained : executor.queue = []) :
      StepOutcome executor currentTick
        (terminate (ticked executor currentTick) .aborted .queueUnderflow currentTick true,
          .terminal, none)
  | holding (running : executor.diagnostics.state = .running)
      (openEnded : executor.session.horizonEndTick = 0)
      (noTimeout : executor.session.horizonEndTick = 0 →
        ahead currentTick executor.diagnostics.lastCommandTick ≤
          executor.session.policy.commandTimeoutMs.toNat)
      (drained : executor.queue = []) :
      StepOutcome executor currentTick
        (recordOutput (ticked executor currentTick) executor.anchor.positionUrad, .outputReady,
          some executor.anchor.positionUrad)
  | missed (running : executor.diagnostics.state = .running) (next : Setpoint)
      (rest : List Setpoint) (queued : executor.queue = next :: rest)
      (passed : ¬ After (executor.due next) currentTick)
      (late : executor.session.policy.maximumApplyLatenessMs.toNat <
        ahead currentTick (executor.due next)) :
      StepOutcome executor currentTick
        (terminate (ticked executor currentTick) .aborted .missedApplyTick currentTick true,
          .terminal, none)
  | applied (running : executor.diagnostics.state = .running) (next : Setpoint)
      (rest : List Setpoint) (queued : executor.queue = next :: rest)
      (noTimeout : executor.session.horizonEndTick = 0 →
        ahead currentTick executor.diagnostics.lastCommandTick ≤
          executor.session.policy.commandTimeoutMs.toNat)
      (due : ¬ After (executor.due next) currentTick)
      (onTime : ahead currentTick (executor.due next) ≤
        executor.session.policy.maximumApplyLatenessMs.toNat)
      (more : executor.session.horizonEndTick ≠ 0 → rest = [] →
        next.applyTick ≠ executor.session.horizonEndTick) :
      StepOutcome executor currentTick
        (applyFirstSample (ticked executor currentTick) next
          (currentTick - executor.due next), .outputReady, some next.positionUrad)
  | succeeded (running : executor.diagnostics.state = .running) (next : Setpoint)
      (queued : executor.queue = [next])
      (due : ¬ After (executor.due next) currentTick)
      (onTime : ahead currentTick (executor.due next) ≤
        executor.session.policy.maximumApplyLatenessMs.toNat)
      (planned : executor.session.horizonEndTick ≠ 0)
      (final : next.applyTick = executor.session.horizonEndTick) :
      StepOutcome executor currentTick
        (terminate (applyFirstSample (ticked executor currentTick) next
            (currentTick - executor.due next)) .succeeded .plannedHorizon currentTick false,
          .terminal, some next.positionUrad)
  | degenerate (running : executor.diagnostics.state = .running) (next : Setpoint)
      (rest : List Setpoint) (queued : executor.queue = next :: rest)
      (still : After (executor.due next) currentTick)
      (collapsed : executor.due next = executor.due executor.anchor ∨
        ahead (executor.due next) (executor.due executor.anchor) <
          ahead currentTick (executor.due executor.anchor)) :
      StepOutcome executor currentTick
        (terminate (ticked executor currentTick) .aborted .invalidTimeline currentTick true,
          .terminal, none)
  | interpolated (running : executor.diagnostics.state = .running) (next : Setpoint)
      (rest : List Setpoint) (queued : executor.queue = next :: rest)
      (noTimeout : executor.session.horizonEndTick = 0 →
        ahead currentTick executor.diagnostics.lastCommandTick ≤
          executor.session.policy.commandTimeoutMs.toNat)
      (still : After (executor.due next) currentTick)
      (span : executor.due next ≠ executor.due executor.anchor)
      (within : ahead currentTick (executor.due executor.anchor) ≤
        ahead (executor.due next) (executor.due executor.anchor)) :
      StepOutcome executor currentTick
        (recordOutput (ticked executor currentTick) (executor.towards next currentTick),
          .outputReady, some (executor.towards next currentTick))

theorem horizonReached_applyFirstSample (next : Setpoint) (lateness : Tick) :
    horizonReached (applyFirstSample executor next lateness) = true ↔
      executor.session.horizonEndTick ≠ 0 ∧
        next.applyTick = executor.session.horizonEndTick ∧ executor.queue.tail = [] := by
  have hshape : horizonReached (applyFirstSample executor next lateness) =
      (executor.session.horizonEndTick != 0 &&
        next.applyTick == executor.session.horizonEndTick && executor.queue.tail.isEmpty) := rfl
  rw [hshape]
  simp [and_assoc]

theorem stepApply_outcome {executor : StreamExecutor} {next : Setpoint} {rest : List Setpoint}
    (running : executor.diagnostics.state = .running) (queued : executor.queue = next :: rest)
    (noTimeout : executor.session.horizonEndTick = 0 → ahead currentTick executor.diagnostics.lastCommandTick ≤ executor.session.policy.commandTimeoutMs.toNat)
    (due : ¬ After (executor.due next) currentTick) :
    StepOutcome executor currentTick
      (stepApply (ticked executor currentTick) next currentTick) := by
  unfold stepApply
  split
  · rename_i hlate
    exact .missed running next rest queued due hlate
  · rename_i honTime
    have honTime : ahead currentTick (executor.due next) ≤
        executor.session.policy.maximumApplyLatenessMs.toNat := Nat.le_of_not_lt honTime
    have htail : (ticked executor currentTick).queue.tail = rest := congrArg List.tail queued
    split
    · rename_i hfinal
      rw [horizonReached_applyFirstSample, htail] at hfinal
      obtain ⟨hplanned, hfinal, rfl⟩ := hfinal
      exact .succeeded running next queued due honTime hplanned hfinal
    · rename_i hmore
      rw [horizonReached_applyFirstSample, htail] at hmore
      exact .applied running next rest queued noTimeout due honTime
        fun hplanned hrest hfinal => hmore ⟨hplanned, hfinal, hrest⟩

theorem stepInterpolate_outcome {executor : StreamExecutor} {next : Setpoint} {rest : List Setpoint}
    (running : executor.diagnostics.state = .running) (queued : executor.queue = next :: rest)
    (noTimeout : executor.session.horizonEndTick = 0 → ahead currentTick executor.diagnostics.lastCommandTick ≤ executor.session.policy.commandTimeoutMs.toNat)
    (still : After (executor.due next) currentTick) :
    StepOutcome executor currentTick
      (stepInterpolate (ticked executor currentTick) next currentTick) := by
  unfold stepInterpolate
  split
  · rename_i hcollapsed
    refine .degenerate running next rest queued still ?_
    rcases hcollapsed with hzero | hpast
    · exact Or.inl (Serial.eq_of_ahead_eq_zero (congrArg BitVec.toNat hzero))
    · exact Or.inr hpast
  · rename_i hspan
    rw [not_or] at hspan
    refine .interpolated running next rest queued noTimeout still ?_ (Nat.le_of_not_lt hspan.2)
    intro heq
    exact hspan.1 (BitVec.eq_of_toNat_eq (by
      show ahead (executor.due next) (executor.due executor.anchor) = 0
      rw [heq, Serial.ahead_self]))

/-- **Every step is one of these.** -/
theorem streamExecutorStep_outcome (currentTick : Tick) :
    StepOutcome executor currentTick (streamExecutorStep executor currentTick) := by
  unfold streamExecutorStep
  split
  · rename_i hpriming
    exact .idle .waiting fun hrunning => by simp [hpriming] at hrunning
  split
  · rename_i hidle
    exact .idle .badState fun hrunning => by simpa [hrunning] using hidle
  rename_i hidle
  have running : executor.diagnostics.state = .running := by
    by_contra hne
    exact hidle (Or.inl hne)
  split
  · rename_i hback
    simp only [tickIsBefore_iff] at hback
    exact .backwards running hback
  unfold stepRunning
  split
  · rename_i htimeout
    exact .timeout running htimeout.1 htimeout.2
  · rename_i htimeout
    have noTimeout : executor.session.horizonEndTick = 0 →
        ahead currentTick executor.diagnostics.lastCommandTick ≤
          executor.session.policy.commandTimeoutMs.toNat :=
      fun hopen => Nat.le_of_not_lt fun hlt => htimeout ⟨hopen, hlt⟩
    split
    · rename_i hqueue
      split
      · rename_i hplanned
        exact .underflow running hplanned hqueue
      · rename_i hopen
        exact .holding running (not_not.mp hopen) noTimeout hqueue
    · rename_i next rest hqueue
      split
      · rename_i hdue
        simp only [Bool.not_eq_true', tickIsBefore_eq_false_iff] at hdue
        exact stepApply_outcome running hqueue noTimeout hdue
      · rename_i hstill
        simp only [Bool.not_eq_true', tickIsBefore_eq_false_iff, not_not] at hstill
        exact stepInterpolate_outcome running hqueue noTimeout hstill

/-! ## 6. Tracking feedback -/

/-- The executor with the tracking fields of its diagnostics set. -/
def withTracking (executor : StreamExecutor) (errors : Joint → BitVec 32) (joint : Byte) :
    StreamExecutor :=
  { executor with
    diagnostics :=
      { executor.diagnostics with
        maximumTrackingErrorUrad := errors
        trackingErrorJoint := joint } }

/-- **A feedback check does nothing, records an error, or aborts.** -/
inductive FeedbackOutcome (executor : StreamExecutor) (currentTick : Tick) :
    StreamExecutor × ExecutorResult → Prop
  | idle : FeedbackOutcome executor currentTick (executor, .badState)
  | tracked (errors : Joint → BitVec 32) :
      FeedbackOutcome executor currentTick
        (withTracking executor errors executor.diagnostics.trackingErrorJoint, .ok)
  | aborted (errors : Joint → BitVec 32) (joint : Byte)
      (live : executor.diagnostics.state = .running ∨ executor.diagnostics.state = .succeeded) :
      FeedbackOutcome executor currentTick
        (terminate (withTracking executor errors joint) .aborted .trackingError currentTick true,
          .terminal)

theorem checkTrackingError_cases (currentTick : Tick) (joint : Joint)
    (commandedUrad measuredUrad : Urad) :
    (∃ errors, checkTrackingError executor currentTick joint commandedUrad measuredUrad =
      (withTracking executor errors executor.diagnostics.trackingErrorJoint, false)) ∨
    ∃ errors bad, checkTrackingError executor currentTick joint commandedUrad measuredUrad =
      (terminate (withTracking executor errors bad) .aborted .trackingError currentTick true,
        true) := by
  unfold checkTrackingError
  dsimp only
  split
  · exact Or.inr ⟨_, _, rfl⟩
  · exact Or.inl ⟨_, rfl⟩

theorem streamExecutorCheckJointFeedback_outcome (currentTick : Tick) (joint : Byte)
    (commandedUrad measuredUrad : Urad) :
    FeedbackOutcome executor currentTick
      (streamExecutorCheckJointFeedback executor currentTick joint commandedUrad
        measuredUrad) := by
  unfold streamExecutorCheckJointFeedback
  split
  · rename_i hjoint
    split
    · exact .idle
    · rename_i hlive
      rcases checkTrackingError_cases executor currentTick ⟨joint.toNat, hjoint⟩ commandedUrad
        measuredUrad with ⟨errors, heq⟩ | ⟨errors, bad, heq⟩
      · rw [heq]
        exact .tracked errors
      · rw [heq]
        exact .aborted errors bad (by tauto)
  · exact .idle

/-- The joint loop, from an executor whose errors it has already recorded in part. -/
theorem checkFeedbackJoints_outcome {executor : StreamExecutor} {measuredUrad : Joints}
    (hrunning : executor.diagnostics.state = .running) :
    ∀ (joints : List Joint) (errors : Joint → BitVec 32),
      FeedbackOutcome executor currentTick
        (checkFeedbackJoints currentTick measuredUrad joints
          (withTracking executor errors executor.diagnostics.trackingErrorJoint))
  | [], errors => .tracked errors
  | joint :: joints, errors => by
    unfold checkFeedbackJoints
    rcases checkTrackingError_cases
      (withTracking executor errors executor.diagnostics.trackingErrorJoint) currentTick joint
      (executor.lastOutputUrad joint) (measuredUrad joint) with ⟨errors', heq⟩ | ⟨errors', bad, heq⟩
    · simp only [show (withTracking executor errors
        executor.diagnostics.trackingErrorJoint).lastOutputUrad = executor.lastOutputUrad from rfl,
        heq]
      exact checkFeedbackJoints_outcome hrunning joints errors'
    · simp only [show (withTracking executor errors
        executor.diagnostics.trackingErrorJoint).lastOutputUrad = executor.lastOutputUrad from rfl,
        heq]
      exact .aborted errors' bad (Or.inl hrunning)

theorem streamExecutorCheckFeedback_outcome (currentTick : Tick) (measuredUrad : Joints) :
    FeedbackOutcome executor currentTick
      (streamExecutorCheckFeedback executor currentTick measuredUrad) := by
  unfold streamExecutorCheckFeedback
  split
  · exact .idle
  · rename_i hlive
    have hrunning : executor.diagnostics.state = .running := by tauto
    exact checkFeedbackJoints_outcome hrunning (List.finRange 12)
      executor.diagnostics.maximumTrackingErrorUrad

end MobileBimanual.Stream
