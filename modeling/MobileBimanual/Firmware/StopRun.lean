/-
# Runs of the firmware under a stop

The second invariant (`Contained`) and the run theorem.  A latched host may still be exposed:
`BinaryControl_Service` then performs the coordinated stop, which faults the dispatcher, as long
as the arms count as powered.  The code loses this where it takes the power off first and leaves
the stream clock running over an idle dispatcher, above all in SAFE_STOP; `StopsCleanly` says for
each event what it takes not to (`hostStep_guarded`).  Along a run whose events all stop cleanly
no goal packet follows a stop (`no_goal_after_stop`).
-/
import MobileBimanual.Firmware.StopRecovery

namespace MobileBimanual.Firmware

open Machine
open MobileBimanual.Stream

/-! ## 1. The second invariant -/

/-- A latched host that is exposed has powered arms, so that the service loop stops it. -/
def Contained (build : Build) (host : HostControl) : Prop :=
  host.stopLatched = true → exposed host = true → outputsActive build host = true

variable {build : Build} {host : HostControl}

theorem Contained.of_unexposed (h : exposed host = false) : Contained build host := by
  intro _ he
  rw [h] at he
  cases he

theorem Contained.of_unlatched (h : host.stopLatched = false) : Contained build host := by
  intro hl
  rw [h] at hl
  cases hl

variable {host' : HostControl}

/-- What exposes nothing new and leaves the power on. -/
theorem Contained.of_powered (exposure : exposed host' = true → exposed host = true)
    (powered : exposed host = true → outputsActive build host' = true) : Contained build host' :=
  fun _ he => powered (exposure he)

/-- What latches nothing, exposes nothing new and leaves the power on. -/
theorem Contained.calm (h : Contained build host) (calm : Calm host host')
    (powered : outputsActive build host = true → outputsActive build host' = true) :
    Contained build host' :=
  fun hl he => powered (h (calm.latch ▸ hl) (calm.exposure he))

/-- Both invariants. -/
structure Guarded (build : Build) (host : HostControl) : Prop where
  watched : Watched host
  contained : Contained build host

/-! ## 2. What an event needs -/

/-- The safety state after the service loop's tick is HOLD. -/
def holdsAfterTick (now : Tick) (host : HostControl) : Bool :=
  (safetyTick host.safety now).state == .hold

/-- A pass of the service loop latches a stop of its own. -/
def serviceLatches (replies : ServiceReplies) (host : HostControl) : Bool :=
  replies.uartTxFault ||
    (host.heartbeatCount != 0 && host.safety.state == .active && !host.stopLatched &&
      heartbeatOverdue replies.now host) ||
    holdsAfterTick replies.now host

/-- The torque sweeps of DISABLE. -/
def disableSweepLeft (build : Build) (replies : StopReplies) : Bool :=
  (servoDisableTorqueAll build.disableReadbackRecovery replies.serviceAllowed
    replies.leftTorqueOff).2

def disableSweepRight (replies : StopReplies) : Bool :=
  (rightServoDisableTorqueAll replies.rightBusPresent replies.rightTorqueOff).2

/-- The frames that can leave a latched host exposed without power, and the one ENABLE that can
let an old stream through. -/
def FrameStopsCleanly (build : Build) (message : HostMessage) (payload : List Byte)
    (replies : FrameReplies) (host : HostControl) : Prop :=
  match message with
  | .safeStop => payload = [] → exposed host = true →
      (dispatchStop build.leftOnly host.dispatch replies.stop.busEvents
        replies.stop.busHeld).faulted = true
  | .clearFault => host.stopLatched = true → replies.stopIsSafe = true →
      (clearSafety host.safety).2 = .ok → exposed host = false
  | .hold => payload = [] → safetyAcceptsSetpoint host.safety = true → exposed host = true →
      outputsActive build host = true
  | .disable => payload = [] → exposed host = true →
      if replies.stop.mobileConfigured then outputsActive build host = true
      else
        (host.rightArmOutputActive = true ∧ disableSweepRight replies.stop = false) ∨
          (host.stopLatched = false ∧ disableSweepLeft build replies.stop = true)
  | .prepareShadow => exposed host = true →
      (build.executorValidation && build.shadowValidation &&
        (payload.length == 0 || (build.unwrapShadowValidation && payload.length == 52))) = false
  | .rightArmDisable => payload = [] → exposed host = true →
      if replies.rightArm.busPresent && replies.rightArm.disableVerified then
        host.stopLatched = false
      else outputsActive build host = true
  | .enable => payload = [] → recovery host = .armed →
      (safetyRequestEnable host.safety replies.now).2 = .ok →
      host.streamExecutor.diagnostics.state ≠ .priming
  | _ => True

/-- **What an event needs so that the stop it makes, or meets, holds.** -/
def StopsCleanly (build : Build) (host : HostControl) : HostEvent → Prop
  | .frame message payload replies =>
    frameFiltered build message = false → FrameStopsCleanly build message payload replies host
  | .service replies => exposed host = true →
      outputsActive build host = true ∨ host.coordinatedStopPending = true ∨
        (dispatchPoll build.leftOnly host.dispatch replies.busEvents).faulted = true ∨
        serviceLatches replies host = false
  | .controlTick _ => True
  | .hostUartError => exposed host = true → outputsActive build host = true
  | .mobileStop => exposed host = true → outputsActive build host = true

instance decidableFrameStopsCleanly (build : Build) (message : HostMessage) (payload : List Byte)
    (replies : FrameReplies) (host : HostControl) :
    Decidable (FrameStopsCleanly build message payload replies host) := by
  cases message <;> dsimp only [FrameStopsCleanly] <;> infer_instance

instance decidableStopsCleanly (build : Build) :
    ∀ host event, Decidable (StopsCleanly build host event)
  | host, .frame message payload replies =>
    inferInstanceAs (Decidable (frameFiltered build message = false →
      FrameStopsCleanly build message payload replies host))
  | host, .service replies =>
    inferInstanceAs (Decidable (exposed host = true →
      outputsActive build host = true ∨ host.coordinatedStopPending = true ∨
        (dispatchPoll build.leftOnly host.dispatch replies.busEvents).faulted = true ∨
        serviceLatches replies host = false))
  | _, .controlTick _ => isTrue trivial
  | host, .hostUartError =>
    inferInstanceAs (Decidable (exposed host = true → outputsActive build host = true))
  | host, .mobileStop =>
    inferInstanceAs (Decidable (exposed host = true → outputsActive build host = true))

/-! ## 3. Frames -/

theorem outputsActive_iff (build : Build) (host : HostControl) :
    outputsActive build host = true ↔
      host.rightArmOutputActive = true ∨
        build.leftOnly = true ∧ host.servosConfigured = true := by
  simp [outputsActive]

/-- The guard of the DMA image in front of a start implies power. -/
theorem outputsReady_powered (h : outputsReady build host = true) :
    outputsActive build host = true := by
  simp only [outputsReady, Bool.and_eq_true, Bool.or_eq_true] at h
  rw [outputsActive_iff]
  obtain ⟨⟨hservos, honly | hright⟩, -⟩ := h
  · exact Or.inr ⟨honly, hservos⟩
  · exact Or.inl hright

theorem contained_validateV2StreamOpen (h : Contained build host) (payload : List Byte)
    (now : Tick) : Contained build (validateV2StreamOpen build payload now host).1 := by
  unfold validateV2StreamOpen
  split_ifs
  · exact h
  · exact h
  · have hcases := streamExecutorOpen_cases host.streamExecutor payload now
    generalize streamExecutorOpen host.streamExecutor payload now = out at hcases
    obtain ⟨executor, result⟩ := out
    rcases hcases with ⟨hne, -⟩ | ⟨policy, -, -, heq⟩
    · cases result with
      | ok => exact absurd rfl hne
      | _ => exact h
    · cases heq
      refine Contained.of_unexposed ?_
      simp [exposed, resetStreamClock_clock]
  · dsimp only
    split_ifs <;> exact h

theorem primeStream_outputs (build : Build) (replies : BatchReplies) (host : HostControl) :
    (primeStream build replies host).1.servosConfigured = host.servosConfigured ∧
    (primeStream build replies host).1.rightArmOutputActive = host.rightArmOutputActive := by
  unfold primeStream
  split_ifs
  · exact ⟨rfl, rfl⟩
  · exact ⟨rfl, rfl⟩
  · exact ⟨rfl, rfl⟩
  · simp only [deferStart, beginTracking]
    split_ifs <;> exact ⟨rfl, rfl⟩
  · exact ⟨rfl, rfl⟩
  · simp only [startStream]
    generalize streamExecutorStart host.streamExecutor replies.startTick _ = out
    obtain ⟨executor, result⟩ := out
    cases result <;> exact ⟨rfl, rfl⟩

/-- A stream gets going on powered arms alone. -/
theorem contained_hostBatchResult (h : Contained build host) (replies : BatchReplies)
    (admitted : ExecutorResult) (hdma : build.dmaDispatch = true) :
    Contained build (hostBatchResult build replies admitted host).1 := by
  simp only [hostBatchResult, hdma, true_and]
  split_ifs with hgate hstart hstart
  · exact absurd hstart.1 (by simp)
  · exact h
  · have hready : outputsReady build host = true := by
      by_contra hne
      exact hgate ⟨hstart.1, by simpa using hne⟩
    have hpowered := outputsReady_powered hready
    obtain ⟨hservos, hright⟩ := primeStream_outputs build replies host
    intro _ _
    unfold outputsActive at hpowered ⊢
    rw [hservos, hright]
    exact hpowered
  · exact h

theorem contained_validateV2Batch (h : Contained build host) (payload : List Byte)
    (kind : BatchKind) (replies : BatchReplies) (hdma : build.dmaDispatch = true) :
    Contained build (validateV2Batch build payload kind replies host).1 := by
  have hanswer : ∀ {taken : HostControl} (result : ExecutorResult), Contained build taken →
      Contained build (answerBatch taken result).1 := by
    intro taken result htaken
    unfold answerBatch
    split_ifs <;> exact htaken
  unfold validateV2Batch
  split_ifs
  · have htaken : Contained build
        { host with
          streamExecutor := (streamExecutorAdmit host.streamExecutor payload kind replies.now).1 } :=
      h
    exact hanswer _ (contained_hostBatchResult htaken replies _ hdma)
  · dsimp only
    split_ifs <;> exact h

/-- The configuration of an ARM never takes power off. -/
theorem configureForArm_powered (replies : ArmReplies) (hdma : build.dmaDispatch = true)
    (h : outputsActive build host = true) :
    outputsActive build (configureForArm build replies host).1 = true := by
  rw [outputsActive_iff] at h ⊢
  simp only [configureForArm, configureBimanualForTrajectory, hdma, if_true]
  by_cases hrefused : configurationRefused build replies host
  · simpa [hrefused] using h
  · simp only [hrefused, Bool.false_eq_true, if_false]
    by_cases hfail : (!(energiseArms build replies).2 || !replies.armsPrepared) = true
    · simpa [hfail, HostControl.noteTorque] using h
    · cases honly : build.leftOnly <;> simp [hfail]

theorem contained_armRequest (h : Contained build host) (payload : List Byte) (replies : ArmReplies)
    (hdma : build.dmaDispatch = true) :
    Contained build (armRequest build payload replies host).1 := by
  have hconfigured : Contained build (configureForArm build replies host).1 :=
    h.calm (calm_configureForArm build replies host) (configureForArm_powered replies hdma)
  simp only [armRequest]
  split_ifs
  · exact h
  · exact hconfigured
  · exact hconfigured
  · exact h
  · exact h

theorem contained_enableRequest (h : Contained build host) (now : Tick) :
    Contained build (enableRequest now host) := by
  simp only [enableRequest]
  split_ifs <;> exact h

theorem contained_safeStop (replies : StopReplies) (hdma : build.dmaDispatch = true)
    (clean : exposed host = true →
      (dispatchStop build.leftOnly host.dispatch replies.busEvents replies.busHeld).faulted =
        true) : Contained build (safeStop build replies host) := by
  refine Contained.of_unexposed ?_
  by_contra hne
  rw [Bool.not_eq_false] at hne
  have hdispatch : (latchStop (holdIfAccepting host)).dispatch = host.dispatch := by
    simp only [latchStop, holdIfAccepting, HostControl.note]
    split_ifs <;> rfl
  have hexposed := (effect_safeStop build replies host).exposure hne
  have hfault := ((exposed_iff _).1 hne).2
  simp only [safeStop, hdma, if_true, performV2CoordinatedStop_dispatch, Bool.false_eq_true,
    if_false, hdispatch, clean hexposed] at hfault
  cases hfault

theorem contained_clearFault (h : Contained build host) (stopIsSafe : Bool) :
    Contained build (clearFault stopIsSafe host) := by
  unfold clearFault
  split_ifs
  · exact h
  · generalize clearSafety host.safety = out
    obtain ⟨safety, result⟩ := out
    cases result with
    | ok => exact Contained.of_unlatched rfl
    | _ => exact h

theorem contained_holdRequest (h : Contained build host)
    (clean : safetyAcceptsSetpoint host.safety = true → exposed host = true →
      outputsActive build host = true) : Contained build (holdRequest host) := by
  by_cases haccepts : safetyAcceptsSetpoint host.safety = true
  · refine Contained.of_powered (effect_holdRequest host).exposure ?_
    intro he
    have hpowered := clean haccepts he
    simp only [holdRequest, holdIfAccepting, haccepts, if_true]
    exact hpowered
  · simp only [holdRequest, haccepts, Bool.false_eq_true, if_false]
    exact h

theorem disableLeft_outcome (build : Build) (replies : StopReplies) (host : HostControl) :
    (disableLeft build replies host).rightArmOutputActive = host.rightArmOutputActive ∧
    (disableLeft build replies host).stopLatched =
      (host.stopLatched || !disableSweepLeft build replies) := by
  unfold disableLeft disableSweepLeft
  by_cases hleft : (servoDisableTorqueAll build.disableReadbackRecovery replies.serviceAllowed
    replies.leftTorqueOff).2 = true
  · simp [hleft, HostControl.noteTorque]
  · simp [hleft, latchStop, HostControl.note, HostControl.noteTorque]

variable (replies : StopReplies)

theorem disableRight_outcome (host : HostControl) :
    (disableRight replies host).rightArmOutputActive =
      (host.rightArmOutputActive && !disableSweepRight replies) ∧
    (disableRight replies host).stopLatched =
      (host.stopLatched || (host.rightArmOutputActive && !disableSweepRight replies)) := by
  unfold disableRight disableSweepRight
  by_cases hpowered : host.rightArmOutputActive = true
  · by_cases hright : (rightServoDisableTorqueAll replies.rightBusPresent
        replies.rightTorqueOff).2 = true
    · simp [hpowered, hright, HostControl.noteTorque]
    · simp [hpowered, hright, latchStop, HostControl.note, HostControl.noteTorque]
  · simp [hpowered]

theorem contained_disableRequest
    (clean : exposed host = true →
      if replies.mobileConfigured then outputsActive build host = true
      else
        (host.rightArmOutputActive = true ∧ disableSweepRight replies = false) ∨
          (host.stopLatched = false ∧ disableSweepLeft build replies = true)) :
    Contained build (disableRequest build replies host) := by
  intro hlatch he
  have hcase := clean ((effect_disableRequest build replies host).exposure he)
  unfold disableRequest at hlatch ⊢
  by_cases hmobile : replies.mobileConfigured = true
  · simp only [hmobile, if_true] at hcase ⊢
    exact hcase
  · simp only [hmobile, Bool.false_eq_true, if_false] at hcase hlatch ⊢
    rw [outputsActive_iff]
    left
    rw [(disableRight_outcome replies _).2, (disableLeft_outcome build replies _).1,
      (disableLeft_outcome build replies _).2] at hlatch
    rw [(disableRight_outcome replies _).1, (disableLeft_outcome build replies _).1]
    rcases hcase with ⟨hright, hfails⟩ | ⟨hunlatched, hleft⟩
    · simp [hright, hfails]
    · simpa [hunlatched, hleft] using hlatch

theorem contained_prepareShadow (h : Contained build host) (payload : List Byte)
    (replies : ShadowReplies)
    (clean : exposed host = true →
      (build.executorValidation && build.shadowValidation &&
        (payload.length == 0 || (build.unwrapShadowValidation && payload.length == 52))) = false) :
    Contained build (prepareShadow build payload replies host) := by
  unfold prepareShadow
  split_ifs with hhandled
  · refine Contained.of_unexposed ?_
    by_contra hne
    rw [Bool.not_eq_false] at hne
    have hexposed := (effect_sendV2ShadowSnapshot build payload replies host).exposure hne
    rw [clean hexposed] at hhandled
    cases hhandled
  · exact h

theorem contained_rightArmDisable (replies : RightArmReplies)
    (clean : exposed host = true →
      if replies.busPresent && replies.disableVerified then host.stopLatched = false
      else outputsActive build host = true) :
    Contained build (rightArmDisableVerified replies host) := by
  intro hlatch he
  have hcase := clean ((effect_rightArmDisableVerified replies host).exposure he)
  simp only [rightArmDisableVerified] at hlatch ⊢
  by_cases hok : (replies.busPresent && replies.disableVerified) = true
  · rw [if_pos hok] at hcase hlatch
    split_ifs at hlatch <;> simp_all [HostControl.noteTorque]
  · rw [if_neg hok] at hcase ⊢
    split_ifs <;> exact hcase

theorem contained_rightArmJogOnce (h : Contained build host) (replies : RightArmReplies) :
    Contained build (rightArmJogOnce replies host) := by
  refine h.calm (calm_rightArmJogOnce replies host) ?_
  intro hpowered
  unfold rightArmJogOnce
  split_ifs
  · simp [outputsActive]
  · exact hpowered

theorem contained_rightArmTorqueEnableOnce (h : Contained build host) (servoId : Byte)
    (replies : RightArmReplies) :
    Contained build (rightArmTorqueEnableOnce servoId replies host) := by
  refine h.calm (calm_rightArmTorqueEnableOnce servoId replies host) ?_
  intro hpowered
  simp only [rightArmTorqueEnableOnce]
  split
  · split_ifs
    · simp [outputsActive]
    · exact hpowered
  · exact hpowered

theorem contained_rightArmConfigureOnce (h : Contained build host) (servoId : Byte)
    (replies : RightArmReplies) : Contained build (rightArmConfigureOnce servoId replies host) := by
  refine h.calm (calm_rightArmConfigureOnce servoId replies host) ?_
  intro hpowered
  unfold rightArmConfigureOnce
  split
  · simp [outputsActive, HostControl.noteTorque]
  · exact hpowered

/-- **A frame that stops cleanly keeps both invariants.** -/
theorem handleBinaryFrame_guarded (hdma : build.dmaDispatch = true) (h : Guarded build host)
    (message : HostMessage) (payload : List Byte) (replies : FrameReplies)
    (clean : frameFiltered build message = false →
      FrameStopsCleanly build message payload replies host) :
    Guarded build (handleBinaryFrame build message payload replies host) := by
  obtain ⟨hw, hc⟩ := h
  unfold handleBinaryFrame
  by_cases hfiltered : frameFiltered build message = true
  · rw [if_pos hfiltered]
    exact ⟨hw.calm (calm_countRejected host), hc⟩
  · rw [if_neg hfiltered]
    replace clean := clean (Bool.eq_false_iff.mpr hfiltered)
    cases message with
    | query => exact ⟨hw, hc⟩
    | rightArmReport => exact ⟨hw, hc⟩
    | mobileRequest => exact ⟨hw, hc⟩
    | unknown => exact ⟨hw, hc⟩
    | heartbeat =>
      dsimp only
      split_ifs
      · exact ⟨hw.calm (calm_heartbeat ..), hc⟩
      · exact ⟨hw, hc⟩
    | streamOpen =>
      exact ⟨hw.validateV2StreamOpen .., contained_validateV2StreamOpen hc payload replies.now⟩
    | setpointBatch =>
      exact ⟨hw.validateV2Batch build payload .append replies.batch hdma,
        contained_validateV2Batch hc payload .append replies.batch hdma⟩
    | splice =>
      exact ⟨hw.validateV2Batch build payload .splice replies.batch hdma,
        contained_validateV2Batch hc payload .splice replies.batch hdma⟩
    | prepareShadow =>
      refine ⟨?_, contained_prepareShadow hc payload replies.shadow clean⟩
      dsimp only
      unfold prepareShadow
      split_ifs
      · exact hw.effect (effect_sendV2ShadowSnapshot ..)
      · exact hw
    | armRequest =>
      exact ⟨hw.armRequest .., contained_armRequest hc payload replies.arm hdma⟩
    | enable =>
      dsimp only
      split_ifs with hempty
      · exact ⟨hw.enableRequest replies.now (clean hempty), contained_enableRequest hc _⟩
      · exact ⟨hw, hc⟩
    | safeStop =>
      dsimp only
      split_ifs with hempty
      · exact ⟨hw.effect (effect_safeStop ..),
          contained_safeStop replies.stop hdma (clean hempty)⟩
      · exact ⟨hw, hc⟩
    | clearFault =>
      exact ⟨hw.clearFault replies.stopIsSafe clean, contained_clearFault hc _⟩
    | hold =>
      dsimp only
      split_ifs with hempty
      · exact ⟨hw.effect (effect_holdRequest host), contained_holdRequest hc (clean hempty)⟩
      · exact ⟨hw, hc⟩
    | disable =>
      dsimp only
      split_ifs with hempty
      · exact ⟨hw.effect (effect_disableRequest ..),
          contained_disableRequest replies.stop (clean hempty)⟩
      · exact ⟨hw, hc⟩
    | rightArmJogOnce =>
      dsimp only
      split_ifs
      · exact ⟨hw.calm (calm_rightArmJogOnce ..), contained_rightArmJogOnce hc _⟩
      · exact ⟨hw, hc⟩
    | rightArmTorqueEnableOnce =>
      dsimp only
      split_ifs
      · exact ⟨hw.calm (calm_rightArmTorqueEnableOnce ..),
          contained_rightArmTorqueEnableOnce hc _ _⟩
      · exact ⟨hw, hc⟩
    | rightArmConfigureOnce =>
      dsimp only
      split_ifs
      · exact ⟨hw.calm (calm_rightArmConfigureOnce ..), contained_rightArmConfigureOnce hc _ _⟩
      · exact ⟨hw, hc⟩
    | rightArmDisable =>
      dsimp only
      split_ifs with hempty
      · exact ⟨hw.effect (effect_rightArmDisableVerified ..),
          contained_rightArmDisable replies.rightArm (clean hempty)⟩
      · exact ⟨hw, hc⟩

/-! ## 4. The service loop -/

/-- A latched host exposes nothing: what the service loop establishes before it lets the
executor on. -/
def Quiet (host : HostControl) : Prop := host.stopLatched = true → exposed host = false

theorem Quiet.contained (h : Quiet host) : Contained build host := by
  intro hl he
  rw [h hl] at he
  cases he

theorem Quiet.of_unexposed (h : exposed host = false) : Quiet host :=
  fun _ => h

theorem Quiet.calm (h : Quiet host) (calm : Calm host host') : Quiet host' := by
  intro hl
  by_contra hne
  rw [Bool.not_eq_false] at hne
  exact absurd (calm.exposure hne) (by simp [h (calm.latch ▸ hl)])

/-- The arms are powered as long as the host is exposed. -/
def Powered (build : Build) (host : HostControl) : Prop :=
  exposed host = true → outputsActive build host = true

theorem Powered.of_unexposed (h : exposed host = false) : Powered build host := by
  intro he
  rw [h] at he
  cases he

/-- A stage of the service loop that switches nothing off. -/
theorem Powered.stage (h : Powered build host)
    (exposure : exposed host' = true → exposed host = true)
    (outputs : outputsActive build host' = outputsActive build host) : Powered build host' := by
  intro he
  rw [outputs]
  exact h (exposure he)

/-- A stop that faults the dispatcher exposes nothing. -/
theorem performV2CoordinatedStop_unexposed (build : Build) (replies : StopReplies)
    (host : HostControl) : exposed (performV2CoordinatedStop build true replies host).1 = false := by
  simp [exposed, performV2CoordinatedStop_dispatch]

theorem Powered.serviceUartFault (h : Powered build host) (replies : ServiceReplies) :
    Powered build (serviceUartFault replies host) := by
  refine h.stage (effect_serviceUartFault replies host).exposure ?_
  unfold Firmware.serviceUartFault holdIfAccepting
  split_ifs <;> rfl

theorem Powered.serviceHeartbeatLoss (h : Powered build host) (now : Tick) :
    Powered build (serviceHeartbeatLoss now host) := by
  refine h.stage (effect_serviceHeartbeatLoss now host).exposure ?_
  unfold Firmware.serviceHeartbeatLoss
  split_ifs <;> rfl

theorem Powered.serviceWatchdog (h : Powered build host) (hdma : build.dmaDispatch = true)
    (replies : ServiceReplies) : Powered build (serviceWatchdog build replies host) := by
  simp only [Firmware.serviceWatchdog, hdma, if_true]
  split_ifs
  · exact h
  · exact Powered.of_unexposed (performV2CoordinatedStop_unexposed ..)

theorem Powered.serviceSafety (h : Powered build host) (now : Tick) :
    Powered build (serviceSafety now host) := by
  refine h.stage (effect_serviceSafety now host).exposure ?_
  simp only [Firmware.serviceSafety]
  split_ifs <;> rfl

/-- The last stage stops a latched host with powered arms. -/
theorem Powered.serviceLatchedOutputs (h : Powered build host) (hdma : build.dmaDispatch = true)
    (replies : ServiceReplies) : Quiet (serviceLatchedOutputs build replies host) := by
  simp only [Firmware.serviceLatchedOutputs, hdma, Bool.true_and]
  split_ifs with hstop
  · exact Quiet.of_unexposed (performV2CoordinatedStop_unexposed ..)
  · intro hl
    by_contra he
    rw [Bool.not_eq_false] at he
    exact hstop (by simp [hl, h he])

/-- A powered host comes quiet out of the stages behind the dispatcher's. -/
theorem Powered.quiet (h : Powered build host) (hdma : build.dmaDispatch = true)
    (replies : ServiceReplies) :
    Quiet (Firmware.serviceLatchedOutputs build replies
      (Firmware.serviceSafety replies.now
        (Firmware.serviceWatchdog build replies
          (Firmware.serviceHeartbeatLoss replies.now
            (Firmware.serviceUartFault replies host))))) :=
  ((((h.serviceUartFault replies).serviceHeartbeatLoss replies.now).serviceWatchdog hdma
    replies).serviceSafety replies.now).serviceLatchedOutputs hdma replies

/-- Nothing latches a host in these stages but its own reasons. -/
theorem unlatched_stages (replies : ServiceReplies) (hunlatched : host.stopLatched = false)
    (hoff : outputsActive build host = false) (hreasons : serviceLatches replies host = false) :
    (serviceLatchedOutputs build replies
      (serviceSafety replies.now
        (serviceWatchdog build replies
          (serviceHeartbeatLoss replies.now (serviceUartFault replies host))))).stopLatched =
      false := by
  simp only [serviceLatches, Bool.or_eq_false_iff] at hreasons
  obtain ⟨⟨huart, hheartbeat⟩, hhold⟩ := hreasons
  have h₁ : serviceUartFault replies host = host := by
    simp [serviceUartFault, huart]
  have h₂ : serviceHeartbeatLoss replies.now host = host := by
    unfold serviceHeartbeatLoss
    rw [if_neg]
    rintro ⟨hcount, hactive, hnot, hoverdue⟩
    simp only [hactive, hoverdue, hunlatched, beq_self_eq_true, Bool.and_true, Bool.not_false,
      bne_eq_false_iff_eq] at hheartbeat
    exact hcount hheartbeat
  have h₃ : serviceWatchdog build replies host = host := by
    simp [serviceWatchdog, hoff]
  have h₄ : (serviceSafety replies.now host).stopLatched = false := by
    have hstate : ¬ (safetyTick host.safety replies.now).state = .hold := by
      simpa [holdsAfterTick] using hhold
    simp [serviceSafety, hstate, hunlatched]
  rw [h₁, h₂, h₃, serviceLatchedOutputs, h₄]
  simp [h₄]

/-- **The part of the service loop that looks after stops leaves a quiet host.** -/
theorem serviceStops_quiet (hdma : build.dmaDispatch = true) (h : Contained build host)
    (replies : ServiceReplies) (clean : StopsCleanly build host (.service replies)) :
    Quiet (serviceStops build replies host) := by
  unfold serviceStops serviceDispatchFault
  simp only [hdma, Bool.not_true, Bool.false_eq_true, if_false]
  split_ifs with hpending hfault
  · exact (Powered.of_unexposed (performV2CoordinatedStop_unexposed ..)).quiet hdma replies
  · exact (Powered.of_unexposed (performV2CoordinatedStop_unexposed ..)).quiet hdma replies
  · have hpoll := calm_poll build.leftOnly host replies.busEvents
    by_cases hpowered : outputsActive build host = true
    · refine Powered.quiet ?_ hdma replies
      intro _
      exact hpowered
    · by_cases hexposed : exposed host = true
      · rcases clean hexposed with hon | hstop | hpolled | hreasons
        · exact absurd hon hpowered
        · exact absurd hstop hpending
        · exact absurd hpolled hfault
        · have hunlatched : host.stopLatched = false := by
            by_contra hl
            exact hpowered (h (by simpa using hl) hexposed)
          intro hl
          refine absurd hl ?_
          rw [Bool.not_eq_true]
          exact unlatched_stages replies hunlatched (Bool.eq_false_iff.mpr hpowered) hreasons
      · refine Powered.quiet (Powered.of_unexposed ?_) hdma replies
        by_contra he
        exact hexposed (hpoll.exposure (by simpa using he))

/-- Both invariants, in the stronger form of the service loop. -/
structure Calmed (host : HostControl) : Prop where
  watched : Watched host
  quiet : Quiet host

theorem Calmed.calm (h : Calmed host) (calm : Calm host host') :
    Calmed host' := ⟨h.watched.calm calm, h.quiet.calm calm⟩

theorem Calmed.request (h : Calmed host) (build : Build) :
    Calmed (requestV2CoordinatedStop build host) :=
  ⟨h.watched.effect (effect_requestV2CoordinatedStop build host),
    Quiet.of_unexposed (requestV2CoordinatedStop_unexposed build host)⟩

theorem Calmed.tracking (h : Calmed host) (build : Build) (replies : TrackingReplies) :
    Calmed (serviceV2TrackingFeedback build replies host) := by
  rcases serviceV2TrackingFeedback_cases build replies host with hcalm | ⟨host', hcalm, heq⟩
  · exact h.calm hcalm
  · rw [heq]
    exact (h.calm hcalm).request build

/-- **A launch on a control tick**: the host has recovered, or the stream that was opened for it
starts on this very tick. -/
theorem Calmed.startOnTick (h : Calmed host) (tickMs : Tick) (hexposed : exposed host = true) :
    (startOnTick tickMs host).2 = false ∧ Calmed (startOnTick tickMs host).1 ∨
      (startOnTick tickMs host).2 = true ∧ Calmed (startOnTick tickMs host).1 ∧
        recovery (startOnTick tickMs host).1 = .running := by
  have hunlatched : host.stopLatched = false := by
    by_contra hl
    rw [h.quiet (by simpa using hl)] at hexposed
    cases hexposed
  have hshows := h.watched.shows_
  unfold Firmware.startOnTick
  by_cases hpending : host.executorStartPending = true
  · rw [if_neg (by simp [hpending])]
    have hcases := streamExecutorStart_cases host.streamExecutor tickMs
      host.shadowExecutorAnchorUrad
    generalize streamExecutorStart host.streamExecutor tickMs host.shadowExecutorAnchorUrad = out
      at hcases
    obtain ⟨executor, result⟩ := out
    rcases hcases with ⟨hne, hsame⟩ | ⟨-, heq⟩
    · cases hsame
      cases result with
      | ok => exact absurd rfl hne
      | _ => exact Or.inl ⟨rfl, h.calm (calm_executor host id)⟩
    · cases heq
      right
      have hnext : recoveryMonitor.next (recovery host) .streamStarted = .running := by
        revert hshows
        cases recovery host with
        | running => exact fun _ => rfl
        | stopped => exact fun hs => absurd (hs.symm.trans hunlatched) (by decide)
        | cleared => exact fun hs => absurd (hs.2.1.symm.trans hexposed) (by decide)
        | armed => exact fun hs => absurd (hs.2.1.symm.trans hexposed) (by decide)
        | enabled => exact fun hs => absurd (hs.2.1.symm.trans hexposed) (by decide)
        | opened => exact fun _ => rfl
      refine ⟨rfl, ⟨h.watched.note .streamStarted rfl nofun ?_, ?_⟩, ?_⟩
      · rw [hnext]
        exact hunlatched
      · intro hl
        exact absurd (hl.symm.trans hunlatched) (by decide)
      · rw [← hnext, recovery]
        simp only [HostControl.note, Monitor.state_append]
        rfl
  · rw [Bool.not_eq_true] at hpending
    rw [if_pos (by simp [hpending])]
    refine Or.inr ⟨rfl, h, ?_⟩
    revert hshows
    cases recovery host with
    | running => exact fun _ => rfl
    | stopped => exact fun hs => absurd (hs.symm.trans hunlatched) (by decide)
    | cleared => exact fun hs => absurd (hs.2.1.symm.trans hexposed) (by decide)
    | armed => exact fun hs => absurd (hs.2.1.symm.trans hexposed) (by decide)
    | enabled => exact fun hs => absurd (hs.2.1.symm.trans hexposed) (by decide)
    | opened => exact fun hs => absurd ((hs.2 hexposed).symm.trans hpending) (by decide)

theorem unprimed_step (executor : StreamExecutor) (tickMs : Tick) :
    Unprimed executor (streamExecutorStep executor tickMs).1 := by
  have h := streamExecutorStep_outcome executor tickMs
  generalize streamExecutorStep executor tickMs = out at h
  cases h <;> first | exact id | exact nofun

theorem calm_checkOutput (build : Build) (replies : ExecutorReplies) (host : HostControl) :
    Calm host (checkOutput build replies host).1 := by
  unfold checkOutput
  split_ifs
  · exact .refl host
  · split
    · exact calm_executor host id
    · exact calm_executor host id
    · exact .refl host
  · split
    · exact calm_executor host id
    · exact calm_executor host id
    · exact .refl host

theorem Calmed.launchOutput (h : Calmed host) (build : Build) (result : ExecutorResult)
    (replies : ExecutorReplies) (hrecovered : recovery host = .running) :
    Calmed (launchOutput build result replies host) := by
  have hunlatched : host.stopLatched = false := by
    have hshows := h.watched.shows_
    rw [hrecovered] at hshows
    exact hshows
  have hnoted : Calmed
      ({ host with
          dispatch := (dispatchLaunch build.leftOnly host.dispatch replies.launch).1 }.note
        .goalLaunched) := by
    refine ⟨h.watched.note .goalLaunched rfl (fun _ => hrecovered) ?_, ?_⟩
    · rw [hrecovered]
      exact hunlatched
    · intro hl
      exact absurd (hl.symm.trans hunlatched) (by decide)
  have hended : ∀ host : HostControl, Calmed host → Calmed (endStreamClock build replies host) := by
    intro host hc
    refine hc.calm ?_
    simp only [endStreamClock]
    split_ifs
    · exact .of_fields rfl rfl nofun id (Or.inl rfl) id nofun
    · exact .of_fields rfl rfl nofun id (Or.inl rfl) id nofun
  simp only [Firmware.launchOutput]
  split_ifs
  · exact hnoted.request build
  · exact hended _ hnoted
  · exact hnoted

theorem Calmed.stepAndLaunch (h : Calmed host) (build : Build) (tickMs : Tick)
    (replies : ExecutorReplies) (hrecovered : recovery host = .running) :
    Calmed (stepAndLaunch build tickMs replies host) := by
  have hunprimed := unprimed_step host.streamExecutor tickMs
  unfold Firmware.stepAndLaunch
  generalize streamExecutorStep host.streamExecutor tickMs = out at hunprimed
  obtain ⟨executor, result, output⟩ := out
  have hcalm : Calm host
      { host with streamExecutor := executor, outputUrad := output.getD host.outputUrad } :=
    .of_fields rfl rfl id id (Or.inl rfl) hunprimed fun _ hp => hp
  have hstepped := h.calm hcalm
  dsimp only
  split_ifs
  · exact hstepped.request build
  · have hchecked := calm_checkOutput build replies
      { host with streamExecutor := executor, outputUrad := output.getD host.outputUrad }
    generalize checkOutput build replies _ = out at hchecked
    obtain ⟨checked, ok⟩ := out
    have hrecovery : recovery checked = .running := by
      obtain ⟨writes, hactions⟩ := hchecked.actions
      rw [recovery, hactions, Monitor.state_append, (torque_ignored writes).state_eq]
      exact hrecovered
    cases ok with
    | false => exact (hstepped.calm hchecked).request build
    | true => exact (hstepped.calm hchecked).launchOutput build result replies hrecovery

/-- **A pass of the executor service never launches into a stop.** -/
theorem Calmed.executor (h : Calmed host) (hdma : build.dmaDispatch = true)
    (replies : ExecutorReplies) : Calmed (serviceV2Executor build replies host) := by
  have hcleared : Calm host { host with controlTick := controlTickCleared } :=
    .of_others rfl rfl rfl rfl rfl rfl rfl
  unfold serviceV2Executor
  by_cases hclock : host.executorClockActive = true
  · rw [if_neg (by simp [hclock]), if_pos hdma]
    cases host.controlTick.pendingMs with
    | none => exact h
    | some tickMs =>
      dsimp only
      split_ifs
      · exact (h.calm hcleared).request build
      · unfold serviceControlTick
        have hpolled := (h.calm hcleared).calm (calm_poll build.leftOnly _ replies.busEvents)
        dsimp only at hpolled ⊢
        split_ifs with hblocked
        · exact hpolled.request build
        · have hexposed : exposed
              { host with
                controlTick := controlTickCleared
                dispatch := dispatchPoll build.leftOnly host.dispatch replies.busEvents } =
              true := by
            simp only [Bool.or_eq_true, Bool.not_eq_true', not_or, Bool.not_eq_false,
              dispatchCanLaunch, Bool.and_eq_true] at hblocked
            rw [exposed_iff]
            exact ⟨hclock, hblocked.1.1.2⟩
          have hcases := hpolled.startOnTick tickMs hexposed
          generalize Firmware.startOnTick tickMs _ = out at hcases
          obtain ⟨begun, ok⟩ := out
          rcases hcases with ⟨hfails, hbegun⟩ | ⟨hok, hbegun, hrecovered⟩
          · cases hfails
            exact hbegun.request build
          · cases hok
            exact hbegun.stepAndLaunch build tickMs replies hrecovered
  · rw [if_pos (by simp [hclock])]
    exact h

/-- **A pass of the service loop keeps both invariants.** -/
theorem binaryControlService_guarded (hdma : build.dmaDispatch = true) (h : Guarded build host)
    (replies : ServiceReplies) (clean : StopsCleanly build host (.service replies)) :
    Guarded build (binaryControlService build replies host) := by
  have hstops : Calmed (serviceStops build replies host) :=
    ⟨h.watched.effect (effect_serviceStops build replies host),
      serviceStops_quiet hdma h.contained replies clean⟩
  have hend : ∀ {host : HostControl}, Calmed host → Guarded build host :=
    fun hc => ⟨hc.watched, hc.quiet.contained⟩
  simp only [binaryControlService]
  split_ifs
  · exact hend hstops
  · exact hend ((hstops.tracking build replies.tracking).executor hdma replies.executor)
  · exact hend (hstops.executor hdma replies.executor)

/-! ## 5. Runs -/

/-- **One event**: what stops cleanly keeps both invariants. -/
theorem hostStep_guarded (hdma : build.dmaDispatch = true) (h : Guarded build host)
    (event : HostEvent) (clean : StopsCleanly build host event) :
    Guarded build (hostStep build host event) := by
  cases event with
  | frame message payload replies =>
    exact handleBinaryFrame_guarded hdma h message payload replies clean
  | service replies => exact binaryControlService_guarded hdma h replies clean
  | controlTick nowMs =>
    exact ⟨h.watched.calm (.of_others rfl rfl rfl rfl rfl rfl rfl), h.contained⟩
  | hostUartError =>
    have heffect : Effect host (handleHostUartError host) :=
      ((calm_countRejected host).trans (calm_holdIfAccepting _)).effect.trans
        (effect_latchStop _)
    refine ⟨h.watched.effect heffect, Contained.of_powered heffect.exposure ?_⟩
    intro he
    have hpowered := clean he
    simp only [hostStep, handleHostUartError, latchStop, holdIfAccepting, HostControl.note]
    split_ifs <;> exact hpowered
  | mobileStop =>
    exact ⟨h.watched.effect (effect_latchStop host),
      Contained.of_powered (effect_latchStop host).exposure clean⟩

theorem binaryControlInit_guarded (build : Build) : Guarded build (binaryControlInit build) :=
  ⟨⟨trivial, rfl⟩, Contained.of_unlatched rfl⟩

/-- **No goal after a stop**: in the DMA image, along every run whose events all stop cleanly,
every goal packet goes out in a host that has recovered from its last stop. -/
theorem no_goal_after_stop (build : Build) (hdma : build.dmaDispatch = true)
    (events : List HostEvent)
    (clean : Along (hostStep build) (StopsCleanly build) (binaryControlInit build) events) :
    NoGoalAfterStop (run (hostStep build) (binaryControlInit build) events) := by
  have hstep : ∀ host event, Guarded build host → StopsCleanly build host event →
      Guarded build (hostStep build host event) :=
    fun _ event h hclean => hostStep_guarded hdma h event hclean
  have hguarded := run_invariant hstep events (binaryControlInit_guarded build) clean
  exact hguarded.watched.promise

namespace Bench

/-- A stream that is running, with its first goal packet under way. -/
def launching : List HostEvent :=
  [frame .heartbeat [], frame .prepareShadow [], frame .armRequest [0, 0, 0, 0],
    frame .enable [],
    .frame .streamOpen (Stream.Bench.openPayload 1 0 100) { now := 100 },
    .frame .setpointBatch (Stream.Bench.batchPayload 0 0 [(120, 0), (140, 0)])
      { batch := { now := 100 } },
    .controlTick 105, .service { now := 105 }]

/-- The packet has left both buses. -/
def delivered : HostEvent :=
  .service { now := 107, busEvents := { leftDone := true, rightDone := true } }

/-- The next control tick, and the pass of the service loop that takes it. -/
def nextTick : List HostEvent := [.controlTick 110, .service { now := 110 }]

/-- A SAFE_STOP while the packet is under way. -/
def stoppedInFlight : List HostEvent := launching ++ frame .safeStop [] :: nextTick

end Bench

-- The log of a concrete run is for the kernel to evaluate, not for the elaborator.
attribute [local irreducible] NoGoalAfterStop in
/-- A SAFE_STOP that meets the packet under way faults the dispatcher, and the stop holds. -/
theorem no_goal_after_stop_bench :
    NoGoalAfterStop (run (hostStep Bench.build) (binaryControlInit Bench.build)
      Bench.stoppedInFlight) :=
  no_goal_after_stop Bench.build rfl Bench.stoppedInFlight (by decide +kernel)

/-- A SAFE_STOP that meets an idle dispatcher takes the power off and leaves the stream clock
running: one more goal packet goes out on the next control tick. -/
theorem goal_after_safe_stop :
    ¬ NoGoalAfterStop (Bench.after
      (Bench.launching ++ Bench.delivered :: Bench.frame .safeStop [] :: Bench.nextTick)) := by
  decide +kernel

end MobileBimanual.Firmware
