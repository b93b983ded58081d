/-
# What each part of the firmware does to a stop

Every function of the host control that is no step of the recovery has an `Effect`: it leaves
what a stop depends on as it was, or better, or it latches the stop.  The lemmas follow the
functions of the source in their order; a function that calls others composes their effects.
-/
import MobileBimanual.Firmware.StopLatch
import MobileBimanual.Stream.Outcomes

namespace MobileBimanual.Firmware

open MobileBimanual.Stream

/-! ## 1. Two ways to have an effect -/

/-- A change of other fields, or of these for the better. -/
theorem Calm.of_fields {host host' : HostControl} (actions : host'.actions = host.actions)
    (latch : host'.stopLatched = host.stopLatched)
    (clock : host'.executorClockActive = true → host.executorClockActive = true)
    (hardened : Hardened host.dispatch host'.dispatch)
    (safety : host'.safety.state = host.safety.state ∨
      host'.safety.state ≠ .armed ∧ host'.safety.state ≠ .active)
    (priming : host'.streamExecutor.diagnostics.state = .priming →
      host.streamExecutor.diagnostics.state = .priming)
    (pending : host'.executorClockActive = true → host.executorStartPending = true →
      host'.executorStartPending = true) : Calm host host' where
  actions := ⟨[], by simpa using actions⟩
  latch := latch
  exposure := by
    simp only [exposed_iff]
    rintro ⟨hclock, hfault⟩
    refine ⟨clock hclock, ?_⟩
    by_contra hne
    rw [hardened (by simpa using hne)] at hfault
    cases hfault
  arming := by
    intro h
    rcases safety with hsame | ⟨hne, -⟩
    · exact hsame ▸ h
    · exact absurd h hne
  activity := by
    intro h
    rcases safety with hsame | ⟨-, hne⟩
    · exact hsame ▸ h
    · exact absurd h hne
  priming := priming
  pending := fun h => pending ((exposed_iff _).1 h).1

variable {host' : HostControl}

/-- A change of fields nothing here looks at. -/
theorem Calm.of_others {host : HostControl} (actions : host'.actions = host.actions)
    (latch : host'.stopLatched = host.stopLatched)
    (clock : host'.executorClockActive = host.executorClockActive)
    (dispatch : host'.dispatch = host.dispatch) (safety : host'.safety = host.safety)
    (executor : host'.streamExecutor = host.streamExecutor)
    (pending : host'.executorStartPending = host.executorStartPending) : Calm host host' :=
  .of_fields actions latch (fun h => clock ▸ h) (fun h => dispatch ▸ h)
    (Or.inl (congrArg ActuatorSafety.state safety)) (fun h => executor ▸ h)
    (fun _ h => pending ▸ h)

theorem Effect.of_latch {host : HostControl} (writes : List TorqueWrite)
    (actions : host'.actions = host.actions ++ writes.map .torque ++ [.stopLatched])
    (latch : host'.stopLatched = true) (exposure : exposed host' = true → exposed host = true) :
    Effect host host' := by
  refine .latched (writes.map .torque) [] (by simpa using actions) ?_ latch exposure
  intro action h
  rw [List.mem_append, List.mem_singleton] at h
  rcases h with h | rfl
  · exact stopAction_torque h
  · exact Or.inl rfl

theorem Calm.effect {host : HostControl} (h : Calm host host') : Effect host host' := .calm h

/-! ## 2. Stopping -/

variable (host : HostControl)

theorem effect_latchStop : Effect host (latchStop host) :=
  .of_latch [] (by simp [latchStop, HostControl.note]) rfl id

theorem calm_noteTorque (writes : List TorqueWrite) : Calm host (host.noteTorque writes) :=
  ⟨⟨writes, rfl⟩, rfl, id, id, id, id, fun _ h => h⟩

theorem calm_safety {safety : ActuatorSafety}
    (h : safety.state = host.safety.state ∨ safety.state ≠ .armed ∧ safety.state ≠ .active) :
    Calm host { host with safety := safety } :=
  .of_fields rfl rfl id id h id fun _ h => h

theorem calm_reportFault (faultCode : BitVec 16) :
    Calm host { host with safety := safetyReportFault host.safety faultCode } := by
  apply calm_safety
  rcases safetyReportFault_state host.safety faultCode with h | h
  · exact Or.inl h
  · exact Or.inr (by simp [h])

theorem calm_poll (leftOnly : Bool) (host : HostControl) (events : BusEvents) :
    Calm host { host with dispatch := dispatchPoll leftOnly host.dispatch events } :=
  .of_fields rfl rfl id (dispatchPoll_hardened leftOnly host.dispatch events) (Or.inl rfl) id
    fun _ h => h

theorem calm_holdIfAccepting : Calm host (holdIfAccepting host) := by
  unfold holdIfAccepting
  split_ifs
  · apply calm_safety
    rcases safetyRequestHold_state host.safety with h | h
    · exact Or.inl (congrArg ActuatorSafety.state h)
    · exact Or.inr (by simp [h])
  · exact .refl host

theorem effect_latchFault (faultCode : BitVec 16) :
    Effect host
      { latchStop host with safety := safetyReportFault (latchStop host).safety faultCode } :=
  (effect_latchStop host).trans (calm_reportFault _ faultCode).effect

variable (build : Build)

theorem requestV2CoordinatedStop_unexposed (host : HostControl) :
    exposed (requestV2CoordinatedStop build host) = false := rfl

theorem effect_requestV2CoordinatedStop (host : HostControl) :
    Effect host (requestV2CoordinatedStop build host) := by
  refine .of_latch [] ?_ rfl ?_
  · simp only [requestV2CoordinatedStop, latchStop, HostControl.note]
    split_ifs <;> simp
  · rw [requestV2CoordinatedStop_unexposed]
    exact nofun

theorem stopDispatch_actions (dispatchFault : Bool) (replies : StopReplies) (host : HostControl) :
    (stopDispatch build dispatchFault replies host).actions = host.actions := by
  simp only [stopDispatch]
  split_ifs <;> rfl

theorem stopTorque_actions (replies : StopReplies) (host : HostControl) :
    ∃ writes : List TorqueWrite,
      (stopTorque build replies host).1.actions = host.actions ++ writes.map .torque := by
  unfold stopTorque
  split_ifs
  · exact ⟨[], by simp⟩
  · exact ⟨(disableTorqueBothArms build replies).1, rfl⟩

theorem performV2CoordinatedStop_dispatch (dispatchFault : Bool) (replies : StopReplies)
    (host : HostControl) :
    (performV2CoordinatedStop build dispatchFault replies host).1.dispatch =
      if dispatchFault then dispatchFail host.dispatch
      else dispatchStop build.leftOnly host.dispatch replies.busEvents replies.busHeld := by
  simp only [performV2CoordinatedStop, stopTorque, stopDispatch]
  split_ifs <;> rfl

theorem performV2CoordinatedStop_clock (dispatchFault : Bool) (replies : StopReplies)
    (host : HostControl) :
    (performV2CoordinatedStop build dispatchFault replies host).1.executorClockActive =
      host.executorClockActive := by
  simp only [performV2CoordinatedStop, stopTorque, stopDispatch]
  split_ifs <;> rfl

theorem performV2CoordinatedStop_exposure (dispatchFault : Bool) (replies : StopReplies)
    (host : HostControl) :
    exposed (performV2CoordinatedStop build dispatchFault replies host).1 = true →
      exposed host = true := by
  rw [exposed_iff, exposed_iff, performV2CoordinatedStop_clock,
    performV2CoordinatedStop_dispatch]
  rintro ⟨hclock, hfault⟩
  refine ⟨hclock, ?_⟩
  by_contra hne
  rw [Bool.not_eq_false] at hne
  split_ifs at hfault
  · cases hfault
  · rw [dispatchStop_hardened _ _ _ _ hne] at hfault
    cases hfault

theorem effect_performV2CoordinatedStop (dispatchFault : Bool) (replies : StopReplies)
    (host : HostControl) :
    Effect host (performV2CoordinatedStop build dispatchFault replies host).1 := by
  obtain ⟨writes, hwrites⟩ :=
    stopTorque_actions build replies (stopDispatch build dispatchFault replies host)
  rw [stopDispatch_actions] at hwrites
  refine .of_latch writes ?_ ?_ (performV2CoordinatedStop_exposure _ _ _ _)
  · simp only [performV2CoordinatedStop]
    split_ifs <;> simp [latchStop, HostControl.note, hwrites]
  · simp only [performV2CoordinatedStop]
    split_ifs <;> rfl

/-! ## 3. The executor -/

/-- The executor's state is PRIMING only if it was. -/
def Unprimed (executor executor' : StreamExecutor) : Prop :=
  executor'.diagnostics.state = .priming → executor.diagnostics.state = .priming

variable {executor : StreamExecutor}

theorem calm_executor (h : Unprimed host.streamExecutor executor) :
    Calm host { host with streamExecutor := executor } :=
  .of_fields rfl rfl id id (Or.inl rfl) h fun _ h => h

theorem unprimed_of_forgetStatus {executor' : StreamExecutor}
    (h : forgetStatus executor' = forgetStatus executor) : Unprimed executor executor' := by
  have hstate : executor'.diagnostics.state = executor.diagnostics.state :=
    congrArg (fun e => e.diagnostics.state) h
  exact fun hp => hstate ▸ hp

theorem unprimed_admitBatch (executor : StreamExecutor) (payload : List Byte) (kind : BatchKind)
    (now : Tick) : Unprimed executor (streamExecutorAdmit executor payload kind now).1 := by
  rcases streamExecutorAdmit_cases executor payload kind now with ⟨-, h⟩ | ⟨batch, hadmits, heq⟩
  · exact unprimed_of_forgetStatus h
  · rw [heq]
    exact id

theorem unprimed_checkJointFeedback (executor : StreamExecutor) (now : Tick) (joint : Byte)
    (commandedUrad measuredUrad : Urad) :
    Unprimed executor
      (streamExecutorCheckJointFeedback executor now joint commandedUrad measuredUrad).1 := by
  have h := streamExecutorCheckJointFeedback_outcome executor now joint commandedUrad measuredUrad
  generalize streamExecutorCheckJointFeedback executor now joint commandedUrad measuredUrad = out
    at h
  cases h with
  | idle => exact id
  | tracked errors => exact id
  | aborted errors joint live => exact fun h => nomatch h

/-! ## 4. Frames -/

theorem calm_countRejected : Calm host (countRejected host) :=
  .of_others rfl rfl rfl rfl rfl rfl rfl

theorem calm_answerBatch (result : ExecutorResult) : Calm host (answerBatch host result).1 := by
  unfold answerBatch
  split_ifs
  · exact .refl host
  · exact calm_countRejected host

theorem calm_resetStreamClock (host : HostControl) : Calm host (resetStreamClock build host) := by
  refine .of_fields ?_ ?_ ?_ ?_ ?_ ?_ ?_
  all_goals
    simp only [resetStreamClock]
    split_ifs
  all_goals first | rfl | exact id | exact Or.inl rfl | exact fun h => nomatch h

theorem calm_beginTracking (replies : BatchReplies) (host : HostControl) :
    Calm host (beginTracking build replies host) := by
  have hpoll := dispatchPoll_hardened build.leftOnly host.dispatch replies.busEvents
  simp only [beginTracking]
  split_ifs
  · exact .of_fields rfl rfl id hpoll (Or.inl rfl) id fun _ h => h
  · exact .of_fields rfl rfl id hpoll (Or.inl rfl) id fun _ h => h

theorem calm_heartbeat (receivedAtMs : Tick) (host : HostControl) :
    Calm host (heartbeat receivedAtMs host) :=
  .of_fields rfl rfl id id (Or.inl rfl) id fun _ h => h

theorem calm_rightArmOutput (active : Bool) :
    Calm host { host with rightArmOutputActive := active } :=
  .of_others rfl rfl rfl rfl rfl rfl rfl

theorem effect_safeStop (replies : StopReplies) (host : HostControl) :
    Effect host (safeStop build replies host) := by
  have hlatch := (calm_holdIfAccepting host).effect.trans (effect_latchStop _)
  refine hlatch.trans ?_
  simp only [safeStop]
  split_ifs
  · exact effect_performV2CoordinatedStop ..
  · exact (calm_rightArmOutput _ false).effect
  · exact ((calm_noteTorque ..).trans (calm_rightArmOutput _ false)).effect
  · exact ((calm_noteTorque ..).trans (calm_reportFault ..)).effect

theorem effect_holdRequest : Effect host (holdRequest host) := by
  unfold holdRequest
  split_ifs
  · exact (calm_holdIfAccepting host).effect.trans (effect_latchStop _)
  · exact .refl host

theorem effect_disableLeft (replies : StopReplies) (host : HostControl) :
    Effect host (disableLeft build replies host) := by
  have hoff : Calm host { host with servosConfigured := false } :=
    .of_others rfl rfl rfl rfl rfl rfl rfl
  simp only [disableLeft]
  split_ifs
  · exact (hoff.trans (calm_noteTorque ..)).effect
  · exact (hoff.trans (calm_noteTorque ..)).effect.trans (effect_latchFault ..)

theorem effect_disableRight (replies : StopReplies) (host : HostControl) :
    Effect host (disableRight replies host) := by
  simp only [disableRight]
  split_ifs
  · exact (calm_rightArmOutput host false).effect
  · exact ((calm_noteTorque ..).trans (calm_rightArmOutput _ false)).effect
  · exact (calm_noteTorque ..).effect.trans (effect_latchFault ..)

theorem disableSafety_state (safety : ActuatorSafety) :
    (disableSafety safety).state = safety.state ∨
      (disableSafety safety).state ≠ .armed ∧ (disableSafety safety).state ≠ .active := by
  unfold disableSafety
  split_ifs
  · rcases safetyRequestDisable_state safety with ⟨h, -⟩ | ⟨h, -⟩
    · exact Or.inl (congrArg ActuatorSafety.state h)
    · exact Or.inr (by simp [h])
  · exact Or.inl rfl

theorem effect_disableRequest (replies : StopReplies) (host : HostControl) :
    Effect host (disableRequest build replies host) := by
  unfold disableRequest
  split_ifs
  · exact effect_latchStop host
  · exact ((calm_safety host (disableSafety_state host.safety)).effect.trans
      (effect_disableLeft ..)).trans (effect_disableRight ..)

theorem calm_clearAnchor (payload : List Byte) (host : HostControl) :
    Calm host (clearAnchor build payload host) := by
  unfold clearAnchor
  split_ifs
  · exact .of_others rfl rfl rfl rfl rfl rfl rfl
  · exact .refl host

theorem effect_sendV2ShadowSnapshot (payload : List Byte) (replies : ShadowReplies)
    (host : HostControl) : Effect host (sendV2ShadowSnapshot build payload replies host).1 := by
  have hoff : ∀ h : HostControl,
      Calm h { h with servosConfigured := false, rightArmOutputActive := false } :=
    fun h => .of_others rfl rfl rfl rfl rfl rfl rfl
  have hanchor : ∀ (h : HostControl) (ready : Bool), Calm h
      { h with shadowExecutorAnchorUrad := replies.anchorUrad, shadowAnchorReady := ready } :=
    fun h _ => .of_others rfl rfl rfl rfl rfl rfl rfl
  simp only [sendV2ShadowSnapshot]
  generalize (if shadowRequestInvalid build payload (clearAnchor build payload host) || _ then _
    else _) = left
  generalize (if build.leftOnly then _ else _) = right
  generalize shadowStatus build _ _ left.2 right.2 replies = status
  have hswept := (calm_clearAnchor build payload host).trans
    ((hoff _).trans (calm_noteTorque _ (left.1 ++ right.1)))
  split_ifs
  · exact hswept.effect.trans (effect_latchFault ..)
  · exact (hswept.trans (hanchor _ true)).effect
  · exact (hswept.trans (hanchor _ _)).effect.trans (effect_latchFault ..)
  · exact (hswept.trans (hanchor _ _)).effect.trans (effect_latchFault ..)

variable (replies : RightArmReplies)

theorem calm_rightArmJogOnce (host : HostControl) : Calm host (rightArmJogOnce replies host) := by
  unfold rightArmJogOnce
  split_ifs
  · exact calm_rightArmOutput host true
  · exact .refl host

theorem calm_rightArmTorqueEnableOnce (servoId : Byte) (replies : RightArmReplies)
    (host : HostControl) : Calm host (rightArmTorqueEnableOnce servoId replies host) := by
  simp only [rightArmTorqueEnableOnce]
  split
  · split_ifs
    · exact (calm_noteTorque ..).trans (calm_rightArmOutput _ true)
    · exact calm_noteTorque ..
  · exact .refl host

theorem calm_rightArmConfigureOnce (servoId : Byte) (replies : RightArmReplies)
    (host : HostControl) : Calm host (rightArmConfigureOnce servoId replies host) := by
  unfold rightArmConfigureOnce
  split
  · exact (calm_rightArmOutput host true).trans (calm_noteTorque ..)
  · exact .refl host

theorem effect_rightArmDisableVerified (host : HostControl) :
    Effect host (rightArmDisableVerified replies host) := by
  simp only [rightArmDisableVerified]
  split_ifs
  · exact ((calm_noteTorque ..).trans (calm_rightArmOutput _ false)).effect
  · exact (calm_rightArmOutput _ false).effect
  · exact (calm_noteTorque ..).effect.trans (effect_latchFault ..)
  · exact effect_latchFault ..

/-- The configuration of an ARM powers servos; it is no stop and no recovery. -/
theorem calm_configureForArm (replies : ArmReplies) (host : HostControl) :
    Calm host (configureForArm build replies host).1 := by
  have hconfigured : ∀ h : HostControl, Calm h { h with servosConfigured := true } :=
    fun h => .of_others rfl rfl rfl rfl rfl rfl rfl
  have hbimanual : Calm host (configureBimanualForTrajectory build replies host).1 := by
    simp only [configureBimanualForTrajectory]
    split_ifs
    · exact .refl host
    · exact calm_noteTorque ..
    · exact (calm_noteTorque ..).trans (.of_others rfl rfl rfl rfl rfl rfl rfl)
  simp only [configureForArm]
  split_ifs
  · exact hbimanual.trans (hconfigured _)
  · exact hbimanual
  · exact (calm_noteTorque ..).trans (hconfigured _)
  · exact calm_noteTorque ..

/-! ## 5. The service loop -/

variable (now : Tick)

theorem calm_checkTrackedJoint (joint : Byte) (commandedUrad : Urad) (measuredUrad : Option Urad)
    (host : HostControl) :
    Calm host (checkTrackedJoint now joint commandedUrad measuredUrad host).1 := by
  cases measuredUrad with
  | none => exact .refl host
  | some measuredUrad => exact calm_executor host (unprimed_checkJointFeedback _ _ _ _ _)

theorem calm_settleSample (build : Build) (replies : TrackingReplies) (sample : TrackingSample)
    (host : HostControl) : Calm host (settleSample build replies sample host) := by
  simp only [settleSample]
  split_ifs
  all_goals first | exact .refl host | exact .of_others rfl rfl rfl rfl rfl rfl rfl

theorem calm_trackSample (build : Build) (replies : TrackingReplies) (sample : TrackingSample)
    (host : HostControl) : Calm host (trackSample build replies sample host).1 := by
  unfold trackSample
  split_ifs with hconverted honly
  · exact .refl host
  · have hleft := calm_checkTrackedJoint replies.now sample.jointIndex sample.leftCommandedUrad
      sample.leftMeasuredUrad host
    generalize checkTrackedJoint replies.now sample.jointIndex _ _ host = out at hleft
    obtain ⟨left, ok⟩ := out
    cases ok with
    | false => exact hleft
    | true => exact hleft.trans (calm_settleSample ..)
  · have hleft := calm_checkTrackedJoint replies.now sample.jointIndex sample.leftCommandedUrad
      sample.leftMeasuredUrad host
    generalize checkTrackedJoint replies.now sample.jointIndex _ _ host = out at hleft
    obtain ⟨left, ok⟩ := out
    cases ok with
    | false => exact hleft
    | true =>
      have hright := calm_checkTrackedJoint replies.now (sample.jointIndex + singleArmJointCount)
        sample.rightCommandedUrad sample.rightMeasuredUrad left
      simp only
      generalize checkTrackedJoint replies.now _ _ _ left = out at hright
      obtain ⟨right, ok⟩ := out
      cases ok with
      | false => exact hleft.trans hright
      | true => exact (hleft.trans hright).trans (calm_settleSample ..)

theorem calm_finishSettle (replies : TrackingReplies) (host : HostControl) :
    Calm host (finishSettle build replies host).1 := by
  unfold finishSettle
  split_ifs
  all_goals first | exact .refl host | exact .of_others rfl rfl rfl rfl rfl rfl rfl

theorem calm_finishResident (replies : TrackingReplies) (host : HostControl) :
    Calm host (finishResident replies host) := by
  unfold finishResident
  split_ifs
  · exact .of_others rfl rfl rfl rfl rfl rfl rfl
  · exact .refl host

theorem calm_startTrackingRead (replies : TrackingReplies) (host : HostControl) :
    Calm host (startTrackingRead build replies host).1 := by
  unfold startTrackingRead
  split_ifs
  · exact .refl host
  · exact .refl host
  · exact .of_others rfl rfl rfl rfl rfl rfl rfl

theorem calm_finishStream (replies : TrackingReplies) (host : HostControl) :
    Calm host (finishStream build replies host).1 := by
  unfold finishStream
  split_ifs
  · exact .refl host
  · exact calm_finishSettle ..
  · exact calm_finishResident ..

theorem calm_continueTracking (replies : TrackingReplies) (host : HostControl) :
    Calm host (continueTracking build replies host).1 := by
  have hpoll := calm_poll build.leftOnly host replies.busEvents
  unfold continueTracking
  have hread := hpoll.trans (calm_startTrackingRead build replies _)
  dsimp only
  generalize startTrackingRead build replies _ = out at hread
  obtain ⟨read, ok⟩ := out
  cases ok with
  | false => exact hread
  | true => exact hread.trans (calm_finishStream ..)

theorem calm_pollTracking (replies : TrackingReplies) (host : HostControl) :
    Calm host (pollTracking build replies host).1 := by
  unfold pollTracking
  cases replies.poll with
  | fault => exact .refl host
  | none => exact calm_continueTracking ..
  | sample sample =>
    have hsample := calm_trackSample build replies sample host
    simp only
    generalize trackSample build replies sample host = out at hsample
    obtain ⟨tracked, ok⟩ := out
    cases ok with
    | false => exact hsample
    | true => exact hsample.trans (calm_continueTracking ..)

theorem serviceV2TrackingFeedback_cases (replies : TrackingReplies) (host : HostControl) :
    Calm host (serviceV2TrackingFeedback build replies host) ∨
      ∃ host', Calm host host' ∧
        serviceV2TrackingFeedback build replies host = requestV2CoordinatedStop build host' := by
  unfold serviceV2TrackingFeedback
  split_ifs
  · exact Or.inl (.refl host)
  · have hpoll := calm_pollTracking build replies host
    generalize pollTracking build replies host = out at hpoll
    obtain ⟨tracked, ok⟩ := out
    cases ok with
    | false => exact Or.inr ⟨tracked, hpoll, rfl⟩
    | true => exact Or.inl hpoll

theorem effect_serviceDispatchFault (replies : ServiceReplies) (host : HostControl) :
    Effect host (serviceDispatchFault build replies host) := by
  have hpoll := calm_poll build.leftOnly host replies.busEvents
  simp only [serviceDispatchFault]
  split_ifs
  · exact .refl host
  · exact effect_performV2CoordinatedStop ..
  · exact hpoll.effect.trans (effect_performV2CoordinatedStop ..)
  · exact hpoll.effect

theorem effect_serviceUartFault (replies : ServiceReplies) (host : HostControl) :
    Effect host (serviceUartFault replies host) := by
  unfold serviceUartFault
  split_ifs
  · exact (effect_latchStop host).trans (calm_holdIfAccepting _).effect
  · exact .refl host

theorem effect_serviceHeartbeatLoss (host : HostControl) :
    Effect host (serviceHeartbeatLoss now host) := by
  unfold serviceHeartbeatLoss
  split_ifs
  · exact effect_latchStop host
  · exact .refl host

theorem effect_serviceWatchdog (replies : ServiceReplies) (host : HostControl) :
    Effect host (serviceWatchdog build replies host) := by
  simp only [serviceWatchdog]
  split_ifs
  · exact .refl host
  · exact (effect_latchStop host).trans (effect_performV2CoordinatedStop ..)
  · exact (effect_latchStop host).trans
      ((calm_noteTorque ..).trans (calm_rightArmOutput _ false)).effect
  · exact (effect_latchStop host).trans
      ((calm_noteTorque ..).trans ((calm_reportFault ..).trans (calm_rightArmOutput _ false))).effect

theorem effect_serviceSafety (host : HostControl) : Effect host (serviceSafety now host) := by
  have htick : Calm host { host with safety := safetyTick host.safety now } := by
    apply calm_safety
    rcases safetyTick_state host.safety now with h | ⟨-, h⟩
    · exact Or.inl (congrArg ActuatorSafety.state h)
    · exact Or.inr (by simp [h])
  simp only [serviceSafety]
  split_ifs
  · exact htick.effect.trans (effect_latchStop _)
  · exact htick.effect

theorem effect_serviceLatchedOutputs (replies : ServiceReplies) (host : HostControl) :
    Effect host (serviceLatchedOutputs build replies host) := by
  unfold serviceLatchedOutputs
  split_ifs
  · exact effect_performV2CoordinatedStop ..
  · exact .refl host

theorem effect_serviceStops (replies : ServiceReplies) (host : HostControl) :
    Effect host (serviceStops build replies host) :=
  (effect_serviceDispatchFault build replies host).trans
    ((effect_serviceUartFault replies _).trans
      ((effect_serviceHeartbeatLoss replies.now _).trans
        ((effect_serviceWatchdog build replies _).trans
          ((effect_serviceSafety replies.now _).trans
            (effect_serviceLatchedOutputs build replies _)))))

end MobileBimanual.Firmware
