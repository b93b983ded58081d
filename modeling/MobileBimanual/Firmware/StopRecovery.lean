/-
# The steps of the recovery

The functions that do more than have an `Effect`: clearing the latch, ARM, ENABLE, STREAM_OPEN,
the batch that fills the queue, and the control tick that starts a stream and launches its goals.
Each keeps the first invariant of a stop (`Watched`), two of them under a condition: an ENABLE
must find no stream PRIMING that was opened before it, and a CLEAR_FAULT no stream that still
runs.
-/
import MobileBimanual.Firmware.StopEffects

namespace MobileBimanual.Firmware

open MobileBimanual.Stream

variable {host : HostControl}

/-- An entry of the log that is a step of the recovery, or a goal packet of a recovered host. -/
theorem Watched.note {host' : HostControl} (h : Watched host) (action : HostAction)
    (actions : host'.actions = host.actions ++ [action])
    (admitted : recoveryMonitor.admits (recovery host) action)
    (shows_ : StageShows host' (recoveryMonitor.next (recovery host) action)) : Watched host' := by
  have hrecovery : recovery host' = recoveryMonitor.next (recovery host) action := by
    rw [recovery, actions, Monitor.state_append]
    rfl
  constructor
  · rw [NoGoalAfterStop, actions, Monitor.accepts_append]
    exact ⟨h.promise, admitted, trivial⟩
  · rw [hrecovery]
    exact shows_

/-! ## 1. CLEAR_FAULT, ARM and ENABLE -/

theorem clearSafety_cases (safety : ActuatorSafety) :
    (clearSafety safety).1 = safety ∧ (clearSafety safety).2 ≠ .ok ∨
      (clearSafety safety).1.state = .safeDisabled ∧ (clearSafety safety).2 = .ok := by
  unfold clearSafety
  split_ifs with hfault hdisabled
  · exact safetyClearLatchedStop_state safety true
  · exact safetyRequestDisable_state safety
  · exact Or.inr ⟨not_not.1 hdisabled, rfl⟩

theorem Watched.clearFault {host : HostControl} (h : Watched host) (stopIsSafe : Bool)
    (clean : host.stopLatched = true → stopIsSafe = true → (clearSafety host.safety).2 = .ok →
      exposed host = false) : Watched (clearFault stopIsSafe host) := by
  unfold Firmware.clearFault
  split_ifs with hrefused
  · exact h
  · simp only [Bool.or_eq_true, Bool.not_eq_true', not_or, Bool.not_eq_false] at hrefused
    obtain ⟨hlatched, hsafe⟩ := hrefused
    have hstopped := h.latched_iff.1 hlatched
    have hcases := clearSafety_cases host.safety
    have hclean := clean hlatched hsafe
    generalize clearSafety host.safety = out at hcases hclean
    obtain ⟨safety, result⟩ := out
    rcases hcases with ⟨hsame, hne⟩ | ⟨hstate, hok⟩
    · cases hsame
      cases result with
      | ok => exact absurd rfl hne
      | _ => exact h.calm (calm_safety host (Or.inl rfl))
    · cases hok
      change safety.state = .safeDisabled at hstate
      refine h.note .latchCleared rfl nofun ?_
      rw [hstopped]
      exact ⟨rfl, hclean rfl, by simp [HostControl.note, hstate],
        by simp [HostControl.note, hstate]⟩

theorem Watched.armRequest (h : Watched host) (build : Build) (payload : List Byte)
    (replies : ArmReplies) : Watched (armRequest build payload replies host).1 := by
  simp only [Firmware.armRequest]
  split_ifs with hlength hconfigure hok hok
  · exact h
  · have hready := h.calm (calm_configureForArm build replies host)
    exact granted hready hok
  · have hready := h.calm (calm_configureForArm build replies host)
    exact refused hready hok
  · exact granted h hok
  · exact refused h hok
where
  /-- A granted ARM takes a cleared host one step on. -/
  granted {host : HostControl} {healthOk hashMatches : Bool} (h : Watched host)
      (hok : (safetyRequestArm host.safety healthOk hashMatches).2 = .ok) :
      Watched (HostControl.note
        { host with safety := (safetyRequestArm host.safety healthOk hashMatches).1 } .armed) := by
    rcases safetyRequestArm_state host.safety healthOk hashMatches with ⟨hstate, -⟩ | ⟨-, hne⟩
    · refine h.note .armed rfl nofun ?_
      have hshows := h.shows_
      revert hshows
      cases recovery host with
      | running => exact id
      | stopped => exact id
      | cleared => exact fun hs => ⟨hs.1, hs.2.1, by simp [HostControl.note, hstate]⟩
      | armed => exact fun hs => ⟨hs.1, hs.2.1, by simp [HostControl.note, hstate]⟩
      | enabled => exact id
      | opened => exact id
    · exact absurd hok hne
  refused {host : HostControl} {healthOk hashMatches : Bool} (h : Watched host)
      (hne : (safetyRequestArm host.safety healthOk hashMatches).2 ≠ .ok) :
      Watched { host with safety := (safetyRequestArm host.safety healthOk hashMatches).1 } := by
    rcases safetyRequestArm_state host.safety healthOk hashMatches with ⟨-, hok⟩ | ⟨hsame, -⟩
    · exact absurd hok hne
    · exact h.calm (calm_safety host (Or.inl (congrArg ActuatorSafety.state hsame)))

theorem Watched.enableRequest {host : HostControl} (h : Watched host) (now : Tick)
    (clean : recovery host = .armed → (safetyRequestEnable host.safety now).2 = .ok →
      host.streamExecutor.diagnostics.state ≠ .priming) : Watched (enableRequest now host) := by
  simp only [Firmware.enableRequest]
  rcases safetyRequestEnable_state host.safety now with ⟨harmed, -, hok⟩ | ⟨hsame, hne⟩
  · rw [if_pos hok]
    refine h.note .enabled rfl nofun ?_
    have hshows := h.shows_
    revert hshows clean
    cases recovery host with
    | running => exact fun _ hs => hs
    | stopped => exact fun _ hs => hs
    | cleared => exact fun _ hs => absurd harmed hs.2.2.1
    | armed => exact fun hclean hs => ⟨hs.1, hs.2.1, hclean rfl hok⟩
    | enabled => exact fun _ hs => hs
    | opened => exact fun _ hs => hs
  · rw [if_neg hne]
    exact h.calm (calm_safety host (Or.inl (congrArg ActuatorSafety.state hsame)))

/-! ## 2. Streams -/

variable (build : Build)

theorem resetStreamClock_clock (host : HostControl) :
    (resetStreamClock build host).executorClockActive = false := by
  simp only [resetStreamClock]
  split_ifs <;> rfl

/-- A successful STREAM_OPEN takes an enabled host one step on: nothing is exposed under a clock
that was just stopped. -/
theorem Watched.opened (h : Watched host) (executor : StreamExecutor)
    (hclock : host.executorClockActive = false) :
    Watched ({ host with streamExecutor := executor }.note .streamOpened) := by
  have hunexposed : exposed ({ host with streamExecutor := executor }.note .streamOpened) = false := by
    simp [exposed, HostControl.note, hclock]
  refine h.note .streamOpened rfl (fun heq => by cases heq) ?_
  have hshows := h.shows_
  revert hshows
  cases recovery host with
  | running => exact id
  | stopped => exact id
  | cleared => exact fun hs => ⟨hs.1, hunexposed, hs.2.2⟩
  | armed => exact fun hs => ⟨hs.1, hunexposed, hs.2.2⟩
  | enabled => exact fun hs => ⟨hs.1, fun he => absurd he (by simp [hunexposed])⟩
  | opened => exact fun hs => ⟨hs.1, fun he => absurd he (by simp [hunexposed])⟩

/-- Noting the opening and stopping the clock are done in either order. -/
theorem resetStreamClock_note (host : HostControl) (executor : StreamExecutor) :
    resetStreamClock build ({ host with streamExecutor := executor }.note .streamOpened) =
      { resetStreamClock build host with streamExecutor := executor }.note .streamOpened := by
  simp only [resetStreamClock, HostControl.note]
  split_ifs <;> rfl

theorem Watched.validateV2StreamOpen (h : Watched host) (build : Build) (payload : List Byte)
    (now : Tick) : Watched (validateV2StreamOpen build payload now host).1 := by
  unfold Firmware.validateV2StreamOpen
  split_ifs
  · exact h.calm (calm_countRejected host)
  · exact h.calm (calm_countRejected host)
  · have hcases := streamExecutorOpen_cases host.streamExecutor payload now
    generalize streamExecutorOpen host.streamExecutor payload now = out at hcases
    obtain ⟨executor, result⟩ := out
    rcases hcases with ⟨hne, hsame⟩ | ⟨policy, -, -, heq⟩
    · have hrejected : Calm host (countRejected { host with streamExecutor := executor }) :=
        (calm_executor host (unprimed_of_forgetStatus hsame)).trans (calm_countRejected _)
      cases result with
      | ok => exact absurd rfl hne
      | _ => exact h.calm hrejected
    · cases heq
      simp only [resetStreamClock_note]
      exact (h.calm (calm_resetStreamClock build host)).opened _
        (resetStreamClock_clock build host)
  · dsimp only
    split_ifs
    all_goals exact h.calm (.of_others rfl rfl rfl rfl rfl rfl rfl)

/-- A stream may be got going in any stage that lets a PRIMING executor and a commanded arm
coexist: then it waits for the control tick. -/
theorem Watched.deferred (h : Watched host) (hactive : host.safety.state = .active)
    (hpriming : host.streamExecutor.diagnostics.state = .priming) : Watched (deferStart host) := by
  have hrecovery : recovery (deferStart host) = recovery host := rfl
  refine ⟨h.promise, ?_⟩
  have hshows := h.shows_
  rw [hrecovery]
  revert hshows
  cases recovery host with
  | running => exact id
  | stopped => exact id
  | cleared => exact fun hs => absurd hactive hs.2.2.2
  | armed => exact fun hs => absurd hactive hs.2.2
  | enabled => exact fun hs => absurd hpriming hs.2.2
  | opened => exact fun hs => ⟨hs.1, fun _ => rfl⟩

theorem beginTracking_safety (replies : BatchReplies) (host : HostControl) :
    (beginTracking build replies host).safety = host.safety := by
  simp only [beginTracking]
  split_ifs <;> rfl

theorem beginTracking_streamExecutor (replies : BatchReplies) (host : HostControl) :
    (beginTracking build replies host).streamExecutor = host.streamExecutor := by
  simp only [beginTracking]
  split_ifs <;> rfl

/-- The immediate start of the image without a shadow. -/
theorem Watched.startStream (h : Watched host) (build : Build) (replies : BatchReplies)
    (hactive : host.safety.state = .active)
    (hpriming : host.streamExecutor.diagnostics.state = .priming) :
    Watched (startStream build replies host).1 := by
  unfold Firmware.startStream
  have hcases := fun anchor => streamExecutorStart_cases host.streamExecutor replies.startTick anchor
  dsimp only
  generalize (if build.shadowValidation then _ else _ : Joints) = anchor
  specialize hcases anchor
  generalize streamExecutorStart host.streamExecutor replies.startTick anchor = out at hcases
  obtain ⟨executor, result⟩ := out
  rcases hcases with ⟨hne, hsame⟩ | ⟨-, heq⟩
  · cases hsame
    cases result with
    | ok => exact absurd rfl hne
    | _ => exact h.calm (calm_executor host id)
  · cases heq
    refine h.note .streamStarted rfl nofun ?_
    have hshows := h.shows_
    revert hshows
    cases recovery host with
    | running => exact id
    | stopped => exact id
    | cleared => exact fun hs => absurd hactive hs.2.2.2
    | armed => exact fun hs => absurd hactive hs.2.2
    | enabled => exact fun hs => absurd hpriming hs.2.2
    | opened => exact fun hs => hs.1

theorem Watched.primeStream (h : Watched host) (build : Build) (replies : BatchReplies)
    (hactive : host.safety.state = .active)
    (hpriming : host.streamExecutor.diagnostics.state = .priming) :
    Watched (primeStream build replies host).1 := by
  unfold Firmware.primeStream
  split_ifs
  · exact h
  · exact h.effect (effect_latchStop host)
  · exact h
  · refine (h.calm (calm_beginTracking build replies host)).deferred ?_ ?_
    · rw [beginTracking_safety, hactive]
    · rw [beginTracking_streamExecutor, hpriming]
  · exact h.deferred hactive hpriming
  · exact h.startStream build replies hactive hpriming

theorem outputsReady_active {build : Build} (h : outputsReady build host = true) :
    host.safety.state = .active := by
  simp only [outputsReady, Bool.and_eq_true] at h
  exact safetyAcceptsSetpoint_active h.2

theorem Watched.hostBatchResult (h : Watched host) (build : Build) (replies : BatchReplies)
    (admitted : ExecutorResult) (hdma : build.dmaDispatch = true) :
    Watched (hostBatchResult build replies admitted host).1 := by
  simp only [Firmware.hostBatchResult, hdma, true_and]
  split_ifs with hgate hstart hstart
  · exact nomatch hstart.1
  · exact h
  · simp only [readyToStart, Bool.and_eq_true, beq_iff_eq] at hstart
    have hready : outputsReady build host = true := by
      by_contra hne
      exact hgate ⟨hstart.1, by simpa using hne⟩
    exact h.primeStream build replies (outputsReady_active hready) hstart.2.1
  · exact h

theorem Watched.validateV2Batch (h : Watched host) (build : Build) (payload : List Byte)
    (kind : BatchKind) (replies : BatchReplies) (hdma : build.dmaDispatch = true) :
    Watched (validateV2Batch build payload kind replies host).1 := by
  unfold Firmware.validateV2Batch
  split_ifs
  · have hadmitted := h.calm
      (calm_executor host (unprimed_admitBatch host.streamExecutor payload kind replies.now))
    exact (hadmitted.hostBatchResult build replies _ hdma).calm (calm_answerBatch ..)
  · dsimp only
    split_ifs
    all_goals exact h.calm (.of_others rfl rfl rfl rfl rfl rfl rfl)

end MobileBimanual.Firmware
