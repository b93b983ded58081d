/-
# Runs of the safety state machine

`Safety.lean` has the operations of `safety.c`; here they are called in any order, with any clock,
and what they grant, refuse and latch is written down as marks.

* an asserted emergency stop keeps ESTOPPED with torque disabled, and ACTIVE is exactly where
  setpoints are accepted (`SafetyOk`);
* behind a stop (a fault, an emergency stop, a hold) the machine is ACTIVE again only when a clear
  or a disable, then an arm, then an enable were granted, with a heartbeat received between the
  reset and the enable and still fresh at it (`Reentered`).

`Since` is the invariant behind the second part: what each state says about the marks made since
the stop.
-/
import MobileBimanual.Firmware.Safety
import MobileBimanual.Lib.Ratchet

namespace MobileBimanual.Firmware

open MobileBimanual.Stream (Tick)
open Machine

/-! ## 1. Events and marks -/

inductive SafetyEvent where
  | completeBoot (healthOk : Bool)
  | heartbeat (nowMs : Tick)
  | requestArm (healthOk configurationMatches : Bool)
  | requestEnable (nowMs : Tick)
  | requestHold
  | requestDisable
  | reportFault (faultCode : BitVec 16)
  | setEstop (asserted : Bool)
  | clearLatchedStop (healthOk : Bool)
  | tick (nowMs : Tick)

/-- What is worth remembering of a run: stops, resets, what was granted, and heartbeats. -/
inductive SafetyMark where
  | stopped
  | reset
  | armed
  | enabled (nowMs : Tick)
  | heartbeat (nowMs : Tick)

namespace ActuatorSafety

def step (safety : ActuatorSafety) : SafetyEvent → ActuatorSafety
  | .completeBoot healthOk => (safetyCompleteBoot safety healthOk).1
  | .heartbeat nowMs => safetyOnHeartbeat safety nowMs
  | .requestArm healthOk configurationMatches =>
    (safetyRequestArm safety healthOk configurationMatches).1
  | .requestEnable nowMs => (safetyRequestEnable safety nowMs).1
  | .requestHold => (safetyRequestHold safety).1
  | .requestDisable => (safetyRequestDisable safety).1
  | .reportFault faultCode => safetyReportFault safety faultCode
  | .setEstop asserted => safetySetEstop safety asserted
  | .clearLatchedStop healthOk => (safetyClearLatchedStop safety healthOk).1
  | .tick nowMs => safetyTick safety nowMs

/-- A granted request makes its mark, a refused one makes none.  A tick stops when it finds the
heartbeat of an ACTIVE machine stale. -/
def mark (safety : ActuatorSafety) : SafetyEvent → Option SafetyMark
  | .completeBoot healthOk =>
    if (safetyCompleteBoot safety healthOk).2 = .healthFailed then some .stopped else none
  | .heartbeat nowMs => some (.heartbeat nowMs)
  | .requestArm healthOk configurationMatches =>
    if (safetyRequestArm safety healthOk configurationMatches).2 = .ok then some .armed else none
  | .requestEnable nowMs =>
    if (safetyRequestEnable safety nowMs).2 = .ok then some (.enabled nowMs) else none
  | .requestHold => if (safetyRequestHold safety).2 = .ok then some .stopped else none
  | .requestDisable => if (safetyRequestDisable safety).2 = .ok then some .reset else none
  | .reportFault _ => some .stopped
  | .setEstop asserted => if asserted then some .stopped else none
  | .clearLatchedStop healthOk =>
    if (safetyClearLatchedStop safety healthOk).2 = .ok then some .reset else none
  | .tick nowMs =>
    if safety.state = .active ∧ (safetyTick safety nowMs).state = .hold then some .stopped else none

/-- The marks of a run. -/
def marks (safety : ActuatorSafety) (events : List SafetyEvent) : List SafetyMark :=
  Ratchet.log step mark safety events

/-- No operation touches the watchdog's timeout. -/
@[simp] theorem step_heartbeatTimeoutMs (safety : ActuatorSafety) (event : SafetyEvent) :
    (safety.step event).heartbeatTimeoutMs = safety.heartbeatTimeoutMs := by
  cases event with
  | heartbeat nowMs => rfl
  | reportFault faultCode => rfl
  | completeBoot healthOk => simp only [step, safetyCompleteBoot]; split_ifs <;> rfl
  | requestArm healthOk configurationMatches =>
    simp only [step, safetyRequestArm]; split_ifs <;> rfl
  | requestEnable nowMs => simp only [step, safetyRequestEnable]; split_ifs <;> rfl
  | requestHold => simp only [step, safetyRequestHold]; split_ifs <;> rfl
  | requestDisable => simp only [step, safetyRequestDisable]; split_ifs <;> rfl
  | setEstop asserted => simp only [step, safetySetEstop]; split_ifs <;> rfl
  | clearLatchedStop healthOk => simp only [step, safetyClearLatchedStop]; split_ifs <;> rfl
  | tick nowMs => simp only [step, safetyTick]; split_ifs <;> rfl

theorem run_heartbeatTimeoutMs (safety : ActuatorSafety) (events : List SafetyEvent) :
    (run step safety events).heartbeatTimeoutMs = safety.heartbeatTimeoutMs := by
  induction events generalizing safety with
  | nil => rfl
  | cons event events ih => rw [run_cons, ih, step_heartbeatTimeoutMs]

/-! ## 2. The emergency stop and the setpoints -/

structure SafetyOk (safety : ActuatorSafety) : Prop where
  estopped : safety.estopAsserted = true →
    safety.state = .estopped ∧ safety.torqueDisableRequested = true
  active : safety.state = .active → safety.torqueDisableRequested = false

variable (heartbeatTimeoutMs : Tick)

theorem safetyOk_init : SafetyOk (safetyInit heartbeatTimeoutMs) :=
  ⟨by simp [safetyInit], by simp [safetyInit]⟩

/-- A record that was moved out of ESTOPPED's reach: not asserted, not ACTIVE. -/
theorem SafetyOk.of_quiet {safety : ActuatorSafety} (hestop : safety.estopAsserted = false)
    (hactive : safety.state ≠ .active) : SafetyOk safety :=
  ⟨fun h => absurd (hestop.symm.trans h) Bool.false_ne_true, fun h => absurd h hactive⟩

variable {safety : ActuatorSafety}

/-- Outside ESTOPPED no emergency stop is asserted. -/
theorem SafetyOk.not_asserted (h : SafetyOk safety) (hstate : safety.state ≠ .estopped) :
    safety.estopAsserted = false := by
  by_contra hasserted
  exact hstate (h.estopped (by simpa using hasserted)).1

theorem SafetyOk.step (h : SafetyOk safety) (event : SafetyEvent) :
    SafetyOk (safety.step event) := by
  cases event with
  | completeBoot healthOk =>
    simp only [ActuatorSafety.step, safetyCompleteBoot]
    split_ifs with hboot hhealth
    · exact h
    · exact .of_quiet (h.not_asserted (by simp_all)) (by simp)
    · exact .of_quiet (h.not_asserted (by simp_all)) (by simp)
  | heartbeat nowMs => exact ⟨h.estopped, h.active⟩
  | requestArm healthOk configurationMatches =>
    simp only [ActuatorSafety.step, safetyRequestArm]
    split_ifs with hstate hestop
    · exact h
    · exact h
    · exact h
    · exact h
    · exact .of_quiet (by simpa using hestop) (by simp)
  | requestEnable nowMs =>
    simp only [ActuatorSafety.step, safetyRequestEnable]
    split_ifs with hstate hestop
    · exact h
    · exact h
    · exact h
    · exact h
    · exact ⟨fun hasserted => absurd hasserted hestop, fun _ => rfl⟩
  | requestHold =>
    simp only [ActuatorSafety.step, safetyRequestHold]
    split_ifs with hstate
    · exact h
    · exact .of_quiet (h.not_asserted (by simp_all)) (by simp)
  | requestDisable =>
    simp only [ActuatorSafety.step, safetyRequestDisable]
    split_ifs with hstate
    · exact h
    · exact .of_quiet (h.not_asserted (by simp_all)) (by simp)
  | reportFault faultCode =>
    simp only [ActuatorSafety.step, safetyReportFault]
    by_cases hestop : safety.estopAsserted = true
    · have hestopped := (h.estopped hestop).1
      exact ⟨fun _ => ⟨by simp [hestop, hestopped], rfl⟩, by simp [hestop, hestopped]⟩
    · exact .of_quiet (by simpa using hestop) (by simp [hestop])
  | setEstop asserted =>
    simp only [ActuatorSafety.step, safetySetEstop]
    split_ifs
    · exact ⟨fun _ => ⟨rfl, rfl⟩, by simp⟩
    · exact ⟨by simp, h.active⟩
  | clearLatchedStop healthOk =>
    simp only [ActuatorSafety.step, safetyClearLatchedStop]
    split_ifs with hstate hestop
    · exact h
    · exact h
    · exact h
    · exact .of_quiet (by simpa using hestop) (by simp)
  | tick nowMs =>
    simp only [ActuatorSafety.step, safetyTick]
    split_ifs with hstale
    · exact .of_quiet (h.not_asserted (by simp_all)) (by simp)
    · exact h

theorem SafetyOk.acceptsSetpoint_iff (h : SafetyOk safety) :
    safetyAcceptsSetpoint safety = true ↔ safety.state = .active := by
  constructor
  · exact safetyAcceptsSetpoint_active
  · intro hactive
    have hestop := h.not_asserted (by simp [hactive])
    simp [safetyAcceptsSetpoint, hactive, hestop, h.active hactive]

/-! ## 3. What has happened since a stop -/

/-- Behind the last reset: an arm, and a heartbeat that was fresh when the enable was granted. -/
def Reentered (heartbeatTimeoutMs : Tick) (since : List SafetyMark) : Prop :=
  ∃ front middle rest nowMs beatMs,
    since = front ++ .reset :: (middle ++ .enabled nowMs :: rest) ∧
      .armed ∈ middle ∧ .heartbeat beatMs ∈ middle ∧ nowMs - beatMs ≤ heartbeatTimeoutMs

/-- Behind the last reset the heartbeat on record was received. -/
def Reset (safety : ActuatorSafety) (middle : List SafetyMark) : Prop :=
  safety.heartbeatSeen = true → .heartbeat safety.lastHeartbeatMs ∈ middle

/-- What the state says about the marks since a stop. -/
def Since (safety : ActuatorSafety) (since : List SafetyMark) : Prop :=
  match safety.state with
  | .boot => False
  | .safeDisabled => ∃ front middle, since = front ++ .reset :: middle ∧ Reset safety middle
  | .armed =>
    ∃ front middle, since = front ++ .reset :: middle ∧ Reset safety middle ∧ .armed ∈ middle
  | .active => Reentered safety.heartbeatTimeoutMs since
  | .hold => True
  | .fault => True
  | .estopped => True

/-- A stop ends in a state that says nothing yet. -/
theorem since_stopped {event : SafetyEvent} (h : SafetyOk safety)
    (hmark : mark safety event = some .stopped) : Since (safety.step event) [] := by
  cases event with
  | completeBoot healthOk =>
    simp only [mark, ite_eq_left_iff, reduceCtorEq, imp_false, not_not] at hmark
    have hstate : (safety.step (.completeBoot healthOk)).state = .fault := by
      simp only [step, safetyCompleteBoot] at hmark ⊢
      split_ifs at hmark ⊢
      simp_all
    simp [Since, hstate]
  | heartbeat nowMs => simp [mark] at hmark
  | requestArm healthOk configurationMatches => simp [mark] at hmark
  | requestEnable nowMs => simp [mark] at hmark
  | requestHold =>
    have hstate : (safety.step .requestHold).state = .hold := by
      simp only [mark, step, safetyRequestHold] at hmark ⊢
      split_ifs at hmark ⊢
      · simp_all
      · rfl
    simp [Since, hstate]
  | requestDisable => simp [mark] at hmark
  | reportFault faultCode =>
    by_cases hestop : safety.estopAsserted = true
    · have hstate : (safety.step (.reportFault faultCode)).state = .estopped := by
        simp [step, safetyReportFault, hestop, (h.estopped hestop).1]
      simp [Since, hstate]
    · have hstate : (safety.step (.reportFault faultCode)).state = .fault := by
        simp [step, safetyReportFault, hestop]
      simp [Since, hstate]
  | setEstop asserted =>
    cases asserted with
    | false => simp [mark] at hmark
    | true => simp [Since, step, safetySetEstop]
  | clearLatchedStop healthOk => simp [mark] at hmark
  | tick nowMs =>
    simp only [mark] at hmark
    split at hmark
    · rename_i hstale
      simp [Since, step, hstale.2]
    · simp at hmark

theorem Reset.append {middle : List SafetyMark} (h : Reset safety middle) (more : List SafetyMark) :
    Reset safety (middle ++ more) :=
  fun hseen => List.mem_append_left more (h hseen)

variable {since : List SafetyMark}

theorem Reentered.append {heartbeatTimeoutMs : Tick} (h : Reentered heartbeatTimeoutMs since)
    (more : List SafetyMark) : Reentered heartbeatTimeoutMs (since ++ more) := by
  obtain ⟨front, middle, rest, nowMs, beatMs, rfl, harmed, hbeat, hfresh⟩ := h
  exact ⟨front, middle, rest ++ more, nowMs, beatMs, by simp, harmed, hbeat, hfresh⟩

/-- Marks that change nothing may follow. -/
theorem Since.append (h : Since safety since) (more : List SafetyMark) :
    Since safety (since ++ more) := by
  unfold Since at h ⊢
  split at h
  · exact h
  · obtain ⟨front, middle, rfl, hreset⟩ := h
    exact ⟨front, middle ++ more, by simp, hreset.append more⟩
  · obtain ⟨front, middle, rfl, hreset, harmed⟩ := h
    exact ⟨front, middle ++ more, by simp, hreset.append more, List.mem_append_left more harmed⟩
  · exact h.append more
  · trivial
  · trivial
  · trivial

/-- A reset wipes the heartbeat and starts over. -/
theorem Since.of_reset (hstate : safety.state = .safeDisabled)
    (hseen : safety.heartbeatSeen = false) (since : List SafetyMark) :
    Since safety (since ++ [.reset]) := by
  simp only [Since, hstate]
  exact ⟨since, [], rfl, fun h => absurd (hseen.symm.trans h) Bool.false_ne_true⟩

theorem Since.heartbeat (h : Since safety since) (nowMs : Tick) :
    Since (safetyOnHeartbeat safety nowMs) (since ++ [.heartbeat nowMs]) := by
  have hreset : ∀ middle, Reset (safetyOnHeartbeat safety nowMs)
      (middle ++ [.heartbeat nowMs]) := fun middle _ => by simp [safetyOnHeartbeat]
  have hsame : (safetyOnHeartbeat safety nowMs).state = safety.state := rfl
  unfold Since at h ⊢
  rw [hsame]
  split at h
  · exact h
  · obtain ⟨front, middle, rfl, -⟩ := h
    exact ⟨front, middle ++ [.heartbeat nowMs], by simp, hreset middle⟩
  · obtain ⟨front, middle, rfl, -, harmed⟩ := h
    exact ⟨front, middle ++ [.heartbeat nowMs], by simp, hreset middle,
      List.mem_append_left _ harmed⟩
  · exact h.append _
  · trivial
  · trivial
  · trivial

theorem Since.requestArm (h : Since safety since) (healthOk configurationMatches : Bool) :
    Since (safety.step (.requestArm healthOk configurationMatches))
      (since ++ (mark safety (.requestArm healthOk configurationMatches)).toList) := by
  by_cases hok : (safetyRequestArm safety healthOk configurationMatches).2 = .ok
  · have hmark : mark safety (.requestArm healthOk configurationMatches) = some .armed := if_pos hok
    obtain ⟨hstate, hestop, rfl, rfl⟩ := (safetyRequestArm_ok_iff _ _ _).mp hok
    simp only [Since, hstate] at h
    obtain ⟨front, middle, rfl, hreset⟩ := h
    have hnext : safety.step (.requestArm true true) = { safety with
        state := .armed, holdRequested := false, torqueDisableRequested := true } := by
      simp [step, safetyRequestArm, hstate, hestop]
    rw [hmark, hnext]
    exact ⟨front, middle ++ [.armed], by simp, hreset.append _, by simp⟩
  · have hmark : mark safety (.requestArm healthOk configurationMatches) = none := if_neg hok
    have hsame := (safetyRequestArm_state safety healthOk configurationMatches).resolve_left
      fun hgranted => hok hgranted.2
    rw [hmark, step, hsame.1]
    exact h.append _

/-- The enable is where everything comes together. -/
theorem Since.requestEnable (h : Since safety since) (nowMs : Tick) :
    Since (safety.step (.requestEnable nowMs))
      (since ++ (mark safety (.requestEnable nowMs)).toList) := by
  by_cases hok : (safetyRequestEnable safety nowMs).2 = .ok
  · have hmark : mark safety (.requestEnable nowMs) = some (.enabled nowMs) := if_pos hok
    obtain ⟨hstate, hseen, hfresh, hactive⟩ := safetyRequestEnable_granted hok
    simp only [Since, hstate] at h
    obtain ⟨front, middle, rfl, hreset, harmed⟩ := h
    have htimeout := step_heartbeatTimeoutMs safety (.requestEnable nowMs)
    rw [hmark]
    simp only [Since, step, hactive] at htimeout ⊢
    rw [htimeout]
    exact ⟨front, middle, [], nowMs, safety.lastHeartbeatMs, by simp, harmed, hreset hseen, hfresh⟩
  · have hmark : mark safety (.requestEnable nowMs) = none := if_neg hok
    have hsame := (safetyRequestEnable_state safety nowMs).resolve_left
      fun hgranted => hok hgranted.2.2
    rw [hmark, step, hsame.1]
    exact h.append _

theorem Since.requestDisable (h : Since safety since) :
    Since (safety.step .requestDisable) (since ++ (mark safety .requestDisable).toList) := by
  simp only [step, mark, safetyRequestDisable]
  split_ifs with hstate
  · simp_all
  · simpa using h
  · exact .of_reset rfl rfl since
  · simp_all

theorem Since.clearLatchedStop (h : Since safety since) (healthOk : Bool) :
    Since (safety.step (.clearLatchedStop healthOk))
      (since ++ (mark safety (.clearLatchedStop healthOk)).toList) := by
  by_cases hok : (safetyClearLatchedStop safety healthOk).2 = .ok
  · have hmark : mark safety (.clearLatchedStop healthOk) = some .reset := if_pos hok
    rw [hmark, step]
    simp only [safetyClearLatchedStop] at hok ⊢
    split_ifs at hok ⊢
    exact .of_reset rfl rfl since
  · have hmark : mark safety (.clearLatchedStop healthOk) = none := if_neg hok
    have hsame := (safetyClearLatchedStop_state safety healthOk).resolve_right
      fun hgranted => hok hgranted.2
    rw [hmark, step, hsame.1]
    exact h.append _

/-- What ends in a state that says nothing needs no history. -/
theorem Since.of_halted
    (h : safety.state = .hold ∨ safety.state = .fault ∨ safety.state = .estopped)
    (since : List SafetyMark) : Since safety since := by
  rcases h with h | h | h <;> simp [Since, h]

/-- **Every step keeps what is said since a stop.** -/
theorem Since.step (h : Since safety since) (event : SafetyEvent) :
    Since (safety.step event) (since ++ (mark safety event).toList) := by
  cases event with
  | completeBoot healthOk =>
    have hboot : safety.state ≠ .boot := by
      intro hboot
      simp [Since, hboot] at h
    have hsame : safety.step (.completeBoot healthOk) = safety := by
      simp [ActuatorSafety.step, safetyCompleteBoot, hboot]
    rw [hsame]
    exact h.append _
  | heartbeat nowMs => exact h.heartbeat nowMs
  | requestArm healthOk configurationMatches => exact h.requestArm healthOk configurationMatches
  | requestEnable nowMs => exact h.requestEnable nowMs
  | requestHold =>
    rcases safetyRequestHold_state safety with hsame | hhold
    · rw [ActuatorSafety.step, hsame]
      exact h.append _
    · exact .of_halted (Or.inl hhold) _
  | requestDisable => exact h.requestDisable
  | reportFault faultCode =>
    by_cases hestop : safety.estopAsserted = true
    · have hsame : Since (safetyReportFault safety faultCode) since := by
        simp only [Since, safetyReportFault, hestop, if_true]
        exact h
      exact hsame.append _
    · exact .of_halted (Or.inr (Or.inl (by simp [ActuatorSafety.step, safetyReportFault, hestop]))) _
  | setEstop asserted =>
    cases asserted with
    | true => exact .of_halted (Or.inr (Or.inr rfl)) _
    | false => exact Since.append h _
  | clearLatchedStop healthOk => exact h.clearLatchedStop healthOk
  | tick nowMs =>
    rcases safetyTick_state safety nowMs with hsame | ⟨-, hhold⟩
    · rw [ActuatorSafety.step, hsame]
      exact h.append _
    · exact .of_halted (Or.inl hhold) _

/-! ## 4. Every run -/

variable (events : List SafetyEvent)

theorem run_safetyOk : SafetyOk (run step (safetyInit heartbeatTimeoutMs) events) :=
  run_invariant_all (I := SafetyOk) (fun _ event h => h.step event) events
    (safetyOk_init heartbeatTimeoutMs)

/-- Since any stop of a run, the state the run ends in says what happened. -/
theorem run_since {before : List SafetyMark}
    (h : marks (safetyInit heartbeatTimeoutMs) events = before ++ .stopped :: since) :
    Since (run step (safetyInit heartbeatTimeoutMs) events) since :=
  Ratchet.log_since (fun _ event hok => SafetyOk.step hok event)
    (fun _ _ hok hmark => since_stopped hok hmark) (fun _ event _ _ hsince => hsince.step event)
    events _ before since (safetyOk_init heartbeatTimeoutMs) h

/-- **The safety state machine, over every run.**  An asserted emergency stop means ESTOPPED with
torque disabled; setpoints are accepted in ACTIVE and nowhere else; and whenever the machine is
ACTIVE, behind every stop made so far lie a reset, an arm, a heartbeat and an enable, in an order
that makes the heartbeat younger than the reset and fresh at the enable. -/
theorem safety_lawful (heartbeatTimeoutMs : Tick) (events : List SafetyEvent) :
    let safety := run step (safetyInit heartbeatTimeoutMs) events
    (safety.estopAsserted = true →
        safety.state = .estopped ∧ safety.torqueDisableRequested = true) ∧
      (safetyAcceptsSetpoint safety = true ↔ safety.state = .active) ∧
      (safety.state = .active → ∀ before since,
        marks (safetyInit heartbeatTimeoutMs) events = before ++ .stopped :: since →
          Reentered heartbeatTimeoutMs since) := by
  intro safety
  have hok : SafetyOk safety := run_safetyOk heartbeatTimeoutMs events
  refine ⟨hok.estopped, hok.acceptsSetpoint_iff, ?_⟩
  intro hactive before since hmarks
  have hsince : Since safety since := run_since heartbeatTimeoutMs events hmarks
  have htimeout : safety.heartbeatTimeoutMs = heartbeatTimeoutMs :=
    run_heartbeatTimeoutMs (safetyInit heartbeatTimeoutMs) events
  simpa only [Since, hactive, htimeout] using hsince

end ActuatorSafety

end MobileBimanual.Firmware
