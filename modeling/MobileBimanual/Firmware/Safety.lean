/-
# The actuator safety state machine

`safety.c` in full: the one state machine that says whether the arms may be commanded.  Every
request either moves the state and returns OK, or returns its reason and leaves the record as it
was.

A setpoint is accepted in ACTIVE alone, and ACTIVE is entered by `requestEnable` alone, from
ARMED, which is entered by `requestArm` alone, from SAFE_DISABLED.
-/
import MobileBimanual.Stream.Contract

namespace MobileBimanual.Firmware

open MobileBimanual.Stream (Tick)

/-! ## 1. The record -/

inductive ActuatorState where
  | boot
  | safeDisabled
  | armed
  | active
  | hold
  | fault
  | estopped
  deriving DecidableEq

inductive SafetyResult where
  | ok
  | badState
  | estopAsserted
  | healthFailed
  | configMismatch
  | heartbeatMissing
  | heartbeatStale
  deriving DecidableEq

structure ActuatorSafety where
  state : ActuatorState
  heartbeatTimeoutMs : Tick
  lastHeartbeatMs : Tick
  faultCode : BitVec 16
  heartbeatSeen : Bool
  holdRequested : Bool
  torqueDisableRequested : Bool
  estopAsserted : Bool

def heartbeatIsFresh (safety : ActuatorSafety) (nowMs : Tick) : Bool :=
  safety.heartbeatSeen && nowMs - safety.lastHeartbeatMs ≤ safety.heartbeatTimeoutMs

/-! ## 2. The operations -/

def safetyInit (heartbeatTimeoutMs : Tick) : ActuatorSafety where
  state := .boot
  heartbeatTimeoutMs := heartbeatTimeoutMs
  lastHeartbeatMs := 0
  faultCode := 0
  heartbeatSeen := false
  holdRequested := false
  torqueDisableRequested := true
  estopAsserted := false

def safetyCompleteBoot (safety : ActuatorSafety) (healthOk : Bool) :
    ActuatorSafety × SafetyResult :=
  if safety.state ≠ .boot then (safety, .badState)
  else if !healthOk then ({ safety with state := .fault, faultCode := 0xFF01 }, .healthFailed)
  else ({ safety with state := .safeDisabled }, .ok)

def safetyOnHeartbeat (safety : ActuatorSafety) (nowMs : Tick) : ActuatorSafety :=
  { safety with lastHeartbeatMs := nowMs, heartbeatSeen := true }

def safetyRequestArm (safety : ActuatorSafety) (healthOk configurationMatches : Bool) :
    ActuatorSafety × SafetyResult :=
  if safety.state ≠ .safeDisabled then (safety, .badState)
  else if safety.estopAsserted then (safety, .estopAsserted)
  else if !healthOk then (safety, .healthFailed)
  else if !configurationMatches then (safety, .configMismatch)
  else
    ({ safety with state := .armed, holdRequested := false, torqueDisableRequested := true }, .ok)

def safetyRequestEnable (safety : ActuatorSafety) (nowMs : Tick) :
    ActuatorSafety × SafetyResult :=
  if safety.state ≠ .armed then (safety, .badState)
  else if safety.estopAsserted then (safety, .estopAsserted)
  else if !safety.heartbeatSeen then (safety, .heartbeatMissing)
  else if !heartbeatIsFresh safety nowMs then (safety, .heartbeatStale)
  else
    ({ safety with state := .active, holdRequested := false, torqueDisableRequested := false },
      .ok)

def safetyRequestHold (safety : ActuatorSafety) : ActuatorSafety × SafetyResult :=
  if safety.state ≠ .active then (safety, .badState)
  else ({ safety with state := .hold, holdRequested := true }, .ok)

def safetyRequestDisable (safety : ActuatorSafety) : ActuatorSafety × SafetyResult :=
  if safety.state = .boot ∨ safety.state = .fault ∨ safety.state = .estopped then
    (safety, .badState)
  else
    ({ safety with
        state := .safeDisabled
        holdRequested := false
        torqueDisableRequested := true
        heartbeatSeen := false },
      .ok)

def safetyReportFault (safety : ActuatorSafety) (faultCode : BitVec 16) : ActuatorSafety :=
  { safety with
    state := if safety.estopAsserted then safety.state else .fault
    faultCode := faultCode
    holdRequested := false
    torqueDisableRequested := true }

def safetySetEstop (safety : ActuatorSafety) (asserted : Bool) : ActuatorSafety :=
  if asserted then
    { safety with
      estopAsserted := true
      state := .estopped
      holdRequested := false
      torqueDisableRequested := true }
  else { safety with estopAsserted := false }

def safetyClearLatchedStop (safety : ActuatorSafety) (healthOk : Bool) :
    ActuatorSafety × SafetyResult :=
  if safety.state ≠ .fault ∧ safety.state ≠ .estopped then (safety, .badState)
  else if safety.estopAsserted then (safety, .estopAsserted)
  else if !healthOk then (safety, .healthFailed)
  else
    ({ safety with
        state := .safeDisabled
        faultCode := 0
        heartbeatSeen := false
        holdRequested := false
        torqueDisableRequested := true },
      .ok)

def safetyTick (safety : ActuatorSafety) (nowMs : Tick) : ActuatorSafety :=
  if safety.state = .active ∧ !heartbeatIsFresh safety nowMs then
    { safety with state := .hold, holdRequested := true }
  else safety

def safetyAcceptsSetpoint (safety : ActuatorSafety) : Bool :=
  safety.state == .active && !safety.estopAsserted && !safety.torqueDisableRequested

/-! ## 3. What the requests do -/

theorem safetyAcceptsSetpoint_active {safety : ActuatorSafety}
    (h : safetyAcceptsSetpoint safety = true) : safety.state = .active := by
  simp only [safetyAcceptsSetpoint, Bool.and_eq_true, beq_iff_eq] at h
  exact h.1.1

variable (safety : ActuatorSafety)

variable (healthOk configurationMatches : Bool)

/-- An ARM is granted to a healthy, matching SAFE_DISABLED actuator without an emergency stop,
and to no other. -/
theorem safetyRequestArm_ok_iff :
    (safetyRequestArm safety healthOk configurationMatches).2 = .ok ↔
      safety.state = .safeDisabled ∧ safety.estopAsserted = false ∧ healthOk = true ∧
        configurationMatches = true := by
  unfold safetyRequestArm
  split_ifs <;> simp_all

theorem safetyRequestArm_state :
    (safetyRequestArm safety healthOk configurationMatches).1.state = .armed ∧
        (safetyRequestArm safety healthOk configurationMatches).2 = .ok ∨
      (safetyRequestArm safety healthOk configurationMatches).1 = safety ∧
        (safetyRequestArm safety healthOk configurationMatches).2 ≠ .ok := by
  unfold safetyRequestArm
  split_ifs <;> simp

/-- An ENABLE needs an armed actuator; a refused one changes nothing. -/
theorem safetyRequestEnable_state (nowMs : Tick) :
    safety.state = .armed ∧ (safetyRequestEnable safety nowMs).1.state = .active ∧
        (safetyRequestEnable safety nowMs).2 = .ok ∨
      (safetyRequestEnable safety nowMs).1 = safety ∧
        (safetyRequestEnable safety nowMs).2 ≠ .ok := by
  unfold safetyRequestEnable
  split_ifs <;> simp_all

theorem safetyRequestEnable_granted {safety : ActuatorSafety} {nowMs : Tick}
    (h : (safetyRequestEnable safety nowMs).2 = .ok) :
    safety.state = .armed ∧ safety.heartbeatSeen = true ∧
      nowMs - safety.lastHeartbeatMs ≤ safety.heartbeatTimeoutMs ∧
      (safetyRequestEnable safety nowMs).1.state = .active := by
  unfold safetyRequestEnable at h ⊢
  split_ifs at h ⊢ with hstate hestop hseen hfresh
  simp only [heartbeatIsFresh, Bool.not_eq_true', Bool.not_eq_false, Bool.and_eq_true,
    decide_eq_true_eq] at hfresh
  exact ⟨not_not.mp hstate, hfresh.1, hfresh.2, rfl⟩

/-- No request but ARM and ENABLE leads to ARMED or ACTIVE. -/
theorem safetyRequestHold_state :
    (safetyRequestHold safety).1 = safety ∨ (safetyRequestHold safety).1.state = .hold := by
  unfold safetyRequestHold
  split_ifs <;> simp

theorem safetyRequestDisable_state :
    (safetyRequestDisable safety).1 = safety ∧ (safetyRequestDisable safety).2 ≠ .ok ∨
      (safetyRequestDisable safety).1.state = .safeDisabled ∧
        (safetyRequestDisable safety).2 = .ok := by
  unfold safetyRequestDisable
  split_ifs <;> simp

theorem safetyClearLatchedStop_state :
    (safetyClearLatchedStop safety healthOk).1 = safety ∧
        (safetyClearLatchedStop safety healthOk).2 ≠ .ok ∨
      (safetyClearLatchedStop safety healthOk).1.state = .safeDisabled ∧
        (safetyClearLatchedStop safety healthOk).2 = .ok := by
  unfold safetyClearLatchedStop
  split_ifs <;> simp

theorem safetyReportFault_state (faultCode : BitVec 16) :
    (safetyReportFault safety faultCode).state = safety.state ∨
      (safetyReportFault safety faultCode).state = .fault := by
  unfold safetyReportFault
  by_cases h : safety.estopAsserted <;> simp [h]

theorem safetyTick_state (nowMs : Tick) :
    safetyTick safety nowMs = safety ∨
      safety.state = .active ∧ (safetyTick safety nowMs).state = .hold := by
  unfold safetyTick
  split_ifs with h
  · exact Or.inr ⟨h.1, rfl⟩
  · exact Or.inl rfl

end MobileBimanual.Firmware
