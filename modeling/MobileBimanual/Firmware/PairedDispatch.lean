/-
# The two-arm dispatcher over the transport

`bimanual_servo_dispatch.c` with what `Firmware/Dispatch` only has as answers: the leases of the
two UARTs, the packets, and the interrupts that report how a transfer went.  The leases are those
of `Transport/Queue`, on which other callers may do what they like between two calls.

* `Sound` is what holds between two calls, whatever came before: a packet goes out only while both
  buses are leased for its launch, a launch starts both packets or faults, and the counts differ by
  the pair under way (`both_arms_or_fault`);
* `starts_of_faulted`: a faulted dispatcher starts nothing.

The counts do not wrap: every launch takes a token of the left bus, and a bus whose tokens are used
up is not leased again.
-/
import MobileBimanual.Firmware.Dispatch
import MobileBimanual.Transport.Queue

namespace MobileBimanual.Firmware

open MobileBimanual.Stream (Byte Tick)
open MobileBimanual.Mobile (MobileIds PacketError Word buildSyncWriteWords)
open MobileBimanual.Transport Machine

/-! ## 1. The driver -/

/-- A packet whose transfer was started, by the launch that started it, with whether both buses
were leased for that launch. -/
structure PacketStart where
  launch : Nat
  arm : ServoUart
  reserved : Bool

/-- `bimanual_servo_dispatch.c`.  The last three fields are not in the firmware: how often Launch
was called, the packets started since Init, and how often an arm's completion was counted. -/
structure PairedDispatch where
  transport : ServoTransport
  record : BimanualDispatch
  token : ServoUart → Tick
  launchInProgress : Bool
  txEvents : ServoUart → Bool
  uartErrorEvent : Bool
  injectionConsumed : Bool
  launches : Nat
  starts : List PacketStart
  completions : ServoUart → Nat

/-- What the build fixes. -/
structure DispatchBuild where
  transport : TransportBuild
  ids : MobileIds
  faultInjection : Bool

inductive UartEvent where
  | txComplete (uart : ServoUart) (ready : Bool)
  | error (uart : ServoUart)

/-- What the HAL answers to a call that ends a lease. -/
structure EndReplies where
  aborted : Bool := true
  ready : Bool := true

/-- `actuator_motor_group_positions` of an arm. -/
def armPositions (positions : Fin 6 → Word) : Except PacketError (List Byte) :=
  buildSyncWriteWords 42 ((List.finRange 6).map fun i => (BitVec.ofNat 8 (i.val + 1), positions i))

namespace PairedDispatch

variable (d : PairedDispatch)

def gate (uart : ServoUart) : Gate := (d.transport.channel uart).gate

def setGate (uart : ServoUart) (gate : Gate) : PairedDispatch :=
  { d with transport := { d.transport with
      channel := Function.update d.transport.channel uart
        { d.transport.channel uart with gate } } }

def fail : PairedDispatch := { d with record := dispatchFail d.record }

def clearEvents : PairedDispatch :=
  { d with txEvents := fun _ => false, uartErrorEvent := false }

/-! The interrupts. -/

/-- `BimanualServoDispatch_OnTxComplete` -/
def onTxComplete (uart : ServoUart) (ready : Bool) : PairedDispatch :=
  if !ready || d.token uart == 0 then d
  else
    { d with
      uartErrorEvent := d.uartErrorEvent || d.txEvents uart
      txEvents := Function.update d.txEvents uart true }

/-- `BimanualServoDispatch_OnUartError` -/
def onUartError (uart : ServoUart) : PairedDispatch :=
  if d.token uart == 0 then d else { d with uartErrorEvent := true }

def onUart : UartEvent → PairedDispatch
  | .txComplete uart ready => d.onTxComplete uart ready
  | .error uart => d.onUartError uart

/-- Interrupts in the middle of a call. -/
def interrupted (events : List UartEvent) : PairedDispatch := events.foldl onUart d

/-! The calls of the transport. -/

def begin (uart : ServoUart) (ready : Bool) : PairedDispatch × Option Tick :=
  let taken := (d.gate uart).take ((d.gate uart).owner.begin .arm ready)
  (d.setGate uart (Gate.give taken), taken.2)

def endLease (uart : ServoUart) (abortTx : Bool) (replies : EndReplies) :
    PairedDispatch × HalStatus :=
  let ended := (d.gate uart).endLease (d.token uart) abortTx replies.aborted replies.ready
  (d.setGate uart ended.1, ended.2)

/-- Both buses are leased under the tokens of the launch. -/
def reserved : Bool :=
  (d.gate .left).owner.owns (d.token .left) && (d.gate .right).owner.owns (d.token .right)

/-- `ServoTransport_TransmitDMA` of an arm's packet, with whether it returns OK. -/
def transmitDma (build : DispatchBuild) (uart : ServoUart) (packet : List Byte) (started : Bool) :
    PairedDispatch × Bool :=
  let allowed := (d.gate uart).owner.mayTransmit build.transport build.ids (uart = .left)
    (d.token uart) packet
  let sent := d.setGate uart ((d.gate uart).transmit build.transport build.ids (uart = .left)
    (d.token uart) packet (!started))
  if allowed.2 && started then
    ({ sent with starts := ⟨d.launches, uart, d.reserved⟩ :: d.starts }, true)
  else (sent, false)

/-- `release_bus` -/
def releaseBus (uart : ServoUart) (abortTx : Bool) (replies : EndReplies) : PairedDispatch :=
  if d.token uart == 0 then d
  else match d.endLease uart abortTx replies with
    | (d, .ok) => { d with token := Function.update d.token uart 0 }
    | (d, _) => d

/-! ## 2. The calls -/

/-- `BimanualServoDispatch_Init`; no lease is reset. -/
def init : PairedDispatch :=
  { d.clearEvents with
    record := dispatchInit
    launchInProgress := false
    injectionConsumed := false
    starts := []
    completions := fun _ => 0 }

structure StopBuses where
  left : EndReplies := {}
  right : EndReplies := {}

/-- The releases of both buses with what was under way on them. -/
def releaseBoth (replies : StopBuses) : PairedDispatch :=
  (({ d with launchInProgress := false }.releaseBus .left true replies.left).releaseBus .right true
    replies.right).clearEvents

/-- `BimanualServoDispatch_LatchFault` -/
def latchFault (replies : StopBuses) : PairedDispatch := (d.releaseBoth replies).fail

/-- `BimanualServoDispatch_Stop` -/
def stop (replies : StopBuses) : PairedDispatch :=
  let active := d.record.active
  let d := d.releaseBoth replies
  if active || d.token .left != 0 || d.token .right != 0 then d.fail else d

def complete (uart : ServoUart) (record : BimanualDispatch) : BimanualDispatch × DispatchResult :=
  match uart with
  | .left => dispatchCompleteLeft record
  | .right => dispatchCompleteRight record

/-- A reported transfer: the lease is ended and the completion counted; `false` when one of them
fails. -/
def finish (uart : ServoUart) (replies : EndReplies) : PairedDispatch × Bool :=
  match d.endLease uart false replies with
  | (d, .ok) =>
    match complete uart d.record with
    | (record, .ok) =>
      ({ d with
          record := record
          token := Function.update d.token uart 0
          completions := Function.update d.completions uart (d.completions uart + 1) }, true)
    | (_, _) => (d, false)
  | (d, _) => (d, false)

/-- The answers of a poll, with the interrupts behind the look at the events and behind the left
arm. -/
structure PollReplies where
  taken : List UartEvent := []
  left : EndReplies := {}
  between : List UartEvent := []
  right : EndReplies := {}
  fault : StopBuses := {}

/-- `BimanualServoDispatch_Poll` -/
def poll (replies : PollReplies) : PairedDispatch :=
  if d.launchInProgress then d
  else
    let events := d.txEvents
    let error := d.uartErrorEvent
    let d := d.clearEvents.interrupted replies.taken
    if error then d.latchFault replies.fault
    else match if events .left then d.finish .left replies.left else (d, true) with
      | (d, false) => d.latchFault replies.fault
      | (d, true) =>
        let d := d.interrupted replies.between
        match if events .right then d.finish .right replies.right else (d, true) with
        | (d, false) => d.latchFault replies.fault
        | (d, true) => d

/-- A launch, with the answers it gets on its way and the interrupts behind each start. -/
structure LaunchCall where
  left : Fin 6 → Word
  right : Fin 6 → Word
  first : PollReplies := {}
  leftReady : Bool := true
  rightReady : Bool := true
  giveBack : EndReplies := {}
  leftStarted : Bool := true
  leftStartUs : BitVec 32 := 0
  behindLeft : List UartEvent := []
  rightStarted : Bool := true
  rightStartUs : BitVec 32 := 0
  behindRight : List UartEvent := []
  failed : StopBuses := {}
  last : PollReplies := {}

/-- Both buses are leased: the starts. -/
def startPair (build : DispatchBuild) (c : LaunchCall) (leftPacket rightPacket : List Byte) :
    PairedDispatch × HalStatus :=
  match d.transmitDma build .left leftPacket c.leftStarted with
  | (d, false) => (d.latchFault c.failed, .error)
  | (d, true) =>
    let d := d.interrupted c.behindLeft
    if build.faultInjection && !d.injectionConsumed && decide (8 ≤ d.record.completedCount) then
      ({ d with injectionConsumed := true }.latchFault c.failed, .error)
    else match d.transmitDma build .right rightPacket c.rightStarted with
      | (d, false) => (d.latchFault c.failed, .error)
      | (d, true) =>
        let d := d.interrupted c.behindRight
        match dispatchBegin d.record c.leftStartUs c.rightStartUs with
        | (record, .ok) =>
          let d := { d with record, launchInProgress := false }.poll c.last
          (d, if d.record.faulted then .error else .ok)
        | (_, _) => (d.latchFault c.failed, .error)

/-- The reservation of both buses in front of the starts. -/
def reserveAndStart (build : DispatchBuild) (c : LaunchCall) (leftPacket rightPacket : List Byte) :
    PairedDispatch × HalStatus :=
  match d.begin .left c.leftReady with
  | (d, none) => (d, .busy)
  | (d, some token) =>
    let d := { d with token := Function.update d.token .left token }
    match d.begin .right c.rightReady with
    | (d, none) => (d.releaseBus .left false c.giveBack, .busy)
    | (d, some token) =>
      let d := { d with token := Function.update d.token .right token }
      { d.clearEvents with launchInProgress := true }.startPair build c leftPacket rightPacket

/-- The next call of Launch. -/
def numbered : PairedDispatch := { d with launches := d.launches + 1 }

/-- `BimanualServoDispatch_Launch` -/
def launch (build : DispatchBuild) (c : LaunchCall) : PairedDispatch × HalStatus :=
  let d := d.numbered.poll c.first
  if !dispatchCanLaunch d.record then (d.fail, .error)
  else match armPositions c.left, armPositions c.right with
    | .ok leftPacket, .ok rightPacket => d.reserveAndStart build c leftPacket rightPacket
    | _, _ => (d.fail, .error)

end PairedDispatch

/-- A call of the dispatcher, an interrupt, or what anybody else does with the transport. -/
inductive DispatchEvent where
  | launch (c : PairedDispatch.LaunchCall)
  | poll (replies : PairedDispatch.PollReplies)
  | stop (replies : PairedDispatch.StopBuses)
  | latchFault (replies : PairedDispatch.StopBuses)
  | uart (event : UartEvent)
  | transport (event : TransportEvent)
  | init

namespace PairedDispatch

def step (build : DispatchBuild) (d : PairedDispatch) : DispatchEvent → PairedDispatch
  | .launch c => (d.launch build c).1
  | .poll replies => d.poll replies
  | .stop replies => d.stop replies
  | .latchFault replies => d.latchFault replies
  | .uart event => d.onUart event
  | .transport event =>
    { d with transport := d.transport.step build.transport build.ids event }
  | .init => d.init

def boot : PairedDispatch where
  transport := .init
  record := dispatchInit
  token := fun _ => 0
  launchInProgress := false
  txEvents := fun _ => false
  uartErrorEvent := false
  injectionConsumed := false
  launches := 0
  starts := []
  completions := fun _ => 0

/-! ## 3. What is owed between two calls -/

variable {d d' : PairedDispatch} {build : DispatchBuild}

/-- The launch started this arm's packet. -/
def Started (d : PairedDispatch) (launch : Nat) (arm : ServoUart) : Prop :=
  ∃ start ∈ d.starts, start.launch = launch ∧ start.arm = arm

def armComplete (record : BimanualDispatch) : ServoUart → Bool
  | .left => record.leftComplete
  | .right => record.rightComplete

/-- The pair under way, which is not counted as complete yet. -/
def underWay (record : BimanualDispatch) : Nat := if record.active then 1 else 0

/-- The counts: one launch more than completed while a pair is under way, and for each arm one
completion for every launch it has completed. -/
structure Counted (d : PairedDispatch) : Prop where
  launched : d.record.launchCount.toNat =
    d.record.completedCount.toNat + underWay d.record
  completions : ∀ arm, d.completions arm = d.record.completedCount.toNat +
    if d.record.active && armComplete d.record arm then 1 else 0

/-- What the dispatcher owes between two calls.  Both buses were leased for every packet; as long
as there is no fault, a launch has started both packets or none, it is counted until it is complete,
and each arm's completion is counted once. -/
structure Sound (d : PairedDispatch) : Prop where
  reserved : ∀ start ∈ d.starts, start.reserved = true
  paired : d.record.faulted = false → ∀ launch, d.Started launch .left ↔ d.Started launch .right
  counts : d.record.faulted = false →
    d.record.completedCount.toNat ≤ d.record.launchCount.toNat ∧
      d.record.launchCount.toNat ≤ d.record.completedCount.toNat + 1 ∧
      (d.record.launchCount.toNat = d.record.completedCount.toNat + 1 ↔ d.record.active = true)
  completions : d.record.faulted = false → ∀ arm, d.completions arm =
    d.record.completedCount.toNat +
      if d.record.active && armComplete d.record arm then 1 else 0

/-- What holds in the middle of a launch too. -/
structure Logged (d : PairedDispatch) : Prop where
  reserved : ∀ start ∈ d.starts, start.reserved = true
  tokens : d.record.launchCount.toNat ≤ (d.gate .left).owner.token.toNat

/-- What holds between two calls. -/
structure Settled (d : PairedDispatch) : Prop where
  logged : d.Logged
  between : d.launchInProgress = false
  paired : d.record.faulted = false → ∀ launch, d.Started launch .left ↔ d.Started launch .right
  counted : d.record.faulted = false → d.Counted
  waiting : d.record.active = true → (d.record.leftComplete && d.record.rightComplete) = false

theorem Settled.sound (h : d.Settled) : d.Sound where
  reserved := h.logged.reserved
  paired := h.paired
  counts hfault := by
    have hlaunched := (h.counted hfault).launched
    rw [underWay] at hlaunched
    cases hactive : d.record.active <;> simp [hactive] at hlaunched ⊢ <;> omega
  completions hfault := (h.counted hfault).completions

/-- Nothing but the transport, its tokens and the events has changed. -/
structure Calm (d d' : PairedDispatch) : Prop where
  record : d'.record = d.record
  launches : d'.launches = d.launches
  starts : d'.starts = d.starts
  completions : d'.completions = d.completions
  inProgress : d'.launchInProgress = d.launchInProgress
  later : ∀ uart, (d.gate uart).Later (d'.gate uart)

theorem Calm.refl (d : PairedDispatch) : Calm d d :=
  ⟨rfl, rfl, rfl, rfl, rfl, fun _ => Owner.Later.refl _⟩

theorem Calm.trans {d'' : PairedDispatch} (h : Calm d d') (h' : Calm d' d'') : Calm d d'' :=
  ⟨h'.record.trans h.record, h'.launches.trans h.launches, h'.starts.trans h.starts,
    h'.completions.trans h.completions, h'.inProgress.trans h.inProgress,
    fun uart => (h.later uart).trans (h'.later uart)⟩

theorem Logged.calm (h : d.Logged) (hc : Calm d d') : d'.Logged where
  reserved := by
    rw [hc.starts]
    exact h.reserved
  tokens := by
    rw [hc.record]
    exact Nat.le_trans h.tokens (hc.later .left)

theorem Settled.calm (h : d.Settled) (hc : Calm d d') : d'.Settled where
  logged := h.logged.calm hc
  between := hc.inProgress.trans h.between
  paired := by
    simp only [Started, hc.record, hc.starts]
    exact h.paired
  counted := by
    rw [hc.record]
    intro hfault
    obtain ⟨hlaunched, hcompletions⟩ := h.counted hfault
    refine ⟨?_, ?_⟩
    · rw [hc.record]
      exact hlaunched
    · rw [hc.record, hc.completions]
      exact hcompletions
  waiting := by
    rw [hc.record]
    exact h.waiting

/-- The fields that the interrupts and the leases of a launch change. -/
theorem calm_with (d : PairedDispatch) (token : ServoUart → Tick) (txEvents : ServoUart → Bool)
    (uartErrorEvent : Bool) : Calm d { d with token, txEvents, uartErrorEvent } :=
  ⟨rfl, rfl, rfl, rfl, rfl, fun _ => Owner.Later.refl _⟩

theorem calm_onUart (d : PairedDispatch) (event : UartEvent) : Calm d (d.onUart event) := by
  cases event with
  | txComplete uart ready =>
    rw [onUart, onTxComplete]
    split
    · exact Calm.refl d
    · exact calm_with d d.token _ _
  | error uart =>
    rw [onUart, onUartError]
    split
    · exact Calm.refl d
    · exact calm_with d d.token d.txEvents true

theorem calm_interrupted (events : List UartEvent) :
    ∀ d : PairedDispatch, Calm d (d.interrupted events) := by
  induction events with
  | nil => exact Calm.refl
  | cons event events ih => exact fun d => (calm_onUart d event).trans (ih _)

theorem calm_clearEvents (d : PairedDispatch) : Calm d d.clearEvents :=
  calm_with d d.token _ false

@[simp] theorem gate_setGate_self (d : PairedDispatch) (uart : ServoUart) (gate : Gate) :
    (d.setGate uart gate).gate uart = gate := by
  simp [setGate, PairedDispatch.gate]

theorem gate_setGate_of_ne (d : PairedDispatch) {uart other : ServoUart} (h : other ≠ uart)
    (gate : Gate) : (d.setGate uart gate).gate other = d.gate other := by
  simp [setGate, PairedDispatch.gate, Function.update_of_ne h]

variable {uart : ServoUart}

theorem calm_setGate {gate : Gate} (h : (d.gate uart).Later gate) :
    Calm d (d.setGate uart gate) := by
  refine ⟨rfl, rfl, rfl, rfl, rfl, fun other => ?_⟩
  by_cases hother : other = uart
  · rw [hother, gate_setGate_self]
    exact h
  · rw [gate_setGate_of_ne d hother]
    exact Owner.Later.refl _

theorem calm_endLease (d : PairedDispatch) (uart : ServoUart) (abortTx : Bool)
    (replies : EndReplies) : Calm d (d.endLease uart abortTx replies).1 :=
  calm_setGate (Gate.later_endLease _ _ _ _ _)

theorem calm_begin (d : PairedDispatch) (uart : ServoUart) (ready : Bool) :
    Calm d (d.begin uart ready).1 :=
  calm_setGate (Gate.later_give (Gate.later_take (Owner.later_begin _ _ _)))

theorem calm_token (d : PairedDispatch) (token : ServoUart → Tick) : Calm d { d with token } :=
  calm_with d token d.txEvents d.uartErrorEvent

theorem calm_releaseBus (d : PairedDispatch) (uart : ServoUart) (abortTx : Bool)
    (replies : EndReplies) : Calm d (d.releaseBus uart abortTx replies) := by
  have hend := calm_endLease d uart abortTx replies
  rw [releaseBus]
  split
  · exact Calm.refl d
  · split
    · next heq =>
      rw [heq] at hend
      exact hend.trans (calm_token _ _)
    · next heq =>
      rw [heq] at hend
      exact hend

theorem calm_releaseBoth (d : PairedDispatch) (replies : StopBuses) :
    Calm { d with launchInProgress := false } (d.releaseBoth replies) :=
  ((calm_releaseBus _ _ _ _).trans (calm_releaseBus _ _ _ _)).trans (calm_clearEvents _)

/-! ## 4. Faults -/

theorem Logged.settled_of_faulted (h : d.Logged) (hbetween : d.launchInProgress = false)
    (hfault : d.record.faulted = true) (hactive : d.record.active = false) : d.Settled where
  logged := h
  between := hbetween
  paired := fun h => by simp [hfault] at h
  counted := fun h => by simp [hfault] at h
  waiting := fun h => by simp [hactive] at h

theorem Logged.fail (h : d.Logged) : d.fail.Logged := ⟨h.reserved, h.tokens⟩

/-- **Whatever the buses answer, a latched fault settles the dispatcher.** -/
theorem Logged.latchFault (h : d.Logged) (replies : StopBuses) :
    (d.latchFault replies).Settled ∧ (d.latchFault replies).record.faulted = true := by
  have hidle : Logged { d with launchInProgress := false } := ⟨h.reserved, h.tokens⟩
  have hcalm := calm_releaseBoth d replies
  refine ⟨?_, rfl⟩
  exact (hidle.calm hcalm).fail.settled_of_faulted hcalm.inProgress rfl rfl

theorem starts_latchFault (d : PairedDispatch) (replies : StopBuses) :
    (d.latchFault replies).starts = d.starts := (calm_releaseBoth d replies).starts

theorem Settled.stop (h : d.Settled) (replies : StopBuses) : (d.stop replies).Settled := by
  have hcalm : Calm d (d.releaseBoth replies) := by
    have hboth := calm_releaseBoth d replies
    exact ⟨hboth.record, hboth.launches, hboth.starts, hboth.completions,
      hboth.inProgress.trans h.between.symm, hboth.later⟩
  have hreleased := h.calm hcalm
  rw [PairedDispatch.stop]
  split
  · exact hreleased.logged.fail.settled_of_faulted hreleased.between rfl rfl
  · exact hreleased

/-! ## 5. Completions -/

def withComplete (record : BimanualDispatch) : ServoUart → BimanualDispatch
  | .left => { record with leftComplete := true }
  | .right => { record with rightComplete := true }

variable (record : BimanualDispatch)

@[simp] theorem active_withComplete (uart : ServoUart) :
    (withComplete record uart).active = record.active := by cases uart <;> rfl

@[simp] theorem launchCount_withComplete (uart : ServoUart) :
    (withComplete record uart).launchCount = record.launchCount := by cases uart <;> rfl

@[simp] theorem completedCount_withComplete (uart : ServoUart) :
    (withComplete record uart).completedCount = record.completedCount := by cases uart <;> rfl

@[simp] theorem armComplete_withComplete (uart arm : ServoUart) :
    armComplete (withComplete record uart) arm =
      (decide (arm = uart) || armComplete record arm) := by
  cases uart <;> cases arm <;> simp [withComplete, armComplete]

def otherArm : ServoUart → ServoUart
  | .left => .right
  | .right => .left

variable {record' : BimanualDispatch}

theorem complete_ok {record : BimanualDispatch} (h : complete uart record = (record', .ok)) :
    record.active = true ∧ record.faulted = false ∧ armComplete record uart = false ∧
      record' = closePair (withComplete record uart) := by
  cases uart with
  | left =>
    rw [complete, dispatchCompleteLeft] at h
    split at h
    · cases h
    · next hopen =>
      simp only [Bool.or_eq_true, Bool.not_eq_true', not_or, Bool.not_eq_false,
        Bool.not_eq_true] at hopen
      exact ⟨hopen.1.1, hopen.1.2, hopen.2, (Prod.mk.inj h).1.symm⟩
  | right =>
    rw [complete, dispatchCompleteRight] at h
    split at h
    · cases h
    · next hopen =>
      simp only [Bool.or_eq_true, Bool.not_eq_true', not_or, Bool.not_eq_false,
        Bool.not_eq_true] at hopen
      exact ⟨hopen.1.1, hopen.1.2, hopen.2, (Prod.mk.inj h).1.symm⟩

theorem closePair_eq (uart : ServoUart) :
    closePair (withComplete record uart) =
      if armComplete record (otherArm uart) then
        { withComplete record uart with
          active := false
          completedCount := record.completedCount + 1 }
      else withComplete record uart := by
  cases uart with
  | left =>
    cases h : record.rightComplete <;> simp [closePair, withComplete, armComplete, otherArm, h]
  | right =>
    cases h : record.leftComplete <;> simp [closePair, withComplete, armComplete, otherArm, h]

theorem toNat_completed_succ {record : BimanualDispatch}
    (h : record.launchCount.toNat = record.completedCount.toNat + 1) :
    (record.completedCount + 1).toNat = record.completedCount.toNat + 1 := by
  have hlt := record.launchCount.isLt
  have hone : (1 : BitVec 32).toNat = 1 := rfl
  rw [BitVec.toNat_add, hone]
  omega

/-- **A completion is counted for its arm, and with the other one for the pair.** -/
theorem Counted.complete (h : d.Counted) {record : BimanualDispatch}
    (hok : complete uart d.record = (record, .ok)) :
    Counted { d with
      record := record
      completions := Function.update d.completions uart (d.completions uart + 1) } := by
  obtain ⟨hactive, _, hopen, rfl⟩ := complete_ok hok
  have hlaunched := h.launched
  rw [underWay, hactive, if_pos rfl] at hlaunched
  have hthis := h.completions uart
  have hother := h.completions (otherArm uart)
  simp only [hactive, hopen, Bool.true_and, Bool.false_eq_true, if_false, Nat.add_zero] at hthis
  simp only [hactive, Bool.true_and] at hother
  have harms : ∀ arm, arm = uart ∨ arm = otherArm uart := by
    intro arm
    cases arm <;> cases uart <;> simp [otherArm]
  have hne : otherArm uart ≠ uart := by cases uart <;> exact ServoUart.noConfusion
  rw [closePair_eq]
  cases hpair : armComplete d.record (otherArm uart) with
  | false =>
    rw [hpair] at hother
    simp only [Bool.false_eq_true, if_false, Nat.add_zero] at hother ⊢
    refine ⟨by simp [underWay, hactive, hlaunched], fun arm => ?_⟩
    rcases harms arm with rfl | rfl
    · simp [hactive, hthis]
    · simp [hactive, hne, hpair, hother]
  | true =>
    rw [hpair] at hother
    simp only [if_true] at hother ⊢
    have hsucc := toNat_completed_succ hlaunched
    refine ⟨?_, fun arm => ?_⟩
    · simp only [underWay, launchCount_withComplete, Bool.false_eq_true, if_false]
      rw [hlaunched, hsucc]
    · simp only [Bool.false_and, Bool.false_eq_true, if_false, hsucc]
      rcases harms arm with rfl | rfl
      · rw [Function.update_self, hthis]
      · rw [Function.update_of_ne hne, hother]

theorem closePair_waiting (h : (closePair record).active = true) :
    ((closePair record).leftComplete && (closePair record).rightComplete) = false := by
  rw [closePair] at h ⊢
  split at h
  · cases h
  · next hopen =>
    rw [if_neg hopen]
    exact Bool.eq_false_iff.mpr hopen

theorem faulted_withComplete (uart : ServoUart) :
    (withComplete record uart).faulted = record.faulted := by cases uart <;> rfl

/-- What the handling of a reported transfer leaves; `false` is a fault to be latched. -/
structure Handled (d : PairedDispatch) (result : PairedDispatch × Bool) : Prop where
  logged : result.1.Logged
  starts : result.1.starts = d.starts
  launches : result.1.launches = d.launches
  faulted : result.1.record.faulted = d.record.faulted
  settled : result.2 = true → result.1.Settled

theorem Settled.handled (h : d.Settled) : Handled d (d, true) :=
  ⟨h.logged, rfl, rfl, rfl, fun _ => h⟩

theorem Settled.finish (h : d.Settled) (uart : ServoUart) (replies : EndReplies) :
    Handled d (d.finish uart replies) := by
  have hend := calm_endLease d uart false replies
  rw [PairedDispatch.finish]
  split
  · next ended heq =>
    rw [heq] at hend
    have hended := h.calm hend
    split
    · next record hok =>
      obtain ⟨_, hfault, _, hrecord⟩ := complete_ok hok
      have hkept : record.faulted = ended.record.faulted := by
        rw [hrecord, closePair_faulted, faulted_withComplete]
      have hcount : record.launchCount = ended.record.launchCount := by
        rw [hrecord, closePair_eq]
        split
        · exact launchCount_withComplete _ _
        · exact launchCount_withComplete _ _
      have hlogged : Logged { ended with
          record := record
          token := Function.update ended.token uart 0
          completions := Function.update ended.completions uart (ended.completions uart + 1) } := by
        refine ⟨hended.logged.reserved, ?_⟩
        rw [hcount]
        exact hended.logged.tokens
      refine ⟨hlogged, hend.starts, hend.launches, hkept.trans (congrArg _ hend.record), ?_⟩
      intro _
      exact
        { logged := hlogged
          between := hended.between
          paired := fun _ => hended.paired hfault
          counted := fun _ => by
            have hcounted := (hended.counted hfault).complete hok
            exact ⟨hcounted.launched, hcounted.completions⟩
          waiting := by
            rw [hrecord]
            exact closePair_waiting _ }
    · exact ⟨hended.logged, hend.starts, hend.launches, congrArg _ hend.record,
        fun hok => by cases hok⟩
  · next ended _ heq =>
    rw [heq] at hend
    exact ⟨h.logged.calm hend, hend.starts, hend.launches, congrArg _ hend.record,
      fun hok => by cases hok⟩

theorem Settled.finish_reported (h : d.Settled) (reported : Bool) (uart : ServoUart)
    (replies : EndReplies) :
    Handled d (if reported then d.finish uart replies else (d, true)) := by
  split
  · exact h.finish uart replies
  · exact h.handled

/-- What a poll leaves. -/
structure Polled (d d' : PairedDispatch) : Prop where
  settled : d'.Settled
  starts : d'.starts = d.starts
  launches : d'.launches = d.launches
  faulted : d.record.faulted = true → d'.record.faulted = true

theorem Logged.polled_latchFault (h : d'.Logged) (hstarts : d'.starts = d.starts)
    (hlaunches : d'.launches = d.launches) (replies : StopBuses) :
    Polled d (d'.latchFault replies) where
  settled := (h.latchFault replies).1
  starts := (starts_latchFault d' replies).trans hstarts
  launches := (calm_releaseBoth d' replies).launches.trans hlaunches
  faulted _ := rfl

theorem Settled.poll (h : d.Settled) (replies : PollReplies) : Polled d (d.poll replies) := by
  have htaken : Calm d (d.clearEvents.interrupted replies.taken) :=
    (calm_clearEvents d).trans (calm_interrupted _ _)
  have hs := h.calm htaken
  rw [PairedDispatch.poll, if_neg (by simp [h.between])]
  dsimp only
  split
  · exact hs.logged.polled_latchFault htaken.starts htaken.launches _
  · have hleft := hs.finish_reported (d.txEvents .left) .left replies.left
    split
    · next left heq =>
      rw [heq] at hleft
      exact hleft.logged.polled_latchFault (hleft.starts.trans htaken.starts)
        (hleft.launches.trans htaken.launches) _
    · next left heq =>
      rw [heq] at hleft
      have hbetween := calm_interrupted replies.between left
      have hs' := (hleft.settled rfl).calm hbetween
      have hright := hs'.finish_reported (d.txEvents .right) .right replies.right
      have hstarts : (left.interrupted replies.between).starts = d.starts :=
        (hbetween.starts.trans hleft.starts).trans htaken.starts
      have hlaunches : (left.interrupted replies.between).launches = d.launches :=
        (hbetween.launches.trans hleft.launches).trans htaken.launches
      split
      · next right heq =>
        rw [heq] at hright
        exact hright.logged.polled_latchFault (hright.starts.trans hstarts)
          (hright.launches.trans hlaunches) _
      · next right heq =>
        rw [heq] at hright
        refine ⟨hright.settled rfl, hright.starts.trans hstarts, hright.launches.trans hlaunches,
          fun hfault => ?_⟩
        rw [hright.faulted, hbetween.record, hleft.faulted, htaken.record]
        exact hfault

/-! ## 6. Launches -/

/-- Both leases of a launch are held. -/
theorem reserved_of_owns (hleft : (d.gate .left).owner.owns (d.token .left))
    (hright : (d.gate .right).owner.owns (d.token .right)) : d.reserved = true := by
  rw [reserved, hleft, hright]
  rfl

theorem owns_mayTransmit (build : TransportBuild) (ids : MobileIds) (left : Bool) (o : Owner)
    (token : Tick) (data : List Byte) (asked : Tick) :
    (o.mayTransmit build ids left token data).1.owns asked = o.owns asked := by
  rw [Owner.mayTransmit]
  split_ifs <;> rfl

/-- What a transfer that is asked for leaves; `true` is a started one. -/
structure Asked (d : PairedDispatch) (uart : ServoUart)
    (result : PairedDispatch × Bool) : Prop where
  record : result.1.record = d.record
  launches : result.1.launches = d.launches
  completions : result.1.completions = d.completions
  token : result.1.token = d.token
  owns : ∀ arm asked, (result.1.gate arm).owner.owns asked = (d.gate arm).owner.owns asked
  later : ∀ arm, (d.gate arm).Later (result.1.gate arm)
  starts : result.1.starts =
    if result.2 then ⟨d.launches, uart, d.reserved⟩ :: d.starts else d.starts

theorem asked_transmitDma (d : PairedDispatch) (build : DispatchBuild) (uart : ServoUart)
    (packet : List Byte) (started : Bool) :
    Asked d uart (d.transmitDma build uart packet started) := by
  have hgate : ∀ arm, (d.gate arm).Later ((d.setGate uart ((d.gate uart).transmit build.transport
      build.ids (uart = .left) (d.token uart) packet (!started))).gate arm) :=
    (calm_setGate (Gate.later_transmit _ _ _ _ _ _ _)).later
  have howns : ∀ arm asked, ((d.setGate uart ((d.gate uart).transmit build.transport build.ids
      (uart = .left) (d.token uart) packet (!started))).gate arm).owner.owns asked =
        (d.gate arm).owner.owns asked := by
    intro arm asked
    by_cases h : arm = uart
    · rw [h, gate_setGate_self, Gate.owner_transmit, owns_mayTransmit]
    · rw [gate_setGate_of_ne d h]
  rw [transmitDma]
  split
  · exact ⟨rfl, rfl, rfl, rfl, howns, hgate, rfl⟩
  · exact ⟨rfl, rfl, rfl, rfl, howns, hgate, rfl⟩

theorem reserved_onUart (d : PairedDispatch) (event : UartEvent) :
    (d.onUart event).reserved = d.reserved := by
  cases event with
  | txComplete uart ready =>
    rw [onUart, onTxComplete]
    split <;> rfl
  | error uart =>
    rw [onUart, onUartError]
    split <;> rfl

theorem reserved_interrupted (events : List UartEvent) :
    ∀ d : PairedDispatch, (d.interrupted events).reserved = d.reserved := by
  induction events with
  | nil => exact fun d => rfl
  | cons event events ih => exact fun d => (ih _).trans (reserved_onUart d event)

variable {result : PairedDispatch × Bool}

theorem Asked.reserved (h : Asked d uart result) : result.1.reserved = d.reserved := by
  rw [PairedDispatch.reserved, PairedDispatch.reserved, h.owns, h.owns, h.token]

/-- A transfer under both leases may be logged. -/
theorem Asked.logged (h : Asked d uart result) (hd : d.Logged) (hreserved : d.reserved = true) :
    result.1.Logged where
  reserved := by
    rw [h.starts]
    split
    · rintro start (_ | ⟨_, hstart⟩)
      · exact hreserved
      · exact hd.reserved start hstart
    · exact hd.reserved
  tokens := by
    rw [h.record]
    exact Nat.le_trans hd.tokens (h.later .left)

theorem dispatchBegin_ok {record : BimanualDispatch} {left right : BitVec 32}
    (h : dispatchBegin record left right = (record', .ok)) :
    record.faulted = false ∧ record' =
      { record with
        leftComplete := false
        rightComplete := false
        active := true
        launchCount := record.launchCount + 1 } := by
  rw [dispatchBegin] at h
  split_ifs at h with hfault hactive hlate
  · cases h
  · cases h
  · cases h
  · exact ⟨Bool.eq_false_iff.mpr hfault, (Prod.mk.inj h).1.symm⟩

/-- A dispatcher that has both leases of a launch and has started nothing for it. -/
structure Leased (d : PairedDispatch) : Prop where
  logged : d.Logged
  paired : ∀ launch, d.Started launch .left ↔ d.Started launch .right
  counted : d.Counted
  idle : d.record.active = false
  reserved : d.reserved = true
  room : d.record.launchCount.toNat + 1 ≤ (d.gate .left).owner.token.toNat

/-- Both packets are started, and the pair is under way. -/
theorem Leased.begun (h : d.Leased) {record : BimanualDispatch} {left right : BitVec 32}
    (hrecord : d'.record = d.record) (hbegin : dispatchBegin d'.record left right = (record, .ok))
    (hcompletions : d'.completions = d.completions)
    (hlater : (d.gate .left).Later (d'.gate .left))
    (hstarts : d'.starts =
      ⟨d.launches, .right, true⟩ :: ⟨d.launches, .left, true⟩ :: d.starts) :
    Settled { d' with record := record, launchInProgress := false } := by
  obtain ⟨_, rfl⟩ := dispatchBegin_ok hbegin
  have hlast := (d.gate .left).owner.token.isLt
  have hone : (1 : BitVec 32).toNat = 1 := rfl
  have hcount : (d'.record.launchCount + 1).toNat = d.record.launchCount.toNat + 1 := by
    have hroom := h.room
    rw [hrecord, BitVec.toNat_add, hone]
    omega
  have hlaunched := h.counted.launched
  rw [underWay, h.idle, if_neg Bool.false_ne_true, Nat.add_zero] at hlaunched
  have hlogged : ∀ start ∈ d'.starts, start.reserved = true := by
    rw [hstarts]
    rintro start (_ | ⟨_, _ | ⟨_, hstart⟩⟩)
    · rfl
    · rfl
    · exact h.logged.reserved start hstart
  exact
    { logged :=
        { reserved := hlogged
          tokens := by
            rw [hcount]
            exact Nat.le_trans h.room hlater }
      between := rfl
      paired := by
        intro _ launch
        have hpaired := h.paired launch
        simp only [Started, hstarts] at hpaired ⊢
        simp only [List.exists_mem_cons_iff, hpaired, and_true, reduceCtorEq, and_false, false_or]
      counted := fun _ =>
        { launched := by
            rw [hcount, hlaunched]
            simp [underWay, hrecord]
          completions := by
            intro arm
            have hold := h.counted.completions arm
            rw [h.idle, Bool.false_and, if_neg Bool.false_ne_true, Nat.add_zero] at hold
            rw [hcompletions, hold]
            cases arm <;> simp [armComplete, hrecord] }
      waiting := fun _ => rfl }

/-- **From both leases on, a launch ends with both packets started or with a fault.** -/
theorem Leased.startPair (h : d.Leased) (build : DispatchBuild) (c : LaunchCall)
    (leftPacket rightPacket : List Byte) :
    (d.startPair build c leftPacket rightPacket).1.Settled ∧
      (d.startPair build c leftPacket rightPacket).2 ≠ .busy := by
  have hleft := asked_transmitDma d build .left leftPacket c.leftStarted
  have hlogged := hleft.logged h.logged h.reserved
  rw [PairedDispatch.startPair]
  split
  · next asked heq =>
    rw [heq] at hlogged
    exact ⟨(hlogged.latchFault _).1, by simp⟩
  · next left heq =>
    rw [heq] at hleft hlogged
    have hbehind := calm_interrupted c.behindLeft left
    have hlogged' := hlogged.calm hbehind
    dsimp only
    split
    · have hinjected : Logged { left.interrupted c.behindLeft with injectionConsumed := true } :=
        ⟨hlogged'.reserved, hlogged'.tokens⟩
      exact ⟨(hinjected.latchFault _).1, by simp⟩
    · have hreserved : (left.interrupted c.behindLeft).reserved = true := by
        rw [reserved_interrupted, hleft.reserved, h.reserved]
      have hright := asked_transmitDma (left.interrupted c.behindLeft) build .right rightPacket
        c.rightStarted
      have hlogged'' := hright.logged hlogged' hreserved
      split
      · next asked heq =>
        rw [heq] at hlogged''
        exact ⟨(hlogged''.latchFault _).1, by simp⟩
      · next right heq =>
        rw [heq] at hright hlogged''
        have hend := calm_interrupted c.behindRight right
        split
        · next record hbegin =>
          have hrecord : (right.interrupted c.behindRight).record = d.record := by
            rw [hend.record, hright.record, hbehind.record, hleft.record]
          have hsettled := h.begun hrecord hbegin ?_ ?_ ?_
          · have hpolled := hsettled.poll c.last
            refine ⟨hpolled.settled, ?_⟩
            dsimp only
            split <;> simp
          · rw [hend.completions, hright.completions, hbehind.completions, hleft.completions]
          · exact (((hleft.later .left).trans (hbehind.later .left)).trans
              (hright.later .left)).trans (hend.later .left)
          · rw [hend.starts, hright.starts, if_pos rfl, hbehind.launches, hleft.launches,
              hbehind.starts, hleft.starts, if_pos rfl, hreserved, h.reserved]
        · exact ⟨((hlogged''.calm hend).latchFault _).1, by simp⟩

theorem begin_some {ready : Bool} {token : Tick} (h : d.begin uart ready = (d', some token)) :
    (d'.gate uart).owner.owns token = true ∧
      (d'.gate uart).owner.token.toNat = (d.gate uart).owner.token.toNat + 1 ∧
      (∀ other, other ≠ uart → d'.gate other = d.gate other) ∧ d'.token = d.token := by
  rw [PairedDispatch.begin] at h
  obtain ⟨hd, htoken⟩ := Prod.mk.inj h
  subst hd
  rw [gate_setGate_self, Gate.owner_give]
  rcases hbegin : (d.gate uart).owner.begin .arm ready with ⟨owner, given⟩
  rw [hbegin] at htoken
  cases given with
  | none => cases htoken
  | some given =>
    obtain rfl : given = token := Option.some.inj htoken
    obtain ⟨howns, hnext⟩ := Owner.begin_eq_some hbegin
    exact ⟨howns, hnext, fun other hne => gate_setGate_of_ne d hne _, rfl⟩

/-- Both leases are taken in front of the first start; a bus that is not free leaves the launch
without one. -/
theorem Settled.reserveAndStart (h : d.Settled) (hfree : dispatchCanLaunch d.record = true)
    (build : DispatchBuild) (c : LaunchCall) (leftPacket rightPacket : List Byte) :
    (d.reserveAndStart build c leftPacket rightPacket).1.Settled ∧
      ((d.reserveAndStart build c leftPacket rightPacket).2 = .busy →
        (d.reserveAndStart build c leftPacket rightPacket).1.starts = d.starts ∧
          (d.reserveAndStart build c leftPacket rightPacket).1.record = d.record) := by
  have hleft := calm_begin d .left c.leftReady
  rw [PairedDispatch.reserveAndStart]
  split
  · next left heq =>
    rw [heq] at hleft
    exact ⟨h.calm hleft, fun _ => ⟨hleft.starts, hleft.record⟩⟩
  · next left token heq =>
    rw [heq] at hleft
    obtain ⟨howns, hnext, _, _⟩ := begin_some heq
    have htoken := hleft.trans (calm_token left (Function.update left.token .left token))
    dsimp only
    have hright := htoken.trans (calm_begin _ .right c.rightReady)
    split
    · next right heq =>
      rw [heq] at hright
      have hback := hright.trans (calm_releaseBus right .left false c.giveBack)
      exact ⟨h.calm hback, fun _ => ⟨hback.starts, hback.record⟩⟩
    · next right other heq =>
      rw [heq] at hright
      obtain ⟨howns', _, hothers, htokens⟩ := begin_some heq
      simp only [dispatchCanLaunch, Bool.and_eq_true, Bool.not_eq_true'] at hfree
      obtain ⟨hidle, hfault⟩ := hfree
      have hsettled := h.calm hright
      have hfault' : right.record.faulted = false := by
        rw [hright.record]
        exact hfault
      have hleased : Leased { ({ right with
          token := Function.update right.token .right other } : PairedDispatch).clearEvents with
            launchInProgress := true } :=
        { logged := ⟨hsettled.logged.reserved, hsettled.logged.tokens⟩
          paired := hsettled.paired hfault'
          counted := ⟨(hsettled.counted hfault').launched, (hsettled.counted hfault').completions⟩
          idle := (congrArg _ hright.record).trans hidle
          reserved := by
            refine reserved_of_owns ?_ ?_
            · change (right.gate .left).owner.owns (Function.update right.token .right other .left)
              rw [Function.update_of_ne ServoUart.noConfusion, htokens,
                hothers .left ServoUart.noConfusion]
              change (left.gate .left).owner.owns (Function.update left.token .left token .left)
              rw [Function.update_self]
              exact howns
            · change (right.gate .right).owner.owns
                (Function.update right.token .right other .right)
              rw [Function.update_self]
              exact howns'
          room := by
            change right.record.launchCount.toNat + 1 ≤ (right.gate .left).owner.token.toNat
            rw [hright.record, hothers .left ServoUart.noConfusion]
            change _ ≤ (left.gate .left).owner.token.toNat
            rw [hnext]
            exact Nat.succ_le_succ h.logged.tokens }
      obtain ⟨hstarted, hanswer⟩ := hleased.startPair build c leftPacket rightPacket
      exact ⟨hstarted, fun hbusy => absurd hbusy hanswer⟩

/-- What a launch leaves. -/
structure Launched (d : PairedDispatch) (result : PairedDispatch × HalStatus) : Prop where
  settled : result.1.Settled
  busy : result.2 = .busy → result.1.starts = d.starts ∧ result.1.record.faulted = false
  faulted : d.record.faulted = true → result.1.starts = d.starts ∧ result.1.record.faulted = true

theorem Settled.launch (h : d.Settled) (build : DispatchBuild) (c : LaunchCall) :
    Launched d (d.launch build c) := by
  have hnumbered : d.numbered.Settled :=
    ⟨⟨h.logged.reserved, h.logged.tokens⟩, h.between, h.paired,
      fun hfault => ⟨(h.counted hfault).launched, (h.counted hfault).completions⟩, h.waiting⟩
  have hpolled := hnumbered.poll c.first
  have hrefused : Launched d ((d.numbered.poll c.first).fail, .error) := by
    refine ⟨?_, fun hbusy => HalStatus.noConfusion hbusy, fun _ => ⟨hpolled.starts, rfl⟩⟩
    exact hpolled.settled.logged.fail.settled_of_faulted hpolled.settled.between rfl rfl
  rw [PairedDispatch.launch]
  split
  · exact hrefused
  · next hfree =>
    have hfree' : dispatchCanLaunch (d.numbered.poll c.first).record = true := by
      simpa using hfree
    have hfault : (d.numbered.poll c.first).record.faulted = false := by
      simp only [dispatchCanLaunch, Bool.and_eq_true, Bool.not_eq_true'] at hfree'
      exact hfree'.2
    split
    · next leftPacket rightPacket _ _ =>
      obtain ⟨hsettled, hbusy⟩ :=
        hpolled.settled.reserveAndStart hfree' build c leftPacket rightPacket
      refine ⟨hsettled, fun h => ?_, fun h => ?_⟩
      · obtain ⟨hstarts, hrecord⟩ := hbusy h
        exact ⟨hstarts.trans hpolled.starts, (congrArg _ hrecord).trans hfault⟩
      · have hstill := hpolled.faulted h
        rw [hfault] at hstill
        cases hstill
    · exact hrefused

/-! ## 7. Runs -/

theorem calm_transport (d : PairedDispatch) (build : DispatchBuild) (event : TransportEvent) :
    Calm d { d with transport := d.transport.step build.transport build.ids event } :=
  ⟨rfl, rfl, rfl, rfl, rfl, fun uart => ServoTransport.later_step _ _ _ _ uart⟩

theorem settled_init (d : PairedDispatch) : d.init.Settled where
  logged := ⟨by simp [init], Nat.zero_le _⟩
  between := rfl
  paired := by simp [init, Started]
  counted _ := ⟨rfl, fun arm => by cases arm <;> rfl⟩
  waiting h := by cases h

theorem settled_boot : boot.Settled where
  logged := ⟨by simp [boot], Nat.zero_le _⟩
  between := rfl
  paired := by simp [boot, Started]
  counted _ := ⟨rfl, fun arm => by cases arm <;> rfl⟩
  waiting h := by cases h

theorem settled_step (build : DispatchBuild) (d : PairedDispatch) (event : DispatchEvent)
    (h : d.Settled) : (d.step build event).Settled := by
  cases event with
  | launch c => exact (h.launch build c).settled
  | poll replies => exact (h.poll replies).settled
  | stop replies => exact h.stop replies
  | latchFault replies => exact (h.logged.latchFault replies).1
  | uart event => exact h.calm (calm_onUart d event)
  | transport event => exact h.calm (calm_transport d build event)
  | init => exact settled_init d

/-- **A faulted dispatcher starts nothing, and stays faulted, until Init.** -/
theorem starts_of_faulted (h : d.Settled) (hfault : d.record.faulted = true)
    {event : DispatchEvent} (hinit : event ≠ .init) :
    (d.step build event).starts = d.starts ∧ (d.step build event).record.faulted = true := by
  cases event with
  | launch c => exact (h.launch build c).faulted hfault
  | poll replies => exact ⟨(h.poll replies).starts, (h.poll replies).faulted hfault⟩
  | stop replies =>
    have hcalm := calm_releaseBoth d replies
    have hstarts : (d.releaseBoth replies).starts = d.starts := hcalm.starts
    have hstill : (d.releaseBoth replies).record.faulted = true := by
      rw [hcalm.record]
      exact hfault
    simp only [step, stop]
    split
    · exact ⟨hstarts, rfl⟩
    · exact ⟨hstarts, hstill⟩
  | latchFault replies => exact ⟨starts_latchFault d replies, rfl⟩
  | uart event =>
    have hcalm := calm_onUart d event
    exact ⟨hcalm.starts, (congrArg _ hcalm.record).trans hfault⟩
  | transport event => exact ⟨rfl, hfault⟩
  | init => exact absurd rfl hinit

theorem settled_run (build : DispatchBuild) (l : List DispatchEvent) :
    (run (step build) boot l).Settled :=
  run_invariant_all (fun d event => settled_step build d event) l settled_boot

theorem starts_run_of_faulted (build : DispatchBuild) (h : d.Settled)
    (hfault : d.record.faulted = true) (l : List DispatchEvent) (hl : ∀ event ∈ l, event ≠ .init) :
    (run (step build) d l).starts = d.starts ∧
      (run (step build) d l).record.faulted = true := by
  have hstep : ∀ d' event, (d'.Settled ∧ d'.starts = d.starts ∧ d'.record.faulted = true) →
      event ≠ .init → ((step build d' event).Settled ∧ (step build d' event).starts = d.starts ∧
        (step build d' event).record.faulted = true) := by
    rintro d' event ⟨hd, hstarts, hfault⟩ hinit
    obtain ⟨hsame, hstill⟩ := starts_of_faulted hd hfault hinit
    exact ⟨settled_step build d' event hd, hsame.trans hstarts, hstill⟩
  exact (run_invariant hstep l ⟨h, rfl, hfault⟩ (along_of_forall (fun _ => hl) d)).2

/-- **Both arms or a fault**, after any calls and interrupts. -/
theorem both_arms_or_fault (build : DispatchBuild) (l : List DispatchEvent) :
    (run (step build) boot l).Sound ∧
      (∀ c, ((run (step build) boot l).launch build c).2 = .busy →
        ((run (step build) boot l).launch build c).1.starts = (run (step build) boot l).starts ∧
          ((run (step build) boot l).launch build c).1.record.faulted = false) ∧
      ((run (step build) boot l).record.faulted = true →
        ∀ after, (∀ event ∈ after, event ≠ .init) →
          (run (step build) boot (l ++ after)).starts = (run (step build) boot l).starts ∧
            (run (step build) boot (l ++ after)).record.faulted = true) := by
  have h := settled_run build l
  refine ⟨h.sound, fun c => (h.launch build c).busy, fun hfault after hafter => ?_⟩
  rw [run_append]
  exact starts_run_of_faulted build h hfault after hafter

end PairedDispatch

end MobileBimanual.Firmware
