/-
# The lift endpoint

`lift_endpoint.c` in full: the host's lease on the lift.  A request is an `AL` packet of 36 bytes;
the answer is an `LS` status of 64 bytes, with the opcode's top bit set when the request was
refused.  Homing and moving need the lease, a newer sequence and the interlocks; a lease that
runs out, or an interlock that opens, faults the lift.
-/
import MobileBimanual.Mobile.Lift
import MobileBimanual.Wire.Crc

namespace MobileBimanual.Mobile

open MobileBimanual.Stream (Byte Tick readU32Le writeU32Le)
open MobileBimanual.Wire (crc32c)

/-! ## 1. The record -/

structure LiftInterlock where
  observedMs : Tick
  baseStopped : Bool
  armsSafe : Bool
  modeOk : Bool
  hardwareOk : Bool

structure LiftEndpoint where
  lift : Lift
  interlock : LiftInterlock
  bootId : Tick
  session : Tick
  sequence : Tick
  validUntilMs : Tick
  leaseMaxMs : Tick
  rejected : Tick
  active : Bool
  haveInterlock : Bool
  transportReady : Bool

inductive LiftOp where
  | home
  | move
  | cancel
  | status
  | keepalive
  | reset
  deriving DecidableEq

def LiftOp.ofByte? (byte : Byte) : Option LiftOp :=
  match byte.toNat with
  | 1 => some .home
  | 2 => some .move
  | 3 => some .cancel
  | 4 => some .status
  | 5 => some .keepalive
  | 6 => some .reset
  | _ => none

/-- The fields of an `AL` packet. -/
structure LiftRequest where
  op : LiftOp
  session : Tick
  sequence : Tick
  deadlineMs : Tick
  targetUm : Int
  bootId : Tick
  clean : Bool

namespace LiftEndpoint

/-! ## 2. The operations -/

def init (lift : Lift) (bootId leaseMaxMs : Tick) : Option LiftEndpoint :=
  if !lift.configured || bootId == 0 || leaseMaxMs == 0 || 1000 < leaseMaxMs then none
  else
    some
      { lift
        interlock :=
          { observedMs := 0, baseStopped := false, armsSafe := false, modeOk := false
            hardwareOk := false }
        bootId
        session := 0
        sequence := 0
        validUntilMs := 0
        leaseMaxMs
        rejected := 0
        active := false
        haveInterlock := false
        transportReady := false }

def interlocked (e : LiftEndpoint) (nowMs : Tick) : Bool :=
  e.transportReady && e.haveInterlock &&
    nowMs - e.interlock.observedMs < e.lift.config.feedbackTimeoutMs &&
    e.interlock.baseStopped && e.interlock.armsSafe && e.interlock.modeOk && e.interlock.hardwareOk

/-- Every global stop calls it: the ownership ends, the home reference stays. -/
def stop (e : LiftEndpoint) : LiftEndpoint := { e with lift := e.lift.cancel, active := false }

def poll (e : LiftEndpoint) (nowMs : Tick) : LiftEndpoint :=
  let e := { e with lift := e.lift.poll nowMs }
  let remaining := e.validUntilMs - nowMs
  if !e.active then e
  else if remaining == 0 || e.leaseMaxMs < remaining || !e.interlocked nowMs then
    { e with lift := e.lift.inhibit .badFeedback, active := false }
  else if e.lift.state = .holding || e.lift.state = .fault then { e with active := false }
  else e

/-- Homing and moving: the lift itself has the last word. -/
def engage (e : LiftEndpoint) (request : LiftRequest) (nowMs : Tick) : LiftEndpoint × Bool :=
  let (lift, ok) :=
    match request.op with
    | .move => e.lift.move request.targetUm nowMs
    | _ => e.lift.home nowMs
  if ok then
    ({ e with
        lift
        active := true
        session := request.session
        sequence := request.sequence
        validUntilMs := request.deadlineMs }, true)
  else ({ e with lift }, false)

/-- What an opcode of a running session needs. -/
def permits (e : LiftEndpoint) (op : LiftOp) (nowMs : Tick) : Bool :=
  match op with
  | .keepalive => e.active && e.interlocked nowMs
  | .reset =>
    !e.active && e.interlocked nowMs && e.lift.haveSample &&
      nowMs - e.lift.observedMs < e.lift.config.feedbackTimeoutMs && e.lift.feedback.healthy &&
      e.lift.stopped
  | _ => true

/-- Cancelling, keeping alive and resetting. -/
def attend (e : LiftEndpoint) (request : LiftRequest) (nowMs : Tick) : LiftEndpoint × Bool :=
  if request.session != e.session || request.sequence ≤ e.sequence ||
      !e.permits request.op nowMs then (e, false)
  else
    let e :=
      match request.op with
      | .cancel => e.stop
      | .reset => { e with lift := e.lift.reset }
      | _ => e
    ({ e with sequence := request.sequence, validUntilMs := request.deadlineMs }, true)

/-- The request is for this boot and leaves the unused bytes clear. -/
def addressed (e : LiftEndpoint) (request : LiftRequest) : Bool :=
  request.clean && request.session != 0 && request.bootId == e.bootId &&
    (request.op = .move || request.targetUm == 0)

/-- The lease asked for is positive and not too long. -/
def leased (e : LiftEndpoint) (request : LiftRequest) (nowMs : Tick) : Bool :=
  let remaining := request.deadlineMs - nowMs
  remaining != 0 && remaining ≤ e.leaseMaxMs

/-- The session is new, or the sequence is. -/
def advances (e : LiftEndpoint) (request : LiftRequest) : Bool :=
  (request.session == e.session && e.sequence < request.sequence) || e.session < request.session

def answer (e : LiftEndpoint) (request : LiftRequest) (nowMs : Tick) : LiftEndpoint × Bool :=
  if !e.addressed request then (e, false)
  else if request.op = .status then (e, request.deadlineMs == 0)
  else if !e.leased request nowMs then (e, false)
  else if request.op = .home || request.op = .move then
    if e.active || !e.interlocked nowMs || !e.advances request then (e, false)
    else e.engage request nowMs
  else e.attend request nowMs

def parse (packet : List Byte) : Option LiftRequest :=
  if packet.length != 36 || packet.getD 0 0 != 0x41 || packet.getD 1 0 != 0x4C ||
      packet.getD 2 0 != 1 || readU32Le packet 32 != crc32c (packet.take 32) then none
  else
    (LiftOp.ofByte? (packet.getD 3 0)).map fun op =>
      { op
        session := readU32Le packet 4
        sequence := readU32Le packet 8
        deadlineMs := readU32Le packet 12
        targetUm := (readU32Le packet 16).toInt
        bootId := readU32Le packet 20
        clean := ((packet.drop 24).take 8).all (· == 0) }

def opByte : LiftOp → Byte
  | .home => 1
  | .move => 2
  | .cancel => 3
  | .status => 4
  | .keepalive => 5
  | .reset => 6

def stateByte : LiftState → Byte
  | .unhomed => 0
  | .homing => 1
  | .ready => 2
  | .moving => 3
  | .holdPending => 4
  | .holding => 5
  | .fault => 6

def faultByte : LiftFault → Byte
  | .ok => 0
  | .badFeedback => 1
  | .timeout => 2
  | .encoderJump => 3
  | .travelLimit => 4
  | .overCurrent => 5

def flagsByte (e : LiftEndpoint) (nowMs : Tick) : Byte :=
  (if e.lift.homed then 1 else 0) ||| (if e.active then 2 else 0) |||
    (if e.interlocked nowMs then 4 else 0) ||| (if e.lift.haveSample then 8 else 0) |||
    (if e.lift.state = .holding then 16 else 0)

/-- The `LS` status. -/
def status (e : LiftEndpoint) (request : LiftRequest) (ok : Bool) (nowMs : Tick) : List Byte :=
  let body :=
    [0x4C, 0x53, 1, if ok then opByte request.op else opByte request.op ||| 0x80] ++
      writeU32Le request.sequence ++ writeU32Le nowMs ++ writeU32Le e.bootId ++
      writeU32Le e.session ++ writeU32Le e.sequence ++
      [stateByte e.lift.state, faultByte e.lift.fault, e.flagsByte nowMs, 0] ++
      writeU32Le e.lift.observedMs ++ writeU32Le (BitVec.ofInt 32 e.lift.heightUm) ++
      writeU32Le (BitVec.ofInt 32 e.lift.targetUm) ++
      writeU32Le (BitVec.ofInt 32 e.lift.commandRaw) ++
      writeU32Le (BitVec.ofInt 32 e.lift.feedback.currentMa) ++
      writeU32Le (BitVec.ofNat 32 e.lift.previousRaw) ++ writeU32Le e.rejected ++
      writeU32Le e.validUntilMs
  body ++ writeU32Le (crc32c body)

def countRejected (e : LiftEndpoint) (ok : Bool) : LiftEndpoint :=
  if !ok && e.rejected != 0xFFFFFFFF then { e with rejected := e.rejected + 1 } else e

/-- A packet that does not parse is not answered and changes nothing. -/
def exchange (e : LiftEndpoint) (packet : List Byte) (nowMs : Tick) :
    LiftEndpoint × Option (List Byte) :=
  match parse packet with
  | none => (e, none)
  | some request =>
    let (e, ok) := (e.poll nowMs).answer request nowMs
    let e := e.countRejected ok
    (e, some (e.status request ok nowMs))

/-! ## 3. What it does to the lift -/

/-- A property of the lift that the controller's operations keep. -/
structure Keeps (P : Lift → Prop) : Prop where
  poll : ∀ l now, P l → P (l.poll now)
  home : ∀ l now, P l → P (l.home now).1
  move : ∀ l height now, P l → P (l.move height now).1
  cancel : ∀ l, P l → P l.cancel
  reset : ∀ l, P l → P l.reset
  inhibit : ∀ l reason, P l → P (l.inhibit reason)

namespace Keeps

variable {P : Lift → Prop} {e : LiftEndpoint}

theorem stop (k : Keeps P) (h : P e.lift) : P e.stop.lift := k.cancel _ h

theorem endpointPoll (k : Keeps P) (h : P e.lift) (now : Tick) : P (e.poll now).lift := by
  have hpoll := k.poll _ now h
  unfold LiftEndpoint.poll
  dsimp only
  split_ifs
  · exact hpoll
  · exact k.inhibit _ _ hpoll
  · exact hpoll
  · exact hpoll

theorem engage (k : Keeps P) (h : P e.lift) (request : LiftRequest) (now : Tick) :
    P (e.engage request now).1.lift := by
  have hlift : ∀ result : Lift × Bool, P result.1 →
      P (if result.2 then
          ({ e with
              lift := result.1
              active := true
              session := request.session
              sequence := request.sequence
              validUntilMs := request.deadlineMs }, true)
        else ({ e with lift := result.1 }, false)).1.lift := by
    intro result hresult
    split
    · exact hresult
    · exact hresult
  unfold LiftEndpoint.engage
  cases request.op with
  | move => exact hlift (e.lift.move request.targetUm now) (k.move _ _ _ h)
  | _ => exact hlift (e.lift.home now) (k.home _ _ h)

theorem attend (k : Keeps P) (h : P e.lift) (request : LiftRequest) (now : Tick) :
    P (e.attend request now).1.lift := by
  unfold LiftEndpoint.attend
  split
  · exact h
  · cases request.op with
    | cancel => exact k.cancel _ h
    | reset => exact k.reset _ h
    | _ => exact h

theorem answer (k : Keeps P) (h : P e.lift) (request : LiftRequest) (now : Tick) :
    P (e.answer request now).1.lift := by
  unfold LiftEndpoint.answer
  split_ifs
  · exact h
  · exact h
  · exact h
  · exact h
  · exact k.engage h request now
  · exact k.attend h request now

/-- **An exchange is made of the controller's operations.** -/
theorem exchange (k : Keeps P) (h : P e.lift) (packet : List Byte) (now : Tick) :
    P (e.exchange packet now).1.lift := by
  unfold LiftEndpoint.exchange
  split
  · exact h
  · rename_i request _
    have hanswer := k.answer (k.endpointPoll h now) request now
    have hcount : ∀ (e : LiftEndpoint) (ok : Bool), (e.countRejected ok).lift = e.lift := by
      intro e ok
      unfold countRejected
      split <;> rfl
    simp only [hcount]
    exact hanswer

end Keeps

theorem keeps_settled (truth : Prop) : Keeps (Lift.Settled truth) where
  poll _ now h := h.poll now
  home _ now h := h.home now
  move _ height now h := h.move height now
  cancel _ h := h.cancel
  reset _ h := h.reset
  inhibit _ reason h := h.inhibit reason

end LiftEndpoint

end MobileBimanual.Mobile
