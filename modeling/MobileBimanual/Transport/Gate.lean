/-
# The transport gate

The first half of `servo_transport.c`: the owner record of one physical UART and the calls that
take a lease of it, send under it and end it.  The calls are those on a registered handle; what
the HAL answers is an argument of the call that asks: `ready` says that the transmitter is READY
and the line not BUSY, `aborted` that an abort succeeded.

Which packets a lease may send depends on the image; `admits` has the packet checks of all of
them.
-/
import MobileBimanual.Bus.Router
import MobileBimanual.Mobile.Packet

namespace MobileBimanual.Transport

open MobileBimanual.Stream (Byte Tick)
open MobileBimanual.Bus (Work lastToken)
open MobileBimanual.Mobile (MobileIds)

/-! ## 1. The owner record -/

/-- The two servo UARTs. -/
inductive ServoUart where
  | left
  | right
  deriving DecidableEq

inductive HalStatus where
  | ok
  | error
  | busy
  | timeout
  deriving DecidableEq

/-- `ServoTransportOwner`, of a registered UART. -/
structure Owner where
  token : Tick
  kind : Work
  active : Bool
  stopRequired : Bool
  transmitAllowed : Bool
  readOnly : Bool
  readSent : Bool

namespace Owner

def free : Owner where
  token := 0
  kind := .stop
  active := false
  stopRequired := false
  transmitAllowed := false
  readOnly := false
  readSent := false

variable (o : Owner)

def owns (token : Tick) : Bool := o.active && token != 0 && o.token == token

def idle (ready : Bool) : Bool := !o.active && !o.stopRequired && ready

def requestStop : Owner := { o with stopRequired := true }

/-! ## 2. Taking and ending a lease -/

/-- `ServoTransport_Begin`; the kind is a number below `ACTUATOR_BUS_WORK_COUNT`. -/
def begin (kind : Work) (ready : Bool) : Owner × Option Tick :=
  if o.active || !ready || (o.stopRequired && kind != .stop) || o.token == lastToken then (o, none)
  else
    ({ o with
        token := o.token + 1
        kind
        active := true
        stopRequired := o.stopRequired || kind == .stop
        transmitAllowed := true
        readOnly := false
        readSent := false }, some (o.token + 1))

/-- A cleanup lease is taken whatever the line does, and cannot send. -/
def beginCleanup : Owner × Option Tick :=
  if o.active || o.token == lastToken then (o, none)
  else
    ({ o with
        token := o.token + 1
        kind := .feedback
        active := true
        transmitAllowed := false }, some (o.token + 1))

def beginReadOnly (ready : Bool) : Owner × Option Tick :=
  if o.active || o.token == lastToken || !ready then (o, none)
  else
    ({ o with
        token := o.token + 1
        kind := .feedback
        active := true
        transmitAllowed := true
        readOnly := true
        readSent := false }, some (o.token + 1))

/-- `ServoTransport_End` -/
def endLease (token : Tick) (abortTx aborted ready : Bool) : Owner × HalStatus :=
  if !o.owns token then (o, .error)
  else if abortTx && !aborted then (o, .error)
  else if !ready then (o, .busy)
  else ({ o with active := false }, .ok)

end Owner

/-! ## 3. The packets of an image -/

/-- The images, by the flag they are built with; calibration stands for its two flags, and the
wheel pulse for the base teleoperation too. -/
inductive TransportBuild where
  | standard
  | s2Observer
  | liftTeleop (bidirectional : Bool)
  | s1RangeVerify
  | calibration
  | wheelPulse
  | wheelSetup
  | busInspection
  deriving DecidableEq

section Packets

variable (ids : MobileIds) (data : List Byte)

def byteAt (index : Nat) : Byte := data.getD index 0

def wordAt (index : Nat) : Nat := (byteAt data index).toNat

/-- The bytes behind the header add up to 255. -/
def summed : Bool := ((data.drop 2).foldl (fun sum byte => sum + byte.toNat) 0) % 256 == 255

def header : Bool := byteAt data 0 == 255 && byteAt data 1 == 255

/-- Register and count, or register and value. -/
def asks (register count : Byte) : Bool := byteAt data 5 == register && byteAt data 6 == count

def wheel : Bool := (ids.servo 0).toNat ≤ wordAt data 2 && wordAt data 2 ≤ (ids.servo 2).toNat

def mobile : Bool := wheel ids data || byteAt data 2 == ids.liftId

/-- The read that every image allows a read-only lease, unless it has a check of its own. -/
def readPacket : Bool :=
  data.length == 8 && header data && byteAt data 2 != 0 && wordAt data 2 < 254 &&
    byteAt data 3 == 4 && byteAt data 4 == 2 && byteAt data 6 != 0 && wordAt data 6 ≤ 16 &&
    wordAt data 5 + wordAt data 6 ≤ 256 && summed data

def observerPacket (left : Bool) : Bool :=
  data.length == 8 && header data && byteAt data 3 == 4 && byteAt data 4 == 2 &&
    ((1 ≤ wordAt data 2 && wordAt data 2 ≤ 6) || (left && byteAt data 2 == 10)) &&
    (asks data 56 4 || asks data 40 1) && summed data

def liftPacket (bidirectional readOnly : Bool) : Bool :=
  let read := data.length == 8 && byteAt data 4 == 2 &&
    (asks data 0 16 || asks data 16 16 || asks data 32 8 || asks data 3 4 || asks data 33 1 ||
      asks data 40 1 || asks data 55 1 || asks data 46 2 || asks data 56 4 || asks data 56 15)
  let write := !readOnly && byteAt data 4 == 3 &&
    ((data.length == 8 && (asks data 33 1 ||
        ((byteAt data 5 == 40 || byteAt data 5 == 55) && wordAt data 6 ≤ 1))) ||
      (data.length == 9 && byteAt data 5 == 46 &&
        (((byteAt data 6 == 0 || byteAt data 6 == 100) && byteAt data 7 == 0) ||
          (bidirectional && byteAt data 6 == 100 && byteAt data 7 == 128))))
  8 ≤ data.length && data.length ≤ 9 && header data && byteAt data 2 == 10 &&
    wordAt data 3 == data.length - 4 && (read || write) && summed data

def rangePacket : Bool :=
  data.length == 8 && header data && 1 ≤ wordAt data 2 && wordAt data 2 ≤ 6 &&
    byteAt data 3 == 4 && byteAt data 4 == 2 && 1 ≤ wordAt data 6 && wordAt data 6 ≤ 16 &&
    wordAt data 5 + wordAt data 6 ≤ 66 && summed data

def calibrationPacket (readOnly : Bool) : Bool :=
  let read := byteAt data 4 == 2 && 1 ≤ wordAt data 6 && wordAt data 6 ≤ 16 &&
    wordAt data 5 + wordAt data 6 ≤ 66
  let write := !readOnly && byteAt data 4 == 3 && (asks data 40 0 || asks data 40 128)
  data.length == 8 && header data && 1 ≤ wordAt data 2 && wordAt data 2 ≤ 6 &&
    byteAt data 3 == 4 && (read || write) && summed data

/-- The identity of a mobile motor, or of the arm motor known as 1. -/
def identityRead : Bool := (mobile ids data || byteAt data 2 == 1) && asks data 3 4

/-- The checks that the wheel images share. -/
def wheelFrame (read write : Bool) : Bool :=
  8 ≤ data.length && data.length ≤ 9 && header data && wordAt data 3 == data.length - 4 &&
    (read || write) && summed data

def wheelPulsePacket : Bool :=
  let read := data.length == 8 && byteAt data 4 == 2 &&
    (identityRead ids data ||
      (mobile ids data && (asks data 33 1 || asks data 40 1 || asks data 56 2)) ||
      (wheel ids data && (asks data 55 1 || asks data 46 2 || asks data 58 2)))
  let write := wheel ids data && byteAt data 4 == 3 &&
    ((data.length == 8 && byteAt data 5 == 40 && wordAt data 6 ≤ 1) ||
      (data.length == 9 && byteAt data 5 == 46 &&
        ((byteAt data 6 == 0 && byteAt data 7 == 0) ||
          ((byteAt data 6 == 100 || byteAt data 6 == 200) &&
            (byteAt data 7 == 0 || byteAt data 7 == 128)))))
  wheelFrame data read write

def wheelSetupPacket : Bool :=
  let read := data.length == 8 && byteAt data 4 == 2 &&
    (identityRead ids data ||
      (mobile ids data && (asks data 33 1 || asks data 40 1 || asks data 56 2)) ||
      (wheel ids data && (asks data 55 1 || asks data 46 2)))
  let write := wheel ids data && byteAt data 4 == 3 &&
    ((data.length == 8 && ((byteAt data 5 == 55 && wordAt data 6 ≤ 1) || asks data 33 1 ||
        asks data 40 0)) ||
      (data.length == 9 && byteAt data 5 == 46 && byteAt data 6 == 0 && byteAt data 7 == 0))
  wheelFrame data read write

def inspectionPacket : Bool :=
  data.length == 8 &&
    (mobile ids data || (byteAt data 2 == 1 && asks data 3 4)) &&
    (asks data 3 4 || asks data 33 1 || asks data 40 1 || asks data 56 2) && readPacket data

end Packets

/-- What a lease may send in an image.  The wheel images do not ask whether it is read-only. -/
def admits (ids : MobileIds) (left readOnly : Bool) (data : List Byte) : TransportBuild → Bool
  | .standard => !readOnly || readPacket data
  | .s2Observer => observerPacket data left
  | .liftTeleop bidirectional => liftPacket data bidirectional readOnly
  | .s1RangeVerify => rangePacket data
  | .calibration => calibrationPacket data readOnly
  | .wheelPulse => wheelPulsePacket ids data
  | .wheelSetup => wheelSetupPacket ids data
  | .busInspection => inspectionPacket ids data

/-- `may_transmit`.  Only a lease of the standard image that is not read-only may send more than
once. -/
def Owner.mayTransmit (build : TransportBuild) (ids : MobileIds) (left : Bool) (o : Owner)
    (token : Tick) (data : List Byte) : Owner × Bool :=
  if !o.owns token || !o.transmitAllowed || data.isEmpty then (o, false)
  else if build = .standard ∧ o.readOnly = false then (o, true)
  else if o.readSent || !admits ids left o.readOnly data build then (o, false)
  else ({ o with readSent := true }, true)

/-! ## 4. What they do -/

/-- A packet that asks a servo for registers. -/
def IsRead (data : List Byte) : Prop := byteAt data 4 = 2

instance (data : List Byte) : Decidable (IsRead data) := inferInstanceAs (Decidable (_ = _))

/-- The images whose packet check does not look at the lease. -/
def TransportBuild.Lax (build : TransportBuild) : Prop :=
  build = .wheelPulse ∨ build = .wheelSetup

instance (build : TransportBuild) : Decidable build.Lax := inferInstanceAs (Decidable (_ ∨ _))

/-- A read-only lease sends reads, but for the wheel images. -/
theorem isRead_of_admits {ids : MobileIds} {left : Bool} {data : List Byte}
    {build : TransportBuild} (hlax : ¬ build.Lax) (h : admits ids left true data build = true) :
    IsRead data := by
  unfold IsRead
  cases build with
  | standard =>
    simp only [admits, readPacket, Bool.not_true, Bool.false_or, Bool.and_eq_true, beq_iff_eq] at h
    tauto
  | s2Observer =>
    simp only [admits, observerPacket, Bool.and_eq_true, beq_iff_eq] at h
    tauto
  | liftTeleop bidirectional =>
    simp only [admits, liftPacket, Bool.not_true, Bool.false_and, Bool.or_false, Bool.and_eq_true,
      beq_iff_eq] at h
    tauto
  | s1RangeVerify =>
    simp only [admits, rangePacket, Bool.and_eq_true, beq_iff_eq] at h
    tauto
  | calibration =>
    simp only [admits, calibrationPacket, Bool.not_true, Bool.false_and, Bool.or_false,
      Bool.and_eq_true, beq_iff_eq] at h
    tauto
  | wheelPulse => exact absurd (.inl rfl) hlax
  | wheelSetup => exact absurd (.inr rfl) hlax
  | busInspection =>
    simp only [admits, inspectionPacket, readPacket, Bool.and_eq_true, beq_iff_eq] at h
    tauto

theorem Owner.owns_iff {o : Owner} {token : Tick} :
    o.owns token = true ↔ o.active = true ∧ token ≠ 0 ∧ o.token = token := by
  simp [Owner.owns, and_assoc]

end MobileBimanual.Transport
