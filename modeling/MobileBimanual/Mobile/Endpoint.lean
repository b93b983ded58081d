/-
# The mobile endpoint

`mobile_endpoint.c` and `mobile_framed.c` in full.  The endpoint takes `AM` packets of 36 bytes a
byte at a time, slides over what does not frame, and answers every packet with an `AS` status of 64
bytes; the answer repeats the opcode, with its top bit set when the packet was refused.  The framed
route hands it a whole packet at once, and only one with a known opcode.
-/
import MobileBimanual.Mobile.Wire
import MobileBimanual.Wire.Frame

namespace MobileBimanual.Mobile

open MobileBimanual.Stream (Byte Tick readU32Le writeU32Le)
open MobileBimanual.Wire (crc32c)

structure MobileEndpoint where
  supervisor : MobileSupervisor
  bootId : Tick
  rejectedFrames : Tick
  /-- The bytes in use. -/
  buffer : List Byte
  lastByteMs : Tick

/-! ## 1. The status -/

def MobileState.toByte : MobileState → Byte
  | .disabled => 0
  | .ready => 1
  | .active => 2
  | .stopLatched => 3

def MobileReason.toByte : MobileReason → Byte
  | .none => 0
  | .request => 1
  | .commandTimeout => 2
  | .feedback => 3
  | .liftLimit => 4

/-- Commands, feedback and the clock. -/
def mobileCapabilities : Tick := 0x00000007

def MobileSupervisor.flagsByte (s : MobileSupervisor) (nowMs : Tick) : Byte :=
  (if s.haveFeedback then 1 else 0) ||| (if s.feedback.velocityModesVerified then 2 else 0) |||
    (if s.feedback.liftHomed then 4 else 0) ||| (if s.measuredStopped nowMs then 8 else 0) |||
    (if s.feedback.hardwareOk then 16 else 0)

namespace MobileEndpoint

def init (supervisor : MobileSupervisor) (bootId : Tick) : Option MobileEndpoint :=
  if !supervisor.configured || bootId == 0 then none
  else some { supervisor, bootId, rejectedFrames := 0, buffer := [], lastByteMs := 0 }

/-- The bytes of a status under its checksum. -/
def statusBody (e : MobileEndpoint) (kind : Byte) (sequence nowMs : Tick) : List Byte :=
  let s := e.supervisor
  [0x41, 0x53, 1, kind] ++ writeU32Le sequence ++ writeU32Le nowMs ++ writeU32Le e.bootId ++
    writeU32Le mobileCapabilities ++ writeU32Le s.session ++ writeU32Le s.sequence ++
    [s.state.toByte, s.reason.toByte, s.flagsByte nowMs, 0] ++
    writeU32Le s.feedback.observedMs ++
    (List.finRange 4).flatMap (fun axis =>
      writeU32Le (BitVec.ofInt 32 (s.feedback.velocityRaw axis))) ++
    writeU32Le (BitVec.ofInt 32 s.feedback.liftPositionUm) ++ writeU32Le e.rejectedFrames

/-- The `AS` status. -/
def status (e : MobileEndpoint) (kind : Byte) (sequence nowMs : Tick) : List Byte :=
  e.statusBody kind sequence nowMs ++ writeU32Le (crc32c (e.statusBody kind sequence nowMs))

/-! ## 2. The bytes -/

/-- The rejections are counted up to the last count. -/
def reject (rejectedFrames : Tick) : Tick :=
  if rejectedFrames != 0xFFFFFFFF then rejectedFrames + 1 else rejectedFrames

/-- The bytes do not begin a packet. -/
def misaligned (buffer : List Byte) : Bool :=
  buffer.getD 0 0 != 0x41 || (1 < buffer.length && buffer.getD 1 0 != 0x4D) ||
    (2 < buffer.length && buffer.getD 2 0 != 1)

/-- Slides to the next byte that may begin a packet. -/
def resync (rejectedFrames : Tick) : List Byte → Tick × List Byte
  | [] => (rejectedFrames, [])
  | byte :: buffer =>
    if misaligned (byte :: buffer) then resync (reject rejectedFrames) buffer
    else (rejectedFrames, byte :: buffer)

/-- What a whole packet asks for, and whether it was accepted. -/
def serve (s : MobileSupervisor) (packet : List Byte) (nowMs : Tick) : MobileSupervisor × Bool :=
  let kind := packet.getD 3 0
  if 4 ≤ kind && kind ≤ 6 && readU32Le packet 4 != 0 then
    (s, ((packet.drop 16).take 16).all (· == 0))
  else if 1 ≤ kind && kind ≤ 3 then s.apply packet nowMs
  else (s, false)

/-- The answer to a whole packet. -/
def answer (e : MobileEndpoint) (nowMs : Tick) : MobileEndpoint × List Byte :=
  let kind := e.buffer.getD 3 0
  let (supervisor, accepted) := serve e.supervisor e.buffer nowMs
  let e' : MobileEndpoint :=
    { e with
      supervisor
      rejectedFrames := if accepted then e.rejectedFrames else reject e.rejectedFrames }
  ({ e' with buffer := [] },
    e'.status (if accepted then kind else kind ||| 0x80) (readU32Le e.buffer 8) nowMs)

/-- The byte is in the buffer, behind whatever frames. -/
def take (e : MobileEndpoint) (byte : Byte) (nowMs : Tick) : MobileEndpoint :=
  let e := { e with supervisor := e.supervisor.poll nowMs }
  -- a part of a packet that waited for 100 ms is given up
  let e :=
    if e.buffer ≠ [] ∧ 100 ≤ nowMs - e.lastByteMs then
      { e with buffer := [], rejectedFrames := reject e.rejectedFrames }
    else e
  let (rejectedFrames, buffer) := resync e.rejectedFrames (e.buffer ++ [byte])
  { e with lastByteMs := nowMs, buffer, rejectedFrames }

def feed (e : MobileEndpoint) (byte : Byte) (nowMs : Tick) : MobileEndpoint × Option (List Byte) :=
  let e := e.take byte nowMs
  if e.buffer.length < 36 then (e, none)
  else if readU32Le e.buffer 32 != crc32c (e.buffer.take 32) then
    ({ e with buffer := e.buffer.drop 1, rejectedFrames := reject e.rejectedFrames }, none)
  else
    let (e, reply) := e.answer nowMs
    (e, some reply)

/-! ## 3. The framed route -/

def feedAll (e : MobileEndpoint) (bytes : List Byte) (nowMs : Tick) :
    MobileEndpoint × Option (List Byte) :=
  bytes.foldl (fun (e, replied) byte =>
    let (e, reply) := e.feed byte nowMs
    (e, reply.or replied)) (e, none)

/-- A payload the route hands on. -/
def framed (flags : BitVec 16) (payload : List Byte) : Bool :=
  flags == 0 && payload.length == 36 && payload.getD 0 0 == 0x41 && payload.getD 1 0 == 0x4D &&
    payload.getD 2 0 == 1 && 1 ≤ payload.getD 3 0 && payload.getD 3 0 ≤ 6 &&
    readU32Le payload 32 == crc32c (payload.take 32)

/-- `actuator_mobile_framed_reply` with an endpoint attached: the payload of the response. -/
def framedReply (e : MobileEndpoint) (flags : BitVec 16) (payload : List Byte) (nowMs : Tick) :
    MobileEndpoint × List Byte :=
  if framed flags payload then
    match { e with buffer := [] }.feedAll payload nowMs with
    | (e, some reply) => (e, 0 :: reply)
    | (e, none) => (e, [2])
  else (e, [2])

end MobileEndpoint

end MobileBimanual.Mobile
