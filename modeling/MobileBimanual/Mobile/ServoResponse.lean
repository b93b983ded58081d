/-
# A servo is read

The read request of `sts3215_packet.c` and `sts3215_response.c` in full: the parser of the answer
to one request.  It hunts for the two header bytes, collects a frame and judges it; a frame that
is bad or for another servo is skipped and the hunt goes on.  The first good frame, and the first
that reports an error, ends the parser until the next request.
-/
import MobileBimanual.Mobile.Packet

namespace MobileBimanual.Mobile

open MobileBimanual.Stream (Byte)

/-! ## 1. The request -/

def maxRegisterData : Nat := 16

def validateRegisterRequest (servoId address length : Byte) : Except PacketError Unit :=
  if servoId == 0 || 0xFE ≤ servoId then .error .invalidServoId
  else if length == 0 || maxRegisterData < length.toNat then .error .invalidCount
  else if 256 < address.toNat + length.toNat then .error .invalidRegisterRange
  else .ok ()

def buildRead (servoId address dataLength : Byte) : Except PacketError (List Byte) :=
  match validateRegisterRequest servoId address dataLength with
  | .error error => .error error
  | .ok () =>
    .ok ([0xFF, 0xFF, servoId, 4, 2, address, dataLength] ++
      [checksum [servoId, 4, 2, address, dataLength]])

/-! ## 2. The parser -/

inductive ResponseReject where
  | none
  | header
  | id
  | length
  | checksum

inductive ResponseResult where
  | needMore
  | frameReady
  | frameRejected
  | statusError
  deriving DecidableEq

/-- `syncCount` runs from the header (0, 1) over the identifier (2) and the length (3) to the body
(4); `body` holds the bytes of the frame at hand from its status on. -/
structure ServoResponse where
  validConfiguration : Bool
  terminal : ResponseResult
  expectedId : Byte
  expectedDataLength : Byte
  syncCount : Nat
  frameId : Byte
  frameLength : Byte
  body : List Byte
  servoStatus : Byte
  lastReject : ResponseReject
  discardedBytes : BitVec 16

namespace ServoResponse

def maxBodyLength : Nat := 18

def init (expectedId expectedDataLength : Byte) : ServoResponse where
  validConfiguration :=
    0 < expectedId && expectedId < 254 && expectedDataLength.toNat ≤ maxBodyLength - 2
  terminal := .needMore
  expectedId
  expectedDataLength
  syncCount := 0
  frameId := 0
  frameLength := 0
  body := []
  servoStatus := 0
  lastReject := .none
  discardedBytes := 0

/-- The count of discarded bytes stops at `UINT16_MAX`. -/
def rejectFrame (p : ServoResponse) (reason : ResponseReject) (frameBytes : BitVec 16) :
    ServoResponse × ResponseResult :=
  ({ p with
      lastReject := reason
      discardedBytes :=
        if 0xFFFF - p.discardedBytes < frameBytes then 0xFFFF else p.discardedBytes + frameBytes
      syncCount := 0
      frameId := 0
      frameLength := 0
      body := [] }, .frameRejected)

/-- The frame is complete. -/
def judge (p : ServoResponse) : ServoResponse × ResponseResult :=
  let length := p.frameLength.toNat
  let frameBytes := p.frameLength.setWidth 16 + 4
  let status := p.body.getD 0 0
  if p.body.getD (length - 1) 0 !=
      checksum ([p.frameId, p.frameLength] ++ p.body.take (length - 1)) then
    p.rejectFrame .checksum frameBytes
  else if p.frameId != p.expectedId then p.rejectFrame .id frameBytes
  -- some devices answer an error with the status alone
  else if p.frameLength == 2 && status != 0 then
    ({ p with servoStatus := status, terminal := .statusError }, .statusError)
  else if p.frameLength != p.expectedDataLength + 2 then p.rejectFrame .length frameBytes
  else if status != 0 then
    ({ p with servoStatus := status, terminal := .statusError }, .statusError)
  else ({ p with servoStatus := status, terminal := .frameReady }, .frameReady)

def push (p : ServoResponse) (byte : Byte) : ServoResponse × ResponseResult :=
  if !p.validConfiguration then (p, .frameRejected)
  else if p.terminal != .needMore then (p, p.terminal)
  else if p.syncCount < 2 then
    if byte == 0xFF then ({ p with syncCount := p.syncCount + 1 }, .needMore)
    else
      ({ p with
          syncCount := 0
          discardedBytes :=
            if p.discardedBytes < 0xFFFF then p.discardedBytes + 1 else p.discardedBytes
          lastReject := .header }, .needMore)
  else if p.syncCount = 2 then
    -- a run of header bytes: the last two may be the header
    if byte == 0xFF then (p, .needMore)
    else ({ p with frameId := byte, syncCount := 3 }, .needMore)
  else if p.syncCount = 3 then
    let p := { p with frameLength := byte, body := [] }
    if byte < 2 || maxBodyLength < byte.toNat then p.rejectFrame .length 4
    else ({ p with syncCount := 4 }, .needMore)
  else
    let p := { p with body := p.body ++ [byte] }
    if p.body.length < p.frameLength.toNat then (p, .needMore) else p.judge

/-- The registers of a good answer. -/
def data (p : ServoResponse) : Option (List Byte) :=
  if p.terminal = .frameReady then some (p.body.drop 1) else none

end ServoResponse

end MobileBimanual.Mobile
