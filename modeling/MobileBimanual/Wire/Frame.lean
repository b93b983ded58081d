/-
# Frames: `protocol.c`

A frame is a header of 16 bytes, a payload of at most 512 and a checksum of 4, stuffed so that
no byte is zero and closed by a zero.  `frameEncode` writes it, `frameDecode` reads back what
stands before the zero.

* `frameEncode_eq`: when the writer succeeds and what it writes;
* `length_stuffed_le`: the worst case of the stuffing, which the buffer sizes are made for;
* `frameDecode_stuffed`: the round trip.

`ACTUATOR_PROTOCOL_OK` is `Except.ok`; the NULL arguments have no counterpart.
-/
import MobileBimanual.Wire.Crc
import MobileBimanual.Wire.Cobs

namespace MobileBimanual.Wire

open MobileBimanual.Stream

/-! ## 1. Constants -/

def magic : BitVec 16 := 0xA55A
def maxPayload : Nat := 512
def headerSize : Nat := 16
def crcSize : Nat := 4
def maxDecodedSize : Nat := headerSize + maxPayload + crcSize
def maxEncodedSize : Nat := maxDecodedSize + maxDecodedSize / 254 + 2

/-- `ACTUATOR_PROTOCOL_VERSION` and the macros that enable message groups. -/
structure ProtocolBuild where
  version : Byte
  streamV2Messages : Bool
  streamV2ExecutorMessages : Bool
  streamV2ShadowMessages : Bool
  bimanualDispatchMessages : Bool
  bimanualTrackingMessages : Bool
  bimanualFeedbackSnapshotMessages : Bool

/-- `actuator_message_id_t`: HELLO to TIME_SYNC, ARM to CLEAR_FAULT, the setpoint and right-arm
one-shot messages, the state, fault, discovery and configuration messages. -/
def messageIds : List Byte :=
  [1, 2, 3, 4, 5,
    16, 17, 18, 19, 20, 21, 22,
    32, 33, 34, 35, 36, 37, 38, 39,
    48, 49, 50, 51, 52, 53, 54, 55, 56, 57]

def messageIsKnown (build : ProtocolBuild) (messageType : Byte) : Bool :=
  (build.version == 2 && [66, 67, 64, 65].contains messageType) ||
    messageIds.contains messageType ||
    (build.streamV2Messages && [40, 41, 42].contains messageType) ||
    (build.streamV2ExecutorMessages && [43, 44].contains messageType) ||
    (build.streamV2ShadowMessages && [45, 46].contains messageType) ||
    (build.bimanualDispatchMessages && [47, 58].contains messageType) ||
    (build.bimanualTrackingMessages && [59, 60].contains messageType) ||
    (build.bimanualFeedbackSnapshotMessages && [61, 62].contains messageType)

inductive ProtocolResult where
  | noFrame
  | outputTooSmall
  | overflow
  | cobsError
  | frameTooShort
  | badMagic
  | badVersion
  | unknownMessage
  | badLength
  | badCrc

/-- `payload_length` is the length of the payload. -/
structure Frame where
  messageType : Byte
  flags : BitVec 16
  sequence : BitVec 32
  senderTimeMs : BitVec 32
  payload : List Byte

/-! ## 2. The writer and the reader -/

def headerBytes (build : ProtocolBuild) (frame : Frame) : List Byte :=
  writeU16Le magic ++ [build.version, frame.messageType] ++ writeU16Le frame.flags ++
    writeU16Le (BitVec.ofNat 16 frame.payload.length) ++ writeU32Le frame.sequence ++
    writeU32Le frame.senderTimeMs

/-- `decoded[]` of the writer. -/
def frameBytes (build : ProtocolBuild) (frame : Frame) : List Byte :=
  let body := headerBytes build frame ++ frame.payload
  body ++ writeU32Le (crc32c body)

def frameEncode (build : ProtocolBuild) (frame : Frame) (outputCapacity : Nat) :
    Except ProtocolResult (List Byte) :=
  if !messageIsKnown build frame.messageType then .error .unknownMessage
  else if frame.payload.length > maxPayload then .error .badLength
  else if outputCapacity < 2 then .error .outputTooSmall
  else
    match cobsEncode (frameBytes build frame) (outputCapacity - 1) with
    | none => .error .outputTooSmall
    | some encoded => .ok (encoded ++ [0])

/-- What the reader takes out of a frame that it accepts. -/
def readFrame (decoded : List Byte) : Frame where
  messageType := decoded.getD 3 0
  flags := readU16Le decoded 4
  sequence := readU32Le decoded 8
  senderTimeMs := readU32Le decoded 12
  payload := (decoded.drop headerSize).take (readU16Le decoded 6).toNat

/-- The reader behind the stuffing. -/
def frameOfDecoded (build : ProtocolBuild) (decoded : List Byte) :
    Except ProtocolResult Frame :=
  let payloadLength := (readU16Le decoded 6).toNat
  if decoded.length < headerSize + crcSize then .error .frameTooShort
  else if readU16Le decoded 0 ≠ magic then .error .badMagic
  else if decoded.getD 2 0 ≠ build.version then .error .badVersion
  else if !messageIsKnown build (decoded.getD 3 0) then .error .unknownMessage
  else if payloadLength > maxPayload then .error .badLength
  else if decoded.length ≠ headerSize + payloadLength + crcSize then .error .badLength
  else if crc32c (decoded.take (headerSize + payloadLength)) ≠
      readU32Le decoded (headerSize + payloadLength) then .error .badCrc
  else .ok (readFrame decoded)

def frameDecode (build : ProtocolBuild) (encoded : List Byte) : Except ProtocolResult Frame :=
  match cobsDecode encoded maxDecodedSize with
  | none => .error .cobsError
  | some decoded => frameOfDecoded build decoded

/-! ## 3. The layout -/

section Layout

variable {build : ProtocolBuild} {frame : Frame}

@[simp] theorem length_headerBytes : (headerBytes build frame).length = headerSize := rfl

@[simp] theorem length_frameBytes :
    (frameBytes build frame).length = headerSize + frame.payload.length + crcSize := by
  simp [frameBytes, crcSize, Nat.add_assoc]

/-! A read at an offset of the header meets the bytes of one field and nothing else. -/

@[simp] theorem frameBytes_magic : readU16Le (frameBytes build frame) 0 = magic :=
  readU16Le_writeU16Le magic []

@[simp] theorem frameBytes_version : (frameBytes build frame).getD 2 0 = build.version := rfl

@[simp] theorem frameBytes_messageType :
    (frameBytes build frame).getD 3 0 = frame.messageType := rfl

@[simp] theorem frameBytes_flags : readU16Le (frameBytes build frame) 4 = frame.flags :=
  readU16Le_writeU16Le frame.flags []

@[simp] theorem frameBytes_payloadLength :
    readU16Le (frameBytes build frame) 6 = BitVec.ofNat 16 frame.payload.length :=
  readU16Le_writeU16Le (BitVec.ofNat 16 frame.payload.length) []

theorem toNat_payloadLength (hsize : frame.payload.length ≤ maxPayload) :
    (BitVec.ofNat 16 frame.payload.length).toNat = frame.payload.length := by
  unfold maxPayload at hsize
  rw [BitVec.toNat_ofNat]
  omega

@[simp] theorem frameBytes_sequence : readU32Le (frameBytes build frame) 8 = frame.sequence :=
  readU32Le_writeU32Le frame.sequence []

@[simp] theorem frameBytes_senderTimeMs :
    readU32Le (frameBytes build frame) 12 = frame.senderTimeMs :=
  readU32Le_writeU32Le frame.senderTimeMs []

@[simp] theorem frameBytes_body :
    (frameBytes build frame).take (headerSize + frame.payload.length) =
      headerBytes build frame ++ frame.payload :=
  List.take_left' (by simp)

@[simp] theorem frameBytes_payload :
    ((frameBytes build frame).drop headerSize).take frame.payload.length = frame.payload := by
  unfold frameBytes
  rw [List.append_assoc, List.drop_left' length_headerBytes, List.take_left' rfl]

@[simp] theorem frameBytes_crc :
    readU32Le (frameBytes build frame) (headerSize + frame.payload.length) =
      crc32c (headerBytes build frame ++ frame.payload) := by
  have hread := readU32Le_append (headerBytes build frame ++ frame.payload)
    (writeU32Le (crc32c (headerBytes build frame ++ frame.payload)) ++ []) 0
  rw [readU32Le_writeU32Le, List.append_nil, List.length_append, length_headerBytes] at hread
  exact hread

theorem readFrame_frameBytes (hsize : frame.payload.length ≤ maxPayload) :
    readFrame (frameBytes build frame) = frame := by
  unfold readFrame
  simp only [frameBytes_messageType, frameBytes_flags, frameBytes_payloadLength,
    frameBytes_sequence, frameBytes_senderTimeMs, toNat_payloadLength hsize, frameBytes_payload]

/-- **The reader takes back what the writer wrote.** -/
theorem frameOfDecoded_frameBytes (hknown : messageIsKnown build frame.messageType)
    (hsize : frame.payload.length ≤ maxPayload) :
    frameOfDecoded build (frameBytes build frame) = .ok frame := by
  unfold frameOfDecoded
  simp only [length_frameBytes, frameBytes_magic, frameBytes_version, frameBytes_messageType,
    frameBytes_payloadLength, frameBytes_body, frameBytes_crc, toNat_payloadLength hsize, hknown,
    readFrame_frameBytes hsize]
  rw [if_neg (by omega), if_neg (by simp), if_neg (by simp), if_neg (by simp),
    if_neg (Nat.not_lt.mpr hsize), if_neg (by simp), if_neg (by simp)]

/-! ## 4. The round trip -/

/-- What `frameEncode` puts before the closing zero. -/
def stuffed (build : ProtocolBuild) (frame : Frame) : List Byte :=
  Cobs.encode (frameBytes build frame)

theorem stuffed_ne_nil : stuffed build frame ≠ [] := Cobs.encodeFrom_ne_nil _ _

theorem zero_notMem_stuffed : (0 : Byte) ∉ stuffed build frame := Cobs.zero_notMem_encode _

/-- **The worst case of the stuffing fits the encoded size.** -/
theorem length_stuffed_le (hsize : frame.payload.length ≤ maxPayload) :
    (stuffed build frame).length + 1 ≤ maxEncodedSize := by
  have h := Cobs.length_encode_le (frameBytes build frame)
  rw [length_frameBytes] at h
  unfold stuffed
  simp only [Cobs.groupLimit, maxEncodedSize, maxDecodedSize, maxPayload, headerSize, crcSize]
    at h hsize ⊢
  omega

theorem frameEncode_eq (hknown : messageIsKnown build frame.messageType)
    (hsize : frame.payload.length ≤ maxPayload) {outputCapacity : Nat}
    (hroom : (stuffed build frame).length + 1 ≤ outputCapacity) :
    frameEncode build frame outputCapacity = .ok (stuffed build frame ++ [0]) := by
  have hpos : 0 < (stuffed build frame).length := List.length_pos_iff.mpr stuffed_ne_nil
  have hfits : within (outputCapacity - 1) (Cobs.encode (frameBytes build frame)) =
      some (stuffed build frame) := if_pos (by unfold stuffed at hroom; omega)
  unfold frameEncode
  rw [if_neg (by simp [hknown]), if_neg (Nat.not_lt.mpr hsize), if_neg (by omega), cobsEncode_eq,
    hfits]

theorem frameDecode_stuffed (hknown : messageIsKnown build frame.messageType)
    (hsize : frame.payload.length ≤ maxPayload) :
    frameDecode build (stuffed build frame) = .ok frame := by
  have hfits : within maxDecodedSize (frameBytes build frame) = some (frameBytes build frame) := by
    refine if_pos ?_
    rw [length_frameBytes]
    unfold maxDecodedSize
    omega
  have hdecode : cobsDecode (stuffed build frame) maxDecodedSize =
      some (frameBytes build frame) := by
    rw [cobsDecode_eq, stuffed, Cobs.decode_encode]
    exact hfits
  rw [frameDecode, hdecode]
  exact frameOfDecoded_frameBytes hknown hsize

end Layout

end MobileBimanual.Wire
