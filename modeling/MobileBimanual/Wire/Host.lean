/-
# The host's frame reader: `decode_frame_v2`

The Python reader of the second protocol's frames.  It counts in unbounded integers, knows its
own list of message types, and has no buffer, so nothing but the frame's own length field bounds
what it takes.

* `Host.decodeFrameV2_ok_iff`, `frameDecode_ok_iff`: when each reader accepts, and what;
* `framing_agrees`: the two sides write the same stuffing and accept the same frames.
-/
import MobileBimanual.Wire.Frame

namespace MobileBimanual.Wire

open MobileBimanual.Stream

/-! ## 1. The reader -/

namespace Host

def magic : Nat := 0xA55A
def maxPayload : Nat := 512
def protocolVersion : Nat := 2

/-- `HEADER.size`, of the format `<HBBHHII`. -/
def headerSize : Nat := 2 + 1 + 1 + 2 + 2 + 4 + 4

/-- `CRC.size`, of the format `<I`. -/
def crcSize : Nat := 4

/-- The values of the `IntEnum`: HELLO and HEARTBEAT, ARM to CLEAR_FAULT, the setpoint and
stream messages, the diagnostics, the snapshots, and the mobile and inventory messages. -/
def streamMessageTypesV2 : List Nat :=
  [1, 2, 3, 16, 17, 18, 20, 21, 22, 32, 33, 40, 41, 42, 43, 44, 45, 46, 47, 48, 49, 58, 59, 60,
    61, 62, 64, 65, 66, 67]

abbrev StreamMessageTypeV2 := { value : Nat // value ∈ streamMessageTypesV2 }

/-- `StreamMessageTypeV2(raw_type)`. -/
def StreamMessageTypeV2.ofRaw (rawType : Nat) : Option StreamMessageTypeV2 :=
  if h : rawType ∈ streamMessageTypesV2 then some ⟨rawType, h⟩ else none

structure FrameV2 where
  messageType : StreamMessageTypeV2
  flags : Nat
  sequence : Nat
  senderTimeMs : Nat
  payload : List Byte

/-- The `StreamContractError`s of the reader, in its order. -/
inductive FrameError where
  | invalidCobsFrame
  | shortFrame
  | unknownMessage
  | invalidHeader
  | invalidPayloadLength
  | badCrc

/-- A little-endian unsigned integer of `struct`. -/
def unpackLe : List Byte → Nat
  | [] => 0
  | byte :: bytes => byte.toNat + 256 * unpackLe bytes

def unpackU16 (decoded : List Byte) (offset : Nat) : Nat :=
  unpackLe [decoded.getD offset 0, decoded.getD (offset + 1) 0]

def unpackU32 (decoded : List Byte) (offset : Nat) : Nat :=
  unpackLe [decoded.getD offset 0, decoded.getD (offset + 1) 0, decoded.getD (offset + 2) 0,
    decoded.getD (offset + 3) 0]

def frameOfDecoded (decoded : List Byte) : Except FrameError FrameV2 :=
  let length := unpackU16 decoded 6
  let expectedLength := headerSize + length + crcSize
  if decoded.length < headerSize + crcSize then .error .shortFrame
  else
    match StreamMessageTypeV2.ofRaw (decoded.getD 3 0).toNat with
    | none => .error .unknownMessage
    | some messageType =>
      if unpackU16 decoded 0 ≠ magic ∨ (decoded.getD 2 0).toNat ≠ protocolVersion then
        .error .invalidHeader
      else if length > maxPayload ∨ decoded.length ≠ expectedLength then
        .error .invalidPayloadLength
      else if crc32c (decoded.take (headerSize + length)) ≠
          unpackU32 decoded (headerSize + length) then .error .badCrc
      else .ok
        { messageType := messageType
          flags := unpackU16 decoded 4
          sequence := unpackU32 decoded 8
          senderTimeMs := unpackU32 decoded 12
          payload := (decoded.take (headerSize + length)).drop headerSize }

/-- `packet[:-1] if packet.endswith(b"\x00") else packet`. -/
def trimZero (packet : List Byte) : List Byte :=
  if packet.getLast? = some 0 then packet.dropLast else packet

def decodeFrameV2 (packet : List Byte) : Except FrameError FrameV2 :=
  match cobsDecode (trimZero packet) with
  | .error _ => .error .invalidCobsFrame
  | .ok decoded => frameOfDecoded decoded

end Host

/-! ## 2. The words of a frame -/

/-- A byte above a word that does not reach it. -/
theorem toNat_or_byte {w n : Nat} {low : BitVec w} (hlow : low.toNat < 2 ^ n) (hn : n + 8 ≤ w)
    (byte : Byte) :
    (low ||| byte.setWidth w <<< n).toNat = low.toNat + 2 ^ n * byte.toNat := by
  have hbyte : (byte.setWidth w).toNat = byte.toNat := BitVec.toNat_setWidth_of_le (by omega)
  have hfits : byte.toNat * 2 ^ n < 2 ^ w :=
    calc byte.toNat * 2 ^ n < 2 ^ 8 * 2 ^ n :=
          Nat.mul_lt_mul_of_pos_right byte.isLt (Nat.two_pow_pos n)
      _ = 2 ^ (n + 8) := by rw [Nat.pow_add, Nat.mul_comm]
      _ ≤ 2 ^ w := Nat.pow_le_pow_right (by decide) hn
  rw [BitVec.toNat_or, BitVec.toNat_shiftLeft, hbyte, Nat.shiftLeft_eq, Nat.mod_eq_of_lt hfits,
    ← Nat.shiftLeft_eq, Nat.or_comm, ← Nat.shiftLeft_add_eq_or_of_lt hlow, Nat.shiftLeft_eq,
    Nat.add_comm, Nat.mul_comm]

theorem toNat_byte {w : Nat} (hw : 8 ≤ w) (byte : Byte) :
    (byte.setWidth w).toNat = byte.toNat := BitVec.toNat_setWidth_of_le hw

namespace Host

theorem unpackU16_eq (decoded : List Byte) (offset : Nat) :
    unpackU16 decoded offset = (readU16Le decoded offset).toNat := by
  have h0 := (decoded.getD offset 0).isLt
  rw [readU16Le, toNat_or_byte (by rw [toNat_byte (by decide)]; omega) (by decide),
    toNat_byte (by decide)]
  simp only [unpackU16, unpackLe]
  omega

/-- The word grows by one byte at a time, each above all the bytes before it. -/
theorem unpackU32_eq (decoded : List Byte) (offset : Nat) :
    unpackU32 decoded offset = (readU32Le decoded offset).toNat := by
  have h0 := (decoded.getD offset 0).isLt
  have h1 := (decoded.getD (offset + 1) 0).isLt
  have h2 := (decoded.getD (offset + 2) 0).isLt
  have hone := toNat_or_byte (w := 32) (n := 8)
    ((toNat_byte (by decide) (decoded.getD offset 0)).trans_lt h0) (by decide)
    (decoded.getD (offset + 1) 0)
  rw [toNat_byte (by decide)] at hone
  have htwo := toNat_or_byte (n := 16) (hone.trans_lt (by omega)) (by decide)
    (decoded.getD (offset + 2) 0)
  rw [hone] at htwo
  rw [readU32Le, toNat_or_byte (htwo.trans_lt (by omega)) (by decide), htwo]
  simp only [unpackU32, unpackLe]
  omega

/-! ## 3. What the readers accept -/

theorem ofRaw_eq_some_iff {rawType : Nat} {messageType : StreamMessageTypeV2} :
    StreamMessageTypeV2.ofRaw rawType = some messageType ↔ messageType.val = rawType := by
  unfold StreamMessageTypeV2.ofRaw
  constructor
  · intro h
    split_ifs at h with hraw
    cases h
    rfl
  · rintro rfl
    exact dif_pos messageType.property

/-- The header, the length and the checksum, in the words of the firmware's reader. -/
def Intact (decoded : List Byte) : Prop :=
  decoded.length = Wire.headerSize + (readU16Le decoded 6).toNat + Wire.crcSize ∧
    (readU16Le decoded 6).toNat ≤ Wire.maxPayload ∧
    readU16Le decoded 0 = Wire.magic ∧ decoded.getD 2 0 = 2 ∧
    Wire.crc32c (decoded.take (Wire.headerSize + (readU16Le decoded 6).toNat)) =
      readU32Le decoded (Wire.headerSize + (readU16Le decoded 6).toNat)

/-- The same frame on both sides. -/
def FrameV2.Is (hostFrame : FrameV2) (frame : Frame) : Prop :=
  hostFrame.messageType.val = frame.messageType.toNat ∧ hostFrame.flags = frame.flags.toNat ∧
    hostFrame.sequence = frame.sequence.toNat ∧
    hostFrame.senderTimeMs = frame.senderTimeMs.toNat ∧ hostFrame.payload = frame.payload

theorem frameOfDecoded_ok_iff {decoded : List Byte} {hostFrame : FrameV2} :
    frameOfDecoded decoded = .ok hostFrame ↔
      Intact decoded ∧ hostFrame.Is (readFrame decoded) := by
  have hmagic : unpackU16 decoded 0 = magic ↔ readU16Le decoded 0 = Wire.magic := by
    rw [unpackU16_eq, ← BitVec.toNat_inj]
    rfl
  have hversion : (decoded.getD 2 0).toNat = protocolVersion ↔ decoded.getD 2 0 = 2 := by
    rw [← BitVec.toNat_inj]
    rfl
  have hcrc : ∀ offset, crc32c (decoded.take offset) = unpackU32 decoded offset ↔
      Wire.crc32c (decoded.take offset) = readU32Le decoded offset := by
    intro offset
    rw [crc32c_eq, unpackU32_eq, BitVec.toNat_inj]
  have hpayload : ∀ length, (decoded.take (headerSize + length)).drop headerSize =
      (decoded.drop Wire.headerSize).take length := by
    intro length
    rw [List.drop_take, Nat.add_sub_cancel_left]
    rfl
  unfold frameOfDecoded Intact FrameV2.Is
  simp only [ne_eq, hmagic, hversion, hcrc, hpayload, unpackU16_eq decoded 6]
  constructor
  · intro h
    have hlong : ¬ decoded.length < headerSize + crcSize := by
      intro hshort
      rw [if_pos hshort] at h
      cases h
    rw [if_neg hlong] at h
    cases hraw : StreamMessageTypeV2.ofRaw (decoded.getD 3 0).toNat with
    | none =>
      rw [hraw] at h
      cases h
    | some messageType =>
      rw [hraw] at h
      simp only at h
      split_ifs at h with hheader hlength hsum
      rw [not_or, not_not, not_not] at hheader
      rw [not_or, not_not, Nat.not_lt] at hlength
      cases h
      exact ⟨⟨hlength.2, hlength.1, hheader.1, hheader.2, hsum⟩,
        ofRaw_eq_some_iff.mp hraw, unpackU16_eq decoded 4, unpackU32_eq decoded 8,
        unpackU32_eq decoded 12, rfl⟩
  · rintro ⟨⟨hlength, hsize, hmag, hver, hsum⟩, htype, hflags, hsequence, htime, hbody⟩
    have hshort : ¬ decoded.length < headerSize + crcSize := by
      rw [hlength]
      simp [headerSize, Wire.headerSize, crcSize, Wire.crcSize]
    have hraw : StreamMessageTypeV2.ofRaw (decoded.getD 3 0).toNat = some hostFrame.messageType :=
      ofRaw_eq_some_iff.mpr htype
    have hsum : Wire.crc32c (decoded.take (headerSize + (readU16Le decoded 6).toNat)) =
        readU32Le decoded (headerSize + (readU16Le decoded 6).toNat) := hsum
    rw [if_neg hshort, hraw]
    simp only
    rw [if_neg (by rw [not_or, not_not, not_not]; exact ⟨hmag, hver⟩),
      if_neg (by rw [not_or, not_not, Nat.not_lt]; exact ⟨hsize, hlength⟩),
      if_neg (not_not.mpr hsum)]
    obtain ⟨messageType, flags, sequence, senderTimeMs, payload⟩ := hostFrame
    simp only at hflags hsequence htime hbody
    rw [hflags, hsequence, htime, hbody, unpackU16_eq, unpackU32_eq, unpackU32_eq]
    rfl

end Host

theorem frameOfDecoded_ok_iff {build : ProtocolBuild} (hversion : build.version = 2)
    {decoded : List Byte} {frame : Frame} :
    frameOfDecoded build decoded = .ok frame ↔
      Host.Intact decoded ∧ messageIsKnown build frame.messageType ∧
        frame = readFrame decoded := by
  unfold frameOfDecoded Host.Intact
  simp only [hversion]
  constructor
  · intro h
    split_ifs at h with hshort hmag hver hknown hsize hlength hsum
    cases h
    rw [Bool.not_eq_true', Bool.not_eq_false] at hknown
    exact ⟨⟨not_not.mp hlength, Nat.not_lt.mp hsize, not_not.mp hmag, not_not.mp hver,
      not_not.mp hsum⟩, hknown, rfl⟩
  · rintro ⟨⟨hlength, hsize, hmag, hver, hsum⟩, hknown, rfl⟩
    have hshort : ¬ decoded.length < headerSize + crcSize := by
      rw [hlength]
      omega
    rw [if_neg hshort, if_neg (not_not.mpr hmag), if_neg (not_not.mpr hver),
      if_neg (by rw [Bool.not_eq_true', Bool.not_eq_false]; exact hknown),
      if_neg (Nat.not_lt.mpr hsize), if_neg (not_not.mpr hlength), if_neg (not_not.mpr hsum)]

/-- **The host's reader.** -/
theorem Host.decodeFrameV2_ok_iff {encoded : List Byte} (hzero : (0 : Byte) ∉ encoded)
    {hostFrame : FrameV2} :
    decodeFrameV2 encoded = .ok hostFrame ↔
      ∃ decoded, Cobs.decode encoded = some decoded ∧ Intact decoded ∧
        hostFrame.Is (readFrame decoded) := by
  have htrim : trimZero encoded = encoded := by
    refine if_neg ?_
    intro hlast
    exact hzero (List.mem_of_getLast? hlast)
  rw [← cobsDecode_eq, decodeFrameV2, htrim]
  cases cobsDecode encoded with
  | error error => simp [Except.toOption]
  | ok decoded => simp [Except.toOption, frameOfDecoded_ok_iff]

/-- **The firmware's reader.**  Its buffer holds every frame that is intact. -/
theorem frameDecode_ok_iff {build : ProtocolBuild} (hversion : build.version = 2)
    {encoded : List Byte} {frame : Frame} :
    frameDecode build encoded = .ok frame ↔
      ∃ decoded, Cobs.decode encoded = some decoded ∧ Host.Intact decoded ∧
        messageIsKnown build frame.messageType ∧ frame = readFrame decoded := by
  rw [frameDecode, cobsDecode_eq]
  cases Cobs.decode encoded with
  | none => simp
  | some decoded =>
    by_cases hroom : decoded.length ≤ maxDecodedSize
    · simp [within, hroom, frameOfDecoded_ok_iff hversion]
    · simp only [Option.bind_some, within, if_neg hroom, Option.some.injEq, exists_eq_left',
        reduceCtorEq, false_iff]
      rintro ⟨⟨hlength, hsize, -⟩, -⟩
      unfold maxDecodedSize at hroom
      omega

/-! ## 4. The two sides -/

/-- **The framing of the two sides agrees**: the same stuffing, and on strings without a zero
the same frames, of every type that both sides know. -/
theorem framing_agrees (build : ProtocolBuild) (hversion : build.version = 2) :
    (∀ (data : List Byte) (capacity : Nat),
      cobsEncode data capacity =
        if (Host.cobsEncode data).length ≤ capacity then some (Host.cobsEncode data) else none) ∧
    ∀ encoded : List Byte, (0 : Byte) ∉ encoded →
      (∀ messageType : Byte, messageIsKnown build messageType →
        messageType.toNat ∈ Host.streamMessageTypesV2 →
        ((∃ hostFrame, Host.decodeFrameV2 encoded = .ok hostFrame ∧
            hostFrame.messageType.val = messageType.toNat) ↔
          ∃ frame, frameDecode build encoded = .ok frame ∧ frame.messageType = messageType)) ∧
      ∀ hostFrame frame, Host.decodeFrameV2 encoded = .ok hostFrame →
        frameDecode build encoded = .ok frame →
        hostFrame.messageType.val = frame.messageType.toNat ∧
          hostFrame.sequence = frame.sequence.toNat ∧ hostFrame.payload = frame.payload := by
  constructor
  · intro data capacity
    rw [cobsEncode_eq, Host.cobsEncode_eq]
    rfl
  · intro encoded hzero
    constructor
    · intro messageType hknown hlisted
      constructor
      · rintro ⟨hostFrame, hhost, htype⟩
        obtain ⟨decoded, hdecode, hintact, his⟩ := (Host.decodeFrameV2_ok_iff hzero).mp hhost
        have hsame : (readFrame decoded).messageType = messageType :=
          BitVec.toNat_inj.mp (his.1.symm.trans htype)
        refine ⟨readFrame decoded, ?_, hsame⟩
        exact (frameDecode_ok_iff hversion).mpr
          ⟨decoded, hdecode, hintact, by rw [hsame]; exact hknown, rfl⟩
      · rintro ⟨frame, hframe, rfl⟩
        obtain ⟨decoded, hdecode, hintact, -, hread⟩ := (frameDecode_ok_iff hversion).mp hframe
        refine ⟨⟨⟨frame.messageType.toNat, hlisted⟩, frame.flags.toNat, frame.sequence.toNat,
          frame.senderTimeMs.toNat, frame.payload⟩, ?_, rfl⟩
        rw [Host.decodeFrameV2_ok_iff hzero]
        refine ⟨decoded, hdecode, hintact, ?_⟩
        rw [← hread]
        exact ⟨rfl, rfl, rfl, rfl, rfl⟩
    · intro hostFrame frame hhost hframe
      obtain ⟨decoded, hdecode, -, his⟩ := (Host.decodeFrameV2_ok_iff hzero).mp hhost
      obtain ⟨decoded', hdecode', -, -, rfl⟩ := (frameDecode_ok_iff hversion).mp hframe
      cases hdecode.symm.trans hdecode'
      exact ⟨his.1, his.2.2.1, his.2.2.2.2⟩

/-- The host takes a stop frame because the firmware does. -/
theorem framing_agrees_safeStop :
    let build : ProtocolBuild := ⟨2, true, true, true, true, true, true⟩
    let frame : Frame := ⟨20, 0, 7, 1000, [1, 0, 255]⟩
    ∃ hostFrame, Host.decodeFrameV2 (stuffed build frame) = .ok hostFrame ∧
      hostFrame.messageType.val = 20 :=
  (((framing_agrees ⟨2, true, true, true, true, true, true⟩ rfl).2 _ zero_notMem_stuffed).1 20
    (by decide) (by decide)).mpr
      ⟨⟨20, 0, 7, 1000, [1, 0, 255]⟩, frameDecode_stuffed (by decide) (by decide), rfl⟩

end MobileBimanual.Wire
