/-
# Errors on the wire

A frame that comes out of the stuffing with up to 32 bits in a row changed is rejected, whichever
bits they are: of the header, of the payload, of the checksum or across.

Bits are counted in the order in which the UART sends them and the checksum takes them, the least
significant of each byte first.

The checksum is a `ReflectedCrc` (`crcByte_eq_feed`) of a generator with its top bit set, so the
error alone decides.  Where the reader looks for the checksum depends on the length field, which may
be hit too; but an accepted frame has the length its field says (`frameOfDecoded_ok`), so a changed
frame that is accepted has its checksum where the original had it.
-/
import MobileBimanual.Lib.ReflectedCrc
import MobileBimanual.Wire.Frame

namespace MobileBimanual.Wire

open MobileBimanual.Stream (Byte readU16Le readU32Le writeU32Le writeU32Le_readU32Le eq_map_getD)
open ReflectedCrc (feed step word)

/-! ## 1. Bits and errors -/

/-- The bits of a byte as they go over the wire. -/
def byteBits (byte : Byte) : List Bool := (List.range 8).map byte.getLsbD

def wireBits (bytes : List Byte) : List Bool := bytes.flatMap byteBits

/-- Bits are flipped where `error` has them set. -/
def corrupted (decoded error : List Byte) : List Byte := List.zipWith (· ^^^ ·) decoded error

/-- Some bits are flipped, and they lie within 32 bits in a row. -/
def IsBurst (error : List Byte) : Prop :=
  ∃ before burst after, wireBits error =
      List.replicate before false ++ burst ++ List.replicate after false ∧
    burst.length ≤ 32 ∧ true ∈ burst

/-! ## 2. The checksum bit by bit -/

def generator : BitVec 32 := 0x82F63B78

variable (crc : BitVec 32)

theorem crcBit_eq_step : crcBit crc = step generator crc := by
  have hmask : -(crc &&& 1) = if crc.getLsbD 0 then BitVec.allOnes 32 else 0#32 := by
    have hlow : crc &&& 1 = BitVec.setWidth 32 (BitVec.ofBool (crc.getLsbD 0)) :=
      BitVec.and_one_eq_setWidth_ofBool_getLsbD
    rw [hlow]
    cases crc.getLsbD 0
    · rfl
    · rfl
  rw [crcBit, step, hmask]
  cases crc.getLsbD 0
  · rfl
  · rfl

variable (byte : Byte)

@[simp] theorem length_byteBits : (byteBits byte).length = 8 := by simp [byteBits]

theorem word_byteBits : word 32 (byteBits byte) = byte.setWidth 32 := by
  apply BitVec.eq_of_getLsbD_eq
  intro i hi
  rw [ReflectedCrc.getLsbD_word _ hi, BitVec.getLsbD_setWidth, byteBits]
  by_cases hbyte : i < 8
  · simp [hi, hbyte]
  · simp [hbyte, BitVec.getLsbD_of_ge byte i (by omega)]

theorem crcByte_eq_feed : crcByte crc byte = feed generator crc (byteBits byte) := by
  have hbit : crcBit = step generator := funext crcBit_eq_step
  rw [crcByte, ReflectedCrc.feed_word generator crc (by simp), word_byteBits, length_byteBits,
    hbit]

variable (bytes : List Byte)

theorem foldl_crcByte : bytes.foldl crcByte crc = feed generator crc (wireBits bytes) := by
  induction bytes generalizing crc with
  | nil => rfl
  | cons byte bytes ih =>
    rw [List.foldl_cons, ih, crcByte_eq_feed, wireBits, wireBits, List.flatMap_cons,
      ReflectedCrc.feed_append]

/-- A word goes over the wire from its low end. -/
theorem wireBits_writeU32Le (value : BitVec 32) :
    wireBits (writeU32Le value) = (List.range 32).map value.getLsbD := by
  simp [wireBits, byteBits, writeU32Le, List.range, List.range.loop]

theorem word_wireBits (value : BitVec 32) : word 32 (wireBits (writeU32Le value)) = value := by
  apply BitVec.eq_of_getLsbD_eq
  intro i hi
  rw [ReflectedCrc.getLsbD_word _ hi, wireBits_writeU32Le]
  simp [hi]

theorem wireBits_append (rest : List Byte) :
    wireBits (bytes ++ rest) = wireBits bytes ++ wireBits rest := List.flatMap_append

/-- **A frame with its checksum leaves the same remainder, whatever is in it.** -/
theorem residue (body : List Byte) :
    feed generator 0xFFFFFFFF (wireBits (body ++ writeU32Le (crc32c body))) =
      (step generator)^[32] (BitVec.allOnes 32) := by
  have hlength : (wireBits (writeU32Le (crc32c body))).length = 32 := by
    rw [wireBits_writeU32Le]
    simp
  have hcrc : crc32c body = ~~~ feed generator 0xFFFFFFFF (wireBits body) := by
    rw [crc32c, foldl_crcByte]
  rw [wireBits_append, ReflectedCrc.feed_append,
    ReflectedCrc.feed_word generator _ hlength.le, word_wireBits, hlength, hcrc,
    ReflectedCrc.xor_complement]

/-! ## 3. Errors bit by bit -/

theorem byteBits_xor (a b : Byte) :
    byteBits (a ^^^ b) = List.zipWith xor (byteBits a) (byteBits b) := by
  simp [byteBits, List.zipWith_map, List.zipWith_self]

theorem wireBits_corrupted {decoded error : List Byte} (h : decoded.length = error.length) :
    wireBits (corrupted decoded error) =
      List.zipWith xor (wireBits decoded) (wireBits error) := by
  induction decoded generalizing error with
  | nil => rfl
  | cons byte decoded ih =>
    cases error with
    | nil => simp at h
    | cons flip error =>
      rw [corrupted, List.zipWith_cons_cons, wireBits, List.flatMap_cons, wireBits,
        List.flatMap_cons, wireBits, List.flatMap_cons, List.zipWith_append (by simp),
        byteBits_xor]
      exact congrArg _ (ih (by simpa using h))

theorem length_wireBits : (wireBits bytes).length = 8 * bytes.length := by
  induction bytes with
  | nil => rfl
  | cons byte bytes ih =>
    rw [wireBits, List.flatMap_cons, List.length_append, length_byteBits, List.length_cons]
    rw [wireBits] at ih
    omega

/-! ## 4. The reader -/

/-- What the reader accepts ends in the checksum of what stands before, where its length field
says, and fits the buffer. -/
theorem frameOfDecoded_ok {build : ProtocolBuild} {decoded : List Byte} {frame : Frame}
    (h : frameOfDecoded build decoded = .ok frame) :
    decoded.length ≤ maxDecodedSize ∧
      ∃ body, decoded = body ++ writeU32Le (crc32c body) := by
  simp only [frameOfDecoded] at h
  split_ifs at h with hshort hmagic hversion hknown hsize hlength hcrc
  have hpayload : headerSize + (readU16Le decoded 6).toNat ≤ headerSize + maxPayload := by omega
  generalize headerSize + (readU16Le decoded 6).toNat = size at hlength hcrc hpayload
  have hend : decoded.length = size + 4 := not_not.mp hlength
  have hfield : decoded.drop size = writeU32Le (readU32Le decoded size) := by
    rw [writeU32Le_readU32Le, eq_map_getD (show (decoded.drop size).length = 4 by simp [hend])]
    simp [List.range, List.range.loop]
  refine ⟨?_, decoded.take size, ?_⟩
  · simp only [maxDecodedSize, crcSize]
    omega
  · rw [not_not.mp hcrc, ← hfield, List.take_append_drop]

/-- **A burst of errors is rejected**, wherever in the frame it lies. -/
theorem burst_rejected {build : ProtocolBuild} {decoded error encoded : List Byte} {frame : Frame}
    {capacity : Nat} (hframe : frameOfDecoded build decoded = .ok frame)
    (hlength : error.length = decoded.length) (hburst : IsBurst error)
    (hencoded : cobsEncode (corrupted decoded error) capacity = some encoded) :
    ∃ result, frameDecode build encoded = .error result := by
  obtain ⟨hfits, body, hbody⟩ := frameOfDecoded_ok hframe
  have hsame : (corrupted decoded error).length = decoded.length := by
    simp [corrupted, hlength]
  have hdecoded : cobsDecode encoded maxDecodedSize = some (corrupted decoded error) := by
    rw [cobsEncode_eq, within] at hencoded
    split_ifs at hencoded
    obtain rfl := Option.some.inj hencoded
    rw [cobsDecode_eq, Cobs.decode_encode]
    exact if_pos (by omega)
  have hdecode : frameDecode build encoded = frameOfDecoded build (corrupted decoded error) := by
    rw [frameDecode, hdecoded]
  rw [hdecode]
  cases haccepted : frameOfDecoded build (corrupted decoded error) with
  | error result => exact ⟨result, rfl⟩
  | ok changed =>
    exfalso
    obtain ⟨-, body', hbody'⟩ := frameOfDecoded_ok haccepted
    obtain ⟨before, burst, after, hbits, hshort, hset⟩ := hburst
    have hbitwise : (wireBits decoded).length = (wireBits error).length := by
      rw [length_wireBits, length_wireBits, hlength]
    have hlinear := ReflectedCrc.feed_xor generator 0xFFFFFFFF 0#32 hbitwise
    rw [BitVec.xor_zero, ← wireBits_corrupted hlength.symm, hbody', residue, hbody, residue]
      at hlinear
    have hzero : feed generator 0#32 (wireBits error) = 0#32 := by
      generalize (step generator)^[32] (BitVec.allOnes 32) = remainder at hlinear
      calc feed generator 0#32 (wireBits error)
          = remainder ^^^ (remainder ^^^ feed generator 0#32 (wireBits error)) := by
            rw [← BitVec.xor_assoc, BitVec.xor_self, BitVec.zero_xor]
        _ = remainder ^^^ remainder := by rw [← hlinear]
        _ = 0#32 := BitVec.xor_self
    rw [hbits] at hzero
    exact ReflectedCrc.feed_burst_ne_zero generator (by decide) hshort hset before after hzero

/-- A TIME_SYNC with a payload of one byte, and a burst from that byte into the checksum. -/
theorem burst_rejected_timeSync :
    let build : ProtocolBuild := ⟨1, false, false, false, false, false, false⟩
    let decoded := frameBytes build ⟨5, 0, 7, 1000, [0x55]⟩
    let error := List.replicate 16 0 ++ [0xF0, 0xFF, 0x00, 0xFF, 0x0F]
    ∃ encoded, cobsEncode (corrupted decoded error) 600 = some encoded ∧
      ∃ result, frameDecode build encoded = .error result := by
  intro build decoded error
  have hframe : frameOfDecoded build decoded = .ok ⟨5, 0, 7, 1000, [0x55]⟩ :=
    frameOfDecoded_frameBytes (by decide) (by decide)
  have hburst : IsBurst error :=
    ⟨132, wireBits [0xF0, 0xFF, 0x00, 0xFF, 0x0F] |>.drop 4 |>.take 32, 4, by decide +kernel,
      by decide, by decide⟩
  have hencoded : cobsEncode (corrupted decoded error) 600 =
      some (Cobs.encode (corrupted decoded error)) := by
    rw [cobsEncode_eq]
    exact if_pos (by decide +kernel)
  exact ⟨_, hencoded, burst_rejected hframe (by decide) hburst hencoded⟩

end MobileBimanual.Wire
