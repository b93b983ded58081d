/-
# The mobile codec of the host

`mobile_wire.py` up to its clock, and `LiftStatus` of `lift_wire.py`: the commands the host writes
and the statuses it reads.  The host counts in unbounded integers and checks what it is given.

What the host writes the firmware reads, and what the firmware accepts as a command is what the
host would have written for it, byte for byte (`mobile_codec_canonical`).
-/
import MobileBimanual.Mobile.Wire
import MobileBimanual.Stream.HostPolicy
import MobileBimanual.Wire.Host

namespace MobileBimanual.Mobile

open MobileBimanual.Stream (Byte Tick readU32Le writeU32Le)
open MobileBimanual.Stream.Host (raiseIf raiseIf_ok_iff check_bind_ok_iff packLe packLe_one packLe_four)
open MobileBimanual.Wire.Host (unpackU16 unpackU32 unpackU32_eq)

namespace Host

/-! ## 1. The checksum -/

def crcBit (crc : Nat) : Nat := (crc >>> 1) ^^^ (if crc &&& 1 ≠ 0 then 0x82F63B78 else 0)

def crcByte (crc : Nat) (byte : Byte) : Nat := crcBit^[8] (crc ^^^ byte.toNat)

def crc32c (data : List Byte) : Nat := data.foldl crcByte 0xFFFFFFFF ^^^ 0xFFFFFFFF

theorem crcBit_eq (crc : BitVec 32) : crcBit crc.toNat = (Wire.crcBit crc).toNat := by
  have hbit : crc.toNat &&& 1 = (crc &&& 1).toNat := by simp
  have hcases : crc &&& 1 = 0 ∨ crc &&& 1 = 1 := by
    have hlow : (crc &&& 1).toNat < 2 := by
      rw [← hbit]
      exact Nat.and_lt_two_pow crc.toNat (n := 1) (by decide)
    have hzero : (crc &&& 1).toNat = 0 ∨ (crc &&& 1).toNat = 1 := by omega
    exact hzero.imp BitVec.eq_of_toNat_eq BitVec.eq_of_toNat_eq
  unfold crcBit Wire.crcBit
  rw [hbit, BitVec.toNat_xor, BitVec.toNat_ushiftRight]
  rcases hcases with h | h <;> rw [h] <;> rfl

theorem crcByte_eq (crc : BitVec 32) (byte : Byte) :
    crcByte crc.toNat byte = (Wire.crcByte crc byte).toNat := by
  have hsemiconj : Function.Semiconj BitVec.toNat Wire.crcBit crcBit :=
    fun word => (crcBit_eq word).symm
  have hbyte : crc.toNat ^^^ byte.toNat = (crc ^^^ byte.setWidth 32).toNat := by
    rw [BitVec.toNat_xor, BitVec.toNat_setWidth_of_le (by decide)]
  rw [crcByte, Wire.crcByte, hbyte, hsemiconj.iterate_right 8]

/-- The third writing of the checksum is the same checksum. -/
theorem crc32c_eq (data : List Byte) : crc32c data = (Wire.crc32c data).toNat := by
  have hfold : ∀ crc : BitVec 32,
      data.foldl crcByte crc.toNat = (data.foldl Wire.crcByte crc).toNat := by
    induction data with
    | nil => exact fun _ => rfl
    | cons byte data ih =>
      intro crc
      rw [List.foldl_cons, List.foldl_cons, crcByte_eq, ih]
  rw [crc32c, Wire.crc32c, BitVec.not_def, BitVec.xor_comm, BitVec.toNat_xor, ← hfold]
  rfl

/-! ## 2. Commands -/

structure MobileCommand where
  opcode : Int
  session : Int
  sequence : Int
  validUntilMs : Int
  velocityRaw : List Int

/-- A value that `int` holds and a `uint32_t` does. -/
def IsUint32 (value : Int) : Prop := 0 ≤ value ∧ value ≤ 0xFFFFFFFF

instance (value : Int) : Decidable (IsUint32 value) := inferInstanceAs (Decidable (_ ∧ _))

namespace MobileCommand

def validate (command : MobileCommand) : Except String Unit := do
  raiseIf (∃ value ∈ [command.opcode, command.session, command.sequence, command.validUntilMs],
      ¬ IsUint32 value)
    "mobile header fields must be uint32 integers"
  raiseIf (command.opcode ∉ [1, 2, 3] ∨ command.session = 0 ∨
      (command.opcode = 1 ∧ command.sequence ≠ 0))
    "invalid opcode/session/arm sequence"
  raiseIf (command.velocityRaw.length ≠ 4) "exactly four velocity values required"
  raiseIf (∃ v ∈ command.velocityRaw, ¬ (-32767 ≤ v ∧ v ≤ 32767)) "invalid servo velocity"
  raiseIf (command.opcode ≠ 2 ∧ ∃ v ∈ command.velocityRaw, v ≠ 0)
    "arm/stop cannot carry velocities"

/-- The order is that of the format `<2sBBIII4i`. -/
def encode (command : MobileCommand) : Except String (List Byte) := do
  command.validate
  let data := [0x41, 0x4D] ++ packLe 1 1 ++ packLe 1 command.opcode ++ packLe 4 command.session ++
    packLe 4 command.sequence ++ packLe 4 command.validUntilMs ++
    command.velocityRaw.flatMap (packLe 4)
  .ok (data ++ packLe 4 (crc32c data))

/-- A command of the firmware in the numbers of the host. -/
def ofMessage (m : MobileMessage) : MobileCommand where
  opcode := m.opcode.toByte.toNat
  session := m.session.toNat
  sequence := m.sequence.toNat
  validUntilMs := m.validUntilMs.toNat
  velocityRaw := (List.finRange 4).map m.velocityRaw

/-- What the host insists on. -/
structure Sound (command : MobileCommand) : Prop where
  opcode : command.opcode ∈ [1, 2, 3]
  session : IsUint32 command.session ∧ command.session ≠ 0
  sequence : IsUint32 command.sequence
  validUntilMs : IsUint32 command.validUntilMs
  armSequence : command.opcode = 1 → command.sequence = 0
  axes : command.velocityRaw.length = 4
  range : ∀ v ∈ command.velocityRaw, -32767 ≤ v ∧ v ≤ 32767
  still : command.opcode ≠ 2 → ∀ v ∈ command.velocityRaw, v = 0

theorem validate_ok_iff {command : MobileCommand} : command.validate = .ok () ↔ command.Sound := by
  have hfields : (∀ value ∈ [command.opcode, command.session, command.sequence,
      command.validUntilMs], IsUint32 value) ↔ IsUint32 command.opcode ∧
        IsUint32 command.session ∧ IsUint32 command.sequence ∧ IsUint32 command.validUntilMs := by
    simp only [List.forall_mem_cons, List.not_mem_nil, false_imp_iff, implies_true, and_true]
  have hnone (P : Int → Prop) (values : List Int) :
      (¬ ∃ value ∈ values, ¬ P value) ↔ ∀ value ∈ values, P value := by
    simp only [not_exists, not_and, not_not]
  unfold validate
  rw [check_bind_ok_iff, check_bind_ok_iff, check_bind_ok_iff, check_bind_ok_iff, raiseIf_ok_iff,
    raiseIf_ok_iff, raiseIf_ok_iff, raiseIf_ok_iff, raiseIf_ok_iff, hnone, hnone, hfields, not_or,
    not_or, not_not, not_and, not_not, not_not, not_and, hnone]
  constructor
  · rintro ⟨⟨-, hsession, hsequence, hvalid⟩, ⟨hopcode, hnonzero, harm⟩, haxes, hrange, hstill⟩
    exact ⟨hopcode, ⟨hsession, hnonzero⟩, hsequence, hvalid, harm, haxes, hrange, hstill⟩
  · intro h
    have hopcode : IsUint32 command.opcode := by
      have hmem := h.opcode
      simp only [List.mem_cons, List.not_mem_nil, or_false] at hmem
      unfold IsUint32
      omega
    exact ⟨⟨hopcode, h.session.1, h.sequence, h.validUntilMs⟩,
      ⟨h.opcode, h.session.2, h.armSequence⟩, h.axes, h.range, h.still⟩

theorem isUint32_toNat (word : BitVec 32) : IsUint32 word.toNat := by
  have hword := word.isLt
  unfold IsUint32
  omega

/-- Such a value is a word. -/
theorem toNat_ofInt {value : Int} (h : IsUint32 value) : ((BitVec.ofInt 32 value).toNat : Int) = value := by
  obtain ⟨hlow, hhigh⟩ := h
  rw [BitVec.toNat_ofInt]
  omega

variable {m : MobileMessage}

theorem valid_iff : m.valid = true ↔
    m.session ≠ 0 ∧ (m.opcode = .arm → m.sequence = 0) ∧
      ∀ axis, -32767 ≤ m.velocityRaw axis ∧ m.velocityRaw axis ≤ 32767 ∧
        (m.opcode ≠ .velocity → m.velocityRaw axis = 0) := by
  simp only [MobileMessage.valid, Bool.and_eq_true, Bool.or_eq_true, bne_iff_ne, beq_iff_eq,
    decide_eq_true_eq, and_assoc, ← imp_iff_not_or, ne_eq]

theorem sound_ofMessage_iff : (ofMessage m).Sound ↔ m.valid = true := by
  have hzero (word : BitVec 32) : (word.toNat : Int) = 0 ↔ word = 0 := by
    rw [Int.natCast_eq_zero, ← BitVec.toNat_inj]
    rfl
  have harm : ∀ opcode : MobileOpcode, (opcode.toByte.toNat : Int) = 1 ↔ opcode = .arm := by
    rintro (_ | _ | _) <;> decide
  have hvelocity : ∀ opcode : MobileOpcode, (opcode.toByte.toNat : Int) ≠ 2 ↔ opcode ≠ .velocity := by
    rintro (_ | _ | _) <;> decide
  have hopcode : ∀ opcode : MobileOpcode, (opcode.toByte.toNat : Int) ∈ [1, 2, 3] := by
    rintro (_ | _ | _) <;> decide
  rw [valid_iff]
  constructor
  · intro h
    refine ⟨fun hsession => h.session.2 ((hzero _).mpr hsession), fun hopcode => ?_, fun axis => ?_⟩
    · exact (hzero _).mp (h.armSequence ((harm _).mpr hopcode))
    · have hmem := List.mem_map_of_mem (f := m.velocityRaw) (List.mem_finRange axis)
      obtain ⟨hlow, hhigh⟩ := h.range _ hmem
      exact ⟨hlow, hhigh, fun hopcode => h.still ((hvelocity _).mpr hopcode) _ hmem⟩
  · rintro ⟨hsession, hsequence, haxes⟩
    have hall (P : Int → Prop) (h : ∀ axis, P (m.velocityRaw axis)) :
        ∀ v ∈ (ofMessage m).velocityRaw, P v := by
      intro v hv
      obtain ⟨axis, -, rfl⟩ := List.mem_map.mp hv
      exact h axis
    exact
      { opcode := hopcode m.opcode
        session := ⟨isUint32_toNat _, fun h => hsession ((hzero _).mp h)⟩
        sequence := isUint32_toNat _
        validUntilMs := isUint32_toNat _
        armSequence := fun h => (hzero _).mpr (hsequence ((harm _).mp h))
        axes := by simp [ofMessage]
        range := hall _ fun axis => ⟨(haxes axis).1, (haxes axis).2.1⟩
        still := fun h => hall _ fun axis => (haxes axis).2.2 ((hvelocity _).mp h) }

/-- Every command the host passes is one of the firmware. -/
theorem exists_ofMessage {command : MobileCommand} (h : command.Sound) :
    ∃ m, ofMessage m = command := by
  obtain ⟨opcode, session, sequence, validUntilMs, velocityRaw⟩ := command
  obtain ⟨opcode', hopcode⟩ : ∃ opcode' : MobileOpcode, (opcode'.toByte.toNat : Int) = opcode := by
    have hmem := h.opcode
    simp only [List.mem_cons, List.not_mem_nil, or_false] at hmem
    rcases hmem with rfl | rfl | rfl
    · exact ⟨.arm, rfl⟩
    · exact ⟨.velocity, rfl⟩
    · exact ⟨.stop, rfl⟩
  refine ⟨⟨opcode', BitVec.ofInt 32 session, BitVec.ofInt 32 sequence, BitVec.ofInt 32 validUntilMs,
    fun axis => velocityRaw.getD axis 0⟩, ?_⟩
  have haxes : (List.finRange 4).map (fun axis : Axis => velocityRaw.getD axis 0) = velocityRaw := by
    apply List.ext_getElem
    · simpa using h.axes.symm
    · intro index hindex hindex'
      simp [hindex']
  simp only [ofMessage, hopcode, toNat_ofInt h.session.1, toNat_ofInt h.sequence,
    toNat_ofInt h.validUntilMs, haxes]

/-- The host writes what the firmware would. -/
theorem encode_ofMessage (h : m.valid = true) : (ofMessage m).encode = .ok m.packet := by
  have hword (word : BitVec 32) : packLe 4 (word.toNat : Int) = writeU32Le word := by
    rw [packLe_four, BitVec.ofInt_natCast, BitVec.ofNat_toNat, BitVec.setWidth_eq]
  have hbody : [0x41, 0x4D] ++ packLe 1 1 ++ packLe 1 (ofMessage m).opcode ++
      packLe 4 (ofMessage m).session ++ packLe 4 (ofMessage m).sequence ++
      packLe 4 (ofMessage m).validUntilMs ++ (ofMessage m).velocityRaw.flatMap (packLe 4) =
      m.body := by
    simp only [ofMessage, hword, packLe_one, BitVec.ofInt_natCast, BitVec.ofNat_toNat,
      BitVec.setWidth_eq, List.flatMap_map, packLe_four]
    rfl
  unfold encode
  rw [validate_ok_iff.mpr (sound_ofMessage_iff.mpr h)]
  dsimp only [bind, Except.bind]
  rw [hbody, crc32c_eq, hword]
  rfl

end MobileCommand

/-! ## 3. Statuses -/

/-- A little-endian signed integer of `struct`. -/
def unpackI32 (data : List Byte) (offset : Nat) : Int :=
  let word := unpackU32 data offset
  if word < 2 ^ 31 then word else word - 2 ^ 32

theorem unpackI32_eq (data : List Byte) (offset : Nat) :
    unpackI32 data offset = (readU32Le data offset).toInt := by
  unfold unpackI32
  dsimp only
  rw [unpackU32_eq, BitVec.toInt_eq_toNat_cond]
  split_ifs <;> omega

structure MobileStatus where
  kind : Nat
  requestSequence : Nat
  mcuTickMs : Nat
  bootId : Nat
  capabilities : Nat
  session : Nat
  sequence : Nat
  state : Nat
  reason : Nat
  flags : Nat
  feedbackTickMs : Nat
  velocityRaw : List Int
  liftPositionUm : Int
  rejectedFrames : Nat
  deriving DecidableEq

/-- `tuple(range(1, 7)) + tuple(v | 0x80 for v in range(1, 7))`. -/
def replyKinds : List Nat := List.range' 1 6 ++ (List.range' 1 6).map (· ||| 0x80)

/-- `flags & ~31`. -/
def unknownFlags (flags : Nat) : Int := Int.land flags (Int.lnot 31)

/-- The fields are in the order of the format `<2sBB6IBBHI4iiII`. -/
def MobileStatus.decode (data : List Byte) : Except String MobileStatus := do
  raiseIf (data.length ≠ 64 ∨ data.take 3 ≠ [0x41, 0x53, 1]) "invalid mobile status"
  raiseIf (crc32c (data.take 60) ≠ unpackU32 data 60) "status CRC mismatch"
  let status : MobileStatus :=
    { kind := (data.getD 3 0).toNat
      requestSequence := unpackU32 data 4
      mcuTickMs := unpackU32 data 8
      bootId := unpackU32 data 12
      capabilities := unpackU32 data 16
      session := unpackU32 data 20
      sequence := unpackU32 data 24
      state := (data.getD 28 0).toNat
      reason := (data.getD 29 0).toNat
      flags := unpackU16 data 30
      feedbackTickMs := unpackU32 data 32
      velocityRaw := (List.range 4).map fun axis => unpackI32 data (36 + 4 * axis)
      liftPositionUm := unpackI32 data 52
      rejectedFrames := unpackU32 data 56 }
  raiseIf (status.bootId = 0 ∨ status.state > 3 ∨ status.reason > 4 ∨ unknownFlags status.flags ≠ 0)
    "unsupported status fields"
  raiseIf (status.kind ∉ replyKinds) "unsupported reply kind"
  .ok status

structure LiftStatus where
  kind : Nat
  requestSequence : Nat
  mcuTickMs : Nat
  bootId : Nat
  session : Nat
  sequence : Nat
  state : Nat
  fault : Nat
  flags : Nat
  observedMs : Nat
  heightUm : Int
  targetUm : Int
  commandRaw : Int
  currentMa : Int
  positionRaw : Nat
  rejected : Nat
  validUntilMs : Nat

/-- The words are in the order of the formats `<IIIII` and `<IiiiiIII`. -/
def LiftStatus.decode (data : List Byte) : Except String LiftStatus := do
  raiseIf (data.length ≠ 64 ∨ data.take 3 ≠ [0x4C, 0x53, 1] ∨ data.getD 27 0 ≠ 0 ∨
      unpackU32 data 60 ≠ crc32c (data.take 60))
    "invalid lift status"
  let kind := (data.getD 3 0).toNat
  raiseIf (¬ (1 ≤ kind &&& 127 ∧ kind &&& 127 ≤ 6) ∨ (data.getD 24 0).toNat > 6 ∨
      (data.getD 25 0).toNat > 5 ∨ unknownFlags (data.getD 26 0).toNat ≠ 0)
    "invalid lift state"
  let status : LiftStatus :=
    { kind
      requestSequence := unpackU32 data 4
      mcuTickMs := unpackU32 data 8
      bootId := unpackU32 data 12
      session := unpackU32 data 16
      sequence := unpackU32 data 20
      state := (data.getD 24 0).toNat
      fault := (data.getD 25 0).toNat
      flags := (data.getD 26 0).toNat
      observedMs := unpackU32 data 28
      heightUm := unpackI32 data 32
      targetUm := unpackI32 data 36
      commandRaw := unpackI32 data 40
      currentMa := unpackI32 data 44
      positionRaw := unpackU32 data 48
      rejected := unpackU32 data 52
      validUntilMs := unpackU32 data 56 }
  raiseIf (status.bootId = 0 ∨ status.positionRaw ≥ 4096 ∨ status.currentMa < 0)
    "invalid lift feedback"
  .ok status

end Host

/-- **One codec.**  What the host encodes the firmware decodes to the same command, and what the
firmware decodes is what either side encodes of it. -/
theorem mobile_codec_canonical :
    (∀ (command : Host.MobileCommand) (bytes : List Byte), command.encode = .ok bytes →
      ∃ m, MobileMessage.decode bytes = some m ∧ Host.MobileCommand.ofMessage m = command) ∧
    ∀ (bytes : List Byte) (m : MobileMessage), MobileMessage.decode bytes = some m →
      (Host.MobileCommand.ofMessage m).encode = .ok bytes ∧ m.encode = some bytes := by
  constructor
  · intro command bytes h
    obtain ⟨hvalid, -⟩ := check_bind_ok_iff.mp h
    obtain ⟨m, rfl⟩ := Host.MobileCommand.exists_ofMessage
      (Host.MobileCommand.validate_ok_iff.mp hvalid)
    have hm := Host.MobileCommand.sound_ofMessage_iff.mp
      (Host.MobileCommand.validate_ok_iff.mp hvalid)
    obtain rfl : m.packet = bytes :=
      Except.ok.inj ((Host.MobileCommand.encode_ofMessage hm).symm.trans h)
    refine ⟨m, MobileMessage.decode_encode ?_, rfl⟩
    rw [MobileMessage.encode, hm]
    rfl
  · intro bytes m h
    have hm := MobileMessage.valid_of_decode h
    rw [Host.MobileCommand.encode_ofMessage hm, MobileMessage.encode, hm,
      MobileMessage.packet_of_decode h]
    exact ⟨rfl, rfl⟩

theorem mobile_codec_canonical_stop :
    ∃ m, MobileMessage.decode
        (MobileMessage.packet ⟨.stop, 7, 2, 200, fun _ => 0⟩) = some m ∧
      Host.MobileCommand.ofMessage m = ⟨3, 7, 2, 200, [0, 0, 0, 0]⟩ :=
  mobile_codec_canonical.1 _ _ (by decide +kernel)

end MobileBimanual.Mobile
