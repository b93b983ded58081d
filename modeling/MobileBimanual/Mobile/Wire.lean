/-
# The mobile command packet

`mobile_wire.c` in full: an `AM` packet of 36 bytes arms the supervisor, gives it a velocity or
stops it.  The packet layer checks the frame and the deadline; that a command is new, the
supervisor checks, and for STOP the packet layer in its place.

No command is taken twice.  The pair of session and sequence last taken is a ratchet: a command
needs the session in force and, once one was taken in it, a greater sequence, and a session comes
into force by an arm with a greater one.  A stop, a latch or a refused packet moves neither.
-/
import MobileBimanual.Lib.Ratchet
import MobileBimanual.Mobile.SupervisorRun
import MobileBimanual.Wire.Crc
import Mathlib.Data.Prod.Lex

namespace MobileBimanual.Mobile

open MobileBimanual.Stream (Byte Tick readU32Le writeU32Le)
open MobileBimanual.Wire (crc32c)
open Machine

/-! ## 1. The message -/

inductive MobileOpcode where
  | arm
  | velocity
  | stop
  deriving DecidableEq

def MobileOpcode.ofByte? (byte : Byte) : Option MobileOpcode :=
  match byte.toNat with
  | 1 => some .arm
  | 2 => some .velocity
  | 3 => some .stop
  | _ => none

def MobileOpcode.toByte : MobileOpcode → Byte
  | .arm => 1
  | .velocity => 2
  | .stop => 3

structure MobileMessage where
  opcode : MobileOpcode
  session : Tick
  sequence : Tick
  validUntilMs : Tick
  velocityRaw : Axis → Int

namespace MobileMessage

def valid (m : MobileMessage) : Bool :=
  m.session != 0 && (m.opcode != .arm || m.sequence == 0) &&
    decide (∀ axis, -32767 ≤ m.velocityRaw axis ∧ m.velocityRaw axis ≤ 32767 ∧
      (m.opcode ≠ .velocity → m.velocityRaw axis = 0))

/-- The bytes under the checksum. -/
def body (m : MobileMessage) : List Byte :=
  [0x41, 0x4D, 1, m.opcode.toByte] ++ writeU32Le m.session ++ writeU32Le m.sequence ++
    writeU32Le m.validUntilMs ++ writeU32Le (BitVec.ofInt 32 (m.velocityRaw 0)) ++
    writeU32Le (BitVec.ofInt 32 (m.velocityRaw 1)) ++
    writeU32Le (BitVec.ofInt 32 (m.velocityRaw 2)) ++
    writeU32Le (BitVec.ofInt 32 (m.velocityRaw 3))

def packet (m : MobileMessage) : List Byte := m.body ++ writeU32Le (crc32c m.body)

def encode (m : MobileMessage) : Option (List Byte) := if !m.valid then none else some m.packet

/-- A velocity on the wire is a 32-bit two's complement word. -/
def decode (packet : List Byte) : Option MobileMessage :=
  if packet.length != 36 || packet.getD 0 0 != 0x41 || packet.getD 1 0 != 0x4D ||
      packet.getD 2 0 != 1 || readU32Le packet 32 != crc32c (packet.take 32) then none
  else
    match MobileOpcode.ofByte? (packet.getD 3 0) with
    | none => none
    | some opcode =>
      let candidate : MobileMessage :=
        { opcode
          session := readU32Le packet 4
          sequence := readU32Le packet 8
          validUntilMs := readU32Le packet 12
          velocityRaw := fun axis => (readU32Le packet (16 + 4 * axis)).toInt }
      if candidate.valid then some candidate else none

variable {packet : List Byte}

theorem valid_of_decode {m : MobileMessage} (h : decode packet = some m) : m.valid = true := by
  unfold decode at h
  dsimp only at h
  split_ifs at h
  split at h
  · cases h
  · split_ifs at h with hvalid
    cases h
    exact hvalid

@[simp] theorem ofByte?_toByte (opcode : MobileOpcode) :
    MobileOpcode.ofByte? opcode.toByte = some opcode := by
  cases opcode <;> rfl

theorem toByte_of_ofByte? {byte : Byte} {opcode : MobileOpcode}
    (h : MobileOpcode.ofByte? byte = some opcode) : opcode.toByte = byte := by
  unfold MobileOpcode.ofByte? at h
  split at h <;> cases h
  all_goals exact (BitVec.eq_of_toNat_eq ‹_›).symm

section Layout

variable (m : MobileMessage)

@[simp] theorem length_body : m.body.length = 32 := rfl

@[simp] theorem packet_body : m.packet.take 32 = m.body := List.take_left' m.length_body

@[simp] theorem packet_opcode : m.packet.getD 3 0 = m.opcode.toByte := rfl

@[simp] theorem packet_session : readU32Le m.packet 4 = m.session :=
  Stream.readU32Le_writeU32Le m.session []

@[simp] theorem packet_sequence : readU32Le m.packet 8 = m.sequence :=
  Stream.readU32Le_writeU32Le m.sequence []

@[simp] theorem packet_validUntilMs : readU32Le m.packet 12 = m.validUntilMs :=
  Stream.readU32Le_writeU32Le m.validUntilMs []

@[simp] theorem packet_velocityRaw (axis : Axis) :
    readU32Le m.packet (16 + 4 * axis) = BitVec.ofInt 32 (m.velocityRaw axis) := by
  match axis with
  | 0 => exact Stream.readU32Le_writeU32Le (BitVec.ofInt 32 (m.velocityRaw 0)) []
  | 1 => exact Stream.readU32Le_writeU32Le (BitVec.ofInt 32 (m.velocityRaw 1)) []
  | 2 => exact Stream.readU32Le_writeU32Le (BitVec.ofInt 32 (m.velocityRaw 2)) []
  | 3 => exact Stream.readU32Le_writeU32Le (BitVec.ofInt 32 (m.velocityRaw 3)) []

@[simp] theorem packet_crc : readU32Le m.packet 32 = crc32c m.body :=
  Stream.readU32Le_writeU32Le (crc32c m.body) []

end Layout

/-- **What is encoded is decoded as it was.** -/
theorem decode_encode {m : MobileMessage} (h : m.encode = some packet) :
    decode packet = some m := by
  unfold encode at h
  split_ifs at h with hvalid
  rw [Bool.not_eq_true', Bool.not_eq_false] at hvalid
  cases h
  have hframe : (m.packet.length != 36 || m.packet.getD 0 0 != 0x41 || m.packet.getD 1 0 != 0x4D ||
      m.packet.getD 2 0 != 1 || readU32Le m.packet 32 != crc32c (m.packet.take 32)) = false := by
    rw [packet_crc, packet_body, bne_self_eq_false, Bool.or_false]
    rfl
  have hword : ∀ axis, (BitVec.ofInt 32 (m.velocityRaw axis)).toInt = m.velocityRaw axis := by
    intro axis
    simp only [valid, Bool.and_eq_true, decide_eq_true_eq] at hvalid
    obtain ⟨hlow, hhigh, -⟩ := hvalid.2 axis
    rw [BitVec.toInt_ofInt, Int.bmod_eq_of_le (by omega) (by omega)]
  unfold decode
  simp only [hframe, packet_opcode, ofByte?_toByte, packet_session, packet_sequence,
    packet_validUntilMs, packet_velocityRaw, hword, hvalid, Bool.false_eq_true, if_false, if_true]

/-- **What is decoded is encoded as it was**, every byte of it. -/
theorem packet_of_decode {m : MobileMessage} (h : decode packet = some m) : m.packet = packet := by
  unfold decode at h
  dsimp only at h
  split_ifs at h with hframe
  split at h
  · cases h
  rename_i opcode hopcode
  split_ifs at h with hvalid
  cases h
  simp only [Bool.or_eq_true, bne_iff_ne, ne_eq, not_or, not_not] at hframe
  obtain ⟨⟨⟨⟨hlength, h0⟩, h1⟩, h2⟩, hcrc⟩ := hframe
  have hbytes := Stream.eq_map_getD hlength
  have hhead : packet.take 32 = (List.range 32).map (packet.getD · 0) :=
    (congrArg (List.take 32) hbytes).trans rfl
  have htail : packet.drop 32 = [packet.getD 32 0, packet.getD 33 0, packet.getD 34 0,
      packet.getD 35 0] := (congrArg (List.drop 32) hbytes).trans rfl
  unfold MobileMessage.packet
  rw [show MobileMessage.body _ = packet.take 32 from ?_, ← hcrc, Stream.writeU32Le_readU32Le,
    ← htail, List.take_append_drop]
  unfold body
  simp only [toByte_of_ofByte? hopcode, BitVec.ofInt_toInt, Stream.writeU32Le_readU32Le]
  rw [hhead, ← h0, ← h1, ← h2]
  rfl

end MobileMessage

/-! ## 2. The operation -/

namespace MobileSupervisor

/-- An invalid packet still polls the watchdog. -/
def apply (s : MobileSupervisor) (packet : List Byte) (nowMs : Tick) : MobileSupervisor × Bool :=
  let s := s.poll nowMs
  if !s.configured then (s, false)
  else
    match MobileMessage.decode packet with
    | none => (s, false)
    | some m =>
      let remaining := m.validUntilMs - nowMs
      if remaining == 0 || s.config.commandTimeoutMs < remaining then (s, false)
      else
        match m.opcode with
        | .arm => s.arm m.session nowMs
        | .velocity => s.commandUntil m.session m.sequence m.velocityRaw m.validUntilMs nowMs
        | .stop =>
          if m.session != s.session || s.state == .disabled ||
              (s.haveSequence && m.sequence ≤ s.sequence) then (s, false)
          else ({ s.stop with sequence := m.sequence, haveSequence := true }, true)

/-- What happens to the supervisor: a packet arrives, or one of its operations is called. -/
inductive Event where
  | packet (bytes : List Byte) (nowMs : Tick)
  | call (c : SupervisorCall)

def step (s : MobileSupervisor) : Event → MobileSupervisor
  | .packet bytes nowMs => (s.apply bytes nowMs).1
  | .call c => s.call c

/-- What the supervisor took: the packet, unless it was called directly, and what it said. -/
structure Taken where
  packet : Option (List Byte)
  opcode : MobileOpcode
  session : Tick
  sequence : Tick

/-- An arm carries no sequence; on the wire it is 0. -/
def taken (s : MobileSupervisor) : Event → Option Taken
  | .packet bytes nowMs =>
    if (s.apply bytes nowMs).2 then
      (MobileMessage.decode bytes).map fun m => ⟨some bytes, m.opcode, m.session, m.sequence⟩
    else none
  | .call (.arm session nowMs) =>
    if (s.arm session nowMs).2 then some ⟨none, .arm, session, 0⟩ else none
  | .call (.command session sequence velocityRaw nowMs) =>
    if (s.command session sequence velocityRaw nowMs).2 then
      some ⟨none, .velocity, session, sequence⟩
    else none
  | .call (.commandUntil session sequence velocityRaw validUntilMs nowMs) =>
    if (s.commandUntil session sequence velocityRaw validUntilMs nowMs).2 then
      some ⟨none, .velocity, session, sequence⟩
    else none
  | .call _ => none

/-- All that a run takes, in order. -/
def takenIn (s : MobileSupervisor) (events : List Event) : List Taken :=
  Ratchet.log step taken s events

namespace Taken

/-- The lexicographic order of session and sequence. -/
def Newer (a b : Taken) : Prop :=
  b.session < a.session ∨ (a.session = b.session ∧ b.sequence < a.sequence)

/-- An arm ranks below every command of its session. -/
def rank (t : Taken) : ℕ ×ₗ ℕ :=
  toLex (t.session.toNat, if t.opcode = .arm then 0 else t.sequence.toNat + 1)

end Taken

/-! ## 3. The ratchet -/

/-- Where the supervisor stands: its session and what it has taken in it. -/
def level (s : MobileSupervisor) : ℕ ×ₗ ℕ :=
  toLex (s.session.toNat, if s.haveSequence then s.sequence.toNat + 1 else 0)

variable (s : MobileSupervisor)

@[simp] theorem level_poll (now : Tick) : (s.poll now).level = s.level := by
  rcases s.poll_eq now with heq | ⟨reason, heq⟩ <;> rw [heq]
  rfl

@[simp] theorem level_stop : s.stop.level = s.level := by
  unfold stop
  split <;> rfl

theorem level_observe (feedback : MobileFeedback) (now : Tick) :
    (s.observe feedback now).1.level = s.level := by
  rcases s.observe_cases feedback now with ⟨-, heq⟩ | heq | heq <;> rw [heq]
  · exact s.level_poll now
  · exact (level_poll _ now).trans (s.level_poll now)

/-- An operation leaves the level, or takes something that ranks above it and lifts it there. -/
def Turns (s s' : MobileSupervisor) (ok : Bool) (t : Taken) : Prop :=
  (ok = false ∧ s'.level = s.level) ∨ (ok = true ∧ s.level < t.rank ∧ s'.level = t.rank)

theorem turns_arm (session now : Tick) (packet : Option (List Byte)) (sequence : Tick) :
    Turns s (s.arm session now).1 (s.arm session now).2 ⟨packet, .arm, session, sequence⟩ := by
  rcases s.arm_cases session now with heq | ⟨-, hgreater, -, -, heq⟩ <;> rw [heq]
  · exact Or.inl ⟨rfl, s.level_poll now⟩
  · right
    refine ⟨rfl, ?_, rfl⟩
    rw [← s.level_poll now]
    exact Prod.Lex.toLex_lt_toLex.mpr (Or.inl hgreater)

/-- A sequence that is new in the session in force ranks above the level. -/
theorem level_lt_rank {s : MobileSupervisor} {packet : Option (List Byte)} {opcode : MobileOpcode}
    {sequence : Tick} (hcommand : opcode ≠ .arm)
    (hnew : s.haveSequence = true → s.sequence < sequence) :
    s.level < Taken.rank ⟨packet, opcode, s.session, sequence⟩ := by
  refine Prod.Lex.toLex_lt_toLex.mpr (Or.inr ⟨rfl, ?_⟩)
  rw [if_neg hcommand]
  split
  · rename_i hhave
    exact Nat.succ_lt_succ (BitVec.lt_def.mp (hnew hhave))
  · exact Nat.succ_pos _

theorem turns_command (session sequence : Tick) (velocity : Axis → Int) (now : Tick)
    (packet : Option (List Byte)) :
    Turns s (s.command session sequence velocity now).1
      (s.command session sequence velocity now).2 ⟨packet, .velocity, session, sequence⟩ := by
  rcases s.command_cases session sequence velocity now with
    heq | ⟨-, rfl, -, hnew, -, -, heq⟩ <;> rw [heq]
  · exact Or.inl ⟨rfl, s.level_poll now⟩
  · right
    refine ⟨rfl, ?_, rfl⟩
    rw [← s.level_poll now]
    exact level_lt_rank (by decide) hnew

theorem turns_commandUntil (session sequence : Tick) (velocity : Axis → Int) (validUntil now : Tick)
    (packet : Option (List Byte)) :
    Turns s (s.commandUntil session sequence velocity validUntil now).1
      (s.commandUntil session sequence velocity validUntil now).2
      ⟨packet, .velocity, session, sequence⟩ := by
  rcases s.commandUntil_cases session sequence velocity validUntil now with
    heq | ⟨-, hok, heq⟩ <;> rw [heq]
  · exact Or.inl ⟨rfl, s.level_poll now⟩
  · have hturns := s.turns_command session sequence velocity now packet
    rw [hok] at hturns
    rcases hturns with ⟨hno, -⟩ | ⟨-, habove, hreaches⟩
    · cases hno
    · exact Or.inr ⟨rfl, habove, hreaches⟩

/-- **A packet**: refused after a poll, or handed to the operation of its opcode. -/
theorem apply_cases (packet : List Byte) (now : Tick) :
    s.apply packet now = (s.poll now, false) ∨
    ∃ m, MobileMessage.decode packet = some m ∧
      ((m.opcode = .arm ∧ s.apply packet now = (s.poll now).arm m.session now) ∨
      (m.opcode = .velocity ∧ s.apply packet now =
        (s.poll now).commandUntil m.session m.sequence m.velocityRaw m.validUntilMs now) ∨
      (m.opcode = .stop ∧ m.session = (s.poll now).session ∧
        ((s.poll now).haveSequence = true → (s.poll now).sequence < m.sequence) ∧
        s.apply packet now =
          ({ (s.poll now).stop with sequence := m.sequence, haveSequence := true }, true))) := by
  unfold apply
  dsimp only
  split
  · exact Or.inl rfl
  rcases MobileMessage.decode packet with - | m
  · exact Or.inl rfl
  dsimp only
  split
  · exact Or.inl rfl
  rcases hop : m.opcode with - | - | -
  · exact Or.inr ⟨m, rfl, Or.inl ⟨hop, rfl⟩⟩
  · exact Or.inr ⟨m, rfl, Or.inr (Or.inl ⟨hop, rfl⟩)⟩
  · dsimp only
    split
    · exact Or.inl rfl
    · rename_i hrefuse
      simp only [Bool.or_eq_true, bne_iff_ne, ne_eq, beq_iff_eq, Bool.and_eq_true,
        decide_eq_true_eq, not_or, not_not, not_and, BitVec.not_le] at hrefuse
      exact Or.inr ⟨m, rfl, Or.inr (Or.inr ⟨hop, hrefuse.1.1, hrefuse.2, rfl⟩)⟩

/-- A packet that is taken moves the ratchet to what it says. -/
theorem turns_apply (packet : List Byte) (now : Tick) :
    ((s.apply packet now).2 = false ∧ (s.apply packet now).1.level = s.level) ∨
    ∃ m, MobileMessage.decode packet = some m ∧ Turns s (s.apply packet now).1
      (s.apply packet now).2 ⟨some packet, m.opcode, m.session, m.sequence⟩ := by
  rcases s.apply_cases packet now with
    heq | ⟨m, hdecode, ⟨hop, heq⟩ | ⟨hop, heq⟩ | ⟨hop, hsession, hnew, heq⟩⟩ <;> rw [heq]
  · exact Or.inl ⟨rfl, s.level_poll now⟩
  · have hturns := (s.poll now).turns_arm m.session now (some packet) m.sequence
    rw [Turns, level_poll] at hturns
    exact Or.inr ⟨m, hdecode, hop ▸ hturns⟩
  · have hturns := (s.poll now).turns_commandUntil m.session m.sequence m.velocityRaw
      m.validUntilMs now (some packet)
    rw [Turns, level_poll] at hturns
    exact Or.inr ⟨m, hdecode, hop ▸ hturns⟩
  · refine Or.inr ⟨m, hdecode, Or.inr ⟨rfl, ?_, ?_⟩⟩
    · rw [← s.level_poll now, hsession]
      exact level_lt_rank (by rw [hop]; decide) hnew
    · have hkept : (s.poll now).stop.session = m.session := by
        unfold stop
        split
        · exact hsession.symm
        · exact hsession.symm
      simp [level, Taken.rank, hop, hkept]

/-- **Session and sequence are a ratchet for what is taken.** -/
theorem ratchet : Ratchet.Holds step taken level Taken.rank := by
  have hturn : ∀ s e, (taken s e = none ∧ (step s e).level = s.level) ∨
      ∃ t, taken s e = some t ∧ s.level < t.rank ∧ (step s e).level = t.rank := by
    intro s e
    cases e with
    | packet bytes now =>
      simp only [taken, step]
      rcases s.turns_apply bytes now with
        ⟨hno, hlevel⟩ | ⟨m, hdecode, ⟨hno, hlevel⟩ | ⟨hok, habove, hreaches⟩⟩
      · exact Or.inl ⟨by simp [hno], hlevel⟩
      · exact Or.inl ⟨by simp [hno], hlevel⟩
      · exact Or.inr ⟨_, by simp [hok, hdecode], habove, hreaches⟩
    | call c =>
      cases c with
      | observe feedback now => exact Or.inl ⟨rfl, s.level_observe feedback now⟩
      | arm session now =>
        simp only [taken, step, call]
        rcases s.turns_arm session now none 0 with ⟨hno, hlevel⟩ | ⟨hok, habove, hreaches⟩
        · exact Or.inl ⟨by simp [hno], hlevel⟩
        · exact Or.inr ⟨_, by simp [hok], habove, hreaches⟩
      | command session sequence velocity now =>
        simp only [taken, step, call]
        rcases s.turns_command session sequence velocity now none with
          ⟨hno, hlevel⟩ | ⟨hok, habove, hreaches⟩
        · exact Or.inl ⟨by simp [hno], hlevel⟩
        · exact Or.inr ⟨_, by simp [hok], habove, hreaches⟩
      | commandUntil session sequence velocity validUntil now =>
        simp only [taken, step, call]
        rcases s.turns_commandUntil session sequence velocity validUntil now none with
          ⟨hno, hlevel⟩ | ⟨hok, habove, hreaches⟩
        · exact Or.inl ⟨by simp [hno], hlevel⟩
        · exact Or.inr ⟨_, by simp [hok], habove, hreaches⟩
      | poll now => exact Or.inl ⟨rfl, s.level_poll now⟩
      | stop => exact Or.inl ⟨rfl, s.level_stop⟩
  refine ⟨fun s e => ?_, fun s e t ht => ?_, fun s e t ht => ?_⟩
  · rcases hturn s e with ⟨-, hlevel⟩ | ⟨t, -, habove, hreaches⟩
    · exact hlevel.ge
    · exact hreaches ▸ habove.le
  · rcases hturn s e with ⟨hno, -⟩ | ⟨t', hsome, habove, -⟩
    · rw [hno] at ht
      cases ht
    · rw [hsome] at ht
      cases ht
      exact habove
  · rcases hturn s e with ⟨hno, -⟩ | ⟨t', hsome, -, hreaches⟩
    · rw [hno] at ht
      cases ht
    · rw [hsome] at ht
      cases ht
      exact hreaches.ge

namespace Taken

/-- Commands are newer exactly in the order of their ranks. -/
theorem newer_of_rank_lt {a b : Taken} (ha : a.opcode ≠ .arm) (h : a.rank < b.rank) :
    b.Newer a := by
  rcases Prod.Lex.toLex_lt_toLex.mp h with hsession | ⟨hsession, hsequence⟩
  · exact Or.inl hsession
  · rw [if_neg ha] at hsequence
    refine Or.inr ⟨(BitVec.eq_of_toNat_eq hsession).symm, BitVec.lt_def.mpr ?_⟩
    split at hsequence
    · omega
    · omega

/-- What ranks higher is not older, provided an arm carries sequence 0. -/
theorem not_newer_of_rank_lt {a b : Taken} (ha : a.opcode = .arm → a.sequence = 0)
    (h : a.rank < b.rank) : ¬ a.Newer b := by
  intro hnewer
  rcases Prod.Lex.toLex_lt_toLex.mp h with hsession | ⟨hsession, hsequence⟩
  · rcases hnewer with hlater | ⟨hsame, -⟩
    · exact absurd (BitVec.lt_def.mp hlater) (by omega)
    · rw [hsame] at hsession
      exact absurd hsession (lt_irrefl _)
  · rcases hnewer with hlater | ⟨-, hlater⟩
    · exact absurd (BitVec.lt_def.mp hlater) (by omega)
    · by_cases harm : a.opcode = .arm
      · rw [ha harm] at hlater
        exact absurd (BitVec.lt_def.mp hlater) (by simp)
      · rw [if_neg harm] at hsequence
        rw [BitVec.lt_def] at hlater
        split at hsequence
        · omega
        · omega

end Taken

theorem taken_says {s : MobileSupervisor} {e : Event} {t : Taken} (h : taken s e = some t) :
    (t.opcode = .arm → t.sequence = 0) ∧
      ∀ bytes, t.packet = some bytes → ∃ m, MobileMessage.decode bytes = some m ∧
        t = ⟨some bytes, m.opcode, m.session, m.sequence⟩ := by
  cases e with
  | packet bytes now =>
    simp only [taken] at h
    split at h
    · obtain ⟨m, hdecode, rfl⟩ := Option.map_eq_some_iff.mp h
      refine ⟨fun harm => ?_, fun bytes' hbytes => ?_⟩
      · have hvalid := MobileMessage.valid_of_decode hdecode
        simp only [MobileMessage.valid, Bool.and_eq_true, Bool.or_eq_true, bne_iff_ne, ne_eq,
          beq_iff_eq] at hvalid
        exact hvalid.1.2.resolve_left (not_not.mpr harm)
      · cases hbytes
        exact ⟨m, hdecode, rfl⟩
    · cases h
  | call c =>
    cases c with
    | arm session now =>
      simp only [taken] at h
      split at h
      · cases h
        exact ⟨fun _ => rfl, nofun⟩
      · cases h
    | command session sequence velocity now =>
      simp only [taken] at h
      split at h
      · cases h
        exact ⟨nofun, nofun⟩
      · cases h
    | commandUntil session sequence velocity validUntil now =>
      simp only [taken] at h
      split at h
      · cases h
        exact ⟨nofun, nofun⟩
      · cases h
    | _ => cases h

/-- **No command is taken twice, and none after a newer one.**  Over every run of packets of any
bytes, arms, stops and the other operations: the commands taken come in strictly increasing
session and sequence; no packet, of whatever opcode, is taken twice; and nothing is taken after
something newer. -/
theorem no_replay (config : MobileConfig) (events : List Event) :
    let log := takenIn (init config).1 events
    ((log.filter fun t => t.opcode ≠ .arm).Pairwise fun a b => b.Newer a) ∧
    (log.filterMap (·.packet)).Nodup ∧
    log.Pairwise fun a b => ¬ a.Newer b := by
  intro log
  have hranks : log.Pairwise fun a b => a.rank < b.rank := ratchet.pairwise_log events _
  have hspeaks : ∀ t ∈ log, (t.opcode = .arm → t.sequence = 0) ∧
      ∀ bytes, t.packet = some bytes → ∃ m, MobileMessage.decode bytes = some m ∧
        t = ⟨some bytes, m.opcode, m.session, m.sequence⟩ :=
    Ratchet.forall_log (fun _ _ _ => taken_says) _ events
  refine ⟨?_, ?_, ?_⟩
  · rw [List.pairwise_filter]
    exact hranks.imp fun hlt ha _ => Taken.newer_of_rank_lt (by simpa using ha) hlt
  · rw [List.Nodup, List.pairwise_filterMap]
    refine hranks.imp_of_mem fun {a b} ha hb hlt bytes hbytes bytes' hbytes' => ?_
    rintro rfl
    obtain ⟨m, hdecode, heq⟩ := (hspeaks a ha).2 bytes hbytes
    obtain ⟨m', hdecode', heq'⟩ := (hspeaks b hb).2 bytes hbytes'
    rw [hdecode] at hdecode'
    cases hdecode'
    rw [heq, heq'] at hlt
    exact absurd hlt (lt_irrefl _)
  · exact hranks.imp_of_mem fun {a b} ha _ hlt =>
      Taken.not_newer_of_rank_lt (hspeaks a ha).1 hlt

end MobileSupervisor

end MobileBimanual.Mobile
