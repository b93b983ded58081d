/-
# The host's reader on a port

`_read_packet` and `_receive` of `stream_transport_v2.py`.  The port hands bytes over in pieces
of any size; those behind the last zero are kept, the newest 4096 at most.  A frame is shorter,
so a reply is looked for in the chunks between the zeros, each decoded alone, whatever the
pieces (`receive_inOrder`), and what the firmware sends is found there (`frames_sent`).
-/
import MobileBimanual.Wire.Host

namespace MobileBimanual.Wire.Host

open MobileBimanual.Stream (Byte)

/-! ## 1. The reader -/

/-- `_rx_residual`, and what the calls of `read_until` are going to return. -/
structure Reader where
  rxResidual : List Byte
  chunks : List (List Byte)

def maxResidual : Nat := 4096

/-- `del self._rx_residual[:-4096]`, of a residual that is longer. -/
def newest (residual : List Byte) : List Byte := residual.drop (residual.length - maxResidual)

namespace Reader

/-- The packet up to the first zero; where there is none, the newest bytes are kept. -/
def cut (r : Reader) : Option (List Byte) × Reader :=
  if 0 ∈ r.rxResidual then
    let index := r.rxResidual.idxOf 0
    (some (r.rxResidual.take (index + 1)),
      { r with rxResidual := r.rxResidual.drop (index + 1) })
  else (none, { r with rxResidual := newest r.rxResidual })

/-- `_read_packet`; the port may time out with an empty chunk. -/
def readPacket (r : Reader) : Option (List Byte) × Reader :=
  if 0 ∈ r.rxResidual then r.cut
  else
    match r.chunks with
    | [] => (none, r)
    | chunk :: chunks =>
      if chunk = [] then (none, { r with chunks })
      else cut { rxResidual := r.rxResidual ++ chunk, chunks }

/-- The reply that is waited for. -/
abbrev Answers (sequence : Nat) (messageType : StreamMessageTypeV2) (frame : FrameV2) : Prop :=
  frame.sequence = sequence ∧ frame.messageType = messageType

/-- `_receive`; the clock is before the deadline `rounds` times. -/
def receive (sequence : Nat) (messageType : StreamMessageTypeV2) :
    Nat → Reader → Option FrameV2 × Reader
  | 0, r => (none, r)
  | rounds + 1, r =>
    match r.readPacket with
    | (none, r) => receive sequence messageType rounds r
    | (some packet, r) =>
      match decodeFrameV2 packet with
      | .error _ => receive sequence messageType rounds r
      | .ok frame =>
        if Answers sequence messageType frame then (some frame, r)
        else receive sequence messageType rounds r

end Reader

/-! ## 2. The frames of a string -/

/-- The frames of the chunks that end in a zero, each taken alone. -/
def frames (bytes : List Byte) : List FrameV2 :=
  (bytes.splitOn 0).dropLast.filterMap fun chunk => (decodeFrameV2 chunk).toOption

variable {chunk bytes rest : List Byte}

theorem frames_chunk (h : 0 ∉ chunk) :
    frames (chunk ++ 0 :: rest) = (decodeFrameV2 chunk).toOption.toList ++ frames rest := by
  rw [frames, List.splitOn_append_cons_self_of_not_mem h,
    List.dropLast_cons_of_ne_nil (List.splitOn_ne_nil 0 rest), List.filterMap_cons]
  cases decodeFrameV2 chunk <;> rfl

theorem frames_noZero (h : 0 ∉ bytes) : frames bytes = [] := by
  rw [frames, List.splitOn_eq_singleton h]
  rfl

/-- A chunk that fills the residual is no frame. -/
theorem decodeFrameV2_long (hzero : 0 ∉ chunk) (hlong : maxResidual ≤ chunk.length) :
    (decodeFrameV2 chunk).toOption = none := by
  cases hdecode : decodeFrameV2 chunk with
  | error => rfl
  | ok frame =>
    obtain ⟨decoded, hcobs, ⟨hlength, hsize, -⟩, -⟩ := (decodeFrameV2_ok_iff hzero).mp hdecode
    have hshort := Cobs.length_le_of_decode hcobs
    unfold Wire.headerSize Wire.crcSize at hlength
    unfold Wire.maxPayload at hsize
    unfold maxResidual at hlong
    omega

theorem newest_noZero (hzero : 0 ∉ chunk) : 0 ∉ newest chunk :=
  fun hmem => hzero (List.mem_of_mem_drop hmem)

/-- **What is dropped from the residual belonged to no frame.** -/
theorem frames_newest (hzero : 0 ∉ chunk) (rest : List Byte) :
    frames (newest chunk ++ rest) = frames (chunk ++ rest) := by
  rcases Nat.le_total chunk.length maxResidual with hfits | hlong
  · rw [newest, Nat.sub_eq_zero_of_le hfits, List.drop_zero]
  have hkept := newest_noZero hzero
  by_cases hrest : 0 ∈ rest
  · obtain ⟨more, rest, rfl, hmore⟩ := List.eq_append_cons_of_mem hrest
    have hno : ∀ {front : List Byte}, 0 ∉ front → maxResidual ≤ front.length →
        frames (front ++ (more ++ 0 :: rest)) = frames rest := by
      intro front hfront hfull
      have hzero := List.not_mem_append hfront hmore
      rw [← List.append_assoc, frames_chunk hzero, decodeFrameV2_long hzero]
      · rfl
      · rw [List.length_append]
        omega
    rw [hno hzero hlong, hno hkept]
    rw [newest, List.length_drop]
    omega
  · rw [frames_noZero (List.not_mem_append hzero hrest), frames_noZero (List.not_mem_append hkept hrest)]

/-- **What the firmware sends is what there is to read.** -/
theorem frames_sent {build : ProtocolBuild} (hversion : build.version = 2) (sent : List Frame)
    (hsent : ∀ frame ∈ sent, messageIsKnown build frame.messageType ∧
      frame.messageType.toNat ∈ streamMessageTypesV2 ∧ frame.payload.length ≤ Wire.maxPayload) :
    List.Forall₂ FrameV2.Is (frames (sent.flatMap fun frame => stuffed build frame ++ [0])) sent := by
  induction sent with
  | nil => exact .nil
  | cons frame sent ih =>
    obtain ⟨⟨hknown, hlisted, hsize⟩, hrest⟩ := List.forall_mem_cons.mp hsent
    obtain ⟨decoded, hcobs, hintact, -, hread⟩ :=
      (frameDecode_ok_iff hversion).mp (frameDecode_stuffed hknown hsize)
    have his : FrameV2.Is ⟨⟨frame.messageType.toNat, hlisted⟩, frame.flags.toNat,
        frame.sequence.toNat, frame.senderTimeMs.toNat, frame.payload⟩ frame :=
      ⟨rfl, rfl, rfl, rfl, rfl⟩
    have hdecode := (decodeFrameV2_ok_iff zero_notMem_stuffed).mpr
      ⟨decoded, hcobs, hintact, by rwa [← hread]⟩
    rw [List.flatMap_cons, List.append_assoc, List.singleton_append,
      frames_chunk zero_notMem_stuffed, hdecode]
    exact .cons his (ih hrest)

theorem frames_sent_safeStop :
    let build : ProtocolBuild := ⟨2, true, true, true, true, true, true⟩
    let sent : List Frame := [⟨20, 0, 7, 1000, [1, 0, 255]⟩, ⟨20, 0, 8, 1005, []⟩]
    List.Forall₂ FrameV2.Is (frames (sent.flatMap fun frame => stuffed build frame ++ [0])) sent :=
  frames_sent rfl [⟨20, 0, 7, 1000, [1, 0, 255]⟩, ⟨20, 0, 8, 1005, []⟩] (by decide)

/-! ## 3. In order, each once -/

namespace Reader

/-- All that was received and not handed out, and that is going to be received. -/
def unread (r : Reader) : List Byte := r.rxResidual ++ r.chunks.flatten

/-- The chunks to come and the packets to hand out: so many rounds may be needed. -/
def waiting (r : Reader) : Nat := r.chunks.length + r.unread.count 0

/-- One round: what is handed out is the first chunk, and all else is still to be read. -/
structure Reads (r r' : Reader) (packet : Option (List Byte)) : Prop where
  frames : frames r.unread =
    (packet.bind fun packet => (decodeFrameV2 packet).toOption).toList ++ frames r'.unread
  waiting : r'.waiting ≤ r.waiting - 1

variable {r r' : Reader} {packet : Option (List Byte)}

theorem cut_zero (hzero : 0 ∈ r.rxResidual) : Reads r r.cut.2 r.cut.1 := by
  obtain ⟨residual, chunks⟩ := r
  obtain ⟨chunk, rest, rfl, hchunk⟩ := List.eq_append_cons_of_mem hzero
  have hcut : cut ⟨chunk ++ 0 :: rest, chunks⟩ = (some (chunk ++ [0]), ⟨rest, chunks⟩) := by
    unfold cut
    rw [if_pos hzero, List.idxOf_append, if_neg hchunk, List.idxOf_cons_self, Nat.zero_add]
    simp [List.take_append, List.drop_append]
  have htrim : trimZero (chunk ++ [0]) = trimZero chunk := by
    have hlast : chunk.getLast? ≠ some 0 := fun h => hchunk (List.mem_of_getLast? h)
    rw [trimZero, trimZero, List.getLast?_concat, if_pos rfl, List.dropLast_concat, if_neg hlast]
  rw [hcut]
  constructor
  · simp only [unread, List.append_assoc, List.cons_append, frames_chunk hchunk,
      Option.bind_some, decodeFrameV2, htrim]
  · simp only [waiting, unread, List.append_assoc, List.cons_append, List.count_append,
      List.count_cons_self]
    omega

theorem cut_noZero (hzero : 0 ∉ r.rxResidual) :
    ∃ kept, r.cut = (none, { r with rxResidual := kept }) ∧ 0 ∉ kept ∧
      ∀ rest, frames (kept ++ rest) = frames (r.rxResidual ++ rest) :=
  ⟨newest r.rxResidual, by rw [cut, if_neg hzero], newest_noZero hzero, frames_newest hzero⟩

/-- **A round hands out the next chunk, or nothing.** -/
theorem reads_readPacket (r : Reader) : Reads r r.readPacket.2 r.readPacket.1 := by
  unfold readPacket
  split
  · exact cut_zero (by assumption)
  rename_i hzero
  split
  · rename_i hchunks
    refine ⟨rfl, ?_⟩
    simp only [waiting, unread, hchunks, List.flatten_nil, List.append_nil,
      List.count_eq_zero_of_not_mem hzero, List.length_nil, le_refl]
  rename_i chunk chunks hchunks
  generalize hnext : (⟨r.rxResidual ++ chunk, chunks⟩ : Reader) = next
  have hunread : next.unread = r.unread := by
    simp only [← hnext, unread, hchunks, List.flatten_cons, List.append_assoc]
  have hlength : next.chunks.length + 1 = r.chunks.length := by
    simp only [← hnext, hchunks, List.length_cons]
  have hwaiting : next.waiting = r.waiting - 1 := by
    simp only [waiting, hunread]
    omega
  split
  · rename_i hempty
    rw [hempty, List.append_nil] at hnext
    rw [hnext]
    exact ⟨congrArg frames hunread.symm, hwaiting.le⟩
  · by_cases hmore : 0 ∈ next.rxResidual
    · have hread := cut_zero hmore
      exact ⟨hunread ▸ hread.frames, hread.waiting.trans (by omega)⟩
    · obtain ⟨kept, hcut, hkept, hframes⟩ := cut_noZero hmore
      rw [hcut]
      refine ⟨((hframes next.chunks.flatten).trans (congrArg frames hunread)).symm, ?_⟩
      rw [← hwaiting]
      simp only [waiting, unread, List.count_append, List.count_eq_zero_of_not_mem hmore,
        List.count_eq_zero_of_not_mem hkept, le_refl]

/-- What `_receive` may come back with. -/
structure Received (sequence : Nat) (messageType : StreamMessageTypeV2) (rounds : Nat)
    (r : Reader) (result : Option FrameV2 × Reader) : Prop where
  inOrder : ∃ skipped, frames r.unread = skipped ++ result.1.toList ++ frames result.2.unread ∧
    ∀ frame ∈ skipped, ¬ Answers sequence messageType frame
  answers : ∀ frame ∈ result.1, Answers sequence messageType frame
  exhausted : result.1 = none → r.waiting ≤ rounds → frames result.2.unread = []

variable {sequence rounds : Nat} {messageType : StreamMessageTypeV2} {skipped : List FrameV2}

theorem Received.skip {result : Option FrameV2 × Reader}
    (h : Received sequence messageType rounds r' result)
    (hframes : frames r.unread = skipped ++ frames r'.unread) (hwaiting : r'.waiting ≤ r.waiting - 1)
    (hskipped : ∀ frame ∈ skipped, ¬ Answers sequence messageType frame) :
    Received sequence messageType (rounds + 1) r result := by
  obtain ⟨more, hmore, hnone⟩ := h.inOrder
  refine ⟨⟨skipped ++ more, by rw [hframes, hmore]; simp, ?_⟩, h.answers, fun hno hrounds => ?_⟩
  · intro frame hframe
    rcases List.mem_append.mp hframe with hmem | hmem
    · exact hskipped frame hmem
    · exact hnone frame hmem
  · exact h.exhausted hno (by omega)

/-- **The reply is the first frame that answers**, and what comes behind it is still to be read:
however the bytes are cut into chunks, frames are taken in order, each once. -/
theorem receive_inOrder (sequence : Nat) (messageType : StreamMessageTypeV2) (rounds : Nat)
    (r : Reader) : Received sequence messageType rounds r
      (receive sequence messageType rounds r) := by
  induction rounds generalizing r with
  | zero =>
    refine ⟨⟨[], rfl, by simp⟩, by simp [receive], fun _ hwaiting => frames_noZero ?_⟩
    unfold waiting at hwaiting
    exact List.count_eq_zero.mp (by simp only [receive]; omega)
  | succ rounds ih =>
    obtain ⟨hframes, hwaiting⟩ := reads_readPacket r
    unfold receive
    generalize r.readPacket = round at *
    obtain ⟨packet, r'⟩ := round
    cases packet with
    | none => exact (ih r').skip hframes hwaiting (by simp)
    | some packet =>
      simp only [Option.bind_some] at hframes ⊢
      cases hdecode : decodeFrameV2 packet with
      | error =>
        rw [hdecode] at hframes
        exact (ih r').skip hframes hwaiting (by simp [Except.toOption])
      | ok frame =>
        rw [hdecode] at hframes
        dsimp only
        split
        · rename_i hanswers
          exact ⟨⟨[], hframes, by simp⟩, by simpa using hanswers, fun h => by cases h⟩
        · rename_i hother
          exact (ih r').skip hframes hwaiting (by simpa [Except.toOption] using hother)

end Reader

end MobileBimanual.Wire.Host
