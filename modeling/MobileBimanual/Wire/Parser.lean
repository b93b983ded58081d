/-
# The stream parser of `protocol.c`

Bytes come one at a time; the zeros between frames are what the receiver finds its place by.  The
parser holds the bytes since the last zero, or nothing while it drops a chunk that has outgrown
its buffer.

* `chunkAnswers`: what the answers should be, said of the whole string: it is split at its
  zeros and every chunk is taken alone;
* `pushAll_eq`: they are.  The parser in the middle of a chunk is `StreamParser.holding`;
* `streamParserPush_zero`: a zero leaves nothing behind, whatever came before it;
* `frame_roundTrip` and `parser_resync`: what a sender and a receiver get out of it.
-/
import MobileBimanual.Wire.Frame

namespace MobileBimanual.Wire

open MobileBimanual.Stream

/-! ## 1. The parser -/

/-- `sizeof(parser->encoded)`. -/
def parserBufferSize : Nat := maxEncodedSize - 1

/-- `encoded[0..length)`, which never outgrows its array. -/
structure StreamParser where
  encoded : List Byte
  droppingOverflowedFrame : Bool
  fits : encoded.length ≤ parserBufferSize

def streamParserInit : StreamParser where
  encoded := []
  droppingOverflowedFrame := false
  fits := Nat.zero_le _

/-- One call of the parser answers with a frame or with a result that is not OK. -/
abbrev Answer := Except ProtocolResult Frame

def streamParserPush (build : ProtocolBuild) (parser : StreamParser) (byte : Byte) :
    StreamParser × Answer :=
  if byte ≠ 0 then
    if parser.droppingOverflowedFrame then (parser, .error .noFrame)
    else if h : parser.encoded.length ≥ parserBufferSize then
      ({ encoded := [], droppingOverflowedFrame := true, fits := Nat.zero_le _ },
        .error .overflow)
    else
      ({ parser with
          encoded := parser.encoded ++ [byte]
          fits := by
            rw [List.length_append, List.length_singleton]
            omega }, .error .noFrame)
  else if parser.droppingOverflowedFrame then
    ({ encoded := [], droppingOverflowedFrame := false, fits := Nat.zero_le _ },
      .error .overflow)
  else if parser.encoded.length = 0 then (parser, .error .noFrame)
  else
    ({ parser with encoded := [], fits := Nat.zero_le _ }, frameDecode build parser.encoded)

def pushAll (build : ProtocolBuild) (parser : StreamParser) : List Byte → StreamParser × List Answer
  | [] => (parser, [])
  | byte :: bytes =>
    let pushed := streamParserPush build parser byte
    let rest := pushAll build pushed.1 bytes
    (rest.1, pushed.2 :: rest.2)

variable (build : ProtocolBuild)

variable (parser : StreamParser)

theorem pushAll_append (first second : List Byte) :
    pushAll build parser (first ++ second) =
      ((pushAll build (pushAll build parser first).1 second).1,
        (pushAll build parser first).2 ++ (pushAll build (pushAll build parser first).1 second).2) := by
  induction first generalizing parser with
  | nil => rfl
  | cons byte first ih => simp [pushAll, ih]

/-! ## 2. What the answers should be -/

/-- The answer to a byte of a chunk that `seen` bytes precede. -/
def byteAnswer (seen : Nat) : Answer :=
  if seen = parserBufferSize then .error .overflow else .error .noFrame

def byteAnswers (seen : Nat) (chunk : List Byte) : List Answer :=
  (List.range' seen chunk.length).map byteAnswer

/-- The answer to the zero behind a chunk. -/
def delimiterAnswer (build : ProtocolBuild) (chunk : List Byte) : Answer :=
  if chunk = [] then .error .noFrame
  else if chunk.length > parserBufferSize then .error .overflow
  else frameDecode build chunk

/-- The chunks of a string; no zero is behind the last. -/
def chunkAnswers (build : ProtocolBuild) : List (List Byte) → List Answer
  | [] => []
  | [last] => byteAnswers 0 last
  | chunk :: rest => byteAnswers 0 chunk ++ delimiterAnswer build chunk :: chunkAnswers build rest

/-! ## 3. They are -/

/-- The parser after the bytes `held` since the last zero. -/
def StreamParser.holding (held : List Byte) : StreamParser :=
  if h : held.length ≤ parserBufferSize then
    { encoded := held, droppingOverflowedFrame := false, fits := h }
  else { encoded := [], droppingOverflowedFrame := true, fits := Nat.zero_le _ }

theorem holding_nil : StreamParser.holding [] = streamParserInit := rfl

variable (held : List Byte)

theorem streamParserPush_byte {byte : Byte} (hbyte : byte ≠ 0) :
    streamParserPush build (.holding held) byte =
      (.holding (held ++ [byte]), byteAnswer held.length) := by
  unfold streamParserPush
  rw [if_pos hbyte]
  by_cases hfits : held.length ≤ parserBufferSize
  · by_cases hfull : held.length = parserBufferSize
    · simp [StreamParser.holding, byteAnswer, hfull]
    · have hroom : held.length + 1 ≤ parserBufferSize := by omega
      have hmore : ¬ held.length ≥ parserBufferSize := by omega
      simp [StreamParser.holding, byteAnswer, hfits, hfull, hroom, hmore]
  · have hlong : ¬ held.length + 1 ≤ parserBufferSize := by omega
    have hne : held.length ≠ parserBufferSize := by omega
    simp [StreamParser.holding, byteAnswer, hfits, hlong, hne]

theorem streamParserPush_delimiter :
    streamParserPush build (.holding held) 0 =
      (streamParserInit, delimiterAnswer build held) := by
  unfold streamParserPush
  rw [if_neg (by simp)]
  by_cases hfits : held.length ≤ parserBufferSize
  · by_cases hempty : held = []
    · simp [hempty, StreamParser.holding, delimiterAnswer, streamParserInit]
    · simp [StreamParser.holding, delimiterAnswer, hfits, hempty, streamParserInit]
  · have hne : held ≠ [] := by
      rintro rfl
      exact hfits (Nat.zero_le _)
    have hlong : held.length > parserBufferSize := by omega
    simp [StreamParser.holding, delimiterAnswer, hfits, hne, hlong, streamParserInit]

/-- The answers from the middle of a chunk. -/
def chunkAnswersFrom (build : ProtocolBuild) (held : List Byte) : List (List Byte) → List Answer
  | [] => []
  | [last] => byteAnswers held.length last
  | chunk :: rest =>
    byteAnswers held.length chunk ++
      delimiterAnswer build (held ++ chunk) :: chunkAnswers build rest

theorem chunkAnswersFrom_nil (chunks : List (List Byte)) :
    chunkAnswersFrom build [] chunks = chunkAnswers build chunks := by
  cases chunks with
  | nil => rfl
  | cons chunk rest =>
    cases rest with
    | nil => rfl
    | cons next rest => rfl

theorem byteAnswers_cons (seen : Nat) (byte : Byte) (chunk : List Byte) :
    byteAnswers seen (byte :: chunk) = byteAnswer seen :: byteAnswers (seen + 1) chunk := by
  simp [byteAnswers, List.range'_succ]

variable {chunks : List (List Byte)}

theorem chunkAnswersFrom_byte (byte : Byte) (hne : chunks ≠ []) :
    chunkAnswersFrom build held (chunks.modifyHead (byte :: ·)) =
      byteAnswer held.length :: chunkAnswersFrom build (held ++ [byte]) chunks := by
  cases chunks with
  | nil => exact absurd rfl hne
  | cons chunk rest =>
    cases rest with
    | nil => simp [chunkAnswersFrom, byteAnswers_cons]
    | cons next rest => simp [chunkAnswersFrom, byteAnswers_cons]

theorem chunkAnswersFrom_delimiter (hne : chunks ≠ []) :
    chunkAnswersFrom build held ([] :: chunks) =
      delimiterAnswer build held :: chunkAnswers build chunks := by
  cases chunks with
  | nil => exact absurd rfl hne
  | cons chunk rest => simp [chunkAnswersFrom, byteAnswers]

theorem pushAll_holding (bytes held : List Byte) :
    (pushAll build (.holding held) bytes).2 =
      chunkAnswersFrom build held (bytes.splitOn 0) := by
  induction bytes generalizing held with
  | nil => rfl
  | cons byte bytes ih =>
    have hne : bytes.splitOn 0 ≠ [] := List.splitOn_ne_nil 0 bytes
    unfold pushAll
    rw [List.splitOn_cons_eq_if_modifyHead]
    by_cases hbyte : byte = 0
    · have hrest := ih []
      rw [holding_nil, chunkAnswersFrom_nil] at hrest
      rw [if_pos (by simp [hbyte]), hbyte, streamParserPush_delimiter,
        chunkAnswersFrom_delimiter build held hne]
      simp only [hrest]
    · rw [if_neg (by rw [beq_iff_eq]; exact hbyte), streamParserPush_byte build held hbyte,
        chunkAnswersFrom_byte build held byte hne]
      simp only [ih]

/-- **The parser takes every chunk alone.** -/
theorem pushAll_eq (bytes : List Byte) :
    (pushAll build streamParserInit bytes).2 = chunkAnswers build (bytes.splitOn 0) := by
  rw [← chunkAnswersFrom_nil, ← holding_nil]
  exact pushAll_holding build bytes []

/-- **A zero leaves nothing behind.** -/
theorem streamParserPush_zero : (streamParserPush build parser 0).1 = streamParserInit := by
  obtain ⟨encoded, dropping, fits⟩ := parser
  unfold streamParserPush
  rw [if_neg (by simp)]
  cases dropping with
  | true => rfl
  | false =>
    cases encoded with
    | nil => rfl
    | cons byte encoded => rfl

theorem pushAll_endsInZero (past : List Byte) :
    (pushAll build parser (past ++ [0])).1 = streamParserInit := by
  rw [pushAll_append]
  exact streamParserPush_zero build _

/-! ## 4. One frame -/

theorem byteAnswers_of_fits {chunk : List Byte} (h : chunk.length ≤ parserBufferSize) :
    byteAnswers 0 chunk = List.replicate chunk.length (.error .noFrame) := by
  rw [byteAnswers, List.eq_replicate_iff]
  constructor
  · simp
  · intro answer hanswer
    simp only [List.mem_map, List.mem_range'_1] at hanswer
    obtain ⟨seen, hseen, rfl⟩ := hanswer
    exact if_neg (by omega)

/-- A chunk that fits, and its zero. -/
theorem pushAll_chunk {chunk : List Byte} (hne : chunk ≠ []) (hzero : (0 : Byte) ∉ chunk)
    (hfits : chunk.length ≤ parserBufferSize) :
    (pushAll build streamParserInit (chunk ++ [0])).2 =
      List.replicate chunk.length (.error .noFrame) ++ [frameDecode build chunk] := by
  have hanswer : delimiterAnswer build chunk = frameDecode build chunk := by
    rw [delimiterAnswer, if_neg hne, if_neg (Nat.not_lt.mpr hfits)]
  rw [pushAll_eq, List.splitOn_append_cons_self_of_not_mem hzero, List.splitOn_nil,
    chunkAnswers, byteAnswers_of_fits hfits, hanswer]
  · rfl
  · simp

theorem pushAll_stuffed {build : ProtocolBuild} {frame : Frame}
    (hknown : messageIsKnown build frame.messageType)
    (hsize : frame.payload.length ≤ maxPayload) :
    (pushAll build streamParserInit (stuffed build frame ++ [0])).2 =
      List.replicate (stuffed build frame).length (.error .noFrame) ++ [.ok frame] := by
  have hfits : (stuffed build frame).length ≤ parserBufferSize := by
    have h : (stuffed build frame).length + 1 ≤ maxEncodedSize := length_stuffed_le hsize
    unfold parserBufferSize
    omega
  rw [pushAll_chunk build stuffed_ne_nil zero_notMem_stuffed hfits,
    frameDecode_stuffed hknown hsize]

/-- **The round trip of a frame**, through the writer, the reader and the parser: what is sent is
at most `maxEncodedSize` bytes with the only zero at its end, and the parser answers with the
frame at that zero and not before. -/
theorem frame_roundTrip (frame : Frame) (hknown : messageIsKnown build frame.messageType)
    (hsize : frame.payload.length ≤ maxPayload) :
    ∃ encoded : List Byte,
      encoded.length + 1 ≤ maxEncodedSize ∧ (0 : Byte) ∉ encoded ∧
      (∀ outputCapacity, encoded.length + 1 ≤ outputCapacity →
        frameEncode build frame outputCapacity = .ok (encoded ++ [0])) ∧
      frameDecode build encoded = .ok frame ∧
      (pushAll build streamParserInit (encoded ++ [0])).2 =
        List.replicate encoded.length (.error .noFrame) ++ [.ok frame] := by
  refine ⟨stuffed build frame, length_stuffed_le hsize, zero_notMem_stuffed, ?_,
    frameDecode_stuffed hknown hsize, pushAll_stuffed hknown hsize⟩
  intro outputCapacity hroom
  exact frameEncode_eq hknown hsize hroom

/-- A stop frame with a zero in its payload, on a build of the second protocol. -/
theorem frame_roundTrip_safeStop :
    let build : ProtocolBuild := ⟨2, true, true, true, true, true, true⟩
    let frame : Frame := ⟨20, 0, 7, 1000, [1, 0, 255]⟩
    ∃ encoded : List Byte,
      encoded.length + 1 ≤ maxEncodedSize ∧ (0 : Byte) ∉ encoded ∧
      (∀ outputCapacity, encoded.length + 1 ≤ outputCapacity →
        frameEncode build frame outputCapacity = .ok (encoded ++ [0])) ∧
      frameDecode build encoded = .ok frame ∧
      (pushAll build streamParserInit (encoded ++ [0])).2 =
        List.replicate encoded.length (.error .noFrame) ++ [.ok frame] :=
  frame_roundTrip ⟨2, true, true, true, true, true, true⟩ ⟨20, 0, 7, 1000, [1, 0, 255]⟩
    (by decide) (by decide)

/-! ## 5. After anything -/

/-- What the writer agrees to write is a frame that the reader takes. -/
theorem frameEncode_ok {build : ProtocolBuild} {frame : Frame} {outputCapacity : Nat}
    {packet : List Byte} (h : frameEncode build frame outputCapacity = .ok packet) :
    messageIsKnown build frame.messageType ∧ frame.payload.length ≤ maxPayload ∧
      packet = stuffed build frame ++ [0] := by
  unfold frameEncode at h
  split_ifs at h with hknown hsize hcapacity
  rw [cobsEncode_eq] at h
  unfold within at h
  split_ifs at h with hroom
  refine ⟨by simpa using hknown, Nat.not_lt.mp hsize, ?_⟩
  cases h
  rfl

/-- **The parser finds its place again.**  Its answers are those of the chunks taken one by one;
so behind a zero a frame arrives whole, whatever the parser held and whatever came before. -/
theorem parser_resync :
    (∀ bytes : List Byte,
      (pushAll build streamParserInit bytes).2 = chunkAnswers build (bytes.splitOn 0)) ∧
    ∀ (parser : StreamParser) (past : List Byte) (frame : Frame) (outputCapacity : Nat)
      (packet : List Byte),
      frameEncode build frame outputCapacity = .ok packet →
      (pushAll build parser (past ++ [0] ++ packet)).2 =
        (pushAll build parser (past ++ [0])).2 ++
          List.replicate (packet.length - 1) (.error .noFrame) ++ [.ok frame] := by
  constructor
  · exact pushAll_eq build
  · intro parser past frame outputCapacity packet hsent
    obtain ⟨hknown, hsize, rfl⟩ := frameEncode_ok hsent
    have hframe := pushAll_stuffed hknown hsize
    rw [← pushAll_endsInZero build parser past] at hframe
    rw [pushAll_append, hframe]
    simp

/-- Behind a torn frame. -/
theorem parser_resync_torn :
    let build : ProtocolBuild := ⟨2, true, true, true, true, true, true⟩
    let frame : Frame := ⟨20, 0, 7, 1000, [1, 0, 255]⟩
    (pushAll build streamParserInit ([3, 0, 9, 90] ++ [0] ++ (stuffed build frame ++ [0]))).2 =
      (pushAll build streamParserInit ([3, 0, 9, 90] ++ [0])).2 ++
        List.replicate ((stuffed build frame ++ [0]).length - 1) (.error .noFrame) ++
          [.ok frame] :=
  (parser_resync ⟨2, true, true, true, true, true, true⟩).2 streamParserInit [3, 0, 9, 90]
    ⟨20, 0, 7, 1000, [1, 0, 255]⟩ _ _ (frameEncode_eq (by decide) (by decide) (Nat.le_refl _))

end MobileBimanual.Wire
