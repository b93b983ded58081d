/-
# The answer of a servo is found

The parser of `ServoResponse` over whole streams of bytes, from the start of a request.

* `Held` says what the parser has of a frame: the end of what it has taken in.  So a frame that is
  reported ready is one (`ready_is_reply`);
* noise, runs of header bytes and frames that are rejected leave the parser hunting for a header
  (`Hunting`), and a hunting parser finds the answer (`reply_found`).

Two header bytes and something else after them are the start of a frame to the parser, so noise
behind a run of them can swallow the answer (`noise_behind_run`).
-/
import MobileBimanual.Lib.Machine
import MobileBimanual.Mobile.ServoResponse

namespace MobileBimanual.Mobile

open MobileBimanual.Stream (Byte)
open Machine

namespace ServoResponse

/-! ## 1. Streams -/

def next (p : ServoResponse) (byte : Byte) : ServoResponse := (p.push byte).1

def pushAll (p : ServoResponse) (stream : List Byte) : ServoResponse := run next p stream

def answers (p : ServoResponse) (stream : List Byte) : List ResponseResult :=
  trace next (fun p byte => (p.push byte).2) p stream

/-- The bytes of an answer that reports no error. -/
def reply (expectedId expectedDataLength : Byte) (data : List Byte) : List Byte :=
  [0xFF, 0xFF, expectedId, expectedDataLength + 2, 0] ++ data ++
    [checksum ([expectedId, expectedDataLength + 2, 0] ++ data)]

/-- The parser takes bytes in. -/
def Open (p : ServoResponse) : Prop := p.validConfiguration = true ∧ p.terminal = .needMore

/-! ## 2. One byte -/

section Byte

variable {p : ServoResponse}

theorem push_header (hopen : p.Open) (h : p.syncCount < 2) (byte : Byte) :
    p.push byte =
      if byte = 0xFF then ({ p with syncCount := p.syncCount + 1 }, .needMore)
      else
        ({ p with
            syncCount := 0
            discardedBytes :=
              if p.discardedBytes < 0xFFFF then p.discardedBytes + 1 else p.discardedBytes
            lastReject := .header }, .needMore) := by
  simp only [push, hopen.1, hopen.2]
  simp [h]

theorem push_id (hopen : p.Open) (h : p.syncCount = 2) (byte : Byte) :
    p.push byte =
      if byte = 0xFF then (p, .needMore)
      else ({ p with frameId := byte, syncCount := 3 }, .needMore) := by
  simp only [push, hopen.1, hopen.2]
  simp [h]

/-- The length of a frame the parser has room for. -/
def Fits (length : Byte) : Prop := 2 ≤ length.toNat ∧ length.toNat ≤ maxBodyLength

instance (length : Byte) : Decidable (Fits length) := inferInstanceAs (Decidable (_ ∧ _))

theorem push_length (hopen : p.Open) (h : p.syncCount = 3) (byte : Byte) :
    p.push byte =
      if Fits byte then
        ({ p with frameLength := byte, body := [], syncCount := 4 }, .needMore)
      else { p with frameLength := byte, body := [] }.rejectFrame .length 4 := by
  have hfits : Fits byte ↔ ¬ ((byte < 2 || maxBodyLength < byte.toNat) = true) := by
    simp [Fits, BitVec.lt_def]
    omega
  simp only [push, hopen.1, hopen.2, h, hfits]
  split_ifs
  all_goals simp_all

theorem push_body (hopen : p.Open) (h : p.syncCount = 4) (byte : Byte) :
    p.push byte =
      if p.body.length + 1 < p.frameLength.toNat then
        ({ p with body := p.body ++ [byte] }, .needMore)
      else { p with body := p.body ++ [byte] }.judge := by
  simp only [push, hopen.1, hopen.2]
  simp [h]

/-- **A verdict is final**: nothing more is taken in. -/
theorem push_closed (h : ¬ p.Open) (byte : Byte) : (p.push byte).1 = p := by
  simp only [push]
  by_cases hvalid : p.validConfiguration = true
  · have hterminal : p.terminal ≠ .needMore := fun hmore => h ⟨hvalid, hmore⟩
    simp [hvalid, hterminal]
  · simp [hvalid]

theorem push_terminal (hvalid : p.validConfiguration = true) (h : p.terminal ≠ .needMore)
    (byte : Byte) : p.push byte = (p, p.terminal) := by
  simp [push, hvalid, h]

end Byte

/-! ## 3. What the parser holds -/

/-- The bytes of the frame at hand. -/
def held (p : ServoResponse) : List Byte :=
  match p.syncCount with
  | 0 => []
  | 1 => [0xFF]
  | 2 => [0xFF, 0xFF]
  | 3 => [0xFF, 0xFF, p.frameId]
  | _ => [0xFF, 0xFF, p.frameId, p.frameLength] ++ p.body

/-- The parser of a request has followed its stream. -/
structure Follows (expectedId expectedDataLength : Byte) (taken : List Byte) (p : ServoResponse) :
    Prop where
  id : p.expectedId = expectedId
  dataLength : p.expectedDataLength = expectedDataLength
  valid : p.validConfiguration = (init expectedId expectedDataLength).validConfiguration
  small : p.syncCount ≤ 4
  held : p.held <:+ taken
  room : p.syncCount = 4 → Fits p.frameLength ∧ p.body.length < p.frameLength.toNat

theorem follows_init (expectedId expectedDataLength : Byte) :
    Follows expectedId expectedDataLength [] (init expectedId expectedDataLength) where
  id := rfl
  dataLength := rfl
  valid := rfl
  small := Nat.zero_le 4
  held := List.suffix_refl []
  room := fun h => absurd h (by simp [init])

theorem suffix_snoc {held taken : List Byte} (h : held <:+ taken) (byte : Byte) :
    held ++ [byte] <:+ taken ++ [byte] := by
  obtain ⟨before, rfl⟩ := h
  exact ⟨before, (List.append_assoc _ _ _).symm⟩

section Follows

variable {expectedId expectedDataLength : Byte} {taken : List Byte} {p : ServoResponse}

/-- A verdict is to reject, or it ends the parser. -/
theorem judge_cases (p : ServoResponse) :
    (∃ reason frameBytes, p.judge = p.rejectFrame reason frameBytes) ∨
      p.judge.1.terminal ≠ .needMore ∧ p.judge.2 ≠ .frameRejected := by
  simp only [judge]
  split_ifs
  all_goals first
    | exact .inl ⟨_, _, rfl⟩
    | exact .inr ⟨nofun, nofun⟩

theorem Follows.header (h : Follows expectedId expectedDataLength taken p) (hopen : p.Open)
    (hsync : p.syncCount < 2) (byte : Byte) :
    Follows expectedId expectedDataLength (taken ++ [byte]) (p.push byte).1 := by
  rw [push_header hopen hsync]
  by_cases hbyte : byte = 0xFF
  · rw [if_pos hbyte]
    have hnew := suffix_snoc h.held byte
    have hcase : p.syncCount = 0 ∨ p.syncCount = 1 := by omega
    refine ⟨h.id, h.dataLength, h.valid, by simp only; omega, ?_, fun hfour => ?_⟩
    · rcases hcase with hzero | hone
      · simp [ServoResponse.held, hzero, hbyte]
      · simpa [ServoResponse.held, hone, hbyte] using hnew
    · simp only at hfour
      omega
  · rw [if_neg hbyte]
    exact ⟨h.id, h.dataLength, h.valid, Nat.zero_le 4, List.nil_suffix, fun h => absurd h (by simp)⟩

/-- In a run of header bytes the last two are held. -/
theorem Follows.frameId (h : Follows expectedId expectedDataLength taken p) (hopen : p.Open)
    (hsync : p.syncCount = 2) (byte : Byte) :
    Follows expectedId expectedDataLength (taken ++ [byte]) (p.push byte).1 := by
  have hnew := suffix_snoc h.held byte
  rw [push_id hopen hsync]
  split_ifs with hbyte
  · refine ⟨h.id, h.dataLength, h.valid, h.small, ?_, h.room ∘ fun h => h⟩
    have hlast : [0xFF, 0xFF] <:+ ([0xFF, 0xFF] ++ [byte] : List Byte) := by
      rw [hbyte]
      exact ⟨[0xFF], rfl⟩
    have hsame : p.held = [0xFF, 0xFF] := by simp [ServoResponse.held, hsync]
    rw [hsame] at hnew ⊢
    exact hlast.trans hnew
  · refine ⟨h.id, h.dataLength, h.valid, by simp, ?_, by simp⟩
    simpa [ServoResponse.held, hsync] using hnew

theorem Follows.frameLength (h : Follows expectedId expectedDataLength taken p) (hopen : p.Open)
    (hsync : p.syncCount = 3) (byte : Byte) :
    Follows expectedId expectedDataLength (taken ++ [byte]) (p.push byte).1 := by
  have hnew := suffix_snoc h.held byte
  rw [push_length hopen hsync]
  split_ifs with hfits
  · refine ⟨h.id, h.dataLength, h.valid, by simp, ?_, fun _ => ⟨hfits, ?_⟩⟩
    · simpa [ServoResponse.held, hsync] using hnew
    · exact Nat.lt_of_lt_of_le Nat.two_pos hfits.1
  · exact ⟨h.id, h.dataLength, h.valid, Nat.zero_le 4, List.nil_suffix,
      fun h => absurd h (by simp [rejectFrame])⟩

theorem Follows.body (h : Follows expectedId expectedDataLength taken p) (hopen : p.Open)
    (hsync : p.syncCount = 4) (byte : Byte) (hmore : (p.push byte).1.terminal = .needMore) :
    Follows expectedId expectedDataLength (taken ++ [byte]) (p.push byte).1 := by
  have hnew := suffix_snoc h.held byte
  obtain ⟨hfits, hroom⟩ := h.room hsync
  rw [push_body hopen hsync] at hmore ⊢
  split_ifs at hmore ⊢ with hlength
  · refine ⟨h.id, h.dataLength, h.valid, h.small, ?_, fun _ => ⟨hfits, ?_⟩⟩
    · simpa [ServoResponse.held, hsync] using hnew
    · simpa using hlength
  · rcases judge_cases { p with body := p.body ++ [byte] } with
      ⟨reason, frameBytes, hreject⟩ | ⟨hend, -⟩
    · rw [hreject]
      exact ⟨h.id, h.dataLength, h.valid, Nat.zero_le 4, List.nil_suffix,
        fun h => absurd h (by simp [rejectFrame])⟩
    · exact absurd hmore hend

/-- **What is held is the end of what was taken in**, byte by byte. -/
theorem Follows.next (h : Follows expectedId expectedDataLength taken p) (hopen : p.Open)
    (byte : Byte) (hmore : (p.push byte).1.terminal = .needMore) :
    Follows expectedId expectedDataLength (taken ++ [byte]) (p.push byte).1 := by
  have hsmall := h.small
  have hcase : p.syncCount < 2 ∨ p.syncCount = 2 ∨ p.syncCount = 3 ∨ p.syncCount = 4 := by omega
  rcases hcase with hsync | hsync | hsync | hsync
  · exact h.header hopen hsync byte
  · exact h.frameId hopen hsync byte
  · exact h.frameLength hopen hsync byte
  · exact h.body hopen hsync byte hmore

theorem Follows.stream {stream : List Byte}
    (hvalid : (init expectedId expectedDataLength).validConfiguration = true)
    (h : (pushAll (init expectedId expectedDataLength) stream).terminal = .needMore) :
    Follows expectedId expectedDataLength stream
      (pushAll (init expectedId expectedDataLength) stream) := by
  induction stream using List.reverseRecOn with
  | nil => exact follows_init expectedId expectedDataLength
  | append_singleton stream byte ih =>
    have hsnoc : pushAll (init expectedId expectedDataLength) (stream ++ [byte]) =
        ((pushAll (init expectedId expectedDataLength) stream).push byte).1 := by
      rw [pushAll, run_append]
      rfl
    rw [hsnoc] at h ⊢
    by_cases hmore : (pushAll (init expectedId expectedDataLength) stream).terminal = .needMore
    · exact (ih hmore).next ⟨(ih hmore).valid.trans hvalid, hmore⟩ byte h
    · rw [push_closed fun hopen => hmore hopen.2] at h
      exact absurd h hmore

theorem valid_bounds (h : (init expectedId expectedDataLength).validConfiguration = true) :
    expectedId ≠ 0xFF ∧ expectedDataLength.toNat ≤ 16 := by
  simp only [init, maxBodyLength, Bool.and_eq_true, decide_eq_true_eq] at h
  refine ⟨?_, of_decide_eq_true h.2⟩
  rintro rfl
  exact absurd h.1.2 (by decide)

theorem toNat_length (h : (init expectedId expectedDataLength).validConfiguration = true) :
    (expectedDataLength + 2).toNat = expectedDataLength.toNat + 2 := by
  have hbound := (valid_bounds h).2
  rw [BitVec.toNat_add]
  exact Nat.mod_eq_of_lt (by simp; omega)

theorem judge_ready (h : p.judge.2 = .frameReady) :
    p.body.getD (p.frameLength.toNat - 1) 0 =
        checksum ([p.frameId, p.frameLength] ++ p.body.take (p.frameLength.toNat - 1)) ∧
      p.frameId = p.expectedId ∧ p.frameLength = p.expectedDataLength + 2 ∧
      p.body.getD 0 0 = 0 := by
  simp only [judge] at h
  split_ifs at h with hsum hid hshort hlength hstatus
  · exact nomatch h
  · exact nomatch h
  · exact nomatch h
  · simp only [bne_iff_ne, ne_eq, not_not] at hsum hid hlength hstatus
    exact ⟨hsum, hid, hlength, hstatus⟩

/-- A body of a status without errors, data and a sum. -/
theorem body_split {body : List Byte} {length : Nat} (h : body.length = length + 2)
    (hstatus : body.getD 0 0 = 0) :
    ∃ data, data.length = length ∧ body = [0] ++ data ++ [body.getD (length + 1) 0] := by
  cases body with
  | nil => simp at h
  | cons status rest =>
    obtain rfl : status = 0 := hstatus
    obtain ⟨data, last, rfl⟩ : ∃ data last, rest = data ++ [last] := by
      refine ⟨rest.dropLast, rest.getLast ?_, (List.dropLast_append_getLast _).symm⟩
      rintro rfl
      simp at h
    have hlength : data.length = length := by simpa using h
    refine ⟨data, hlength, ?_⟩
    subst hlength
    simp

/-- **A frame reported ready is the answer asked for.** -/
theorem Follows.ready (h : Follows expectedId expectedDataLength taken p) (hopen : p.Open)
    {byte : Byte} (hready : (p.push byte).2 = .frameReady) :
    ∃ data, data.length = expectedDataLength.toNat ∧
      reply expectedId expectedDataLength data <:+ taken ++ [byte] := by
  have hsmall := h.small
  have hsync : p.syncCount = 4 := by
    by_contra hne
    have hcase : p.syncCount < 2 ∨ p.syncCount = 2 ∨ p.syncCount = 3 := by omega
    rcases hcase with hsync | hsync | hsync
    · rw [push_header hopen hsync] at hready
      split at hready
      all_goals exact absurd hready (by simp)
    · rw [push_id hopen hsync] at hready
      split at hready
      all_goals exact absurd hready (by simp)
    · rw [push_length hopen hsync] at hready
      split at hready
      all_goals exact absurd hready (by simp [rejectFrame])
  obtain ⟨hfits, hroom⟩ := h.room hsync
  rw [push_body hopen hsync] at hready
  split_ifs at hready with hshort
  obtain ⟨hsum, hid, hlength, hstatus⟩ := judge_ready hready
  simp only [h.id, h.dataLength] at hsum hid hlength hstatus
  have hbound := toNat_length (h.valid.symm.trans hopen.1)
  rw [hlength, hbound] at hroom hshort hsum
  have hcomplete : (p.body ++ [byte]).length = expectedDataLength.toNat + 2 := by
    rw [List.length_append, List.length_singleton]
    omega
  obtain ⟨data, hdata, hbody⟩ := body_split hcomplete hstatus
  refine ⟨data, hdata, ?_⟩
  have hheld := suffix_snoc h.held byte
  have hframe : p.held ++ [byte] =
      [0xFF, 0xFF, expectedId, expectedDataLength + 2] ++ (p.body ++ [byte]) := by
    simp [ServoResponse.held, hsync, hid, hlength]
  have htake : (p.body ++ [byte]).take (expectedDataLength.toNat + 2 - 1) = [0] ++ data := by
    rw [hbody]
    exact List.take_left' (by simp [hdata])
  rw [hid, htake, Nat.add_sub_assoc (by decide)] at hsum
  have hreply : reply expectedId expectedDataLength data = p.held ++ [byte] := by
    rw [hframe, hbody, hsum, reply]
    simp
  rwa [hreply]

end Follows

/-! ## 4. The hunt for a header -/

/-- The parser is open, between frames, with this many header bytes seen. -/
structure Hunting (expectedId expectedDataLength : Byte) (p : ServoResponse) : Prop where
  isOpen : p.Open
  id : p.expectedId = expectedId
  dataLength : p.expectedDataLength = expectedDataLength
  sync : p.syncCount ≤ 2

/-- A stream is passed over without a frame being reported. -/
def Passes (p : ServoResponse) (stream : List Byte) (p' : ServoResponse) : Prop :=
  pushAll p stream = p' ∧ .frameReady ∉ p.answers stream

theorem answers_append (p : ServoResponse) (stream rest : List Byte) :
    p.answers (stream ++ rest) = p.answers stream ++ (pushAll p stream).answers rest :=
  trace_append p stream rest

theorem Passes.trans {p p' p'' : ServoResponse} {stream rest : List Byte}
    (h : Passes p stream p') (hrest : Passes p' rest p'') : Passes p (stream ++ rest) p'' := by
  obtain ⟨rfl, hquiet⟩ := h
  refine ⟨?_, ?_⟩
  · rw [pushAll, run_append]
    exact hrest.1
  · rw [answers_append, List.mem_append, not_or]
    exact ⟨hquiet, hrest.2⟩

theorem Passes.nil (p : ServoResponse) : Passes p [] p := ⟨rfl, List.not_mem_nil⟩

theorem Passes.single {p p' : ServoResponse} {byte : Byte} {result : ResponseResult}
    (h : p.push byte = (p', result)) (hresult : result ≠ .frameReady) : Passes p [byte] p' := by
  constructor
  · exact congrArg Prod.fst h
  · rw [answers, trace, h]
    simpa [trace] using hresult.symm

/-- Noise: no two header bytes in a row. -/
def Quiet (noise : List Byte) : Prop :=
  List.IsChain (fun byte next => ¬ (byte = 0xFF ∧ next = 0xFF)) noise

instance (noise : List Byte) : Decidable (Quiet noise) :=
  inferInstanceAs (Decidable (List.IsChain _ _))

section Hunt

variable {expectedId expectedDataLength : Byte} {p : ServoResponse}

/-- **Noise is passed over**, with its last byte in mind if that may begin a header. -/
theorem Hunting.noise {noise : List Byte} (h : Hunting expectedId expectedDataLength p)
    (hsync : p.syncCount < 2) (hquiet : Quiet (p.held ++ noise)) :
    ∃ p', Passes p noise p' ∧ Hunting expectedId expectedDataLength p' := by
  induction noise generalizing p with
  | nil => exact ⟨p, .nil p, h⟩
  | cons byte noise ih =>
    have hpush := push_header h.isOpen hsync byte
    by_cases hbyte : byte = 0xFF
    · rw [if_pos hbyte] at hpush
      have hzero : p.syncCount = 0 := by
        by_contra hne
        have hone : p.syncCount = 1 := by omega
        rw [held, hone] at hquiet
        simp only [List.singleton_append] at hquiet
        exact (List.isChain_cons_cons.mp hquiet).1 ⟨rfl, hbyte⟩
      have hone : p.held ++ byte :: noise = [0xFF] ++ noise := by simp [held, hzero, hbyte]
      rw [hone] at hquiet
      obtain ⟨p', hpasses, hhunting⟩ := ih
        (p := { p with syncCount := p.syncCount + 1 })
        ⟨h.isOpen, h.id, h.dataLength, by simp [hzero]⟩ (by simp [hzero])
        (by simpa [held, hzero] using hquiet)
      exact ⟨p', (Passes.single hpush (by simp)).trans hpasses, hhunting⟩
    · rw [if_neg hbyte] at hpush
      have hrest : Quiet noise := (List.isChain_append.mp hquiet).2.1.tail
      obtain ⟨p', hpasses, hhunting⟩ := ih (p := (p.push byte).1)
        (by rw [hpush]; exact ⟨h.isOpen, h.id, h.dataLength, by simp⟩)
        (by rw [hpush]; exact Nat.two_pos) (by rw [hpush]; exact hrest)
      have hmore : p.push byte = ((p.push byte).1, .needMore) := by rw [hpush]
      exact ⟨p', (Passes.single hmore (by simp)).trans hpasses, hhunting⟩

/-- **A run of header bytes is passed over.** -/
theorem Hunting.run (h : Hunting expectedId expectedDataLength p) (length : Nat) :
    ∃ p', Passes p (List.replicate length 0xFF) p' ∧ Hunting expectedId expectedDataLength p' ∧
      p'.syncCount = min 2 (p.syncCount + length) := by
  have hsync := h.sync
  induction length generalizing p with
  | zero => exact ⟨p, .nil p, h, by omega⟩
  | succ length ih =>
    obtain ⟨p₁, hpush, hhunting, hcount⟩ : ∃ p₁, p.push 0xFF = (p₁, .needMore) ∧
        Hunting expectedId expectedDataLength p₁ ∧
        p₁.syncCount = min 2 (p.syncCount + 1) := by
      by_cases htwo : p.syncCount < 2
      · exact ⟨_, push_header h.isOpen htwo 0xFF, ⟨h.isOpen, h.id, h.dataLength, htwo⟩,
          by simp only; omega⟩
      · exact ⟨_, push_id h.isOpen (by omega) 0xFF, h, by omega⟩
    obtain ⟨p', hpasses, hrest, hsum⟩ := ih hhunting hhunting.sync
    refine ⟨p', ?_, hrest, by omega⟩
    rw [List.replicate_succ]
    exact (Passes.single hpush (by simp)).trans hpasses

theorem collect {rest : List Byte} (hopen : p.Open) (hsync : p.syncCount = 4) (hrest : rest ≠ [])
    (hlength : p.body.length + rest.length = p.frameLength.toNat) :
    pushAll p rest = { p with body := p.body ++ rest }.judge.1 ∧
      p.answers rest = List.replicate (rest.length - 1) .needMore ++
        [{ p with body := p.body ++ rest }.judge.2] := by
  induction rest generalizing p with
  | nil => exact absurd rfl hrest
  | cons byte rest ih =>
    have hpush := push_body hopen hsync byte
    cases rest with
    | nil =>
      rw [if_neg (by simp at hlength; omega)] at hpush
      constructor
      · exact congrArg Prod.fst hpush
      · exact congrArg (fun result => [result]) (congrArg Prod.snd hpush)
    | cons byte' rest =>
      rw [if_pos (by simp at hlength; omega)] at hpush
      obtain ⟨hstate, hanswers⟩ := ih (p := { p with body := p.body ++ [byte] }) hopen hsync
        (by simp) (by simpa [Nat.add_assoc, Nat.add_comm 1] using hlength)
      have hstart : p.next byte = { p with body := p.body ++ [byte] } := congrArg Prod.fst hpush
      have hbody : p.body ++ [byte] ++ byte' :: rest = p.body ++ byte :: byte' :: rest := by simp
      rw [hbody] at hstate hanswers
      constructor
      · rw [pushAll, run_cons, hstart]
        exact hstate
      · have hfirst : p.answers (byte :: byte' :: rest) =
            .needMore :: (p.next byte).answers (byte' :: rest) :=
          congrArg (· :: _) (congrArg Prod.snd hpush)
        rw [hfirst, hstart, hanswers]
        rfl

/-- The parser with a complete frame before it. -/
def frameAt (p : ServoResponse) (frameId frameLength : Byte) (body : List Byte) : ServoResponse :=
  { p with syncCount := 4, frameId := frameId, frameLength := frameLength, body := body }

theorem Hunting.frame (h : Hunting expectedId expectedDataLength p) (hsync : p.syncCount = 2)
    {frameId frameLength : Byte} {body : List Byte} (hid : frameId ≠ 0xFF)
    (hfits : Fits frameLength) (hlength : body.length = frameLength.toNat) :
    pushAll p (frameId :: frameLength :: body) = (p.frameAt frameId frameLength body).judge.1 ∧
      p.answers (frameId :: frameLength :: body) =
        List.replicate (body.length + 1) .needMore ++
          [(p.frameAt frameId frameLength body).judge.2] := by
  have hnonempty : body ≠ [] := by
    rintro rfl
    exact absurd hfits.1 (by rw [← hlength]; decide)
  have hfirst : p.push frameId = ({ p with frameId := frameId, syncCount := 3 }, .needMore) := by
    rw [push_id h.isOpen hsync, if_neg hid]
  have hsecond : ({ p with frameId := frameId, syncCount := 3 } : ServoResponse).push frameLength =
      (p.frameAt frameId frameLength [], .needMore) := by
    have hpush := push_length (p := { p with frameId := frameId, syncCount := 3 }) h.isOpen rfl
      frameLength
    rwa [if_pos hfits] at hpush
  obtain ⟨hstate, hanswers⟩ := collect (p := p.frameAt frameId frameLength []) h.isOpen rfl
    hnonempty (by simpa [frameAt] using hlength)
  have hcount : body.length + 1 = body.length - 1 + 1 + 1 := by
    have := List.length_pos_iff.mpr hnonempty
    omega
  simp only [pushAll, answers, run_cons, trace, next, hfirst, hsecond] at hstate hanswers ⊢
  rw [hstate, hanswers, hcount, List.replicate_succ, List.replicate_succ]
  exact ⟨rfl, rfl⟩

theorem Hunting.misfit (h : Hunting expectedId expectedDataLength p) (hsync : p.syncCount = 2)
    {frameId frameLength : Byte} (hid : frameId ≠ 0xFF) (hmisfit : ¬ Fits frameLength) :
    ∃ p', Passes p [frameId, frameLength] p' ∧ Hunting expectedId expectedDataLength p' ∧
      p'.syncCount = 0 := by
  have hfirst : p.push frameId = ({ p with frameId := frameId, syncCount := 3 }, .needMore) := by
    rw [push_id h.isOpen hsync, if_neg hid]
  have hsecond := push_length (p := { p with frameId := frameId, syncCount := 3 }) h.isOpen rfl
    frameLength
  rw [if_neg hmisfit] at hsecond
  exact ⟨_, (Passes.single hfirst (by simp)).trans (Passes.single hsecond (by simp)),
    ⟨h.isOpen, h.id, h.dataLength, Nat.zero_le 2⟩, rfl⟩

end Hunt

/-! ## 5. The answer is found -/

/-- What is said of a complete frame. -/
def verdict (expectedId expectedDataLength frameId frameLength : Byte) (body : List Byte) :
    ResponseResult :=
  if body.getD (frameLength.toNat - 1) 0 !=
      checksum ([frameId, frameLength] ++ body.take (frameLength.toNat - 1)) then .frameRejected
  else if frameId != expectedId then .frameRejected
  else if frameLength == 2 && body.getD 0 0 != 0 then .statusError
  else if frameLength != expectedDataLength + 2 then .frameRejected
  else if body.getD 0 0 != 0 then .statusError
  else .frameReady

/-- The verdict is about the frame and the request, and nothing else the parser has seen. -/
theorem judge_verdict (p : ServoResponse) :
    p.judge.2 = verdict p.expectedId p.expectedDataLength p.frameId p.frameLength p.body := by
  simp only [judge, verdict]
  split_ifs
  all_goals rfl

/-- A frame from its header to its last byte, or to a length that the parser has no room for. -/
inductive Complete : List Byte → Prop
  | whole {frameId frameLength : Byte} {body : List Byte} (hid : frameId ≠ 0xFF)
      (hfits : Fits frameLength) (hlength : body.length = frameLength.toNat) :
      Complete ([0xFF, 0xFF] ++ frameId :: frameLength :: body)
  | misfit {frameId frameLength : Byte} (hid : frameId ≠ 0xFF) (hmisfit : ¬ Fits frameLength) :
      Complete ([0xFF, 0xFF] ++ [frameId, frameLength])

/-- A complete frame that a fresh parser rejects. -/
def Rejected (expectedId expectedDataLength : Byte) (frame : List Byte) : Prop :=
  Complete frame ∧
    ((init expectedId expectedDataLength).answers frame).getLast? = some .frameRejected

section Found

variable {expectedId expectedDataLength : Byte} {p : ServoResponse}

theorem hunting_init (hvalid : (init expectedId expectedDataLength).validConfiguration = true) :
    Hunting expectedId expectedDataLength (init expectedId expectedDataLength) :=
  ⟨⟨hvalid, rfl⟩, rfl, rfl, Nat.zero_le 2⟩

theorem Hunting.header (h : Hunting expectedId expectedDataLength p) :
    ∃ p', Passes p [0xFF, 0xFF] p' ∧ Hunting expectedId expectedDataLength p' ∧
      p'.syncCount = 2 := by
  obtain ⟨p', hpasses, hhunting, hcount⟩ := h.run 2
  exact ⟨p', hpasses, hhunting, by omega⟩

theorem Hunting.frame_verdict (h : Hunting expectedId expectedDataLength p)
    (frameId frameLength : Byte) (body : List Byte) :
    (p.frameAt frameId frameLength body).judge.2 =
      verdict expectedId expectedDataLength frameId frameLength body := by
  rw [judge_verdict, ← h.id, ← h.dataLength]
  rfl

/-- What a hunting parser says to the bytes of a frame with its header. -/
theorem Hunting.whole (h : Hunting expectedId expectedDataLength p) {frameId frameLength : Byte}
    {body : List Byte} (hid : frameId ≠ 0xFF) (hfits : Fits frameLength)
    (hlength : body.length = frameLength.toNat) :
    ∃ p' before, Hunting expectedId expectedDataLength p' ∧
      pushAll p ([0xFF, 0xFF] ++ frameId :: frameLength :: body) =
        (p'.frameAt frameId frameLength body).judge.1 ∧
      p.answers ([0xFF, 0xFF] ++ frameId :: frameLength :: body) =
        before ++ [verdict expectedId expectedDataLength frameId frameLength body] ∧
      .frameReady ∉ before := by
  obtain ⟨p', ⟨rfl, hquiet⟩, hhunting, hsync⟩ := h.header
  obtain ⟨hstate, hanswers⟩ := hhunting.frame hsync hid hfits hlength
  refine ⟨_, p.answers [0xFF, 0xFF] ++ List.replicate (body.length + 1) .needMore, hhunting, ?_,
    ?_, ?_⟩
  · rw [← hstate, pushAll, run_append]
    rfl
  · rw [answers_append, hanswers, hhunting.frame_verdict, List.append_assoc]
  · rw [List.mem_append, not_or]
    exact ⟨hquiet, fun hmem => absurd (List.eq_of_mem_replicate hmem) (by simp)⟩

/-- **A rejected frame is passed over**, wherever it comes. -/
theorem Hunting.rejected (h : Hunting expectedId expectedDataLength p)
    (hvalid : (init expectedId expectedDataLength).validConfiguration = true)
    {frame : List Byte} (hframe : Rejected expectedId expectedDataLength frame) :
    ∃ p', Passes p frame p' ∧ Hunting expectedId expectedDataLength p' ∧ p'.syncCount = 0 := by
  obtain ⟨hcomplete, hlast⟩ := hframe
  cases hcomplete with
  | @whole frameId frameLength body hid hfits hlength =>
    obtain ⟨-, _, -, -, hfresh, -⟩ := (hunting_init hvalid).whole hid hfits hlength
    obtain ⟨p', before, hhunting, hstate, hanswers, hquiet⟩ := h.whole hid hfits hlength
    rw [hfresh, List.getLast?_concat, Option.some.injEq] at hlast
    rw [hlast] at hanswers
    have hquiet' : .frameReady ∉ p.answers ([0xFF, 0xFF] ++ frameId :: frameLength :: body) := by
      rw [hanswers, List.mem_append, not_or]
      exact ⟨hquiet, by simp⟩
    have hjudge := hhunting.frame_verdict frameId frameLength body
    rw [hlast] at hjudge
    rcases judge_cases (p'.frameAt frameId frameLength body) with
      ⟨reason, frameBytes, hreject⟩ | ⟨-, hkept⟩
    · rw [hreject] at hstate
      exact ⟨_, ⟨hstate, hquiet'⟩,
        ⟨hhunting.isOpen, hhunting.id, hhunting.dataLength, Nat.zero_le 2⟩, rfl⟩
    · exact absurd hjudge hkept
  | misfit hid hmisfit =>
    obtain ⟨p₁, hheader, hhunting, hsync⟩ := h.header
    obtain ⟨p', hpasses, hhunting', hsync'⟩ := hhunting.misfit hsync hid hmisfit
    exact ⟨p', hheader.trans hpasses, hhunting', hsync'⟩

/-- Noise, a run of header bytes and a rejected frame, in this order. -/
structure Stretch where
  noise : List Byte
  run : Nat
  frame : List Byte

def Stretch.bytes (stretch : Stretch) : List Byte :=
  stretch.noise ++ List.replicate stretch.run 0xFF ++ stretch.frame

theorem Hunting.noise_run (h : Hunting expectedId expectedDataLength p) (hsync : p.syncCount = 0)
    {noise : List Byte} (hquiet : Quiet noise) (length : Nat) :
    ∃ p', Passes p (noise ++ List.replicate length 0xFF) p' ∧
      Hunting expectedId expectedDataLength p' := by
  obtain ⟨p₁, hnoise, hhunting⟩ := h.noise (by omega) (by simpa [held, hsync] using hquiet)
  obtain ⟨p', hrun, hhunting', -⟩ := hhunting.run length
  exact ⟨p', hnoise.trans hrun, hhunting'⟩

theorem Hunting.stretches (h : Hunting expectedId expectedDataLength p) (hsync : p.syncCount = 0)
    (hvalid : (init expectedId expectedDataLength).validConfiguration = true)
    {stretches : List Stretch}
    (hstretches : ∀ stretch ∈ stretches,
      Quiet stretch.noise ∧ Rejected expectedId expectedDataLength stretch.frame) :
    ∃ p', Passes p (stretches.flatMap Stretch.bytes) p' ∧
      Hunting expectedId expectedDataLength p' ∧ p'.syncCount = 0 := by
  induction stretches generalizing p with
  | nil => exact ⟨p, .nil p, h, hsync⟩
  | cons stretch stretches ih =>
    obtain ⟨hquiet, hframe⟩ := hstretches stretch List.mem_cons_self
    obtain ⟨p₁, hnoise, hhunting₁⟩ := h.noise_run hsync hquiet stretch.run
    obtain ⟨p₂, hrejected, hhunting₂, hsync₂⟩ := hhunting₁.rejected hvalid hframe
    obtain ⟨p', hrest, hhunting', hsync'⟩ := ih hhunting₂ hsync₂
      fun stretch hmem => hstretches stretch (List.mem_cons_of_mem _ hmem)
    exact ⟨p', (hnoise.trans hrejected).trans hrest, hhunting', hsync'⟩

/-- **The answer is reported ready at its last byte.** -/
theorem Hunting.reply (h : Hunting expectedId expectedDataLength p)
    (hvalid : (init expectedId expectedDataLength).validConfiguration = true) {data : List Byte}
    (hdata : data.length = expectedDataLength.toNat) :
    ∃ before, p.answers (reply expectedId expectedDataLength data) =
      before ++ [.frameReady] ∧ .frameReady ∉ before := by
  obtain ⟨hid, hbound⟩ := valid_bounds hvalid
  have hlength := toNat_length hvalid
  have hfits : Fits (expectedDataLength + 2) := by
    rw [Fits, hlength, maxBodyLength]
    omega
  have hbytes : ServoResponse.reply expectedId expectedDataLength data =
      [0xFF, 0xFF] ++ expectedId :: (expectedDataLength + 2) ::
        ([0] ++ data ++ [checksum ([expectedId, expectedDataLength + 2, 0] ++ data)]) := by
    simp [ServoResponse.reply]
  obtain ⟨p', before, -, -, hanswers, hquiet⟩ := h.whole hid hfits
    (show ([0] ++ data ++
      [checksum ([expectedId, expectedDataLength + 2, 0] ++ data)]).length = _ by
        rw [hlength]
        simp [hdata])
  refine ⟨before, ?_, hquiet⟩
  rw [hbytes, hanswers]
  have htake : ([0] ++ data ++ [checksum ([expectedId, expectedDataLength + 2, 0] ++ data)]).take
      (expectedDataLength.toNat + 1) = [0] ++ data :=
    List.take_left' (by simp [hdata, Nat.add_comm])
  have hlast : ([0] ++ data ++ [checksum ([expectedId, expectedDataLength + 2, 0] ++ data)]).getD
      (expectedDataLength.toNat + 1) 0 =
        checksum ([expectedId, expectedDataLength + 2, 0] ++ data) := by
    simp [hdata]
  rw [verdict, hlength, Nat.add_sub_assoc (by decide), htake, hlast]
  simp

end Found

theorem valid_judge (p : ServoResponse) :
    p.judge.1.validConfiguration = p.validConfiguration := by
  simp only [judge]
  split_ifs
  all_goals rfl

theorem valid_push (p : ServoResponse) (byte : Byte) :
    (p.push byte).1.validConfiguration = p.validConfiguration := by
  unfold push
  dsimp only
  split
  · rfl
  split
  · rfl
  split
  · split
    all_goals rfl
  split
  · split
    all_goals rfl
  split
  · split
    all_goals rfl
  split
  · rfl
  · exact valid_judge _

theorem valid_pushAll (p : ServoResponse) (stream : List Byte) :
    (pushAll p stream).validConfiguration = p.validConfiguration :=
  run_invariant_all (fun p' byte h => (valid_push p' byte).trans h) stream rfl

/-- A parser that was not set up for a request stays as it is. -/
theorem pushAll_invalid (p : ServoResponse) (h : p.validConfiguration = false)
    (stream : List Byte) : pushAll p stream = p := by
  induction stream with
  | nil => rfl
  | cons byte stream ih =>
    have hsame : p.next byte = p :=
      push_closed (fun hopen => nomatch h.symm.trans hopen.1) byte
    rw [pushAll, run_cons, hsame]
    exact ih

/-- **Nothing but the answer is reported ready, and the answer is.** -/
theorem response_parsing (expectedId expectedDataLength : Byte) :
    (∀ stream byte,
        (pushAll (init expectedId expectedDataLength) stream).terminal = .needMore →
        ((pushAll (init expectedId expectedDataLength) stream).push byte).2 = .frameReady →
        ∃ data, data.length = expectedDataLength.toNat ∧
          reply expectedId expectedDataLength data <:+ stream ++ [byte]) ∧
      (∀ stream byte,
        (pushAll (init expectedId expectedDataLength) stream).terminal ≠ .needMore →
        (pushAll (init expectedId expectedDataLength) stream).push byte =
          (pushAll (init expectedId expectedDataLength) stream,
            (pushAll (init expectedId expectedDataLength) stream).terminal)) ∧
      ((init expectedId expectedDataLength).validConfiguration = true →
        ∀ (stretches : List Stretch) (noise : List Byte) (length : Nat) (data : List Byte),
          (∀ stretch ∈ stretches,
            Quiet stretch.noise ∧ Rejected expectedId expectedDataLength stretch.frame) →
          Quiet noise → data.length = expectedDataLength.toNat →
          ∃ before, (init expectedId expectedDataLength).answers
              (stretches.flatMap Stretch.bytes ++ noise ++ List.replicate length 0xFF ++
                reply expectedId expectedDataLength data) = before ++ [.frameReady] ∧
            .frameReady ∉ before) := by
  refine ⟨fun stream byte hmore hready => ?_, fun stream byte hdone => ?_, ?_⟩
  · cases hvalid : (init expectedId expectedDataLength).validConfiguration with
    | true =>
      have hfollows := Follows.stream hvalid hmore
      exact hfollows.ready ⟨hfollows.valid.trans hvalid, hmore⟩ hready
    | false =>
      rw [pushAll_invalid _ hvalid] at hready
      simp [push, hvalid] at hready
  · cases hvalid : (init expectedId expectedDataLength).validConfiguration with
    | true => exact push_terminal ((valid_pushAll _ stream).trans hvalid) hdone byte
    | false =>
      rw [pushAll_invalid _ hvalid] at hdone
      exact absurd rfl hdone
  · intro hvalid stretches noise length data hstretches hnoise hdata
    obtain ⟨p₁, hpast, hhunting₁, hsync₁⟩ :=
      (hunting_init hvalid).stretches rfl hvalid hstretches
    obtain ⟨p₂, hrun, hhunting₂⟩ := hhunting₁.noise_run hsync₁ hnoise length
    obtain ⟨before, hanswers, hquiet⟩ := hhunting₂.reply hvalid hdata
    obtain ⟨rfl, hbefore⟩ := hpast.trans hrun
    refine ⟨(init expectedId expectedDataLength).answers
      (stretches.flatMap Stretch.bytes ++ (noise ++ List.replicate length 0xFF)) ++ before, ?_, ?_⟩
    · rw [List.append_assoc (stretches.flatMap _) noise, answers_append, hanswers,
        List.append_assoc]
    · rw [List.mem_append, not_or]
      exact ⟨hbefore, hquiet⟩

/-- Behind a run of header bytes noise begins a frame, and the answer is taken for its body. -/
theorem noise_behind_run :
    Quiet [0x10, 0x05] ∧ (init 1 2).validConfiguration = true ∧
      .frameReady ∉ (init 1 2).answers
        (List.replicate 2 0xFF ++ [0x10, 0x05] ++ reply 1 2 [0x34, 0x12]) := by
  decide

end ServoResponse

end MobileBimanual.Mobile
