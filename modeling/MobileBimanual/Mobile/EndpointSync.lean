/-
# Command packets are found in the bytes

The endpoint of `Endpoint` over whole streams of bytes.  While the bytes keep coming, its buffer is
the shortest end of the unanswered bytes that any packet still under way can have begun in
(`Window`).  So at every byte either the last 36 are a packet and are answered, or nothing is
(`Window.feed`), whatever came before.

The supervisor is shared with the rest of the firmware.  Every byte is fed with the supervisor as it
is found then; the packets are found all the same.
-/
import MobileBimanual.Mobile.Endpoint

namespace MobileBimanual.Mobile

open MobileBimanual.Stream (Byte Tick readU32Le)
open MobileBimanual.Wire (crc32c)
open Machine

namespace MobileEndpoint

/-! ## 1. Packets in a stream -/

/-- A byte, when it is fed, and the supervisor as it is then. -/
structure Fed where
  byte : Byte
  nowMs : Tick
  supervisor : MobileSupervisor

def feedOne (e : MobileEndpoint) (fed : Fed) : MobileEndpoint × Option (List Byte) :=
  { e with supervisor := fed.supervisor }.feed fed.byte fed.nowMs

def feedStream (e : MobileEndpoint) (stream : List Fed) : MobileEndpoint :=
  run (fun e fed => (e.feedOne fed).1) e stream

/-- The byte at this index is answered. -/
def Answered (e : MobileEndpoint) (stream : List Fed) (index : Nat) : Prop :=
  ∃ fed, stream[index]? = some fed ∧ ((e.feedStream (stream.take index)).feedOne fed).2.isSome

/-- A command packet: its header and its checksum are right. -/
structure CommandFrame (frame : List Byte) : Prop where
  length : frame.length = 36
  aligned : misaligned frame = false
  crc : readU32Le frame 32 = crc32c (frame.take 32)

/-- Less than 100 ms from byte to byte. -/
def Prompt (stream : List Fed) : Prop :=
  List.IsChain (fun earlier later => later.nowMs - earlier.nowMs < 100) stream

instance (stream : List Fed) : Decidable (Prompt stream) :=
  inferInstanceAs (Decidable (List.IsChain _ _))

/-! ## 2. The resynchronisation -/

theorem misaligned_snoc {buffer : List Byte} {byte : Byte} (hbuffer : buffer ≠ [])
    (h : misaligned (buffer ++ [byte]) = false) : misaligned buffer = false := by
  match buffer with
  | [] => exact absurd rfl hbuffer
  | [first] =>
    simp [misaligned] at h ⊢
    exact h.1
  | [first, second] =>
    simp [misaligned] at h ⊢
    exact h.1
  | first :: second :: third :: rest => simpa [misaligned] using h

/-- **What is left is the longest end that may begin a packet.** -/
theorem resync_suffix (rejectedFrames : Tick) (buffer : List Byte) :
    (resync rejectedFrames buffer).2 <:+ buffer := by
  induction buffer generalizing rejectedFrames with
  | nil => exact List.suffix_refl []
  | cons byte buffer ih =>
    rw [resync]
    split_ifs
    · exact (ih _).trans (List.suffix_cons byte buffer)
    · exact List.suffix_refl _

theorem suffix_resync {part buffer : List Byte} (hpart : part ≠ [])
    (haligned : misaligned part = false) (h : part <:+ buffer) (rejectedFrames : Tick) :
    part <:+ (resync rejectedFrames buffer).2 := by
  induction buffer generalizing rejectedFrames with
  | nil => exact h
  | cons byte buffer ih =>
    rw [resync]
    split_ifs with hmisaligned
    · rcases List.suffix_cons_iff.mp h with rfl | hrest
      · rw [haligned] at hmisaligned
        exact absurd hmisaligned (by decide)
      · exact ih hrest _
    · exact h

theorem resync_aligned (rejectedFrames : Tick) (buffer : List Byte)
    (h : (resync rejectedFrames buffer).2 ≠ []) :
    misaligned (resync rejectedFrames buffer).2 = false := by
  induction buffer generalizing rejectedFrames with
  | nil => exact absurd rfl h
  | cons byte buffer ih =>
    rw [resync] at h ⊢
    split_ifs at h ⊢ with hmisaligned
    · exact ih _ h
    · simpa using hmisaligned

/-! ## 3. The window -/

/-- The buffer of the endpoint against the bytes that are not answered yet. -/
structure Window (pending : List Byte) (e : MobileEndpoint) : Prop where
  short : e.buffer.length < 36
  suffix : e.buffer <:+ pending
  whole : ∀ part, part ≠ [] → part.length < 36 → misaligned part = false → part <:+ pending →
    part <:+ e.buffer

section Feed

variable {pending : List Byte} {e : MobileEndpoint} {byte : Byte} {nowMs : Tick}

/-- What may begin a packet with the next byte is in the buffer with it. -/
theorem Window.snoc (h : Window pending e) {part : List Byte} (hpart : part ≠ [])
    (hshort : part.length ≤ 36) (haligned : misaligned part = false)
    (hsuffix : part <:+ pending ++ [byte]) : part <:+ e.buffer ++ [byte] := by
  obtain rfl | ⟨rest, rfl, hrest⟩ := List.suffix_concat_iff.mp hsuffix
  · exact absurd rfl hpart
  · refine List.suffix_concat_iff.mpr (.inr ⟨rest, rfl, ?_⟩)
    by_cases hnil : rest = []
    · rw [hnil]
      exact List.nil_suffix
    · rw [List.length_append, List.length_singleton] at hshort
      exact h.whole rest hnil (by omega) (misaligned_snoc hnil haligned) hrest

/-- Nothing is given up between bytes that come in time. -/
theorem take_buffer (hgap : e.buffer = [] ∨ nowMs - e.lastByteMs < 100) :
    ∃ rejectedFrames, (e.take byte nowMs).buffer =
      (resync rejectedFrames (e.buffer ++ [byte])).2 := by
  refine ⟨e.rejectedFrames, ?_⟩
  have hkept : ¬ (e.buffer ≠ [] ∧ 100 ≤ nowMs - e.lastByteMs) := by
    rintro ⟨hbuffer, hlate⟩
    rcases hgap with hnil | hgap
    · exact hbuffer hnil
    · exact absurd hlate (BitVec.not_le.mpr hgap)
  simp only [take]
  rw [if_neg hkept]

/-- **At every byte: the last 36 are a packet and it is answered, or nothing is.** -/
theorem Window.feed (h : Window pending e)
    (hgap : e.buffer = [] ∨ nowMs - e.lastByteMs < 100) :
    ((e.feed byte nowMs).2.isSome ∧ (e.feed byte nowMs).1.buffer = [] ∧
        ∃ frame, CommandFrame frame ∧ frame <:+ pending ++ [byte]) ∨
      ((e.feed byte nowMs).2 = none ∧ Window (pending ++ [byte]) (e.feed byte nowMs).1 ∧
        ∀ frame, CommandFrame frame → ¬ frame <:+ pending ++ [byte]) := by
  obtain ⟨rejectedFrames, hbuffer⟩ : ∃ rejectedFrames, (e.take byte nowMs).buffer =
      (resync rejectedFrames (e.buffer ++ [byte])).2 := take_buffer hgap
  have hends := resync_suffix rejectedFrames (e.buffer ++ [byte])
  have hfound : ∀ part, part ≠ [] → part.length ≤ 36 → misaligned part = false →
      part <:+ pending ++ [byte] → part <:+ (e.take byte nowMs).buffer := by
    intro part hpart hshort haligned hsuffix
    rw [hbuffer]
    exact suffix_resync hpart haligned (h.snoc hpart hshort haligned hsuffix) rejectedFrames
  have hpending : (e.take byte nowMs).buffer <:+ pending ++ [byte] := by
    rw [hbuffer]
    exact hends.trans (List.suffix_append_self_iff.mpr h.suffix)
  have hroom : (e.take byte nowMs).buffer.length ≤ 36 := by
    have hshort := h.short
    have hlength := hends.length_le
    rw [List.length_append, List.length_singleton] at hlength
    rw [hbuffer]
    omega
  have hframe : ∀ frame, CommandFrame frame → frame <:+ pending ++ [byte] →
      (e.take byte nowMs).buffer = frame := by
    intro frame hcommand hsuffix
    have hnil : frame ≠ [] := by
      rintro rfl
      exact absurd hcommand.length (by decide)
    have hin := hfound frame hnil hcommand.length.le hcommand.aligned hsuffix
    exact (hin.eq_of_length (by have := hin.length_le; have := hcommand.length; omega)).symm
  rw [MobileEndpoint.feed]
  dsimp only
  split_ifs with hshort hcrc
  · refine .inr ⟨rfl, ⟨hshort, hpending, fun part hpart hlength => hfound part hpart hlength.le⟩,
      fun frame hcommand hsuffix => ?_⟩
    rw [hframe frame hcommand hsuffix, hcommand.length] at hshort
    exact absurd hshort (by decide)
  · refine .inr ⟨rfl, ⟨?_, ?_, ?_⟩, fun frame hcommand hsuffix => ?_⟩
    · simp only [List.length_drop]
      omega
    · exact (List.drop_suffix 1 _).trans hpending
    · intro part hpart hlength haligned hsuffix
      refine List.suffix_of_suffix_length_le (hfound part hpart hlength.le haligned hsuffix)
        (List.drop_suffix 1 _) ?_
      rw [List.length_drop]
      omega
    · rw [hframe frame hcommand hsuffix, hcommand.crc] at hcrc
      simp at hcrc
  · refine .inl ⟨rfl, rfl, (e.take byte nowMs).buffer, ⟨by omega, ?_, by simpa using hcrc⟩, hpending⟩
    rw [hbuffer]
    refine resync_aligned rejectedFrames _ ?_
    rw [← hbuffer]
    intro hnil
    rw [hnil] at hshort
    exact hshort (by decide)

/-- What the rest of the firmware does to the supervisor is no matter. -/
theorem Window.feedOne (h : Window pending e) (fed : Fed)
    (hgap : e.buffer = [] ∨ fed.nowMs - e.lastByteMs < 100) :
    ((e.feedOne fed).2.isSome ∧ (e.feedOne fed).1.buffer = [] ∧
        ∃ frame, CommandFrame frame ∧ frame <:+ pending ++ [fed.byte]) ∨
      ((e.feedOne fed).2 = none ∧ Window (pending ++ [fed.byte]) (e.feedOne fed).1 ∧
        ∀ frame, CommandFrame frame → ¬ frame <:+ pending ++ [fed.byte]) :=
  have hsame : Window pending { e with supervisor := fed.supervisor } :=
    ⟨h.short, h.suffix, h.whole⟩
  hsame.feed hgap

end Feed

/-! ## 4. The whole stream -/

theorem feed_lastByteMs (e : MobileEndpoint) (byte : Byte) (nowMs : Tick) :
    (e.feed byte nowMs).1.lastByteMs = nowMs := by
  simp only [feed]
  split_ifs
  all_goals rfl

section Stream

variable {e : MobileEndpoint} {stream : List Fed} {fed : Fed}

theorem feedStream_snoc : e.feedStream (stream ++ [fed]) = ((e.feedStream stream).feedOne fed).1 := by
  rw [feedStream, run_append]
  rfl

variable {index : Nat}

theorem answered_snoc_of_lt (h : index < stream.length) :
    Answered e (stream ++ [fed]) index ↔ Answered e stream index := by
  rw [Answered, Answered, List.getElem?_append_left h, List.take_append_of_le_length h.le]

theorem answered_snoc_last :
    Answered e (stream ++ [fed]) stream.length ↔ ((e.feedStream stream).feedOne fed).2.isSome := by
  rw [Answered, List.take_left' rfl]
  simp

theorem not_answered_of_le (h : stream.length ≤ index) : ¬ Answered e stream index := by
  rintro ⟨fed, hfed, -⟩
  rw [List.getElem?_eq_none h] at hfed
  cases hfed

theorem answered_take {length : Nat} (h : index < length) :
    Answered e (stream.take length) index ↔ Answered e stream index := by
  rw [Answered, Answered, List.getElem?_take_of_lt h, List.take_take, Nat.min_eq_left h.le]

/-- The endpoint has read a stream: `answered` is where the bytes begin that are not answered. -/
structure HasRead (e : MobileEndpoint) (stream : List Fed) (answered : Nat) : Prop where
  le : answered ≤ stream.length
  window : Window ((stream.map Fed.byte).drop answered) (e.feedStream stream)
  last : answered = 0 ∨ Answered e stream (answered - 1)
  none : ∀ index, answered ≤ index → ¬ Answered e stream index
  time : (e.feedStream stream).buffer = [] ∨
    ∃ before fed, stream = before ++ [fed] ∧ (e.feedStream stream).lastByteMs = fed.nowMs

theorem hasRead_nil (he : e.buffer = []) : HasRead e [] 0 where
  le := le_rfl
  window :=
    { short := by rw [feedStream, run_nil, he]; decide
      suffix := by rw [feedStream, run_nil, he]; exact List.nil_suffix
      whole := fun part hpart _ _ hsuffix => absurd (List.suffix_nil.mp hsuffix) hpart }
  last := .inl rfl
  none := fun _ _ => not_answered_of_le (Nat.zero_le _)
  time := .inl (by rw [feedStream, run_nil, he])

/-- The next byte comes in time for what the endpoint has. -/
theorem HasRead.gap {answered : Nat} (h : HasRead e stream answered)
    (hprompt : Prompt (stream ++ [fed])) :
    (e.feedStream stream).buffer = [] ∨ fed.nowMs - (e.feedStream stream).lastByteMs < 100 := by
  rcases h.time with hnil | ⟨before, last, hstream, htime⟩
  · exact .inl hnil
  · rw [hstream, Prompt, List.append_assoc] at hprompt
    rw [htime]
    exact .inr (List.isChain_cons_cons.mp (List.isChain_append.mp hprompt).2.1).1

theorem HasRead.snoc {answered : Nat} (h : HasRead e stream answered)
    (hprompt : Prompt (stream ++ [fed])) :
    ∃ answered', HasRead e (stream ++ [fed]) answered' := by
  have hbytes : ((stream ++ [fed]).map Fed.byte).drop answered =
      (stream.map Fed.byte).drop answered ++ [fed.byte] := by
    rw [List.map_append, List.drop_append_of_le_length (by simpa using h.le)]
    rfl
  rcases h.window.feedOne fed (h.gap hprompt) with
    ⟨hanswered, hnil, -⟩ | ⟨hsilent, hwindow, -⟩
  · rw [← feedStream_snoc] at hnil
    refine ⟨stream.length + 1, ?_, ⟨?_, ?_, ?_⟩, .inr ?_, ?_, .inl hnil⟩
    · simp
    · rw [hnil]
      decide
    · rw [hnil]
      exact List.nil_suffix
    · intro part hpart _ _ hsuffix
      rw [List.drop_eq_nil_of_le (by simp)] at hsuffix
      exact absurd (List.suffix_nil.mp hsuffix) hpart
    · exact answered_snoc_last.mpr hanswered
    · exact fun index hindex => not_answered_of_le (by simpa using hindex)
  · rw [← hbytes, ← feedStream_snoc] at hwindow
    refine ⟨answered, ?_, hwindow, ?_, fun index hindex => ?_, .inr ⟨stream, fed, rfl, ?_⟩⟩
    · rw [List.length_append]
      exact Nat.le_add_right_of_le h.le
    · by_cases hzero : answered = 0
      · exact .inl hzero
      · have hle := h.le
        exact .inr ((answered_snoc_of_lt (by omega)).mpr (h.last.resolve_left hzero))
    · rcases lt_trichotomy index stream.length with hlt | rfl | hgt
      · rw [answered_snoc_of_lt hlt]
        exact h.none index hindex
      · rw [answered_snoc_last, hsilent]
        simp
      · exact not_answered_of_le (by simpa using hgt)
    · rw [feedStream_snoc]
      exact feed_lastByteMs _ _ _

theorem hasRead_stream (he : e.buffer = []) (hprompt : Prompt stream) :
    ∃ answered, HasRead e stream answered := by
  induction stream using List.reverseRecOn with
  | nil => exact ⟨0, hasRead_nil he⟩
  | append_singleton stream fed ih =>
    obtain ⟨answered, hread⟩ := ih (List.isChain_append.mp hprompt).1
    exact hread.snoc hprompt

end Stream

/-- **A packet is answered at its last byte, and nothing else is answered.** -/
theorem endpoint_resync {e : MobileEndpoint} (he : e.buffer = []) {stream : List Fed}
    (hprompt : Prompt stream) (index : Nat) :
    Answered e stream index ↔ index < stream.length ∧
      (∃ frame, CommandFrame frame ∧ frame <:+ (stream.take (index + 1)).map Fed.byte) ∧
      ∀ earlier < index, Answered e stream earlier → earlier + 36 ≤ index := by
  by_cases hindex : index < stream.length
  · obtain ⟨fed, hfed⟩ : ∃ fed, stream[index]? = some fed :=
      ⟨_, List.getElem?_eq_getElem hindex⟩
    have htake : stream.take (index + 1) = stream.take index ++ [fed] := by
      rw [List.take_add_one, hfed]
      rfl
    have hprompt' : Prompt (stream.take index ++ [fed]) := by
      rw [← htake]
      exact hprompt.take _
    obtain ⟨answered, hread⟩ := hasRead_stream he (List.isChain_append.mp hprompt').1
    have hlength : (stream.take index).length = index := by
      rw [List.length_take]
      omega
    have hle := hread.le
    rw [hlength] at hle
    have hbytes : ((stream.take (index + 1)).map Fed.byte).drop answered =
        ((stream.take index).map Fed.byte).drop answered ++ [fed.byte] := by
      rw [htake, List.map_append, List.drop_append_of_le_length (by simpa using ⟨hle, by omega⟩)]
      rfl
    have hdropped : (((stream.take (index + 1)).map Fed.byte).drop answered).length =
        index + 1 - answered := by
      rw [List.length_drop, List.length_map, htake, List.length_append, hlength]
      rfl
    have hanswered : Answered e stream index ↔
        ((e.feedStream (stream.take index)).feedOne fed).2.isSome := by
      constructor
      · rintro ⟨fed', hfed', hsome⟩
        obtain rfl := Option.some.inj (hfed.symm.trans hfed')
        exact hsome
      · exact fun hsome => ⟨fed, hfed, hsome⟩
    have hfeed := hread.window.feedOne fed (hread.gap hprompt')
    rw [← hbytes] at hfeed
    rcases hfeed with ⟨hsome, -, frame, hcommand, hsuffix⟩ | ⟨hsilent, -, hnoFrame⟩
    · refine iff_of_true (hanswered.mpr hsome)
        ⟨hindex, ⟨frame, hcommand, hsuffix.trans (List.drop_suffix _ _)⟩, ?_⟩
      intro earlier hearlier hbefore
      have hlt : earlier < answered := by
        by_contra hge
        exact hread.none earlier (by omega) ((answered_take hearlier).mpr hbefore)
      have hroom := hsuffix.length_le
      rw [hdropped, hcommand.length] at hroom
      omega
    · refine iff_of_false (by rw [hanswered, hsilent]; simp) ?_
      rintro ⟨-, ⟨frame, hcommand, hsuffix⟩, hapart⟩
      have hroom : 36 ≤ index + 1 - answered := by
        rcases hread.last with hzero | hlast
        · have hwhole := hsuffix.length_le
          rw [hcommand.length] at hwhole
          rw [hzero] at hdropped ⊢
          rw [← hdropped]
          exact hwhole
        · have hlt : answered - 1 < index := by
            by_contra hge
            exact not_answered_of_le (by rw [hlength]; omega) hlast
          have hgap := hapart _ hlt ((answered_take hlt).mp hlast)
          omega
      refine hnoFrame frame hcommand (List.suffix_of_suffix_length_le hsuffix
        (List.drop_suffix _ _) ?_)
      rw [hdropped, hcommand.length]
      exact hroom
  · constructor
    · intro h
      exact absurd h (not_answered_of_le (not_lt.mp hindex))
    · rintro ⟨h, -⟩
      exact absurd h hindex

/-- A stray first byte of a packet before a packet. -/
theorem endpoint_resync_stray :
    let e : MobileEndpoint := ⟨MobileSupervisor.blank, 1, 0, [], 0⟩
    let packet := MobileMessage.packet ⟨.stop, 7, 1, 50, fun _ => 0⟩
    let stream : List Fed := (0x41 :: packet).map fun byte => ⟨byte, 3, MobileSupervisor.blank⟩
    Answered e stream 36 ∧
      ∃ frame, CommandFrame frame ∧ frame <:+ (stream.take 37).map Fed.byte := by
  intro e packet stream
  have hanswered : Answered e stream 36 := ⟨_, rfl, by decide +kernel⟩
  have hprompt : Prompt stream := by decide +kernel
  exact ⟨hanswered, ((endpoint_resync rfl hprompt 36).mp hanswered).2.1⟩

end MobileEndpoint

end MobileBimanual.Mobile
