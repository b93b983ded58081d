/-
# The receive window of a request

`servo_rx_window.c`, which reads the answer to one request out of the ring that the DMA writes.
The ring is read by a count of bytes since the start, of 32 bits; a poll takes in what has arrived
since the last one, and the first 64 bytes are all that it looks at.

* A ring whose size divides the range of the count holds the last bytes of the stream, whatever
  wraps (`receive_get`);
* so a poll says what the parser says of the stream so far (`consume_eq`), and what the polls of a
  request end with is what the first one says that finds the answer complete
  (`polling_independent`).

The 64 bytes are charged for all that has arrived before any of it is looked at.  A poll that comes
when more of them are there does not see an answer among them (`late_poll_overflows`).
-/
import Mathlib.Logic.Function.Basic
import MobileBimanual.Mobile.ResponseSync

namespace MobileBimanual.Servo

open MobileBimanual.Stream (Byte)
open MobileBimanual.Mobile (ServoResponse ResponseResult)
open Machine

/-! ## 1. The window -/

def servoRxWindowMaxBytes : BitVec 16 := 64

inductive RxWindowResult where
  | needMore
  | frameReady
  | statusError
  | overflow
  deriving DecidableEq

structure RxWindow where
  parser : ServoResponse
  nextAbsolute : BitVec 32
  consumedBytes : BitVec 16

/-- The bytes of a ring, by their places. -/
abbrev RxRing := Nat → Byte

namespace RxWindow

def init (expectedId expectedDataLength : Byte) (startAbsolute : BitVec 32) : RxWindow where
  parser := .init expectedId expectedDataLength
  nextAbsolute := startAbsolute
  consumedBytes := 0

/-- The place in the ring of the byte with a given count. -/
def place (capacity : BitVec 16) (absolute : BitVec 32) : Nat :=
  absolute.toNat % capacity.toNat

/-- The loop of a poll. -/
def drain (ring : RxRing) (capacity : BitVec 16) : Nat → RxWindow → RxWindow × RxWindowResult
  | 0, w => (w, if servoRxWindowMaxBytes ≤ w.consumedBytes then .overflow else .needMore)
  | available + 1, w =>
    let parsed := w.parser.push (ring (place capacity w.nextAbsolute))
    let w' : RxWindow := ⟨parsed.1, w.nextAbsolute + 1, w.consumedBytes + 1⟩
    match parsed.2 with
    | .frameReady => (w', .frameReady)
    | .statusError => (w', .statusError)
    | _ => drain ring capacity available w'

/-- The registers of a good answer are written over the start of the output. -/
def copyData (p : ServoResponse) (output : List Byte) : List Byte :=
  (p.body.drop 1).take p.expectedDataLength.toNat ++ output.drop p.expectedDataLength.toNat

def consume (w : RxWindow) (ring : RxRing) (capacity : BitVec 16) (producerAbsolute : BitVec 32)
    (output : List Byte) : RxWindow × RxWindowResult × List Byte :=
  if capacity = 0 ∨ output.length < w.parser.expectedDataLength.toNat then
    (w, .overflow, output)
  else
    let available := producerAbsolute - w.nextAbsolute
    if capacity.setWidth 32 < available ∨
        servoRxWindowMaxBytes.setWidth 32 < w.consumedBytes.setWidth 32 + available then
      (w, .overflow, output)
    else
      let polled := drain ring capacity available.toNat w
      (polled.1, polled.2,
        if polled.2 = .frameReady then copyData polled.1.parser output else output)

/-! ## 2. A request -/

/-- The DMA writes a stream into the ring, from a given count on. -/
def receive (capacity : BitVec 16) (ring : RxRing) (absolute : BitVec 32) : List Byte → RxRing
  | [] => ring
  | byte :: stream =>
    receive capacity (Function.update ring (place capacity absolute) byte) (absolute + 1) stream

/-- What is fixed while the answer to a request is awaited: the ring and what was in it, the count
the request starts at, the stream that arrives after it and the caller's buffer. -/
structure Request where
  expectedId : Byte
  expectedDataLength : Byte
  capacity : BitVec 16
  ring : RxRing
  startAbsolute : BitVec 32
  stream : List Byte
  output : List Byte

variable (r : Request)

/-- The count and the ring when `n` bytes have arrived. -/
def Request.absolute (n : Nat) : BitVec 32 := r.startAbsolute + BitVec.ofNat 32 n

def Request.arrived (n : Nat) : RxRing :=
  receive r.capacity r.ring r.startAbsolute (r.stream.take n)

/-- The polls of a request, each by the number of bytes that have arrived before it, up to the one
that ends it. -/
def pollAll (w : RxWindow) : List Nat → RxWindowResult × List Byte
  | [] => (.needMore, r.output)
  | n :: polls =>
    let polled := w.consume (r.arrived n) r.capacity (r.absolute n) r.output
    if polled.2.1 = .needMore then pollAll polled.1 polls else polled.2

def Request.outcome (polls : List Nat) : RxWindowResult × List Byte :=
  pollAll r (.init r.expectedId r.expectedDataLength r.startAbsolute) polls

/-- Polls after `seen` bytes that end with the whole stream; between two of them no more bytes
arrive than the ring has places. -/
def Fed : Nat → List Nat → Prop
  | seen, [] => seen = r.stream.length
  | seen, n :: polls => seen ≤ n ∧ n ≤ seen + r.capacity.toNat ∧ Fed n polls

instance decidableFed : ∀ (seen : Nat) (polls : List Nat), Decidable (Fed r seen polls)
  | seen, [] => inferInstanceAs (Decidable (seen = _))
  | seen, n :: polls =>
    have := decidableFed n polls
    inferInstanceAs (Decidable (seen ≤ n ∧ n ≤ seen + r.capacity.toNat ∧ Fed r n polls))

/-- The parser after `n` bytes of the stream. -/
def Request.parsed (n : Nat) : ServoResponse :=
  (ServoResponse.init r.expectedId r.expectedDataLength).pushAll (r.stream.take n)

/-- The first `n` bytes have an answer among them. -/
def Request.Complete (n : Nat) : Prop := (r.parsed n).terminal ≠ .needMore

instance (n : Nat) : Decidable (r.Complete n) := inferInstanceAs (Decidable (_ ≠ _))

/-- The window has an answer in it, and the poll that first finds it finds more than the window. -/
def Request.Late (polls : List Nat) : Prop :=
  r.Complete 64 ∧ ∃ n, polls.find? (r.Complete ·) = some n ∧ 64 < n

/-! ## 3. The ring -/

section Ring

variable {capacity : BitVec 16} {absolute : BitVec 32}

theorem absolute_succ (n : Nat) :
    absolute + 1 + BitVec.ofNat 32 n = absolute + BitVec.ofNat 32 (n + 1) := by
  rw [BitVec.add_assoc, BitVec.ofNat_add, BitVec.add_comm 1]
  rfl

/-- A ring whose size divides the range of the count: its places go on over the wrap. -/
theorem place_add (hcap : capacity.toNat ∣ 2 ^ 32) (n : Nat) :
    place capacity (absolute + BitVec.ofNat 32 n) = (absolute.toNat + n) % capacity.toNat := by
  rw [place, BitVec.toNat_add, BitVec.toNat_ofNat, Nat.add_mod_mod, Nat.mod_mod_of_dvd _ hcap]

theorem place_ne (hcap : capacity.toNat ∣ 2 ^ 32) {n : Nat} (hn : n + 1 < capacity.toNat) :
    place capacity (absolute + 1 + BitVec.ofNat 32 n) ≠ place capacity absolute := by
  intro h
  have habs : place capacity absolute = (absolute.toNat + 0) % capacity.toNat := rfl
  rw [absolute_succ, place_add hcap, habs] at h
  have hmod : absolute.toNat + (n + 1) ≡ absolute.toNat + 0 [MOD capacity.toNat] := h
  have heq := (Nat.ModEq.add_left_cancel' _ hmod).eq_of_lt_of_lt hn (by omega)
  omega

/-- What is written elsewhere leaves a place alone. -/
theorem receive_of_ne {i : Nat} : ∀ (stream : List Byte) (ring : RxRing) (absolute : BitVec 32),
    (∀ n < stream.length, place capacity (absolute + BitVec.ofNat 32 n) ≠ i) →
    receive capacity ring absolute stream i = ring i
  | [], _, _, _ => rfl
  | byte :: stream, ring, absolute, h => by
    have hfirst : i ≠ place capacity absolute := by
      have hne := h 0 (by simp)
      rw [BitVec.add_zero] at hne
      exact hne.symm
    rw [receive, receive_of_ne stream]
    · exact Function.update_of_ne hfirst _ _
    · intro n hn
      rw [absolute_succ]
      exact h (n + 1) (by simp only [List.length_cons]; omega)

/-- **The ring has the last bytes of the stream**, as many as it has places. -/
theorem receive_get (hcap : capacity.toNat ∣ 2 ^ 32) {byte : Byte} :
    ∀ (stream : List Byte) (ring : RxRing) (absolute : BitVec 32) (n : Nat),
      stream[n]? = some byte → stream.length ≤ n + capacity.toNat →
      receive capacity ring absolute stream (place capacity (absolute + BitVec.ofNat 32 n)) = byte
  | [], _, _, _, h, _ => by simp at h
  | first :: stream, ring, absolute, 0, h, hlength => by
    obtain rfl : first = byte := by simpa using h
    rw [BitVec.add_zero, receive, receive_of_ne]
    · exact Function.update_self _ _ _
    · intro n hn
      simp only [List.length_cons] at hlength
      exact place_ne hcap (by omega)
  | _ :: stream, ring, absolute, n + 1, h, hlength => by
    rw [receive, ← absolute_succ]
    simp only [List.length_cons] at hlength
    exact receive_get hcap stream _ _ n h (by omega)

end Ring

/-! ## 4. The parser -/

section Parser

variable {p : ServoResponse}

/-- What an answer to a byte leaves the parser with. -/
def ending : ResponseResult → ResponseResult
  | .frameRejected => .needMore
  | result => result

/-- The answer to a byte is what the parser has come to. -/
structure Settles (p : ServoResponse) (result : ServoResponse × ResponseResult) : Prop where
  terminal : result.1.terminal = ending result.2
  dataLength : result.1.expectedDataLength = p.expectedDataLength

theorem settles_rejectFrame (h : p.terminal = .needMore) (reason : Mobile.ResponseReject)
    (frameBytes : BitVec 16) : Settles p (p.rejectFrame reason frameBytes) := ⟨h, rfl⟩

theorem settles_judge (h : p.terminal = .needMore) : Settles p p.judge := by
  unfold ServoResponse.judge
  dsimp only
  split
  · exact settles_rejectFrame h _ _
  split
  · exact settles_rejectFrame h _ _
  split
  · exact ⟨rfl, rfl⟩
  split
  · exact settles_rejectFrame h _ _
  split
  · exact ⟨rfl, rfl⟩
  · exact ⟨rfl, rfl⟩

theorem settles_push (h : p.terminal = .needMore) (byte : Byte) : Settles p (p.push byte) := by
  unfold ServoResponse.push
  dsimp only
  split
  · exact ⟨h, rfl⟩
  rw [if_neg (by simp [h])]
  split
  · split
    · exact ⟨h, rfl⟩
    · exact ⟨h, rfl⟩
  split
  · split
    · exact ⟨h, rfl⟩
    · exact ⟨h, rfl⟩
  split
  · split
    · exact ⟨h, rfl⟩
    · exact ⟨h, rfl⟩
  split
  · exact ⟨h, rfl⟩
  · obtain ⟨hterminal, hdata⟩ := settles_judge (p := { p with body := p.body ++ [byte] }) h
    exact ⟨hterminal, hdata⟩

theorem pushAll_of_terminal (h : p.terminal ≠ .needMore) :
    ∀ stream : List Byte, p.pushAll stream = p
  | [] => rfl
  | byte :: stream => by
    have hnext : p.next byte = p := ServoResponse.push_closed (fun hopen => h hopen.2) byte
    rw [ServoResponse.pushAll, run_cons, hnext]
    exact pushAll_of_terminal h stream

end Parser

section Request

variable {r : Request}

theorem parsed_add (n m : Nat) :
    r.parsed (n + m) = (r.parsed n).pushAll ((r.stream.drop n).take m) := by
  rw [Request.parsed, Request.parsed, List.take_add, ServoResponse.pushAll, run_append]
  rfl

/-- A verdict is final. -/
theorem parsed_of_complete {n m : Nat} (h : r.Complete n) (hle : n ≤ m) :
    r.parsed m = r.parsed n := by
  obtain ⟨k, rfl⟩ := Nat.exists_eq_add_of_le hle
  rw [parsed_add]
  exact pushAll_of_terminal h _

theorem Complete.mono {n m : Nat} (h : r.Complete n) (hle : n ≤ m) : r.Complete m := by
  rw [Request.Complete, parsed_of_complete h hle]
  exact h

theorem parsed_succ {n : Nat} {byte : Byte} (h : r.stream[n]? = some byte) :
    r.parsed (n + 1) = (r.parsed n).next byte := by
  obtain ⟨hlt, hget⟩ := List.getElem?_eq_some_iff.mp h
  rw [parsed_add, List.drop_eq_getElem_cons hlt, hget]
  rfl

end Request

/-! ## 5. A poll -/

section Poll

variable {r : Request} {w : RxWindow} {n m : Nat}

/-- The window has taken in `n` bytes and waits for more. -/
structure Waiting (r : Request) (n : Nat) (w : RxWindow) : Prop where
  parser : w.parser = r.parsed n
  next : w.nextAbsolute = r.absolute n
  consumed : w.consumedBytes.toNat = n
  open_ : ¬ r.Complete n

/-- What a poll says of a parser that has taken in `n` bytes. -/
def said (terminal : ResponseResult) (n : Nat) : RxWindowResult :=
  match terminal with
  | .frameReady => .frameReady
  | .statusError => .statusError
  | _ => if 64 ≤ n then .overflow else .needMore

/-- What a poll says that comes when `n` bytes have arrived. -/
def Request.verdict (r : Request) (n : Nat) : RxWindowResult × List Byte :=
  if 64 < n then (.overflow, r.output)
  else
    let result := said (r.parsed n).terminal n
    (result, if result = .frameReady then copyData (r.parsed n) r.output else r.output)

theorem Waiting.byte (hw : Waiting r n w) (hroom : n < 64) {byte : Byte}
    {p : ServoResponse} {result : ResponseResult} (hbyte : r.stream[n]? = some byte)
    (hpush : w.parser.push byte = (p, result)) :
    p = r.parsed (n + 1) ∧ (r.parsed (n + 1)).terminal = ending result ∧
      (¬ r.Complete (n + 1) →
        Waiting r (n + 1) ⟨p, w.nextAbsolute + 1, w.consumedBytes + 1⟩) := by
  have hp : p = r.parsed (n + 1) := by
    rw [parsed_succ hbyte, ServoResponse.next, ← hw.parser, hpush]
  have hterminal : p.terminal = ending result := by
    have hsettles := settles_push (not_not.mp hw.open_) byte
    rw [← hw.parser, hpush] at hsettles
    exact hsettles.terminal
  refine ⟨hp, hp ▸ hterminal, fun hopen => ⟨hp, ?_, ?_, hopen⟩⟩
  · rw [hw.next, Request.absolute, Request.absolute, BitVec.ofNat_add, ← BitVec.add_assoc]
    rfl
  · have hone : (1 : BitVec 16).toNat = 1 := rfl
    rw [BitVec.toNat_add, hw.consumed, hone]
    omega

/-- The loop stops at the byte that completes the answer, and the parser has what it would have
at the end. -/
theorem drain_eq {ring : RxRing} : ∀ (a n : Nat) (w : RxWindow), Waiting r n w → n + a ≤ 64 →
    (∀ k, n ≤ k → k < n + a → r.stream[k]? = some (ring (place r.capacity (r.absolute k)))) →
    (drain ring r.capacity a w).1.parser = r.parsed (n + a) ∧
      (drain ring r.capacity a w).2 = said (r.parsed (n + a)).terminal (n + a) ∧
      (¬ r.Complete (n + a) → Waiting r (n + a) (drain ring r.capacity a w).1)
  | 0, n, w, hw, hroom, _ => by
    have hsaid : said (r.parsed n).terminal n = if 64 ≤ n then .overflow else .needMore := by
      rw [not_not.mp hw.open_]
      rfl
    have hconsumed : servoRxWindowMaxBytes ≤ w.consumedBytes ↔ 64 ≤ n := by
      rw [BitVec.le_def, hw.consumed]
      rfl
    refine ⟨hw.parser, ?_, fun _ => hw⟩
    rw [Nat.add_zero, hsaid, drain]
    simp only [hconsumed]
  | a + 1, n, w, hw, hroom, hring => by
    have hbyte := hring n le_rfl (by omega)
    rw [← hw.next] at hbyte
    have hrest := fun k (hk : n + 1 ≤ k) (hlt : k < n + 1 + a) => hring k (by omega) (by omega)
    rw [Nat.add_comm a 1, ← Nat.add_assoc, Nat.add_comm 1 a, drain]
    -- an answer that is complete at this byte is what the whole chunk comes to
    have hstop : ∀ {p : ServoResponse}, p = r.parsed (n + 1) → r.Complete (n + 1) →
        p = r.parsed (n + 1 + a) := by
      intro p hp hcomplete
      rw [hp, parsed_of_complete hcomplete (Nat.le_add_right _ a)]
    rcases hpush : w.parser.push (ring (place r.capacity w.nextAbsolute)) with ⟨p, result⟩
    obtain ⟨hp, hterminal, hwaiting⟩ := hw.byte (by omega) hbyte hpush
    cases result with
    | needMore =>
      exact drain_eq a (n + 1) _ (hwaiting (not_not.mpr hterminal)) (by omega) hrest
    | frameRejected =>
      exact drain_eq a (n + 1) _ (hwaiting (not_not.mpr hterminal)) (by omega) hrest
    | frameReady =>
      have hcomplete : r.Complete (n + 1) := by simp [Request.Complete, hterminal, ending]
      have hlast := hstop hp hcomplete
      refine ⟨hlast, ?_, fun h => absurd (Complete.mono hcomplete (Nat.le_add_right _ a)) h⟩
      rw [← hlast, hp, hterminal]
      rfl
    | statusError =>
      have hcomplete : r.Complete (n + 1) := by simp [Request.Complete, hterminal, ending]
      have hlast := hstop hp hcomplete
      refine ⟨hlast, ?_, fun h => absurd (Complete.mono hcomplete (Nat.le_add_right _ a)) h⟩
      rw [← hlast, hp, hterminal]
      rfl

theorem dataLength_pushAll : ∀ (stream : List Byte) (p : ServoResponse),
    (p.pushAll stream).expectedDataLength = p.expectedDataLength
  | [], _ => rfl
  | byte :: stream, p => by
    by_cases h : p.terminal = .needMore
    · rw [ServoResponse.pushAll, run_cons]
      exact (dataLength_pushAll stream _).trans (settles_push h byte).dataLength
    · rw [pushAll_of_terminal h]

/-- A parser ends with a good answer, with an error, or not at all. -/
theorem terminal_pushAll : ∀ (stream : List Byte) {p : ServoResponse},
    p.terminal ≠ .frameRejected → (p.pushAll stream).terminal ≠ .frameRejected
  | [], _, h => h
  | byte :: stream, p, h => by
    by_cases hopen : p.terminal = .needMore
    · refine terminal_pushAll stream (p := p.next byte) ?_
      rw [ServoResponse.next, (settles_push hopen byte).terminal]
      cases (p.push byte).2 with
      | needMore => exact fun heq => by cases heq
      | frameReady => exact fun heq => by cases heq
      | frameRejected => exact fun heq => by cases heq
      | statusError => exact fun heq => by cases heq
    · rw [pushAll_of_terminal hopen]
      exact h

theorem terminal_parsed (n : Nat) : (r.parsed n).terminal ≠ .frameRejected :=
  terminal_pushAll _ nofun

theorem terminal_of_said {terminal : ResponseResult} (h : terminal ≠ .frameRejected)
    (hsaid : said terminal n = .needMore) : terminal = .needMore := by
  cases terminal with
  | needMore => rfl
  | frameReady => exact nomatch hsaid
  | frameRejected => exact absurd rfl h
  | statusError => exact nomatch hsaid

theorem toNat_available (n a : Nat) (h : a < 2 ^ 32) :
    (r.absolute (n + a) - r.absolute n).toNat = a := by
  have hsub : r.absolute (n + a) - r.absolute n = BitVec.ofNat 32 a := by
    rw [Request.absolute, Request.absolute, BitVec.ofNat_add, ← BitVec.add_assoc, BitVec.add_comm,
      BitVec.add_sub_cancel]
  rw [hsub, BitVec.toNat_ofNat]
  exact Nat.mod_eq_of_lt h

/-- **A poll says what the parser says of the stream so far.** -/
theorem consume_eq (hcap : r.capacity.toNat ∣ 2 ^ 32)
    (houtput : r.expectedDataLength.toNat ≤ r.output.length) (hw : Waiting r n w) {a : Nat}
    (hroom : n < 64) (hgap : a ≤ r.capacity.toNat) (hlength : n + a ≤ r.stream.length) :
    (w.consume (r.arrived (n + a)) r.capacity (r.absolute (n + a)) r.output).2 = r.verdict (n + a) ∧
      ((r.verdict (n + a)).1 = .needMore →
        Waiting r (n + a)
          (w.consume (r.arrived (n + a)) r.capacity (r.absolute (n + a)) r.output).1) := by
  have hsmall : r.capacity.toNat < 2 ^ 16 := r.capacity.isLt
  have hpositive : r.capacity ≠ 0 := by
    intro hzero
    rw [hzero] at hcap
    exact absurd (Nat.eq_zero_of_zero_dvd hcap) (by decide)
  have hdata : w.parser.expectedDataLength = r.expectedDataLength := by
    rw [hw.parser]
    exact dataLength_pushAll _ _
  have havailable : (r.absolute (n + a) - w.nextAbsolute).toNat = a := by
    rw [hw.next]
    exact toNat_available n a (by omega)
  have hguard : (r.capacity.setWidth 32 < r.absolute (n + a) - w.nextAbsolute ∨
      servoRxWindowMaxBytes.setWidth 32 <
        w.consumedBytes.setWidth 32 + (r.absolute (n + a) - w.nextAbsolute)) ↔ 64 < n + a := by
    have hmax : (servoRxWindowMaxBytes.setWidth 32).toNat = 64 := rfl
    simp only [BitVec.lt_def, BitVec.toNat_add, BitVec.toNat_setWidth, havailable, hw.consumed,
      hmax]
    omega
  have hready : ¬ (r.capacity = 0 ∨ r.output.length < w.parser.expectedDataLength.toNat) := by
    rw [hdata]
    exact not_or.mpr ⟨hpositive, Nat.not_lt.mpr houtput⟩
  rw [consume, if_neg hready]
  by_cases hlate : 64 < n + a
  · rw [if_pos (hguard.mpr hlate), Request.verdict, if_pos hlate]
    exact ⟨rfl, nofun⟩
  rw [if_neg (fun h => hlate (hguard.mp h)), Request.verdict, if_neg hlate]
  have hring : ∀ k, n ≤ k → k < n + a →
      r.stream[k]? = some (r.arrived (n + a) (place r.capacity (r.absolute k))) := by
    intro k hk hlt
    have hget : r.stream[k]? = some r.stream[k] := List.getElem?_eq_getElem (by omega)
    have htake : (r.stream.take (n + a))[k]? = some r.stream[k] := by
      rw [List.getElem?_take_of_lt hlt, hget]
    rw [hget, Request.arrived, Request.absolute,
      receive_get hcap _ _ _ k htake (by rw [List.length_take]; omega)]
  obtain ⟨hparser, hsaid, hwaiting⟩ := drain_eq a n w hw (by omega) hring
  simp only [havailable]
  refine ⟨by rw [hsaid, hparser], fun hmore => hwaiting ?_⟩
  exact not_not.mpr (terminal_of_said (terminal_parsed _) hmore)

end Poll

/-! ## 6. The polls of a request -/

section Polls

variable {r : Request} {w : RxWindow} {n m : Nat} {polls polls' : List Nat}

/-- A poll that comes when `n` bytes have arrived ends the request. -/
def Request.Settled (r : Request) (n : Nat) : Prop := (r.verdict n).1 ≠ .needMore

instance (n : Nat) : Decidable (r.Settled n) := inferInstanceAs (Decidable (_ ≠ _))

theorem said_needMore_iff (n : Nat) :
    said (r.parsed n).terminal n = .needMore ↔ ¬ r.Complete n ∧ n < 64 := by
  rw [Request.Complete, not_not]
  have hlast : said .needMore n = if 64 ≤ n then .overflow else .needMore := rfl
  constructor
  · intro hsaid
    have hmore := terminal_of_said (terminal_parsed n) hsaid
    refine ⟨hmore, Nat.lt_of_not_le fun hle => ?_⟩
    rw [hmore, hlast, if_pos hle] at hsaid
    exact nomatch hsaid
  · rintro ⟨hmore, hlt⟩
    rw [hmore]
    exact if_neg (Nat.not_le.mpr hlt)

theorem settled_iff (n : Nat) : r.Settled n ↔ r.Complete n ∨ 64 ≤ n := by
  rw [Request.Settled, Request.verdict]
  by_cases hlate : 64 < n
  · rw [if_pos hlate]
    exact iff_of_true nofun (.inr hlate.le)
  · rw [if_neg hlate]
    refine (not_congr (said_needMore_iff n)).trans ?_
    rw [not_and_or, not_not, Nat.not_lt]

theorem verdict_of_not_settled (h : ¬ r.Settled n) : r.verdict n = (.needMore, r.output) := by
  obtain ⟨hopen, hroom⟩ := not_or.mp (mt (settled_iff n).mpr h)
  have hsaid := (said_needMore_iff n).mpr ⟨hopen, Nat.lt_of_not_le hroom⟩
  simp only [Request.verdict, if_neg (show ¬ 64 < n by omega), hsaid]
  rfl

theorem Fed.le : ∀ {polls : List Nat} {seen : Nat}, Fed r seen polls → seen ≤ r.stream.length
  | [], _, h => Nat.le_of_eq h
  | _ :: _, _, h => h.1.trans (Fed.le h.2.2)

theorem Fed.bounded : ∀ {polls : List Nat} {seen : Nat}, Fed r seen polls →
    ∀ n ∈ polls, n ≤ r.stream.length
  | _ :: _, _, h, n, hn => by
    rcases List.mem_cons.mp hn with rfl | hn
    · exact h.2.2.le
    · exact h.2.2.bounded n hn

theorem Fed.last : ∀ {polls : List Nat} {seen : Nat}, Fed r seen polls →
    r.stream.length ∈ seen :: polls
  | [], _, h => by
    obtain rfl := h
    exact List.mem_singleton_self _
  | _ :: _, _, h => List.mem_cons_of_mem _ h.2.2.last

theorem waiting_init (r : Request) :
    Waiting r 0 (.init r.expectedId r.expectedDataLength r.startAbsolute) where
  parser := rfl
  next := (BitVec.add_zero _).symm
  consumed := rfl
  open_ := not_not.mpr rfl

/-- **The polls of a request end with what the first one says that has something to say.** -/
theorem pollAll_eq (hcap : r.capacity.toNat ∣ 2 ^ 32)
    (houtput : r.expectedDataLength.toNat ≤ r.output.length) :
    ∀ (polls : List Nat) (n : Nat) (w : RxWindow), Waiting r n w → n < 64 → Fed r n polls →
      pollAll r w polls = ((polls.find? (r.Settled ·)).map r.verdict).getD (.needMore, r.output)
  | [], _, _, _, _, _ => rfl
  | m :: polls, n, w, hw, hroom, hfed => by
    obtain ⟨hle, hgap, hrest⟩ := hfed
    obtain ⟨a, rfl⟩ := Nat.exists_eq_add_of_le hle
    obtain ⟨hanswered, hwaiting⟩ :=
      consume_eq hcap houtput hw hroom (Nat.add_le_add_iff_left.mp hgap) hrest.le
    rw [pollAll, hanswered]
    by_cases hsettled : r.Settled (n + a)
    · rw [if_neg hsettled, List.find?_cons_of_pos (by simpa using hsettled)]
      rfl
    · rw [if_pos (not_not.mp hsettled), List.find?_cons_of_neg (by simpa using hsettled)]
      have hopen := mt (settled_iff (n + a)).mpr hsettled
      exact pollAll_eq hcap houtput polls (n + a) _ (hwaiting (not_not.mp hsettled)) (by omega) hrest

theorem outcome_eq (hcap : r.capacity.toNat ∣ 2 ^ 32)
    (houtput : r.expectedDataLength.toNat ≤ r.output.length) (hfed : Fed r 0 polls) :
    r.outcome polls = ((polls.find? (r.Settled ·)).map r.verdict).getD (.needMore, r.output) :=
  pollAll_eq hcap houtput polls 0 _ (waiting_init r) (by decide) hfed

/-- An answer in the window is what every poll from then on is about. -/
theorem settled_iff_complete (h : r.Complete 64) (n : Nat) : r.Settled n ↔ r.Complete n :=
  (settled_iff n).trans (or_iff_left_of_imp (Complete.mono h))

theorem verdict_of_complete (h : r.Complete n) (hle : n ≤ m) (hm : m ≤ 64) :
    r.verdict n = r.verdict m := by
  have hsaid : said (r.parsed n).terminal n = said (r.parsed n).terminal m := by
    have hrejected := terminal_parsed (r := r) n
    unfold Request.Complete at h
    cases hterminal : (r.parsed n).terminal with
    | needMore => exact absurd hterminal h
    | frameReady => rfl
    | frameRejected => exact absurd hterminal hrejected
    | statusError => rfl
  rw [Request.verdict, Request.verdict, if_neg (by omega), if_neg (by omega),
    parsed_of_complete h hle, hsaid]

theorem verdict_of_open (h : ¬ r.Complete 64) (hn : 64 ≤ n) :
    r.verdict n = (.overflow, r.output) := by
  rw [Request.verdict]
  split
  · rfl
  · obtain rfl : n = 64 := by omega
    have hmore : (r.parsed 64).terminal = .needMore := not_not.mp h
    rw [hmore]
    rfl

/-- What the polls end with is what is said of the first 64 bytes, unless they come late. -/
theorem outcome_of_not_late (hcap : r.capacity.toNat ∣ 2 ^ 32)
    (houtput : r.expectedDataLength.toNat ≤ r.output.length) (hfed : Fed r 0 polls)
    (hlate : ¬ r.Late polls) : r.outcome polls = r.verdict (min r.stream.length 64) := by
  rw [outcome_eq hcap houtput hfed]
  cases hfirst : polls.find? (r.Settled ·) with
  | none =>
    have hopen : ¬ r.Settled r.stream.length := by
      rcases List.mem_cons.mp hfed.last with hzero | hlast
      · rw [hzero, settled_iff]
        exact not_or.mpr ⟨not_not.mpr rfl, by decide⟩
      · simpa using List.find?_eq_none.mp hfirst _ hlast
    have hsmall := (not_or.mp (mt (settled_iff _).mpr hopen)).2
    rw [Nat.min_eq_left (by omega), verdict_of_not_settled hopen]
    rfl
  | some m =>
    have hsettled : r.Settled m := by simpa using List.find?_some hfirst
    have hm := hfed.bounded m (List.mem_of_find?_eq_some hfirst)
    rw [Option.map_some, Option.getD_some]
    by_cases hcomplete : r.Complete 64
    · have hsame : ((r.Settled ·) : Nat → Bool) = (r.Complete ·) := by
        funext n
        exact decide_eq_decide.mpr (settled_iff_complete hcomplete n)
      have hwindow : m ≤ 64 :=
        Nat.le_of_not_lt fun hlt => hlate ⟨hcomplete, m, hsame ▸ hfirst, hlt⟩
      exact verdict_of_complete ((settled_iff_complete hcomplete m).mp hsettled)
        (Nat.le_min.mpr ⟨hm, hwindow⟩) (Nat.min_le_right _ _)
    · have hroom : 64 ≤ m := by
        by_contra hlt
        rcases (settled_iff m).mp hsettled with h | h
        · exact hcomplete (Complete.mono h (by omega))
        · exact hlt h
      rw [Nat.min_eq_right (by omega), verdict_of_open hcomplete hroom,
        verdict_of_open hcomplete le_rfl]

/-- A late poll says that there are too many bytes. -/
theorem outcome_of_late (hcap : r.capacity.toNat ∣ 2 ^ 32)
    (houtput : r.expectedDataLength.toNat ≤ r.output.length) (hfed : Fed r 0 polls)
    (hlate : r.Late polls) : r.outcome polls = (.overflow, r.output) := by
  obtain ⟨hcomplete, m, hfirst, hm⟩ := hlate
  have hsame : ((r.Settled ·) : Nat → Bool) = (r.Complete ·) := by
    funext n
    exact decide_eq_decide.mpr (settled_iff_complete hcomplete n)
  rw [outcome_eq hcap houtput hfed, hsame, hfirst, Option.map_some, Option.getD_some,
    Request.verdict, if_pos hm]

/-- The whole of a stream is all that the parser can have of it. -/
theorem verdict_min_of_ready {data : List Byte} (h : (r.parsed 64).data = some data) :
    r.verdict (min r.stream.length 64) =
      (.frameReady, data.take r.expectedDataLength.toNat ++
        r.output.drop r.expectedDataLength.toNat) := by
  have hmin : r.parsed (min r.stream.length 64) = r.parsed 64 := by
    rw [Request.parsed, Request.parsed, Nat.min_comm, ← List.take_take, List.take_length]
  obtain ⟨hready, hdata⟩ :
      (r.parsed 64).terminal = .frameReady ∧ (r.parsed 64).body.drop 1 = data := by
    rw [ServoResponse.data] at h
    split at h
    · exact ⟨‹_›, Option.some.inj h⟩
    · exact nomatch h
  have hlength : (r.parsed 64).expectedDataLength = r.expectedDataLength := dataLength_pushAll _ _
  rw [Request.verdict, if_neg (by omega), hmin, hready, ← hdata, ← hlength]
  rfl

/-- **What the polls of a request end with does not depend on when they come**, unless one of them
comes late: then it is an overflow.  An answer in the first 64 bytes is reported with its data. -/
theorem polling_independent (r : Request) (hcap : r.capacity.toNat ∣ 2 ^ 32)
    (houtput : r.expectedDataLength.toNat ≤ r.output.length) (polls polls' : List Nat)
    (hfed : Fed r 0 polls) (hfed' : Fed r 0 polls') :
    (¬ r.Late polls → ¬ r.Late polls' → r.outcome polls = r.outcome polls') ∧
      (r.Late polls → r.outcome polls = (.overflow, r.output)) ∧
      (¬ r.Late polls → ∀ data, (r.parsed 64).data = some data →
        r.outcome polls = (.frameReady, data.take r.expectedDataLength.toNat ++
          r.output.drop r.expectedDataLength.toNat)) := by
  refine ⟨fun hlate hlate' => ?_, outcome_of_late hcap houtput hfed, fun hlate data hdata => ?_⟩
  · rw [outcome_of_not_late hcap houtput hfed hlate, outcome_of_not_late hcap houtput hfed' hlate']
  · rw [outcome_of_not_late hcap houtput hfed hlate, verdict_min_of_ready hdata]

/-- A read of two registers whose count and whose ring wrap; behind the answer there is noise. -/
def Request.bench : Request where
  expectedId := 1
  expectedDataLength := 2
  capacity := 256
  ring := fun _ => 0
  startAbsolute := 0xFFFFFFFC
  stream := ServoResponse.reply 1 2 [0x34, 0x08] ++ List.replicate 57 0
  output := [0, 0]

theorem polling_independent_bench :
    Fed Request.bench 0 [3, 8, 65] ∧
      Request.bench.outcome [3, 8, 65] = (.frameReady, [0x34, 0x08]) := by
  have hfed : Fed Request.bench 0 [3, 8, 65] := by decide
  have hdata : (Request.bench.parsed 64).data = some [0x34, 0x08, 0xBE] := by decide +kernel
  have hlate : ¬ Request.bench.Late [3, 8, 65] := by
    rintro ⟨-, n, hn, hlt⟩
    have hfirst : [3, 8, 65].find? (Request.bench.Complete ·) = some 8 := by decide +kernel
    rw [hfirst] at hn
    exact absurd (Option.some.inj hn ▸ hlt) (by decide)
  exact ⟨hfed,
    (polling_independent Request.bench (by decide) (by decide) _ _ hfed hfed).2.2 hlate _ hdata⟩

/-- The same stream, read once when all of it is there. -/
theorem late_poll_overflows :
    Fed Request.bench 0 [8, 65] ∧ Fed Request.bench 0 [65] ∧
      Request.bench.outcome [8, 65] = (.frameReady, [0x34, 0x08]) ∧
      Request.bench.outcome [65] = (.overflow, [0, 0]) := by
  refine ⟨by decide, by decide, ?_, ?_⟩
  · decide +kernel
  · decide +kernel

end Polls

end RxWindow

end MobileBimanual.Servo
