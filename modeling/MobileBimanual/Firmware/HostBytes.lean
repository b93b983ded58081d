/-
# The bytes that reach the parser

`SingleArmApp_Process` with the two receive interrupts coming at any time between its steps: it
takes a fault of the receiver before and after every burst, and in a burst it gives what is queued
to the parser, byte by byte.

A byte that is lost leaves a gap.  `HostLink.Intact` says that the parser has been given a run of
the received bytes without one since its last reset, and that a lost byte is answered by the handler
before any byte behind it.  A full ring cannot break this (`Sorted.guarded`): what is queued in
front of the gap is longer than a burst.  An error of the line can, when it comes in the middle of a
burst and the burst goes on to what was received after it; `gapFree_iff_early` says that this is the
only way.
-/
import MobileBimanual.Firmware.HostService
import MobileBimanual.Firmware.HostUartRx
import MobileBimanual.Wire.Parser

namespace MobileBimanual.Firmware

open MobileBimanual.Stream MobileBimanual.Wire Machine HostUartRx

/-! ## 1. The process loop -/

def hostBinaryRxBurstMaxBytes : Nat := 64

/-- Where the main loop is in `SingleArmApp_Process`. -/
inductive ProcessPhase where
  | entry
  | burst (processed : Nat)
  | leaving
  | handling
  | serving

/-- The firmware with its host line.  The last six fields are not in the firmware: the number of
places on the wire so far, the bytes that the receiver queued, those given to the parser since its
last reset, the places of the lost ones whose fault the loop has not taken, of those whose fault it
has taken but not handled, and how many bytes are still queued from before the first error of the
line that the loop has not taken. -/
structure HostLink where
  rx : HostUartRx
  armed : Bool
  phase : ProcessPhase
  parser : StreamParser
  host : HostControl
  places : Nat
  received : List HostByte
  parsed : List HostByte
  missing : List Nat
  unhandled : List Nat
  beforeError : Option Nat

/-- What the loop meets on the way; which message the type of a frame stands for is left open. -/
structure ProcessReplies where
  message : HostMessage := .unknown
  frame : FrameReplies := {}
  service : ServiceReplies := {}

inductive LinkEvent where
  | byte (byte : Byte) (tick : Tick) (rearmed : Bool)
  | error (more : Nat) (receiving rearmed : Bool)
  | process (replies : ProcessReplies)

namespace HostLink

/-- `BinaryControl_EnterMode` and `HostUartRx_Start`. -/
def start (ring : RingIndex → HostByte) (host : HostControl) (rearmed : Bool) : HostLink where
  rx := ((init ring).start rearmed).1
  armed := rearmed
  phase := .entry
  parser := streamParserInit
  host := if rearmed then host else handleHostUartError host
  places := 0
  received := []
  parsed := []
  missing := []
  unhandled := []
  beforeError := none

/-- Bytes on the wire of which the firmware gets none. -/
def lose (n : Nat) (w : HostLink) : HostLink :=
  { w with places := w.places + n, missing := w.missing ++ List.range' w.places n }

/-- A byte on the wire: an interrupt if the receiver is armed. -/
def onByte (byte : Byte) (tick : Tick) (rearmed : Bool) (w : HostLink) : HostLink :=
  let item : HostByte := ⟨byte, tick, w.places⟩
  if !w.armed then w.lose 1
  else if next w.rx.head = w.rx.tail then
    { w.lose 1 with rx := w.rx.rxCplt item rearmed, armed := rearmed }
  else
    { w with
      rx := w.rx.rxCplt item rearmed
      armed := rearmed
      places := w.places + 1
      received := w.received ++ [item] }

/-- An error of the line, at which one byte is lost and `more` behind it.  The HAL may still be
receiving, and then the receiver is not armed anew. -/
def onError (more : Nat) (receiving rearmed : Bool) (w : HostLink) : HostLink :=
  if !w.rx.started then w.lose (more + 1)
  else
    { w.lose (more + 1) with
      rx := w.rx.onError rearmed
      armed := (w.armed && receiving) || rearmed
      beforeError := w.beforeError <|> some w.rx.count }

/-- `HostUartRx_TakeFault` with the phase that follows a fault and the one that follows none. -/
def takeFault (next : ProcessPhase) (w : HostLink) : HostLink :=
  let (rx, fault) := w.rx.takeFault
  if fault then
    { w with
      rx := rx
      phase := .handling
      missing := []
      unhandled := w.unhandled ++ w.missing
      beforeError := none }
  else { w with rx := rx, phase := next }

/-- `Host_ProcessBinaryByte`. -/
def processBinaryByte (build : Build) (protocol : ProtocolBuild) (replies : ProcessReplies)
    (item : HostByte) (w : HostLink) : HostLink :=
  let pushed := streamParserPush protocol w.parser item.byte
  { w with
    parser := pushed.1
    host :=
      match pushed.2 with
      | .ok frame =>
        handleBinaryFrame build replies.message frame.payload
          { replies.frame with receivedAtMs := item.receivedAtMs } w.host
      | .error .noFrame => w.host
      | .error _ => countRejected w.host
    parsed := w.parsed ++ [item] }

/-- `BinaryControl_HandleHostUartError` with the parser. -/
def handleError (w : HostLink) : HostLink :=
  { w with
    parser := streamParserInit
    host := handleHostUartError w.host
    phase := .serving
    parsed := []
    unhandled := [] }

/-- The next step of `SingleArmApp_Process` in the binary mode. -/
def process (build : Build) (protocol : ProtocolBuild) (replies : ProcessReplies) (w : HostLink) :
    HostLink :=
  match w.phase with
  | .entry => w.takeFault (.burst 0)
  | .burst processed =>
    if processed < hostBinaryRxBurstMaxBytes then
      match w.rx.pop with
      | none => { w with phase := .leaving }
      | some (item, rx) =>
        { w.processBinaryByte build protocol replies item with
          rx := rx
          phase := .burst (processed + 1)
          beforeError := w.beforeError.map (· - 1) }
    else { w with phase := .leaving }
  | .leaving => w.takeFault .serving
  | .handling => w.handleError
  | .serving =>
    { w with host := binaryControlService build replies.service w.host, phase := .entry }

def step (build : Build) (protocol : ProtocolBuild) (w : HostLink) : LinkEvent → HostLink
  | .byte byte tick rearmed => w.onByte byte tick rearmed
  | .error more receiving rearmed => w.onError more receiving rearmed
  | .process replies => w.process build protocol replies

/-! ## 2. What should hold -/

/-- Each byte comes on the wire right behind the one before it. -/
def Consecutive (bytes : List HostByte) : Prop :=
  bytes.IsChain fun first second => second.place = first.place + 1

/-- The handler has reset the parser and latched the stop. -/
structure Answered (w : HostLink) : Prop where
  parser : w.parser = streamParserInit
  parsed : w.parsed = []
  handled : w.unhandled = []
  stopLatched : w.host.stopLatched = true

structure Intact (build : Build) (protocol : ProtocolBuild) (w : HostLink) : Prop where
  received : w.parsed <:+: w.received
  consecutive : Consecutive w.parsed
  beforeLost : ∀ b ∈ w.parsed, ∀ lost ∈ w.unhandled ++ w.missing, b.place < lost
  parser : w.parser = (pushAll protocol streamParserInit (w.parsed.map (·.byte))).1
  answered : w.phase = .handling → ∀ replies, Answered (w.process build protocol replies)

/-- No burst takes more bytes after an error of the line than were queued at the error. -/
def Early (w : HostLink) : LinkEvent → Prop
  | .process _ =>
    ∀ processed < hostBinaryRxBurstMaxBytes, w.phase = .burst processed → w.rx.queued ≠ [] →
      w.beforeError ≠ some 0
  | _ => True

/-! ## 3. The order of the queue -/

/-- The run that the next byte continues; a fault that has been taken ends it. -/
def held (w : HostLink) : List HostByte :=
  match w.phase with
  | .handling => []
  | _ => w.parsed

/-- What keeps a burst off the bytes behind a gap: there is none and no byte comes, or there is a
fault, and in front of the gap are more bytes than the burst still takes, or all those that were
queued at the error of the line. -/
def Guarded (w : HostLink) (sound behind : List HostByte) : Prop :=
  w.armed = false ∧ behind = [] ∧ w.beforeError = none ∨
    w.rx.fault = true ∧ (∀ queued, w.beforeError = some queued → sound.length ≤ queued) ∧
      ∀ processed, w.phase = .burst processed →
        1023 ≤ sound.length + processed ∨ w.beforeError = some sound.length

/-- The queue is in two parts: `sound` continues what the parser holds, and in front of every byte
of `behind` one was lost. -/
structure Sorted (w : HostLink) (sound behind : List HostByte) : Prop where
  queued : w.rx.queued = sound ++ behind
  consecutive : Consecutive (w.held ++ sound)
  received : w.held ++ sound <:+: w.received
  past : ∀ b ∈ w.parsed ++ sound, b.place < w.places
  lostPast : ∀ lost ∈ w.missing, lost < w.places
  before : ∀ b ∈ sound, ∀ lost ∈ w.missing, b.place < lost
  gap : ∀ b ∈ behind, ∃ lost ∈ w.missing, lost < b.place
  handled : w.phase ≠ .handling → w.unhandled = []
  started : w.armed = true → w.rx.started = true
  whole : w.missing = [] →
    w.held ++ sound <:+ w.received ∧ (∀ b ∈ (w.held ++ sound).getLast?, b.place + 1 = w.places) ∧
      w.beforeError = none
  guarded : w.missing ≠ [] → w.Guarded sound behind

variable {build : Build} {protocol : ProtocolBuild} {w : HostLink} {sound behind : List HostByte}

theorem Sorted.behind_eq_nil (h : w.Sorted sound behind) (hm : w.missing = []) : behind = [] := by
  refine List.eq_nil_iff_forall_not_mem.mpr fun b hb => ?_
  obtain ⟨lost, hlost, _⟩ := h.gap b hb
  rw [hm] at hlost
  cases hlost

/-- Lost bytes change the queue only in what is known of it. -/
theorem Sorted.lose (h : w.Sorted sound behind) {n : Nat} {rx : HostUartRx} {armed : Bool}
    {beforeError : Option Nat} (hn : 0 < n) (hqueued : rx.queued = w.rx.queued)
    (hstarted : armed = true → rx.started = true)
    (hguarded : Guarded { w.lose n with rx, armed, beforeError } sound behind) :
    Sorted { w.lose n with rx, armed, beforeError } sound behind where
  queued := hqueued.trans h.queued
  consecutive := h.consecutive
  received := h.received
  past b hb := Nat.lt_add_right n (h.past b hb)
  lostPast lost hlost := by
    rcases List.mem_append.mp hlost with hlost | hlost
    · exact Nat.lt_add_right n (h.lostPast lost hlost)
    · exact (List.mem_range'_1.mp hlost).2
  before b hb lost hlost := by
    rcases List.mem_append.mp hlost with hlost | hlost
    · exact h.before b hb lost hlost
    · have hpast := h.past b (List.mem_append_right _ hb)
      have hlater := (List.mem_range'_1.mp hlost).1
      omega
  gap b hb := by
    obtain ⟨lost, hlost, hlt⟩ := h.gap b hb
    exact ⟨lost, List.mem_append_left _ hlost, hlt⟩
  handled := h.handled
  started := hstarted
  whole hm := by
    have hrange : List.range' w.places n = [] := (List.append_eq_nil_iff.mp hm).2
    rw [List.range'_eq_nil_iff] at hrange
    omega
  guarded _ := hguarded

/-- A receiver that is not armed queues nothing behind a gap. -/
theorem Sorted.quiet (h : w.Sorted sound behind) (harmed : w.armed = false) :
    w.Guarded sound behind := by
  by_cases hm : w.missing = []
  · exact .inl ⟨harmed, h.behind_eq_nil hm, (h.whole hm).2.2⟩
  · exact h.guarded hm

theorem Sorted.count_eq (h : w.Sorted sound behind) :
    w.rx.count = sound.length + behind.length := by
  rw [← length_queued, h.queued, List.length_append]

/-- What an armed receiver leaves of the guard. -/
theorem Sorted.faulted (h : w.Sorted sound behind) (harmed : w.armed = true)
    (hm : w.missing ≠ []) : w.rx.fault = true ∧
      (∀ queued, w.beforeError = some queued → sound.length ≤ queued) ∧
        ∀ processed, w.phase = .burst processed →
          1023 ≤ sound.length + processed ∨ w.beforeError = some sound.length := by
  rcases h.guarded hm with ⟨hunarmed, _⟩ | hfaulted
  · rw [harmed] at hunarmed
    cases hunarmed
  · exact hfaulted

/-! ## 4. The interrupts -/

theorem Sorted.onByte_unarmed (h : w.Sorted sound behind) (harmed : w.armed = false) :
    (w.lose 1).Sorted sound behind :=
  h.lose Nat.one_pos rfl h.started (h.quiet harmed)

/-- A full ring holds more than a burst takes. -/
theorem Sorted.onByte_full (h : w.Sorted sound behind) (harmed : w.armed = true)
    (hfull : next w.rx.head = w.rx.tail) (item : HostByte) (rearmed : Bool) :
    Sorted { w.lose 1 with rx := w.rx.rxCplt item rearmed, armed := rearmed } sound behind := by
  have hstarted := h.started harmed
  have hrx : w.rx.rxCplt item rearmed = rearm rearmed { w.rx with fault := true } := by
    rw [rxCplt, if_neg (by simp [hstarted]), if_pos hfull]
  refine h.lose Nat.one_pos (by rw [hrx, queued_rearm]; rfl)
    (fun _ => by rw [hrx, started_rearm]; exact hstarted) (.inr ⟨by simp [hrx], ?_⟩)
  by_cases hm : w.missing = []
  · obtain ⟨_, _, hnone⟩ := h.whole hm
    have hlength : sound.length = 1023 := by
      have hqueued := congrArg List.length h.queued
      rw [h.behind_eq_nil hm, List.append_nil, length_queued,
        next_head_eq_iff.mp hfull] at hqueued
      exact hqueued.symm
    refine ⟨fun queued hq => ?_, fun processed _ => .inl (by omega)⟩
    cases hnone.symm.trans hq
  · exact (h.faulted harmed hm).2

variable {item : HostByte}

theorem Consecutive.concat {bytes : List HostByte} (h : Consecutive bytes)
    (hlast : ∀ b ∈ bytes.getLast?, b.place + 1 = item.place) : Consecutive (bytes ++ [item]) := by
  refine List.isChain_append.mpr ⟨h, List.isChain_singleton item, fun b hb b' hb' => ?_⟩
  obtain rfl := Option.mem_some.mp hb'
  exact (hlast b hb).symm

/-- A byte for which there is a slot goes on with the run, or comes behind the gap. -/
theorem Sorted.onByte_queued (h : w.Sorted sound behind) (harmed : w.armed = true)
    (hroom : next w.rx.head ≠ w.rx.tail) (byte : Byte) (tick : Tick) (rearmed : Bool) :
    ∃ sound' behind', (w.onByte byte tick rearmed).Sorted sound' behind' := by
  have hstarted := h.started harmed
  have hcount : w.rx.count < 1023 := by
    have hne := mt next_head_eq_iff.mpr hroom
    have hlt := w.rx.count_lt
    omega
  generalize hitem : (⟨byte, tick, w.places⟩ : HostByte) = item
  have hplace : item.place = w.places := by rw [← hitem]
  have hrx : w.rx.rxCplt item rearmed = rearm rearmed (w.rx.push item) := by
    rw [rxCplt, if_neg (by simp [hstarted]), if_neg hroom]
  have hqueued : (w.rx.rxCplt item rearmed).queued = sound ++ behind ++ [item] := by
    rw [hrx, queued_rearm, queued_push hcount, h.queued]
  have hnext : w.onByte byte tick rearmed =
      { w with
        rx := w.rx.rxCplt item rearmed
        armed := rearmed
        places := w.places + 1
        received := w.received ++ [item] } := by
    simp only [onByte, hitem, harmed, hroom, Bool.not_true, Bool.false_eq_true, if_false]
  have hkept : (w.rx.rxCplt item rearmed).started = true := by
    rw [hrx, started_rearm]
    exact hstarted
  rw [hnext]
  by_cases hm : w.missing = []
  · obtain ⟨hsuffix, hlast, hnone⟩ := h.whole hm
    have hrun : w.held ++ (sound ++ [item]) = w.held ++ sound ++ [item] :=
      (List.append_assoc _ _ _).symm
    have hend : w.held ++ (sound ++ [item]) <:+ w.received ++ [item] := by
      rw [hrun]
      exact List.suffix_append_self_iff.mpr hsuffix
    refine ⟨sound ++ [item], [], ?_⟩
    exact
      { queued := by rw [hqueued, h.behind_eq_nil hm, List.append_nil, List.append_nil]
        consecutive := by
          change Consecutive (w.held ++ (sound ++ [item]))
          rw [hrun]
          exact h.consecutive.concat fun b hb => (hlast b hb).trans hplace.symm
        received := hend.isInfix
        past := by
          intro b hb
          simp only [← List.append_assoc] at hb
          rcases List.mem_append.mp hb with hb | hb
          · exact Nat.lt_succ_of_lt (h.past b hb)
          · rw [List.mem_singleton.mp hb, hplace]
            exact Nat.lt_succ_self _
        lostPast := fun lost hlost => Nat.lt_succ_of_lt (h.lostPast lost hlost)
        before := by simp [hm]
        gap := by simp
        handled := h.handled
        started := fun _ => hkept
        whole := by
          refine fun _ => ⟨hend, fun b hb => ?_, hnone⟩
          change b ∈ (w.held ++ (sound ++ [item])).getLast? at hb
          rw [hrun, List.getLast?_concat] at hb
          rw [← Option.mem_some.mp hb, hplace]
        guarded := fun hne => absurd hm hne }
  · have hfault : (w.rx.rxCplt item rearmed).fault = true := by
      rw [hrx, fault_rearm]
      exact (Bool.or_eq_true _ _).mpr (.inl (h.faulted harmed hm).1)
    refine ⟨sound, behind ++ [item], ?_⟩
    exact
      { queued := hqueued.trans (List.append_assoc _ _ _)
        consecutive := h.consecutive
        received := h.received.trans (List.prefix_append _ _).isInfix
        past := fun b hb => Nat.lt_succ_of_lt (h.past b hb)
        lostPast := fun lost hlost => Nat.lt_succ_of_lt (h.lostPast lost hlost)
        before := h.before
        gap := by
          intro b hb
          rcases List.mem_append.mp hb with hb | hb
          · exact h.gap b hb
          · obtain ⟨lost, hlost⟩ := List.exists_mem_of_ne_nil _ hm
            refine ⟨lost, hlost, ?_⟩
            rw [List.mem_singleton.mp hb, hplace]
            exact h.lostPast lost hlost
        handled := h.handled
        started := fun _ => hkept
        whole := fun hnil => absurd hnil hm
        guarded := fun _ => .inr ⟨hfault, (h.faulted harmed hm).2⟩ }

theorem Sorted.onByte (h : w.Sorted sound behind) (byte : Byte) (tick : Tick) (rearmed : Bool) :
    ∃ sound' behind', (w.onByte byte tick rearmed).Sorted sound' behind' := by
  cases harmed : w.armed
  · refine ⟨sound, behind, ?_⟩
    rw [HostLink.onByte, if_pos (by simp [harmed])]
    exact h.onByte_unarmed harmed
  · by_cases hfull : next w.rx.head = w.rx.tail
    · refine ⟨sound, behind, ?_⟩
      rw [HostLink.onByte, if_neg (by simp [harmed]), if_pos hfull]
      exact h.onByte_full harmed hfull _ rearmed
    · exact h.onByte_queued harmed hfull byte tick rearmed

/-- An error of the line in front of which nothing is lost has all that is queued before it. -/
theorem Sorted.beforeError (h : w.Sorted sound behind) :
    (∀ queued, (w.beforeError <|> some w.rx.count) = some queued → sound.length ≤ queued) ∧
      ∀ processed, w.phase = .burst processed →
        1023 ≤ sound.length + processed ∨
          (w.beforeError <|> some w.rx.count) = some sound.length := by
  have hcount := h.count_eq
  cases herror : w.beforeError with
  | none =>
    refine ⟨fun queued hq => ?_, fun processed hphase => ?_⟩
    · obtain rfl := Option.some.inj hq
      omega
    · by_cases hnil : behind = []
      · rw [hnil, List.length_nil, Nat.add_zero] at hcount
        exact .inr (congrArg some hcount)
      · have hm : w.missing ≠ [] := fun hm => hnil (h.behind_eq_nil hm)
        rcases h.guarded hm with ⟨_, hempty, _⟩ | ⟨_, _, hguarded⟩
        · exact absurd hempty hnil
        · refine .inl ((hguarded processed hphase).resolve_right ?_)
          rw [herror]
          exact Option.some_ne_none _ ∘ Eq.symm
  | some earlier =>
    have hm : w.missing ≠ [] := by
      intro hm
      rw [(h.whole hm).2.2] at herror
      cases herror
    rcases h.guarded hm with ⟨_, _, hnone⟩ | ⟨_, hguarded⟩
    · rw [hnone] at herror
      cases herror
    · rw [herror] at hguarded
      exact hguarded

theorem Sorted.onError (h : w.Sorted sound behind) (more : Nat) (receiving rearmed : Bool) :
    (w.onError more receiving rearmed).Sorted sound behind := by
  cases hstarted : w.rx.started
  · have harmed : w.armed = false := by
      by_contra harmed
      rw [h.started (by simpa using harmed)] at hstarted
      cases hstarted
    rw [HostLink.onError, if_pos (by simp [hstarted])]
    exact h.lose (Nat.succ_pos more) rfl h.started (h.quiet harmed)
  · have hrx : w.rx.onError rearmed = rearm rearmed { w.rx with fault := true } := by
      rw [HostUartRx.onError, if_neg (by simp [hstarted])]
    rw [HostLink.onError, if_neg (by simp [hstarted])]
    exact h.lose (Nat.succ_pos more) (by rw [hrx, queued_rearm]; rfl)
      (fun _ => by rw [hrx, started_rearm]; exact hstarted)
      (.inr ⟨by simp [hrx], h.beforeError⟩)

/-- What an interrupt leaves. -/
structure Wired (w w' : HostLink) : Prop where
  phase : w'.phase = w.phase
  parser : w'.parser = w.parser
  parsed : w'.parsed = w.parsed
  unhandled : w'.unhandled = w.unhandled
  received : w.received <+: w'.received
  missing : ∀ lost ∈ w'.missing, lost ∈ w.missing ∨ w.places ≤ lost

theorem wired_lose (w : HostLink) (n : Nat) (rx : HostUartRx) (armed : Bool)
    (beforeError : Option Nat) : Wired w { w.lose n with rx, armed, beforeError } where
  phase := rfl
  parser := rfl
  parsed := rfl
  unhandled := rfl
  received := List.prefix_rfl
  missing lost hlost := by
    rcases List.mem_append.mp hlost with hlost | hlost
    · exact .inl hlost
    · exact .inr (List.mem_range'_1.mp hlost).1

theorem wired_onByte (w : HostLink) (byte : Byte) (tick : Tick) (rearmed : Bool) :
    Wired w (w.onByte byte tick rearmed) := by
  rw [onByte]
  split
  · exact wired_lose w 1 w.rx w.armed w.beforeError
  · split
    · exact wired_lose w 1 _ rearmed w.beforeError
    · exact ⟨rfl, rfl, rfl, rfl, List.prefix_append _ _, fun _ hlost => .inl hlost⟩

theorem wired_onError (w : HostLink) (more : Nat) (receiving rearmed : Bool) :
    Wired w (w.onError more receiving rearmed) := by
  rw [onError]
  split
  · exact wired_lose w _ w.rx w.armed w.beforeError
  · exact wired_lose w _ _ _ _

/-- The handler resets the parser and latches the stop before anything else is parsed. -/
theorem answered_of_handling (h : w.phase = .handling) (replies : ProcessReplies) :
    Answered (w.process build protocol replies) := by
  rw [process, h]
  exact ⟨rfl, rfl, rfl, rfl⟩

theorem Intact.wired {w' : HostLink} (h : w.Intact build protocol) (hs : w.Sorted sound behind)
    (hw : Wired w w') : w'.Intact build protocol where
  received := by
    rw [hw.parsed]
    exact h.received.trans hw.received.isInfix
  consecutive := by
    rw [hw.parsed]
    exact h.consecutive
  beforeLost b hb lost hlost := by
    rw [hw.parsed] at hb
    rw [hw.unhandled] at hlost
    rcases List.mem_append.mp hlost with hlost | hlost
    · exact h.beforeLost b hb lost (List.mem_append_left _ hlost)
    · rcases hw.missing lost hlost with hlost | hlater
      · exact h.beforeLost b hb lost (List.mem_append_right _ hlost)
      · exact Nat.lt_of_lt_of_le (hs.past b (List.mem_append_left _ hb)) hlater
  parser := by rw [hw.parser, hw.parsed, h.parser]
  answered hphase replies := answered_of_handling hphase replies

/-! ## 5. The main loop -/

theorem held_eq (h : w.phase ≠ .handling) : w.held = w.parsed := by
  rw [held]
  split
  · contradiction
  · rfl

/-- A step of the loop that only goes on, with what it does to the host. -/
theorem Sorted.goOn (h : w.Sorted sound behind) (hphase : w.phase ≠ .handling)
    {phase : ProcessPhase} (hnext : phase ≠ .handling)
    (hburst : w.rx.fault = true → ∀ k, phase ≠ .burst k)
    (host : HostControl) : Sorted { w with phase, host } sound behind := by
  have hheld : held { w with phase, host } = w.held := by rw [held_eq hphase, held_eq hnext]
  exact
    { queued := h.queued
      consecutive := hheld ▸ h.consecutive
      received := hheld ▸ h.received
      past := h.past
      lostPast := h.lostPast
      before := h.before
      gap := h.gap
      handled := fun _ => h.handled hphase
      started := h.started
      whole := hheld ▸ h.whole
      guarded := fun hm => (h.guarded hm).imp_right fun ⟨hfault, hbound, _⟩ =>
        ⟨hfault, hbound, fun k hk => absurd hk (hburst hfault k)⟩ }

theorem takeFault_of_not (h : w.rx.fault = false) (next : ProcessPhase) :
    w.takeFault next = { w with phase := next } := by
  have hrx : w.rx.takeFault = (w.rx, false) := HostUartRx.takeFault_of_not h
  rw [takeFault, hrx]
  rfl

theorem takeFault_of_fault (h : w.rx.fault = true) (next : ProcessPhase) :
    w.takeFault next =
      { w with
        rx := w.rx.takeFault.1
        phase := .handling
        missing := []
        unhandled := w.unhandled ++ w.missing
        beforeError := none } := by
  have htaken : w.rx.takeFault.2 = true := h
  simp only [takeFault, htaken, if_true]

/-- A fault is taken with all that is queued, in front of the gap and behind it. -/
theorem Sorted.takeFault (h : w.Sorted sound behind) (hphase : w.phase ≠ .handling)
    {next : ProcessPhase} (hnext : next ≠ .handling) :
    ∃ sound' behind', (w.takeFault next).Sorted sound' behind' := by
  cases hfault : w.rx.fault
  · rw [takeFault_of_not hfault]
    refine ⟨sound, behind, h.goOn hphase hnext (fun hfaulted => ?_) w.host⟩
    rw [hfault] at hfaulted
    cases hfaulted
  · rw [takeFault_of_fault hfault]
    refine ⟨[], [], ?_⟩
    exact
      { queued := by simp [hfault]
        consecutive := List.isChain_nil
        received := List.nil_infix
        past := fun b hb => h.past b (List.mem_append_left _ (by simpa using hb))
        lostPast := by simp
        before := by simp
        gap := by simp
        handled := fun hne => absurd rfl hne
        started := h.started
        whole := fun _ => ⟨List.nil_suffix, by simp [held], rfl⟩
        guarded := fun hm => absurd rfl hm }

theorem Intact.takeFault (h : w.Intact build protocol) (next : ProcessPhase)
    (hnext : next ≠ .handling) : (w.takeFault next).Intact build protocol := by
  cases hfault : w.rx.fault
  · rw [takeFault_of_not hfault]
    exact ⟨h.received, h.consecutive, h.beforeLost, h.parser, fun hphase => absurd hphase hnext⟩
  · rw [takeFault_of_fault hfault]
    refine ⟨h.received, h.consecutive, ?_, h.parser, fun hphase replies =>
      answered_of_handling hphase replies⟩
    rw [List.append_nil]
    exact h.beforeLost

theorem Sorted.handleError (h : w.Sorted sound behind) (hphase : w.phase = .handling) :
    w.handleError.Sorted sound behind := by
  have hheld : w.held = [] := by rw [held, hphase]
  have hempty : w.handleError.held = [] := rfl
  exact
    { queued := h.queued
      consecutive := by
        rw [hempty, ← hheld]
        exact h.consecutive
      received := by
        rw [hempty, ← hheld]
        exact h.received
      past := by
        intro b hb
        rw [HostLink.handleError, List.nil_append] at hb
        exact h.past b (List.mem_append_right _ hb)
      lostPast := h.lostPast
      before := h.before
      gap := h.gap
      handled := fun _ => rfl
      started := h.started
      whole := by
        rw [hempty, ← hheld]
        exact h.whole
      guarded := fun hm => (h.guarded hm).imp_right fun ⟨hfault, hbound, _⟩ =>
        ⟨hfault, hbound, fun k hk => by cases hk⟩ }

theorem intact_handleError (w : HostLink) : w.handleError.Intact build protocol where
  received := List.nil_infix
  consecutive := List.isChain_nil
  beforeLost := by simp [handleError]
  parser := rfl
  answered hphase := by cases hphase

/-- The firmware after the first queued byte was parsed. -/
def parseNext (build : Build) (protocol : ProtocolBuild) (replies : ProcessReplies)
    (item : HostByte) (processed : Nat) (w : HostLink) : HostLink :=
  { w.processBinaryByte build protocol replies item with
    rx := w.rx.drop
    phase := .burst (processed + 1)
    beforeError := w.beforeError.map (· - 1) }

variable {processed : Nat}

theorem Sorted.parseNext (h : w.Sorted (item :: sound) behind) (hphase : w.phase = .burst processed)
    (hqueued : w.rx.queued = item :: w.rx.drop.queued) (replies : ProcessReplies) :
    (w.parseNext build protocol replies item processed).Sorted sound behind := by
  have hheld : w.held = w.parsed := held_eq (by rw [hphase]; exact ProcessPhase.noConfusion)
  have hrun : (w.parseNext build protocol replies item processed).held ++ sound =
      w.held ++ item :: sound := by
    rw [hheld]
    exact List.append_assoc w.parsed [item] sound
  exact
    { queued := by
        have hboth : item :: w.rx.drop.queued = item :: (sound ++ behind) := by
          rw [← hqueued, h.queued, List.cons_append]
        exact List.tail_eq_of_cons_eq hboth
      consecutive := by
        rw [hrun]
        exact h.consecutive
      received := by
        rw [hrun]
        exact h.received
      past := by
        intro b hb
        refine h.past b ?_
        rwa [HostLink.parseNext, HostLink.processBinaryByte, List.append_assoc] at hb
      lostPast := h.lostPast
      before := fun b hb => h.before b (List.mem_cons_of_mem _ hb)
      gap := h.gap
      handled := fun _ => h.handled (by rw [hphase]; exact ProcessPhase.noConfusion)
      started := h.started
      whole := by
        rw [hrun]
        intro hm
        obtain ⟨hsuffix, hlast, hnone⟩ := h.whole hm
        refine ⟨hsuffix, hlast, ?_⟩
        rw [HostLink.parseNext, hnone]
        rfl
      guarded := by
        intro hm
        rcases h.guarded hm with ⟨harmed, hempty, hnone⟩ | ⟨hfault, hbound, hguarded⟩
        · refine .inl ⟨harmed, hempty, ?_⟩
          rw [HostLink.parseNext, hnone]
          rfl
        · refine .inr ⟨hfault, fun queued hq => ?_, fun k hk => ?_⟩
          · obtain ⟨earlier, hearlier, rfl⟩ := Option.map_eq_some_iff.mp hq
            have hle := hbound earlier hearlier
            rw [List.length_cons] at hle
            exact Nat.le_sub_one_of_lt hle
          · obtain rfl : processed + 1 = k := ProcessPhase.burst.inj hk
            rcases hguarded processed hphase with hlong | hexact
            · rw [List.length_cons] at hlong
              exact .inl (by omega)
            · refine .inr ?_
              rw [HostLink.parseNext, hexact]
              rfl }

theorem Intact.parseNext (h : w.Intact build protocol) (hs : w.Sorted (item :: sound) behind)
    (hphase : w.phase = .burst processed) (replies : ProcessReplies) :
    (w.parseNext build protocol replies item processed).Intact build protocol := by
  have hhandling : w.phase ≠ .handling := by rw [hphase]; exact ProcessPhase.noConfusion
  have hparsed : (w.parseNext build protocol replies item processed).parsed =
      w.parsed ++ [item] := rfl
  have hrun : w.held ++ item :: sound = w.parsed ++ [item] ++ sound := by
    rw [held_eq hhandling, List.append_assoc, List.singleton_append]
  exact
    { received := by
        rw [hparsed]
        refine List.IsInfix.trans (List.prefix_append _ sound).isInfix ?_
        rw [← hrun]
        exact hs.received
      consecutive := by
        have hconsecutive := hs.consecutive
        rw [hrun] at hconsecutive
        rw [hparsed]
        exact (List.isChain_append.mp hconsecutive).1
      beforeLost := by
        intro b hb lost hlost
        rw [hparsed] at hb
        rcases List.mem_append.mp hb with hb | hb
        · exact h.beforeLost b hb lost hlost
        · have hunhandled : w.unhandled = [] := hs.handled hhandling
          have hmissing : lost ∈ w.missing := by
            change lost ∈ w.unhandled ++ w.missing at hlost
            rwa [hunhandled, List.nil_append] at hlost
          rw [List.mem_singleton.mp hb]
          exact hs.before item List.mem_cons_self lost hmissing
      parser := by
        rw [hparsed, List.map_append, pushAll_append]
        change (streamParserPush protocol w.parser item.byte).1 = _
        rw [h.parser]
        rfl
      answered := fun h => by cases h }

/-- A byte from behind the gap breaks it. -/
theorem not_intact_parseNext (hs : w.Sorted [] behind) (hitem : item ∈ behind)
    (replies : ProcessReplies) (processed : Nat) :
    ¬ (w.parseNext build protocol replies item processed).Intact build protocol := by
  intro h
  obtain ⟨lost, hlost, hlt⟩ := hs.gap item hitem
  have hbefore : item.place < lost :=
    h.beforeLost item (List.mem_append_right _ (List.mem_singleton_self item)) lost
      (List.mem_append_right _ hlost)
  omega

/-! ## 6. Runs -/

/-- What holds all along a run that meets the condition. -/
def InOrder (build : Build) (protocol : ProtocolBuild) (w : HostLink) : Prop :=
  w.Intact build protocol ∧ ∃ sound behind, w.Sorted sound behind

theorem inOrder_start (ring : RingIndex → HostByte) (host : HostControl) (rearmed : Bool) :
    (start ring host rearmed).InOrder build protocol := by
  have hqueued : (start ring host rearmed).rx.queued = [] := by
    rw [queued_eq_nil_iff]
    cases rearmed <;> rfl
  refine ⟨?_, [], [], ?_⟩
  · exact
      { received := List.nil_infix
        consecutive := List.isChain_nil
        beforeLost := by simp [start]
        parser := rfl
        answered := fun h => by cases h }
  · exact
      { queued := hqueued
        consecutive := List.isChain_nil
        received := List.nil_infix
        past := by simp [start]
        lostPast := by simp [start]
        before := by simp
        gap := by simp
        handled := fun _ => rfl
        started := fun harmed => by
          obtain rfl : rearmed = true := harmed
          rfl
        whole := fun _ => ⟨List.nil_suffix, by simp [start, held], rfl⟩
        guarded := fun hm => absurd rfl hm }

/-- **In a burst that has the condition the next byte is a sound one.** -/
theorem Sorted.sound_of_early (h : w.Sorted sound behind)
    (hlt : processed < hostBinaryRxBurstMaxBytes) (hphase : w.phase = .burst processed)
    (hne : w.rx.queued ≠ []) : w.beforeError ≠ some 0 ↔ sound ≠ [] := by
  have hlt : processed < 64 := hlt
  constructor
  · rintro herror rfl
    have hm : w.missing ≠ [] := fun hm => hne (by rw [h.queued, h.behind_eq_nil hm]; rfl)
    rcases h.guarded hm with ⟨_, hempty, _⟩ | ⟨_, _, hguarded⟩
    · exact hne (by rw [h.queued, hempty]; rfl)
    · rcases hguarded processed hphase with hlong | hexact
      · rw [List.length_nil] at hlong
        omega
      · exact herror hexact
  · intro hsound herror
    have hm : w.missing ≠ [] := by
      intro hm
      rw [(h.whole hm).2.2] at herror
      cases herror
    rcases h.guarded hm with ⟨_, _, hnone⟩ | ⟨_, hbound, _⟩
    · rw [hnone] at herror
      cases herror
    · exact hsound (List.length_eq_zero_iff.mp (Nat.le_zero.mp (hbound 0 herror)))

/-- A step in a burst: it ends, or it parses the first queued byte. -/
theorem process_burst (build : Build) (protocol : ProtocolBuild) (replies : ProcessReplies)
    (hphase : w.phase = .burst processed) :
    (w.process build protocol replies = { w with phase := .leaving } ∧
        (processed < hostBinaryRxBurstMaxBytes → w.rx.queued = [])) ∨
      processed < hostBinaryRxBurstMaxBytes ∧ ∃ item, w.rx.queued = item :: w.rx.drop.queued ∧
        w.process build protocol replies = w.parseNext build protocol replies item processed := by
  by_cases hlt : processed < hostBinaryRxBurstMaxBytes
  · cases hpop : w.rx.pop with
    | none =>
      refine .inl ⟨?_, fun _ => pop_eq_none_iff.mp hpop⟩
      simp only [process, hphase, if_pos hlt, hpop]
    | some popped =>
      obtain ⟨item, rx⟩ := popped
      obtain ⟨rfl, hqueued⟩ := pop_eq_some hpop
      refine .inr ⟨hlt, item, hqueued, ?_⟩
      simp only [process, hphase, if_pos hlt, hpop, parseNext]
  · refine .inl ⟨?_, fun h => absurd h hlt⟩
    simp only [process, hphase, if_neg hlt]

theorem InOrder.goOn (h : w.InOrder build protocol) (hphase : w.phase ≠ .handling)
    {phase : ProcessPhase} (hnext : phase ≠ .handling) (hburst : ∀ k, phase ≠ .burst k)
    (host : HostControl) : InOrder build protocol { w with phase, host } := by
  obtain ⟨hi, sound, behind, hs⟩ := h
  refine ⟨?_, sound, behind, hs.goOn hphase hnext (fun _ => hburst) host⟩
  exact ⟨hi.received, hi.consecutive, hi.beforeLost, hi.parser, fun h => absurd h hnext⟩

theorem inOrder_process (h : w.InOrder build protocol) {replies : ProcessReplies}
    (hearly : w.Early (.process replies)) :
    (w.process build protocol replies).InOrder build protocol := by
  obtain ⟨hi, sound, behind, hs⟩ := h
  cases hphase : w.phase with
  | entry =>
    rw [process, hphase]
    exact ⟨hi.takeFault _ (by simp), hs.takeFault (by simp [hphase]) (by simp)⟩
  | burst processed =>
    rcases process_burst build protocol replies hphase with
      ⟨hnext, _⟩ | ⟨hlt, item, hqueued, hnext⟩
    · rw [hnext]
      exact InOrder.goOn ⟨hi, sound, behind, hs⟩ (by simp [hphase]) (by simp) (by simp) w.host
    · have hne : w.rx.queued ≠ [] := by
        rw [hqueued]
        exact List.cons_ne_nil _ _
      have hsound := (hs.sound_of_early hlt hphase hne).mp (hearly processed hlt hphase hne)
      obtain ⟨first, sound, rfl⟩ := List.exists_cons_of_ne_nil hsound
      obtain rfl : first = item := List.head_eq_of_cons_eq (hs.queued.symm.trans hqueued)
      rw [hnext]
      exact ⟨hi.parseNext hs hphase replies, sound, behind, hs.parseNext hphase hqueued replies⟩
  | leaving =>
    rw [process, hphase]
    exact ⟨hi.takeFault _ (by simp), hs.takeFault (by simp [hphase]) (by simp)⟩
  | handling =>
    rw [process, hphase]
    exact ⟨intact_handleError w, sound, behind, hs.handleError hphase⟩
  | serving =>
    rw [process, hphase]
    exact InOrder.goOn ⟨hi, sound, behind, hs⟩ (by simp [hphase]) (by simp) (by simp) _

theorem inOrder_step (h : w.InOrder build protocol) {e : LinkEvent} (hearly : w.Early e) :
    (w.step build protocol e).InOrder build protocol := by
  obtain ⟨hi, sound, behind, hs⟩ := h
  cases e with
  | byte byte tick rearmed =>
    exact ⟨hi.wired hs (wired_onByte w byte tick rearmed), hs.onByte byte tick rearmed⟩
  | error more receiving rearmed =>
    exact ⟨hi.wired hs (wired_onError w more receiving rearmed), sound, behind,
      hs.onError more receiving rearmed⟩
  | process replies => exact inOrder_process ⟨hi, sound, behind, hs⟩ hearly

theorem not_intact_step (h : w.InOrder build protocol) {e : LinkEvent} (hlate : ¬ w.Early e) :
    ¬ (w.step build protocol e).Intact build protocol := by
  obtain ⟨_, sound, behind, hs⟩ := h
  cases e with
  | byte => exact absurd trivial hlate
  | error => exact absurd trivial hlate
  | process replies =>
    simp only [Early, not_forall] at hlate
    obtain ⟨processed, hlt, hphase, hne, herror⟩ := hlate
    have hsound : sound = [] := by
      by_contra hsound
      exact herror ((hs.sound_of_early hlt hphase hne).mpr hsound)
    subst hsound
    rcases process_burst build protocol replies hphase with
      ⟨_, hempty⟩ | ⟨_, item, hqueued, hnext⟩
    · exact absurd (hempty hlt) hne
    · have hitem : item ∈ behind := by
        have hmem : item ∈ w.rx.queued := by
          rw [hqueued]
          exact List.mem_cons_self
        rwa [hs.queued, List.nil_append] at hmem
      rw [step, hnext]
      exact not_intact_parseNext hs hitem replies processed

/-- **The parser gets a run of the bytes without a gap exactly as long as no burst goes on past an
error of the line.** -/
theorem gapFree_iff_early (build : Build) (protocol : ProtocolBuild) (ring : RingIndex → HostByte)
    (host : HostControl) (rearmed : Bool) (l : List LinkEvent) :
    (∀ before after, l = before ++ after →
        (run (step build protocol) (start ring host rearmed) before).Intact build protocol) ↔
      Along (step build protocol) Early (start ring host rearmed) l :=
  property_iff_along (I := InOrder build protocol) (fun _ h => h.1)
    (fun _ _ h hearly => inOrder_step h hearly) (fun _ _ h hlate => not_intact_step h hlate) l
    (inOrder_start ring host rearmed)

/-- One burst: it parses a byte, the line has an error at the next one, and the one after that is
received and parsed while the fault waits for the end of the burst. -/
def pastError : List LinkEvent :=
  [.byte 7 100 true, .process {}, .process {}, .error 0 false true, .byte 9 101 true, .process {}]

theorem burst_past_error :
    ¬ ∀ before after, pastError = before ++ after →
      (run (step Bench.build ⟨2, true, true, true, true, true, true⟩)
        (start (fun _ => ⟨0, 0, 0⟩) (binaryControlInit Bench.build) true) before).Intact
          Bench.build ⟨2, true, true, true, true, true, true⟩ := by
  intro h
  have hconsecutive := (h pastError [] (List.append_nil _).symm).consecutive
  have hparsed : (run (step Bench.build ⟨2, true, true, true, true, true, true⟩)
      (start (fun _ => ⟨0, 0, 0⟩) (binaryControlInit Bench.build) true) pastError).parsed =
        [⟨7, 100, 0⟩, ⟨9, 101, 2⟩] := by rfl
  rw [hparsed] at hconsecutive
  exact absurd (List.isChain_cons_cons.mp hconsecutive).1 (by decide)

end HostLink

end MobileBimanual.Firmware
