/-
# The transmit queue of the host link

`host_uart_tx.c`: the main loop enqueues frames, the DMA sends the one at the head, and two
interrupts move the queue on or throw it away.  Every call and every interrupt is one step, since
the calls run with the interrupts off.

`dma` is the hardware's side: the slot a transfer in progress reads from.  The error callback
clears the queue and the active flag and leaves that transfer running; from then on the queue does
not know of it, and the first frame after the fault was taken may go into the slot it still reads.

* `writes_free_slot`: where a frame does not, no slot is written under a transfer;
* `ring_conserved`: from an accepted frame on, and until a fault is latched, what was sent and
  what is queued together are what was queued and accepted, in order.
-/
import MobileBimanual.Lib.Ratchet
import MobileBimanual.Lib.RingBuffer
import MobileBimanual.Wire.Frame

namespace MobileBimanual.Firmware

open MobileBimanual.Stream (Byte)
open MobileBimanual.Wire (maxEncodedSize)
open Machine

/-! ## 1. The queue -/

/-- `host_tx_tail` is the place behind the last frame of the ring. -/
structure HostUartTx (n : Nat) where
  ring : RingBuffer (List Byte) n
  active : Bool
  fault : Bool
  dma : Option (Fin n)

namespace HostUartTx

variable {n : Nat}

def init (h : 0 < n) : HostUartTx n where
  ring := { slots := fun _ => [], head := ⟨0, h⟩, count := 0, bounded := Nat.zero_le n }
  active := false
  fault := false
  dma := none

/-- The HAL is busy while a transfer is in progress; `true` is `HAL_OK`. -/
def startLocked (t : HostUartTx n) : HostUartTx n × Bool :=
  if t.ring.count = 0 then (t, false)
  else if t.dma.isSome then ({ t with fault := true }, false)
  else ({ t with dma := some t.ring.head, active := true }, true)

/-- The length of a frame that the queue looks at. -/
def Fits (data : List Byte) : Prop := data.length ≠ 0 ∧ data.length ≤ maxEncodedSize

instance (data : List Byte) : Decidable (Fits data) := inferInstanceAs (Decidable (_ ∧ _))

/-- The queue takes a frame. -/
def Open (t : HostUartTx n) : Prop := t.fault = false ∧ t.ring.count < n

instance (t : HostUartTx n) : Decidable t.Open := inferInstanceAs (Decidable (_ ∧ _))

def enqueue (t : HostUartTx n) (data : List Byte) : HostUartTx n × Bool :=
  if ¬ Fits data then (t, false)
  else if h : t.Open then
    let t := { t with ring := t.ring.push data h.2 }
    if t.active then (t, true) else t.startLocked
  else ({ t with fault := true }, false)

/-- `HAL_UART_TxCpltCallback`, when the transfer in progress is through. -/
def txComplete (t : HostUartTx n) : HostUartTx n :=
  if t.dma = none then t
  else
    let t := { t with dma := none }
    if ¬ t.active then t
    else
      let t := { t with ring := t.ring.pop, active := false }
      if t.ring.count ≠ 0 then t.startLocked.1 else t

/-- `HostUartTx_OnError`; the transfer goes on. -/
def onError (t : HostUartTx n) : HostUartTx n :=
  { t with ring := t.ring.clear t.ring.head.pos, active := false, fault := true }

def takeFault (t : HostUartTx n) : HostUartTx n := { t with fault := false }

end HostUartTx

inductive HostTxEvent where
  | enqueue (data : List Byte)
  | txComplete
  | uartError
  | takeFault

namespace HostUartTx

variable {n : Nat} {t : HostUartTx n}

def step (t : HostUartTx n) : HostTxEvent → HostUartTx n
  | .enqueue data => (t.enqueue data).1
  | .txComplete => t.txComplete
  | .uartError => t.onError
  | .takeFault => t.takeFault

/-! ## 2. What is seen of a run -/

/-- The frame that an event brings into the queue, answered with `HAL_OK`. -/
def accepts (t : HostUartTx n) : HostTxEvent → Option (List Byte)
  | .enqueue data => if (t.enqueue data).2 then some data else none
  | _ => none

/-- What a completed transfer has put on the wire: what its slot held to the end. -/
def sends (t : HostUartTx n) : HostTxEvent → Option (List Byte)
  | .txComplete => t.dma.map t.ring.slots
  | _ => none

def Latches (t : HostUartTx n) : HostTxEvent → Prop
  | .enqueue data => Fits data ∧ (t.enqueue data).2 = false
  | .txComplete => t.txComplete.fault ≠ t.fault
  | .uartError => True
  | .takeFault => False

instance (t : HostUartTx n) : (e : HostTxEvent) → Decidable (t.Latches e)
  | .enqueue _ => inferInstanceAs (Decidable (_ ∧ _))
  | .txComplete => inferInstanceAs (Decidable (_ ≠ _))
  | .uartError => isTrue trivial
  | .takeFault => isFalse id

/-- A frame is not put into the slot of a transfer that the error path has disowned. -/
def Heeds (t : HostUartTx n) : HostTxEvent → Prop
  | .enqueue data =>
    Fits data → t.Open → t.active = false → t.dma ≠ some (t.ring.place t.ring.count)
  | _ => True

instance (t : HostUartTx n) : (e : HostTxEvent) → Decidable (t.Heeds e)
  | .enqueue _ => inferInstanceAs (Decidable (_ → _ → _ → _))
  | .txComplete => isTrue trivial
  | .uartError => isTrue trivial
  | .takeFault => isTrue trivial

/-! ## 3. The active transfer -/

/-- An active transfer is that of the head. -/
def Sound (t : HostUartTx n) : Prop := t.active = true → 0 < t.ring.count ∧ t.dma = some t.ring.head

theorem sound_init (h : 0 < n) : (init h).Sound := nofun

theorem sound_startLocked (h : t.active = false) : t.startLocked.1.Sound := by
  unfold startLocked
  split
  next => exact fun hactive => nomatch h.symm.trans hactive
  next hcount =>
    split
    · exact fun hactive => nomatch h.symm.trans hactive
    · exact fun _ => ⟨Nat.pos_of_ne_zero hcount, rfl⟩

theorem sound_step (h : t.Sound) (e : HostTxEvent) : (t.step e).Sound := by
  cases e with
  | enqueue data =>
    simp only [step, enqueue]
    split
    · exact h
    · split
      · split
        next hactive => exact fun _ => ⟨Nat.succ_pos _, (h hactive).2⟩
        next hactive => exact sound_startLocked (Bool.eq_false_iff.mpr hactive)
      · exact h
  | txComplete =>
    simp only [step, txComplete]
    split
    · exact h
    · split
      next hactive => exact fun htrue => absurd htrue hactive
      next =>
        split
        · exact sound_startLocked rfl
        · exact fun htrue => absurd htrue Bool.false_ne_true
  | uartError => exact fun htrue => absurd htrue Bool.false_ne_true
  | takeFault => exact h

theorem place_zero (ring : RingBuffer (List Byte) n) : ring.place 0 = ring.head :=
  Fin.ext (Nat.mod_eq_of_lt ring.head.isLt)

theorem startLocked_ring (t : HostUartTx n) : t.startLocked.1.ring = t.ring := by
  unfold startLocked
  split
  · rfl
  · split <;> rfl

/-- **A frame that does not go into the slot of a disowned transfer goes into a slot that no
transfer reads.** -/
theorem writes_free_slot (h : t.Sound) {e : HostTxEvent} (hheeds : t.Heeds e) {slot : Fin n}
    (hdma : t.dma = some slot) : (t.step e).ring.slots slot = t.ring.slots slot := by
  cases e with
  | enqueue data =>
    simp only [step, enqueue]
    split
    next => rfl
    next hfits =>
      split
      next hopen =>
        have hslot : slot ≠ t.ring.place t.ring.count := by
          rintro rfl
          cases hactive : t.active with
          | false => exact hheeds (not_not.mp hfits) hopen hactive hdma
          | true =>
            obtain ⟨hcount, hhead⟩ := h hactive
            have hsame := Option.some.inj (hhead.symm.trans hdma)
            rw [← place_zero] at hsame
            exact t.ring.place_ne hcount hopen.2 hsame
        have hpush : (t.ring.push data hopen.2).slots slot = t.ring.slots slot :=
          Function.update_of_ne hslot _ _
        split
        · exact hpush
        · rw [startLocked_ring]
          exact hpush
      next => rfl
  | txComplete =>
    simp only [step, txComplete]
    split
    · rfl
    · split
      · rfl
      · split
        · rw [startLocked_ring]
          rfl
        · rfl
  | uartError => rfl
  | takeFault => rfl

/-! ## 4. From an accepted frame on -/

/-- The queue and the hardware agree: a transfer is in progress while a frame is queued, and it is
the head's. -/
structure Running (t : HostUartTx n) : Prop where
  busy : 0 < t.ring.count → t.active = true ∧ t.dma = some t.ring.head
  idle : t.ring.count = 0 → t.active = false ∧ t.dma = none

/-- An accepted frame leaves the queue running, and is its last. -/
theorem running_of_accepts (h : t.Sound) {data : List Byte}
    (haccepts : t.accepts (.enqueue data) = some data) :
    (t.step (.enqueue data)).Running ∧
      (t.step (.enqueue data)).ring.contents = t.ring.contents ++ [data] := by
  have hok : (t.enqueue data).2 = true := by
    by_contra hnot
    rw [accepts, if_neg hnot] at haccepts
    cases haccepts
  simp only [step]
  unfold enqueue at hok ⊢
  split at hok
  next => cases hok
  next hfits =>
    rw [if_neg hfits]
    split at hok
    next hopen =>
      rw [dif_pos hopen]
      have hcontents := t.ring.contents_push data hopen.2
      dsimp only at hok ⊢
      split at hok
      next hactive =>
        rw [if_pos hactive]
        exact ⟨⟨fun _ => ⟨hactive, (h hactive).2⟩, fun hzero => absurd hzero (Nat.succ_ne_zero _)⟩,
          hcontents⟩
      next hactive =>
        rw [if_neg hactive]
        unfold startLocked at hok ⊢
        split at hok
        next => cases hok
        next hcount =>
          rw [if_neg hcount]
          split at hok
          next => cases hok
          next hdma =>
            rw [if_neg hdma]
            exact ⟨⟨fun _ => ⟨rfl, rfl⟩, fun hzero => absurd hzero hcount⟩, hcontents⟩
    next => cases hok

/-- **One step of a running queue** that latches no fault: what it sends and what is queued then
are what was queued and what it accepts. -/
theorem running_step (h : t.Running) (e : HostTxEvent) (hlatch : ¬ t.Latches e) :
    (t.step e).Running ∧ (t.sends e).toList ++ (t.step e).ring.contents =
      t.ring.contents ++ (t.accepts e).toList := by
  have hsound : t.Sound := by
    intro hactive
    rcases Nat.eq_zero_or_pos t.ring.count with hzero | hpos
    · exact absurd ((h.idle hzero).1.symm.trans hactive) Bool.false_ne_true
    · exact ⟨hpos, (h.busy hpos).2⟩
  cases e with
  | enqueue data =>
    by_cases hok : (t.enqueue data).2 = true
    · have haccepts : t.accepts (.enqueue data) = some data := if_pos hok
      obtain ⟨hrunning, hcontents⟩ := running_of_accepts hsound haccepts
      refine ⟨hrunning, ?_⟩
      rw [hcontents, haccepts]
      rfl
    · have haccepts : t.accepts (.enqueue data) = none := if_neg hok
      have hfits : ¬ Fits data := fun hfits => hlatch ⟨hfits, Bool.eq_false_iff.mpr hok⟩
      have hstep : t.step (.enqueue data) = t := by
        simp only [step, enqueue]
        rw [if_pos hfits]
      rw [hstep, haccepts]
      exact ⟨h, (List.append_nil _).symm⟩
  | txComplete =>
    rcases Nat.eq_zero_or_pos t.ring.count with hzero | hpos
    · have hdma := (h.idle hzero).2
      have hstep : t.step .txComplete = t := if_pos hdma
      rw [hstep, sends, hdma]
      exact ⟨h, (List.append_nil _).symm⟩
    · obtain ⟨hactive, hdma⟩ := h.busy hpos
      have hsent : t.sends .txComplete = some (t.ring.item 0) := by
        rw [sends, hdma, RingBuffer.item, place_zero]
        rfl
      have hring : (t.step .txComplete).ring = t.ring.pop := by
        simp only [step, txComplete]
        rw [if_neg (by rw [hdma]; exact Option.some_ne_none _), if_neg (not_not.mpr hactive)]
        split
        · exact startLocked_ring _
        · rfl
      refine ⟨?_, ?_⟩
      · simp only [step, txComplete]
        rw [if_neg (by rw [hdma]; exact Option.some_ne_none _), if_neg (not_not.mpr hactive)]
        split
        next hcount =>
          unfold startLocked
          rw [if_neg hcount, if_neg fun hsome => by cases hsome]
          exact ⟨fun _ => ⟨rfl, rfl⟩, fun hzero => absurd hzero hcount⟩
        next hcount =>
          exact ⟨fun hpos => absurd (Nat.pos_iff_ne_zero.mp hpos) hcount, fun _ => ⟨rfl, rfl⟩⟩
      · rw [hsent, hring, t.ring.contents_pop hpos]
        exact (List.append_nil _).symm
  | uartError => exact absurd trivial hlatch
  | takeFault => exact ⟨⟨h.busy, h.idle⟩, (List.append_nil _).symm⟩

/-- **Conservation**, until a fault is latched. -/
theorem ring_conserved : ∀ {t : HostUartTx n} (l : List HostTxEvent), t.Running →
    Along step (fun t e => ¬ t.Latches e) t l → (run step t l).Running ∧
      Ratchet.log step sends t l ++ (run step t l).ring.contents =
        t.ring.contents ++ Ratchet.log step accepts t l
  | _, [], h, _ => ⟨h, (List.append_nil _).symm⟩
  | t, e :: l, h, hl => by
    obtain ⟨hrunning, hone⟩ := running_step h e hl.1
    obtain ⟨hend, hall⟩ := ring_conserved l hrunning hl.2
    refine ⟨hend, ?_⟩
    rw [Ratchet.log_cons, Ratchet.log_cons, run_cons, List.append_assoc, hall, ← List.append_assoc,
      hone, List.append_assoc]

/-! ## 5. Every run -/

/-- What a run does with its frames. -/
structure Delivers (t₀ : HostUartTx n) (l : List HostTxEvent) : Prop where
  /-- No slot is written while a transfer reads it. -/
  untouched : ∀ before e after, l = before ++ e :: after → ∀ slot,
    (run step t₀ before).dma = some slot →
      ((run step t₀ before).step e).ring.slots slot = (run step t₀ before).ring.slots slot
  /-- Behind an accepted frame and before the next fault, the frames sent and those queued are, in
  order, what was queued up to that frame and what was accepted after it; and while a frame is
  queued a transfer is in progress. -/
  conserved : ∀ before data after, l = before ++ .enqueue data :: after →
    (run step t₀ before).accepts (.enqueue data) = some data →
    Along step (fun t e => ¬ t.Latches e) (run step t₀ (before ++ [.enqueue data])) after →
      Ratchet.log step sends (run step t₀ (before ++ [.enqueue data])) after ++
          (run step t₀ l).ring.contents =
        (run step t₀ before).ring.contents ++ [data] ++
          Ratchet.log step accepts (run step t₀ (before ++ [.enqueue data])) after ∧
      (0 < (run step t₀ l).ring.count →
        (run step t₀ l).dma = some (run step t₀ l).ring.head)

/-- **The transmit queue** of every run in which no frame is put into the slot of a transfer that
an error interrupt has disowned. -/
theorem hostTx_delivers (h : 0 < n) {l : List HostTxEvent}
    (hheeds : Along step Heeds (init h) l) : Delivers (init h) l := by
  have hsound : ∀ before : List HostTxEvent, (run step (init h) before).Sound := fun before =>
    run_invariant_all (I := Sound) (fun _ e ht => sound_step ht e) before (sound_init h)
  constructor
  · rintro before e after rfl slot hdma
    exact writes_free_slot (hsound before) ((along_append _ _ _).mp hheeds).2.1 hdma
  · rintro before data after rfl haccepts hquiet
    obtain ⟨hrunning, hcontents⟩ := running_of_accepts (hsound before) haccepts
    have hsplit : run step (init h) (before ++ .enqueue data :: after) =
        run step (run step (init h) (before ++ [.enqueue data])) after := by
      rw [← run_append, List.append_assoc, List.singleton_append]
    have hstep : run step (init h) (before ++ [.enqueue data]) =
        (run step (init h) before).step (.enqueue data) := by
      rw [run_append, run_cons, run_nil]
    rw [← hstep] at hrunning hcontents
    obtain ⟨hend, hall⟩ := ring_conserved after hrunning hquiet
    rw [hsplit, hall, hcontents]
    exact ⟨rfl, fun hcount => (hend.busy hcount).2⟩

/-- A queue as deep as the source's, with a frame of one byte. -/
theorem hostTx_delivers_frame :
    Delivers (init (n := 4) (by decide)) [.enqueue [1], .enqueue [2], .txComplete, .uartError,
      .txComplete, .takeFault, .enqueue [3]] :=
  hostTx_delivers (by decide) (by decide +kernel)

/-- The transfer of the first frame is still in progress when the error is over and the next frame
goes into its slot. -/
theorem disowned_slot_overwritten :
    ¬ Delivers (init (n := 4) (by decide)) [.enqueue [1], .uartError, .takeFault, .enqueue [2]] := by
  intro hdelivers
  have h := hdelivers.untouched [.enqueue [1], .uartError, .takeFault] (.enqueue [2]) [] rfl 0
    (by decide +kernel)
  revert h
  decide +kernel

end HostUartTx

end MobileBimanual.Firmware
