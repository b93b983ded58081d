/-
# The receive ring of the host line

`host_uart_rx.c`: the interrupts write at `head`, the main loop reads at `tail`, and one slot stays
free so that a full ring is not taken for an empty one.  A byte for which there is no slot, an error
of the line and a receive that could not be armed again set the fault; the loop takes the fault
together with everything that is queued.

`HostUartRx.queue` is the queue between the two indices, and `queued` what it holds:
`queued_push`, `pop_eq` and `queued_takeFault` say what the calls do to it.
-/
import MobileBimanual.Lib.RingBuffer
import MobileBimanual.Stream.Payload

namespace MobileBimanual.Firmware

open MobileBimanual.Stream

/-! ## 1. The ring -/

abbrev hostUartRxRingCapacity : Nat := 1024

/-- A byte with the tick of its interrupt.  `place` is not in the firmware: it is the byte's place
on the wire, by which a byte is told from another one of the same value. -/
structure HostByte where
  byte : Byte
  receivedAtMs : Tick
  place : Nat
  deriving DecidableEq

abbrev RingIndex := Fin hostUartRxRingCapacity

structure HostUartRx where
  ring : RingIndex → HostByte
  head : RingIndex
  tail : RingIndex
  fault : Bool
  started : Bool

namespace HostUartRx

/-- `HostUartRx_Next`. -/
def next (index : RingIndex) : RingIndex := index + 1

/-- `HostUartRx_Rearm`, of which `rearmed` is the answer of the HAL. -/
def rearm (rearmed : Bool) (rx : HostUartRx) : HostUartRx :=
  if rearmed then rx else { rx with fault := true }

/-- `HostUartRx_Init`; the slots are left as they are. -/
def init (ring : RingIndex → HostByte) : HostUartRx where
  ring := ring
  head := 0
  tail := 0
  fault := false
  started := false

/-- `HostUartRx_Start`; `false` when it does not return OK. -/
def start (rearmed : Bool) (rx : HostUartRx) : HostUartRx × Bool :=
  if rx.started then (rx, false)
  else
    let rx := rearm rearmed { rx with head := 0, tail := 0, fault := false, started := true }
    if rearmed then (rx, true) else ({ rx with started := false }, false)

/-- The ring behind its first byte. -/
def drop (rx : HostUartRx) : HostUartRx := { rx with tail := next rx.tail }

/-- `HostUartRx_Pop`. -/
def pop (rx : HostUartRx) : Option (HostByte × HostUartRx) :=
  if rx.tail = rx.head then none
  else some (rx.ring rx.tail, rx.drop)

/-- `HostUartRx_TakeFault`, with the fault that was taken. -/
def takeFault (rx : HostUartRx) : HostUartRx × Bool :=
  ({ rx with fault := false, tail := if rx.fault then rx.head else rx.tail }, rx.fault)

/-- `HostUartRx_Count`. -/
def count (rx : HostUartRx) : Nat := (rx.head - rx.tail).val

/-- The ring with a byte written at its head. -/
def push (rx : HostUartRx) (item : HostByte) : HostUartRx :=
  { rx with ring := Function.update rx.ring rx.head item, head := next rx.head }

/-- `HAL_UART_RxCpltCallback` on the host's UART. -/
def rxCplt (rx : HostUartRx) (item : HostByte) (rearmed : Bool) : HostUartRx :=
  if !rx.started then rx
  else if next rx.head = rx.tail then rearm rearmed { rx with fault := true }
  else rearm rearmed (rx.push item)

/-- The part of `HAL_UART_ErrorCallback` that is about the host's receiver. -/
def onError (rx : HostUartRx) (rearmed : Bool) : HostUartRx :=
  if !rx.started then rx else rearm rearmed { rx with fault := true }

/-! ## 2. The queue between the indices -/

def queue (rx : HostUartRx) : RingBuffer HostByte hostUartRxRingCapacity where
  slots := rx.ring
  head := rx.tail
  count := rx.count
  bounded := (rx.head - rx.tail).isLt.le

def queued (rx : HostUartRx) : List HostByte := rx.queue.contents

variable {rx : HostUartRx} {item : HostByte} {rearmed : Bool}

theorem count_lt (rx : HostUartRx) : rx.count < 1024 := (rx.head - rx.tail).isLt

@[simp] theorem length_queued (rx : HostUartRx) : rx.queued.length = rx.count :=
  rx.queue.length_contents

/-! The indices in numbers, of which the rest is arithmetic. -/

theorem head_lt (rx : HostUartRx) : rx.head.val < 1024 := rx.head.isLt

theorem tail_lt (rx : HostUartRx) : rx.tail.val < 1024 := rx.tail.isLt

theorem count_eq (rx : HostUartRx) : rx.count = (1024 - rx.tail.val + rx.head.val) % 1024 :=
  congrArg Fin.val (Fin.sub_def rx.head rx.tail)

theorem val_next (index : RingIndex) : (next index).val = (index.val + 1) % 1024 :=
  Fin.val_add index 1

/-- The ring is empty where its indices meet. -/
theorem tail_eq_head_iff : rx.tail = rx.head ↔ rx.count = 0 := by
  have htail := rx.tail_lt
  have hhead := rx.head_lt
  rw [count_eq, Fin.ext_iff]
  omega

/-- It is full where the next byte would make them meet. -/
theorem next_head_eq_iff : next rx.head = rx.tail ↔ rx.count = 1023 := by
  have htail := rx.tail_lt
  have hhead := rx.head_lt
  rw [count_eq, Fin.ext_iff, val_next]
  omega

theorem queued_eq_nil_iff : rx.queued = [] ↔ rx.tail = rx.head :=
  rx.queue.contents_eq_nil_iff.trans tail_eq_head_iff.symm

/-- The write index is the place behind the last queued byte. -/
theorem place_count (rx : HostUartRx) : rx.queue.place rx.count = rx.head := by
  have htail := rx.tail_lt
  have hhead := rx.head_lt
  have hplace : (rx.queue.place rx.count).val = (rx.tail.val + rx.count) % 1024 := rfl
  apply Fin.ext
  rw [hplace, count_eq]
  omega

@[simp] theorem queued_rearm : (rearm rearmed rx).queued = rx.queued := by
  cases rearmed <;> rfl

@[simp] theorem started_rearm : (rearm rearmed rx).started = rx.started := by
  cases rearmed <;> rfl

@[simp] theorem fault_rearm : (rearm rearmed rx).fault = (rx.fault || !rearmed) := by
  cases rearmed <;> simp [rearm]

theorem count_push (h : rx.count < 1023) : (rx.push item).count = rx.count + 1 := by
  have htail := rx.tail_lt
  have hhead := rx.head_lt
  have hpushed : (rx.push item).count = (1024 - rx.tail.val + (next rx.head).val) % 1024 :=
    (rx.push item).count_eq
  rw [count_eq] at h
  rw [hpushed, count_eq, val_next]
  omega

/-- **A byte for which there is a slot is queued behind the others.** -/
theorem queued_push (h : rx.count < 1023) : (rx.push item).queued = rx.queued ++ [item] := by
  have hroom : rx.queue.count < hostUartRxRingCapacity := rx.count_lt
  have hqueue : (rx.push item).queue = rx.queue.push item hroom := by
    simp only [queue, RingBuffer.push, count_push h]
    have hslots : (rx.push item).ring =
        Function.update rx.ring (rx.queue.place rx.count) item := by rw [place_count]; rfl
    rw [hslots]
    rfl
  rw [queued, hqueue, RingBuffer.contents_push, queued]

theorem count_drop (h : 0 < rx.count) : rx.drop.count = rx.count - 1 := by
  have htail := rx.tail_lt
  have hhead := rx.head_lt
  have hdropped : rx.drop.count = (1024 - (next rx.tail).val + rx.head.val) % 1024 :=
    rx.drop.count_eq
  rw [count_eq] at h
  rw [hdropped, count_eq, val_next]
  omega

theorem queued_eq_cons (h : 0 < rx.count) : rx.queued = rx.ring rx.tail :: rx.drop.queued := by
  have hqueue : rx.drop.queue = rx.queue.pop := by
    simp only [queue, RingBuffer.pop, count_drop h]
    rfl
  have hitem : rx.queue.item 0 = rx.ring rx.tail :=
    congrArg rx.ring (Fin.ext (Nat.mod_eq_of_lt rx.tail.isLt))
  rw [queued, rx.queue.contents_pop h, hitem, queued, hqueue]

/-- **The loop takes the first byte of the queue, and none from an empty one.** -/
theorem pop_eq_none_iff : rx.pop = none ↔ rx.queued = [] := by
  rw [queued_eq_nil_iff, pop]
  split <;> simp [*]

theorem pop_eq_some {first : HostByte} {rx' : HostUartRx} (h : rx.pop = some (first, rx')) :
    rx' = rx.drop ∧ rx.queued = first :: rx.drop.queued := by
  rw [pop] at h
  split at h
  · cases h
  · next hne =>
    obtain ⟨rfl, rfl⟩ := Prod.mk.inj (Option.some.inj h)
    exact ⟨rfl, queued_eq_cons (Nat.pos_of_ne_zero fun hzero => hne (tail_eq_head_iff.mpr hzero))⟩

@[simp] theorem queued_takeFault (rx : HostUartRx) :
    rx.takeFault.1.queued = if rx.fault then [] else rx.queued := by
  cases h : rx.fault
  · simp [takeFault, h, queued, queue, count]
  · rw [if_pos rfl, queued_eq_nil_iff]
    simp [takeFault, h]

theorem takeFault_of_not (h : rx.fault = false) : rx.takeFault = (rx, false) := by
  cases rx
  simp_all [takeFault]

end HostUartRx

end MobileBimanual.Firmware
