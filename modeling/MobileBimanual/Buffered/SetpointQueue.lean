/-
# The v1 setpoint queue

`setpoint_queue.c` in full: sixteen slots in a ring, filled a batch at a time and emptied from the
front.  A batch is checked as a whole before the first of its samples is written, so a rejected
batch leaves the queue as it was; an accepted one continues the order of the ticks
(`checkSamples_ok`).

The queue is a `RingBuffer`, and what the ring stands for is its `contents`.  The ticks, the
positions and their order are those of the v2 stream.  The NULL arguments have no counterpart,
but the empty batch, which the source answers like one, does.
-/
import MobileBimanual.Lib.RingBuffer
import MobileBimanual.Stream.Contract

namespace MobileBimanual.Buffered

open MobileBimanual.Stream (Tick Urad tickIsAfter)
open Serial (After)

/-! ## 1. The data -/

def setpointQueueCapacity : Nat := 16

abbrev Joint := Fin 6
abbrev Joints := Joint → Urad

structure JointLimit where
  minimumUrad : Urad
  maximumUrad : Urad

abbrev JointLimits := Joint → JointLimit

structure Setpoint where
  applyTick : Tick
  positionUrad : Joints

/-- Field by field, since an equality of functions does not compute through a cast. -/
instance : DecidableEq Setpoint := fun a b =>
  decidable_of_iff (a.applyTick = b.applyTick ∧ a.positionUrad = b.positionUrad) (by
    cases a
    cases b
    simp)

def Setpoint.zero : Setpoint where
  applyTick := 0
  positionUrad := fun _ => 0

abbrev SetpointQueue := RingBuffer Setpoint setpointQueueCapacity

inductive QueueResult where
  | ok
  | empty
  | notDue
  | nullArgument
  | capacityExceeded
  | staleTick
  | tickTooFar
  | nonMonotonic
  | limitViolation
  deriving DecidableEq

/-! ## 2. The operations -/

/-- The check is of the limits too: a joint whose limits are crossed has no valid position. -/
def positionsAreValid (positionUrad : Joints) (limits : JointLimits) : Bool :=
  !decide (∃ joint, (limits joint).minimumUrad.toInt > (limits joint).maximumUrad.toInt ∨
    (positionUrad joint).toInt < (limits joint).minimumUrad.toInt ∨
    (positionUrad joint).toInt > (limits joint).maximumUrad.toInt)

def SetpointQueue.clear (queue : SetpointQueue) : SetpointQueue :=
  RingBuffer.clear queue (by decide)

/-- The slots of a queue that was never written are the zeroes of its record. -/
def SetpointQueue.init : SetpointQueue where
  slots := fun _ => Setpoint.zero
  head := ⟨0, by decide⟩
  count := 0
  bounded := by decide

/-- The sample loop of `push_batch`, from `previousTick` on. -/
def checkSamples (currentTick minimumLeadTicks maximumLeadTicks : Tick) (limits : JointLimits) :
    Tick → List Setpoint → QueueResult
  | _, [] => .ok
  | previousTick, sample :: samples =>
    if !tickIsAfter sample.applyTick currentTick ∨
        sample.applyTick - currentTick < minimumLeadTicks then .staleTick
    else if sample.applyTick - currentTick > maximumLeadTicks then .tickTooFar
    else if !tickIsAfter sample.applyTick previousTick then .nonMonotonic
    else if !positionsAreValid sample.positionUrad limits then .limitViolation
    else checkSamples currentTick minimumLeadTicks maximumLeadTicks limits sample.applyTick samples

/-- `previous_tick` before the loop: the last queued sample's, or the present. -/
def previousTick (queue : SetpointQueue) (currentTick : Tick) : Tick :=
  if queue.count > 0 then (queue.item (queue.count - 1)).applyTick else currentTick

def pushBatch (queue : SetpointQueue) (samples : List Setpoint)
    (currentTick minimumLeadTicks maximumLeadTicks : Tick) (limits : JointLimits) :
    SetpointQueue × QueueResult :=
  if samples.length = 0 then (queue, .nullArgument)
  else if hfits : samples.length > setpointQueueCapacity - queue.count then
    (queue, .capacityExceeded)
  else if minimumLeadTicks > maximumLeadTicks then (queue, .tickTooFar)
  else match checkSamples currentTick minimumLeadTicks maximumLeadTicks limits
      (previousTick queue currentTick) samples with
  | .ok =>
    (queue.pushAll samples (by have := queue.bounded; omega), .ok)
  | result => (queue, result)

def takeDue (queue : SetpointQueue) (currentTick : Tick) :
    SetpointQueue × QueueResult × Option Setpoint :=
  if queue.count = 0 then (queue, .empty, none)
  else if (queue.item 0).applyTick ≠ currentTick then
    if tickIsAfter (queue.item 0).applyTick currentTick then (queue, .notDue, none)
    else (queue, .staleTick, none)
  else (queue.pop, .ok, some (queue.item 0))

def peek (queue : SetpointQueue) : Option Setpoint :=
  if queue.count = 0 then none else some (queue.item 0)

/-! ## 3. What they do -/

@[simp] theorem contents_init : SetpointQueue.init.contents = [] := rfl

@[simp] theorem contents_clear (queue : SetpointQueue) : queue.clear.contents = [] := rfl

theorem positionsAreValid_iff (positionUrad : Joints) (limits : JointLimits) :
    positionsAreValid positionUrad limits = true ↔
      ∀ joint, (limits joint).minimumUrad.toInt ≤ (positionUrad joint).toInt ∧
        (positionUrad joint).toInt ≤ (limits joint).maximumUrad.toInt := by
  simp only [positionsAreValid, Bool.not_eq_true', decide_eq_false_iff_not, not_exists, not_or,
    not_lt]
  constructor
  · intro h joint
    exact ⟨(h joint).2.1, (h joint).2.2⟩
  · intro h joint
    exact ⟨Int.le_trans (h joint).1 (h joint).2, (h joint).1, (h joint).2⟩

/-- The samples come one after the other behind a tick. -/
def InOrder (tick : Tick) (samples : List Setpoint) : Prop :=
  List.IsChain (fun earlier later => After later earlier) (tick :: samples.map (·.applyTick))

variable {currentTick minimumLeadTicks maximumLeadTicks : Tick} {samples : List Setpoint}
  {limits : JointLimits}

/-- **A checked batch continues the order and respects the limits.** -/
theorem checkSamples_ok {previousTick : Tick}
    (h : checkSamples currentTick minimumLeadTicks maximumLeadTicks limits previousTick samples =
      .ok) :
    InOrder previousTick samples ∧
      ∀ sample ∈ samples, positionsAreValid sample.positionUrad limits = true := by
  induction samples generalizing previousTick with
  | nil => exact ⟨List.isChain_singleton _, fun _ hmem => absurd hmem List.not_mem_nil⟩
  | cons sample samples ih =>
    simp only [checkSamples] at h
    split_ifs at h with hstale hfar hmonotonic hvalid
    obtain ⟨horder, hlimits⟩ := ih h
    constructor
    · refine List.isChain_cons_cons.mpr ⟨?_, horder⟩
      simpa using hmonotonic
    · intro other hmem
      rcases List.mem_cons.mp hmem with rfl | hmem
      · simpa using hvalid
      · exact hlimits other hmem

variable {queue : SetpointQueue}

theorem previousTick_eq :
    previousTick queue currentTick =
      ((queue.contents.map (·.applyTick)).getLast?).getD currentTick := by
  unfold previousTick
  split_ifs with hcount
  · rw [List.getLast?_map, queue.getLast?_contents hcount]
    rfl
  · have hnil := queue.contents_eq_nil_iff.mpr (by omega)
    rw [hnil]
    rfl

theorem pushBatch_ok {queue' : SetpointQueue}
    (h : pushBatch queue samples currentTick minimumLeadTicks maximumLeadTicks limits =
      (queue', .ok)) :
    samples ≠ [] ∧ queue'.contents = queue.contents ++ samples ∧
      InOrder (previousTick queue currentTick) samples ∧
      ∀ sample ∈ samples, positionsAreValid sample.positionUrad limits = true := by
  unfold pushBatch at h
  split at h
  · simp at h
  · rename_i hempty
    split at h
    · simp at h
    · split at h
      · simp at h
      · split at h
        · rename_i hcheck
          obtain ⟨horder, hlimits⟩ := checkSamples_ok hcheck
          rw [Prod.mk.injEq] at h
          refine ⟨fun hnil => hempty (by rw [hnil]; rfl), ?_, horder, hlimits⟩
          rw [← h.1, RingBuffer.contents_pushAll]
        · rename_i hfailed
          rw [Prod.mk.injEq] at h
          exact absurd h.2 hfailed

/-- A rejected batch changes nothing. -/
theorem pushBatch_rejected {queue' : SetpointQueue} {result : QueueResult}
    (hresult : result ≠ .ok)
    (h : pushBatch queue samples currentTick minimumLeadTicks maximumLeadTicks limits =
      (queue', result)) : queue' = queue := by
  unfold pushBatch at h
  split at h
  · exact (congrArg Prod.fst h).symm
  · split at h
    · exact (congrArg Prod.fst h).symm
    · split at h
      · exact (congrArg Prod.fst h).symm
      · split at h
        · exact absurd (congrArg Prod.snd h).symm hresult
        · exact (congrArg Prod.fst h).symm

theorem peek_cons {next : Setpoint} (h : peek queue = some next) :
    queue.contents = next :: queue.pop.contents := by
  unfold peek at h
  split_ifs at h with hcount
  obtain rfl := Option.some.inj h
  exact queue.contents_pop (by omega)

theorem takeDue_front {next : Setpoint} (h : peek queue = some next) :
    takeDue queue next.applyTick = (queue.pop, .ok, some next) := by
  unfold peek at h
  split_ifs at h with hcount
  obtain rfl := Option.some.inj h
  simp [takeDue, hcount]

end MobileBimanual.Buffered
