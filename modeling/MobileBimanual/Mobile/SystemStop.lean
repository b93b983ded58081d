/-
# The system stop

`system_stop.c` in full.  A stop begins by inhibiting both routers and queuing two packets: the
zero velocities of the mobile axes on the left bus, and the hold of the right arm's captured
positions on the right bus.  A poll that finds the zero written queues the hold of the left arm;
one that finds both holds written notes the time; and one that is given a good and newer proof
confirms the stop.  Confirmation is not latched: a poll without a proof revokes it.

What a poll takes for written is the receipt of the bus (`receipted`): the last completed
transmission, if it was a STOP with these bytes and a token behind the one on record.

The source works on the two routers through pointers; here they stand beside the stop.
-/
import MobileBimanual.Bus.Completion
import MobileBimanual.Mobile.Output

namespace MobileBimanual.Mobile

open MobileBimanual.Stream (Byte Tick)
open MobileBimanual.Bus

/-! ## 1. The data -/

inductive SystemStopState where
  | idle
  | pending
  | confirmed
  | unconfirmed
  deriving DecidableEq

structure StopProof where
  observedMs : Tick
  baseStopped : Bool
  liftHolding : Bool
  armsHolding : Bool
  loadRetained : Bool

structure SystemStopConfig where
  jobLifetimeUs : Tick
  zeroBudgetUs : Tick
  holdBudgetUs : Tick
  timeoutMs : Tick
  feedbackMaxAgeMs : Tick

abbrev ArmPositions := Fin 6 → Word

structure SystemStop where
  state : SystemStopState
  startedMs : Tick
  timeoutMs : Tick
  feedbackMaxAgeMs : Tick
  preserveLoad : Bool
  armFeedbackValid : Bool
  leftHoldQueued : Bool
  actionsCompleted : Bool
  actionsCompletedMs : Tick
  leftPositions : ArmPositions
  rightPositions : ArmPositions
  config : SystemStopConfig
  leftZeroAfterToken : Tick
  leftHoldAfterToken : Tick
  rightHoldAfterToken : Tick

/-- The stop and the two routers it works on. -/
structure StopSystem where
  stop : SystemStop
  left : Router
  right : Router

def SystemStopConfig.zero : SystemStopConfig := ⟨0, 0, 0, 0, 0⟩

/-- What `memset(.., 0, ..)` leaves. -/
def SystemStop.zero : SystemStop where
  state := .idle
  startedMs := 0
  timeoutMs := 0
  feedbackMaxAgeMs := 0
  preserveLoad := false
  armFeedbackValid := false
  leftHoldQueued := false
  actionsCompleted := false
  actionsCompletedMs := 0
  leftPositions := fun _ => 0
  rightPositions := fun _ => 0
  config := SystemStopConfig.zero
  leftZeroAfterToken := 0
  leftHoldAfterToken := 0
  rightHoldAfterToken := 0

namespace StopSystem

def init : StopSystem := ⟨SystemStop.zero, Router.init, Router.init⟩

/-! ## 2. Packets and receipts -/

def zeroPacket (ids : MobileIds) : Except PacketError (List Byte) :=
  buildSyncWriteWords velocityAddress (MobileOutput.zeroServos ids)

def leftHold (ids : MobileIds) (positions : ArmPositions) : Except GroupError (List Byte) :=
  motorGroupPositions ids .leftArm (List.ofFn positions)

def rightHold (ids : MobileIds) (positions : ArmPositions) : Except GroupError (List Byte) :=
  motorGroupPositions ids .rightArm (List.ofFn positions)

/-- A packet that was built is the last one the bus has written, as a STOP, behind `after`. -/
def receipted {ε : Type} (r : Router) (after : Tick) : Except ε (List Byte) → Bool
  | .error _ => false
  | .ok bytes =>
    !r.bus.active && !r.bus.faulted && after < r.completed.token && r.completed.kind = .stop &&
      r.completed.bytes == bytes

/-! ## 3. Beginning -/

def configOk (c : SystemStopConfig) : Bool :=
  !(c.timeoutMs == 0 || halfCircle ≤ c.timeoutMs || c.feedbackMaxAgeMs == 0 ||
    halfCircle ≤ c.feedbackMaxAgeMs || c.zeroBudgetUs == 0 || c.holdBudgetUs == 0 ||
    halfCircle ≤ c.jobLifetimeUs || c.jobLifetimeUs ≤ c.zeroBudgetUs ||
    c.jobLifetimeUs ≤ c.holdBudgetUs)

/-- The raw positions of a servo. -/
def positionsOk (positions : ArmPositions) : Bool := decide (∀ joint, positions joint < 4096)

/-- The stop on record, with the tokens of the two buses. -/
def opened (w : StopSystem) (preserve : Bool) (nowMs : Tick) (c : SystemStopConfig) : SystemStop :=
  { SystemStop.zero with
    state := .pending
    startedMs := nowMs
    config := c
    timeoutMs := c.timeoutMs
    feedbackMaxAgeMs := c.feedbackMaxAgeMs
    preserveLoad := preserve
    leftZeroAfterToken := w.left.bus.token
    rightHoldAfterToken := w.right.bus.token }

/-- Both routers are shut and the zero is queued. -/
def queueZero (ids : MobileIds) (w : StopSystem) (preserve : Bool) (nowUs nowMs : Tick)
    (c : SystemStopConfig) : StopSystem × Bool :=
  let stop := w.opened preserve nowMs c
  let left := w.left.inhibit.requestStop
  let right := w.right.inhibit.requestStop
  match zeroPacket ids with
  | .error _ => (⟨stop, left, right⟩, false)
  | .ok packet =>
    let (left, ok) := left.submitWork .stop packet nowUs (nowUs + c.jobLifetimeUs) c.zeroBudgetUs
    (⟨stop, left, right⟩, ok)

def queueRightHold (ids : MobileIds) (w : StopSystem) (leftPositions rightPositions : ArmPositions)
    (nowUs : Tick) (c : SystemStopConfig) : StopSystem × Bool :=
  let w :=
    { w with
      stop :=
        { w.stop with
          leftPositions := leftPositions
          rightPositions := rightPositions
          armFeedbackValid := true } }
  match rightHold ids rightPositions with
  | .error _ => (w, false)
  | .ok packet =>
    let (right, ok) :=
      w.right.submitWork .stop packet nowUs (nowUs + c.jobLifetimeUs) c.holdBudgetUs
    ({ w with right }, ok)

def beginTimed (ids : MobileIds) (w : StopSystem) (leftPositions rightPositions : ArmPositions)
    (valid preserve : Bool) (nowUs nowMs : Tick) (c : SystemStopConfig) : StopSystem × Bool :=
  if w.stop.state ≠ .idle ∨ configOk c = false then (w, false)
  else
    let (w, ok) := queueZero ids w preserve nowUs nowMs c
    if !valid || !positionsOk leftPositions || !positionsOk rightPositions then (w, false)
    else
      let (w, done) := queueRightHold ids w leftPositions rightPositions nowUs c
      (w, done && ok)

/-! ## 4. Polling -/

/-- The zero is on record as written, and the hold of the left arm is to follow it. -/
def holdDue (ids : MobileIds) (w : StopSystem) : Bool :=
  w.stop.armFeedbackValid && !w.stop.leftHoldQueued && !(w.left.jobs .stop).pending &&
    receipted w.left w.stop.leftZeroAfterToken (zeroPacket ids)

def queueLeftHold (ids : MobileIds) (w : StopSystem) (nowUs : Tick) : StopSystem :=
  if holdDue ids w then
    match leftHold ids w.stop.leftPositions with
    | .error _ => w
    | .ok packet =>
      let (left, ok) := w.left.submitWork .stop packet nowUs (nowUs + w.stop.config.jobLifetimeUs)
        w.stop.config.holdBudgetUs
      { w with
        stop := { w.stop with leftHoldAfterToken := w.left.bus.token, leftHoldQueued := ok }
        left := left }
  else w

/-- Both holds are on record as written. -/
def written (ids : MobileIds) (w : StopSystem) : Bool :=
  w.stop.leftHoldQueued && !(w.left.jobs .stop).pending && !(w.right.jobs .stop).pending &&
    receipted w.left w.stop.leftHoldAfterToken (leftHold ids w.stop.leftPositions) &&
    receipted w.right w.stop.rightHoldAfterToken (rightHold ids w.stop.rightPositions)

/-- A proof that is young enough, newer than the holds, and good. -/
def proves (stop : SystemStop) (proof : Option StopProof) (nowMs : Tick) : Bool :=
  match proof with
  | none => false
  | some p =>
    nowMs - p.observedMs < stop.feedbackMaxAgeMs &&
      p.observedMs - stop.actionsCompletedMs != 0 &&
      p.observedMs - stop.actionsCompletedMs < halfCircle &&
      p.baseStopped && p.liftHolding && p.armsHolding && (!stop.preserveLoad || p.loadRetained)

/-- The time at which the holds were first found written. -/
def noteWritten (ids : MobileIds) (w : StopSystem) (nowMs : Tick) : StopSystem :=
  if written ids w && !w.stop.actionsCompleted then
    { w with stop := { w.stop with actionsCompleted := true, actionsCompletedMs := nowMs } }
  else w

/-- The verdict of a poll. -/
def judge (ids : MobileIds) (w : StopSystem) (proof : Option StopProof) (nowMs : Tick) :
    StopSystem :=
  if written ids w && proves w.stop proof nowMs then
    { w with stop := { w.stop with state := .confirmed } }
  else if w.stop.state = .confirmed ∨ w.stop.timeoutMs ≤ nowMs - w.stop.startedMs then
    { w with stop := { w.stop with state := .unconfirmed } }
  else w

def pollTimed (ids : MobileIds) (w : StopSystem) (proof : Option StopProof) (nowUs nowMs : Tick) :
    StopSystem :=
  if w.stop.state = .idle then w
  else judge ids (noteWritten ids (queueLeftHold ids w nowUs) nowMs) proof nowMs

/-! ## 5. The packets are built -/

theorem checkIds_ok : ∀ {seen ids : List Byte}, (∀ id ∈ ids, id ≠ 0 ∧ id < 0xFE) → ids.Nodup →
    (∀ id ∈ ids, id ∉ seen) → checkIds seen ids = .ok ()
  | _, [], _, _, _ => rfl
  | seen, id :: ids, hrange, hnodup, hseen => by
    obtain ⟨hzero, hmax⟩ := hrange id List.mem_cons_self
    obtain ⟨hnew, hrest⟩ := List.nodup_cons.mp hnodup
    have hunseen := hseen id List.mem_cons_self
    have ih : checkIds (id :: seen) ids = .ok () := by
      refine checkIds_ok (fun other h => hrange other (List.mem_cons_of_mem _ h)) hrest ?_
      intro other hother hmem
      rcases List.mem_cons.mp hmem with rfl | hmem
      · exact hnew hother
      · exact hseen other (List.mem_cons_of_mem _ hother) hmem
    have hunicast : (id == 0 || 0xFE ≤ id) = false := by
      simp only [Bool.or_eq_false_iff, beq_eq_false_iff_ne, decide_eq_false_iff_not, BitVec.not_le]
      exact ⟨hzero, hmax⟩
    rw [checkIds, hunicast]
    simp [hunseen, ih]

/-- The zero of the mobile axes. -/
def zeroBytes (ids : MobileIds) : List Byte :=
  let fields := syncFields velocityAddress (MobileOutput.zeroServos ids)
  [0xFF, 0xFF] ++ fields ++ [checksum fields]

variable (ids : MobileIds)

theorem zeroPacket_eq : zeroPacket ids = .ok (zeroBytes ids) := by
  have hcheck : checkIds [] ((MobileOutput.zeroServos ids).map Prod.fst) = .ok () := by
    refine checkIds_ok ?_ ?_ (fun _ _ => List.not_mem_nil)
    · intro id hid
      have hservo : ∀ axis : Axis, ids.servo axis ≠ 0 ∧ ids.servo axis < 0xFE := by
        intro axis
        have hnat := ids.servo_toNat axis
        have hbelow := ids.below
        have habove := ids.above
        have haxis := axis.isLt
        have hmax : (0xFE : Byte).toNat = 254 := rfl
        refine ⟨?_, by rw [BitVec.lt_def]; omega⟩
        intro hzero
        rw [hzero] at hnat
        have hnil : (0 : Byte).toNat = 0 := rfl
        omega
      simp only [MobileOutput.zeroServos, List.map_cons, List.map_nil, List.mem_cons,
        List.not_mem_nil, or_false] at hid
      rcases hid with rfl | rfl | rfl | rfl <;> exact hservo _
    · have hne : ∀ {axis other : Axis}, axis ≠ other → ids.servo axis ≠ ids.servo other :=
        fun h => ids.servo_ne h
      simp [MobileOutput.zeroServos, hne]
  rw [zeroPacket, buildSyncWriteWords, hcheck]
  rfl

/-- The hold of an arm; both arms have the same servos. -/
def holdPacket (positions : ArmPositions) : List Byte :=
  let fields := syncFields positionAddress (([1, 2, 3, 4, 5, 6] : List Byte).zip (List.ofFn positions))
  [0xFF, 0xFF] ++ fields ++ [checksum fields]

variable (positions : ArmPositions)

theorem ofFn_positions : List.ofFn positions =
    [positions 0, positions 1, positions 2, positions 3, positions 4, positions 5] := by
  simp [List.ofFn_succ]

theorem leftHold_eq : leftHold ids positions = .ok (holdPacket positions) := by
  rw [leftHold, holdPacket, ofFn_positions]
  rfl

theorem rightHold_eq : rightHold ids positions = .ok (holdPacket positions) := by
  rw [rightHold, holdPacket, ofFn_positions]
  rfl

end StopSystem

end MobileBimanual.Mobile
