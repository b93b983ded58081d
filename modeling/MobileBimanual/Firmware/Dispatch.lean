/-
# The servo dispatcher

`bimanual_dispatch.c` and the two drivers around it, `bimanual_servo_dispatch.c` of the two-arm
image and `left_servo_dispatch.c` of the left-only one.  The dispatcher sends one goal packet to
each arm and waits until both have left their bus.

What the drivers learn from the transport is a reading: the events an interrupt recorded since
the last poll (`BusEvents`) and the answers of the transport while a launch goes on
(`LaunchReplies`).  The fault of the dispatcher is for good: no operation but the one at boot
takes it back (`Hardened`), and a faulted dispatcher launches nothing.
-/
import MobileBimanual.Stream.Contract

namespace MobileBimanual.Firmware

/-! ## 1. The dispatch record -/

structure BimanualDispatch where
  active : Bool
  faulted : Bool
  leftComplete : Bool
  rightComplete : Bool
  launchCount : BitVec 32
  completedCount : BitVec 32
  failureCount : BitVec 32

inductive DispatchResult where
  | ok
  | badState
  | busy
  | transportError
  deriving DecidableEq

def dispatchInit : BimanualDispatch where
  active := false
  faulted := false
  leftComplete := false
  rightComplete := false
  launchCount := 0
  completedCount := 0
  failureCount := 0

def dispatchFail (dispatch : BimanualDispatch) : BimanualDispatch :=
  { dispatch with
    failureCount :=
      if dispatch.faulted then dispatch.failureCount else dispatch.failureCount + 1
    faulted := true
    active := false }

def dispatchCanLaunch (dispatch : BimanualDispatch) : Bool :=
  !dispatch.active && !dispatch.faulted

/-- The end of `complete`: both packets are out. -/
def closePair (dispatch : BimanualDispatch) : BimanualDispatch :=
  if dispatch.leftComplete && dispatch.rightComplete then
    { dispatch with active := false, completedCount := dispatch.completedCount + 1 }
  else dispatch

def dispatchCompleteLeft (dispatch : BimanualDispatch) : BimanualDispatch × DispatchResult :=
  if !dispatch.active || dispatch.faulted || dispatch.leftComplete then (dispatch, .badState)
  else (closePair { dispatch with leftComplete := true }, .ok)

def dispatchCompleteRight (dispatch : BimanualDispatch) : BimanualDispatch × DispatchResult :=
  if !dispatch.active || dispatch.faulted || dispatch.rightComplete then (dispatch, .badState)
  else (closePair { dispatch with rightComplete := true }, .ok)

/-- The start times are compared as `(int32_t)` differences; the skews are statistics. -/
def dispatchBegin (dispatch : BimanualDispatch) (leftStartUs rightStartUs : BitVec 32) :
    BimanualDispatch × DispatchResult :=
  if dispatch.faulted then (dispatch, .transportError)
  else if dispatch.active then (dispatch, .busy)
  else if (rightStartUs - leftStartUs).toInt < 0 then (dispatch, .badState)
  else
    ({ dispatch with
        leftComplete := false
        rightComplete := false
        active := true
        launchCount := dispatch.launchCount + 1 },
      .ok)

/-! ## 2. The drivers -/

/-- What a poll finds: the transfers an interrupt reported complete, whether their lease could be
ended, and a reported error. -/
structure BusEvents where
  leftDone : Bool := false
  rightDone : Bool := false
  uartError : Bool := false
  leftEnded : Bool := true
  rightEnded : Bool := true

/-- The completion of the left packet, `false` when it is wrong; the left-only driver has no other
packet to wait for. -/
def pollLeft (leftOnly : Bool) (dispatch : BimanualDispatch) (events : BusEvents) :
    BimanualDispatch × Bool :=
  if !events.leftDone then (dispatch, true)
  else if !events.leftEnded then (dispatch, false)
  else if leftOnly then
    ({ dispatch with
        leftComplete := true
        active := false
        completedCount := dispatch.completedCount + 1 },
      dispatch.active)
  else
    ((dispatchCompleteLeft dispatch).1, (dispatchCompleteLeft dispatch).2 == .ok)

def pollRight (leftOnly : Bool) (dispatch : BimanualDispatch) (events : BusEvents) :
    BimanualDispatch × Bool :=
  if leftOnly || !events.rightDone then (dispatch, true)
  else if !events.rightEnded then (dispatch, false)
  else ((dispatchCompleteRight dispatch).1, (dispatchCompleteRight dispatch).2 == .ok)

/-- `BimanualServoDispatch_Poll`. -/
def dispatchPoll (leftOnly : Bool) (dispatch : BimanualDispatch) (events : BusEvents) :
    BimanualDispatch :=
  if events.uartError then dispatchFail dispatch
  else match pollLeft leftOnly dispatch events with
  | (_, false) => dispatchFail dispatch
  | (dispatch, true) =>
    match pollRight leftOnly dispatch events with
    | (_, false) => dispatchFail dispatch
    | (dispatch, true) => dispatch

structure LaunchReplies where
  before : BusEvents := {}
  packetsBuilt : Bool := true
  leased : Bool := true
  transmitted : Bool := true
  leftStartUs : BitVec 32 := 0
  rightStartUs : BitVec 32 := 0
  after : BusEvents := {}

/-- `BimanualServoDispatch_Launch`; `true` is `HAL_OK`.  The left-only driver refuses without
faulting and has no second start time to compare. -/
def dispatchLaunch (leftOnly : Bool) (dispatch : BimanualDispatch) (replies : LaunchReplies) :
    BimanualDispatch × Bool :=
  let dispatch := dispatchPoll leftOnly dispatch replies.before
  if !dispatchCanLaunch dispatch then
    (if leftOnly then dispatch else dispatchFail dispatch, false)
  else if !replies.packetsBuilt then (dispatchFail dispatch, false)
  else if !replies.leased then (dispatch, false)
  else if !replies.transmitted then (dispatchFail dispatch, false)
  else match dispatchBegin dispatch replies.leftStartUs
      (if leftOnly then replies.leftStartUs else replies.rightStartUs) with
  | (dispatch, .ok) =>
    let polled := dispatchPoll leftOnly dispatch replies.after
    (polled, !polled.faulted)
  | (dispatch, _) => (dispatchFail dispatch, false)

/-- `BimanualServoDispatch_Stop`: a transfer under way, or a bus whose lease could not be given
back, faults the dispatcher; an idle one is left as it is. -/
def dispatchStop (leftOnly : Bool) (dispatch : BimanualDispatch) (events : BusEvents)
    (busHeld : Bool) : BimanualDispatch :=
  let dispatch := if leftOnly then dispatchPoll leftOnly dispatch events else dispatch
  if dispatch.active || busHeld then dispatchFail dispatch else dispatch

/-! ## 3. A fault is for good -/

/-- The second record is faulted where the first is. -/
def Hardened (dispatch dispatch' : BimanualDispatch) : Prop :=
  dispatch.faulted = true → dispatch'.faulted = true

variable (dispatch : BimanualDispatch)

@[simp] theorem dispatchFail_faulted : (dispatchFail dispatch).faulted = true := rfl

theorem closePair_faulted : (closePair dispatch).faulted = dispatch.faulted := by
  unfold closePair
  split_ifs <;> rfl

theorem dispatchCompleteLeft_faulted :
    (dispatchCompleteLeft dispatch).1.faulted = dispatch.faulted := by
  unfold dispatchCompleteLeft
  split_ifs
  · rfl
  · exact closePair_faulted _

theorem dispatchCompleteRight_faulted :
    (dispatchCompleteRight dispatch).1.faulted = dispatch.faulted := by
  unfold dispatchCompleteRight
  split_ifs
  · rfl
  · exact closePair_faulted _

variable (leftOnly : Bool)

theorem pollLeft_faulted (dispatch : BimanualDispatch) (events : BusEvents) :
    (pollLeft leftOnly dispatch events).1.faulted = dispatch.faulted := by
  unfold pollLeft
  split_ifs
  · rfl
  · rfl
  · rfl
  · exact dispatchCompleteLeft_faulted dispatch

theorem pollRight_faulted (dispatch : BimanualDispatch) (events : BusEvents) :
    (pollRight leftOnly dispatch events).1.faulted = dispatch.faulted := by
  unfold pollRight
  split_ifs
  · rfl
  · rfl
  · exact dispatchCompleteRight_faulted dispatch

theorem dispatchPoll_hardened (dispatch : BimanualDispatch) (events : BusEvents) :
    Hardened dispatch (dispatchPoll leftOnly dispatch events) := by
  intro h
  have hleft := pollLeft_faulted leftOnly dispatch events
  unfold dispatchPoll
  split_ifs
  · rfl
  · split
    · rfl
    · rename_i left heq
      have hright := pollRight_faulted leftOnly left events
      rw [heq] at hleft
      split
      · rfl
      · rename_i right heq'
        rw [heq'] at hright
        rw [hright, hleft, h]

theorem dispatchStop_hardened (dispatch : BimanualDispatch) (events : BusEvents) (busHeld : Bool) :
    Hardened dispatch (dispatchStop leftOnly dispatch events busHeld) := by
  intro h
  have hpoll : (if leftOnly then dispatchPoll leftOnly dispatch events
      else dispatch).faulted = true := by
    split_ifs
    · exact dispatchPoll_hardened leftOnly dispatch events h
    · exact h
  simp only [dispatchStop]
  split_ifs
  all_goals first | rfl | exact hpoll | simp_all

end MobileBimanual.Firmware
