/-
# A confirmed stop happened

The system stop beside its two routers, with anything at all on them: submissions of any owner,
hand-outs, completions, failures and recoveries, and edits of the queues and the flags by the code
that holds the routers.  What happens is logged, and `stop_confirmed` reads the log: a poll leaves
the stop CONFIRMED only if since its begin

* the zero went out on the left bus and completed;
* after that the hold of the captured left pose was queued, went out and completed;
* the hold of the captured right pose went out on the right bus and completed;
* a poll noticed all this, and this one was given a good proof observed after that poll.

`Since` is the invariant: what the record of the stop says about the log since its begin.  The
tokens in it are worth what `Evidence` says they are.
-/
import MobileBimanual.Bus.Receipts
import MobileBimanual.Lib.Ratchet
import MobileBimanual.Mobile.SystemStop

namespace MobileBimanual.Mobile

open MobileBimanual.Stream (Byte Tick)
open MobileBimanual.Bus
open Machine Router

/-! ## 1. Events and marks -/

inductive BusSide where
  | left
  | right
  deriving DecidableEq

inductive StopEvent where
  | begin (leftPositions rightPositions : ArmPositions) (valid preserve : Bool)
      (nowUs nowMs : Tick) (config : SystemStopConfig)
  | poll (proof : Option StopProof) (nowUs nowMs : Tick)
  | call (side : BusSide) (call : Call)
  /-- The holder of a router empties slots, inhibits it, requests a stop or reports a fault. -/
  | edit (side : BusSide) (edit : { edit : Router → Router // ∀ r, Frame r (edit r) })

inductive StopMark where
  | began (leftPositions rightPositions : ArmPositions)
  | bus (side : BusSide) (mark : BusMark)
  | holdQueued (bytes : List Byte)
  | noticed (nowMs : Tick)

namespace StopSystem

def router (w : StopSystem) : BusSide → Router
  | .left => w.left
  | .right => w.right

def withRouter (w : StopSystem) (r : Router) : BusSide → StopSystem
  | .left => { w with left := r }
  | .right => { w with right := r }

def step (ids : MobileIds) (w : StopSystem) : StopEvent → StopSystem
  | .begin leftPositions rightPositions valid preserve nowUs nowMs config =>
    (beginTimed ids w leftPositions rightPositions valid preserve nowUs nowMs config).1
  | .poll proof nowUs nowMs => pollTimed ids w proof nowUs nowMs
  | .call side call => w.withRouter ((w.router side).call call) side
  | .edit side edit => w.withRouter (edit.1 (w.router side)) side

/-- A begin that opens a stop, what is seen of the buses, the hold that a poll queues, and the poll
that first finds everything written. -/
def mark (ids : MobileIds) (w : StopSystem) : StopEvent → Option StopMark
  | .begin leftPositions rightPositions _ _ _ _ config =>
    if w.stop.state = .idle ∧ configOk config = true then
      some (.began leftPositions rightPositions)
    else none
  | .poll proof nowUs nowMs =>
    let next := pollTimed ids w proof nowUs nowMs
    if !w.stop.leftHoldQueued && next.stop.leftHoldQueued then
      some (.holdQueued (next.left.jobs .stop).bytes)
    else if !w.stop.actionsCompleted && next.stop.actionsCompleted then some (.noticed nowMs)
    else none
  | .call side call => ((w.router side).mark call).map (.bus side)
  | .edit _ _ => none

def log (ids : MobileIds) (w : StopSystem) (events : List StopEvent) : List StopMark :=
  Ratchet.log (step ids) (mark ids) w events

/-! ## 2. What a log shows -/

/-- A STOP with these bytes went out and then completed. -/
def Written (side : BusSide) (bytes : List Byte) (log : List StopMark) : Prop :=
  ∃ token us, List.Sublist
    [.bus side (.handed ⟨.stop, token, bytes⟩),
      .bus side (.completed ⟨token, us, .stop, bytes⟩)] log

/-- The zero was written, then the hold of the left arm queued and written, and the hold of the
right arm written. -/
def Acted (ids : MobileIds) (leftPositions rightPositions : ArmPositions) (log : List StopMark) :
    Prop :=
  ∃ front back, log = front ++ .holdQueued (holdPacket leftPositions) :: back ∧
    Written .left (zeroBytes ids) front ∧ Written .left (holdPacket leftPositions) back ∧
    Written .right (holdPacket rightPositions) log

variable {log : List StopMark}

/-- A receipt ahead of a noted token is of a packet written since. -/
theorem written_of_receipted {side : BusSide} {r : Router} {after : Tick} {bytes : List Byte}
    (h : Evidence (.bus side) r after log)
    (hreceipt : receipted r after (.ok bytes : Except PacketError (List Byte)) = true) :
    Written side bytes log := by
  simp only [receipted, Bool.and_eq_true, Bool.not_eq_true', decide_eq_true_eq, beq_iff_eq]
    at hreceipt
  obtain ⟨⟨⟨-, hahead⟩, hkind⟩, hbytes⟩ := hreceipt
  have hdone := h.done hahead
  rcases hr : r.completed with ⟨token, us, kind, written⟩
  rw [hr] at hkind hbytes hdone
  obtain rfl : kind = .stop := hkind
  obtain rfl : written = bytes := hbytes
  exact ⟨token, us, hdone⟩

/-! ## 3. What the operations do -/

variable {config : SystemStopConfig}

theorem beginTimed_refused {ids : MobileIds} {w : StopSystem}
    (h : ¬ (w.stop.state = .idle ∧ configOk config = true))
    (leftPositions rightPositions : ArmPositions) (valid preserve : Bool) (nowUs nowMs : Tick) :
    (beginTimed ids w leftPositions rightPositions valid preserve nowUs nowMs config).1 = w := by
  unfold beginTimed
  rw [if_pos]
  by_cases hidle : w.stop.state = .idle
  · exact Or.inr (Bool.not_eq_true _ ▸ fun hconfig => h ⟨hidle, hconfig⟩)
  · exact Or.inl hidle

/-- The stop that a begin leaves. -/
def Opens (w next : StopSystem) (leftPositions rightPositions : ArmPositions) (preserve : Bool)
    (nowMs : Tick) (config : SystemStopConfig) : Prop :=
  Frame w.left next.left ∧ Frame w.right next.right ∧
    (next.stop = w.opened preserve nowMs config ∨
      next.stop =
        { w.opened preserve nowMs config with
          leftPositions := leftPositions
          rightPositions := rightPositions
          armFeedbackValid := true })

theorem queueZero_frame (ids : MobileIds) (w : StopSystem) (preserve : Bool) (nowUs nowMs : Tick)
    (config : SystemStopConfig) :
    let next := (queueZero ids w preserve nowUs nowMs config).1
    Frame w.left next.left ∧ Frame w.right next.right ∧
      next.stop = w.opened preserve nowMs config := by
  rw [queueZero, zeroPacket_eq]
  have hshut : Frame w.left w.left.inhibit.requestStop := ⟨rfl, rfl, rfl⟩
  exact ⟨hshut.trans (submitWork_frame _ _ _ _ _ _), ⟨rfl, rfl, rfl⟩, rfl⟩

theorem queueRightHold_frame (ids : MobileIds) (w : StopSystem)
    (leftPositions rightPositions : ArmPositions) (nowUs : Tick) (config : SystemStopConfig) :
    let next := (queueRightHold ids w leftPositions rightPositions nowUs config).1
    next.left = w.left ∧ Frame w.right next.right ∧ next.stop =
      { w.stop with
        leftPositions := leftPositions
        rightPositions := rightPositions
        armFeedbackValid := true } := by
  rw [queueRightHold, rightHold_eq]
  exact ⟨rfl, submitWork_frame _ _ _ _ _ _, rfl⟩

theorem beginTimed_opens {ids : MobileIds} {w : StopSystem} (hidle : w.stop.state = .idle)
    (hconfig : configOk config = true) (leftPositions rightPositions : ArmPositions)
    (valid preserve : Bool) (nowUs nowMs : Tick) :
    Opens w (beginTimed ids w leftPositions rightPositions valid preserve nowUs nowMs config).1
      leftPositions rightPositions preserve nowMs config := by
  have hzero := queueZero_frame ids w preserve nowUs nowMs config
  unfold beginTimed
  rw [if_neg (by simp [hidle, hconfig])]
  generalize queueZero ids w preserve nowUs nowMs config = answer at hzero ⊢
  obtain ⟨opened, ok⟩ := answer
  obtain ⟨hleft, hright, hstop⟩ := hzero
  dsimp only
  split
  · exact ⟨hleft, hright, Or.inl hstop⟩
  · obtain ⟨hleft', hright', hstop'⟩ :=
      queueRightHold_frame ids opened leftPositions rightPositions nowUs config
    refine ⟨by rw [hleft']; exact hleft, hright.trans hright', Or.inr ?_⟩
    rw [hstop']
    dsimp only at hstop
    rw [hstop]

/-- **Queuing the hold of the left arm**: the poll does not, or it notes the token of the bus and
submits the hold of the captured positions. -/
theorem queueLeftHold_cases (ids : MobileIds) (w : StopSystem) (nowUs : Tick) :
    (holdDue ids w = false ∧ queueLeftHold ids w nowUs = w) ∨
    (holdDue ids w = true ∧ ∃ left ok, Frame w.left left ∧
      (ok = true → (left.jobs .stop).pending = true ∧
        (left.jobs .stop).bytes = holdPacket w.stop.leftPositions) ∧
      queueLeftHold ids w nowUs =
        { w with
          stop := { w.stop with leftHoldAfterToken := w.left.bus.token, leftHoldQueued := ok }
          left := left }) := by
  unfold queueLeftHold
  cases hdue : holdDue ids w with
  | false => exact Or.inl ⟨rfl, if_neg Bool.false_ne_true⟩
  | true =>
    right
    rw [if_pos rfl, leftHold_eq]
    have hframe := submitWork_frame w.left .stop (holdPacket w.stop.leftPositions) nowUs
      (nowUs + w.stop.config.jobLifetimeUs) w.stop.config.holdBudgetUs
    have hcases := w.left.submitWork_cases .stop (holdPacket w.stop.leftPositions) nowUs
      (nowUs + w.stop.config.jobLifetimeUs) w.stop.config.holdBudgetUs
    dsimp only
    generalize w.left.submitWork .stop (holdPacket w.stop.leftPositions) nowUs
      (nowUs + w.stop.config.jobLifetimeUs) w.stop.config.holdBudgetUs = answer at hframe hcases ⊢
    obtain ⟨left, ok⟩ := answer
    refine ⟨rfl, left, ok, hframe, ?_, rfl⟩
    rintro rfl
    rcases hcases with ⟨-, heq⟩ | ⟨-, heq⟩ | ⟨-, -, -, heq⟩ | ⟨-, hkind, -⟩
    · cases heq
    · cases heq
    · rw [(Prod.mk.inj heq).1]
      simp [fill]
    · exact absurd rfl hkind

/-- The verdict is all that `judge` changes. -/
theorem judge_stop (ids : MobileIds) (w : StopSystem) (proof : Option StopProof) (nowMs : Tick) :
    ∃ state, judge ids w proof nowMs = { w with stop := { w.stop with state := state } } ∧
      (state = .confirmed → written ids w = true ∧ proves w.stop proof nowMs = true) ∧
      (state = .confirmed ∨ state = .unconfirmed ∨ state = w.stop.state ∧ state ≠ .confirmed) := by
  unfold judge
  split
  · rename_i hproved
    exact ⟨.confirmed, rfl, fun _ => by simpa using hproved, Or.inl rfl⟩
  · split
    · exact ⟨.unconfirmed, rfl, nofun, Or.inr (Or.inl rfl)⟩
    · rename_i hkept
      have hstate : w.stop.state ≠ .confirmed := fun hstate => hkept (Or.inl hstate)
      exact ⟨w.stop.state, rfl, fun h => absurd h hstate, Or.inr (Or.inr ⟨rfl, hstate⟩)⟩

/-! ## 4. The invariant -/

/-- What the record of a stop says about the log since its begin. -/
structure Since (ids : MobileIds) (leftPositions rightPositions : ArmPositions) (w : StopSystem)
    (since : List StopMark) : Prop where
  begun : w.stop.state ≠ .idle
  captured : w.stop.armFeedbackValid = true →
    w.stop.leftPositions = leftPositions ∧ w.stop.rightPositions = rightPositions
  queued : w.stop.leftHoldQueued = true → w.stop.armFeedbackValid = true
  left : Evidence (.bus .left) w.left w.stop.leftZeroAfterToken since
  right : Evidence (.bus .right) w.right w.stop.rightHoldAfterToken since
  hold : w.stop.leftHoldQueued = true → ∃ front back,
    since = front ++ .holdQueued (holdPacket leftPositions) :: back ∧
      Written .left (zeroBytes ids) front ∧
      Evidence (.bus .left) w.left w.stop.leftHoldAfterToken back
  acted : w.stop.actionsCompleted = true → ∃ front back,
    since = front ++ .noticed w.stop.actionsCompletedMs :: back ∧
      Acted ids leftPositions rightPositions front

/-- The routers are at least as far as their receipts. -/
def RoutersBehind (w : StopSystem) : Prop := w.left.Behind ∧ w.right.Behind

theorem RoutersBehind.frame {w next : StopSystem} (h : RoutersBehind w)
    (hleft : Frame w.left next.left) (hright : Frame w.right next.right) :
    RoutersBehind next :=
  ⟨hleft.behind h.1, hright.behind h.2⟩

variable {nowMs : Tick}

/-- A begin starts with nothing to account for. -/
theorem since_began {ids : MobileIds} {w next : StopSystem}
    {leftPositions rightPositions : ArmPositions} {preserve : Bool} (hbehind : RoutersBehind w)
    (h : Opens w next leftPositions rightPositions preserve nowMs config) :
    Since ids leftPositions rightPositions next [] := by
  obtain ⟨hleft, hright, hstop⟩ := h
  have hzero : Evidence (StopMark.bus .left) next.left w.left.bus.token [] :=
    (Evidence.start hbehind.1).frame hleft
  have hhold : Evidence (StopMark.bus .right) next.right w.right.bus.token [] :=
    (Evidence.start hbehind.2).frame hright
  rcases hstop with hstop | hstop
  · refine ⟨by rw [hstop]; nofun, by rw [hstop]; nofun, by rw [hstop]; nofun, ?_, ?_,
      by rw [hstop]; nofun, by rw [hstop]; nofun⟩
    · rw [hstop]
      exact hzero
    · rw [hstop]
      exact hhold
  · refine ⟨by rw [hstop]; nofun, by rw [hstop]; exact fun _ => ⟨rfl, rfl⟩, by rw [hstop]; nofun,
      ?_, ?_, by rw [hstop]; nofun, by rw [hstop]; nofun⟩
    · rw [hstop]
      exact hzero
    · rw [hstop]
      exact hhold

namespace Since

variable {ids : MobileIds} {leftPositions rightPositions : ArmPositions} {w : StopSystem}
  {since : List StopMark}

/-- Marks of a router, and what its calls and its holder do to it. -/
theorem withRouter (h : Since ids leftPositions rightPositions w since) (side : BusSide)
    (r : Router) (more : List StopMark)
    (hevidence : ∀ after log, Evidence (.bus side) (w.router side) after log →
      Evidence (.bus side) r after (log ++ more)) :
    Since ids leftPositions rightPositions (w.withRouter r side) (since ++ more) := by
  cases side with
  | left =>
    refine ⟨h.begun, h.captured, h.queued, hevidence _ _ h.left, h.right.append more, ?_, ?_⟩
    · intro hqueued
      obtain ⟨front, back, rfl, hzero, hback⟩ := h.hold hqueued
      exact ⟨front, back ++ more, by simp, hzero, hevidence _ _ hback⟩
    · intro hacted
      obtain ⟨front, back, rfl, hdone⟩ := h.acted hacted
      exact ⟨front, back ++ more, List.append_assoc _ _ _, hdone⟩
  | right =>
    refine ⟨h.begun, h.captured, h.queued, h.left.append more, hevidence _ _ h.right, ?_, ?_⟩
    · intro hqueued
      obtain ⟨front, back, rfl, hzero, hback⟩ := h.hold hqueued
      exact ⟨front, back ++ more, by simp, hzero, hback.append more⟩
    · intro hacted
      obtain ⟨front, back, rfl, hdone⟩ := h.acted hacted
      exact ⟨front, back ++ more, List.append_assoc _ _ _, hdone⟩

/-- The mark of a poll that queues the hold. -/
def holdMark (w next : StopSystem) : Option StopMark :=
  if !w.stop.leftHoldQueued && next.stop.leftHoldQueued then
    some (.holdQueued (next.left.jobs .stop).bytes)
  else none

theorem queueLeftHold (h : Since ids leftPositions rightPositions w since)
    (hbehind : RoutersBehind w) (nowUs : Tick) :
    let next := StopSystem.queueLeftHold ids w nowUs
    Since ids leftPositions rightPositions next (since ++ (holdMark w next).toList) := by
  rcases queueLeftHold_cases ids w nowUs with ⟨-, heq⟩ | ⟨hdue, left, ok, hframe, hslot, heq⟩
  · intro next
    have hnext : next = w := heq
    have hnone : holdMark w next = none := by simp [holdMark, hnext]
    rw [hnone, Option.toList_none, List.append_nil, hnext]
    exact h
  · intro next
    simp only [holdDue, Bool.and_eq_true, Bool.not_eq_true'] at hdue
    obtain ⟨⟨⟨hvalid, hnot⟩, -⟩, hreceipt⟩ := hdue
    rw [zeroPacket_eq] at hreceipt
    have hzero := written_of_receipted h.left hreceipt
    have hnext : next = { w with
        stop := { w.stop with leftHoldAfterToken := w.left.bus.token, leftHoldQueued := ok }
        left := left } := heq
    cases ok with
    | false =>
      have hnone : holdMark w next = none := by simp [holdMark, hnext]
      rw [hnone, Option.toList_none, List.append_nil, hnext]
      exact ⟨h.begun, h.captured, nofun, h.left.frame hframe, h.right, nofun, h.acted⟩
    | true =>
      have hbytes := (hslot rfl).2
      rw [(h.captured hvalid).1] at hbytes
      have hsome : holdMark w next = some (.holdQueued (holdPacket leftPositions)) := by
        simp [holdMark, hnext, hnot, hbytes]
      rw [hsome, Option.toList_some, hnext]
      refine ⟨h.begun, h.captured, fun _ => hvalid, (h.left.frame hframe).append _,
        h.right.append _, ?_, ?_⟩
      · intro _
        exact ⟨since, [], rfl, hzero, (Evidence.start hbehind.1).frame hframe⟩
      · intro hacted
        obtain ⟨front, back, rfl, hdone⟩ := h.acted hacted
        exact ⟨front, back ++ [.holdQueued (holdPacket leftPositions)], by simp, hdone⟩

/-- What is found written was. -/
theorem acted_of_written (h : Since ids leftPositions rightPositions w since)
    (hwritten : written ids w = true) : Acted ids leftPositions rightPositions since := by
  simp only [written, Bool.and_eq_true] at hwritten
  obtain ⟨⟨⟨⟨hqueued, -⟩, -⟩, hleft⟩, hright⟩ := hwritten
  obtain ⟨hcaptured, hcaptured'⟩ := h.captured (h.queued hqueued)
  rw [leftHold_eq, hcaptured] at hleft
  rw [rightHold_eq, hcaptured'] at hright
  obtain ⟨front, back, hsplit, hzero, hback⟩ := h.hold hqueued
  exact ⟨front, back, hsplit, hzero, written_of_receipted hback hleft,
    written_of_receipted h.right hright⟩

/-- The mark of a poll that first finds everything written. -/
def noticeMark (w next : StopSystem) (nowMs : Tick) : Option StopMark :=
  if !w.stop.actionsCompleted && next.stop.actionsCompleted then some (.noticed nowMs) else none

theorem noteWritten (h : Since ids leftPositions rightPositions w since) (nowMs : Tick) :
    let next := StopSystem.noteWritten ids w nowMs
    Since ids leftPositions rightPositions next (since ++ (noticeMark w next nowMs).toList) := by
  intro next
  cases hnew : StopSystem.written ids w && !w.stop.actionsCompleted with
  | false =>
    have hnext : next = w := by simp [next, StopSystem.noteWritten, hnew]
    have hnone : noticeMark w next nowMs = none := by simp [noticeMark, hnext]
    rw [hnone, Option.toList_none, List.append_nil, hnext]
    exact h
  | true =>
    have hnext : next = { w with
        stop := { w.stop with actionsCompleted := true, actionsCompletedMs := nowMs } } := by
      simp [next, StopSystem.noteWritten, hnew]
    simp only [Bool.and_eq_true, Bool.not_eq_true'] at hnew
    have hsome : noticeMark w next nowMs = some (.noticed nowMs) := by
      simp [noticeMark, hnext, hnew.2]
    rw [hsome, Option.toList_some, hnext]
    refine ⟨h.begun, h.captured, h.queued, h.left.append _, h.right.append _, ?_, ?_⟩
    · intro hqueued
      obtain ⟨front, back, rfl, hzero, hback⟩ := h.hold hqueued
      exact ⟨front, back ++ [.noticed nowMs], by simp, hzero, hback.append _⟩
    · exact fun _ => ⟨since, [], rfl, h.acted_of_written hnew.1⟩

theorem verdict (h : Since ids leftPositions rightPositions w since) {state : SystemStopState}
    (hstate : state ≠ .idle) :
    Since ids leftPositions rightPositions { w with stop := { w.stop with state := state } }
      since :=
  ⟨hstate, h.captured, h.queued, h.left, h.right, h.hold, h.acted⟩

theorem noticeMark_of_holdMark {nowUs : Tick} {m : StopMark}
    (h : holdMark w (StopSystem.queueLeftHold ids w nowUs) = some m) :
    StopSystem.noteWritten ids (StopSystem.queueLeftHold ids w nowUs) nowMs =
      StopSystem.queueLeftHold ids w nowUs := by
  rcases queueLeftHold_cases ids w nowUs with ⟨-, heq⟩ | ⟨hdue, left, ok, -, hslot, heq⟩
  · simp [holdMark, heq] at h
  · rw [heq] at h ⊢
    cases ok with
    | false => simp [holdMark] at h
    | true => simp [StopSystem.noteWritten, written, (hslot rfl).1]

/-- The mark of a poll is the one of its two halves. -/
theorem mark_poll (hbegun : w.stop.state ≠ .idle) (proof : Option StopProof) (nowUs nowMs : Tick) :
    let queued := StopSystem.queueLeftHold ids w nowUs
    let noted := StopSystem.noteWritten ids queued nowMs
    (mark ids w (.poll proof nowUs nowMs)).toList =
      (holdMark w queued).toList ++ (noticeMark queued noted nowMs).toList := by
  intro queued noted
  have hpoll : pollTimed ids w proof nowUs nowMs = judge ids noted proof nowMs := if_neg hbegun
  obtain ⟨state, hjudge, -⟩ := judge_stop ids noted proof nowMs
  have hleft : noted.left = queued.left ∧ noted.stop.leftHoldQueued = queued.stop.leftHoldQueued := by
    simp only [noted, StopSystem.noteWritten]
    split <;> exact ⟨rfl, rfl⟩
  have hacted : queued.stop.actionsCompleted = w.stop.actionsCompleted := by
    rcases queueLeftHold_cases ids w nowUs with ⟨-, heq⟩ | ⟨-, left, ok, -, -, heq⟩ <;>
      exact congrArg (·.stop.actionsCompleted) heq
  have hmark : mark ids w (.poll proof nowUs nowMs) =
      match holdMark w queued with
      | some m => some m
      | none => noticeMark queued noted nowMs := by
    simp only [mark, hpoll, hjudge, hleft.1, hleft.2, holdMark, noticeMark, hacted]
    split <;> rfl
  rw [hmark]
  rcases hhold : holdMark w queued with _ | m
  · rfl
  · have hsame : noted = queued := noticeMark_of_holdMark hhold
    have hnone : noticeMark queued noted nowMs = none := by simp [noticeMark, hsame]
    rw [hnone]
    rfl

theorem noted (h : Since ids leftPositions rightPositions w since) (hbehind : RoutersBehind w)
    (proof : Option StopProof) (nowUs nowMs : Tick) :
    Since ids leftPositions rightPositions
      (StopSystem.noteWritten ids (StopSystem.queueLeftHold ids w nowUs) nowMs)
      (since ++ (mark ids w (.poll proof nowUs nowMs)).toList) := by
  rw [mark_poll h.begun, ← List.append_assoc]
  exact (h.queueLeftHold hbehind nowUs).noteWritten nowMs

theorem poll (h : Since ids leftPositions rightPositions w since) (hbehind : RoutersBehind w)
    (proof : Option StopProof) (nowUs nowMs : Tick) :
    Since ids leftPositions rightPositions (pollTimed ids w proof nowUs nowMs)
      (since ++ (mark ids w (.poll proof nowUs nowMs)).toList) := by
  have hnoted := h.noted hbehind proof nowUs nowMs
  have hpoll : pollTimed ids w proof nowUs nowMs = judge ids _ proof nowMs := if_neg h.begun
  obtain ⟨state, hjudge, -, hstate⟩ := judge_stop ids
    (StopSystem.noteWritten ids (StopSystem.queueLeftHold ids w nowUs) nowMs) proof nowMs
  rw [hpoll, hjudge]
  refine hnoted.verdict ?_
  rcases hstate with rfl | rfl | ⟨rfl, -⟩
  · nofun
  · nofun
  · exact hnoted.begun

/-- **Every event keeps what the record says.** -/
theorem step (h : Since ids leftPositions rightPositions w since) (hbehind : RoutersBehind w)
    (event : StopEvent) :
    Since ids leftPositions rightPositions (w.step ids event)
      (since ++ (mark ids w event).toList) := by
  cases event with
  | begin leftPositions' rightPositions' valid preserve nowUs nowMs config =>
    have hrefused : ¬ (w.stop.state = .idle ∧ configOk config = true) := fun hidle =>
      h.begun hidle.1
    have hnone : mark ids w (.begin leftPositions' rightPositions' valid preserve nowUs nowMs
        config) = none := if_neg hrefused
    rw [hnone, Option.toList_none, List.append_nil, StopSystem.step,
      beginTimed_refused hrefused]
    exact h
  | poll proof nowUs nowMs => exact h.poll hbehind proof nowUs nowMs
  | call side call =>
    refine h.withRouter side _ _ fun after log hevidence => ?_
    have hcall := hevidence.call call
    exact hcall
  | edit side edit =>
    refine h.withRouter side _ _ fun after log hevidence => ?_
    exact (hevidence.frame (edit.2 _)).append _

end Since

/-! ## 5. Every run -/

theorem RoutersBehind.step {ids : MobileIds} {w : StopSystem} (h : RoutersBehind w)
    (event : StopEvent) : RoutersBehind (w.step ids event) := by
  cases event with
  | begin leftPositions rightPositions valid preserve nowUs nowMs config =>
    by_cases hopens : w.stop.state = .idle ∧ configOk config = true
    · obtain ⟨hleft, hright, -⟩ := beginTimed_opens hopens.1 hopens.2 leftPositions
        rightPositions valid preserve nowUs nowMs
      exact h.frame hleft hright
    · rw [StopSystem.step, beginTimed_refused hopens]
      exact h
  | poll proof nowUs nowMs =>
    have hqueue : RoutersBehind (queueLeftHold ids w nowUs) := by
      rcases queueLeftHold_cases ids w nowUs with ⟨-, heq⟩ | ⟨-, left, ok, hframe, -, heq⟩
      · rw [heq]
        exact h
      · rw [heq]
        exact h.frame hframe (.refl _)
    have hnote : RoutersBehind (noteWritten ids (queueLeftHold ids w nowUs) nowMs) := by
      unfold noteWritten
      split
      · exact hqueue
      · exact hqueue
    simp only [StopSystem.step, pollTimed]
    split
    · exact h
    · obtain ⟨state, hjudge, -⟩ := judge_stop ids
        (noteWritten ids (queueLeftHold ids w nowUs) nowMs) proof nowMs
      rw [hjudge]
      exact hnote
  | call side call =>
    cases side with
    | left => exact ⟨h.1.call call, h.2⟩
    | right => exact ⟨h.1, h.2.call call⟩
  | edit side edit =>
    cases side with
    | left => exact ⟨(edit.2 _).behind h.1, h.2⟩
    | right => exact ⟨h.1, (edit.2 _).behind h.2⟩

theorem behind_run (ids : MobileIds) (events : List StopEvent) :
    RoutersBehind (run (step ids) init events) :=
  run_invariant_all (I := RoutersBehind) (fun _ event h => h.step event) events
    ⟨behind_init, behind_init⟩

theorem began_of_step {ids : MobileIds} {w : StopSystem} {event : StopEvent}
    (h : w.stop.state ≠ .idle → ∃ leftPositions rightPositions, .began leftPositions rightPositions ∈ log)
    (hbegun : (w.step ids event).stop.state ≠ .idle) :
    ∃ leftPositions rightPositions,
      .began leftPositions rightPositions ∈ log ++ (mark ids w event).toList := by
  by_cases hidle : w.stop.state = .idle
  · cases event with
    | begin leftPositions rightPositions valid preserve nowUs nowMs config =>
      by_cases hconfig : configOk config = true
      · have hmark : mark ids w (.begin leftPositions rightPositions valid preserve nowUs nowMs
            config) = some (.began leftPositions rightPositions) := if_pos ⟨hidle, hconfig⟩
        rw [hmark]
        exact ⟨leftPositions, rightPositions, List.mem_append_right _ List.mem_cons_self⟩
      · rw [StopSystem.step, beginTimed_refused (fun hopens => hconfig hopens.2)] at hbegun
        exact absurd hidle hbegun
    | poll proof nowUs nowMs =>
      rw [StopSystem.step, pollTimed, if_pos hidle] at hbegun
      exact absurd hidle hbegun
    | call side call => cases side <;> exact absurd hidle hbegun
    | edit side edit => cases side <;> exact absurd hidle hbegun
  · obtain ⟨leftPositions, rightPositions, hmem⟩ := h hidle
    exact ⟨leftPositions, rightPositions, List.mem_append_left _ hmem⟩

theorem since_run (ids : MobileIds) (events : List StopEvent)
    (hbegun : (run (step ids) init events).stop.state ≠ .idle) :
    ∃ before leftPositions rightPositions since,
      StopSystem.log ids init events = before ++ .began leftPositions rightPositions :: since ∧
      Since ids leftPositions rightPositions (run (step ids) init events) since := by
  have hlog := @Ratchet.log_keeps _ _ _ (step ids) (mark ids) (fun _ => True)
    (fun w log => w.stop.state ≠ .idle →
      ∃ leftPositions rightPositions, .began leftPositions rightPositions ∈ log)
    (fun _ _ _ => trivial) (fun _ _ _ _ h => began_of_step h) events init [] trivial
    (fun hidle => absurd rfl hidle)
  obtain ⟨leftPositions, rightPositions, hmem⟩ := hlog hbegun
  obtain ⟨before, since, hsplit⟩ := List.append_of_mem hmem
  refine ⟨before, leftPositions, rightPositions, since, hsplit, ?_⟩
  refine Ratchet.log_since (J := RoutersBehind)
    (I := fun w since => Since ids leftPositions rightPositions w since)
    (fun _ event h => h.step event) ?_ (fun _ event _ hbehind h => h.step hbehind event) events init
    before since ⟨behind_init, behind_init⟩ hsplit
  intro w event hbehind hmark
  cases event with
  | begin leftPositions' rightPositions' valid preserve nowUs nowMs config =>
    simp only [mark] at hmark
    split at hmark
    · rename_i hopens
      obtain ⟨rfl, rfl⟩ := StopMark.began.inj (Option.some.inj hmark)
      exact since_began hbehind (beginTimed_opens hopens.1 hopens.2 _ _ valid preserve nowUs nowMs)
    · cases hmark
  | poll proof nowUs nowMs =>
    simp only [mark] at hmark
    split at hmark
    · cases hmark
    · split at hmark <;> cases hmark
  | call side call =>
    simp only [mark, Option.map_eq_some_iff] at hmark
    obtain ⟨_, -, hbus⟩ := hmark
    cases hbus
  | edit side edit => cases hmark

/-- A proof of the physical hold, good, young enough, and observed after the holds were noticed. -/
structure Proven (stop : SystemStop) (proof : StopProof) (noticedMs nowMs : Tick) : Prop where
  newer : Serial.After proof.observedMs noticedMs
  fresh : nowMs - proof.observedMs < stop.feedbackMaxAgeMs
  baseStopped : proof.baseStopped = true
  liftHolding : proof.liftHolding = true
  armsHolding : proof.armsHolding = true
  loadRetained : stop.preserveLoad = true → proof.loadRetained = true

theorem proven_of_proves {stop : SystemStop} {proof : Option StopProof}
    (h : proves stop proof nowMs = true) :
    ∃ p, proof = some p ∧ Proven stop p stop.actionsCompletedMs nowMs := by
  cases proof with
  | none => cases h
  | some p =>
    simp only [proves, Bool.and_eq_true, decide_eq_true_eq, bne_iff_ne, ne_eq, Bool.or_eq_true,
      Bool.not_eq_true'] at h
    obtain ⟨⟨⟨⟨⟨⟨hfresh, hdistinct⟩, hhalf⟩, hbase⟩, hlift⟩, harms⟩, hload⟩ := h
    refine ⟨p, rfl, ?_, hfresh, hbase, hlift, harms, ?_⟩
    · rw [Serial.after_iff]
      have hpositive : 0 < (p.observedMs - stop.actionsCompletedMs).toNat :=
        Nat.pos_of_ne_zero fun hzero => hdistinct (BitVec.eq_of_toNat_eq hzero)
      rw [BitVec.lt_def] at hhalf
      have hcircle : halfCircle.toNat = 2 ^ 31 := rfl
      exact ⟨hpositive, by rw [Serial.ahead]; omega⟩
    · intro hpreserve
      rcases hload with hload | hload
      · rw [hpreserve] at hload
        cases hload
      · exact hload

/-- **A confirmed stop happened.**  After any run, a poll that leaves the stop CONFIRMED was given
a good proof, observed after a poll that noticed that since the begin the zero was written on the
left bus, then the hold of the captured left pose queued and written, and the hold of the captured
right pose written on the right bus.  Any other poll leaves the stop as it was, unless it was
CONFIRMED, or makes it UNCONFIRMED. -/
theorem stop_confirmed (ids : MobileIds) (events : List StopEvent) (proof : Option StopProof)
    (nowUs nowMs : Tick) :
    let w := run (step ids) init events
    let next := pollTimed ids w proof nowUs nowMs
    (next.stop.state = .confirmed →
      ∃ p before leftPositions rightPositions acted noticedMs rest,
        proof = some p ∧
        StopSystem.log ids init (events ++ [.poll proof nowUs nowMs]) =
          before ++ .began leftPositions rightPositions :: (acted ++ .noticed noticedMs :: rest) ∧
        Acted ids leftPositions rightPositions acted ∧ Proven w.stop p noticedMs nowMs) ∧
      (next.stop.state = .confirmed ∨ next.stop.state = .unconfirmed ∨
        next.stop.state = w.stop.state ∧ next.stop.state ≠ .confirmed) := by
  intro w next
  by_cases hidle : w.stop.state = .idle
  · have hnext : next = w := if_pos hidle
    rw [hnext, hidle]
    exact ⟨nofun, Or.inr (Or.inr ⟨rfl, nofun⟩)⟩
  have hnext : next = judge ids (noteWritten ids (queueLeftHold ids w nowUs) nowMs) proof nowMs :=
    if_neg hidle
  generalize hnoted : noteWritten ids (queueLeftHold ids w nowUs) nowMs = noted at hnext
  have hkept : noted.stop.state = w.stop.state ∧
      noted.stop.feedbackMaxAgeMs = w.stop.feedbackMaxAgeMs ∧
      noted.stop.preserveLoad = w.stop.preserveLoad := by
    have hqueued : (queueLeftHold ids w nowUs).stop.state = w.stop.state ∧
        (queueLeftHold ids w nowUs).stop.feedbackMaxAgeMs = w.stop.feedbackMaxAgeMs ∧
        (queueLeftHold ids w nowUs).stop.preserveLoad = w.stop.preserveLoad := by
      rcases queueLeftHold_cases ids w nowUs with ⟨-, heq⟩ | ⟨-, left, ok, -, -, heq⟩ <;>
        rw [heq] <;> exact ⟨rfl, rfl, rfl⟩
    rw [← hnoted, noteWritten]
    split
    · exact hqueued
    · exact hqueued
  obtain ⟨state, hjudge, hconfirmed, hstate⟩ := judge_stop ids noted proof nowMs
  rw [hnext, hjudge]
  refine ⟨?_, by rw [hkept.1] at hstate; exact hstate⟩
  intro hverdict
  obtain ⟨hwritten, hproves⟩ := hconfirmed hverdict
  obtain ⟨before, leftPositions, rightPositions, since, hlog, hsince⟩ := since_run ids events hidle
  have hnotedSince := hsince.noted (behind_run ids events) proof nowUs nowMs
  rw [hnoted] at hnotedSince
  have hacted : noted.stop.actionsCompleted = true := by
    rw [← hnoted] at hwritten ⊢
    simp only [noteWritten] at hwritten ⊢
    split
    · rfl
    · rename_i hnew
      rw [if_neg hnew] at hwritten
      simpa [hwritten] using hnew
  obtain ⟨acted, rest, hsplit, hdone⟩ := hnotedSince.acted hacted
  obtain ⟨p, hproof, hproven⟩ := proven_of_proves hproves
  refine ⟨p, before, leftPositions, rightPositions, acted, noted.stop.actionsCompletedMs, rest,
    hproof, ?_, hdone, ?_⟩
  · have hpoll : StopSystem.log ids w [.poll proof nowUs nowMs] =
        (mark ids w (.poll proof nowUs nowMs)).toList := by
      simp [log, Ratchet.log]
    have hrun : StopSystem.log ids init (events ++ [.poll proof nowUs nowMs]) =
        StopSystem.log ids init events ++ StopSystem.log ids w [.poll proof nowUs nowMs] :=
      Ratchet.log_append _ _ _
    rw [hrun, hpoll, hlog, List.append_assoc, List.cons_append, hsplit]
  · obtain ⟨-, hage, hload⟩ := hkept
    obtain ⟨hnewer, hfresh, hbase, hlift, harms, hretained⟩ := hproven
    rw [hage] at hfresh
    rw [hload] at hretained
    exact ⟨hnewer, hfresh, hbase, hlift, harms, hretained⟩

end StopSystem

end MobileBimanual.Mobile
