/-
# A stop stays confirmable

A begun stop whose packets are all on their way can still be confirmed: the right hold is brought
out, the zero, then the left hold, each by a hand-out in time and a successful completion; a poll
notices, and a poll with a newer proof confirms.  Every event of that continuation is one of those
(`Benign`); the readings of the clocks are chosen, as they may be, since the clocks come round.

Along runs that spare the packets this is so in every state with both buses working
(`stop_confirmable`).  It is not so of every run: the stop remembers only that it once queued a
hold, so a hold that is found late is never submitted again, and the stop stays unconfirmed for
ever (`right_hold_lost`).
-/
import MobileBimanual.Mobile.StopBoard

namespace MobileBimanual.Mobile

open MobileBimanual.Stream (Byte Tick)
open MobileBimanual.Bus
open Machine StopSystem

def BusSide.other : BusSide → BusSide
  | .left => .right
  | .right => .left

theorem BusSide.eq_or_other (side side' : BusSide) : side' = side ∨ side' = side.other := by
  cases side <;> cases side' <;> decide

namespace StopBoard

/-! ## 1. Benign events -/

/-- A young proof of everything. -/
structure FreshGood (stop : SystemStop) (nowMs : Tick) (proof : StopProof) : Prop where
  fresh : nowMs - proof.observedMs < stop.feedbackMaxAgeMs
  baseStopped : proof.baseStopped = true
  liftHolding : proof.liftHolding = true
  armsHolding : proof.armsHolding = true
  loadRetained : proof.loadRetained = true

/-- Polls, hand-outs, successful completions, and fresh good proofs. -/
def Benign (b : StopBoard) : BoardEvent → Prop
  | .stopPoll proof _ nowMs => ∀ p ∈ proof, FreshGood b.stop nowMs p
  | .outputPoll _ _ _ => True
  | .handOut _ _ _ => True
  | .complete side token nowUs ok _ => ((b.router side).complete token nowUs ok).2 = true
  | _ => False

/-- The stop can still be brought to CONFIRMED. -/
def Confirmable (ids : MobileIds) (b : StopBoard) : Prop :=
  Reach (step ids) Benign (fun b => b.stop.state = .confirmed) b

/-- A begun stop with both buses working. -/
structure Working (ids : MobileIds) (b : StopBoard) : Prop where
  kept : Kept ids b
  valid : b.stop.armFeedbackValid = true
  intact : ∀ side, (b.router side).bus.faulted = false

variable {ids : MobileIds} {b : StopBoard}

theorem Kept.begun (h : Kept ids b) (hvalid : b.stop.armFeedbackValid = true) : Begun ids b := by
  rcases h.phase with hun | ⟨-, hinvalid⟩ | hbegun
  · exact absurd (hun.invalid.symm.trans hvalid) (by decide)
  · exact absurd (hinvalid.symm.trans hvalid) (by decide)
  · exact hbegun

namespace Working

theorem begun (h : Working ids b) : Begun ids b := h.kept.begun h.valid

theorem shut (h : Working ids b) (side : BusSide) : (b.router side).inhibited = true := by
  cases side with
  | left => exact h.begun.leftShut
  | right => exact h.begun.rightShut

theorem timed (h : Working ids b) (side : BusSide) : (b.router side).Timed := by
  cases side with
  | left => exact h.kept.sound.leftTimed
  | right => exact h.kept.sound.rightTimed

end Working

/-! ## 2. One packet -/

/-- What an event on one bus leaves: the stop and the other bus. -/
structure Aside (side : BusSide) (b b' : StopBoard) : Prop where
  stop : b'.stop = b.stop
  other : b'.router side.other = b.router side.other

theorem Aside.trans {side : BusSide} {b b' b'' : StopBoard} (h : Aside side b b')
    (h' : Aside side b' b'') : Aside side b b'' :=
  ⟨h'.stop.trans h.stop, h'.other.trans h.other⟩

theorem withRouter_router (b : StopBoard) (r : Router) (side : BusSide) :
    (b.withRouter r side).router side = r := by
  cases side <;> rfl

theorem withRouter_aside (b : StopBoard) (r : Router) (side : BusSide) :
    Aside side b (b.withRouter r side) := by
  cases side <;> exact ⟨rfl, rfl⟩

theorem completed_router (ids : MobileIds) (o : MobileOutput) (kind : Work) (ms : Tick) :
    (o.completed ids kind ms).router = o.router := by
  unfold MobileOutput.completed
  split <;> rfl

theorem report_router (ids : MobileIds) (b : StopBoard) (ms : Tick) (side : BusSide) :
    (b.report ids ms side).router side = b.router side := by
  cases side with
  | left => exact completed_router ids b.output _ ms
  | right => rfl

theorem report_aside (ids : MobileIds) (b : StopBoard) (ms : Tick) (side : BusSide) :
    Aside side b (b.report ids ms side) := by
  cases side <;> exact ⟨rfl, rfl⟩

/-- What is in flight completes. -/
def land (b : StopBoard) (side : BusSide) : BoardEvent :=
  .complete side (b.router side).bus.token (b.router side).bus.startedUs true 0

/-- What waits goes out. -/
def launch (b : StopBoard) (side : BusSide) : BoardEvent :=
  .handOut side (b.router side).lastCall 0

namespace Working

variable {side : BusSide}

/-- **What is in flight can complete.** -/
theorem land (h : Working ids b) (hactive : (b.router side).bus.active = true) :
    Benign b (b.land side) ∧ Working ids (b.step ids (b.land side)) ∧
      Aside side b (b.step ids (b.land side)) ∧
      (b.step ids (b.land side)).router side =
        (b.router side).acknowledge (b.router side).bus.startedUs := by
  obtain ⟨hintact, hdone⟩ :=
    Router.complete_inTime hactive (h.intact side) (h.timed side)
  generalize hr : (b.router side).acknowledge (b.router side).bus.startedUs = r at hdone
  have hstep : b.step ids (b.land side) = (b.withRouter r side).report ids 0 side := by
    simp only [StopBoard.land, step, hdone, if_true]
  have hrouter : (b.step ids (b.land side)).router side = r := by
    rw [hstep, report_router, withRouter_router]
  have haside : Aside side b (b.step ids (b.land side)) := by
    rw [hstep]
    exact (withRouter_aside b r side).trans (report_aside ids _ 0 side)
  refine ⟨?_, ⟨h.kept.step _ trivial, by rw [haside.stop]; exact h.valid, ?_⟩, haside, hrouter⟩
  · simp only [Benign, StopBoard.land, hdone]
  · have hr' : r.bus.faulted = false := by
      rw [← hr]
      exact hintact
    intro side'
    rcases side.eq_or_other side' with rfl | rfl
    · rw [hrouter]
      exact hr'
    · rw [haside.other]
      exact h.intact _

/-- **What waits can go out.** -/
theorem launch (h : Working ids b) {spare : Nat} {bytes : List Byte}
    (hwaiting : (b.router side).Waiting bytes) (hidle : (b.router side).bus.active = false)
    (hroom : (b.router side).Room (spare + 1)) :
    Benign b (b.launch side) ∧ Working ids (b.step ids (b.launch side)) ∧
      Aside side b (b.step ids (b.launch side)) ∧
      (b.step ids (b.launch side)).router side =
        (b.router side).handOut (b.router side).lastCall .stop := by
  have hnext := Router.next_inTime hwaiting (h.shut side) hidle (h.intact side) hroom.left
  have hkept : ¬ (b.router side).Lapses (b.router side).lastCall := fun hlapses =>
    absurd ((Router.lastCall_inTime hwaiting).symm.trans hlapses.2.2) (by decide)
  have hspares : Spares b (b.launch side) := by
    cases side with
    | left => exact fun _ hlapses => absurd hlapses hkept
    | right => exact fun _ => hkept
  have hstep : b.step ids (b.launch side) =
      b.withRouter ((b.router side).handOut (b.router side).lastCall .stop) side := by
    rw [StopBoard.launch, step, hnext]
  have hrouter : (b.step ids (b.launch side)).router side =
      (b.router side).handOut (b.router side).lastCall .stop := by
    rw [hstep, withRouter_router]
  have haside : Aside side b (b.step ids (b.launch side)) := by
    rw [hstep]
    exact withRouter_aside b _ side
  refine ⟨trivial, ⟨h.kept.step _ hspares, by rw [haside.stop]; exact h.valid, ?_⟩, haside,
    hrouter⟩
  intro side'
  rcases side.eq_or_other side' with rfl | rfl
  · have hflying := hwaiting.handOut hidle (h.intact _) (BitVec.le_refl _)
      (b.router side').lastCall hroom.left
    rw [hrouter]
    exact hflying.intact
  · rw [haside.other]
    exact h.intact _

end Working

/-- A packet has landed on a bus, and the rest is as it was. -/
structure Delivered (ids : MobileIds) (side : BusSide) (after : Tick) (bytes : List Byte)
    (b b' : StopBoard) : Prop where
  working : Working ids b'
  aside : Aside side b b'
  landed : (b'.router side).Landed after bytes

section
variable {side : BusSide} {spare : Nat} {after : Tick} {bytes : List Byte}

theorem reach_of_flying (h : Working ids b) (hflying : (b.router side).Flying after bytes) :
    Reach (step ids) Benign (Delivered ids side after bytes b) b := by
  obtain ⟨hbenign, hworking, haside, hrouter⟩ := h.land hflying.active
  obtain ⟨hintact, -⟩ := Router.complete_inTime hflying.active (h.intact side) (h.timed side)
  refine .next (b.land side) hbenign (.here ⟨hworking, haside, ?_⟩)
  rw [hrouter]
  exact hflying.acknowledge hintact

theorem reach_of_waiting (h : Working ids b) (hwaiting : (b.router side).Waiting bytes)
    (hidle : (b.router side).bus.active = false) (hbehind : after ≤ (b.router side).bus.token)
    (hroom : (b.router side).Room (spare + 1)) :
    Reach (step ids) Benign (Delivered ids side after bytes b) b := by
  obtain ⟨hbenign, hworking, haside, hrouter⟩ := h.launch hwaiting hidle hroom
  have hflying : ((b.step ids (b.launch side)).router side).Flying after bytes := by
    rw [hrouter]
    exact hwaiting.handOut hidle (h.intact side) hbehind _ hroom.left
  refine .next (b.launch side) hbenign ((reach_of_flying hworking hflying).trans ?_)
  exact fun b' hdelivered => .here ⟨hdelivered.working, haside.trans hdelivered.aside,
    hdelivered.landed⟩

/-- **A packet on its way can be brought out.** -/
theorem reach_landed (h : Working ids b) (hbound : (b.router side).Bound spare after bytes) :
    Reach (step ids) Benign (Delivered ids side after bytes b) b := by
  rcases hbound with hstuck | ⟨hwaiting, hbehind, hroom⟩ | ⟨hflying, -⟩ | ⟨hlanded, -⟩
  · exact absurd (hstuck.faulted.symm.trans (h.intact side)) (by decide)
  · cases hactive : (b.router side).bus.active with
    | false => exact reach_of_waiting h hwaiting hactive hbehind hroom
    | true =>
      obtain ⟨hbenign, hworking, haside, hrouter⟩ := h.land hactive
      have hfree : ((b.step ids (b.land side)).router side).bus.active = false := by
        rw [hrouter]
        rfl
      refine .next (b.land side) hbenign
        ((@reach_of_waiting ids _ side spare after bytes hworking ?_ hfree ?_
          ?_).trans ?_)
      · rw [hrouter]
        exact hwaiting.acknowledge _
      · rw [hrouter]
        simpa [Router.acknowledge] using hbehind
      · rw [hrouter]
        exact hroom.acknowledge _
      · exact fun b' hdelivered => .here ⟨hdelivered.working, haside.trans hdelivered.aside,
          hdelivered.landed⟩
  · exact reach_of_flying h hflying
  · exact .here ⟨h, ⟨rfl, rfl⟩, hlanded⟩

end

/-! ## 3. All three packets -/

/-- The hold of the right arm was written. -/
def RightHeld (b : StopBoard) : Prop :=
  b.right.Landed b.stop.rightHoldAfterToken (holdPacket b.stop.rightPositions)

/-- Both holds were written. -/
structure Held (ids : MobileIds) (b : StopBoard) : Prop where
  working : Working ids b
  queued : b.stop.leftHoldQueued = true
  left : b.left.Landed b.stop.leftHoldAfterToken (holdPacket b.stop.leftPositions)
  right : RightHeld b

theorem RightHeld.aside {b' : StopBoard} (h : RightHeld b) (haside : Aside .left b b') :
    RightHeld b' := by
  have hright : b'.right = b.right := haside.other
  rw [RightHeld, haside.stop, hright]
  exact h

theorem reach_of_hold (h : Working ids b) (hright : RightHeld b)
    (hqueued : b.stop.leftHoldQueued = true)
    (hbound : b.left.Bound 0 b.stop.leftHoldAfterToken
      (holdPacket b.stop.leftPositions)) :
    Reach (step ids) Benign (Held ids) b := by
  refine (@reach_landed ids b .left _ _ _ h hbound).trans fun b' hdelivered => .here ?_
  have hstop := hdelivered.aside.stop
  refine ⟨hdelivered.working, ?_, ?_, hright.aside hdelivered.aside⟩
  · rw [hstop]
    exact hqueued
  · rw [hstop]
    exact hdelivered.landed

/-- The poll that finds the zero written queues the hold of the left arm. -/
theorem Working.queueHold (h : Working ids b) (hunqueued : b.stop.leftHoldQueued = false)
    (hlanded : b.left.Landed b.stop.leftZeroAfterToken (zeroBytes ids)) :
    let b' := b.step ids (.stopPoll none 0 0)
    Working ids b' ∧ b'.stop.leftHoldQueued = true ∧ (RightHeld b → RightHeld b') := by
  have hdue : holdDue ids b.system = true := by
    have hvalid : b.system.stop.armFeedbackValid = true := h.valid
    have hqueued : b.system.stop.leftHoldQueued = false := hunqueued
    have hempty : (b.system.left.jobs .stop).pending = false := hlanded.empty
    have hreceipt : receipted b.system.left b.system.stop.leftZeroAfterToken
        (.ok (zeroBytes ids) : Except PacketError (List Byte)) = true :=
      receipted_iff.mpr ⟨hlanded.idle, hlanded.intact, hlanded.ahead, hlanded.kind, hlanded.bytes⟩
    simp [holdDue, zeroPacket_eq, hvalid, hqueued, hempty, hreceipt]
  have hbegun : b.system.stop.state ≠ .idle := h.begun.begun
  obtain ⟨state, noticed, noticedMs, -, heq⟩ := pollTimed_judged hbegun none 0 0
  have hkept : Kept ids (b.step ids (.stopPoll none 0 0)) := h.kept.step (.stopPoll none 0 0) trivial
  rw [h.begun.queueLeftHold_of_due hdue] at heq
  simp only [step, heq] at hkept ⊢
  refine ⟨⟨hkept, h.valid, ?_⟩, rfl, fun hright => hright⟩
  intro side
  cases side with
  | left =>
    have hpoll : b.left.bus.poll 0 = b.left.bus := SharedBus.poll_of_idle hlanded.idle 0
    have hintact : (b.left.bus.poll 0).faulted = false := by
      rw [hpoll]
      exact hlanded.intact
    exact hintact
  | right => exact h.intact .right

theorem reach_of_zero (h : Working ids b) (hright : RightHeld b)
    (hunqueued : b.stop.leftHoldQueued = false)
    (hbound : b.left.Bound 1 b.stop.leftZeroAfterToken (zeroBytes ids)) :
    Reach (step ids) Benign (Held ids) b := by
  refine (@reach_landed ids b .left _ _ _ h hbound).trans fun b' hdelivered => ?_
  have hstop := hdelivered.aside.stop
  have hlanded : b'.left.Landed b'.stop.leftZeroAfterToken (zeroBytes ids) := by
    rw [hstop]
    exact hdelivered.landed
  obtain ⟨hworking, hqueued, hheld⟩ :=
    hdelivered.working.queueHold (by rw [hstop]; exact hunqueued) hlanded
  refine .next (.stopPoll none 0 0) (fun p hp => by cases hp) ?_
  cases hworking.begun.left with
  | zero unqueued => exact absurd (hqueued.symm.trans unqueued) (by decide)
  | owed unqueued => exact absurd (hqueued.symm.trans unqueued) (by decide)
  | hold _ _ bound =>
    exact reach_of_hold hworking (hheld (hright.aside hdelivered.aside)) hqueued bound

/-- **The output queues the zero that it owes.** -/
theorem Begun.requeued (h : Begun ids b) (hsound : Sound b)
    (hunwritten : b.output.stopWritten = false) (hempty : (b.left.jobs .stop).pending = false)
    (hquiet : ¬ (b.left.bus.active = true ∧ b.left.bus.owner = .stop)) {now : Tick}
    (hintact : (b.left.bus.poll now).faulted = false) (nowMs epoch : Tick) :
    MobileOutput.OwnZero ids b.output.config
      ((b.step ids (.outputPoll now nowMs epoch)).left.jobs .stop) := by
  have hpolled := @MobileOutput.poll_inhibited ids _ hsound.configured hsound.budget
    h.leftShut now nowMs epoch
  rw [step, StopBoard.left]
  cases hpolled.slot with
  | kept pending => exact absurd (pending.symm.trans hempty) (by decide)
  | filled _ _ _ _ zero => exact zero
  | empty _ _ _ why =>
    rcases why with hwritten | hbusy | hfaulted
    · exact absurd (hwritten.symm.trans hunwritten) (by decide)
    · exact absurd hbusy hquiet
    · exact absurd (hfaulted.symm.trans hintact) (by decide)

/-- From the zero that the output owes, the bus being free. -/
theorem reach_of_owed (h : Working ids b) (hright : RightHeld b)
    (hunwritten : b.output.stopWritten = false) (hempty : (b.left.jobs .stop).pending = false)
    (hidle : b.left.bus.active = false) : Reach (step ids) Benign (Held ids) b := by
  have hpoll : b.left.bus.poll 0 = b.left.bus := SharedBus.poll_of_idle hidle 0
  have hintact : (b.left.bus.poll 0).faulted = false := by
    rw [hpoll]
    exact h.intact .left
  have hquiet : ¬ (b.left.bus.active = true ∧ b.left.bus.owner = .stop) := by
    rw [hidle]
    exact fun hbusy => Bool.false_ne_true hbusy.1
  have hqueued := h.begun.requeued h.kept.sound hunwritten hempty hquiet hintact 0 0
  have hspares : Spares b (.outputPoll 0 0 0) := by
    intro _ hexpired
    simp [Job.expired, hempty] at hexpired
  have hkept := h.kept.step _ hspares
  have hfaulted := (@MobileOutput.poll_inhibited ids _ h.kept.sound.configured
    h.kept.sound.budget h.begun.leftShut 0 0 0).faulted
  have hworking : Working ids (b.step ids (.outputPoll 0 0 0)) := by
    refine ⟨hkept, h.valid, ?_⟩
    intro side
    cases side with
    | left => exact hfaulted.trans hintact
    | right => exact h.intact .right
  have hheld : RightHeld (b.step ids (.outputPoll 0 0 0)) := hright
  refine .next (.outputPoll 0 0 0) trivial ?_
  cases hworking.begun.left with
  | zero unqueued bound => exact reach_of_zero hworking hheld unqueued bound
  | owed _ _ empty => exact absurd (hqueued.pending.symm.trans empty) (by decide)
  | hold queued _ bound => exact reach_of_hold hworking hheld queued bound

/-- **Both holds can be brought out.** -/
theorem reach_held (h : Working ids b) : Reach (step ids) Benign (Held ids) b := by
  refine (@reach_landed ids b .right _ _ _ h h.begun.right).trans fun b' hdelivered => ?_
  have hworking := hdelivered.working
  have hright : RightHeld b' := by
    rw [RightHeld, hdelivered.aside.stop]
    exact hdelivered.landed
  cases hworking.begun.left with
  | zero unqueued bound => exact reach_of_zero hworking hright unqueued bound
  | hold queued _ bound => exact reach_of_hold hworking hright queued bound
  | owed unqueued unwritten empty quiet room =>
    cases hactive : b'.left.bus.active with
    | false => exact reach_of_owed hworking hright unwritten empty hactive
    | true =>
      obtain ⟨hbenign, hnext, haside, hrouter⟩ := @Working.land ids b' .left hworking hactive
      have hfree : (b'.step ids (b'.land .left)).left.bus.active = false := by
        have hleft : (b'.step ids (b'.land .left)).left = _ := hrouter
        rw [hleft]
        rfl
      refine .next (b'.land .left) hbenign ?_
      cases hnext.begun.left with
      | zero unqueued bound => exact reach_of_zero hnext (hright.aside haside) unqueued bound
      | hold queued _ bound => exact reach_of_hold hnext (hright.aside haside) queued bound
      | owed _ unwritten empty =>
        exact reach_of_owed hnext (hright.aside haside) unwritten empty hfree

/-! ## 4. The verdict -/

theorem Held.written (h : Held ids b) : written ids b.system = true := by
  have hqueued : b.system.stop.leftHoldQueued = true := h.queued
  have hleftEmpty : (b.system.left.jobs .stop).pending = false := h.left.empty
  have hrightEmpty : (b.system.right.jobs .stop).pending = false := h.right.empty
  have hleft : receipted b.system.left b.system.stop.leftHoldAfterToken
      (.ok (holdPacket b.system.stop.leftPositions) :
        Except GroupError (List Byte)) = true :=
    receipted_iff.mpr ⟨h.left.idle, h.left.intact, h.left.ahead, h.left.kind, h.left.bytes⟩
  have hright : receipted b.system.right b.system.stop.rightHoldAfterToken
      (.ok (holdPacket b.system.stop.rightPositions) :
        Except GroupError (List Byte)) = true :=
    receipted_iff.mpr ⟨h.right.idle, h.right.intact, h.right.ahead, h.right.kind, h.right.bytes⟩
  simp [StopSystem.written, StopSystem.leftHold_eq, StopSystem.rightHold_eq, hqueued, hleftEmpty,
    hrightEmpty, hleft, hright]

/-- A poll of a stop whose holds were written queues nothing. -/
theorem Held.pollTimed (h : Held ids b) (proof : Option StopProof) (nowUs nowMs : Tick) :
    b.system.pollTimed ids proof nowUs nowMs =
      judge ids (noteWritten ids b.system nowMs) proof nowMs := by
  have hbegun : b.system.stop.state ≠ .idle := h.working.begun.begun
  have hqueued : b.system.stop.leftHoldQueued = true := h.queued
  have hdue : holdDue ids b.system = false := by simp [holdDue, hqueued]
  rw [StopSystem.pollTimed, if_neg hbegun, StopSystem.queueLeftHold, if_neg (by simp [hdue])]

theorem Held.judged (h : Held ids b) {state : SystemStopState} (hstate : state ≠ .idle)
    (noticed : Bool) (noticedMs : Tick) :
    Held ids (b.withSystem (StopBoard.judged b.system state noticed noticedMs)) := by
  have hkept := h.working.kept
  have hworking : Working ids
      (b.withSystem (StopBoard.judged b.system state noticed noticedMs)) := by
    refine ⟨⟨⟨hkept.sound.configured, hkept.sound.budget, hkept.sound.leftTimed,
      hkept.sound.rightTimed⟩, Or.inr (Or.inr (h.working.begun.judged hstate noticed noticedMs))⟩,
      h.working.valid, ?_⟩
    intro side
    cases side with
    | left => exact h.working.intact .left
    | right => exact h.working.intact .right
  exact ⟨hworking, h.queued, h.left, h.right⟩

theorem Held.noticed (h : Held ids b) :
    Held ids (b.step ids (.stopPoll none 0 0)) ∧
      (b.step ids (.stopPoll none 0 0)).stop.actionsCompleted = true := by
  have hwritten := h.written
  have hbegun : b.system.stop.state ≠ .idle := h.working.begun.begun
  obtain ⟨noticedMs, hnoted⟩ : ∃ noticedMs, noteWritten ids b.system 0 =
      StopBoard.judged b.system b.system.stop.state true noticedMs := by
    unfold noteWritten
    cases hdone : b.system.stop.actionsCompleted with
    | false =>
      rw [if_pos (by simp [hwritten])]
      exact ⟨0, rfl⟩
    | true =>
      rw [if_neg (by simp)]
      refine ⟨b.system.stop.actionsCompletedMs, ?_⟩
      rw [StopBoard.judged, ← hdone]
  obtain ⟨state, hjudge, -, hverdict⟩ :=
    judge_stop ids (StopBoard.judged b.system b.system.stop.state true noticedMs) none 0
  have hstate : state ≠ .idle := by
    rcases hverdict with rfl | rfl | ⟨rfl, -⟩
    · nofun
    · nofun
    · exact hbegun
  have hstep : b.step ids (.stopPoll none 0 0) =
      b.withSystem (StopBoard.judged b.system state true noticedMs) := by
    rw [step, h.pollTimed, hnoted, hjudge]
    rfl
  rw [hstep]
  exact ⟨h.judged hstate true noticedMs, rfl⟩

/-- A proof of everything, a millisecond after the holds were noticed. -/
def newerProof (stop : SystemStop) : StopProof :=
  ⟨stop.actionsCompletedMs + 1, true, true, true, true⟩

theorem proves_newer {stop : SystemStop} (hage : stop.feedbackMaxAgeMs ≠ 0) :
    FreshGood stop (stop.actionsCompletedMs + 1) (newerProof stop) ∧
      proves stop (some (newerProof stop)) (stop.actionsCompletedMs + 1) = true := by
  have hpositive : (0 : Tick) < stop.feedbackMaxAgeMs :=
    BitVec.lt_def.mpr (Nat.pos_of_ne_zero fun hzero => hage (BitVec.eq_of_toNat_eq hzero))
  have hage' : stop.actionsCompletedMs + 1 - (stop.actionsCompletedMs + 1) <
      stop.feedbackMaxAgeMs := by
    rw [BitVec.sub_self]
    exact hpositive
  have hnewer : stop.actionsCompletedMs + 1 - stop.actionsCompletedMs = 1 := by bv_omega
  refine ⟨⟨hage', rfl, rfl, rfl, rfl⟩, ?_⟩
  have hhalf : (1 : Tick) < halfCircle := by decide
  simpa [proves, newerProof, hnewer] using And.intro hpositive hhalf

/-- The poll that confirms. -/
theorem Held.confirmable (h : Held ids b) : Confirmable ids b := by
  obtain ⟨hheld, hnoticed⟩ := h.noticed
  refine .next (.stopPoll none 0 0) (fun p hp => by cases hp) ?_
  generalize b.step ids (.stopPoll none 0 0) = noticed at hheld hnoticed ⊢
  obtain ⟨hfresh, hproves⟩ := proves_newer hheld.working.begun.times.age
  refine .next (.stopPoll (some (newerProof noticed.stop)) 0
    (noticed.stop.actionsCompletedMs + 1)) ?_ (.here ?_)
  · intro p hp
    rw [← Option.some.inj (Option.mem_def.mp hp)]
    exact hfresh
  · have hwritten := hheld.written
    have hdone : noticed.system.stop.actionsCompleted = true := hnoticed
    have hsystem : proves noticed.system.stop (some (newerProof noticed.stop))
        (noticed.stop.actionsCompletedMs + 1) = true := hproves
    rw [step, hheld.pollTimed, noteWritten, if_neg (by simp [hdone]), judge,
      if_pos (by rw [hwritten, hsystem]; rfl)]
    rfl

theorem Working.confirmable (h : Working ids b) : Confirmable ids b :=
  (reach_held h).trans fun _ hheld => hheld.confirmable

/-- **No packet is lost**: what is neither queued nor in flight was written, or is the zero, and
then the next poll of the output queues it again. -/
structure NothingLost (ids : MobileIds) (b : StopBoard) : Prop where
  left : (b.left.jobs .stop).pending = true ∨
    (b.left.bus.active = true ∧ b.left.bus.owner = .stop) ∨
    receipted b.left b.stop.leftZeroAfterToken (zeroPacket ids) = true ∨
    (b.stop.leftHoldQueued = true ∧ receipted b.left b.stop.leftHoldAfterToken
      (leftHold ids b.stop.leftPositions) = true) ∨
    ∀ nowUs nowMs armEpochUs, (b.left.bus.poll nowUs).faulted = false →
      MobileOutput.OwnZero ids b.output.config
        ((b.step ids (.outputPoll nowUs nowMs armEpochUs)).left.jobs .stop)
  right : (b.right.jobs .stop).pending = true ∨
    (b.right.bus.active = true ∧ b.right.bus.owner = .stop) ∨
    receipted b.right b.stop.rightHoldAfterToken
      (rightHold ids b.stop.rightPositions) = true

theorem Working.nothingLost (h : Working ids b) : NothingLost ids b := by
  have hbound : ∀ (side : BusSide) {spare : Nat} {after : Tick} {bytes : List Byte},
      (b.router side).Bound spare after bytes →
        ((b.router side).jobs .stop).pending = true ∨
        ((b.router side).bus.active = true ∧ (b.router side).bus.owner = .stop) ∨
        receipted (b.router side) after
          (.ok bytes : Except GroupError (List Byte)) = true := by
    intro side spare after bytes hbound
    rcases hbound with hstuck | ⟨hwaiting, -, -⟩ | ⟨hflying, -⟩ | ⟨hlanded, -⟩
    · exact absurd (hstuck.faulted.symm.trans (h.intact side)) (by decide)
    · exact Or.inl hwaiting.pending
    · exact Or.inr (Or.inl ⟨hflying.active, hflying.owner⟩)
    · exact Or.inr (Or.inr (receipted_iff.mpr
        ⟨hlanded.idle, hlanded.intact, hlanded.ahead, hlanded.kind, hlanded.bytes⟩))
  refine ⟨?_, ?_⟩
  · cases h.begun.left with
    | zero unqueued bound =>
      rw [zeroPacket_eq]
      rcases hbound .left bound with hpending | hflying | hwritten
      · exact Or.inl hpending
      · exact Or.inr (Or.inl hflying)
      · exact Or.inr (Or.inr (Or.inl hwritten))
    | owed unqueued unwritten empty quiet room =>
      exact Or.inr (Or.inr (Or.inr (Or.inr fun nowUs nowMs epoch hintact =>
        h.begun.requeued h.kept.sound unwritten empty quiet hintact nowMs epoch)))
    | hold queued written bound =>
      rw [leftHold_eq]
      rcases hbound .left bound with hpending | hflying | hwritten
      · exact Or.inl hpending
      · exact Or.inr (Or.inl hflying)
      · exact Or.inr (Or.inr (Or.inr (Or.inl ⟨queued, hwritten⟩)))
  · rw [rightHold_eq]
    exact hbound .right h.begun.right

/-! ## 5. The theorem -/

/-- **A stop stays confirmable.**  From a fresh start, along every run whose events spare the
packets, wherever a stop was begun with valid positions and neither bus is faulted, no packet is
lost, and some continuation of polls, hand-outs, successful completions and fresh good proofs
confirms the stop. -/
theorem stop_confirmable (ids : MobileIds) {supervisor : MobileSupervisor}
    {endpoint : LiftEndpoint} {config : MobileOutputConfig} {epoch : Tick} {output : MobileOutput}
    (hinit : MobileOutput.init supervisor endpoint config epoch = some output)
    (events : List BoardEvent) (hspares : Along (step ids) Spares (start output) events) :
    let b := run (step ids) (start output) events
    b.stop.armFeedbackValid = true → b.left.bus.faulted = false → b.right.bus.faulted = false →
      Confirmable ids b ∧ NothingLost ids b := by
  intro b hvalid hleft hright
  have hkept : Kept ids b := run_invariant (fun _ e h hok => h.step e hok) events
    (kept_start hinit) hspares
  have hworking : Working ids b := by
    refine ⟨hkept, hvalid, fun side => ?_⟩
    cases side with
    | left => exact hleft
    | right => exact hright
  exact ⟨hworking.confirmable, hworking.nothingLost⟩

/-! ## 6. The hold that is lost -/

/-- The hold of the right arm is nowhere any more. -/
structure RightLost (b : StopBoard) : Prop where
  begun : b.stop.state ≠ .idle
  unconfirmed : b.stop.state ≠ .confirmed
  shut : b.right.inhibited = true
  empty : (b.right.jobs .stop).pending = false
  idle : b.right.bus.active = false
  unwritten : ¬ b.stop.rightHoldAfterToken < b.right.completed.token

theorem RightLost.undisturbed (h : RightLost b) {r : Router}
    (hr : Router.Undisturbed b.right r) : RightLost { b with right := r } := by
  refine ⟨h.begun, h.unconfirmed, hr.inhibited h.shut, ?_, hr.same.active.trans h.idle, ?_⟩
  · rw [hr.slot]
    exact h.empty
  · rw [hr.same.completed]
    exact h.unwritten

theorem RightLost.withOutput (h : RightLost b) (o : MobileOutput) :
    RightLost { b with output := o } :=
  ⟨h.begun, h.unconfirmed, h.shut, h.empty, h.idle, h.unwritten⟩

theorem RightLost.stopPoll (h : RightLost b) (proof : Option StopProof) (nowUs nowMs : Tick) :
    RightLost (b.step ids (.stopPoll proof nowUs nowMs)) := by
  have hbegun : b.system.stop.state ≠ .idle := h.begun
  have hqueued : (queueLeftHold ids b.system nowUs).right = b.right ∧
      (queueLeftHold ids b.system nowUs).stop.state = b.stop.state ∧
      (queueLeftHold ids b.system nowUs).stop.rightHoldAfterToken =
        b.stop.rightHoldAfterToken := by
    rcases queueLeftHold_cases ids b.system nowUs with
      ⟨-, heq⟩ | ⟨-, left, ok, -, -, heq⟩ <;> rw [heq] <;> exact ⟨rfl, rfl, rfl⟩
  rw [step, pollTimed, if_neg hbegun]
  generalize queueLeftHold ids b.system nowUs = queued at hqueued ⊢
  obtain ⟨hright, hstate, hafter⟩ := hqueued
  have hreceipt : ∀ {ε : Type} (packet : Except ε (List Byte)),
      receipted queued.right queued.stop.rightHoldAfterToken packet = false := by
    intro ε packet
    cases packet with
    | error => rfl
    | ok bytes =>
      rw [hright, hafter, receipted]
      simp [h.unwritten]
  have hwritten : written ids queued = false := by
    simp [written, hreceipt]
  have hnoted : noteWritten ids queued nowMs = queued := by
    rw [noteWritten, if_neg (by simp [hwritten])]
  rw [hnoted]
  obtain ⟨state, hjudge, hconfirmed, hverdict⟩ := judge_stop ids queued proof nowMs
  rw [hjudge]
  have hverdict' : state ≠ .confirmed := fun hstate =>
    absurd (hwritten.symm.trans (hconfirmed hstate).1) (by decide)
  refine ⟨?_, hverdict', ?_, ?_, ?_, ?_⟩
  · rcases hverdict with rfl | rfl | ⟨rfl, -⟩
    · exact fun hidle => by cases hidle
    · exact fun hidle => by cases hidle
    · exact fun hidle => h.begun (hstate.symm.trans hidle)
  · exact (congrArg Router.inhibited hright).trans h.shut
  · exact (congrArg (fun r => (r.jobs Work.stop).pending) hright).trans h.empty
  · exact (congrArg (fun r => r.bus.active) hright).trans h.idle
  · have hlost := h.unwritten
    rw [← hright, ← hafter] at hlost
    exact hlost

/-- **Nothing brings the hold back.** -/
theorem RightLost.step (h : RightLost b) (e : BoardEvent) : RightLost (b.step ids e) := by
  have hside : ∀ (side : BusSide) {r : Router}, Router.Undisturbed (b.router side) r →
      RightLost (b.withRouter r side) := by
    intro side r hr
    cases side with
    | left => exact h.withOutput _
    | right => exact h.undisturbed hr
  cases e with
  | begin leftPositions rightPositions valid preserve nowUs nowMs config =>
    have hrefused := @beginTimed_refused config ids b.system
      (fun hopens => h.begun hopens.1) leftPositions rightPositions valid preserve nowUs nowMs
    rw [StopBoard.step, hrefused]
    exact h
  | stopPoll proof nowUs nowMs => exact h.stopPoll proof nowUs nowMs
  | outputPoll nowUs nowMs epoch => exact h.withOutput _
  | outputStop fault => exact h.withOutput _
  | bindLift => exact h.withOutput _
  | world supervisor endpoint => exact h.withOutput _
  | handOut side now available =>
    cases side with
    | left => exact h.withOutput _
    | right => exact h.undisturbed (Router.next_of_empty h.shut h.empty)
  | complete side token now ok ms =>
    rw [StopBoard.step]
    rcases (b.router side).complete_outcome token now ok with ⟨hsame, hrefused⟩ | ⟨hactive, -, heq⟩
    · simp only [hrefused, Bool.false_eq_true, if_false]
      exact hside side hsame
    · cases side with
      | left =>
        simp only [heq, if_true]
        exact h.withOutput _
      | right => exact absurd (hactive.symm.trans h.idle) (by decide)
  | busPoll side now => exact hside side (.poll _ now)
  | recover side idle =>
    cases side with
    | left => exact h.withOutput _
    | right =>
      rcases b.right.recover_cases idle with heq | ⟨-, heq⟩
      · rw [StopBoard.step, router, heq]
        exact h
      · rw [StopBoard.step, router, heq]
        exact ⟨h.begun, h.unconfirmed, h.shut, h.empty, rfl, h.unwritten⟩
  | inhibit side => exact hside side (.inhibit _)
  | fault side =>
    exact hside side ((Router.Undisturbed.inhibit _).trans (Router.Undisturbed.faultStop _))

theorem RightLost.not_confirmable (h : RightLost b) : ¬ Confirmable ids b := by
  rintro ⟨events, -, hconfirmed⟩
  have hlost : RightLost (run (StopBoard.step ids) b events) :=
    run_invariant_all (fun _ e hb => hb.step e) events h
  exact hlost.unconfirmed hconfirmed

/-- The times of the source's default begin. -/
def benchStop : SystemStopConfig := ⟨10000, 2000, 2000, 1000, 100⟩

/-- A begin with both arms in the middle. -/
def benchBegin : BoardEvent :=
  .begin (fun _ => 2048) (fun _ => 2048) true true 0 0 benchStop

def benchBoard : StopBoard :=
  start (MobileOutput.bench MobileOutput.benchConfig MobileOutput.bench_starts)

/-- A stop that has just begun can be confirmed. -/
theorem stop_confirmable_bench :
    Confirmable .reference (run (step .reference) benchBoard [benchBegin]) ∧
      NothingLost .reference (run (step .reference) benchBoard [benchBegin]) :=
  stop_confirmable .reference (MobileOutput.init_bench _) [benchBegin]
    ⟨fun _ _ _ => ⟨by decide +kernel, by decide +kernel⟩, trivial⟩
    (by decide +kernel) (by decide +kernel) (by decide +kernel)

/-- **A hold that is found late is lost for ever**: twenty milliseconds after the begin the
router of the right bus drops it, and no continuation confirms the stop. -/
theorem right_hold_lost :
    let b := run (step .reference) benchBoard [benchBegin, .handOut .right 20000 0]
    b.stop.armFeedbackValid = true ∧ b.stop.state = .pending ∧ b.left.bus.faulted = false ∧
      b.right.bus.faulted = false ∧ ¬ Confirmable .reference b := by
  intro b
  have hlost : RightLost b := by
    constructor <;> decide +kernel
  exact ⟨by decide +kernel, by decide +kernel, by decide +kernel, by decide +kernel,
    hlost.not_confirmable⟩

end StopBoard

end MobileBimanual.Mobile
