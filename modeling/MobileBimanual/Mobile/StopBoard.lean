/-
# The board that stops

The system stop, the mobile output that owns the router of the left bus, and the router of the
right bus, with whatever drives them in any order: begins and polls of the stop, polls and stops
of the output, hand-outs, completions, failures and recoveries on both buses.  As in the source
nobody else submits to these routers, a completion on the left bus is reported to the output in
the same breath, and nothing takes the inhibition of a begun stop back.

A begun stop has three packets to bring out.  The right hold is submitted once, by the begin; the
left hold once, by the poll that finds the zero written; the zero by the begin, and again by the
output, which asks for it until one was written.  `Spares` is the condition under which none of
them is lost, and `Begun` what it keeps: where each packet is.
-/
import MobileBimanual.Lib.Reach
import MobileBimanual.Mobile.OutputPoll
import MobileBimanual.Mobile.StopConfirm

namespace MobileBimanual.Mobile

open MobileBimanual.Stream (Byte Tick)
open MobileBimanual.Bus
open Machine StopSystem Router

/-! ## 1. The board -/

structure StopBoard where
  stop : SystemStop
  output : MobileOutput
  right : Router

inductive BoardEvent where
  | begin (leftPositions rightPositions : ArmPositions) (valid preserve : Bool)
      (nowUs nowMs : Tick) (config : SystemStopConfig)
  | stopPoll (proof : Option StopProof) (nowUs nowMs : Tick)
  | outputPoll (nowUs nowMs armEpochUs : Tick)
  | outputStop (fault : OutputFault)
  | bindLift
  /-- Anything at all in the supervisor and the lift. -/
  | world (supervisor : MobileSupervisor) (endpoint : LiftEndpoint)
  | handOut (side : BusSide) (nowUs availableUs : Tick)
  | complete (side : BusSide) (token nowUs : Tick) (ok : Bool) (completedMs : Tick)
  | busPoll (side : BusSide) (nowUs : Tick)
  | recover (side : BusSide) (uartIdle : Bool)
  /-- The transport inhibits the router of a transaction that failed. -/
  | inhibit (side : BusSide)
  /-- The transport reports an error of the line. -/
  | fault (side : BusSide)

namespace StopBoard

/-- Where the output is freshly set up and no stop was begun. -/
def start (output : MobileOutput) : StopBoard := ⟨SystemStop.zero, output, init⟩

def left (b : StopBoard) : Router := b.output.router

def router (b : StopBoard) : BusSide → Router
  | .left => b.left
  | .right => b.right

def withRouter (b : StopBoard) (r : Router) : BusSide → StopBoard
  | .left => { b with output := { b.output with router := r } }
  | .right => { b with right := r }

/-- The stop and its two routers. -/
def system (b : StopBoard) : StopSystem := ⟨b.stop, b.left, b.right⟩

def withSystem (b : StopBoard) (w : StopSystem) : StopBoard :=
  ⟨w.stop, { b.output with router := w.left }, w.right⟩

/-- A transmission on the left bus that completed is reported to the output. -/
def report (ids : MobileIds) (b : StopBoard) (completedMs : Tick) : BusSide → StopBoard
  | .left => { b with output := b.output.completed ids b.left.bus.owner completedMs }
  | .right => b

def step (ids : MobileIds) (b : StopBoard) : BoardEvent → StopBoard
  | .begin leftPositions rightPositions valid preserve nowUs nowMs config =>
    b.withSystem (b.system.beginTimed ids leftPositions rightPositions valid preserve nowUs nowMs
      config).1
  | .stopPoll proof nowUs nowMs => b.withSystem (b.system.pollTimed ids proof nowUs nowMs)
  | .outputPoll nowUs nowMs armEpochUs =>
    { b with output := b.output.poll ids nowUs nowMs armEpochUs }
  | .outputStop fault => { b with output := b.output.stop fault }
  | .bindLift => { b with output := b.output.bindLift.1 }
  | .world supervisor endpoint => { b with output := { b.output with supervisor, endpoint } }
  | .handOut side nowUs availableUs =>
    b.withRouter ((b.router side).next nowUs availableUs).1 side
  | .complete side token nowUs ok completedMs =>
    let (r, done) := (b.router side).complete token nowUs ok
    if done then (b.withRouter r side).report ids completedMs side else b.withRouter r side
  | .busPoll side nowUs => b.withRouter ((b.router side).poll nowUs) side
  | .recover side uartIdle => b.withRouter ((b.router side).recover uartIdle).1 side
  | .inhibit side => b.withRouter (b.router side).inhibit side
  | .fault side =>
    b.withRouter { (b.router side).inhibit with bus := (b.router side).bus.faultStop } side

/-! ## 2. What loses nothing -/

/-- **No packet of a stop is lost over the event.**  The STOP slots are not found late, except by
the output while the zero is its own to queue again and none is on the bus; a bus is not recovered
that had the only copy in flight; and where the stop begins there are tokens left for its
packets. -/
def Spares (b : StopBoard) : BoardEvent → Prop
  | .begin _ _ valid _ _ _ config =>
    b.stop.state = .idle → configOk config = true → valid = true →
      b.left.Room 2 ∧ b.right.Room 1
  | .outputPoll nowUs _ _ =>
    b.stop.armFeedbackValid = true → (b.left.jobs .stop).expired nowUs = true →
      (b.left.bus.poll nowUs).faulted = false →
        b.output.stopWritten = false ∧ ¬ (b.left.bus.active = true ∧ b.left.bus.owner = .stop)
  | .handOut .left nowUs _ =>
    b.stop.armFeedbackValid = true → b.left.Lapses nowUs → b.output.stopWritten = false
  | .handOut .right nowUs _ => b.stop.armFeedbackValid = true → ¬ b.right.Lapses nowUs
  | .recover .left _ =>
    b.stop.armFeedbackValid = true → b.left.bus.faulted = true →
      (b.left.jobs .stop).pending = true ∨ (b.output.stopWritten = false ∧ b.left.Room 2)
  | .recover .right _ =>
    b.stop.armFeedbackValid = true → b.right.bus.faulted = true →
      (b.right.jobs .stop).pending = true
  | _ => True

/-! ## 3. Where the packets are -/

/-- The two packets of the left bus: the zero is bound for the bus, or the output owes it, or it
was written and the hold is bound. -/
inductive LeftPhase (ids : MobileIds) (b : StopBoard) : Prop
  | zero (unqueued : b.stop.leftHoldQueued = false)
      (bound : b.left.Bound 1 b.stop.leftZeroAfterToken (zeroBytes ids))
  | owed (unqueued : b.stop.leftHoldQueued = false) (unwritten : b.output.stopWritten = false)
      (empty : (b.left.jobs .stop).pending = false)
      (quiet : ¬ (b.left.bus.active = true ∧ b.left.bus.owner = .stop)) (room : b.left.Room 2)
  | hold (queued : b.stop.leftHoldQueued = true) (written : b.output.stopWritten = true)
      (bound : b.left.Bound 0 b.stop.leftHoldAfterToken
        (holdPacket b.stop.leftPositions))

/-- What the checks of a begin say about its configuration. -/
structure StopTimes (stop : SystemStop) : Prop where
  positive : stop.config.holdBudgetUs ≠ 0
  within : stop.config.holdBudgetUs.toNat < stop.config.jobLifetimeUs.toNat
  short : stop.config.jobLifetimeUs.toNat < 2 ^ 31
  age : stop.feedbackMaxAgeMs ≠ 0

/-- The output is set up, and what the buses carry was given a budget. -/
structure Sound (b : StopBoard) : Prop where
  configured : b.output.configured = true
  budget : MobileOutput.StopBudget b.output.config
  leftTimed : b.left.Timed
  rightTimed : b.right.Timed

/-- No stop was begun: a STOP on the left bus is the output's own zero, on the right there is
none. -/
structure Unbegun (ids : MobileIds) (b : StopBoard) : Prop where
  idle : b.stop.state = .idle
  invalid : b.stop.armFeedbackValid = false
  leftBehind : b.left.Behind
  rightBehind : b.right.Behind
  own : (b.left.jobs .stop).pending = true →
    MobileOutput.OwnZero ids b.output.config (b.left.jobs .stop)
  empty : (b.right.jobs .stop).pending = false

/-- A stop was begun with valid positions. -/
structure Begun (ids : MobileIds) (b : StopBoard) : Prop where
  begun : b.stop.state ≠ .idle
  valid : b.stop.armFeedbackValid = true
  times : StopTimes b.stop
  leftShut : b.left.inhibited = true
  rightShut : b.right.inhibited = true
  behind : b.stop.leftZeroAfterToken ≤ b.left.bus.token
  /-- The output knows of every zero written since. -/
  noted : b.stop.leftZeroAfterToken < b.left.completed.token → b.left.completed.kind = .stop →
    b.left.completed.bytes = zeroBytes ids → b.output.stopWritten = true
  left : LeftPhase ids b
  right : b.right.Bound 0 b.stop.rightHoldAfterToken
    (holdPacket b.stop.rightPositions)

/-- The invariant. -/
structure Kept (ids : MobileIds) (b : StopBoard) : Prop where
  sound : Sound b
  phase : Unbegun ids b ∨ (b.stop.state ≠ .idle ∧ b.stop.armFeedbackValid = false) ∨ Begun ids b

variable {ids : MobileIds} {b : StopBoard}

/-! ## 4. Operations that leave the packets alone -/

theorem LeftPhase.undisturbed {b' : StopBoard} (h : LeftPhase ids b) (hstop : b'.stop = b.stop)
    (hwritten : b'.output.stopWritten = b.output.stopWritten)
    (hleft : Undisturbed b.left b'.left) : LeftPhase ids b' := by
  cases h with
  | zero unqueued bound =>
    refine .zero (by rw [hstop]; exact unqueued) ?_
    rw [hstop]
    exact hleft.bound bound
  | owed unqueued unwritten empty quiet room =>
    refine .owed (by rw [hstop]; exact unqueued) (hwritten.trans unwritten) ?_ ?_ (hleft.room room)
    · rw [hleft.slot]
      exact empty
    · rw [hleft.same.active, hleft.same.owner]
      exact quiet
  | hold queued written bound =>
    refine .hold (by rw [hstop]; exact queued) (hwritten.trans written) ?_
    rw [hstop]
    exact hleft.bound bound

variable {o : MobileOutput}

open StopBoard

/-- The left router, or what stands around it, changes without the packets being touched. -/
theorem Kept.leftSame (h : Kept ids b) (hconfigured : o.configured = b.output.configured)
    (hconfig : o.config = b.output.config) (hwritten : o.stopWritten = b.output.stopWritten)
    (hleft : Undisturbed b.left o.router) : Kept ids { b with output := o } := by
  have hframe : Frame b.left o.router := .of_same hleft.same hleft.bytes
  refine ⟨⟨hconfigured.trans h.sound.configured, ?_, hleft.timed h.sound.leftTimed,
    h.sound.rightTimed⟩, ?_⟩
  · rw [hconfig]
    exact h.sound.budget
  rcases h.phase with hun | hinvalid | hbegun
  · refine Or.inl ⟨hun.idle, hun.invalid, hframe.behind hun.leftBehind, hun.rightBehind, ?_, hun.empty⟩
    intro hp
    have hslot : o.router.jobs .stop = b.left.jobs .stop := hleft.slot
    rw [left, hslot] at hp ⊢
    rw [hconfig]
    exact hun.own hp
  · exact Or.inr (Or.inl hinvalid)
  · refine Or.inr (Or.inr ⟨hbegun.begun, hbegun.valid, hbegun.times, hleft.inhibited hbegun.leftShut,
      hbegun.rightShut, ?_, ?_, hbegun.left.undisturbed rfl hwritten hleft, hbegun.right⟩)
    · rw [left, hleft.same.token]
      exact hbegun.behind
    · rw [left, hleft.same.completed, hwritten]
      exact hbegun.noted

variable {r : Router}

theorem Kept.rightSame (h : Kept ids b) (hright : Undisturbed b.right r) :
    Kept ids { b with right := r } := by
  have hframe : Frame b.right r := .of_same hright.same hright.bytes
  refine ⟨⟨h.sound.configured, h.sound.budget, h.sound.leftTimed,
    hright.timed h.sound.rightTimed⟩, ?_⟩
  rcases h.phase with hun | hinvalid | hbegun
  · refine Or.inl ⟨hun.idle, hun.invalid, hun.leftBehind, hframe.behind hun.rightBehind, hun.own, ?_⟩
    rw [hright.slot]
    exact hun.empty
  · exact Or.inr (Or.inl hinvalid)
  · exact Or.inr (Or.inr ⟨hbegun.begun, hbegun.valid, hbegun.times, hbegun.leftShut,
      hright.inhibited hbegun.rightShut, hbegun.behind, hbegun.noted,
      hbegun.left.undisturbed rfl rfl (.refl _), hright.bound hbegun.right⟩)

theorem Kept.same (h : Kept ids b) (side : BusSide) (hr : Undisturbed (b.router side) r) :
    Kept ids (b.withRouter r side) := by
  cases side with
  | left => exact h.leftSame rfl rfl rfl hr
  | right => exact h.rightSame hr

/-! ## 5. The right bus -/

theorem Begun.withRight (h : Begun ids b) (hshut : r.inhibited = true)
    (hbound : r.Bound 0 b.stop.rightHoldAfterToken (holdPacket b.stop.rightPositions)) :
    Begun ids { b with right := r } :=
  ⟨h.begun, h.valid, h.times, h.leftShut, hshut, h.behind, h.noted,
    h.left.undisturbed rfl rfl (.refl _), hbound⟩

theorem Kept.rightCall (h : Kept ids b) {c : Call} (hresumes : b.right.resumes c = false)
    (hempty : (b.right.jobs .stop).pending = false → ((b.right.call c).jobs .stop).pending = false)
    (hbound : Begun ids b → (b.right.call c).Bound 0 b.stop.rightHoldAfterToken
      (holdPacket b.stop.rightPositions)) :
    Kept ids { b with right := b.right.call c } := by
  refine ⟨⟨h.sound.configured, h.sound.budget, h.sound.leftTimed, h.sound.rightTimed.call c⟩, ?_⟩
  rcases h.phase with hun | hinvalid | hbegun
  · exact Or.inl ⟨hun.idle, hun.invalid, hun.leftBehind, hun.rightBehind.call c, hun.own,
      hempty hun.empty⟩
  · exact Or.inr (Or.inl hinvalid)
  · exact Or.inr (Or.inr
      (hbegun.withRight (call_inhibited hbegun.rightShut hresumes) (hbound hbegun)))

variable {now : Tick}

theorem Kept.rightHandOut (h : Kept ids b) {available : Tick}
    (hspares : Spares b (.handOut .right now available)) :
    Kept ids { b with right := (b.right.next now available).1 } := by
  refine h.rightCall (c := .next now available) rfl ?_ ?_
  · intro hempty
    by_contra hp
    rw [Bool.not_eq_false] at hp
    rw [call, next_slot hp, hempty] at hp
    cases hp
  · intro hbegun
    exact hbegun.right.next hbegun.rightShut (hspares hbegun.valid)

theorem complete_slot (r : Router) (token now : Tick) (ok : Bool) :
    (r.complete token now ok).1.jobs = r.jobs := by
  rcases r.complete_cases token now ok with heq | ⟨-, -, -, -, heq⟩ | ⟨-, -, -, -, heq⟩ <;> rw [heq]
  rfl

theorem recover_slot (r : Router) (idle : Bool) : (r.recover idle).1.jobs = r.jobs := by
  rcases r.recover_cases idle with heq | ⟨-, heq⟩ <;> rw [heq]

theorem Kept.rightComplete (h : Kept ids b) (token now : Tick) (ok : Bool) :
    Kept ids { b with right := (b.right.complete token now ok).1 } := by
  refine h.rightCall (c := .complete token now ok) rfl ?_ fun hbegun => hbegun.right.complete _ _ _
  rw [call, complete_slot]
  exact id

theorem Kept.rightRecover (h : Kept ids b) {idle : Bool} (hspares : Spares b (.recover .right idle)) :
    Kept ids { b with right := (b.right.recover idle).1 } := by
  refine h.rightCall (c := .recover idle) rfl ?_ fun hbegun =>
    hbegun.right.recover idle (hspares hbegun.valid)
  rw [call, recover_slot]
  exact id

/-! ## 6. The left bus -/

theorem Kept.leftCall (h : Kept ids b) {c : Call} (hresumes : b.left.resumes c = false)
    (hconfigured : o.configured = b.output.configured) (hconfig : o.config = b.output.config)
    (hrouter : o.router = b.left.call c)
    (hslot : ((b.left.call c).jobs .stop).pending = true → (b.left.call c).jobs .stop = b.left.jobs .stop)
    (hnoted : Begun ids b → b.stop.leftZeroAfterToken < (b.left.call c).completed.token → (b.left.call c).completed.kind = .stop → (b.left.call c).completed.bytes = zeroBytes ids → o.stopWritten = true)
    (htoken : b.left.bus.token ≤ (b.left.call c).bus.token)
    (hphase : Begun ids b → LeftPhase ids { b with output := o }) :
    Kept ids { b with output := o } := by
  refine ⟨⟨hconfigured.trans h.sound.configured, ?_, ?_, h.sound.rightTimed⟩, ?_⟩
  · rw [hconfig]
    exact h.sound.budget
  · rw [left, hrouter]
    exact h.sound.leftTimed.call c
  rcases h.phase with hun | hinvalid | hbegun
  · refine Or.inl ⟨hun.idle, hun.invalid, ?_, hun.rightBehind, ?_, hun.empty⟩
    · rw [left, hrouter]
      exact hun.leftBehind.call c
    · rw [left, hrouter, hconfig]
      intro hp
      have hsame := hslot hp
      rw [hsame] at hp ⊢
      exact hun.own hp
  · exact Or.inr (Or.inl hinvalid)
  · refine Or.inr (Or.inr ⟨hbegun.begun, hbegun.valid, hbegun.times, ?_, hbegun.rightShut, ?_, ?_,
      hphase hbegun, hbegun.right⟩)
    · rw [left, hrouter]
      exact call_inhibited hbegun.leftShut hresumes
    · rw [left, hrouter]
      exact BitVec.le_trans hbegun.behind htoken
    · rw [left, hrouter]
      exact hnoted hbegun

/-- **A hand-out on the left bus.**  The scan that finds the zero late leaves it to the output. -/
theorem Kept.leftHandOut (h : Kept ids b) {available : Tick}
    (hspares : Spares b (.handOut .left now available)) :
    Kept ids { b with output := { b.output with router := (b.left.next now available).1 } } := by
  refine h.leftCall (c := .next now available) rfl rfl rfl rfl next_slot ?_
    (next_token _ now available) ?_
  · intro hbegun
    rw [call, next_completed]
    exact hbegun.noted
  intro hbegun
  by_cases hlapses : b.left.Lapses now
  · have hunwritten := hspares hbegun.valid hlapses
    have hexpired := @next_of_lapses _ _ available hbegun.leftShut hlapses
    obtain ⟨hidle, -, hlate⟩ := hlapses
    cases hbegun.left with
    | zero unqueued bound =>
      refine .owed unqueued hunwritten ?_ ?_ ?_
      · rw [left, hexpired]
        simp [expire, drop]
      · rw [left, hexpired]
        simp [expire, SharedBus.requestStop, hidle]
      · rw [left, hexpired]
        simp only [Job.expired, Bool.and_eq_true] at hlate
        exact bound.room hlate.1
    | owed unqueued unwritten empty quiet room =>
      simp [Job.expired, empty] at hlate
    | hold queued written bound =>
      rw [written] at hunwritten
      cases hunwritten
  · cases hbegun.left with
    | zero unqueued bound => exact .zero unqueued (bound.next hbegun.leftShut hlapses)
    | owed unqueued unwritten empty quiet room =>
      have howed : LeftPhase ids b := .owed unqueued unwritten empty quiet room
      exact howed.undisturbed rfl rfl (next_of_empty hbegun.leftShut empty)
    | hold queued written bound => exact .hold queued written (bound.next hbegun.leftShut hlapses)

/-- A recovery of the left bus: what waits is kept, and the zero that was in flight is owed. -/
theorem Kept.leftRecover (h : Kept ids b) {idle : Bool} (hspares : Spares b (.recover .left idle)) :
    Kept ids { b with output := { b.output with router := (b.left.recover idle).1 } } := by
  rcases b.left.recover_cases idle with heq | ⟨hfaulted, heq⟩
  · rw [heq]
    exact h
  refine h.leftCall (c := .recover idle) rfl rfl rfl rfl ?_ ?_ ?_ ?_
  · rw [call, heq]
    exact fun _ => rfl
  · rw [call, heq]
    exact Begun.noted
  · rw [call, heq]
    exact BitVec.le_refl _
  intro hbegun
  have hpending_or := hspares hbegun.valid hfaulted
  cases hpending : (b.left.jobs .stop).pending with
  | true =>
    cases hbegun.left with
    | zero unqueued bound => exact .zero unqueued (bound.recover idle fun _ => hpending)
    | owed unqueued unwritten empty quiet room =>
      rw [empty] at hpending
      cases hpending
    | hold queued written bound => exact .hold queued written (bound.recover idle fun _ => hpending)
  | false =>
    rw [hpending] at hpending_or
    obtain ⟨hunwritten, hroom⟩ := hpending_or.resolve_left Bool.false_ne_true
    have hunqueued : b.stop.leftHoldQueued = false := by
      cases hbegun.left with
      | zero unqueued bound => exact unqueued
      | owed unqueued unwritten empty quiet room => exact unqueued
      | hold queued written bound =>
        rw [written] at hunwritten
        cases hunwritten
    refine .owed hunqueued hunwritten ?_ ?_ ?_
    · rw [left, recover_slot]
      exact hpending
    · rw [left, heq]
      exact fun hbusy => Bool.false_ne_true hbusy.1
    · rw [left, heq]
      exact hroom

theorem completed_noted (hconfigured : o.configured = true)
    (hintact : (r.bus.poll now).faulted = false) (ms : Tick) :
    let done := { o with router := r.acknowledge now }.completed ids r.bus.owner ms
    done.configured = o.configured ∧ done.config = o.config ∧ done.router = r.acknowledge now ∧
      done.stopWritten = (MobileOutput.writesStop r.bus.owner r.activeBytes || o.stopWritten) := by
  have hguard : (!o.configured || (r.acknowledge now).bus.active ||
      (r.acknowledge now).bus.faulted || r.bus.owner != (r.acknowledge now).bus.owner) = false := by
    simp [acknowledge, hconfigured, hintact]
  unfold MobileOutput.completed
  rw [if_neg (by simpa using hguard)]
  exact ⟨rfl, rfl, rfl, rfl⟩

theorem writesStop_zero (ids : MobileIds) :
    MobileOutput.writesStop .stop (zeroBytes ids) = true := rfl

/-- **A completion on the left bus**, of which the output notes a zero. -/
theorem Kept.leftComplete (h : Kept ids b) (token now : Tick) (ok : Bool) (ms : Tick) :
    Kept ids (b.step ids (.complete .left token now ok ms)) := by
  rcases b.left.complete_outcome token now ok with ⟨hsame, hrefused⟩ | ⟨hactive, hintact, heq⟩
  · have hstep : b.step ids (.complete .left token now ok ms) =
        b.withRouter (b.left.complete token now ok).1 .left := by
      simp only [step, router, hrefused, Bool.false_eq_true, if_false]
    rw [hstep]
    exact h.same .left hsame
  obtain ⟨hconfigured, hconfig, hrouter, hwritten⟩ :=
    completed_noted h.sound.configured hintact ms
  have hstep : b.step ids (.complete .left token now ok ms) = { b with
      output := { b.output with router := b.left.acknowledge now }.completed ids b.left.bus.owner
        ms } := by
    have howner : (b.left.acknowledge now).bus.owner = b.left.bus.owner :=
      SharedBus.poll_owner _ _
    simp only [step, router, heq, if_true]
    exact congrArg (fun owner => { b with
      output := { b.output with router := b.left.acknowledge now }.completed ids owner ms }) howner
  rw [hstep]
  generalize MobileOutput.completed ids { b.output with router := b.left.acknowledge now }
    b.left.bus.owner ms = done at hconfigured hconfig hrouter hwritten ⊢
  have hcall : b.left.call (.complete token now ok) = b.left.acknowledge now := by
    rw [call, heq]
  refine h.leftCall (c := .complete token now ok) rfl hconfigured hconfig
    (hrouter.trans hcall.symm) ?_ ?_ ?_ ?_
  · rw [hcall]
    exact fun _ => rfl
  · rw [hcall]
    intro _ _ hkind hbytes
    have howner : b.left.bus.owner = .stop := hkind
    have hflight : b.left.activeBytes = zeroBytes ids := hbytes
    rw [hwritten, howner, hflight, writesStop_zero, Bool.true_or]
  · rw [hcall]
    simp [acknowledge]
  intro hbegun
  cases hbegun.left with
  | zero unqueued bound =>
    refine .zero unqueued ?_
    rw [left, hrouter]
    exact bound.acknowledge hactive hintact
  | owed unqueued unwritten empty quiet room =>
    have howner : b.left.bus.owner ≠ .stop := fun howner => quiet ⟨hactive, howner⟩
    refine .owed unqueued ?_ ?_ ?_ ?_
    · rw [hwritten, unwritten, Bool.or_false, MobileOutput.writesStop]
      simp [howner]
    · rw [left, hrouter]
      exact empty
    · rw [left, hrouter]
      exact fun hbusy => Bool.false_ne_true hbusy.1
    · rw [left, hrouter]
      exact room.acknowledge now
  | hold queued written bound =>
    refine .hold queued ?_ ?_
    · rw [hwritten, written, Bool.or_true]
    · rw [left, hrouter]
      exact bound.acknowledge hactive hintact

/-! ## 7. Polls of the output -/

theorem Sound.placed (h : Sound b) (ho : MobileOutput.Placed ids b.output o) :
    Sound { b with output := o } := by
  refine ⟨ho.configured.trans h.configured, ?_, ?_, h.rightTimed⟩
  · rw [ho.config]
    exact h.budget
  · intro hactive
    have hsame : o.router.bus.active = b.left.bus.active := ho.same.active
    have hbudget : o.router.bus.budgetUs = b.left.bus.budgetUs := ho.same.budgetUs
    rw [left, hbudget]
    exact h.leftTimed (hsame ▸ hactive)

theorem Unbegun.placed (h : Unbegun ids b) (ho : MobileOutput.Placed ids b.output o) :
    Unbegun ids { b with output := o } := by
  have hframe : Frame b.left o.router := .of_same ho.same ho.bytes
  refine ⟨h.idle, h.invalid, hframe.behind h.leftBehind, h.rightBehind, ?_, h.empty⟩
  intro hp
  rcases ho.slot hp with hsame | hzero
  · have hslot : o.router.jobs .stop = b.left.jobs .stop := hsame
    rw [left, hslot] at hp ⊢
    rw [ho.config]
    exact h.own hp
  · rw [ho.config]
    exact hzero

variable {config : MobileOutputConfig}

theorem waiting_ownZero (hbudget : MobileOutput.StopBudget config)
    (h : MobileOutput.OwnZero ids config (r.jobs .stop)) :
    r.Waiting (zeroBytes ids) := by
  have hwithin := hbudget.within
  have hshort := hbudget.short
  refine ⟨h.pending, h.bytes, ?_, ?_⟩
  · rw [h.budget]
    exact hbudget.positive
  · rw [h.budget]
    omega

/-- A bus that is faulted, or faults over the poll, has its slot emptied. -/
theorem stuck_polled (h : MobileOutput.PolledShut ids b.output now o)
    (hempty : (o.router.jobs .stop).pending = false)
    (hfaulted : (b.left.bus.poll now).faulted = true) : o.router.Stuck :=
  ⟨h.faulted.trans hfaulted, hempty⟩

variable {epoch : Tick}

/-- **A poll of the output** keeps a packet that is bound, or queues the zero again. -/
theorem Begun.outputPoll (h : Begun ids b) (hsound : Sound b) {nowMs : Tick}
    (hspares : Spares b (.outputPoll now nowMs epoch)) :
    Begun ids { b with output := b.output.poll ids now nowMs epoch } := by
  have hpolled := @MobileOutput.poll_inhibited ids _ hsound.configured hsound.budget
    h.leftShut now nowMs epoch
  generalize b.output.poll ids now nowMs epoch = o at hpolled ⊢
  have htoken : o.router.bus.token = b.left.bus.token := hpolled.same.token
  have hsame : o.router.jobs .stop = b.left.jobs .stop → Undisturbed b.left o.router :=
    fun hslot => ⟨hpolled.same, hpolled.bytes, hslot, fun _ => hpolled.inhibited⟩
  have hkept : o.router.jobs .stop = b.left.jobs .stop → LeftPhase ids { b with output := o } :=
    fun hslot => h.left.undisturbed rfl hpolled.written (hsame hslot)
  refine ⟨h.begun, h.valid, h.times, hpolled.inhibited, h.rightShut, ?_, ?_, ?_, h.right⟩
  · rw [StopBoard.left, htoken]
    exact h.behind
  · rw [StopBoard.left, hpolled.same.completed, hpolled.written]
    exact h.noted
  cases hpolled.slot with
  | kept pending fresh same => exact hkept same
  | filled gone unwritten quiet intact zero =>
    have hwaiting : o.router.Waiting (zeroBytes ids) :=
      waiting_ownZero hsound.budget zero
    have hzero : b.stop.leftHoldQueued = false → b.left.Room 2 →
        LeftPhase ids { b with output := o } := by
      intro unqueued room
      refine .zero unqueued (.delivery (.waiting hwaiting ?_ ?_))
      · rw [StopBoard.left, htoken]
        exact h.behind
      · rw [StopBoard.left, Room, htoken]
        exact room
    cases h.left with
    | zero unqueued bound =>
      rcases bound with hstuck | ⟨-, -, hroom⟩ | ⟨hflying, -⟩ | ⟨hlanded, -⟩
      · have hfaulted : (b.left.bus.poll now).faulted = true :=
          SharedBus.poll_faulted hstuck.faulted
        exact absurd (hfaulted.symm.trans intact) (by decide)
      · exact hzero unqueued hroom
      · exact absurd ⟨hflying.active, hflying.owner⟩ quiet
      · have hwritten := h.noted hlanded.ahead hlanded.kind hlanded.bytes
        rw [unwritten] at hwritten
        cases hwritten
    | owed unqueued _ empty _ room => exact hzero unqueued room
    | hold queued written bound =>
      rw [unwritten] at written
      cases written
  | empty gone empty same why =>
    cases hpending : (b.left.jobs .stop).pending with
    | false => exact hkept (same hpending)
    | true =>
      have hexpired := gone hpending
      cases hfaulted : (b.left.bus.poll now).faulted with
      | true =>
        have hstuck := stuck_polled hpolled empty hfaulted
        cases h.left with
        | zero unqueued bound => exact .zero unqueued (.stuck hstuck)
        | owed unqueued unwritten hnone quiet room =>
          rw [hnone] at hpending
          cases hpending
        | hold queued written bound =>
          exact .hold queued (hpolled.written.trans written) (.stuck hstuck)
      | false =>
        obtain ⟨hunwritten, hquiet⟩ := hspares h.valid hexpired hfaulted
        rcases why with hwritten | hbusy | hfault
        · rw [hunwritten] at hwritten
          cases hwritten
        · exact absurd hbusy hquiet
        · exact absurd (hfault.symm.trans hfaulted) (by decide)

theorem Kept.outputPoll (h : Kept ids b) {nowMs : Tick}
    (hspares : Spares b (.outputPoll now nowMs epoch)) :
    Kept ids { b with output := b.output.poll ids now nowMs epoch } := by
  have hplaced := (MobileOutput.placed_driven ids).poll b.output now nowMs epoch
  refine ⟨h.sound.placed hplaced, ?_⟩
  rcases h.phase with hun | hinvalid | hbegun
  · exact Or.inl (hun.placed hplaced)
  · exact Or.inr (Or.inl hinvalid)
  · exact Or.inr (Or.inr (hbegun.outputPoll h.sound hspares))

/-! ## 8. Polls of the stop -/

theorem holdPacket_length (positions : ArmPositions) :
    (holdPacket positions).length = 26 := by
  rw [holdPacket, ofFn_positions]
  rfl

theorem wellFormed_hold {stop : SystemStop} (h : StopTimes stop) (positions : ArmPositions)
    (now : Tick) : wellFormed (holdPacket positions) now
      (now + stop.config.jobLifetimeUs) stop.config.holdBudgetUs = true := by
  refine MobileOutput.wellFormed_lifetime ?_ h.positive h.within h.short
  rw [holdPacket_length]
  decide

theorem receipted_iff {after : Tick} {bytes : List Byte} {ε : Type} :
    receipted r after (.ok bytes : Except ε (List Byte)) = true ↔
      r.bus.active = false ∧ r.bus.faulted = false ∧ after < r.completed.token ∧
        r.completed.kind = .stop ∧ r.completed.bytes = bytes := by
  simp [receipted, and_assoc]

theorem bound_submitted {r : Router} {spare : Nat} {after now deadline budget : Tick}
    {bytes : List Byte} (hbehind : after ≤ r.bus.token) (hroom : r.Room (spare + 1))
    (hwell : wellFormed bytes now deadline budget = true) (hpositive : budget ≠ 0)
    (hsmall : budget.toNat + 1 < 2 ^ 31)
    (hqueued : (r.jobs .stop).pending = true → r.Waiting bytes) :
    (r.submitWork .stop bytes now deadline budget).1.Bound spare after bytes := by
  rcases MobileOutput.submitStop_cases r bytes now deadline budget with
    ⟨-, -, hrefused⟩ | ⟨-, heq⟩
  · obtain ⟨hfaulted, heq⟩ := hrefused hwell
    rw [heq]
    cases hpending : (r.jobs .stop).pending with
    | true =>
      exact (Undisturbed.poll r now).bound
        (.delivery (.waiting (hqueued hpending) hbehind hroom))
    | false => exact .stuck ⟨hfaulted, hpending⟩
  · rw [heq]
    have hsame := MobileOutput.sameTransaction_fill r bytes now deadline budget
    refine .delivery (.waiting ⟨?_, ?_, ?_, ?_⟩ ?_ ?_)
    · simp [fill]
    · simp [fill]
    · simpa [fill] using hpositive
    · simpa [fill] using hsmall
    · rw [hsame.token]
      exact hbehind
    · rw [Room, hsame.token]
      exact hroom

/-- **The zero was written**: where the hold of the left arm is due, the zero has landed. -/
theorem Begun.landed_of_due (h : Begun ids b) (hdue : holdDue ids b.system = true) :
    b.left.Landed b.stop.leftZeroAfterToken (zeroBytes ids) ∧ b.left.Room 1 ∧
      b.output.stopWritten = true := by
  simp only [holdDue, zeroPacket_eq, Bool.and_eq_true, Bool.not_eq_true']
    at hdue
  obtain ⟨⟨⟨-, hunqueued⟩, hempty⟩, hreceipt⟩ := hdue
  obtain ⟨hidle, hintact, hahead, hkind, hbytes⟩ := receipted_iff.mp hreceipt
  have hwritten : b.output.stopWritten = true := h.noted hahead hkind hbytes
  cases h.left with
  | zero unqueued bound =>
    rcases bound with hstuck | ⟨hwaiting, -, -⟩ | ⟨hflying, -⟩ | ⟨hlanded, hroom⟩
    · exact absurd (hstuck.faulted.symm.trans hintact) (by decide)
    · exact absurd (hwaiting.pending.symm.trans hempty) (by decide)
    · exact absurd (hflying.active.symm.trans hidle) (by decide)
    · exact ⟨hlanded, hroom, hwritten⟩
  | owed unqueued unwritten =>
    rw [unwritten] at hwritten
    cases hwritten
  | hold queued =>
    exact absurd (queued.symm.trans hunqueued) (by decide)

/-- The poll that queues the hold of the left arm. -/
def holdQueued (w : StopSystem) (nowUs : Tick) : StopSystem :=
  { w with
    stop := { w.stop with leftHoldAfterToken := w.left.bus.token, leftHoldQueued := true }
    left := (w.left.poll nowUs).inhibit.flush.requestStop.fill .stop
      (holdPacket w.stop.leftPositions) (nowUs + w.stop.config.jobLifetimeUs)
      w.stop.config.holdBudgetUs }

theorem Begun.queueLeftHold_of_due (h : Begun ids b)
    (hdue : holdDue ids b.system = true) (now : Tick) :
    queueLeftHold ids b.system now = holdQueued b.system now := by
  obtain ⟨hlanded, -, -⟩ := h.landed_of_due hdue
  unfold queueLeftHold
  rw [if_pos hdue, leftHold_eq]
  dsimp only
  rcases MobileOutput.submitStop_cases b.left (holdPacket b.stop.leftPositions) now
    (now + b.stop.config.jobLifetimeUs) b.stop.config.holdBudgetUs with ⟨-, -, hrefused⟩ | ⟨-, heq⟩
  · obtain ⟨hfaulted, -⟩ := hrefused (wellFormed_hold h.times _ now)
    rw [SharedBus.poll_of_idle hlanded.idle, hlanded.intact] at hfaulted
    cases hfaulted
  · have hsubmit : b.system.left.submitWork .stop
        (holdPacket b.system.stop.leftPositions) now
        (now + b.system.stop.config.jobLifetimeUs) b.system.stop.config.holdBudgetUs = _ := heq
    rw [hsubmit]
    rfl

theorem Begun.holdQueued (h : Begun ids b) (hdue : holdDue ids b.system = true)
    (now : Tick) : Begun ids (b.withSystem (holdQueued b.system now)) := by
  obtain ⟨hlanded, hroom, hwritten⟩ := h.landed_of_due hdue
  have hsame : SameTransaction b.left (StopBoard.holdQueued b.system now).left :=
    MobileOutput.sameTransaction_fill _ _ _ _ _
  have htimes := h.times
  have hwithin := htimes.within
  have hshort := htimes.short
  refine ⟨h.begun, h.valid, ⟨htimes.positive, htimes.within, htimes.short, htimes.age⟩, rfl,
    h.rightShut, ?_, ?_, .hold rfl hwritten (.delivery (.waiting ⟨?_, ?_, ?_, ?_⟩ ?_ ?_)), h.right⟩
  · have htoken : (b.withSystem (StopBoard.holdQueued b.system now)).left.bus.token =
        b.left.bus.token := hsame.token
    rw [htoken]
    exact h.behind
  · exact h.noted
  · simp [StopBoard.left, withSystem, StopBoard.holdQueued, fill]
  · simp [StopBoard.left, withSystem, StopBoard.holdQueued, fill, system]
  · simpa [StopBoard.left, withSystem, StopBoard.holdQueued, fill, system]
      using htimes.positive
  · have hbudget : ((b.withSystem (StopBoard.holdQueued b.system now)).left.jobs .stop).budgetUs =
        b.stop.config.holdBudgetUs := by
      simp [StopBoard.left, withSystem, StopBoard.holdQueued, fill, system]
    rw [hbudget]
    omega
  · have htoken : (b.withSystem (StopBoard.holdQueued b.system now)).left.bus.token =
        b.left.bus.token := hsame.token
    rw [htoken]
    exact BitVec.le_refl _
  · have htoken : (b.withSystem (StopBoard.holdQueued b.system now)).left.bus.token =
        b.left.bus.token := hsame.token
    rw [Room, htoken]
    exact hroom

/-- A stop with its verdict and its note of the time. -/
def judged (w : StopSystem) (state : SystemStopState) (noticed : Bool) (noticedMs : Tick) :
    StopSystem :=
  { w with
    stop := { w.stop with
      state := state, actionsCompleted := noticed, actionsCompletedMs := noticedMs } }

/-- **A poll of a begun stop** queues the hold if it is due, and for the rest only judges. -/
theorem pollTimed_judged {w : StopSystem} (hbegun : w.stop.state ≠ .idle) (proof : Option StopProof)
    (nowUs nowMs : Tick) : ∃ state noticed noticedMs, state ≠ .idle ∧
      pollTimed ids w proof nowUs nowMs =
        judged (queueLeftHold ids w nowUs) state noticed noticedMs := by
  have hstate : (queueLeftHold ids w nowUs).stop.state ≠ .idle := by
    rcases queueLeftHold_cases ids w nowUs with ⟨-, heq⟩ | ⟨-, left, ok, -, -, heq⟩ <;>
      rw [heq] <;> exact hbegun
  unfold pollTimed
  rw [if_neg hbegun]
  generalize queueLeftHold ids w nowUs = queued at hstate ⊢
  have hnoted : ∃ noticed noticedMs, noteWritten ids queued nowMs =
      judged queued queued.stop.state noticed noticedMs := by
    unfold noteWritten
    split
    · exact ⟨_, _, rfl⟩
    · exact ⟨_, _, rfl⟩
  obtain ⟨noticed, noticedMs, hnoted⟩ := hnoted
  rw [hnoted]
  obtain ⟨state, hjudge, -, hverdict⟩ :=
    judge_stop ids (judged queued queued.stop.state noticed noticedMs) proof nowMs
  refine ⟨state, noticed, noticedMs, ?_, hjudge⟩
  rcases hverdict with rfl | rfl | ⟨rfl, -⟩
  · nofun
  · nofun
  · exact hstate

theorem LeftPhase.judged {stop : SystemStop} {output : MobileOutput} {right right' : Router}
    (h : LeftPhase ids ⟨stop, output, right⟩) (state : SystemStopState) (noticed : Bool)
    (noticedMs : Tick) :
    LeftPhase ids ⟨{ stop with
      state := state, actionsCompleted := noticed, actionsCompletedMs := noticedMs }, output,
      right'⟩ := by
  cases h with
  | zero unqueued bound => exact .zero unqueued bound
  | owed unqueued unwritten empty quiet room => exact .owed unqueued unwritten empty quiet room
  | hold queued written bound => exact .hold queued written bound

theorem Begun.judged (h : Begun ids b) {state : SystemStopState} (hstate : state ≠ .idle)
    (noticed : Bool) (noticedMs : Tick) :
    Begun ids (b.withSystem (judged b.system state noticed noticedMs)) := by
  obtain ⟨-, hvalid, htimes, hleftShut, hrightShut, hbehind, hnoted, hleft, hright⟩ := h
  exact ⟨hstate, hvalid, ⟨htimes.positive, htimes.within, htimes.short, htimes.age⟩, hleftShut,
    hrightShut, hbehind, hnoted, hleft.judged state noticed noticedMs, hright⟩

theorem Kept.stopPoll (h : Kept ids b) (proof : Option StopProof) (nowUs nowMs : Tick) :
    Kept ids (b.withSystem (b.system.pollTimed ids proof nowUs nowMs)) := by
  by_cases hidle : b.stop.state = .idle
  · have hnothing : b.system.pollTimed ids proof nowUs nowMs = b.system := if_pos hidle
    rw [hnothing]
    exact h
  have hbegun : b.system.stop.state ≠ .idle := hidle
  obtain ⟨state, noticed, noticedMs, hstate, heq⟩ :=
    pollTimed_judged hbegun proof nowUs nowMs
  rw [heq]
  have hnotDue : holdDue ids b.system = false →
      queueLeftHold ids b.system nowUs = b.system := by
    intro hdue
    rw [queueLeftHold, if_neg (by simp [hdue])]
  rcases h.phase with hun | ⟨-, hinvalid⟩ | hstop
  · exact absurd hun.idle hidle
  · have hdue : holdDue ids b.system = false := by
      have hflag : b.system.stop.armFeedbackValid = false := hinvalid
      simp [holdDue, hflag]
    rw [hnotDue hdue]
    exact ⟨⟨h.sound.configured, h.sound.budget, h.sound.leftTimed, h.sound.rightTimed⟩,
      Or.inr (Or.inl ⟨hstate, hinvalid⟩)⟩
  · cases hdue : holdDue ids b.system with
    | false =>
      rw [hnotDue hdue]
      exact ⟨⟨h.sound.configured, h.sound.budget, h.sound.leftTimed, h.sound.rightTimed⟩,
        Or.inr (Or.inr (hstop.judged hstate noticed noticedMs))⟩
    | true =>
      rw [hstop.queueLeftHold_of_due hdue]
      have hsame : SameTransaction b.left (holdQueued b.system nowUs).left :=
        MobileOutput.sameTransaction_fill _ _ _ _ _
      refine ⟨⟨h.sound.configured, h.sound.budget, ?_, h.sound.rightTimed⟩, Or.inr (Or.inr ?_)⟩
      · intro hactive
        have hbudget : (holdQueued b.system nowUs).left.bus.budgetUs = b.left.bus.budgetUs :=
          hsame.budgetUs
        have hlive : b.left.bus.active = true := hsame.active.symm.trans hactive
        exact fun hzero => h.sound.leftTimed hlive (hbudget.symm.trans hzero)
      · exact (hstop.holdQueued hdue nowUs).judged hstate noticed noticedMs

/-! ## 9. Beginning -/

theorem stopTimes_of_configOk {config : SystemStopConfig}
    (h : configOk config = true) :
    config.zeroBudgetUs ≠ 0 ∧ config.zeroBudgetUs.toNat < config.jobLifetimeUs.toNat ∧
      config.holdBudgetUs ≠ 0 ∧ config.holdBudgetUs.toNat < config.jobLifetimeUs.toNat ∧
      config.jobLifetimeUs.toNat < 2 ^ 31 ∧ config.feedbackMaxAgeMs ≠ 0 := by
  simp only [configOk, Bool.not_eq_true', Bool.or_eq_false_iff, beq_eq_false_iff_ne,
    ne_eq, decide_eq_false_iff_not, BitVec.not_le, BitVec.lt_def] at h
  obtain ⟨⟨⟨⟨⟨⟨⟨⟨-, -⟩, hage⟩, -⟩, hzero⟩, hhold⟩, hshort⟩, hzeroFits⟩, hholdFits⟩ := h
  exact ⟨hzero, hzeroFits, hhold, hholdFits, hshort, hage⟩

/-- The router of a bus that a begin stops. -/
def halted (r : Router) : Router := r.inhibit.requestStop

theorem halted_undisturbed (r : Router) : Undisturbed r (halted r) :=
  (Undisturbed.inhibit r).trans (Undisturbed.requestStop _)

theorem submitted_inhibited (hi : r.inhibited = true) (bytes : List Byte)
    (now deadline budget : Tick) :
    (r.submitWork .stop bytes now deadline budget).1.inhibited = true := by
  rcases MobileOutput.submitStop_cases r bytes now deadline budget with ⟨hsame, -⟩ | ⟨-, heq⟩
  · exact hsame.inhibited hi
  · rw [heq]
    rfl

theorem submitted_same (r : Router) (bytes : List Byte) (now deadline budget : Tick) :
    SameTransaction r (r.submitWork .stop bytes now deadline budget).1 := by
  rcases MobileOutput.submitStop_cases r bytes now deadline budget with ⟨hsame, -⟩ | ⟨-, heq⟩
  · exact hsame.same
  · rw [heq]
    exact MobileOutput.sameTransaction_fill _ _ _ _ _

theorem timed_of_same {s : Router} (h : SameTransaction r s) (hr : r.Timed) : s.Timed := by
  rw [Timed, h.active, h.budgetUs]
  exact hr

/-- **A begin with valid positions** leaves all three packets bound. -/
theorem Kept.begin (h : Kept ids b) (leftPositions rightPositions : ArmPositions)
    (valid preserve : Bool) (nowUs nowMs : Tick) (config : SystemStopConfig)
    (hspares : Spares b (.begin leftPositions rightPositions valid preserve nowUs nowMs config)) :
    Kept ids (b.withSystem (b.system.beginTimed ids leftPositions rightPositions valid preserve
      nowUs nowMs config).1) := by
  by_cases hopens : b.stop.state = .idle ∧ configOk config = true
  swap
  · have hnothing := @beginTimed_refused config ids b.system hopens
      leftPositions rightPositions valid preserve nowUs nowMs
    rw [hnothing]
    exact h
  obtain ⟨hidle, hconfig⟩ := hopens
  obtain ⟨hzero, hzeroFits, hhold, hholdFits, hshort, hage⟩ := stopTimes_of_configOk hconfig
  have hun : Unbegun ids b := by
    rcases h.phase with hun | ⟨hbegun, -⟩ | hbegun
    · exact hun
    · exact absurd hidle hbegun
    · exact absurd hidle hbegun.begun
  have hqueue : queueZero ids b.system preserve nowUs nowMs config =
      (⟨b.system.opened preserve nowMs config,
        ((halted b.left).submitWork .stop (zeroBytes ids) nowUs
          (nowUs + config.jobLifetimeUs) config.zeroBudgetUs).1, halted b.right⟩,
        ((halted b.left).submitWork .stop (zeroBytes ids) nowUs
          (nowUs + config.jobLifetimeUs) config.zeroBudgetUs).2) := by
    rw [queueZero, zeroPacket_eq]
    rfl
  have hleftSame := submitted_same (halted b.left) (zeroBytes ids) nowUs
    (nowUs + config.jobLifetimeUs) config.zeroBudgetUs
  have hleft := (halted_undisturbed b.left).same.trans hleftSame
  have hleftTimed := timed_of_same hleft h.sound.leftTimed
  have hrightTimed := (halted_undisturbed b.right).timed h.sound.rightTimed
  unfold beginTimed
  rw [if_neg (by simp [system, hidle, hconfig]), hqueue]
  dsimp only
  split
  · exact ⟨⟨h.sound.configured, h.sound.budget, hleftTimed, hrightTimed⟩,
      Or.inr (Or.inl ⟨by rintro ⟨⟩, rfl⟩)⟩
  rename_i haccepted
  simp only [Bool.or_eq_true, Bool.not_eq_true', not_or, Bool.not_eq_false] at haccepted
  obtain ⟨⟨rfl, -⟩, -⟩ := haccepted
  obtain ⟨hleftRoom, hrightRoom⟩ := hspares hidle hconfig rfl
  have hwellZero : wellFormed (zeroBytes ids) nowUs
      (nowUs + config.jobLifetimeUs) config.zeroBudgetUs = true :=
    MobileOutput.wellFormed_lifetime (by rw [MobileOutput.zeroBytes_length]; decide) hzero
      hzeroFits hshort
  have hwellHold : wellFormed (holdPacket rightPositions) nowUs
      (nowUs + config.jobLifetimeUs) config.holdBudgetUs = true :=
    MobileOutput.wellFormed_lifetime (by rw [holdPacket_length]; decide) hhold hholdFits hshort
  have hleftBound := bound_submitted (r := halted b.left)
    (BitVec.le_refl _) hleftRoom hwellZero hzero (by omega) fun hp =>
      waiting_ownZero h.sound.budget (hun.own hp)
  have hrightBound := bound_submitted (r := halted b.right)
    (BitVec.le_refl _) hrightRoom hwellHold hhold (by omega)
    fun hp => absurd (hun.empty.symm.trans hp) (by decide)
  have hrightSame := timed_of_same (submitted_same (halted b.right)
    (holdPacket rightPositions) nowUs (nowUs + config.jobLifetimeUs)
    config.holdBudgetUs) hrightTimed
  have hshut : ∀ r : Router, (halted r).inhibited = true := fun _ => rfl
  unfold queueRightHold
  rw [rightHold_eq]
  dsimp only
  refine ⟨⟨h.sound.configured, h.sound.budget, hleftTimed, hrightSame⟩,
    Or.inr (Or.inr ⟨by rintro ⟨⟩, rfl, ⟨hhold, hholdFits, hshort, hage⟩,
      submitted_inhibited (hshut _) _ _ _ _, submitted_inhibited (hshut _) _ _ _ _, ?_, ?_,
      .zero rfl hleftBound, hrightBound⟩)⟩
  · exact BitVec.le_of_eq hleft.token.symm
  · intro hahead
    have hafter : b.left.bus.token < b.left.completed.token := by
      rw [← hleft.completed]
      exact hahead
    exact absurd hun.leftBehind (BitVec.not_le.mpr hafter)

/-- **Along events that spare them, the packets of a stop are kept.** -/
theorem Kept.step (h : Kept ids b) (e : BoardEvent) (hspares : Spares b e) :
    Kept ids (b.step ids e) := by
  cases e with
  | begin leftPositions rightPositions valid preserve nowUs nowMs config =>
    exact h.begin leftPositions rightPositions valid preserve nowUs nowMs config hspares
  | stopPoll proof nowUs nowMs => exact h.stopPoll proof nowUs nowMs
  | outputPoll nowUs nowMs epoch => exact h.outputPoll hspares
  | outputStop fault =>
    have hstill := MobileOutput.still_stop 0 b.output fault
    exact h.leftSame hstill.configured hstill.config hstill.written
      (MobileOutput.undisturbed_stop b.output fault)
  | bindLift =>
    rw [StopBoard.step, MobileOutput.bindLift]
    split
    · exact h
    · exact h.leftSame rfl rfl rfl (.refl _)
  | world supervisor endpoint => exact h.leftSame rfl rfl rfl (.refl _)
  | handOut side now available =>
    cases side with
    | left => exact h.leftHandOut hspares
    | right => exact h.rightHandOut hspares
  | complete side token now ok ms =>
    cases side with
    | left => exact h.leftComplete token now ok ms
    | right =>
      have hright := h.rightComplete token now ok
      cases hdone : (b.right.complete token now ok).2 with
      | false =>
        simp only [StopBoard.step, router, hdone, Bool.false_eq_true, if_false]
        exact hright
      | true =>
        simp only [StopBoard.step, router, hdone, if_true]
        exact hright
  | busPoll side now => exact h.same side (.poll _ now)
  | recover side idle =>
    cases side with
    | left => exact h.leftRecover hspares
    | right => exact h.rightRecover hspares
  | inhibit side => exact h.same side (.inhibit _)
  | fault side =>
    exact h.same side ((Undisturbed.inhibit _).trans (Undisturbed.faultStop _))

theorem kept_start {supervisor : MobileSupervisor} {endpoint : LiftEndpoint} {output : MobileOutput}
    (h : MobileOutput.init supervisor endpoint config epoch = some output) :
    Kept ids (start output) := by
  unfold MobileOutput.init at h
  split at h
  · cases h
  · rename_i hchecked
    simp only [Bool.or_eq_true, Bool.not_eq_true', not_or, Bool.not_eq_false] at hchecked
    rw [Option.map_eq_some_iff] at h
    obtain ⟨schedule, -, rfl⟩ := h
    exact ⟨⟨rfl, MobileOutput.stopBudget_of_configOk hchecked.2, nofun, nofun⟩,
      Or.inl ⟨rfl, rfl, behind_init, behind_init, nofun, rfl⟩⟩

end StopBoard

end MobileBimanual.Mobile
