/-
# What the lift was told

When the lift holds, or waits to, and its zero counts as sent, the last velocity packet it was
given is zero, and no other waits for the bus or is on it.

The flag is set at a completion and read later, and in between the output keeps queueing.  There
are two places where a velocity is queued for the lift and one where the flag is set, and at two
of the three the code does not look: a zero that was queued before a movement completes for the
hold after it, whatever waits behind it, and a refresh of the base's command passes the lift's
hold over.  `Careful` is what has to be so at these events; `zero_sent_truthful` is that nothing
else is needed, over every run.
-/
import MobileBimanual.Mobile.LiftWord

namespace MobileBimanual.Mobile

open MobileBimanual.Stream (Byte Tick writeU32Le)
open MobileBimanual.Wire (crc32c)
open MobileBimanual.Bus
open Machine MobileOutput

/-! ## 1. The system -/

/-- The output, with the lift, and the last velocity the bus was handed for the lift. -/
structure LiftSystem where
  output : MobileOutput
  delivered : Option Word

/-- A call of the controller. -/
inductive LiftAction where
  | poll (nowMs : Tick)
  | observe (feedback : LiftFeedback) (nowMs : Tick)
  | home (nowMs : Tick)
  | move (heightUm : Int) (nowMs : Tick)
  | cancel
  | reset
  | inhibit (reason : LiftFault)

def Lift.act (l : Lift) : LiftAction → Lift
  | .poll nowMs => l.poll nowMs
  | .observe feedback nowMs => (l.observe feedback nowMs).1
  | .home nowMs => (l.home nowMs).1
  | .move heightUm nowMs => (l.move heightUm nowMs).1
  | .cancel => l.cancel
  | .reset => l.reset
  | .inhibit reason => l.inhibit reason

/-- A call of the endpoint, or a write to the fields the board keeps in it. -/
inductive EndpointAction where
  | poll (nowMs : Tick)
  | exchange (packet : List Byte) (nowMs : Tick)
  | stop
  | interlock (interlock : LiftInterlock) (haveInterlock transportReady : Bool)

def LiftEndpoint.act (e : LiftEndpoint) : EndpointAction → LiftEndpoint
  | .poll nowMs => e.poll nowMs
  | .exchange packet nowMs => (e.exchange packet nowMs).1
  | .stop => e.stop
  | .interlock interlock haveInterlock transportReady =>
    { e with interlock, haveInterlock, transportReady }

/-- What can happen, with anything at all in the supervisor. -/
inductive LiftEvent (ids : MobileIds) where
  | poll (nowUs nowMs armEpochUs : Tick)
  | router (call : { call : Call // Foreign ids call })
  | completed (kind : Work) (completedMs : Tick)
  | stop (fault : OutputFault)
  | rearm (session epochUs nowMs : Tick) (wholeStopConfirmed : Bool)
  | bindLift
  | supervisor (supervisor : MobileSupervisor)
  | lift (action : LiftAction)
  | endpoint (action : EndpointAction)

/-- The lift hears the velocities that go out to it. -/
def hear (ids : MobileIds) (delivered : Option Word) : Option Handout → Option Word
  | none => delivered
  | some out => (liftWord ids out.bytes).or delivered

namespace LiftSystem

def step (ids : MobileIds) (s : LiftSystem) : LiftEvent ids → LiftSystem
  | .poll nowUs nowMs armEpochUs => { s with output := s.output.poll ids nowUs nowMs armEpochUs }
  | .router call =>
    { output := { s.output with router := s.output.router.call call }
      delivered := hear ids s.delivered (s.output.router.handout call) }
  | .completed kind completedMs => { s with output := s.output.completed ids kind completedMs }
  | .stop fault => { s with output := s.output.stop fault }
  | .rearm session epochUs nowMs confirmed =>
    { s with output := (s.output.rearm session epochUs nowMs confirmed).1 }
  | .bindLift => { s with output := s.output.bindLift.1 }
  | .supervisor supervisor => { s with output := { s.output with supervisor } }
  | .lift action =>
    { s with
      output :=
        { s.output with
          endpoint := { s.output.endpoint with lift := s.output.endpoint.lift.act action } } }
  | .endpoint action =>
    { s with output := { s.output with endpoint := s.output.endpoint.act action } }

/-- Where the zero of a hold counts as sent, the lift was told to stand still, and nothing else
waits or is on its way. -/
def Truthful (ids : MobileIds) (s : LiftSystem) : Prop :=
  s.output.endpoint.lift.Held → s.output.endpoint.lift.zeroSent = true →
    s.delivered = some 0 ∧
    ((s.output.router.jobs .lift).pending = true →
      Harmless ids (s.output.router.jobs .lift).bytes) ∧
    (s.output.router.bus.active = true → s.output.router.bus.owner = .lift →
      Harmless ids s.output.router.activeBytes)

end LiftSystem

/-! ## 2. Where the code does not look -/

namespace MobileOutput

/-- A poll that drives queues the base's own velocity for the lift. -/
def drivesTarget (o : MobileOutput) (window : Window) (nowMs : Tick) : Bool :=
  !o.liftActive && (!o.liftEngaged || o.liftHeld nowMs) &&
    (o.supervisor.state = .ready || o.supervisor.state = .active) && window.due .lift &&
    match o.commandLife nowMs with
    | none => false
    | some lifetime =>
      o.config.liftBudgetUs < lifetime &&
        (!window.due .wheels || o.config.wheelsBudgetUs < lifetime)

/-- So does a poll that neither finds the output stopped nor stops it. -/
def queuesTarget (o : MobileOutput) (nowUs nowMs armEpochUs : Tick) : Bool :=
  let (o, window) := o.inspect nowUs nowMs armEpochUs
  !o.stopRequested && o.drivesTarget window nowMs

/-- The completion is of a packet that counts as a zero. -/
def countsZero (ids : MobileIds) (o : MobileOutput) (kind : Work) : Bool :=
  o.configured && !o.router.bus.active && !o.router.bus.faulted && kind == o.router.bus.owner &&
    o.liftBound && sendsZero ids kind o.router.activeBytes

end MobileOutput

namespace LiftSystem

/-- What the code leaves to chance: that the base has no velocity for a lift that holds, and
that no other velocity waits behind the zero of a pending hold. -/
def Careful (ids : MobileIds) (s : LiftSystem) : LiftEvent ids → Prop
  | .poll nowUs nowMs armEpochUs =>
    s.output.queuesTarget nowUs nowMs armEpochUs = true → s.output.endpoint.lift.Held →
      s.output.endpoint.lift.zeroSent = true → s.output.supervisor.targetRaw liftAxis = 0
  | .completed kind _ =>
    s.output.countsZero ids kind = true → s.output.endpoint.lift.state = .holdPending →
      s.output.endpoint.lift.zeroSent = false → (s.output.router.jobs .lift).pending = true →
        Harmless ids (s.output.router.jobs .lift).bytes
  | _ => True

/-! ## 3. The invariant -/

/-- What a zero that counts as sent promises. -/
structure Told (ids : MobileIds) (delivered : Option Word) (r : Router) : Prop where
  last : delivered = some 0
  queued : (r.jobs .lift).pending = true → Harmless ids (r.jobs .lift).bytes

structure Inv (ids : MobileIds) (s : LiftSystem) : Prop where
  settled : Lift.Settled (Told ids s.delivered s.output.router) s.output.endpoint.lift
  /-- Only the lift's own class moves it. -/
  others : ∀ kind, kind ≠ .lift → (s.output.router.jobs kind).pending = true →
    Harmless ids (s.output.router.jobs kind).bytes
  /-- The packet handed out last was heard. -/
  heard : ∀ word, liftWord ids s.output.router.activeBytes = some word → s.delivered = some word
  flight : s.output.router.bus.owner ≠ .lift → Harmless ids s.output.router.activeBytes

variable {ids : MobileIds} {o o' : MobileOutput} {delivered : Option Word}

theorem Inv.truthful {s : LiftSystem} (h : Inv ids s) : Truthful ids s := by
  intro hheld hsent
  have htold := h.settled.sent hheld hsent
  refine ⟨htold.last, htold.queued, ?_⟩
  intro _ _ word hword
  have hheard := h.heard word hword
  rw [htold.last, Option.some_inj] at hheard
  exact hheard.symm

theorem Told.calm {r r' : Router} (h : Told ids delivered r) (hcalm : Calm ids r r') :
    Told ids delivered r' where
  last := h.last
  queued := by
    intro hp
    rcases hcalm.jobs .lift hp with heq | ⟨hne, -⟩
    · rw [heq] at hp ⊢
      exact h.queued hp
    · exact absurd rfl hne

/-- **What tells the lift nothing new keeps the invariant.** -/
theorem Inv.tame (h : Inv ids ⟨o, delivered⟩) (htame : Tame ids o o') :
    Inv ids ⟨o', delivered⟩ where
  settled := (htame.lift _ h.settled).mono fun htold => htold.calm htame.calm
  others := by
    intro kind hkind hp
    rcases htame.calm.jobs kind hp with heq | ⟨-, hnew⟩
    · dsimp only at hp ⊢
      rw [heq] at hp ⊢
      exact h.others kind hkind hp
    · exact hnew
  heard := by
    dsimp only
    rw [htame.calm.activeBytes]
    exact h.heard
  flight := by
    dsimp only
    rw [htame.calm.activeBytes, htame.calm.owner]
    exact h.flight

/-! ## 4. A poll -/

/-- A lift whose zero counts as sent is given no other velocity. -/
def Still (o : MobileOutput) (velocity : Int) : Prop :=
  o.endpoint.lift.Held → o.endpoint.lift.zeroSent = true → velocity = 0

/-- The lift's job is due, and the jobs fit their lifetime. -/
structure Queues (o : MobileOutput) (window : Window) (lifetimeUs : Tick) : Prop where
  due : window.due .lift = true
  wheels : window.due .wheels = true → o.config.wheelsBudgetUs < lifetimeUs
  budget : o.config.liftBudgetUs < lifetimeUs

/-- The base's command is taken, for so long. -/
structure Commands (o : MobileOutput) (nowMs lifetimeUs : Tick) : Prop where
  state : o.supervisor.state = .ready ∨ o.supervisor.state = .active
  life : o.commandLife nowMs = some lifetimeUs

/-- These are the polls that queue the base's velocity for the lift. -/
theorem drivesTarget_of {window : Window} {nowMs lifetimeUs : Tick} (hactive : o.liftActive = false)
    (hengaged : o.liftEngaged = true → o.liftHeld nowMs = true)
    (hcommand : Commands o nowMs lifetimeUs) (hqueues : Queues o window lifetimeUs) :
    o.drivesTarget window nowMs = true := by
  simp only [drivesTarget, hactive, hcommand.life, hqueues.due, hqueues.budget,
    Bool.and_eq_true, Bool.or_eq_true, Bool.not_eq_true', decide_eq_true_eq, and_true, true_and]
  refine ⟨⟨?_, hcommand.state⟩, ?_⟩
  · cases hcase : o.liftEngaged with
    | false => exact Or.inl rfl
    | true => exact Or.inr (hengaged hcase)
  · cases hcase : window.due .wheels with
    | false => exact Or.inl rfl
    | true => exact Or.inr (hqueues.wheels hcase)

namespace Inv

theorem fillLift (h : Inv ids ⟨o, delivered⟩) {packet : List Byte}
    (hstill : o.endpoint.lift.Held → o.endpoint.lift.zeroSent = true → Harmless ids packet)
    (now deadline budget : Tick) :
    Inv ids ⟨{ o with router := (o.router.poll now).fill .lift packet deadline budget },
      delivered⟩ where
  settled := by
    refine ⟨h.settled.still, ?_⟩
    intro hheld hsent
    refine ⟨(h.settled.sent hheld hsent).last, ?_⟩
    intro _
    simpa [Router.fill] using hstill hheld hsent
  others := by
    intro kind hkind
    simpa [Router.fill, Function.update_of_ne hkind] using h.others kind hkind
  heard := h.heard
  flight := by
    intro howner
    refine h.flight ?_
    simpa [Router.fill] using howner

theorem queueLift (h : Inv ids ⟨o, delivered⟩) {velocity : Int} {budget lifetime : Tick}
    (hstill : budget < lifetime → Still o velocity) (now : Tick) :
    Inv ids ⟨(queueJob ids o ⟨.lift, .lift, [velocity], budget⟩ lifetime now).1,
      delivered⟩ := by
  rcases queueJob_cases ids o ⟨.lift, .lift, [velocity], budget⟩ (by simp) lifetime now
    with ⟨-, htame⟩ | ⟨packet, hbudget, hpacket, heq⟩
  · exact h.tame htame
  · rw [heq]
    refine h.fillLift ?_ now _ _
    intro hheld hsent
    exact harmless_of_still (hstill hbudget hheld hsent) hpacket

/-- The two velocity jobs of a poll. -/
theorem queueDue (h : Inv ids ⟨o, delivered⟩) {window : Window} {lifting : Bool} {lifetime : Tick}
    (hstill : Queues o window lifetime → Still o (o.motorVelocity lifting liftAxis)) (now : Tick) :
    Inv ids ⟨queueDue ids o window lifting lifetime now, delivered⟩ := by
  have hwheels := Tame.queueWheels ids o lifting lifetime now
  unfold MobileOutput.queueDue
  dsimp only
  split_ifs with hdue hboth hlift
  · rw [Bool.and_eq_true] at hboth
    obtain ⟨hbudget, hendpoint⟩ := queueJob_go (by simp [wheelsJob]) hboth.1
    refine (h.tame hwheels).queueLift ?_ now
    intro hfits
    rw [Still, hendpoint]
    exact hstill ⟨hboth.2, fun _ => hbudget, hfits⟩
  · exact h.tame hwheels
  · exact h.queueLift (fun hfits => hstill ⟨hlift, fun hw => absurd hw hdue, hfits⟩) now
  · exact h

/-- The end of a poll that drives. -/
theorem command (h : Inv ids ⟨o, delivered⟩) {window : Window} {lifting : Bool} {nowMs : Tick}
    (hstill : ∀ lifetime, (lifting = false → Commands o nowMs lifetime) →
      Queues o window lifetime → Still o (o.motorVelocity lifting liftAxis)) (nowUs : Tick) :
    Inv ids ⟨command ids o window lifting nowUs nowMs, delivered⟩ := by
  unfold MobileOutput.command
  split
  · exact h
  rename_i hstate
  split
  · exact h.tame (.halt o .commandExpiring nowUs)
  · rename_i lifetime hlife
    refine h.queueDue (hstill lifetime ?_) nowUs
    rintro rfl
    constructor
    · simpa [or_iff_not_imp_left] using hstate
    · simpa [leaseLife] using hlife

theorem lead (h : Inv ids ⟨o, delivered⟩) {window : Window} {nowMs : Tick}
    (hstill : o.liftActive = false → ∀ lifetime, Commands o nowMs lifetime →
      Queues o window lifetime → Still o (o.supervisor.targetRaw liftAxis)) (nowUs : Tick) :
    Inv ids ⟨lead ids o window nowUs nowMs, delivered⟩ := by
  have hpoll : Tame ids o { o with liftEngaged := true, endpoint := o.endpoint.poll nowMs } :=
    ⟨.refl _, fun truth hl => (LiftEndpoint.keeps_settled truth).endpointPoll hl nowMs⟩
  have hpolled := h.tame hpoll
  unfold MobileOutput.lead
  dsimp only
  split_ifs with hactive hends
  · exact hpolled.tame (.halt _ .transport nowUs)
  · refine hpolled.command ?_ nowUs
    intro _ _ _ hheld _
    have hcommand := hpolled.settled.still hheld
    dsimp only at hcommand
    simp [motorVelocity, hcommand]
  · refine h.command ?_ nowUs
    intro lifetime hcommands hqueues hheld hsent
    rw [Bool.not_eq_true] at hactive
    have htarget := hstill hactive lifetime (hcommands rfl) hqueues hheld hsent
    simp [motorVelocity, htarget]

theorem drive (h : Inv ids ⟨o, delivered⟩) {window : Window} {nowMs : Tick}
    (hstill : o.drivesTarget window nowMs = true → Still o (o.supervisor.targetRaw liftAxis))
    (nowUs : Tick) : Inv ids ⟨drive ids o window nowUs nowMs, delivered⟩ := by
  have hready : Tame ids o
      { o with availableUs := window.availableUs, feedbackDue := window.due .feedback } :=
    .of_calm (.refl _) rfl
  unfold MobileOutput.drive
  dsimp only
  split_ifs with hleft hheld
  · refine ((h.tame hready).tame (.disengage _)).lead ?_ nowUs
    intro hactive lifetime hcommand hqueues
    exact hstill (drivesTarget_of hactive (fun _ => hheld) ⟨hcommand.state, hcommand.life⟩
      ⟨hqueues.due, hqueues.wheels, hqueues.budget⟩)
  · exact (h.tame hready).tame (.halt _ .ok nowUs)
  · refine (h.tame hready).lead ?_ nowUs
    intro hactive lifetime hcommand hqueues
    have hnot : o.liftEngaged ≠ true := by
      intro hengaged
      exact hleft (by rw [Bool.and_eq_true, Bool.not_eq_true']; exact ⟨hengaged, hactive⟩)
    exact hstill (drivesTarget_of hactive (fun hengaged => absurd hengaged hnot)
      ⟨hcommand.state, hcommand.life⟩ ⟨hqueues.due, hqueues.wheels, hqueues.budget⟩)

/-- An inspection gives the base no velocity. -/
theorem kept_target : Kept fun o o' =>
    ∀ axis, o.supervisor.targetRaw axis = 0 → o'.supervisor.targetRaw axis = 0 where
  refl _ _ := id
  trans h h' axis := h' axis ∘ h axis
  stop := by
    intro o fault axis h
    have hstop : o.supervisor.stop.targetRaw axis = 0 := by
      unfold MobileSupervisor.stop
      split
      · rfl
      · exact h
    unfold stop
    split
    · exact h
    · exact hstop
  drop _ _ _ _ := id
  schedule _ _ _ := id
  watch := by
    intro o _ nowMs axis h
    rcases o.supervisor.poll_eq nowMs with heq | ⟨reason, heq⟩
    · simpa [heq] using h
    · simp [heq, MobileSupervisor.latch]

/-- **A careful poll keeps the invariant.** -/
theorem poll (h : Inv ids ⟨o, delivered⟩) {nowUs nowMs epoch : Tick}
    (hcareful : o.queuesTarget nowUs nowMs epoch = true →
      Still o (o.supervisor.targetRaw liftAxis)) :
    Inv ids ⟨o.poll ids nowUs nowMs epoch, delivered⟩ := by
  have hinspect : Tame ids o (o.inspect nowUs nowMs epoch).1 :=
    Tame.kept.inspect o nowUs nowMs epoch
  have hinspected := h.tame hinspect
  unfold MobileOutput.poll
  dsimp only
  split_ifs with _ hstopped
  · exact h
  · have hstop : Tame ids (o.inspect nowUs nowMs epoch).1
        { (o.inspect nowUs nowMs epoch).1 with
          supervisor := (o.inspect nowUs nowMs epoch).1.supervisor.stop } :=
      .of_calm (.refl _) rfl
    exact (hinspected.tame hstop).tame (.queueStop _ nowUs)
  · refine hinspected.drive ?_ nowUs
    intro hdrives hheld hsent
    -- the inspection claims no hold, so the one that is there was there before it
    have hbefore : Lift.Settled (o.endpoint.lift.Held ∧ o.endpoint.lift.zeroSent = true)
        o.endpoint.lift := ⟨h.settled.still, fun hl hs => ⟨hl, hs⟩⟩
    obtain ⟨hheld, hsent⟩ := (hinspect.lift _ hbefore).sent hheld hsent
    have hqueues : o.queuesTarget nowUs nowMs epoch = true := by
      simp [queuesTarget, hstopped, hdrives]
    exact kept_target.inspect o nowUs nowMs epoch liftAxis (hcareful hqueues hheld hsent)

/-! ## 5. The other events -/

/-- **A careful completion keeps the invariant**: the zero it counts is the packet heard last. -/
theorem completed (h : Inv ids ⟨o, delivered⟩) {kind : Work} {ms : Tick}
    (hcareful : o.countsZero ids kind = true → o.endpoint.lift.state = .holdPending →
      o.endpoint.lift.zeroSent = false → (o.router.jobs .lift).pending = true →
        Harmless ids (o.router.jobs .lift).bytes) :
    Inv ids ⟨o.completed ids kind ms, delivered⟩ := by
  unfold MobileOutput.completed
  split
  · exact h
  rename_i htaken
  simp only [Bool.or_eq_true, Bool.not_eq_true', not_or, Bool.not_eq_false, Bool.not_eq_true,
    bne_iff_ne, ne_eq, not_not] at htaken
  obtain ⟨⟨⟨hconfigured, hactive⟩, hfaulted⟩, howner⟩ := htaken
  refine ⟨?_, h.others, h.heard, h.flight⟩
  dsimp only
  split
  · rename_i hzero
    refine h.settled.markZeroSent id ?_ ms
    intro hstate hsent
    rw [Bool.and_eq_true] at hzero
    have hword : liftWord ids o.router.activeBytes = some 0 := by
      refine liftWord_of_sendsZero hzero.2 ?_
      rw [howner]
      exact h.flight
    refine ⟨h.heard 0 hword, hcareful ?_ hstate hsent⟩
    simp [countsZero, hconfigured, hactive, hfaulted, howner, hzero.1,
      howner ▸ hzero.2]
  · exact h.settled

/-- **A job goes out**, and the lift hears what it says. -/
theorem handOut (h : Inv ids ⟨o, delivered⟩) {kind : Work}
    (hp : (o.router.jobs kind).pending = true) (now : Tick) :
    Inv ids ⟨{ o with router := o.router.handOut now kind },
      (liftWord ids (o.router.jobs kind).bytes).or delivered⟩ := by
  have hslot : ∀ other, ((o.router.handOut now kind).jobs other).pending = true →
      (o.router.handOut now kind).jobs other = o.router.jobs other ∧
        (o.router.jobs other).pending = true := by
    intro other hpending
    obtain ⟨hne, hold⟩ := Router.drop_pending.mp hpending
    exact ⟨by simp [Router.handOut, Router.drop, Function.update_of_ne hne], hold⟩
  constructor
  · refine ⟨h.settled.still, ?_⟩
    intro hheld hsent
    have htold := h.settled.sent hheld hsent
    have hbytes : Harmless ids (o.router.jobs kind).bytes := by
      by_cases hkind : kind = .lift
      · subst hkind
        exact htold.queued hp
      · exact h.others kind hkind hp
    constructor
    · cases hword : liftWord ids (o.router.jobs kind).bytes with
      | none => exact htold.last
      | some word => rw [hbytes word hword]; rfl
    · intro hpending
      obtain ⟨heq, hold⟩ := hslot .lift hpending
      dsimp only
      rw [heq]
      exact htold.queued hold
  · intro other hother hpending
    obtain ⟨heq, hold⟩ := hslot other hpending
    dsimp only
    rw [heq]
    exact h.others other hother hold
  · intro word hword
    have hsaid : liftWord ids (o.router.jobs kind).bytes = some word := hword
    rw [hsaid]
    rfl
  · intro hkind
    exact h.others kind hkind hp

/-- **A foreign call of the router keeps the invariant.** -/
theorem router (h : Inv ids ⟨o, delivered⟩) {call : Call} (hforeign : Foreign ids call) :
    Inv ids ⟨{ o with router := o.router.call call }, hear ids delivered (o.router.handout call)⟩ := by
  rcases hout : o.router.handout call with - | out
  · exact h.tame (.of_calm (.call hforeign hout) rfl)
  · cases call with
    | next now available =>
      rcases Router.next_rule (P := Calm ids o.router) (Calm.poll o.router now)
          (fun s kind hs hnone => hs.trans (Calm.visit s hnone)) with
        ⟨hnone, -⟩ | ⟨s, kind, hs, hoffered, -, heq⟩
      · rw [Router.handout, hnone] at hout
        cases hout
      · rw [Router.handout, heq] at hout
        cases hout
        rw [Router.call, heq]
        have hscanned : Inv ids ⟨{ o with router := s }, delivered⟩ := h.tame (.of_calm hs rfl)
        exact hscanned.handOut (Router.offered_iff.mp hoffered).1 now
    | _ => cases hout

/-- A call of the lift controller, or of the endpoint, tells the lift nothing. -/
theorem act (h : Inv ids ⟨o, delivered⟩) (action : LiftAction) :
    Inv ids ⟨{ o with endpoint := { o.endpoint with lift := o.endpoint.lift.act action } },
      delivered⟩ := by
  refine h.tame ⟨.refl _, ?_⟩
  intro truth hl
  cases action with
  | poll now => exact hl.poll now
  | observe feedback now => exact hl.observe feedback now
  | home now => exact hl.home now
  | move height now => exact hl.move height now
  | cancel => exact hl.cancel
  | reset => exact hl.reset
  | inhibit reason => exact hl.inhibit reason

theorem endpointAct (h : Inv ids ⟨o, delivered⟩) (action : EndpointAction) :
    Inv ids ⟨{ o with endpoint := o.endpoint.act action }, delivered⟩ := by
  refine h.tame ⟨.refl _, ?_⟩
  intro truth hl
  have hkeeps := LiftEndpoint.keeps_settled truth
  cases action with
  | poll now => exact hkeeps.endpointPoll hl now
  | exchange packet now => exact hkeeps.exchange hl packet now
  | stop => exact hkeeps.stop hl
  | interlock => exact hl

/-- **Every careful event keeps the invariant.** -/
theorem step {s : LiftSystem} (h : Inv ids s) {e : LiftEvent ids} (hcareful : s.Careful ids e) :
    Inv ids (s.step ids e) := by
  cases e with
  | poll nowUs nowMs epoch => exact poll h hcareful
  | router call => exact router h call.2
  | completed kind ms => exact completed h hcareful
  | stop fault => exact tame h (.stop _ fault)
  | rearm session epoch ms proof => exact tame h (.rearm _ session epoch ms proof)
  | bindLift => exact tame h (.bindLift _)
  | supervisor supervisor => exact tame h (.of_calm (.refl _) rfl)
  | lift action => exact act h action
  | endpoint action => exact endpointAct h action

end Inv

/-! ## 6. Every run -/

theorem inv_init {liftConfig : LiftConfig} {bootId leaseMaxMs : Tick} {endpoint : LiftEndpoint}
    (hendpoint : LiftEndpoint.init (Lift.init liftConfig).1 bootId leaseMaxMs = some endpoint)
    {supervisor : MobileSupervisor} {config : MobileOutputConfig} {epoch : Tick}
    (houtput : init supervisor endpoint config epoch = some o) :
    Inv ids ⟨o, none⟩ := by
  unfold LiftEndpoint.init at hendpoint
  split at hendpoint
  · cases hendpoint
  cases hendpoint
  unfold init at houtput
  split at houtput
  · cases houtput
  rw [Option.map_eq_some_iff] at houtput
  obtain ⟨schedule, -, rfl⟩ := houtput
  constructor
  · exact Lift.Settled.init liftConfig
  · intro kind _ hp
    cases hp
  · intro word hword
    cases hword
  · intro _
    exact harmless_nil

/-- **The truth of the lift's zero.**  Along every run whose polls and completions are careful,
where the zero of a hold counts as sent, the lift was told to stand still, and nothing else waits
for it or is on its way. -/
theorem zero_sent_truthful (ids : MobileIds) {liftConfig : LiftConfig} {bootId leaseMaxMs : Tick}
    {endpoint : LiftEndpoint}
    (hendpoint : LiftEndpoint.init (Lift.init liftConfig).1 bootId leaseMaxMs = some endpoint)
    {supervisor : MobileSupervisor} {config : MobileOutputConfig} {epoch : Tick}
    {o : MobileOutput} (houtput : init supervisor endpoint config epoch = some o)
    (events : List (LiftEvent ids)) (hcareful : Along (step ids) (Careful ids) ⟨o, none⟩ events) :
    Truthful ids (run (step ids) ⟨o, none⟩ events) :=
  Inv.truthful (run_invariant (I := Inv ids) (fun _ _ hs he => hs.step he) events
    (inv_init hendpoint houtput) hcareful)

/-! ## 7. A stale zero -/

instance (s : LiftSystem) : Decidable (Truthful ids s) :=
  inferInstanceAs (Decidable (_ → _ → _ ∧ (_ → _) ∧ (_ → _ → _)))

instance (s : LiftSystem) : ∀ e : LiftEvent ids, Decidable (Careful ids s e)
  | .poll _ _ _ => inferInstanceAs (Decidable (_ → _ → _ → _))
  | .completed _ _ => inferInstanceAs (Decidable (_ → _ → _ → _ → _))
  | .router _ | .stop _ | .rearm _ _ _ _ | .bindLift | .supervisor _ | .lift _ | .endpoint _ =>
    inferInstanceAs (Decidable True)

/-- The bench with a lift job that may take long and live over the lift's period. -/
def slowConfig : MobileOutputConfig :=
  { benchConfig with
    schedule :=
      { armPeriodUs := 50000, armReservedUs := 1000, guardUs := 200, wheelsPeriodUs := 50000
        liftPeriodUs := 50000, feedbackPeriodUs := 50000, maximumPollGapUs := 50000 }
    liftBudgetUs := 30000
    jobLifetimeUs := 100000 }

/-- The `AL` packet of a request, as the host's `lift_wire.py` packs it. -/
def encode (op : LiftOp) (session sequence deadlineMs : Tick) : List Byte :=
  let body :=
    [0x41, 0x4C, 1, LiftEndpoint.opByte op] ++ writeU32Le session ++ writeU32Le sequence ++
      writeU32Le deadlineMs ++ writeU32Le 0 ++ writeU32Le 42 ++ List.replicate 8 0
  body ++ writeU32Le (crc32c body)

/-- A sample of the lift at rest, free or in contact. -/
def sampleAt (nowMs : Tick) (contact : Bool) : LiftEvent ids :=
  .lift (.observe
    { observedMs := nowMs, positionRaw := 1000, velocityRaw := 0
      currentMa := if contact then 600 else 100, healthy := true, holdVerified := false } nowMs)

def interlockAt (nowMs : Tick) : LiftEvent ids :=
  .endpoint (.interlock
    { observedMs := nowMs, baseStopped := true, armsSafe := true, modeOk := true
      hardwareOk := true } true true)

/-- The lift homes; its zero waits for the bus. -/
def homeRun : List (LiftEvent ids) :=
  [.bindLift, sampleAt 0 false, interlockAt 0, .endpoint (.exchange (encode .home 1 1 190) 1),
    .poll 2000 2 0,
    .router ⟨.next 2000 46800, trivial⟩, .router ⟨.complete 1 2400 true, trivial⟩,
    .completed .wheels 2,
    .router ⟨.next 2400 46800, trivial⟩, .router ⟨.complete 2 4000 true, trivial⟩,
    .completed .lift 4,
    sampleAt 5 true, sampleAt 25 true,
    .poll 52000 52 50000,
    .router ⟨.next 52000 46800, trivial⟩, .router ⟨.complete 3 52400 true, trivial⟩,
    .completed .wheels 52,
    interlockAt 101, .poll 101500 101 100000, .router ⟨.next 101500 48300, trivial⟩]

/-- It homes again while the zero is on the bus: the velocity of the second homing is queued, the
contact ends it, and the zero completes. -/
def rehomeRun : List (LiftEvent ids) :=
  [.endpoint (.exchange (encode .cancel 1 2 200) 101),
    .endpoint (.exchange (encode .reset 1 3 200) 101),
    sampleAt 101 true,
    .endpoint (.exchange (encode .home 1 4 290) 101),
    sampleAt 102 true,
    .poll 102500 102 100000,
    sampleAt 122 true,
    .router ⟨.complete 4 124000 true, trivial⟩, .completed .lift 124]

/-- The zero of the first homing is sent, and the lift was told so. -/
theorem zero_sent_truthful_bench :
    Truthful .reference
      (run (step .reference)
        ⟨bench slowConfig (by decide +kernel), none⟩
        (homeRun ++ [.router ⟨.complete 4 124000 true, trivial⟩, .completed .lift 124])) :=
  zero_sent_truthful .reference init_benchEndpoint (init_bench _) _
    (by decide +kernel)

/-- The zero completes for the second homing's hold, and the velocity waits behind it. -/
theorem zero_sent_counts_stale_zero :
    ¬ ∀ events : List (LiftEvent .reference),
      Truthful .reference
        (run (step .reference) ⟨bench slowConfig (by decide +kernel), none⟩ events) := by
  intro h
  have hrun := h (homeRun ++ rehomeRun)
  revert hrun
  decide +kernel

end LiftSystem

end MobileBimanual.Mobile
