/-
# The stop latch of the mobile output

Once a stop is requested, no WHEELS or LIFT job is queued or handed out until a rearm succeeds,
and all the output submits itself is the STOP packet that stands the four axes still.

The latch is spread over the output's flag and the router's inhibition: `Progress` says of every
operation but `rearm` that it leaves a requested stop requested, a shut router shut while the
stop is requested, and in the STOP slot either what was there or the zero packet.  All the
operations of a poll have it, so a poll has it, whatever the supervisor, the lift and the clocks
say; and a run may change the supervisor and the lift at any point (`OutputEvent.world`).
-/
import MobileBimanual.Mobile.Output

namespace MobileBimanual.Mobile

open MobileBimanual.Stream (Byte Tick)
open MobileBimanual.Bus
open Machine MobileOutput

/-! ## 1. The STOP slot -/

/-- A STOP that is queued was queued before, or stands the four axes still. -/
def StopKept (ids : MobileIds) (r r' : Router) : Prop :=
  (r'.jobs .stop).pending = true → r'.jobs .stop = r.jobs .stop ∨
    syncWords (r'.jobs .stop).bytes = zeroServos ids

namespace StopKept

variable {ids : MobileIds} {r r' r'' : Router}

theorem of_eq (h : r'.jobs .stop = r.jobs .stop) : StopKept ids r r' := fun _ => Or.inl h

theorem trans (h : StopKept ids r r') (h' : StopKept ids r' r'') : StopKept ids r r'' := by
  intro hp
  rcases h' hp with heq | hzero
  · rw [heq]
    exact h (heq ▸ hp)
  · exact Or.inr hzero

/-- Another slot is emptied, or this one. -/
theorem drop (r : Router) (kind : Work) : StopKept ids r (r.drop kind) := by
  intro hp
  obtain ⟨hne, -⟩ := Router.drop_pending.mp hp
  exact Or.inl (by simp [Router.drop, Function.update_of_ne hne])

end StopKept

theorem submitWork_call (r : Router) (kind : Work) (bytes : List Byte) (now deadline budget : Tick) :
    (r.submitWork kind bytes now deadline budget).1 =
      r.call (.submit kind.toNat bytes now deadline budget) := by
  cases kind <;> rfl

theorem shut_submitWork {r : Router} (h : Router.Shut r) (kind : Work) (bytes : List Byte)
    (now deadline budget : Tick) : Router.Shut (r.submitWork kind bytes now deadline budget).1 := by
  rw [submitWork_call]
  exact h.call rfl

theorem stopKept_submitWork {ids : MobileIds} (r : Router) {kind : Work} (hkind : kind ≠ .stop)
    (bytes : List Byte) (now deadline budget : Tick) :
    StopKept ids r (r.submitWork kind bytes now deadline budget).1 := by
  rcases r.submitWork_cases kind bytes now deadline budget with
    ⟨-, heq⟩ | ⟨-, heq⟩ | ⟨-, hstop, -⟩ | ⟨-, -, -, -, -, heq⟩
  · rw [heq]
    exact .of_eq rfl
  · rw [heq]
    exact .of_eq rfl
  · exact absurd hstop hkind
  · rw [heq]
    exact .of_eq (by simp [Router.fill, Function.update_of_ne hkind.symm])

/-- A STOP submission leaves the slot as it was or fills it. -/
theorem stopKept_submitStop {ids : MobileIds} (r : Router) {packet : List Byte}
    (hpacket : syncWords packet = zeroServos ids) (now deadline budget : Tick) :
    StopKept ids r (r.submitWork .stop packet now deadline budget).1 := by
  rcases r.submitWork_cases .stop packet now deadline budget with
    ⟨-, heq⟩ | ⟨-, heq⟩ | ⟨-, -, -, heq⟩ | ⟨-, hne, -⟩
  · rw [heq]
    exact .of_eq rfl
  · rw [heq]
    exact .of_eq rfl
  · rw [heq]
    intro _
    exact Or.inr (by simp [Router.fill, hpacket])
  · exact absurd rfl hne

/-! ## 2. What every operation keeps -/

/-- The stop stays requested, the router of a requested stop stays shut, and the STOP slot is
the output's own or untouched. -/
structure Progress (ids : MobileIds) (o o' : MobileOutput) : Prop where
  configured : o'.configured = o.configured
  requested : o.stopRequested = true → o'.stopRequested = true
  shut : (o.stopRequested = true → Router.Shut o.router) →
    o'.stopRequested = true → Router.Shut o'.router
  stopSlot : StopKept ids o.router o'.router

namespace Progress

variable {ids : MobileIds} {o o' o'' : MobileOutput}

theorem trans (h : Progress ids o o') (h' : Progress ids o' o'') : Progress ids o o'' where
  configured := h'.configured.trans h.configured
  requested := h'.requested ∘ h.requested
  shut := h'.shut ∘ h.shut
  stopSlot := h.stopSlot.trans h'.stopSlot

theorem of_same (hconfigured : o'.configured = o.configured)
    (hrequested : o'.stopRequested = o.stopRequested) (hrouter : o'.router = o.router) :
    Progress ids o o' where
  configured := hconfigured
  requested := by
    rw [hrequested]
    exact id
  shut := by
    rw [hrequested, hrouter]
    exact id
  stopSlot := .of_eq (by rw [hrouter])

theorem refl (o : MobileOutput) : Progress ids o o := of_same rfl rfl rfl

/-- Only the router changes. -/
theorem of_router {router : Router} (hshut : Router.Shut o.router → Router.Shut router)
    (hslot : StopKept ids o.router router) : Progress ids o { o with router } where
  configured := rfl
  requested := id
  shut h hr := hshut (h hr)
  stopSlot := hslot

theorem noteFault (o : MobileOutput) (fault : OutputFault) : Progress ids o (o.noteFault fault) :=
  of_same rfl rfl rfl

/-- **A stop shuts the router.** -/
theorem shut_stopRouter (r : Router) (written : Bool) :
    Router.Shut (stopRouter r written) := by
  cases written
  · exact ⟨rfl, flushed_flush _⟩
  · exact ⟨rfl, flushed_flush _⟩

theorem stop (o : MobileOutput) (fault : OutputFault) : Progress ids o (o.stop fault) := by
  unfold MobileOutput.stop
  split
  · exact refl o
  · constructor
    · rfl
    · intro _
      rfl
    · intro _ _
      exact shut_stopRouter _ _
    · refine .of_eq ?_
      cases hw : o.stopWritten
      · simp [stopRouter, Router.flush, Router.requestStop, Router.inhibit]
      · simp [stopRouter, Router.flush, Router.inhibit]

theorem queueStop (o : MobileOutput) (now : Tick) :
    Progress ids o (queueStop ids o now) := by
  unfold MobileOutput.queueStop
  split
  · exact refl o
  split
  · exact noteFault o .queue
  · rename_i packet hpacket
    have hshut : Router.Shut o.router → Router.Shut (o.router.submitWork .stop packet now
        (now + o.config.jobLifetimeUs) o.config.stopBudgetUs).1 :=
      fun h => shut_submitWork h _ _ _ _ _
    have hslot : StopKept ids o.router (o.router.submitWork .stop packet now
        (now + o.config.jobLifetimeUs) o.config.stopBudgetUs).1 :=
      stopKept_submitStop _ (syncWords_build hpacket) _ _ _
    split
    · rename_i router heq
      rw [heq] at hshut hslot
      exact of_router hshut hslot
    · rename_i router heq
      rw [heq] at hshut hslot
      exact (of_router hshut hslot).trans (noteFault _ .queue)

/-- The parts of a poll keep it. -/
theorem driven : Driven ids (Progress ids) where
  refl := refl
  trans := trans
  stop := stop
  drop o kind _ := of_router (fun h => ⟨h.inhibited, h.flushed.drop kind⟩) (StopKept.drop o.router kind)
  schedule _ _ := of_same rfl rfl rfl
  watch _ nowUs _ := ⟨rfl, id, fun h hr => (h hr).call (c := .poll nowUs) rfl, .of_eq rfl⟩
  same hconfigured _ hrequested _ hrouter := of_same hconfigured hrequested hrouter
  submit _ _ hkind _ _ _ _ :=
    of_router (fun h => shut_submitWork h _ _ _ _ _) (stopKept_submitWork _ hkind _ _ _ _)
  queueStop := queueStop

/-- **Every poll keeps the latch.** -/
theorem poll (o : MobileOutput) (now nowMs epoch : Tick) :
    Progress ids o (poll ids o now nowMs epoch) :=
  driven.poll o now nowMs epoch

theorem completed (o : MobileOutput) (kind : Work) (ms : Tick) :
    Progress ids o (completed ids o kind ms) := by
  unfold MobileOutput.completed
  split
  · exact refl o
  · exact of_same rfl rfl rfl

theorem bindLift (o : MobileOutput) : Progress ids o o.bindLift.1 := by
  unfold MobileOutput.bindLift
  split
  · exact refl o
  · exact of_same rfl rfl rfl

end Progress

/-! ## 3. Rearming -/

/-- What `rearmable` has checked, the supervisor asks for again and gets. -/
theorem arm_of_rearmable {o : MobileOutput} {session ms : Tick} {proof : Bool}
    (h : o.rearmable session ms proof = true) : (o.supervisor.arm session ms).2 = true := by
  simp only [rearmable, Bool.and_eq_true, decide_eq_true_eq, bne_iff_ne] at h
  obtain ⟨⟨⟨⟨⟨⟨-, hstate⟩, hmeasured⟩, -⟩, -⟩, hnewer⟩, hsession⟩ := h
  unfold MobileSupervisor.arm
  rw [MobileSupervisor.poll_of_latched hstate]
  have hold : ¬ session ≤ o.supervisor.session := BitVec.not_le.mpr hnewer
  simp only [hstate, hmeasured, hold]
  rw [if_neg (by simpa using hsession)]

theorem ready_of_arm {s : MobileSupervisor} {session ms : Tick} (h : (s.arm session ms).2 = true) :
    (s.arm session ms).1.state = .ready := by
  unfold MobileSupervisor.arm at h ⊢
  dsimp only at h ⊢
  split at h
  · cases h
  next hgo => rw [if_neg hgo]

/-- **A rearm succeeds, or leaves the output as it was.** -/
theorem rearm_cases (o : MobileOutput) (session epoch ms : Tick) (proof : Bool) :
    o.rearm session epoch ms proof = (o, false) ∨
    ((o.rearm session epoch ms proof).2 = true ∧
      (o.rearm session epoch ms proof).1.configured = o.configured ∧
      (o.rearm session epoch ms proof).1.stopRequested = false ∧
      (o.rearm session epoch ms proof).1.router.jobs = o.router.jobs ∧
      (o.rearm session epoch ms proof).1.router.inhibited = false ∧
      (o.rearm session epoch ms proof).1.supervisor.state = .ready) := by
  unfold rearm
  cases hrearmable : o.rearmable session ms proof
  · exact Or.inl rfl
  simp only [Bool.not_true, Bool.false_eq_true, if_false]
  split
  · exact Or.inl rfl
  have harm := arm_of_rearmable hrearmable
  have hready := ready_of_arm harm
  rcases o.router.resume_cases true with heq | ⟨-, -, -, -, heq⟩ <;> rw [heq]
  · exact Or.inl rfl
  · right
    rcases hs : o.supervisor.arm session ms with ⟨supervisor, _ | _⟩ <;> rw [hs] at harm hready
    · cases harm
    · exact ⟨rfl, rfl, rfl, rfl, rfl, hready⟩

/-- **Rearming is atomic**: a refusal leaves everything as it was, and the router and the
supervisor are released together or not at all. -/
theorem rearm_atomic (o : MobileOutput) (session epoch ms : Tick) (proof : Bool) :
    ((o.rearm session epoch ms proof).2 = false → (o.rearm session epoch ms proof).1 = o) ∧
    ((o.rearm session epoch ms proof).1.supervisor.state = .stopLatched →
      (o.rearm session epoch ms proof).1.router = o.router) ∧
    ((o.rearm session epoch ms proof).1.router.inhibited = true →
      (o.rearm session epoch ms proof).1.supervisor = o.supervisor) := by
  rcases hrearm : o.rearm session epoch ms proof with ⟨o', done⟩
  rcases rearm_cases o session epoch ms proof with heq | ⟨hdone, -, -, -, hreleased, hready⟩
  · obtain ⟨rfl, rfl⟩ := Prod.mk.inj (hrearm.symm.trans heq)
    exact ⟨fun _ => rfl, fun _ => rfl, fun _ => rfl⟩
  · rw [hrearm] at hdone hreleased hready
    refine ⟨?_, ?_, ?_⟩
    · intro hrefused
      cases hdone.symm.trans hrefused
    · intro hlatched
      cases hready.symm.trans hlatched
    · intro hinhibited
      cases hreleased.symm.trans hinhibited

/-! ## 4. Runs -/

/-- What can happen to the output: its own operations, calls of its router by the transport and
by the owners of the other classes, and anything at all in the supervisor and the lift. -/
inductive OutputEvent where
  | poll (nowUs nowMs armEpochUs : Tick)
  | router (call : { call : Call // ∀ confirmed, call ≠ .resume confirmed })
  | completed (kind : Work) (completedMs : Tick)
  | stop (fault : OutputFault)
  | rearm (session epochUs nowMs : Tick) (wholeStopConfirmed : Bool)
  | bindLift
  | world (supervisor : MobileSupervisor) (endpoint : LiftEndpoint)

namespace MobileOutput

def step (ids : MobileIds) (o : MobileOutput) : OutputEvent → MobileOutput
  | .poll nowUs nowMs armEpochUs => o.poll ids nowUs nowMs armEpochUs
  | .router call => { o with router := o.router.call call }
  | .completed kind completedMs => o.completed ids kind completedMs
  | .stop fault => o.stop fault
  | .rearm session epochUs nowMs confirmed => (o.rearm session epochUs nowMs confirmed).1
  | .bindLift => o.bindLift.1
  | .world supervisor endpoint => { o with supervisor, endpoint }

/-- What is handed to the bus. -/
def handout (o : MobileOutput) : OutputEvent → Option Handout
  | .router call => o.router.handout call
  | _ => none

def rearms (o : MobileOutput) : OutputEvent → Bool
  | .rearm session epochUs nowMs confirmed => (o.rearm session epochUs nowMs confirmed).2
  | _ => false

/-- The output's own operations, which alone submit in its name. -/
def isOwn : OutputEvent → Bool
  | .router _ => false
  | _ => true

/-- What holds of an event that arrives at a stopped output, or stops it. -/
structure Obeys (ids : MobileIds) (o : MobileOutput) (e : OutputEvent) : Prop where
  /-- A stop request is one. -/
  stops : ∀ fault, e = .stop fault → (o.step ids e).stopRequested = true
  /-- Only a successful rearm takes it back. -/
  latched : o.stopRequested = true → o.rearms e = false → (o.step ids e).stopRequested = true
  /-- No velocity job is queued. -/
  queue : o.stopRequested = true ∨ (o.step ids e).stopRequested = true →
    ((o.step ids e).router.jobs .wheels).pending = false ∧
      ((o.step ids e).router.jobs .lift).pending = false
  /-- Nothing but STOP is handed to the bus. -/
  bus : o.stopRequested = true → ∀ out, o.handout e = some out → out.kind = .stop
  /-- What the output submits is the STOP that stands the four axes still. -/
  own : o.stopRequested = true ∨ (o.step ids e).stopRequested = true → isOwn e = true →
    ∀ kind, ((o.step ids e).router.jobs kind).pending = true →
      (o.step ids e).router.jobs kind = o.router.jobs kind ∨
      (kind = .stop ∧ syncWords ((o.step ids e).router.jobs kind).bytes = zeroServos ids)

/-- The invariant: the output is set up, and the router of a requested stop is shut. -/
structure Latched (o : MobileOutput) : Prop where
  configured : o.configured = true
  shut : o.stopRequested = true → Router.Shut o.router

theorem latched_init {supervisor : MobileSupervisor} {endpoint : LiftEndpoint}
    {config : MobileOutputConfig} {epoch : Tick} {o : MobileOutput}
    (h : init supervisor endpoint config epoch = some o) : Latched o := by
  unfold init at h
  split at h
  · cases h
  · rw [Option.map_eq_some_iff] at h
    obtain ⟨schedule, -, rfl⟩ := h
    exact ⟨rfl, fun hs => by cases hs⟩

variable {ids : MobileIds} {o : MobileOutput}

/-- An operation of the output other than a successful rearm. -/
theorem progress_step {e : OutputEvent} (hown : isOwn e = true) (hrearms : o.rearms e = false) :
    Progress ids o (o.step ids e) := by
  cases e with
  | poll now nowMs epoch => exact .poll o now nowMs epoch
  | router call => cases hown
  | completed kind ms => exact .completed o kind ms
  | stop fault => exact .stop o fault
  | rearm session epoch ms proof =>
    rcases rearm_cases o session epoch ms proof with heq | ⟨hdone, -⟩
    · rw [step, heq]
      exact .refl o
    · rw [rearms, hdone] at hrearms
      cases hrearms
  | bindLift => exact .bindLift o
  | world supervisor endpoint => exact .of_same rfl rfl rfl

theorem resumes_owner (r : Router) (call : { call : Call // ∀ confirmed, call ≠ .resume confirmed }) :
    r.resumes call = false := by
  obtain ⟨call, hcall⟩ := call
  cases call with
  | resume confirmed => exact absurd rfl (hcall confirmed)
  | _ => rfl

theorem Latched.step (h : Latched o) (e : OutputEvent) : Latched (o.step ids e) := by
  cases hrearms : o.rearms e with
  | true =>
    cases e with
    | rearm session epoch ms proof =>
      rcases rearm_cases o session epoch ms proof with heq | ⟨-, hconfigured, hdone, -⟩
      · rw [rearms, heq] at hrearms
        cases hrearms
      · refine ⟨hconfigured.trans h.configured, ?_⟩
        intro hs
        rw [MobileOutput.step, hdone] at hs
        cases hs
    | _ => cases hrearms
  | false =>
    cases hown : isOwn e with
    | true =>
      have hprogress : Progress ids o (o.step ids e) := progress_step hown hrearms
      exact ⟨hprogress.configured.trans h.configured, hprogress.shut h.shut⟩
    | false =>
      cases e with
      | router call => exact ⟨h.configured, fun hs => (h.shut hs).call (resumes_owner _ call)⟩
      | _ => cases hown

/-- A stopped output, or one that stops over the event, has an empty queue behind it but for a
STOP: its router is shut, or the event is the rearm and the queue is as it was. -/
theorem Latched.shut_or_rearmed (h : Latched o) (e : OutputEvent)
    (hs : o.stopRequested = true ∨ (o.step ids e).stopRequested = true) :
    (o.rearms e = false ∧ Router.Shut (o.step ids e).router) ∨
    (Router.Shut o.router ∧ (o.step ids e).router.jobs = o.router.jobs) := by
  have hnext : Latched (o.step ids e) := h.step e
  cases hrearms : o.rearms e with
  | true =>
    right
    cases e with
    | rearm session epoch ms proof =>
      rcases rearm_cases o session epoch ms proof with heq | ⟨-, -, hdone, hjobs, -⟩
      · rw [rearms, heq] at hrearms
        cases hrearms
      · refine ⟨h.shut (hs.resolve_right ?_), hjobs⟩
        rw [MobileOutput.step, hdone]
        exact Bool.false_ne_true
    | _ => cases hrearms
  | false =>
    refine Or.inl ⟨rfl, hnext.shut ?_⟩
    rcases hs with hs | hs
    · cases hown : isOwn e with
      | true => exact (progress_step hown hrearms).requested hs
      | false =>
        cases e with
        | router call => exact hs
        | _ => cases hown
    · exact hs

theorem Latched.obeys (h : Latched o) (e : OutputEvent) : Obeys ids o e := by
  constructor
  · rintro fault rfl
    simp [MobileOutput.step, MobileOutput.stop, h.configured]
  · intro hs hrearms
    cases hown : isOwn e with
    | true => exact (progress_step hown hrearms).requested hs
    | false =>
      cases e with
      | router call => exact hs
      | _ => cases hown
  · intro hs
    rcases h.shut_or_rearmed e hs with ⟨-, hshut⟩ | ⟨hshut, hjobs⟩
    · exact ⟨hshut.flushed .wheels (by decide), hshut.flushed .lift (by decide)⟩
    · rw [hjobs]
      exact ⟨hshut.flushed .wheels (by decide), hshut.flushed .lift (by decide)⟩
  · intro hs out hout
    cases e with
    | router call =>
      obtain ⟨call, hcall⟩ := call
      cases call with
      | next now available =>
        exact Router.next_of_latched (Or.inl (h.shut hs).inhibited) hout
      | _ => cases hout
    | _ => cases hout
  · intro hs hown kind hp
    rcases h.shut_or_rearmed e hs with ⟨hrearms, hshut⟩ | ⟨-, hjobs⟩
    · by_cases hkind : kind = .stop
      · subst hkind
        exact ((progress_step hown hrearms).stopSlot hp).imp_right fun hzero => ⟨rfl, hzero⟩
      · rw [hshut.flushed kind hkind] at hp
        cases hp
    · rw [hjobs]
      exact Or.inl rfl

/-- **The stop latch.**  Along every run of the output, from its start on, with anything at all
in the supervisor and the lift, every event obeys a requested stop. -/
theorem stop_latch (ids : MobileIds) {supervisor : MobileSupervisor} {endpoint : LiftEndpoint}
    {config : MobileOutputConfig} {epoch : Tick} {o : MobileOutput}
    (h : init supervisor endpoint config epoch = some o) (events : List OutputEvent) :
    Along (step ids) (Obeys ids) o events := by
  have hany : Along (step ids) (fun _ _ => True) o events :=
    along_of_forall (fun _ _ _ => trivial) o
  exact along_of_invariant (fun _ e ho _ => Latched.step ho e) (fun _ e ho _ => ho.obeys e) events
    (latched_init h) hany

/-- The bench output is stopped with nothing queued, and its STOP goes out. -/
theorem stop_latch_bench :
    Along (step .reference) (Obeys .reference) (bench benchConfig bench_starts)
      [.poll 400 1 0, .stop .ok, .poll 800 1 0, .router ⟨.next 1300 3500, fun _ h => by cases h⟩,
        .completed .stop 2] :=
  stop_latch .reference (init_bench _) _

end MobileOutput

end MobileBimanual.Mobile
