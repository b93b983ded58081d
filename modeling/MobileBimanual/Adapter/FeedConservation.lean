/-
# What becomes of a finite plan

A ledger beside the adapter keeps the finite plan that was started, the tick it counts from, and
the samples whose batches were acknowledged (`Ledger`).  Between operations these and the pending
samples are the plan, in its order and at its ticks (`Conserved`), whatever the transport answers.

One answer ends that: a poll that is told SUCCEEDED takes the leg to be over and drops what is
still pending.  A run in which nobody says SUCCEEDED before the plan is sent conserves it
(`feed_conserved`).  The firmware may say so: it ends a stream at the tick of the horizon, which is
the last offset modulo 2^32, and no check bounds the offsets of a plan (`plan_dropped`).
-/
import MobileBimanual.Adapter.Aside
import MobileBimanual.Adapter.Link
import MobileBimanual.Lib.Client

namespace MobileBimanual.Adapter

open Activity Program
open MobileBimanual.Stream.Host (StreamSampleV2 StreamBatchV2)
open Triple

/-! ## 1. The plan -/

def convertPoint (point : TimedJointPoint) : Except HostError Converted := do
  let positions ← toUrad point.positionsRad
  .ok (point.offsetMs, positions)

/-- The points of a plan as the validator gives them out. -/
def planOf (points : List TimedJointPoint) : Except HostError (List Converted) :=
  points.mapM convertPoint

variable {points : List TimedJointPoint} {converted : List Converted}

theorem planOf_cons {point : TimedJointPoint} {positions : List Int}
    (hpositions : toUrad point.positionsRad = .ok positions) (h : planOf points = .ok converted) :
    planOf (point :: points) = .ok ((point.offsetMs, positions) :: converted) := by
  unfold planOf at h ⊢
  rw [List.mapM_cons, h, convertPoint, hpositions]
  rfl

theorem validateFiniteFrom_plan {setup : Setup} :
    ∀ {previousOffset : Int} {previousPositions : Option (List Int)} {converted : List Converted},
      validateFiniteFrom setup previousOffset previousPositions points = .ok converted →
      planOf points = .ok converted := by
  induction points with
  | nil =>
    rintro previousOffset previousPositions converted ⟨⟩
    rfl
  | cons point points ih =>
    intro previousOffset previousPositions converted h
    unfold validateFiniteFrom at h
    obtain ⟨-, -, h⟩ := Except.bind_eq_ok_iff.mp h
    obtain ⟨positions, hpositions, h⟩ := Except.bind_eq_ok_iff.mp h
    obtain ⟨-, -, h⟩ := Except.bind_eq_ok_iff.mp h
    obtain ⟨rest, hrest, h⟩ := Except.bind_eq_ok_iff.mp h
    cases h
    exact planOf_cons hpositions (ih hrest)

theorem startPoints_plan {setup : Setup} {prepared : Option PreparedBimanualState}
    {initialCount : Nat}
    (h : startPoints setup prepared points true = .ok (converted, initialCount)) :
    planOf points = .ok converted := by
  obtain ⟨convertedAll, hall, h⟩ := Except.bind_eq_ok_iff.mp h
  obtain ⟨-, -, h⟩ := Except.bind_eq_ok_iff.mp h
  cases h
  obtain ⟨_, _, hall⟩ := Except.bind_eq_ok_iff.mp hall
  obtain ⟨_, _, hall⟩ := Except.bind_eq_ok_iff.mp hall
  obtain ⟨_, _, hall⟩ := Except.bind_eq_ok_iff.mp hall
  exact validateFiniteFrom_plan hall

/-! ## 2. The ledger -/

structure Ledger where
  /-- The tick of the last heartbeat that was answered. -/
  base : Int
  /-- The points of the plan that was started, and the tick they count from. -/
  plan : Option (List TimedJointPoint × Int)
  /-- The samples of the plan that were acknowledged. -/
  sent : List StreamSampleV2

/-- The operations that carry a finite plan on. -/
inductive PlanOperation where
  | prepare
  | refresh
  | keepalive (force : Bool)
  | feedback
  | start (owner : String) (points : List TimedJointPoint)
  | poll (owner : String)

def PlanOperation.action (setup : Setup) : PlanOperation → Operation Unit
  | .prepare => FeedOperation.prepare.action setup
  | .refresh => FeedOperation.refresh.action setup
  | .keepalive force => (FeedOperation.keepalive force).action setup
  | .feedback => FeedOperation.feedback.action setup
  | .start owner points => (FeedOperation.start owner points true).action setup
  | .poll owner => (FeedOperation.poll owner).action setup

/-- The entry of an acknowledged batch: the first one of a start begins a new plan. -/
def Ledger.enter (ledger : Ledger) (batch : StreamBatchV2) : PlanOperation → Ledger
  | .start _ points =>
    if batch.samples = [] then ledger
    else { ledger with plan := some (points, ledger.base), sent := batch.samples }
  | _ => { ledger with sent := ledger.sent ++ batch.samples }

def Ledger.note (setup : Setup) (operation : PlanOperation) (ledger : Ledger) :
    (call : HostCall) → call.Reply → Ledger
  | .transport _ .heartbeat, .ok (state : StateV2) => { ledger with base := state.lastHeartbeatMs }
  | .transport _ (.append batch), (reply : Except HostError StreamStatusV2) =>
    if Acknowledges setup reply then ledger.enter batch operation else ledger
  | _, _ => ledger

/-- All of the plan is sent. -/
def Ledger.Complete (ledger : Ledger) : Prop :=
  ∀ points base, ledger.plan = some (points, base) →
    samplesAt base <$> planOf points = .ok ledger.sent

theorem Ledger.Complete.same {ledger ledger' : Ledger} (h : ledger.Complete)
    (hplan : ledger'.plan = ledger.plan) (hsent : ledger'.sent = ledger.sent) :
    ledger'.Complete := by
  intro points base hpoints
  rw [hsent]
  exact h points base (hplan ▸ hpoints)

/-- The reply to a poll says SUCCEEDED. -/
def succeeds : (call : HostCall) → call.Reply → Prop
  | .transport .active .getExecutorDiagnostics, .ok (executor : StreamExecutorDiagnosticsV2) =>
    executor.state = .succeeded
  | _, _ => False

/-- Any reply to any call, but for a SUCCEEDED out of time. -/
def ledgerConduct (setup : Setup) (operation : PlanOperation) :
    Conduct HostCall HostCall.Reply Ledger where
  interferes ledger ledger' := ledger' = ledger
  permits _ _ := True
  answers call ledger reply ledger' :=
    ledger' = ledger.note setup operation call reply ∧ (succeeds call reply → ledger.Complete)

/-- What was acknowledged and what is pending are the plan. -/
def Conserved (a : ResidentAdapter) (ledger : Ledger) : Prop :=
  ∀ points base, ledger.plan = some (points, base) →
    samplesAt base <$> planOf points = .ok (ledger.sent ++ a.pendingFiniteSamples)

variable {setup : Setup} {operation : PlanOperation} {a a' : ResidentAdapter}
  {ledger ledger' : Ledger}

theorem Conserved.same (h : Conserved a ledger) (hplan : ledger'.plan = ledger.plan)
    (hsent : ledger'.sent = ledger.sent) (hpending : a'.pendingFiniteSamples = a.pendingFiniteSamples) :
    Conserved a' ledger' := by
  intro points base hpoints
  rw [hsent, hpending]
  exact h points base (hplan ▸ hpoints)

/-- All is sent exactly when nothing is pending. -/
theorem Conserved.complete (h : Conserved a ledger) (hcomplete : ledger.Complete) {base : Int}
    (hplan : ledger.plan = some (points, base)) : a.pendingFiniteSamples = [] := by
  have hsame := (h points base hplan).symm.trans (hcomplete points base hplan)
  exact List.append_right_eq_self.mp (Except.ok.inj hsame)

/-! ## 3. Quiet actions -/

/-- The action conserves the plan, come to its end or not. -/
def Conserves (operation : PlanOperation) {α : Type} (setup : Setup) (x : Operation α) : Prop :=
  Triple (ledgerConduct setup operation) Conserved x (fun _ => Conserved) fun _ => Conserved

theorem note_quiet {call : HostCall} {reply : call.Reply} (h : quiet call) :
    (ledger.note setup operation call reply).plan = ledger.plan ∧
      (ledger.note setup operation call reply).sent = ledger.sent := by
  cases call with
  | monotonic => exact ⟨rfl, rfl⟩
  | transport state request =>
    cases request with
    | heartbeat => cases reply <;> exact ⟨rfl, rfl⟩
    | append batch => cases h
    | _ => exact ⟨rfl, rfl⟩

variable {α : Type}

/-- **What leaves the stream aside conserves the plan.** -/
theorem aside_conserves {x : Operation α} (h : x.Keeps Aside.frame) :
    Conserves operation setup x := by
  intro a ledger hconserved
  refine Holds.mono ?_ ((h a).holds
    (I := fun ledger' => ledger'.plan = ledger.plan ∧ ledger'.sent = ledger.sent) ?_ ?_ ⟨rfl, rfl⟩)
  · rintro ⟨error | value, a'⟩ ledger' ⟨haside, hplan, hsent⟩
    · exact hconserved.same hplan hsent (Aside.pending haside)
    · exact hconserved.same hplan hsent (Aside.pending haside)
  · exact fun {_ _} hsame heq => heq ▸ hsame
  · rintro call ledger₁ hquiet ⟨hplan, hsent⟩
    refine ⟨trivial, ?_⟩
    rintro reply - ⟨rfl, -⟩
    obtain ⟨hplan', hsent'⟩ := @note_quiet setup operation ledger₁ call reply hquiet
    exact ⟨hplan'.trans hplan, hsent'.trans hsent⟩

variable {pre : ResidentAdapter → Ledger → Prop}

/-- A fault drops nothing. -/
theorem orFault_conserves {body : Operation α}
    (h : Triple (ledgerConduct setup operation) pre body (fun _ => Conserved) fun _ => Conserved) :
    Triple (ledgerConduct setup operation) pre (orFault setup body) (fun _ => Conserved)
      fun _ => Conserved :=
  tryCatch h fun _ => aside_conserves fault_aside

/-- A call of the transport in its turn. -/
theorem transport_triple {request : Request}
    {post : request.Answer → ResidentAdapter → Ledger → Prop}
    {raised : HostError → ResidentAdapter → Ledger → Prop}
    (h : ∀ a ledger (reply : Except HostError request.Answer), pre a ledger →
      (succeeds (.transport a.state request) reply → ledger.Complete) →
      Ends post raised (reply, a) (ledger.note setup operation (.transport a.state request) reply)) :
    Triple (ledgerConduct setup operation) pre (transport request) post raised := by
  intro a ledger hpre
  rw [program_transport]
  rintro ledger' hsame
  obtain rfl : ledger = ledger' := hsame.symm
  refine ⟨trivial, ?_⟩
  rintro reply - ⟨rfl, htimely⟩
  exact h a ledger reply hpre htimely

/-- A calm action keeps what does not depend on who owns the adapter or when it was heard. -/
theorem calm_conserves {α : Type} {x : Operation α} {P : ResidentAdapter → Ledger → Prop}
    (h : x.Keeps Calm.frame)
    (hP : ∀ a a' ledger ledger', Calm a a' → ledger'.plan = ledger.plan →
      ledger'.sent = ledger.sent → P a ledger → P a' ledger') :
    Triple (ledgerConduct setup operation) (fun a ledger => Conserved a ledger ∧ P a ledger) x
      (fun _ a ledger => Conserved a ledger ∧ P a ledger) fun _ => Conserved := by
  rintro a ledger ⟨hconserved, hstart⟩
  refine Holds.mono ?_ ((h a).holds
    (I := fun ledger' => ledger'.plan = ledger.plan ∧ ledger'.sent = ledger.sent) ?_ ?_ ⟨rfl, rfl⟩)
  · rintro ⟨error | value, a'⟩ ledger' ⟨hcalm, hplan, hsent⟩
    · exact hconserved.same hplan hsent (Calm.toAside hcalm).pending
    · exact ⟨hconserved.same hplan hsent (Calm.toAside hcalm).pending,
        hP a a' ledger ledger' hcalm hplan hsent hstart⟩
  · exact fun {_ _} hsame heq => heq ▸ hsame
  · rintro call ledger₁ hcalm ⟨hplan, hsent⟩
    refine ⟨trivial, ?_⟩
    rintro reply - ⟨rfl, -⟩
    obtain ⟨hplan', hsent'⟩ :=
      @note_quiet setup operation ledger₁ call reply (quiet_of_calm a call hcalm)
    exact ⟨hplan'.trans hplan, hsent'.trans hsent⟩

/-- A heartbeat dates what comes next. -/
theorem heartbeat_triple {P : ResidentAdapter → Prop} (hP : ∀ a a', Calm a a' → P a → P a') :
    Triple (ledgerConduct setup operation) (fun a ledger => Conserved a ledger ∧ P a)
      (healthyHeartbeat setup)
      (fun state a ledger => Conserved a ledger ∧ P a ∧ ledger.base = state.lastHeartbeatMs)
      fun _ => Conserved := by
  refine bind (M := fun (state : StateV2) a ledger =>
      Conserved a ledger ∧ P a ∧ ledger.base = state.lastHeartbeatMs)
    (transport_triple ?_) fun state => bind
    (triple_expect (fun _ _ _ _ h => h) fun _ _ _ _ h => h.1) fun _ => bind
    (M := fun _ a ledger => Conserved a ledger ∧ P a ∧ ledger.base = state.lastHeartbeatMs) ?_
    fun now => bind
    (M := fun _ a ledger => Conserved a ledger ∧ P a ∧ ledger.base = state.lastHeartbeatMs) ?_
    fun _ => triple_pure fun _ _ h => h
  · rintro a ledger (error | state) ⟨hconserved, hstart⟩ -
    · exact hconserved
    · exact ⟨hconserved, hstart, rfl⟩
  · intro a ledger hdated
    rw [program_monotonic]
    rintro ledger' hsame
    obtain rfl : ledger = ledger' := hsame.symm
    refine ⟨trivial, ?_⟩
    rintro now ledger' ⟨hnote, -⟩
    obtain rfl : ledger = ledger' := hnote.symm
    exact hdated
  · refine triple_modify fun a ledger ⟨hconserved, hstart, hbase⟩ => ⟨?_, ?_, hbase⟩
    · exact hconserved.same rfl rfl rfl
    · exact hP a _ ⟨⟨id, rfl, rfl, rfl, rfl, rfl⟩, rfl, rfl, rfl⟩ hstart

/-! ## 4. The batches -/

variable {P : ResidentAdapter → Ledger → Prop}

/-- A batch is entered if it is acknowledged; else nothing has changed. -/
theorem sendAppend_triple {batch : StreamBatchV2} {label : String} :
    Triple (ledgerConduct setup operation) (fun a ledger => Conserved a ledger ∧ P a ledger)
      (sendAppend setup batch label)
      (fun _ a ledger' => ∃ ledger, Conserved a ledger ∧ P a ledger ∧
        ledger' = ledger.enter batch operation) fun _ => Conserved := by
  refine bind (M := fun status a ledger' => ∃ ledger, Conserved a ledger ∧ P a ledger ∧
      ledger' = if Acknowledges setup (.ok status) then ledger.enter batch operation else ledger)
    (transport_triple ?_) fun status => bind
    (M := fun _ a ledger' => ∃ ledger, Conserved a ledger ∧ P a ledger ∧
      ledger' = ledger.enter batch operation)
    (triple_expect ?_ ?_) fun _ => triple_pure fun _ _ h => h
  · rintro a ledger (error | status) ⟨hconserved, hstart⟩ -
    · exact hconserved
    · exact ⟨ledger, hconserved, hstart, rfl⟩
  · rintro _ hok a ledger' ⟨ledger, hconserved, hstart, rfl⟩
    exact ⟨ledger, hconserved, hstart, if_pos (requireAccepted_ok_iff.mp hok)⟩
  · rintro error herror a ledger' ⟨ledger, hconserved, hstart, rfl⟩
    have hrefused : ¬ Acknowledges setup (.ok status) := fun hacks =>
      nomatch (requireAccepted_ok_iff.mpr hacks).symm.trans herror
    rw [if_neg hrefused]
    exact hconserved

variable {owner : String}

/-- The first batch of a start and what is pending behind it are the plan. -/
theorem openAndFill_conserves {initialCount : Nat} (hplan : planOf points = .ok converted) :
    Conserves (.start owner points) setup (openAndFill setup converted initialCount true) := by
  refine bind ((heartbeat_triple (P := fun _ => True) fun _ _ _ _ => trivial).conseq
    (fun _ _ h => ⟨h, trivial⟩) (fun _ _ _ => id) fun _ _ _ => id) fun heartbeat => ?_
  dsimp only
  generalize hall : samplesAt heartbeat.lastHeartbeatMs converted = allSamples
  refine bind (M := fun _ a ledger =>
      Conserved a ledger ∧ ledger.base = heartbeat.lastHeartbeatMs)
    (triple_expect (fun _ _ _ _ h => ⟨h.1, h.2.2⟩) fun _ _ _ _ h => h.1) fun horizon => ?_
  refine bind (M := fun _ a ledger =>
      Conserved a ledger ∧ ledger.base = heartbeat.lastHeartbeatMs) (transport_triple ?_)
    fun opened => bind (M := fun _ a ledger =>
      Conserved a ledger ∧ ledger.base = heartbeat.lastHeartbeatMs)
    (triple_expect (fun _ _ _ _ h => h) fun _ _ _ _ h => h.1) fun _ => triple_get_bind fun adapter => ?_
  · rintro a ledger (error | status) hdated -
    · exact hdated.1
    · exact hdated
  refine bind ((sendAppend_triple
      (P := fun _ ledger => ledger.base = heartbeat.lastHeartbeatMs)).conseq
    (fun _ _ h => h.2) (fun _ _ _ => id) fun _ _ _ => id) fun appended => ?_
  cases hsamples : allSamples.take initialCount with
  | nil =>
    refine bind (M := fun _ => Conserved) (triple_modify ?_) fun _ =>
      bind (M := fun _ _ _ => False) (triple_throw fun _ _ => id) fun _ =>
      fun _ _ => False.elim
    rintro a ledger' ⟨ledger, hconserved, -, rfl⟩
    exact hconserved.same rfl rfl rfl
  | cons sample samples =>
    have hentered : Triple (ledgerConduct setup (.start owner points))
        (fun _ ledger => ledger.plan = some (points, heartbeat.lastHeartbeatMs) ∧
          ledger.sent = sample :: samples)
        (do let tail ← expect (last (sample :: samples))
            modify fun adapter => noteStarted adapter true horizon (sample :: samples)
              (allSamples.drop initialCount) tail
            pure appended)
        (fun _ => Conserved) fun _ => Conserved := by
      refine bind (triple_expect (fun _ _ _ _ => id) fun error herror => ?_) fun tail =>
        bind (M := fun _ => Conserved) (triple_modify ?_) fun _ => triple_pure fun _ _ => id
      · rw [last, List.getLast?_cons] at herror
        cases herror
      · rintro a ledger ⟨hstarted, hsent⟩ points' base hpoints
        cases hstarted.symm.trans hpoints
        rw [hplan, hsent, ← hsamples]
        exact congrArg Except.ok (hall.trans (List.take_append_drop _ _).symm)
    refine bind (M := fun _ _ ledger =>
      ledger.plan = some (points, heartbeat.lastHeartbeatMs) ∧ ledger.sent = sample :: samples)
      (triple_modify ?_) fun _ => hentered
    rintro a ledger' ⟨ledger, -, hbase, rfl⟩
    exact ⟨congrArg (fun base => some (points, base)) hbase, rfl⟩

theorem start_conserves :
    Conserves (.start owner points) setup (start setup owner points true) := by
  have hexpect : ∀ {α : Type} {result : Except HostError α},
      Conserves (.start owner points) setup (expect result) :=
    fun {_ result} => aside_conserves (keeps_expect result)
  refine bind hexpect fun _ => triple_get_bind fun _ => ?_
  refine (?_ : Conserves (.start owner points) setup _).conseq (fun _ _ h => h.2)
    (fun _ _ _ => id) fun _ _ _ => id
  refine bind hexpect fun _ => bind (aside_conserves freshAnchor_aside) fun _ =>
    triple_get_bind fun a => ?_
  refine bind (M := fun converted a ledger =>
      Conserved a ledger ∧ planOf points = .ok converted.1)
    (triple_expect (fun converted hok t ledger ht => ⟨ht.2, startPoints_plan hok⟩)
      fun _ _ _ _ h => h.2) fun converted => ?_
  obtain ⟨convertedAll, initialCount⟩ := converted
  rintro t ledger ⟨hconserved, hplan⟩
  refine (?_ : Conserves (.start owner points) setup _) t ledger hconserved
  refine bind (aside_conserves (aside_of_calm claimStart_calm)) fun _ => orFault_conserves ?_
  exact bind (aside_conserves armAndEnable_aside) fun _ => openAndFill_conserves hplan

/-! ## 5. The pump -/

theorem readySamples_append {base countLimit : Int} {pending : List StreamSampleV2} :
    readySamples setup base countLimit pending ++
      pending.drop (readySamples setup base countLimit pending).length = pending :=
  List.prefix_iff_eq_append.mp ((List.take_prefix _ _).trans (List.takeWhile_prefix _))

/-- What the pump sends leaves the front of what is pending. -/
theorem pumpFinitePlan_conserves :
    Triple (ledgerConduct setup (.poll owner))
      (fun a ledger => Conserved a ledger ∧ a.state = .active) (pumpFinitePlan setup)
      (fun _ a ledger => Conserved a ledger ∧ a.state = .active) fun _ => Conserved := by
  refine triple_get_bind fun adapter => triple_ite (fun _ => triple_pure fun _ _ h => h.2) fun _ => ?_
  split
  · rename_i horizon tailTick hhorizon htail
    refine bind ((heartbeat_triple (P := fun a => a.state = .active ∧
      a.pendingFiniteSamples = adapter.pendingFiniteSamples) fun a a' hcalm h =>
        ⟨hcalm.state.trans h.1, hcalm.pending.trans h.2⟩).conseq
      (fun a ledger h => ⟨h.2.1, h.2.2, h.1 ▸ rfl⟩) (fun _ _ _ h => h) fun _ _ _ h => h)
      fun heartbeat => ?_
    refine bind (M := fun sending a ledger =>
        (Conserved a ledger ∧ a.state = .active ∧
          a.pendingFiniteSamples = adapter.pendingFiniteSamples) ∧
        pumpBatch setup adapter horizon heartbeat.lastHeartbeatMs = .ok sending)
      (triple_expect (fun sending hok a ledger h => ⟨⟨h.1, h.2.1⟩, hok⟩) fun _ _ _ _ h => h.1)
      fun sending => ?_
    cases sending with
    | none => exact triple_pure fun _ _ h => ⟨h.1.1, h.1.2.1⟩
    | some sending =>
      obtain ⟨batch, route⟩ := sending
      refine bind (M := fun _ a ledger' => ∃ ledger, Conserved a ledger ∧
          ((a.state = .active ∧ a.pendingFiniteSamples = adapter.pendingFiniteSamples) ∧
          pumpBatch setup adapter horizon heartbeat.lastHeartbeatMs = .ok (some (batch, route))) ∧
          ledger' = ledger.enter batch (.poll owner))
        (sendAppend_triple.conseq (fun _ _ h => ⟨h.1.1, h.1.2, h.2⟩) (fun _ _ _ => id)
          fun _ _ _ => id) fun status => bind (triple_expect (fun _ _ _ _ h => h) ?_)
        fun tail => triple_modify ?_
      · rintro error herror a ledger' ⟨ledger, -, ⟨-, hbatch⟩, -⟩
        exact nomatch (last_of_ne_nil (pumpBatch_some hbatch).2.2).choose_spec.symm.trans herror
      · rintro a ledger' ⟨ledger, hconserved, ⟨⟨hactive, hpending⟩, hbatch⟩, rfl⟩
        obtain ⟨-, hsamples, -⟩ := pumpBatch_some hbatch
        refine ⟨fun points base hpoints => ?_, hactive⟩
        refine (hconserved points base hpoints).trans (congrArg Except.ok ?_)
        dsimp only [Ledger.enter]
        rw [List.append_assoc, hpending, hsamples, readySamples_append]
  · exact triple_throw fun _ _ h => h.2.1

/-! ## 6. The poll -/

theorem finishWhenDone_conserves {report : PollReport}
    {terminalFeedback : Option BimanualFeedbackSnapshotV2} :
    Triple (ledgerConduct setup (.poll owner))
      (fun a ledger => Conserved a ledger ∧
        (report.executor.state = .succeeded → ledger.Complete))
      (finishWhenDone setup report terminalFeedback) (fun _ => Conserved) fun _ => Conserved := by
  refine triple_ite (fun hdone => triple_get_bind fun adapter => ?_) fun _ =>
    triple_pure fun _ _ h => h.1
  refine bind (M := fun _ t ledger => t = adapter ∧ Conserved t ledger ∧ ledger.Complete)
    (triple_expect (fun _ _ _ _ h => ⟨h.1, h.2.1, h.2.2 hdone.1⟩) fun _ _ _ _ h => h.2.1)
    fun prepared => ?_
  rintro t ledger ⟨rfl, hconserved, hcomplete⟩ points base hpoints
  have hpending := hconserved.complete hcomplete hpoints
  have hsent := hconserved points base hpoints
  rwa [hpending] at hsent

theorem pollBody_conserves :
    Triple (ledgerConduct setup (.poll owner))
      (fun a ledger => Conserved a ledger ∧ a.state = .active) (pollBody setup)
      (fun _ => Conserved) fun _ => Conserved := by
  refine bind (calm_conserves (P := fun a _ => a.state = .active) healthyHeartbeat_calm
    fun _ _ _ _ hcalm _ _ h => hcalm.state.trans h) fun _ => ?_
  refine bind (M := fun (executor : StreamExecutorDiagnosticsV2) a ledger =>
      Conserved a ledger ∧ (executor.state = .succeeded → ledger.Complete)) (transport_triple ?_)
    fun executor => ?_
  · rintro a ledger (error | executor) ⟨hconserved, hactive⟩ htimely
    · exact hconserved
    · rw [hactive] at htimely
      exact ⟨hconserved, htimely⟩
  · have hcalm : ∀ {α : Type} {x : Operation α}, x.Keeps Calm.frame →
        Triple (ledgerConduct setup (.poll owner))
          (fun a ledger => Conserved a ledger ∧ (executor.state = .succeeded → ledger.Complete)) x
          (fun _ a ledger => Conserved a ledger ∧ (executor.state = .succeeded → ledger.Complete))
          fun _ => Conserved :=
      fun h => calm_conserves h fun _ _ _ _ _ hplan hsent hdone hsucceeded =>
        (hdone hsucceeded).same hplan hsent
    exact bind (hcalm terminalFeedbackOf_calm) fun terminalFeedback =>
      bind (hcalm healthyHeartbeat_calm) fun _ =>
      bind (hcalm (calm_transport rfl)) fun dispatch =>
      bind (hcalm (calm_transport rfl)) fun tracking =>
      bind (hcalm healthyHeartbeat_calm) fun state =>
      bind (hcalm (keeps_expect _)) fun _ =>
      bind (@finishWhenDone_conserves setup owner ⟨state, executor, dispatch, tracking⟩
        terminalFeedback) fun _ => triple_pure fun _ _ => id

theorem poll_conserves : Conserves (.poll owner) setup (poll setup owner) := by
  refine bind (aside_conserves (aside_of_calm claim_calm)) fun _ =>
    triple_get_bind fun adapter => bind
    (M := fun _ a ledger => Conserved a ledger ∧ a.state = .active) (triple_expect ?_ ?_) fun _ =>
    orFault_conserves (bind pumpFinitePlan_conserves fun _ => pollBody_conserves)
  · rintro _ hok a ledger ⟨rfl, hconserved⟩
    exact ⟨hconserved, of_not_not (streamIf_ok_iff.mp hok)⟩
  · exact fun _ _ _ _ h => h.2

/-- **Every operation conserves the plan.** -/
theorem action_conserves (operation : PlanOperation) :
    Conserves operation setup (operation.action setup) := by
  have hforget : ∀ {α : Type} {x : Operation α},
      Conserves operation setup x → Conserves operation setup (forget x) :=
    fun h => bind h fun _ => triple_pure fun _ _ => id
  cases operation with
  | prepare => exact hforget (aside_conserves prepare_aside)
  | refresh => exact hforget (aside_conserves refreshUnarmedAnchor_aside)
  | keepalive force => exact hforget (aside_conserves keepalive_aside)
  | feedback => exact hforget (aside_conserves feedbackSnapshot_aside)
  | start owner points => exact hforget start_conserves
  | poll owner => exact hforget poll_conserves

/-! ## 7. Along a run -/

abbrev PlanSystem := Client.Session ResidentAdapter PlanOperation Ledger HostCall HostCall.Reply
  (Except HostError Unit)

inductive PlanEvent where
  | operate (operation : PlanOperation)
  /-- The call under way is answered. -/
  | answer (replies : (call : HostCall) → call.Reply)

namespace PlanSystem

open Client.Session

def step (setup : Setup) (w : PlanSystem) : PlanEvent → PlanSystem
  | .operate operation => w.operate (fun operation => (operation.action setup).program) operation
  | .answer replies => w.serve fun operation _ call ledger =>
    (replies call, ledger.note setup operation call (replies call))

/-- A new adapter, with nothing in the ledger. -/
def begin : PlanSystem where
  state := newAdapter
  flight := none
  world := { base := 0, plan := none, sent := [] }

/-- No poll is told SUCCEEDED before all of the plan is acknowledged. -/
def Timely (w : PlanSystem) : PlanEvent → Prop
  | .operate _ => True
  | .answer replies => ∀ operation call resume, w.flight = some (operation, .call call resume) →
    succeeds call (replies call) → w.world.Complete

def Sound (setup : Setup) (w : PlanSystem) : Prop :=
  Client.Session.Sound (fun operation _ => ledgerConduct setup operation) Conserved w

theorem step_sound {w : PlanSystem} (event : PlanEvent) (h : w.Sound setup)
    (htimely : w.Timely event) : (w.step setup event).Sound setup := by
  cases event with
  | operate operation =>
    refine sound_operate (fun operation a ledger hconserved => ?_) h operation
    refine Holds.mono ?_ (action_conserves operation a ledger hconserved)
    rintro ⟨error | value, a'⟩ ledger' hend
    · exact hend
    · exact hend
  | answer replies =>
    have hanswers : ∀ operation call resume, w.flight = some (operation, .call call resume) →
        (ledgerConduct setup operation).answers call w.world (replies call)
          (w.world.note setup operation call (replies call)) :=
      fun operation call resume hflight => ⟨rfl, htimely operation call resume hflight⟩
    exact sound_serve (fun _ _ _ => rfl) hanswers h

end PlanSystem

open PlanSystem

/-- **Conservation.**  Between operations the acknowledged samples and the pending ones are the
plan: its points in order, each at the tick of the stream plus its offset. -/
theorem feed_conserved (setup : Setup) (events : List PlanEvent)
    (htimely : Machine.Along (step setup) Timely begin events) :
    let w := Machine.run (step setup) begin events
    w.flight = none → ∀ points base, w.world.plan = some (points, base) →
      samplesAt base <$> planOf points = .ok (w.world.sent ++ w.state.pendingFiniteSamples) := by
  intro w hidle
  have hbegin : begin.Sound setup := fun points base => nofun
  have hsound : w.Sound setup := Machine.run_invariant
    (fun w event h htimely => step_sound event h htimely) events hbegin htimely
  unfold Sound Client.Session.Sound at hsound
  rw [hidle] at hsound
  exact hsound

/-! ## 8. A plan of more than 2^32 ms -/

namespace Bench

/-- The last point wraps around to the tick of the second. -/
def wrapping : List TimedJointPoint :=
  [100, 200, 10000, 5 * 2 ^ 32 + 200].map fun offsetMs =>
    { offsetMs := offsetMs, positionsRad := List.replicate 12 (.urad 0) }

/-- All is answered well, by an executor in `state`. -/
def replying (state : Stream.ExecutorState) (tick : Int) : (call : HostCall) → call.Reply
  | .transport _ .heartbeat => .ok { bystanders .heartbeat with lastHeartbeatMs := tick }
  | .transport _ .getExecutorDiagnostics => .ok { state := state, safeStopRequired := false }
  | .transport _ request => .ok (bystanders request)
  | .monotonic => (0 : Int)

/-- An operation with `count` answers at `tick`. -/
def answered (operation : PlanOperation) (count : Nat) (state : Stream.ExecutorState)
    (tick : Int) : List PlanEvent :=
  .operate operation :: List.replicate count (.answer (replying state tick))

def planStarted : List PlanEvent :=
  answered .prepare 5 .closed 0 ++ answered (.start "a" wrapping) 10 .closed 0

/-- The second sample is applied at the tick of the horizon. -/
def planSucceeded : List PlanEvent := planStarted ++ answered (.poll "a") 12 .succeeded 205

theorem replying_running {state : Stream.ExecutorState} (h : state ≠ .succeeded) {tick : Int}
    (call : HostCall) : ¬ succeeds call (replying state tick call) := by
  cases call with
  | monotonic => exact id
  | transport adapterState request =>
    cases adapterState <;> cases request <;> first | exact h | exact id

end Bench

theorem feed_conserved_started :
    let w := Machine.run (step Bench.setup) begin Bench.planStarted
    w.flight = none ∧ w.world.plan = some (Bench.wrapping, 0) ∧
      samplesAt 0 <$> planOf Bench.wrapping =
        .ok (w.world.sent ++ w.state.pendingFiniteSamples) := by
  have htimely : Machine.Along (step Bench.setup) Timely begin
      Bench.planStarted := by
    refine Machine.along_of_forall (fun w event hevent => ?_) begin
    cases event with
    | operate operation => trivial
    | answer replies =>
      have hreplies : replies = Bench.replying .closed 0 := by
        simpa [Bench.planStarted, Bench.answered] using hevent
      intro operation call resume _ hsucceeds
      rw [hreplies] at hsucceeds
      exact absurd hsucceeds (Bench.replying_running (by decide) call)
  have hrun : let w := Machine.run (step Bench.setup) begin Bench.planStarted
      w.flight.isNone = true ∧ w.world.plan = some (Bench.wrapping, 0) := by
    decide +kernel
  have hidle := Option.isNone_iff_eq_none.mp hrun.1
  exact ⟨hidle, hrun.2,
    feed_conserved Bench.setup Bench.planStarted htimely hidle Bench.wrapping 0 hrun.2⟩

/-- The two points between are never sent, and the leg counts as done. -/
theorem plan_dropped : ¬ ∀ (setup : Setup) (events : List PlanEvent),
    let w := Machine.run (step setup) begin events
    w.flight = none → ∀ points base, w.world.plan = some (points, base) →
      samplesAt base <$> planOf points = .ok (w.world.sent ++ w.state.pendingFiniteSamples) := by
  intro h
  have hrun : let w := Machine.run (step Bench.setup) begin Bench.planSucceeded
      w.flight.isNone = true ∧ w.world.plan = some (Bench.wrapping, 0) ∧
      (samplesAt 0 <$> planOf Bench.wrapping).toOption ≠
        some (w.world.sent ++ w.state.pendingFiniteSamples) := by
    decide +kernel
  obtain ⟨hidle, hplan, hdropped⟩ := hrun
  have hsame := h Bench.setup Bench.planSucceeded (Option.isNone_iff_eq_none.mp hidle)
    Bench.wrapping 0 hplan
  exact hdropped (congrArg Except.toOption hsame)

end MobileBimanual.Adapter
