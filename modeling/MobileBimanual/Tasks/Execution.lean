/-
# The task executor

`execution.py`: a plan of steps, carried out one after another through an adapter that may answer
anything and raise at any call, under the lease of the robot.

The functions are actions (`Lib/Program`) over the adapter's calls: what an exception leaves behind
is kept, and the handlers stand where the source has them.
-/
import MobileBimanual.Lib.Journal
import MobileBimanual.Tasks.Data

namespace MobileBimanual.Tasks

open Activity Oracle

/-! ## 1. Steps and plans -/

structure Step where
  skill : String
  stepId : String
  timeout : ℚ
  startRequires : List String
  successRequires : List String
  /-- The parameters, which the executor hands on unread. -/
  parameters : String

/-- A step as it is submitted. -/
structure StepDocument where
  skill : String
  stepId : String
  timeout : Scalar
  startRequires : List String
  successRequires : List String
  parameters : String

/-- The steps of a task. -/
structure Plan where
  steps : List Step
  nonempty : 0 < steps.length
  bounded : steps.length ≤ 64
  distinct : (steps.map Step.stepId).Nodup
  timed : ∀ step ∈ steps, 0 < step.timeout

/-- The step at an index, or the last. -/
def Plan.step (plan : Plan) (index : Nat) : Step :=
  plan.steps.get ⟨min index (plan.steps.length - 1), by have := plan.nonempty; omega⟩

/-- Continuous conditions, distinct from one-time start and completion proofs. -/
def invariants (skill : String) : List String :=
  ["hardware_ready"] ++
  (if skill ∈ ["navigate", "navigate_with_load", "navigate_to"] then
    ["localized", "lift_stopped", "arm_in_transport_pose", "lift_in_transport_position"]
  else if skill = "search" then ["search_phase_safe"]
  else if skill ∈ ["prepare_navigation", "prepare_transport"] then
    ["base_stopped", "preparation_phase_safe"]
  else if "align_".toList.isPrefixOf skill.toList then ["alignment_phase_safe"]
  else if "adjust_lift_".toList.isPrefixOf skill.toList then
    ["base_stopped", "arms_safe_for_lift", "lift_homed"]
  else ["base_stopped", "lift_stopped"]) ++
  (if skill ∈ ["prepare_transport", "navigate_with_load", "inspect_destination",
      "align_for_place", "adjust_lift_for_place", "reobserve_destination"] then
    ["load_retained"]
  else [])

/-! ## 2. The adapter -/

inductive AdapterCall where
  | observe (goalId : String) (step : Step) (now : ℚ)
  | start (goalId : String) (step : Step) (now : ℚ)
  | poll (goalId : String) (step : Step) (now : ℚ)
  | requestStop (runId : String) (preserveLoad : Bool) (now : ℚ)
  | pollStop (runId : String) (now : ℚ)

abbrev AdapterCall.Result : AdapterCall → Type
  | .observe .. | .poll .. | .pollStop .. => Feedback
  | .start .. | .requestStop .. => Unit

abbrev AdapterCall.Reply (call : AdapterCall) : Type := Except Raised call.Result

/-! ## 3. The executor -/

inductive TaskState where
  | waiting | running | stopping | stopUnconfirmed | succeeded | failed | cancelled
  deriving DecidableEq

/-- `TERMINAL`. -/
def TaskState.Terminal (state : TaskState) : Prop :=
  state = .succeeded ∨ state = .failed ∨ state = .cancelled

instance (state : TaskState) : Decidable state.Terminal := inferInstanceAs (Decidable (_ ∨ _ ∨ _))

def StopDestination.state : StopDestination → TaskState
  | .failed => .failed
  | .cancelled => .cancelled

structure CompletedStep where
  stepId : String
  completedAt : ℚ
  startedAt : ℚ
  wait : ℚ
  execution : ℚ

/-- What the constructor settles. -/
structure TaskConfig where
  runId : String
  plan : Plan
  createdAt : ℚ
  taskBudget : ℚ
  maxAge : ℚ
  stopTimeout : ℚ

structure TaskExecutor where
  config : TaskConfig
  lease : TaskLease
  index : Nat
  state : TaskState
  reason : Option String
  now : ℚ
  readyAt : ℚ
  startedAt : ℚ
  finishedAt : Option ℚ
  stopAt : ℚ
  stopSent : Bool
  stopConfirmed : Bool
  stopDestination : StopDestination
  carrying : Bool
  commands : Nat
  history : List CompletedStep

abbrev Execution (α : Type) := Activity AdapterCall AdapterCall.Reply Raised TaskExecutor α

def StepDocument.check (document : StepDocument) : Except Raised Step :=
  if document.stepId = "" then .error (invalidTask "invalid step id")
  else
    match seconds "timeout_s" document.timeout with
    | .error error => .error error
    | .ok timeout =>
      if timeout = 0 then .error (invalidTask "step timeout must be positive")
      else .ok { document with timeout }

namespace TaskExecutor

/-- The steps one after another, each with an id that the earlier ones do not have. -/
def checkSteps (ids : List String) : List StepDocument → Except Raised (List Step)
  | [] => .ok []
  | document :: rest =>
    if document.stepId ∈ ids then .error (invalidTask "invalid step id")
    else do
      let step ← document.check
      let steps ← checkSteps (document.stepId :: ids) rest
      return step :: steps

theorem check_eq_ok {document : StepDocument} {step : Step} (h : document.check = .ok step) :
    step.stepId = document.stepId ∧ 0 < step.timeout := by
  unfold StepDocument.check at h
  split at h
  · cases h
  · split at h
    · cases h
    next timeout htimeout =>
      split at h
      next => cases h
      next hzero =>
        cases h
        exact ⟨rfl, lt_of_le_of_ne (seconds_eq_ok htimeout).2 (Ne.symm hzero)⟩

theorem checkSteps_eq_ok : ∀ {documents : List StepDocument} {ids : List String}
    {steps : List Step}, checkSteps ids documents = .ok steps →
      steps.length = documents.length ∧ (steps.map Step.stepId).Nodup ∧
        (∀ step ∈ steps, step.stepId ∉ ids) ∧ ∀ step ∈ steps, 0 < step.timeout
  | [], ids, steps, h => by
    cases h
    exact ⟨rfl, List.nodup_nil, nofun, nofun⟩
  | document :: rest, ids, steps, h => by
    unfold checkSteps at h
    split at h
    next => cases h
    next hfresh =>
      obtain ⟨step, hstep, h⟩ := Except.bind_eq_ok_iff.mp h
      obtain ⟨tail, htail, h⟩ := Except.bind_eq_ok_iff.mp h
      cases h
      obtain ⟨hid, htimeout⟩ := check_eq_ok hstep
      obtain ⟨hlength, hnodup, hids, htimed⟩ := checkSteps_eq_ok htail
      refine ⟨congrArg Nat.succ hlength, List.nodup_cons.mpr ⟨?_, hnodup⟩, ?_, ?_⟩
      · intro hmem
        obtain ⟨other, hother, hsame⟩ := List.mem_map.mp hmem
        exact hids other hother (List.mem_cons.mpr (.inl (hsame.trans hid)))
      · intro other hother
        rcases List.mem_cons.mp hother with rfl | hother
        · exact hid ▸ hfresh
        · exact fun hmem => hids other hother (List.mem_cons_of_mem _ hmem)
      · intro other hother
        rcases List.mem_cons.mp hother with rfl | hother
        · exact htimeout
        · exact htimed other hother

/-- `TaskExecutor(...)`, which takes the lease. -/
def create (runId : String) (documents : List StepDocument) (mode : String) (lease : TaskLease)
    (now feedbackMaxAge stopTimeout taskTimeout : Scalar) : Except Raised TaskExecutor :=
  if runId = "" ∨ runId.length > 128 then .error (invalidTask "invalid run id")
  else if mode ≠ "simulation" then
    .error (invalidTask "physical execution is not commissioned")
  else do
    let now ← seconds "now_s" now
    let age ← seconds "feedback_max_age_s" feedbackMaxAge
    let stop ← seconds "stop_timeout_s" stopTimeout
    let budget ← seconds "task_timeout_s" taskTimeout
    if ¬ (0 < budget ∧ budget ≤ 3600) ∨ age = 0 ∨ stop = 0 ∨ documents.length = 0 ∨
        documents.length > 64 then
      .error (invalidTask "invalid execution budget")
    else
      match h : checkSteps [] documents with
      | .error error => .error error
      | .ok steps =>
        if hlength : 0 < steps.length ∧ steps.length ≤ 64 then do
          let lease ← lease.acquire runId
          return {
            config := {
              runId
              plan := ⟨steps, hlength.1, hlength.2, (checkSteps_eq_ok h).2.1,
                (checkSteps_eq_ok h).2.2.2⟩
              createdAt := now
              taskBudget := budget
              maxAge := age
              stopTimeout := stop }
            lease
            index := 0
            state := .waiting
            reason := none
            now
            readyAt := now
            startedAt := now
            finishedAt := none
            stopAt := now
            stopSent := false
            stopConfirmed := false
            stopDestination := .failed
            carrying := false
            commands := 0
            history := [] }
        else .error (invalidTask "invalid execution budget")

/-- A task that was just made, from a lease that nobody held. -/
structure New (runId : String) (lease : TaskLease) (now : Scalar) (e : TaskExecutor) : Prop where
  runId : e.config.runId = runId
  free : lease.owner = none
  held : e.lease.owner = some e.config.runId
  state : e.state = .waiting
  index : e.index = 0
  unsent : e.stopSent = false
  carrying : e.carrying = false
  time : now = .finite e.now

theorem create_eq_ok {runId mode : String} {documents : List StepDocument} {lease : TaskLease}
    {now age stopTimeout taskTimeout : Scalar} {e : TaskExecutor}
    (h : create runId documents mode lease now age stopTimeout taskTimeout = .ok e) :
    New runId lease now e := by
  unfold create at h
  split at h
  · cases h
  · split at h
    · cases h
    · obtain ⟨start, hstart, h⟩ := Except.bind_eq_ok_iff.mp h
      obtain ⟨age, -, h⟩ := Except.bind_eq_ok_iff.mp h
      obtain ⟨stopTimeout, -, h⟩ := Except.bind_eq_ok_iff.mp h
      obtain ⟨budget, -, h⟩ := Except.bind_eq_ok_iff.mp h
      split at h
      · cases h
      · split at h
        · cases h
        next steps hsteps =>
          split at h
          next hlength =>
            obtain ⟨lease', hlease, h⟩ := Except.bind_eq_ok_iff.mp h
            cases h
            unfold TaskLease.acquire at hlease
            split at hlease
            · cases hlease
            next hfree =>
              cases hlease
              exact ⟨rfl, Option.not_isSome_iff_eq_none.mp hfree, rfl, rfl, rfl, rfl, rfl,
                (seconds_eq_ok hstart).1⟩
          next => cases h

def step (e : TaskExecutor) : Step := e.config.plan.step e.index

def goalId (e : TaskExecutor) : String := e.config.runId ++ "/" ++ e.step.stepId

def deadline (e : TaskExecutor) : ℚ := e.config.createdAt + e.config.taskBudget

def clock (now : Scalar) : Execution Unit := do
  let now ← expect (seconds "now_s" now)
  let e ← get
  if now < e.now then throw (invalidTask "executor clock moved backwards")
  else modify fun e => { e with now }

/-- Feedback is for the goal and fresh, and its status is one that an executor knows. -/
def validFeedback (e : TaskExecutor) (feedback : Feedback) (goalId : String) (earliest : ℚ) :
    Except Raised Unit :=
  if feedback.goalId ≠ goalId then .error (invalidTask "wrong_goal_feedback")
  else do
    let stamp ← seconds "feedback stamp" feedback.observed
    if stamp < earliest ∨ stamp > e.now ∨ e.now - stamp > e.config.maxAge then
      .error (invalidTask "stale_feedback")
    else if feedback.status = .cancelled ∨ feedback.status = .other then
      .error (invalidTask "invalid_adapter_status")
    else .ok ()

/-- The call of the adapter, with its exception. -/
def observe : Execution Feedback := do
  let e ← get
  invoke (AdapterCall.observe e.goalId e.step e.now)

def startSkill : Execution Unit := do
  let e ← get
  invoke (AdapterCall.start e.goalId e.step e.now)

def pollSkill : Execution Feedback := do
  let e ← get
  invoke (AdapterCall.poll e.goalId e.step e.now)

def requestStop : Execution Unit := do
  let e ← get
  invoke (AdapterCall.requestStop e.config.runId
    (e.carrying || decide (e.step.skill ∈ ["pick", "place"])) e.now)

def pollStopFeedback : Execution Feedback := do
  let e ← get
  invoke (AdapterCall.pollStop e.config.runId e.now)

def releaseLease : Execution Unit := do
  let e ← get
  let lease ← expect (e.lease.release e.config.runId)
  modify fun e => { e with lease }

/-- The lease is given back by its owner. -/
theorem releaseLease_done {ω : Type} {C : Program.Conduct AdapterCall AdapterCall.Reply ω}
    {P : TaskExecutor → ω → Prop} {raised : Raised → TaskExecutor → ω → Prop}
    (hheld : ∀ e w, P e w → e.lease.owner = some e.config.runId) :
    Triple C P releaseLease (fun _ e w => ∃ e₀, P e₀ w ∧ e = { e₀ with lease := ⟨none⟩ })
      raised := by
  refine triple_get_bind fun e => Triple.of_state fun s => ?_
  refine Triple.bind (M := fun lease t journal => lease = ⟨none⟩ ∧ P t journal) (triple_expect ?_ ?_)
    fun lease => triple_modify ?_
  · rintro lease hlease t journal ⟨rfl, rfl, hP⟩
    rw [TaskLease.release, if_neg (not_not.mpr (hheld _ _ hP))] at hlease
    exact ⟨(Except.ok.inj hlease).symm, hP⟩
  · rintro error hlease t journal ⟨rfl, rfl, hP⟩
    rw [TaskLease.release, if_neg (not_not.mpr (hheld _ _ hP))] at hlease
    cases hlease
  · rintro t journal ⟨rfl, hP⟩
    exact ⟨t, hP, rfl⟩

/-- What a stop must show. -/
def stopRequired (carrying : Bool) : List String :=
  ["base_stopped", "lift_stopped", "arms_holding"] ++ if carrying then ["load_retained"] else []

def ensureStopRequested : Execution Unit := do
  let e ← get
  if e.stopSent = false then
    requestStop
    modify fun e => { e with stopSent := true }
  else pure ()

/-- The body of `_poll_stop`; whether the stop is confirmed. -/
def confirmStop : Execution Bool := do
  ensureStopRequested
  let feedback ← pollStopFeedback
  let e ← get
  expect (e.validFeedback feedback e.config.runId e.stopAt)
  if feedback.status = .stopped ∧ feedback.conditions.Satisfy (stopRequired e.carrying) then
    modify fun e =>
      { e with stopConfirmed := true, state := e.stopDestination.state, finishedAt := some e.now }
    releaseLease
    return true
  else return false

/-- A broken stop transport must never release control ownership. -/
def pollStop : Execution Unit := do
  let confirmed ← tryCatch confirmStop fun _ => pure false
  if confirmed then pure ()
  else
    modify fun e =>
      if e.now - e.stopAt ≥ e.config.stopTimeout then { e with state := .stopUnconfirmed } else e

/-- The task has come to its end or is on the way to a stop. -/
def Leaving (state : TaskState) : Prop :=
  state.Terminal ∨ state = .stopping ∨ state = .stopUnconfirmed

instance (state : TaskState) : Decidable (Leaving state) :=
  inferInstanceAs (Decidable (_ ∨ _ ∨ _))

/-- `_stopping`. -/
def stop (reason : String) (destination : StopDestination) : Execution Unit := do
  let e ← get
  if Leaving e.state then pure ()
  else
    modify fun e =>
      { e with reason := some reason, stopDestination := destination, stopAt := e.now,
               state := .stopping }
    pollStop

/-- What a completed step leaves. -/
def complete (e : TaskExecutor) : TaskExecutor :=
  { e with
    history := e.history ++ [⟨e.step.stepId, e.now, e.startedAt, e.startedAt - e.readyAt,
      e.now - e.startedAt⟩]
    carrying :=
      if e.step.skill = "pick" then true else if e.step.skill = "place" then false else e.carrying
    index := e.index + 1
    readyAt := e.now }

/-- The tick of a step that waits. -/
def tickWaiting : Execution Unit := do
  let feedback ← observe
  let e ← get
  expect (e.validFeedback feedback e.goalId e.readyAt)
  if feedback.status = .failed then
    stop (orElse feedback.reason "readiness_failed") .failed
  else if feedback.status = .ready ∧
      feedback.conditions.Satisfy (e.step.startRequires ++ invariants e.step.skill) then
    modify fun e => { e with startedAt := e.now, state := .running }
    startSkill
    modify fun e => { e with commands := e.commands + 1 }
  else pure ()

/-- The tick of a step that runs. -/
def tickRunning : Execution Unit := do
  let feedback ← pollSkill
  let e ← get
  expect (e.validFeedback feedback e.goalId e.startedAt)
  if feedback.status = .failed then stop (orElse feedback.reason "skill_failed") .failed
  else if ¬ feedback.conditions.Satisfy (invariants e.step.skill) then
    stop "continuous_condition_lost" .failed
  else if feedback.status = .succeeded then
    if ¬ feedback.conditions.Satisfy e.step.successRequires then
      stop "completion_not_verified" .failed
    else
      modify complete
      let e ← get
      if e.index = e.config.plan.steps.length then
        modify fun e => { e with state := .succeeded, finishedAt := some e.now }
        releaseLease
      else modify fun e => { e with state := .waiting }
  else pure ()

def tick (now : Scalar) : Execution Unit := do
  clock now
  let e ← get
  if e.state.Terminal then pure ()
  else if e.state = .stopping ∨ e.state = .stopUnconfirmed then pollStop
  else if e.now ≥ e.deadline then stop "task_timeout" .failed
  else if e.now - e.readyAt ≥ e.step.timeout then stop "step_timeout" .failed
  else
    tryCatch (if e.state = .waiting then tickWaiting else tickRunning) fun error =>
      stop s!"adapter_error:{error.type}:{error.text}" .failed

def cancel (now : Scalar) (reason : String) : Execution Unit := do
  clock now
  stop reason .cancelled

/-! ## 4. Its result -/

structure TaskResult where
  runId : String
  status : TaskState
  elapsed : ℚ
  taskTimeout : ℚ
  taskRemaining : ℚ
  reason : Option String
  completedSteps : Nat
  currentStepId : Option String
  commands : Nat
  stopRequested : Bool
  stopConfirmed : Bool
  controlOwned : Bool
  history : List CompletedStep

def result (e : TaskExecutor) : TaskResult :=
  let elapsed := e.finishedAt.getD e.now - e.config.createdAt
  { runId := e.config.runId
    status := e.state
    elapsed
    taskTimeout := e.config.taskBudget
    taskRemaining := max 0 (e.config.taskBudget - elapsed)
    reason := e.reason
    completedSteps := e.index
    currentStepId := if e.state.Terminal then none else some e.step.stepId
    commands := e.commands
    stopRequested := e.stopSent
    stopConfirmed := e.stopConfirmed
    controlOwned := decide (e.lease.owner = some e.config.runId)
    history := e.history }

end TaskExecutor

/-! ## 5. Operations on the task and on the lease it shares -/

inductive TaskOp (runId : String) where
  | tick (now : Scalar)
  | cancel (now : Scalar) (reason : String)
  /-- Another task takes the lease, or gives it back. -/
  | acquire (owner : String) (other : owner ≠ runId)
  | release (owner : String) (other : owner ≠ runId)

def TaskOp.action {runId : String} : TaskOp runId → Execution TaskExecutor.TaskResult
  | .tick now => do
    TaskExecutor.tick now
    return (← get).result
  | .cancel now reason => do
    TaskExecutor.cancel now reason
    return (← get).result
  | .acquire owner _ => do
    let lease ← expect ((← get).lease.acquire owner)
    modify fun e => { e with lease }
    return (← get).result
  | .release owner _ => do
    let lease ← expect ((← get).lease.release owner)
    modify fun e => { e with lease }
    return (← get).result

end MobileBimanual.Tasks
