/-
# The velocities that the driver sends

Beside the driver a `Ledger` of its owner: the newest command that was accepted, the rates that
were sent last, when the ownership was granted and for which epoch.  `Lawful` says what is claimed
of a velocity against the ledger, of the fault and of the ownership.

* `inv_step` keeps driver and ledger together along `Clean` steps; `velocity_safe` is the run.
* A grant for which the clock fails is not clean: the owner is there, with the rates, the cycle and
  the grant of the one before (`half_taken`).  Nor is an exception without a text, which leaves a
  fault that counts for none.
-/
import Mathlib.Tactic.FinCases
import MobileBimanual.Lib.Machine
import MobileBimanual.Lib.Program
import MobileBimanual.Tasks.BaseDriver

namespace MobileBimanual.Tasks

open Machine

/-! ## 1. Exceptions with a text -/

/-- An exception says something. -/
def Speaks {α : Type} (answer : Except Raised α) : Prop :=
  ∀ raised, answer = .error raised → raised.text ≠ ""

section Speaks

variable {α β : Type}

theorem speaks_ok (value : α) : Speaks (.ok value : Except Raised α) := nofun

variable {raised : Raised}

theorem speaks_error (h : raised.text ≠ "") : Speaks (.error raised : Except Raised α) := by
  rintro _ ⟨⟩
  exact h

theorem speaks_invalidTask {text : String} (h : text ≠ "") :
    Speaks (.error (invalidTask text) : Except Raised α) :=
  speaks_error h

theorem speaks_bind {answer : Except Raised α} {next : α → Except Raised β} (h : Speaks answer)
    (hnext : ∀ value, Speaks (next value)) : Speaks (answer >>= next) := by
  cases answer with
  | error raised => exact speaks_error (h raised rfl)
  | ok value => exact hnext value

theorem speaks_number (field : String) (scalar : Scalar) : Speaks (number field scalar) := by
  cases scalar with
  | notNumeric => exact speaks_invalidTask (by simp [toString])
  | boolean => exact speaks_invalidTask (by simp [toString])
  | tooLarge => exact speaks_invalidTask (by simp [toString])
  | notFinite => exact speaks_invalidTask (by simp [toString])
  | finite value =>
    unfold number
    dsimp only
    split
    · exact speaks_invalidTask (by simp [toString])
    · exact speaks_ok _

theorem speaks_seconds (field : String) (scalar : Scalar) : Speaks (seconds field scalar) := by
  unfold seconds
  split
  · exact speaks_invalidTask (by simp [toString])
  · split
    · exact speaks_invalidTask (by simp [toString])
    · exact speaks_ok _
  · exact speaks_invalidTask (by simp [toString])

theorem speaks_mapM (f : α → Except Raised β) (h : ∀ value, Speaks (f value)) (l : List α) :
    Speaks (l.mapM f) := by
  induction l with
  | nil => exact speaks_ok _
  | cons value l ih =>
    rw [List.mapM_cons]
    exact speaks_bind (h value) fun _ => speaks_bind ih fun _ => speaks_ok _

end Speaks

namespace BaseDriver

/-- Every exception in the tick says something. -/
structure TickAnswers.Speaking (a : TickAnswers) : Prop where
  now : Speaks a.now
  sent : Speaks a.sent
  status : Speaks a.status
  received : Speaks a.received
  planned : Speaks a.planned
  evidence : Speaks a.evidence
  guard : ∀ applied measured pose evidence planned,
    Speaks (a.guard applied measured pose evidence planned)
  checked : Speaks a.checked
  velocity : Speaks a.velocity

variable {integrate : Motion → Motion → ℚ → Motion} {s : BaseDriver} {a : TickAnswers}

theorem speaks_motion (values : Motion) : Speaks (Motion.motion values) :=
  speaks_bind (speaks_number _ _) fun _ => speaks_bind (speaks_number _ _) fun _ =>
    speaks_bind (speaks_number _ _) fun _ => speaks_ok _

theorem speaks_bodyTwist (k : OmniKinematics) (measured : Motion) : Speaks (k.bodyTwist measured) :=
  speaks_bind (speaks_motion _) fun _ => speaks_ok _

theorem speaks_wheelRates (k : OmniKinematics) (twist limits : Motion) :
    Speaks (k.wheelRates twist limits) := by
  refine speaks_bind (speaks_motion _) fun values => speaks_bind (speaks_motion _) fun limits => ?_
  dsimp only
  split
  · exact speaks_invalidTask (by decide)
  · exact speaks_ok _

theorem speaks_checkSubmit {c : SubmitCall} (h : Speaks c.clock) : Speaks (s.checkSubmit c) := by
  refine speaks_bind h fun now => ?_
  split
  · exact speaks_invalidTask (by decide)
  · refine speaks_bind (speaks_number _ _) fun stamp =>
      speaks_bind (speaks_mapM _ (speaks_number _) _) fun values => ?_
    repeat' split
    all_goals first
      | exact speaks_ok _
      | exact speaks_invalidTask (by decide)
      | exact speaks_error (by decide)

theorem speaks_checkCycle (h : a.Speaking) : Speaks (s.checkCycle a) := by
  refine speaks_bind h.now fun now => ?_
  split
  · exact speaks_error (by decide)
  · split
    · exact speaks_ok _
    · exact speaks_invalidTask (by decide)

theorem speaks_checkFeedback (h : a.Speaking) : Speaks (s.checkFeedback a) := by
  refine speaks_bind h.sent fun sent => speaks_bind h.status fun status =>
    speaks_bind h.received fun received => ?_
  dsimp only
  repeat' split
  all_goals first
    | exact speaks_ok _
    | exact speaks_invalidTask (by decide)
    | exact speaks_error (by decide)

theorem speaks_odometry (integrate : Motion → Motion → ℚ → Motion) (w : WheelOdometry)
    (k : OmniKinematics) (maxGap : ℚ) (measured : Motion) (observed : ℚ) :
    Speaks (w.observe k maxGap integrate measured observed).2 := by
  unfold WheelOdometry.observe
  have hchecked : Speaks (do
      let stamp ← seconds "observed_s" (.finite observed)
      let twist ← k.bodyTwist measured
      if w.lastStamp.any (stamp ≤ ·) then
        .error (invalidTask "odometry observation must advance")
      else return (stamp, twist) : Except Raised (ℚ × Motion)) := by
    refine speaks_bind (speaks_seconds _ _) fun stamp =>
      speaks_bind (speaks_bodyTwist _ _) fun twist => ?_
    split
    · exact speaks_invalidTask (by decide)
    · exact speaks_ok _
  split
  next raised heq => exact speaks_error (hchecked raised heq)
  next =>
    repeat' split
    all_goals first
      | exact speaks_ok _
      | exact speaks_invalidTask (by decide)

theorem speaks_measure (status : BaseStatus) (stamp : ℚ) :
    Speaks (s.measure integrate status stamp).2 := by
  unfold measure
  dsimp only
  split
  · exact speaks_invalidTask (by decide)
  · have htwist := speaks_bind
      (speaks_odometry integrate s.odometry s.geometry s.profile.maximumFeedbackAge
        (fun i => (status.velocityRaw i : ℚ) / s.profile.rawPerRad i) stamp)
      fun _ => speaks_bodyTwist s.geometry fun i => (status.velocityRaw i : ℚ) / s.profile.rawPerRad i
    split
    next raised heq => exact speaks_error (htwist raised heq)
    next => exact speaks_ok _

theorem speaks_observe (h : a.Speaking) : Speaks (s.observe integrate a).2 := by
  unfold observe
  split
  next raised heq => exact speaks_error (speaks_checkFeedback h raised heq)
  next => exact speaks_ok _
  next => exact speaks_measure _ _

theorem speaks_requested (now : ℚ) : Speaks (s.requested now) := by
  unfold requested
  repeat' split
  all_goals first
    | exact speaks_ok _
    | exact speaks_invalidTask (by decide)
    | exact speaks_error (by decide)

theorem speaks_plan (h : a.Speaking) (now cycle : ℚ) (observation : BaseObservation) :
    Speaks (s.plan a now cycle observation) := by
  refine speaks_bind h.planned fun planned => speaks_bind (speaks_requested _) fun requested =>
    speaks_bind (speaks_wheelRates _ _ _) fun target => speaks_bind (speaks_bodyTwist _ _)
    fun applied => speaks_bind h.evidence fun evidence => ?_
  split
  · exact speaks_invalidTask (by decide)
  · refine speaks_bind (h.guard _ _ _ _ _) fun _ => speaks_bind h.checked fun checked => ?_
    dsimp only
    split
    · exact speaks_invalidTask (by decide)
    · split
      · exact speaks_invalidTask (by decide)
      · exact speaks_ok _

/-! ## 2. The run -/

inductive Op where
  | acquire (c : AcquireCall)
  | submit (c : SubmitCall)
  | tick (a : TickAnswers)
  | release (stopConfirmed : Bool)
  /-- The navigation has come to its end. -/
  | brake

/-- What is known of the ownership. -/
structure Ledger where
  accepted : Option (ℚ × Motion)
  sent : Motion
  granted : Option ℚ
  epoch : Option String

/-- The stamp of the newest command, or the time of the grant. -/
def Ledger.since (ledger : Ledger) : ℚ := (ledger.accepted.map (·.1)).getD (ledger.granted.getD 0)

/-- The newest command, or none. -/
def Ledger.twist (ledger : Ledger) : Motion := (ledger.accepted.map (·.2)).getD 0

/-- What a command that is accepted says. -/
def SubmitCall.command (c : SubmitCall) : ℚ × Motion :=
  (c.observed.value, fun i => (c.twist.getD i .notNumeric).value)

abbrev World := BaseDriver × Ledger

variable (integrate)

def step (w : World) : Op → World
  | .acquire c =>
    let s := (w.1.acquire c).1
    -- A new ownership begins with an empty ledger.
    if w.1.owner = none ∧ s.owner ≠ none then
      (s, ⟨none, 0, c.grant.toOption, some c.epoch⟩)
    else (s, w.2)
  | .submit c =>
    match w.1.submit c with
    | (s, .ok ()) => (s, { w.2 with accepted := some c.command })
    | (s, .error _) => (s, w.2)
  | .tick a =>
    match w.1.tick integrate a with
    | (s, some sending, _) => (s, { w.2 with sent := w.1.profile.ratesOf sending.raw })
    | (s, none, _) => (s, w.2)
  | .release stopConfirmed => ((w.1.release stopConfirmed).1, w.2)
  | .brake => ({ w.1 with braking := true }, w.2)

/-- What is claimed of what the client is handed in a tick. -/
structure Rightly (w : World) (a : TickAnswers) (sending : Sending) : Prop where
  owned : w.1.owner ≠ none ∧ w.1.fault = none
  /-- The counts come from the newest command, one slewed step from the rates before. -/
  derived : ∃ now cycle target, a.now = .ok now ∧ w.1.lastCycle = some (now - cycle) ∧
    (0 < cycle ∧ cycle ≤ w.1.profile.maximumCycle) ∧
    w.1.geometry.wheelRates w.2.twist w.1.profile.maximumWheel = .ok target ∧
    sending.raw = w.1.profile.counts w.2.sent target cycle ∧
    ∀ i, |w.1.profile.ratesOf sending.raw i - w.2.sent i| ≤
      w.1.profile.maximumAcceleration i * cycle + 1 / 2 / w.1.profile.rawPerRad i
  /-- The guard passed the very rates, with evidence of the epoch. -/
  guarded : ∃ applied evidence measured pose planned,
    w.1.geometry.bodyTwist (w.1.profile.ratesOf sending.raw) = .ok applied ∧
    a.evidence = .ok evidence ∧ some evidence.epoch = w.2.epoch ∧ a.planned = .ok planned ∧
    a.guard applied measured pose evidence planned = .ok ()
  /-- They end before the command does. -/
  lifetime : 1 ≤ sending.lifetimeMs ∧ ∃ checked, a.checked = .ok checked ∧
    checked + (sending.lifetimeMs : ℚ) / 1000 ≤ w.2.since + w.1.profile.maximumCommandAge

/-- What is claimed of an operation. -/
structure Lawful (w : World) (op : Op) : Prop where
  sent : ∀ a sending, op = .tick a → (w.1.tick integrate a).2.1 = some sending →
    Rightly w a sending
  latched : w.1.fault ≠ none → (step integrate w op).1.fault = w.1.fault ∧
    ∀ a, op = .tick a → (w.1.tick integrate a).2.1 = none
  kept : w.1.owner ≠ none → op ≠ .release true → (step integrate w op).1.owner = w.1.owner

/-- The clock answers a grant, and what is raised to an owner or to a tick says something. -/
def Clean (w : World) : Op → Prop
  | .acquire c => ∀ authority, w.1.checkAcquire c = .ok authority → ∃ granted, c.grant = .ok granted
  | .submit c => w.1.owner ≠ none → w.1.fault = none → Speaks c.clock
  | .tick a => w.1.fault = none → a.Speaking
  | .release _ => True
  | .brake => True

/-! ## 3. The invariant -/

structure Inv (w : World) : Prop where
  spoken : w.1.fault ≠ some ""
  tied : w.1.owner ≠ none → w.1.fault = none → w.1.command = w.2.accepted ∧
    w.1.lastRates = w.2.sent ∧ w.1.granted = w.2.granted ∧ w.1.epoch = w.2.epoch

theorem inv_init (geometry : OmniKinematics) (profile : BaseProfile) (ledger : Ledger) :
    Inv (init geometry profile, ledger) where
  spoken := nofun
  tied h := absurd rfl h

variable {integrate} {w : World} {c : SubmitCall}

theorem Inv.faulted_iff (h : Inv w) : w.1.faulted = true ↔ w.1.fault ≠ none := by
  have hspoken := h.spoken
  unfold faulted
  cases hfault : w.1.fault with
  | none => simp
  | some text =>
    rw [hfault] at hspoken
    have htext : text ≠ "" := fun heq => hspoken (congrArg some heq)
    simp [htext]

variable {stop : Except Raised Unit}

theorem fail_fault {reason : String} (hnone : s.fault = none) :
    (s.fail reason stop).fault = some reason := by
  simp [fail, faulted, hnone]

/-- A fault stays as it is. -/
theorem fail_faulted {reason : String} (h : s.faulted = true) :
    (s.fail reason stop).fault = s.fault := by
  simp [fail, h]

theorem observe_frame (s : BaseDriver) (a : TickAnswers) : ∃ odometry feedback observation,
    (s.observe integrate a).1 = { s with odometry, feedback, observation } := by
  unfold observe
  split
  · exact ⟨_, _, _, rfl⟩
  · exact ⟨_, _, _, rfl⟩
  · unfold measure
    dsimp only
    split
    · exact ⟨_, _, _, rfl⟩
    · split
      · exact ⟨_, _, _, rfl⟩
      · exact ⟨_, _, _, rfl⟩

/-- The driver after it has observed in a cycle. -/
def Seen (s : BaseDriver) (now : ℚ) (s' : BaseDriver) : Prop :=
  ∃ odometry feedback observation,
    s' = { s with lastCycle := some now, odometry, feedback, observation }

/-- The plan of the tick hands the client `sending`. -/
def Plans (s : BaseDriver) (a : TickAnswers) (sending : Sending) : Prop :=
  ∃ now cycle observation s', s.checkCycle a = .ok (now, cycle) ∧ s.Seen now s' ∧
    s'.plan a now cycle observation = .ok sending

/-- What a tick may do for an owner. -/
inductive Ticked (s : BaseDriver) (a : TickAnswers) :
    BaseDriver × Option Sending × Option BaseObservation → Prop
  | failed (s' : BaseDriver) (reason : String) (sending : Option Sending)
    (howner : s'.owner = s.owner) (hfault : s'.fault = s.fault) (hreason : a.Speaking → reason ≠ "")
    (hplans : ∀ x ∈ sending, s.Plans a x) : Ticked s a (s'.fail reason a.stop, sending, none)
  | sent (s' : BaseDriver) (now : ℚ) (sending : Sending) (observation : BaseObservation)
    (hseen : s.Seen now s') (hplans : s.Plans a sending) :
    Ticked s a ({ s' with lastRates := s'.profile.ratesOf sending.raw }, some sending,
      some observation)

theorem tickOwned_cases (s : BaseDriver) (a : TickAnswers) :
    Ticked s a (s.tickOwned integrate a) := by
  unfold tickOwned
  cases hcycle : s.checkCycle a with
  | error raised =>
    exact .failed s raised.text none rfl rfl (fun h => speaks_checkCycle h raised hcycle) nofun
  | ok timed =>
    obtain ⟨now, cycle⟩ := timed
    dsimp only
    have hspeaks : a.Speaking → Speaks (observe integrate { s with lastCycle := some now } a).2 :=
      speaks_observe
    have hframe := @observe_frame integrate { s with lastCycle := some now } a
    generalize observe integrate { s with lastCycle := some now } a = result at hspeaks hframe ⊢
    obtain ⟨s', answer⟩ := result
    have hseen : s.Seen now s' := hframe
    have hsame : s'.owner = s.owner ∧ s'.fault = s.fault := by
      obtain ⟨odometry, feedback, observed, rfl⟩ := hseen
      exact ⟨rfl, rfl⟩
    cases answer with
    | error raised =>
      exact .failed s' raised.text none hsame.1 hsame.2 (fun h => hspeaks h raised rfl) nofun
    | ok observation =>
      dsimp only
      cases hplan : s'.plan a now cycle observation with
      | error raised =>
        exact .failed s' raised.text none hsame.1 hsame.2
          (fun h => speaks_plan h now cycle observation raised hplan) nofun
      | ok sending =>
        have hplans : s.Plans a sending := ⟨now, cycle, observation, s', hcycle, hseen, hplan⟩
        have hall : ∀ x ∈ some sending, s.Plans a x := by
          rintro _ ⟨⟩
          exact hplans
        dsimp only
        cases hvelocity : a.velocity with
        | error raised =>
          exact .failed s' raised.text (some sending) hsame.1 hsame.2
            (fun h => h.velocity raised hvelocity) hall
        | ok ready =>
          cases ready with
          | false =>
            exact .failed s' "mobile command acknowledgement not active" (some sending) hsame.1
              hsame.2 (fun _ => by decide) hall
          | true => exact .sent s' now sending observation hseen hplans

/-! ## 4. What is sent -/

theorem requested_eq_ok {now since : ℚ} {twist : Motion} (h : s.requested now = .ok (since, twist))
    {ledger : Ledger} (hcommand : s.command = ledger.accepted)
    (hgranted : s.granted = ledger.granted) :
    since = ledger.since ∧ twist = ledger.twist := by
  unfold requested at h
  unfold Ledger.since Ledger.twist
  rw [← hcommand, ← hgranted]
  split at h
  next command hsome =>
    split at h
    · cases h
      simp [hsome]
    · cases h
  next hnone =>
    split at h
    · cases h
    next granted hsome =>
      split at h
      · cases h
      · cases h
        simp [hnone, hsome]

theorem checkCycle_eq_ok {now cycle : ℚ} (h : s.checkCycle a = .ok (now, cycle)) :
    a.now = .ok now ∧ s.lastCycle = some (now - cycle) ∧ 0 < cycle ∧
      cycle ≤ s.profile.maximumCycle := by
  obtain ⟨now', hnow, h⟩ := Except.bind_eq_ok_iff.mp h
  split at h
  · cases h
  next last hlast =>
    split at h
    next hcycle =>
      cases h
      exact ⟨hnow, by rw [hlast]; simp, hcycle⟩
    · cases h

/-- A lifetime in whole milliseconds does not exceed what remains. -/
theorem lifetime_le {remaining checked limit : ℚ} (h : remaining = limit - checked) :
    checked + ((min 200 ⌊remaining * 1000⌋ : ℤ) : ℚ) / 1000 ≤ limit := by
  have hmin : ((min 200 ⌊remaining * 1000⌋ : ℤ) : ℚ) ≤ ⌊remaining * 1000⌋ := by
    exact_mod_cast min_le_right _ _
  have hfloor : (⌊remaining * 1000⌋ : ℚ) ≤ remaining * 1000 := Int.floor_le _
  have hms : ((min 200 ⌊remaining * 1000⌋ : ℤ) : ℚ) / 1000 ≤ remaining := by
    rw [div_le_iff₀ (by norm_num)]
    exact hmin.trans hfloor
  linarith

/-- **What the plan hands the client is right.** -/
theorem rightly_of_plans (h : Inv w) (howner : w.1.owner ≠ none) (hfault : w.1.fault = none)
    {sending : Sending} (hplans : w.1.Plans a sending) : Rightly w a sending := by
  obtain ⟨now, cycle, observation, s', hcycle, ⟨odometry, feedback, observed, rfl⟩, hplan⟩ := hplans
  obtain ⟨hcommand, hrates, hgranted, hepoch⟩ := h.tied howner hfault
  obtain ⟨hnow, hlast, hpos, hmax⟩ := checkCycle_eq_ok hcycle
  obtain ⟨planned, hplanned, hplan⟩ := Except.bind_eq_ok_iff.mp hplan
  obtain ⟨⟨since, twist⟩, hrequested, hplan⟩ := Except.bind_eq_ok_iff.mp hplan
  obtain ⟨rfl, rfl⟩ := requested_eq_ok hrequested hcommand hgranted
  obtain ⟨target, htarget, hplan⟩ := Except.bind_eq_ok_iff.mp hplan
  obtain ⟨applied, happlied, hplan⟩ := Except.bind_eq_ok_iff.mp hplan
  obtain ⟨evidence, hevidence, hplan⟩ := Except.bind_eq_ok_iff.mp hplan
  split at hplan
  · cases hplan
  next hsame =>
    obtain ⟨_, hguard, hplan⟩ := Except.bind_eq_ok_iff.mp hplan
    obtain ⟨checked, hchecked, hplan⟩ := Except.bind_eq_ok_iff.mp hplan
    dsimp only at hplan
    split at hplan
    · cases hplan
    split at hplan
    · cases hplan
    next hlifetime =>
      cases hplan
      dsimp only at happlied hguard hsame
      rw [hrates] at happlied ⊢
      refine ⟨⟨howner, hfault⟩, ?_, ?_, not_lt.mp hlifetime, checked, hchecked, ?_⟩
      · refine ⟨now, cycle, target, hnow, hlast, ⟨hpos, hmax⟩, htarget, rfl, fun i => ?_⟩
        have hpositive := w.1.profile.positive i
        exact Slew.abs_counted_slewed_sub_le (mul_pos hpositive.2.2 hpos) hpositive.1
      · exact ⟨applied, evidence, observation.twist, observation.pose, planned, happlied, hevidence,
          (not_not.mp hsame).trans hepoch, hplanned, hguard⟩
      · refine lifetime_le ?_
        ring

/-! ## 5. The steps -/

/-- A tick without a fault keeps the owner; what fails in it is a fault that says something. -/
theorem tick_kept (hfault : s.fault = none) :
    (s.tick integrate a).1.owner = s.owner ∧
      ((s.tick integrate a).1.fault = none ∨
        ∃ reason, (s.tick integrate a).1.fault = some reason ∧ (a.Speaking → reason ≠ "")) := by
  have hsound : s.faulted = false := by simp [faulted, hfault]
  unfold tick
  rw [hsound, if_neg (by decide)]
  split
  next howner =>
    have hticked := @tickOwned_cases integrate s a
    generalize s.tickOwned integrate a = result at hticked ⊢
    cases hticked with
    | failed s' reason sending hsame hstill hreason hplans =>
      exact ⟨hsame, .inr ⟨reason, fail_fault (hstill.trans hfault), hreason⟩⟩
    | sent s' now sending observation hseen hplans =>
      obtain ⟨odometry, feedback, observed, rfl⟩ := hseen
      exact ⟨rfl, .inl hfault⟩
  next =>
    split
    · exact ⟨rfl, .inl hfault⟩
    · have hspeaks : a.Speaking → Speaks (s.observe integrate a).2 := speaks_observe
      have hframe := @observe_frame integrate s a
      generalize s.observe integrate a = result at hspeaks hframe ⊢
      obtain ⟨s', answer⟩ := result
      obtain ⟨odometry, feedback, observed, hframe⟩ := hframe
      dsimp only at hframe
      subst hframe
      cases answer with
      | error raised =>
        exact ⟨rfl, .inr ⟨raised.text, fail_fault hfault, fun h => hspeaks h raised rfl⟩⟩
      | ok observation => exact ⟨rfl, .inl hfault⟩

/-- What a tick hands the client is planned for an owner without a fault. -/
theorem tick_plans {sending : Sending} (h : (s.tick integrate a).2.1 = some sending) :
    s.faulted = false ∧ s.owner ≠ none ∧ s.Plans a sending := by
  unfold tick at h
  split at h
  · cases h
  next hsound =>
    split at h
    next howner =>
      have hticked := @tickOwned_cases integrate s a
      generalize s.tickOwned integrate a = result at hticked h
      refine ⟨by simpa using hsound, howner, ?_⟩
      cases hticked with
      | failed s' reason x hsame hstill hreason hplans => exact hplans sending h
      | sent s' now x observation hseen hplans =>
        cases h
        exact hplans
    next =>
      split at h
      · cases h
      · split at h <;> cases h

/-- A tick that hands the client something and does not fail has it in its rates, and keeps all
else. -/
theorem tick_tied (hfault : s.fault = none) (hafter : (s.tick integrate a).1.fault = none) :
    (s.tick integrate a).1.command = s.command ∧ (s.tick integrate a).1.granted = s.granted ∧
      (s.tick integrate a).1.epoch = s.epoch ∧
      (s.tick integrate a).1.lastRates =
        ((s.tick integrate a).2.1.map fun x => s.profile.ratesOf x.raw).getD s.lastRates := by
  have hsound : s.faulted = false := by simp [faulted, hfault]
  unfold tick at hafter ⊢
  rw [hsound, if_neg (by decide)] at hafter ⊢
  split at hafter
  next howner =>
    rw [if_pos howner]
    have hticked := @tickOwned_cases integrate s a
    generalize s.tickOwned integrate a = result at hticked hafter ⊢
    cases hticked with
    | failed s' reason sending hsame hstill hreason hplans =>
      cases (fail_fault (hstill.trans hfault)).symm.trans hafter
    | sent s' now sending observation hseen hplans =>
      obtain ⟨odometry, feedback, observed, rfl⟩ := hseen
      exact ⟨rfl, rfl, rfl, rfl⟩
  next howner =>
    rw [if_neg howner]
    split at hafter
    next hsession =>
      rw [if_pos hsession]
      exact ⟨rfl, rfl, rfl, rfl⟩
    next hsession =>
      rw [if_neg hsession]
      have hframe := @observe_frame integrate s a
      generalize s.observe integrate a = result at hframe hafter ⊢
      obtain ⟨s', answer⟩ := result
      have hsame : s'.fault = s.fault ∧ s'.command = s.command ∧ s'.granted = s.granted ∧
          s'.epoch = s.epoch ∧ s'.lastRates = s.lastRates := by
        obtain ⟨odometry, feedback, observed, rfl⟩ := hframe
        exact ⟨rfl, rfl, rfl, rfl, rfl⟩
      cases answer with
      | error raised =>
        change (s'.fail raised.text a.stop).fault = none at hafter
        rw [fail_fault (hsame.1.trans hfault)] at hafter
        cases hafter
      | ok observation => exact hsame.2

/-- A tick with a fault hands the client nothing. -/
theorem tick_faulted (h : s.faulted = true) :
    s.tick integrate a = (s.fail (s.fault.getD "") a.stop, none, none) := by
  unfold tick
  rw [if_pos h]

/-- What the ledger and the driver are after a tick. -/
theorem step_tick (w : World) (a : TickAnswers) : step integrate w (.tick a) =
    ((w.1.tick integrate a).1, { w.2 with
      sent := ((w.1.tick integrate a).2.1.map fun x => w.1.profile.ratesOf x.raw).getD w.2.sent }) := by
  change (match w.1.tick integrate a with
    | (s, some sending, _) => (s, { w.2 with sent := w.1.profile.ratesOf sending.raw })
    | (s, none, _) => (s, w.2)) = _
  generalize w.1.tick integrate a = result
  obtain ⟨s, sending, observation⟩ := result
  cases sending <;> rfl

theorem acquire_cases (s : BaseDriver) (c : AcquireCall) :
    (∃ raised, s.acquire c = (s, .error raised)) ∨
      s.owner = none ∧ s.faulted = false ∧ ∃ source, s.checkAcquire c = .ok (source, c.epoch) := by
  cases hcheck : s.checkAcquire c with
  | error raised => exact .inl ⟨raised, by simp [acquire, hcheck]⟩
  | ok authority =>
    refine .inr ?_
    unfold checkAcquire at hcheck
    split at hcheck
    · cases hcheck
    next hfree =>
      split at hcheck
      · cases hcheck
      · obtain ⟨source, hsource, hcheck⟩ := Except.bind_eq_ok_iff.mp hcheck
        obtain ⟨epoch, hepoch, hcheck⟩ := Except.bind_eq_ok_iff.mp hcheck
        cases hcheck
        obtain ⟨rfl, -⟩ := identifier_eq_ok hepoch
        rw [not_or, not_or, not_not] at hfree
        exact ⟨hfree.1, by simpa using hfree.2.1, source, rfl⟩

theorem mapM_number_eq_ok {field : String} {values : List ℚ} : ∀ {l : List Scalar},
    l.mapM (number field) = .ok values → l = values.map .finite := by
  intro l h
  induction l generalizing values with
  | nil =>
    cases h
    rfl
  | cons scalar l ih =>
    rw [List.mapM_cons] at h
    obtain ⟨value, hvalue, h⟩ := Except.bind_eq_ok_iff.mp h
    obtain ⟨rest, hrest, h⟩ := Except.bind_eq_ok_iff.mp h
    cases h
    rw [number_eq_ok hvalue, ih hrest]
    rfl

theorem submit_command {command : ℚ × Motion} (h : s.checkSubmit c = .ok command) :
    command = c.command := by
  obtain ⟨now, -, h⟩ := Except.bind_eq_ok_iff.mp h
  split at h
  · cases h
  obtain ⟨stamp, hstamp, h⟩ := Except.bind_eq_ok_iff.mp h
  obtain ⟨values, hvalues, h⟩ := Except.bind_eq_ok_iff.mp h
  split at h
  next x y z =>
    split at h
    · cases h
    split at h
    · cases h
    split at h
    · cases h
    split at h
    · cases h
    cases h
    unfold SubmitCall.command
    rw [number_eq_ok hstamp, mapM_number_eq_ok hvalues]
    refine congrArg _ (funext fun i => ?_)
    fin_cases i <;> rfl
  · cases h

/-- A grant that is refused changes nothing. -/
theorem step_acquire_refused {call : AcquireCall} (h : w.1.acquire call = (w.1, .error raised)) :
    step integrate w (.acquire call) = w := by
  simp [step, h]

theorem step_submit_ok {command : ℚ × Motion} (h : w.1.checkSubmit c = .ok command) :
    step integrate w (.submit c) =
      ({ w.1 with command := some command }, { w.2 with accepted := some c.command }) := by
  simp [step, submit, h]

theorem step_submit_error (h : w.1.checkSubmit c = .error raised) :
    step integrate w (.submit c) =
      (if w.1.owner ≠ none then w.1.fail raised.text c.stop else w.1, w.2) := by
  simp [step, submit, h]

/-- An operation keeps a fault as it is. -/
theorem fault_step (h : Inv w) (hfault : w.1.fault ≠ none) (op : Op) :
    (step integrate w op).1.fault = w.1.fault := by
  have hfaulted := h.faulted_iff.mpr hfault
  cases op with
  | acquire c =>
    rcases w.1.acquire_cases c with ⟨raised, hacquire⟩ | ⟨-, hsound, -⟩
    · rw [step_acquire_refused hacquire]
    · cases hfaulted.symm.trans hsound
  | submit c =>
    cases hcheck : w.1.checkSubmit c with
    | ok command => rw [step_submit_ok hcheck]
    | error raised =>
      rw [step_submit_error hcheck]
      dsimp only
      split
      · exact fail_faulted hfaulted
      · rfl
  | tick a =>
    rw [step_tick, tick_faulted hfaulted]
    exact fail_faulted hfaulted
  | release stopConfirmed => cases stopConfirmed <;> rfl
  | brake => rfl

/-- Only a confirmed release gives up the ownership. -/
theorem owner_step (h : Inv w) (howner : w.1.owner ≠ none) {op : Op} (hop : op ≠ .release true) :
    (step integrate w op).1.owner = w.1.owner := by
  cases op with
  | acquire c =>
    rcases w.1.acquire_cases c with ⟨raised, hacquire⟩ | ⟨hnone, -⟩
    · rw [step_acquire_refused hacquire]
    · exact absurd hnone howner
  | submit c =>
    cases hcheck : w.1.checkSubmit c with
    | ok command => rw [step_submit_ok hcheck]
    | error raised =>
      rw [step_submit_error hcheck, if_pos howner]
      rfl
  | tick a =>
    rw [step_tick]
    by_cases hfault : w.1.fault = none
    · exact (tick_kept hfault).1
    · rw [tick_faulted (h.faulted_iff.mpr hfault)]
      rfl
  | release stopConfirmed =>
    cases stopConfirmed with
    | true => exact absurd rfl hop
    | false => rfl
  | brake => rfl

/-- A command that is accepted is the newest of the ledger too. -/
theorem inv_submit (h : Inv w) (hclean : Clean w (.submit c)) :
    Inv (step integrate w (.submit c)) := by
  cases hcheck : w.1.checkSubmit c with
  | ok command =>
    rw [step_submit_ok hcheck]
    refine ⟨h.spoken, fun howner hfault => ?_⟩
    obtain ⟨-, hrest⟩ := h.tied howner hfault
    exact ⟨congrArg some (submit_command hcheck), hrest⟩
  | error raised =>
    rw [step_submit_error hcheck]
    split
    next howner =>
      by_cases hfault : w.1.fault = none
      · have hspeaks : raised.text ≠ "" := speaks_checkSubmit (hclean howner hfault) raised hcheck
        have hafter : (w.1.fail raised.text c.stop).fault = some raised.text := fail_fault hfault
        refine ⟨?_, fun _ hnone => ?_⟩
        · rw [hafter]
          exact fun heq => hspeaks (Option.some.inj heq)
        · rw [hafter] at hnone
          cases hnone
      · have hafter : (w.1.fail raised.text c.stop).fault = w.1.fault :=
          fail_faulted (h.faulted_iff.mpr hfault)
        refine ⟨?_, fun _ hnone => ?_⟩
        · rw [hafter]
          exact h.spoken
        · rw [hafter] at hnone
          exact absurd hnone hfault
    next howner => exact ⟨h.spoken, fun hnone => absurd hnone howner⟩

theorem inv_tick (h : Inv w) (hclean : Clean w (.tick a)) : Inv (step integrate w (.tick a)) := by
  rw [step_tick]
  by_cases hfault : w.1.fault = none
  · obtain ⟨howner, hafter⟩ := @tick_kept integrate _ a hfault
    refine ⟨?_, fun hsome hnone => ?_⟩
    · rcases hafter with hnone | ⟨reason, hsome, hspeaks⟩
      · rw [hnone]
        exact nofun
      · rw [hsome]
        exact fun heq => hspeaks (hclean hfault) (Option.some.inj heq)
    · dsimp only at hsome hnone ⊢
      rw [howner] at hsome
      obtain ⟨hcommand, hrates, hgranted, hepoch⟩ := h.tied hsome hfault
      obtain ⟨hcommand', hgranted', hepoch', hrates'⟩ := tick_tied hfault hnone
      refine ⟨hcommand'.trans hcommand, hrates'.trans ?_, hgranted'.trans hgranted,
        hepoch'.trans hepoch⟩
      rw [hrates]
  · rw [tick_faulted (h.faulted_iff.mpr hfault)]
    have hafter : (w.1.fail (w.1.fault.getD "") a.stop).fault = w.1.fault :=
      fail_faulted (h.faulted_iff.mpr hfault)
    refine ⟨?_, fun _ hnone => ?_⟩
    · rw [hafter]
      exact h.spoken
    · rw [hafter] at hnone
      exact absurd hnone hfault

theorem inv_acquire (h : Inv w) {call : AcquireCall} (hclean : Clean w (.acquire call)) :
    Inv (step integrate w (.acquire call)) := by
  rcases w.1.acquire_cases call with ⟨raised, hacquire⟩ | ⟨hnone, -, source, hcheck⟩
  · rw [step_acquire_refused hacquire]
    exact h
  · obtain ⟨granted, hgrant⟩ := hclean _ hcheck
    have hacquire : (w.1.acquire call).1 = { w.1 with
        owner := some call.owner, source := some source, epoch := some call.epoch, braking := false
        granted := some granted, command := none, lastCycle := some granted, lastRates := 0 } := by
      simp [acquire, hcheck, hgrant]
    have hstep : step integrate w (.acquire call) =
        ((w.1.acquire call).1, ⟨none, 0, some granted, some call.epoch⟩) := by
      simp [step, hacquire, hnone, hgrant, Except.toOption]
    rw [hstep, hacquire]
    exact ⟨h.spoken, fun _ _ => ⟨rfl, rfl, rfl, rfl⟩⟩

/-- **A clean operation keeps driver and ledger together.** -/
theorem inv_step (w : World) (op : Op) (h : Inv w) (hclean : Clean w op) :
    Inv (step integrate w op) := by
  cases op with
  | acquire call => exact inv_acquire h hclean
  | submit c => exact inv_submit h hclean
  | tick a => exact inv_tick h hclean
  | release stopConfirmed =>
    cases stopConfirmed with
    | true => exact ⟨h.spoken, fun hnone => absurd rfl hnone⟩
    | false => exact h
  | brake => exact ⟨h.spoken, h.tied⟩

theorem lawful_of_inv (w : World) (op : Op) (h : Inv w) : Lawful integrate w op where
  sent := by
    rintro a sending rfl hsent
    obtain ⟨hsound, howner, hplans⟩ := tick_plans hsent
    have hfault : w.1.fault = none := by
      by_contra hne
      cases (h.faulted_iff.mpr hne).symm.trans hsound
    exact rightly_of_plans h howner hfault hplans
  latched hfault := by
    refine ⟨fault_step h hfault op, ?_⟩
    rintro a rfl
    rw [tick_faulted (h.faulted_iff.mpr hfault)]
  kept howner hop := owner_step h howner hop

/-- **Every velocity is safe.**  In a run in which the clock answers every grant and no exception is
without a text, all that is claimed holds of every operation. -/
theorem velocity_safe (integrate : Motion → Motion → ℚ → Motion) (geometry : OmniKinematics)
    (profile : BaseProfile) (ledger : Ledger) (l : List Op)
    (h : Along (step integrate) Clean (init geometry profile, ledger) l) :
    Along (step integrate) (Lawful integrate) (init geometry profile, ledger) l :=
  along_of_invariant inv_step (fun w op hw _ => lawful_of_inv w op hw) l
    (inv_init geometry profile ledger) h

/-! ## 6. Runs -/

/-- Three wheels, each for a component of the twist. -/
def straight : OmniKinematics where
  rows := ![![1, 0, 0], ![0, 1, 0], ![0, 0, 1]]
  regular := by decide +kernel

def slow : BaseProfile where
  rawPerRad _ := 100
  maximumWheel _ := 10
  maximumAcceleration _ := 10
  maximumCommandAge := 1 / 2
  maximumFeedbackAge := 1 / 2
  maximumCycle := 1 / 2
  positive i := by norm_num
  wire i := by norm_num
  budgets := by norm_num

/-- All is well, at the time. -/
def wellAt (milliseconds : ℤ) : TickAnswers where
  session := some 7
  now := .ok (milliseconds / 1000)
  sent := .ok (milliseconds / 1000)
  status := .ok ⟨true, 1, milliseconds, milliseconds, 0⟩
  received := .ok (milliseconds / 1000)
  planned := .ok (milliseconds / 1000)
  evidence := .ok ⟨milliseconds / 1000, "travel-1", true, true, true⟩
  guard _ _ _ _ _ := .ok ()
  checked := .ok (milliseconds / 1000)
  velocity := .ok true
  stop := .ok ()

def grantAt (clock : Except Raised ℚ) : AcquireCall := ⟨"task/1", "nav2", "travel-1", some 7, clock⟩

def forward : SubmitCall where
  twist := [.finite 5, .finite 0, .finite 0]
  observed := .finite (1 / 100)
  owner := "task/1"
  source := "nav2"
  epoch := "travel-1"
  clock := .ok (1 / 100)
  stop := .ok ()

def resting : World := (init straight slow, ⟨none, 0, none, none⟩)

/-- The wheels are left as they are. -/
def standing (pose _twist : Motion) (_dt : ℚ) : Motion := pose

theorem speaking_wellAt (milliseconds : ℤ) : (wellAt milliseconds).Speaking where
  now := nofun
  sent := nofun
  status := nofun
  received := nofun
  planned := nofun
  evidence := nofun
  guard _ _ _ _ _ := nofun
  checked := nofun
  velocity := nofun

theorem velocity_safe_forward :
    Along (step standing) (Lawful standing) resting
      [.acquire (grantAt (.ok 0)), .submit forward, .tick (wellAt 100), .release true] :=
  velocity_safe standing straight slow ⟨none, 0, none, none⟩ _
    ⟨fun _ _ => ⟨0, by decide +kernel⟩, fun _ _ => nofun, fun _ => speaking_wellAt 100, trivial,
      trivial⟩

/-- The wheels turn at 1 rad/s when the ownership is given up; then the clock fails in a grant. -/
def halfTaken : List Op :=
  [.acquire (grantAt (.ok 0)), .submit forward, .tick (wellAt 100), .release true,
    .acquire (grantAt (.error ⟨"TimeoutError", "clock"⟩))]

/-- Ten milliseconds later that owner, who has asked for nothing, is handed 0.9 rad/s. -/
theorem half_taken :
    ¬ Along (step standing) (Lawful standing) resting (halfTaken ++ [.tick (wellAt 110)]) := by
  intro h
  rw [along_append] at h
  obtain ⟨-, h, -⟩ := h
  have hraw : ((run (step standing) resting halfTaken).1.tick standing (wellAt 110)).2.1.map
      (·.raw 0) = some 90 := by
    decide +kernel
  have hlast : (run (step standing) resting halfTaken).1.lastCycle = some (1 / 10) := by
    decide +kernel
  have hbefore : (run (step standing) resting halfTaken).2.sent 0 = 0 := by
    decide +kernel
  obtain ⟨sending, hsent, hninety⟩ := Option.map_eq_some_iff.mp hraw
  obtain ⟨now, cycle, target, hnow, hcycle, -, -, -, hbound⟩ := (h.sent _ sending rfl hsent).derived
  have hscale : (run (step standing) resting halfTaken).1.profile.rawPerRad 0 = 100 := by
    decide +kernel
  have hlimit : (run (step standing) resting halfTaken).1.profile.maximumAcceleration 0 = 10 := by
    decide +kernel
  have hslewed := hbound 0
  unfold BaseProfile.ratesOf at hslewed
  rw [hbefore, hscale, hlimit, hninety] at hslewed
  have htime : ((110 : ℤ) : ℚ) / 1000 = now := Except.ok.inj hnow
  have hten : 1 / 10 = now - cycle := Option.some.inj (hlast.symm.trans hcycle)
  have hshort : cycle = 1 / 100 := by
    rw [← sub_sub_cancel now cycle, ← hten, ← htime]
    norm_num
  rw [hshort] at hslewed
  norm_num at hslewed

end BaseDriver

end MobileBimanual.Tasks
