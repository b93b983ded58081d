/-
# Velocity jobs finish before they expire

The output's run on two clocks.  The microsecond counter reads true time, and the millisecond
counter the same time divided by 1000, at any phase; both wrap.  A job of the WHEELS or LIFT slot
was queued by some poll of the run; what justifies it is the supervisor's command, and the lease
on the lift, that this poll found in force.

A slot's deadline is a word, and the word of a deadline long past reads as one ahead.  The output
empties late slots at every poll, so this does not happen while no more than half a turn of the
microsecond counter passes between a poll and the next poll or hand-out (`OnClock`).  In every such
run what is handed out can use up its whole budget before its command or its lease runs out
(`velocity_in_time`); `late_hand_out` is a run that lets a whole turn pass.
-/
import MobileBimanual.Mobile.VelocityJobs

namespace MobileBimanual.Mobile

open MobileBimanual.Stream (Byte Tick)
open MobileBimanual.Bus
open Machine Readings MobileOutput

/-! ## 1. The slots under the router's calls -/

section Slots

variable {r : Router}

/-- A turn of the scan leaves a slot as it was, or empties it. -/
theorem visit_slot {now available : Tick} {kind other : Work}
    (h : ((Router.visit now available r kind).1.jobs other).pending = true) :
    (Router.visit now available r kind).1.jobs other = r.jobs other := by
  rcases Router.visit_cases now available r kind with
    ⟨-, heq⟩ | ⟨-, -, heq⟩ | ⟨-, -, heq⟩ | ⟨-, -, heq⟩ | ⟨-, -, heq⟩ <;> rw [heq] at h ⊢
  · obtain ⟨hne, -⟩ := Router.drop_pending.mp h
    exact Function.update_of_ne hne _ _
  · rfl
  · obtain ⟨hne, -⟩ := Router.drop_pending.mp h
    exact Function.update_of_ne hne _ _

/-- The slots of a scan: as they were before it, some of them empty. -/
def Thinned (r s : Router) : Prop :=
  ∀ kind, (s.jobs kind).pending = true → s.jobs kind = r.jobs kind

theorem Thinned.visit {s : Router} (h : Thinned r s) (now available : Tick) (kind : Work) :
    Thinned r (Router.visit now available s kind).1 := by
  intro other hp
  have hsame := visit_slot hp
  rw [hsame] at hp ⊢
  exact h other hp

/-- **The next job** comes from a slot that is not late, and takes its budget onto the bus; the
other slots are thinned. -/
theorem next_slots (r : Router) (now available : Tick) :
    Thinned r (r.next now available).1 ∧
    ∀ out, (r.next now available).2 = some out →
      (r.jobs out.kind).pending = true ∧ (r.jobs out.kind).late now = false ∧
      out.bytes = (r.jobs out.kind).bytes ∧
      (r.next now available).1.bus.budgetUs = (r.jobs out.kind).budgetUs := by
  have hpoll : Thinned r (r.poll now) := fun _ _ => rfl
  rcases Router.next_rule (P := Thinned r) hpoll
      (fun s kind hs _ => hs.visit now available kind) with
    ⟨hnone, hthin⟩ | ⟨s, kind, hthin, hoffered, -, heq⟩
  · refine ⟨hthin, fun out hout => ?_⟩
    rw [hnone] at hout
    cases hout
  · obtain ⟨hpending, hlate, -, -⟩ := Router.offered_iff.mp hoffered
    have hsame := hthin kind hpending
    rw [heq]
    constructor
    · intro other hp
      obtain ⟨hne, hp⟩ := Router.drop_pending.mp hp
      exact (Function.update_of_ne hne _ _).trans (hthin other hp)
    · intro out hout
      cases hout
      rw [hsame] at hpending hlate
      refine ⟨hpending, hlate, ?_, ?_⟩
      · rw [hsame]
      · exact congrArg Job.budgetUs hsame

/-- A call that submits nothing to a slot leaves it as it was, or empties it. -/
theorem call_slots (r : Router) {call : Call} {kind : Work}
    (hother : ∀ k bytes now deadline budget, call = .submit k bytes now deadline budget →
      k ≠ kind.toNat)
    (h : ((r.call call).jobs kind).pending = true) :
    (r.call call).jobs kind = r.jobs kind := by
  cases call with
  | submit k bytes now deadline budget =>
    rw [Router.call, Router.submit] at h ⊢
    split at h
    · rfl
    rename_i work hwork
    have hne : kind ≠ work := by
      rintro rfl
      exact hother k bytes now deadline budget rfl (Work.toNat_of_ofNat? hwork).symm
    rcases r.submitWork_cases work bytes now deadline budget with
      ⟨-, heq⟩ | ⟨-, heq⟩ | ⟨-, rfl, -, heq⟩ | ⟨-, -, -, -, -, heq⟩ <;> rw [heq] at h ⊢
    · rfl
    · rw [fill_other _ hne] at h ⊢
      exact absurd h (by simp [Router.requestStop, Router.flush, hne])
    · exact fill_other _ hne _ _ _
  | next now available => exact (next_slots r now available).1 kind h
  | complete token now ok =>
    rcases r.complete_cases token now ok with heq | ⟨-, -, -, -, heq⟩ | ⟨-, -, -, -, heq⟩
    · rw [Router.call, heq]
      rfl
    · rw [Router.call, heq]
    · rw [Router.call, heq]
  | poll now => rfl
  | resume confirmed =>
    rcases r.resume_cases confirmed with heq | ⟨-, -, -, -, heq⟩ <;> rw [Router.call, heq]
  | recover idle =>
    rcases r.recover_cases idle with heq | ⟨-, heq⟩ <;> rw [Router.call, heq]

end Slots

/-! ## 2. The two clocks -/

/-- The microsecond counter. -/
def usAt (time : ℕ) : Tick := Serial.ofTime time

/-- The millisecond counter. -/
def msAt (phase time : ℕ) : Tick := Serial.ofTime ((time + phase) / 1000)

/-- While the true deadline is no more than half a turn past, a job that does not read as late has
its budget left. -/
theorem lt_of_not_late {job : Job} {due now : ℕ} (hdue : job.deadlineUs = usAt due)
    (hback : now ≤ due + 2 ^ 31) (hahead : due < now + 2 ^ 32) (h : job.late (usAt now) = false) :
    now + job.budgetUs.toNat < due := by
  simp only [Job.late, hdue, Bool.or_eq_false_iff, beq_eq_false_iff_ne, decide_eq_false_iff_not,
    BitVec.not_le, BitVec.lt_def] at h
  obtain ⟨⟨hne, hhalf⟩, hbudget⟩ := h
  have hhalf' : (usAt due - usAt now).toNat < 2 ^ 31 := hhalf
  rcases Nat.lt_or_ge now due with hlt | hge
  · have hdistance : (usAt due - usAt now).toNat = due - now :=
      Serial.ahead_ofTime hlt.le (by omega)
    omega
  · exfalso
    have hback' : (usAt now - usAt due).toNat = now - due := Serial.ahead_ofTime hge (by omega)
    have hdiffer : usAt due ≠ usAt now := by
      intro heq
      rw [heq, BitVec.sub_self] at hne
      exact hne rfl
    have hturn : (usAt due - usAt now).toNat + (usAt now - usAt due).toNat = 2 ^ 32 :=
      Serial.ahead_swap hdiffer
    omega

variable {time : ℕ}

/-- Fewer milliseconds pass than the lifetime has begun. -/
theorem ms_elapsed (phase : ℕ) {start lifetime count : ℕ} (hlater : start ≤ time)
    (hbefore : time < start + lifetime) (hcount : lifetime ≤ count * 1000) :
    ∃ passed, passed ≤ count ∧ msAt phase time = msAt phase start + BitVec.ofNat 32 passed := by
  refine ⟨(time + phase) / 1000 - (start + phase) / 1000, by omega, ?_⟩
  rw [msAt, msAt, ← Serial.ofTime_add]
  congr 1
  omega

/-! ## 3. What justifies a job -/

section Warrant

variable {ids : MobileIds} {phase : ℕ} {poll : ℕ × MobileOutput} {kind : Work} {job : Job}

/-- The job was queued by this poll, at this time and with what it left. -/
structure Warranted (ids : MobileIds) (phase : ℕ) (poll : ℕ × MobileOutput) (kind : Work)
    (job : Job) : Prop where
  live : poll.2.Live (msAt phase poll.1)
  queued : poll.2.Queued ids (usAt poll.1) (msAt phase poll.1) kind job
  short : poll.2.config.jobLifetimeUs.toNat ≤ 1000000

/-- The true time of a job's deadline, seen from the poll that queued it. -/
def dueAt (poll : ℕ × MobileOutput) (job : Job) : ℕ :=
  poll.1 + (job.deadlineUs - usAt poll.1).toNat

theorem deadline_dueAt (poll : ℕ × MobileOutput) (job : Job) :
    job.deadlineUs = usAt (dueAt poll job) :=
  Serial.ofTime_add_ahead job.deadlineUs poll.1

theorem Warranted.dueAt_le (h : Warranted ids phase poll kind job) :
    dueAt poll job ≤ poll.1 + 1000000 :=
  Nat.add_le_add_left (h.queued.2.1.1.trans h.short) poll.1

theorem command_runs {now start validFor : Tick} {passed : ℕ} (h : now - start < validFor)
    (hpassed : passed < (validFor - (now - start)).toNat) :
    now + BitVec.ofNat 32 passed - start < validFor := by
  have hsum : now + BitVec.ofNat 32 passed - start = now - start + BitVec.ofNat 32 passed := by
    bv_omega
  rw [hsum]
  generalize now - start = elapsed at *
  rw [BitVec.toNat_sub_of_le (BitVec.le_of_lt h)] at hpassed
  have hbound := validFor.isLt
  rw [BitVec.lt_def, BitVec.toNat_add, BitVec.toNat_ofNat]
  omega

theorem lease_runs {now dueMs limit : Tick} {passed : ℕ} (h : Open limit (dueMs - now))
    (hpassed : passed < (dueMs - now).toNat) :
    Open limit (dueMs - (now + BitVec.ofNat 32 passed)) := by
  have hdifference : dueMs - (now + BitVec.ofNat 32 passed) =
      dueMs - now - BitVec.ofNat 32 passed := by
    bv_omega
  rw [hdifference]
  generalize dueMs - now = remaining at *
  have hbound := remaining.isLt
  have hword : (BitVec.ofNat 32 passed).toNat = passed := by
    rw [BitVec.toNat_ofNat, Nat.mod_eq_of_lt (by omega)]
  have hvalue : (remaining - BitVec.ofNat 32 passed).toNat = remaining.toNat - passed := by
    rw [BitVec.toNat_sub_of_le (BitVec.le_def.mpr (by omega)), hword]
  have hle := BitVec.le_def.mp h.2
  constructor
  · intro hzero
    have hnone : (0 : Tick).toNat = 0 := rfl
    rw [hzero] at hvalue
    omega
  · rw [BitVec.le_def, hvalue]
    omega

/-- **Up to its deadline what justifies a job runs.** -/
theorem Warranted.runs (h : Warranted ids phase poll kind job) (hlater : poll.1 ≤ time)
    (hbefore : time < dueAt poll job) : poll.2.Live (msAt phase time) := by
  obtain ⟨-, ⟨-, hcommand, hlease⟩, -⟩ := h.queued
  constructor
  · intro hactive
    obtain ⟨hspare, hcovered⟩ := hcommand hactive
    obtain ⟨passed, hpassed, hms⟩ := ms_elapsed phase hlater hbefore hcovered
    have hruns := h.live.1 hactive
    simp only [MobileSupervisor.unexpired, decide_eq_true_eq] at hruns ⊢
    rw [hms]
    exact command_runs hruns (by omega)
  · intro hlifting
    obtain ⟨hspare, hcovered⟩ := hlease hlifting
    obtain ⟨passed, hpassed, hms⟩ := ms_elapsed phase hlater hbefore hcovered
    rw [hms]
    exact lease_runs (h.live.2 hlifting) (by omega)

end Warrant

/-! ## 4. Runs -/

/-- The output, and when it was polled with what that left, the last poll first. -/
structure PollLog where
  output : MobileOutput
  polls : List (ℕ × MobileOutput)

namespace PollLog

/-- An event at a true time. -/
def step (ids : MobileIds) (l : PollLog) (e : ℕ × OutputEvent) : PollLog :=
  { output := l.output.step ids e.2
    polls :=
      match e.2 with
      | .poll .. => (e.1, l.output.step ids e.2) :: l.polls
      | _ => l.polls }

/-- No more than half a turn of the microsecond counter after the last poll. -/
def InTime (l : PollLog) (time : ℕ) : Prop :=
  ∀ last ∈ l.polls.head?, last.1 ≤ time ∧ time ≤ last.1 + 2 ^ 31

/-- Polls and hand-outs read the two counters and come in time.  Nobody but the output submits
velocity jobs, and its supervisor is always a configured one. -/
def OnClock (phase : ℕ) (l : PollLog) (e : ℕ × OutputEvent) : Prop :=
  match e.2 with
  | .poll nowUs nowMs _ => nowUs = usAt e.1 ∧ nowMs = msAt phase e.1 ∧ l.InTime e.1
  | .router ⟨.next nowUs _, _⟩ => nowUs = usAt e.1 ∧ l.InTime e.1
  | .router ⟨.submit kind .., _⟩ => kind ≠ Work.wheels.toNat ∧ kind ≠ Work.lift.toNat
  | .world supervisor _ => supervisor.configured = true
  | _ => True

/-- A velocity job that is handed out was queued by a poll of the run, and at all times from there
until its budget is used up, the command and the lease that the poll found are in force. -/
def FinishesInTime (ids : MobileIds) (phase : ℕ) (l : PollLog) (e : ℕ × OutputEvent) : Prop :=
  ∀ out, l.output.handout e.2 = some out → IsVelocity out.kind →
    ∃ poll ∈ l.polls, poll.1 ≤ e.1 ∧
      (∃ work ∈ [poll.2.wheelsJob poll.2.liftActive, poll.2.liftJob poll.2.liftActive],
        work.kind = out.kind ∧
          motorGroupVelocities ids work.group work.velocities = .ok out.bytes) ∧
      ∀ time, poll.1 ≤ time →
        time ≤ e.1 + (l.output.step ids e.2).router.bus.budgetUs.toNat →
          poll.2.Live (msAt phase time)

/-- Each velocity job was queued by a poll of the run, and its deadline is not past. -/
structure Sound (ids : MobileIds) (phase : ℕ) (l : PollLog) : Prop where
  ready : l.output.Ready
  latched : Latched l.output
  short : l.output.config.jobLifetimeUs.toNat ≤ 1000000
  slots : ∀ kind, IsVelocity kind → (l.output.router.jobs kind).pending = true →
    ∃ poll ∈ l.polls, Warranted ids phase poll kind (l.output.router.jobs kind) ∧
      ∀ last ∈ l.polls.head?, poll.1 ≤ last.1 ∧
        last.1 + (l.output.router.jobs kind).budgetUs.toNat <
          dueAt poll (l.output.router.jobs kind)

section Steps

variable {ids : MobileIds} {phase : ℕ} {l : PollLog}

/-- An operation that is no poll and leaves of each slot what was there, or nothing. -/
theorem Sound.thinned (h : Sound ids phase l) {o : MobileOutput} (hready : o.Ready)
    (hlatched : Latched o) (hconfig : o.config = l.output.config)
    (hslots : ∀ kind, IsVelocity kind → (o.router.jobs kind).pending = true →
      o.router.jobs kind = l.output.router.jobs kind) : Sound ids phase ⟨o, l.polls⟩ where
  ready := hready
  latched := hlatched
  short := hconfig ▸ h.short
  slots kind hkind hp := by
    have hsame := hslots kind hkind hp
    change (o.router.jobs kind).pending = true at hp
    rw [hsame] at hp
    change ∃ poll ∈ l.polls, Warranted ids phase poll kind (o.router.jobs kind) ∧ _
    rw [hsame]
    exact h.slots kind hkind hp

/-- A job that a poll or a hand-out finds not late has its budget left. -/
theorem Sound.left (h : Sound ids phase l) (htime : l.InTime time) {kind : Work}
    (hkind : IsVelocity kind) (hp : (l.output.router.jobs kind).pending = true)
    (hlate : (l.output.router.jobs kind).late (usAt time) = false) :
    ∃ poll ∈ l.polls, Warranted ids phase poll kind (l.output.router.jobs kind) ∧
      poll.1 ≤ time ∧ time + (l.output.router.jobs kind).budgetUs.toNat <
        dueAt poll (l.output.router.jobs kind) := by
  obtain ⟨poll, hpoll, hwarranted, hlast⟩ := h.slots kind hkind hp
  obtain ⟨last, hhead⟩ : ∃ last, last ∈ l.polls.head? := by
    cases hpolls : l.polls with
    | nil =>
      rw [hpolls] at hpoll
      cases hpoll
    | cons last polls => exact ⟨last, rfl⟩
  obtain ⟨hafter, hleft⟩ := hlast last hhead
  obtain ⟨hlater, hhalf⟩ := htime last hhead
  have hdue := hwarranted.dueAt_le
  exact ⟨poll, hpoll, hwarranted, hafter.trans hlater,
    lt_of_not_late (deadline_dueAt poll _) (by omega) (by omega) hlate⟩

theorem Sound.poll (h : Sound ids phase l) {time : ℕ} {epoch : Tick} (htime : l.InTime time) :
    Sound ids phase (l.step ids (time, .poll (usAt time) (msAt phase time) epoch)) := by
  obtain ⟨hready, hfed⟩ := poll_spec ids h.ready (usAt time) (msAt phase time) epoch
  have hlatched : Latched (l.output.poll ids (usAt time) (msAt phase time) epoch) :=
    h.latched.step (.poll (usAt time) (msAt phase time) epoch)
  have hconfig := ((placed_driven ids).poll l.output (usAt time) (msAt phase time)
    epoch).config
  change Sound ids phase ⟨l.output.poll ids (usAt time) (msAt phase time) epoch,
    (time, l.output.poll ids (usAt time) (msAt phase time) epoch) :: l.polls⟩
  generalize l.output.poll ids (usAt time) (msAt phase time) epoch = o at *
  refine ⟨hready, hlatched, hconfig ▸ h.short, fun kind hkind hp => ?_⟩
  change (o.router.jobs kind).pending = true at hp
  rcases hfed with hstopped | ⟨hlive, hslots⟩
  · rw [(hlatched.shut hstopped).flushed kind hkind.ne_stop] at hp
    cases hp
  rcases hslots kind hkind hp with ⟨hsame, hlate⟩ | hqueued
  · rw [hsame] at hp
    obtain ⟨poll, hpoll, hwarranted, hafter, hleft⟩ := h.left htime hkind hp hlate
    refine ⟨poll, List.mem_cons_of_mem _ hpoll, hsame ▸ hwarranted, fun last hlast => ?_⟩
    cases hlast
    exact ⟨hafter, hsame ▸ hleft⟩
  · refine ⟨(time, o), List.mem_cons_self, ⟨hlive, hqueued, hconfig ▸ h.short⟩,
      fun last hlast => ?_⟩
    cases hlast
    exact ⟨le_rfl, Nat.add_lt_add_left hqueued.1 time⟩

theorem completed_kept (ids : MobileIds) (o : MobileOutput) (kind : Work) (completedMs : Tick) :
    (o.completed ids kind completedMs).supervisor = o.supervisor ∧
      (o.completed ids kind completedMs).config = o.config ∧
      (o.completed ids kind completedMs).router = o.router := by
  unfold completed
  split
  · exact ⟨rfl, rfl, rfl⟩
  · exact ⟨rfl, rfl, rfl⟩

theorem rearm_kept (o : MobileOutput) (session epochUs nowMs : Tick) (confirmed : Bool) :
    (o.supervisor.configured = true →
        (o.rearm session epochUs nowMs confirmed).1.supervisor.configured = true) ∧
      (o.rearm session epochUs nowMs confirmed).1.config = o.config ∧
      (o.rearm session epochUs nowMs confirmed).1.router.jobs = o.router.jobs := by
  have harm : o.supervisor.configured = true →
      (o.supervisor.arm session nowMs).1.configured = true := by
    intro hs
    have hpoll : (o.supervisor.poll nowMs).configured = true := by
      rcases o.supervisor.poll_eq nowMs with heq | ⟨reason, heq⟩ <;> rw [heq] <;> exact hs
    rcases o.supervisor.arm_cases session nowMs with heq | ⟨-, -, -, -, heq⟩ <;> rw [heq] <;>
      exact hpoll
  unfold rearm
  split
  · exact ⟨id, rfl, rfl⟩
  split
  · exact ⟨id, rfl, rfl⟩
  rcases o.router.resume_cases true with heq | ⟨-, -, -, -, heq⟩ <;> rw [heq]
  · exact ⟨id, rfl, rfl⟩
  · dsimp only
    generalize o.supervisor.arm session nowMs = armed at harm ⊢
    rcases armed with ⟨supervisor, _ | _⟩
    · exact ⟨harm, rfl, rfl⟩
    · exact ⟨harm, rfl, rfl⟩

/-- **Every event on the clocks keeps it.** -/
theorem Sound.step (h : Sound ids phase l) (e : ℕ × OutputEvent) (hclock : l.OnClock phase e) :
    Sound ids phase (l.step ids e) := by
  obtain ⟨time, event⟩ := e
  have hlatched : Latched (l.output.step ids event) := h.latched.step event
  have hthinned (hsupervised : (l.output.step ids event).supervisor.configured = true)
      (hconfig : (l.output.step ids event).config = l.output.config)
      (hslots : ∀ kind, IsVelocity kind →
        ((l.output.step ids event).router.jobs kind).pending = true →
          (l.output.step ids event).router.jobs kind = l.output.router.jobs kind) :
      Sound ids phase ⟨l.output.step ids event, l.polls⟩ :=
    h.thinned ⟨hlatched.configured, hsupervised⟩ hlatched hconfig hslots
  cases event with
  | poll nowUs nowMs epoch =>
    obtain ⟨hus, hms, htime⟩ := hclock
    dsimp only at hus hms
    subst hus hms
    exact h.poll htime
  | router call =>
    refine hthinned h.ready.supervised rfl fun kind hkind hp => ?_
    refine call_slots l.output.router (fun k bytes now deadline budget heq => ?_) hp
    obtain ⟨call, hcall⟩ := call
    obtain rfl : call = _ := heq
    obtain ⟨hwheels, hlift⟩ := hclock
    rcases hkind with rfl | rfl
    · exact hwheels
    · exact hlift
  | completed kind completedMs =>
    obtain ⟨hsupervisor, hconfig, hrouter⟩ := completed_kept ids l.output kind completedMs
    refine hthinned ?_ hconfig fun _ _ _ => ?_
    · exact (congrArg MobileSupervisor.configured hsupervisor).trans h.ready.supervised
    · exact congrArg (fun r : Router => r.jobs _) hrouter
  | stop fault =>
    have hemptied := Emptied.stop l.output fault
    exact hthinned (hemptied.supervised h.ready.supervised) hemptied.config
      fun kind _ => hemptied.slots kind
  | rearm session epochUs nowMs confirmed =>
    obtain ⟨hsupervised, hconfig, hjobs⟩ := rearm_kept l.output session epochUs nowMs confirmed
    exact hthinned (hsupervised h.ready.supervised) hconfig fun kind _ _ => congrFun hjobs kind
  | bindLift =>
    have hbound : ∃ liftBound, l.output.step ids .bindLift = { l.output with liftBound } := by
      rw [MobileOutput.step, MobileOutput.bindLift]
      split
      · exact ⟨l.output.liftBound, rfl⟩
      · exact ⟨true, rfl⟩
    obtain ⟨liftBound, heq⟩ := hbound
    rw [heq] at hthinned
    change Sound ids phase ⟨l.output.step ids .bindLift, l.polls⟩
    rw [heq]
    exact hthinned h.ready.supervised rfl fun _ _ _ => rfl
  | world supervisor endpoint => exact hthinned hclock rfl fun _ _ _ => rfl

/-- **What is handed out can use up its budget in time.** -/
theorem Sound.finishes (h : Sound ids phase l) (e : ℕ × OutputEvent) (hclock : l.OnClock phase e) :
    FinishesInTime ids phase l e := by
  intro out hout hkind
  obtain ⟨time, event⟩ := e
  cases event with
  | router call =>
    obtain ⟨call, hcall⟩ := call
    cases call with
    | next nowUs available =>
      obtain ⟨hus, htime⟩ := hclock
      dsimp only at hus
      subst hus
      obtain ⟨hp, hlate, hbytes, hbudget⟩ :=
        (next_slots l.output.router (usAt time) available).2 out hout
      obtain ⟨poll, hpoll, hwarranted, hafter, hleft⟩ := h.left htime hkind hp hlate
      refine ⟨poll, hpoll, hafter, ?_, fun t hlater hbefore => ?_⟩
      · obtain ⟨-, -, work, hwork, hclass, hpacket⟩ := hwarranted.queued
        exact ⟨work, hwork, hclass, hbytes ▸ hpacket⟩
      · refine hwarranted.runs hlater (lt_of_le_of_lt hbefore ?_)
        change time + (l.output.router.next (usAt time) available).1.bus.budgetUs.toNat < _
        rw [hbudget]
        exact hleft
    | _ => cases hout
  | _ => cases hout

end Steps

/-- **Velocity jobs finish before they expire.**  Along every run of the output from its start on,
whatever happens in the supervisor and the lift, with the two counters at any phase and both
wrapping: every WHEELS or LIFT job that is handed out can use up its whole budget while the command
and the lease of the poll that queued it are in force. -/
theorem velocity_in_time (ids : MobileIds) (phase : ℕ) {supervisor : MobileSupervisor}
    {endpoint : LiftEndpoint} {config : MobileOutputConfig} {epoch : Tick} {o : MobileOutput}
    (h : init supervisor endpoint config epoch = some o)
    {events : List (ℕ × OutputEvent)}
    (hclock : Along (step ids) (OnClock phase) ⟨o, []⟩ events) :
    Along (step ids) (FinishesInTime ids phase) ⟨o, []⟩ events := by
  have hstart : Sound ids phase ⟨o, []⟩ := by
    have hlatched := latched_init h
    unfold init at h
    split at h
    · cases h
    rename_i hok
    simp only [Bool.or_eq_true, Bool.not_eq_true', not_or, Bool.not_eq_false] at hok
    obtain ⟨schedule, -, rfl⟩ := Option.map_eq_some_iff.mp h
    exact ⟨⟨rfl, hok.1.1⟩, hlatched, (stopBudget_of_configOk hok.2).short,
      fun _ _ hp => by cases hp⟩
  exact along_of_invariant (fun _ e hl he => Sound.step hl e he)
    (fun _ e hl he => hl.finishes e he) events hstart hclock

/-! ## 5. The bench -/

instance (o : MobileOutput) (nowMs : Tick) : Decidable (o.Live nowMs) :=
  inferInstanceAs (Decidable ((_ → _) ∧ (_ → _)))

/-- The supervisor of the bench with a command for the wheels, valid for 200 ms. -/
def Bench.driving : MobileSupervisor :=
  let feedback : MobileFeedback :=
    { observedMs := 0, velocityRaw := fun _ => 0, liftPositionUm := 100
      velocityModesVerified := true, liftHomed := true, hardwareOk := true }
  let observed := ((MobileSupervisor.init benchSupervisor).1.observe feedback 0).1
  ((observed.arm 7 0).1.command 7 1 ![100, 100, 100, 0] 0).1

def Bench.start : PollLog :=
  ⟨bench benchConfig bench_starts, []⟩

/-- The last of the three polls finds the window open and queues both jobs. -/
def Bench.polled : List (ℕ × OutputEvent) :=
  [(0, .world Bench.driving benchEndpoint),
    (400, .poll (usAt 400) (msAt 0 400) 0), (800, .poll (usAt 800) (msAt 0 800) 0),
    (1200, .poll (usAt 1200) (msAt 0 1200) 0)]

def Bench.handOut (time : ℕ) : ℕ × OutputEvent :=
  (time, .router ⟨.next (usAt time) 3500, fun _ h => by cases h⟩)

theorem Bench.inTime {o : MobileOutput} {polls : List (ℕ × MobileOutput)} {last : ℕ}
    {left : MobileOutput} (hlater : last ≤ time) (hhalf : time ≤ last + 2 ^ 31) :
    InTime ⟨o, (last, left) :: polls⟩ time := by
  intro poll hpoll
  cases hpoll
  exact ⟨hlater, hhalf⟩

theorem Bench.onClock (o : MobileOutput) : Along (step .reference) (OnClock 0) ⟨o, []⟩
    (Bench.polled ++ [Bench.handOut 1300]) :=
  ⟨(by decide +kernel : Bench.driving.configured = true), ⟨rfl, rfl, fun _ h => by cases h⟩,
    ⟨rfl, rfl, Bench.inTime (by norm_num) (by norm_num)⟩,
    ⟨rfl, rfl, Bench.inTime (by norm_num) (by norm_num)⟩,
    ⟨rfl, Bench.inTime (by decide) (by decide)⟩, trivial⟩

theorem velocity_in_time_bench :
    Along (step .reference) (FinishesInTime .reference 0) Bench.start
      (Bench.polled ++ [Bench.handOut 1300]) :=
  velocity_in_time .reference 0 (init_bench _) (Bench.onClock _)

/-- A turn of the microsecond counter later the WHEELS job is still in its slot and reads as in
time: it goes out, 71 minutes after its command ran out. -/
theorem late_hand_out :
    ¬ FinishesInTime .reference 0 (run (step .reference) Bench.start Bench.polled)
      (Bench.handOut (1300 + 2 ^ 32)) := by
  intro h
  have hgoes : ((run (step .reference) Bench.start Bench.polled).output.handout
      (Bench.handOut (1300 + 2 ^ 32)).2).map (·.kind) = some .wheels := by
    decide +kernel
  have hover : ∀ poll ∈ (run (step .reference) Bench.start Bench.polled).polls,
      ¬ poll.2.Live (msAt 0 (1300 + 2 ^ 32)) := by
    decide +kernel
  obtain ⟨out, hout, hkind⟩ := Option.map_eq_some_iff.mp hgoes
  obtain ⟨poll, hpoll, hlater, -, hlive⟩ := h out hout (Or.inl hkind)
  exact hover poll hpoll (hlive _ hlater (Nat.le_add_right _ _))

end PollLog

end MobileBimanual.Mobile
