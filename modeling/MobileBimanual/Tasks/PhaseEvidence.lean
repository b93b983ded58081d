/-
# The evidence that completes a phase

A poll completes a phase on a report of the monitor that is dated after the phase began
(`SequenceEntry.phaseAt`).  The phase begins when the one before is complete; its child is started by
a later poll, once its port is ready and the conditions hold.  Nothing is kept of that moment, so a
report from between the two is as good as a later one.

`poll_outcome` says what a poll does in terms of the replies it gets: it leaves every goal at its
phase unless all of them are such that the phase is complete (`Replies.Complete`).  So the reports
that complete the phases of a run date from after the starts of their children exactly if no poll
gets such replies with an earlier report (`completions_fresh_iff`).
-/
import MobileBimanual.Tasks.RefusedStart
import MobileBimanual.Tasks.SequenceSafety

namespace MobileBimanual.Tasks

open Activity Oracle Machine Registry SequenceCall Triple

namespace SequencePort

variable {P : Type} {goal : String} {journal : SequenceJournal P} {maxAge : ℚ}

/-! ## 1. When a child was started -/

def lastReading : SequenceJournal P → Option ℚ
  | [] => none
  | ⟨.clock, .ok now⟩ :: _ => some now
  | _ :: journal => lastReading journal

/-- The reading of the clock with which the child was started. -/
def startedAt (child : Child) : SequenceJournal P → Option ℚ
  | [] => none
  | ⟨.start _ other _, _⟩ :: journal =>
    if other = child then lastReading journal else startedAt child journal
  | _ :: journal => startedAt child journal

/-- The clock was read before every start. -/
def Timed : SequenceJournal P → Prop
  | [] => True
  | ⟨.start .., _⟩ :: journal => (lastReading journal).isSome ∧ Timed journal
  | _ :: journal => Timed journal

variable {r : Entry (SequenceCall P) Reply}

theorem lastReading_cons (h : (lastReading journal).isSome) :
    (lastReading (r :: journal)).isSome := by
  obtain ⟨call, reply⟩ := r
  cases call with
  | clock =>
    cases reply with
    | ok now => rfl
    | error error => exact h
  | _ => exact h

theorem timed_cons (hplain : Plain r.call) : Timed (r :: journal) ↔ Timed journal := by
  obtain ⟨call, reply⟩ := r
  cases call with
  | start port child parameters => exact hplain.elim
  | _ => exact Iff.rfl

variable {child : Child}

theorem startedAt_cons (hplain : Plain r.call) :
    startedAt child (r :: journal) = startedAt child journal := by
  obtain ⟨call, reply⟩ := r
  cases call with
  | start port other parameters => exact hplain.elim
  | _ => rfl

theorem not_concerns_of_plain {call : SequenceCall P} (hplain : Plain call) (goal : String) :
    ¬ Concerns call goal := by
  cases call with
  | start port child parameters => exact hplain.elim
  | _ => exact id

theorem start_of_not_plain (h : ¬ Plain r.call) :
    ∃ port child parameters reply, r = ⟨.start port child parameters, reply⟩ := by
  obtain ⟨call, reply⟩ := r
  cases call with
  | start port child parameters => exact ⟨port, child, parameters, reply, rfl⟩
  | _ => exact absurd trivial h

theorem startedAt_of_mem {port : P} (htimed : Timed journal)
    (hmem : (port, child) ∈ starts child.goal journal) :
    ∃ moment, startedAt child journal = some moment := by
  induction journal with
  | nil => cases hmem
  | cons r journal ih =>
    by_cases hplain : Plain r.call
    · rw [startedAt_cons hplain]
      refine ih ((timed_cons hplain).mp htimed) ?_
      rwa [starts_cons (not_concerns_of_plain hplain _)] at hmem
    · obtain ⟨port', other, parameters, reply, rfl⟩ := start_of_not_plain hplain
      by_cases hother : other = child
      · obtain ⟨moment, hmoment⟩ := Option.isSome_iff_exists.mp htimed.1
        exact ⟨moment, (if_pos hother).trans hmoment⟩
      · obtain ⟨moment, hmoment⟩ := ih htimed.2 (by
          by_cases hgoal : other.goal = child.goal
          · rw [starts, if_pos hgoal] at hmem
            refine (List.mem_append.mp hmem).resolve_right fun hlast => hother ?_
            exact (congrArg Prod.snd (List.mem_singleton.mp hlast)).symm
          · rwa [starts, if_neg hgoal] at hmem)
        exact ⟨moment, (if_neg hother).trans hmoment⟩

/-- The clock has been read. -/
def Read (journal : SequenceJournal P) : Prop := Timed journal ∧ (lastReading journal).isSome

variable {α : Type} {x : Sequence P α}

/-- What no call but a start disturbs, an action without a start keeps. -/
theorem triple_undisturbed {I : SequenceJournal P → Prop}
    (hI : ∀ r journal, Plain r.call → I journal → I (r :: journal))
    (hx : x.Keeps (Frame.free Plain)) :
    Triple (conduct (SequenceCall P) Reply) (fun _ => I) x (fun _ _ => I)
      fun _ _ => I := by
  refine (hx.triple_kept (P := fun _ => True) (I := I) (fun _ _ _ => id) ?_ ?_).conseq
    (fun _ _ h => ⟨trivial, h⟩) (fun _ _ _ h => h.2) fun _ _ _ h => h.2
  · rintro before after h rfl
    exact h
  · rintro w call before hplain h
    refine ⟨trivial, ?_⟩
    rintro reply after rfl
    exact hI ⟨call, reply⟩ before hplain h

theorem triple_timed (hx : x.Keeps (Frame.free Plain)) :
    Triple (conduct (SequenceCall P) Reply) (fun _ => Timed) x (fun _ _ => Timed)
      fun _ _ => Timed :=
  triple_undisturbed (fun _ _ hplain => (timed_cons hplain).mpr) hx

theorem triple_read (hx : x.Keeps (Frame.free Plain)) :
    Triple (conduct (SequenceCall P) Reply) (fun _ => Read) x (fun _ _ => Read)
      fun _ _ => Timed :=
  (triple_undisturbed (fun _ _ hplain h => ⟨(timed_cons hplain).mpr h.1, lastReading_cons h.2⟩)
    hx).conseq (fun _ _ h => h) (fun _ _ _ h => h) fun _ _ _ h => h.1

theorem launch_timed {phase : Phase P} {conditions : Conditions} :
    Triple (conduct (SequenceCall P) Reply) (fun _ => Read)
      (launch goal phase child conditions) (fun _ _ => Timed) fun _ _ => Timed := by
  refine bind (triple_read (keeps_call fun _ => trivial)) fun ready =>
    triple_ite (fun _ => ?_) fun _ => triple_pure fun _ _ h => h.1
  refine bind (M := fun _ _ => Read) (triple_modify fun _ _ h => h) fun _ => ?_
  exact triple_invoke (fun _ _ _ h => ⟨h.2, h.1⟩) fun _ _ _ h => ⟨h.2, h.1⟩

theorem advance_timed {phase : Phase P} :
    Triple (conduct (SequenceCall P) Reply) (fun _ => Timed)
      (advance maxAge goal phase child) (fun _ _ => Timed) fun _ _ => Timed := by
  refine bind (triple_timed keeps_entry) fun e =>
    triple_ite (fun _ => triple_pure fun _ _ h => h) fun _ => bind (M := fun _ _ => Read)
      (triple_invoke (fun _ _ _ h => ⟨h, rfl⟩) fun _ _ _ h => h) fun now => ?_
  refine triple_ite (fun _ => ?_) fun _ => ?_
  · exact (triple_timed (keeps_free keeps_cancelEntry)).conseq (fun _ _ h => h.1)
      (fun _ _ _ h => h) fun _ _ _ h => h
  refine bind (triple_read ?_) fun conditions => triple_ite (fun _ => ?_) fun _ =>
    launch_timed
  · exact keeps_evidence.mono (fun _ _ => id) fun _ _ _ => trivial
  · exact (triple_timed keeps_follow).conseq (fun _ _ h => h.1) (fun _ _ _ h => h) fun _ _ _ h => h

theorem poll_timed :
    Triple (conduct (SequenceCall P) Reply) (fun _ => Timed) (poll maxAge goal)
      (fun _ _ => Timed) fun _ _ => Timed := by
  refine bind (triple_timed keeps_entry) fun e =>
    triple_ite (fun _ => triple_pure fun _ _ h => h) fun _ => ?_
  split
  · exact triple_throw fun _ _ h => h
  · exact bind (advance_timed.tryCatch fun _ => triple_timed (keeps_free keeps_cancelEntry))
      fun _ => bind (triple_timed (keeps_free keeps_settle)) fun _ =>
        bind (triple_timed keeps_entry) fun _ => triple_pure fun _ _ h => h

theorem keeps_phaseSafe : (phaseSafe maxAge goal : Sequence P Bool).Keeps (Frame.still Plain) := by
  refine keeps_entry.bind fun e => ?_
  split
  · exact keeps_pure _
  split
  · exact keeps_pure _
  split
  · exact keeps_throw _
  · exact (keeps_evidence.bind fun _ => keeps_pure _).tryCatch fun _ => keeps_pure _

theorem op_timed (op : SequenceOp) :
    Triple (conduct (SequenceCall P) Reply) (fun _ => Timed) (op.action maxAge)
      (fun _ _ => Timed) fun _ _ => Timed := by
  cases op with
  | start goal parameters => exact triple_timed keeps_start
  | poll goal => exact bind poll_timed fun _ => triple_pure fun _ _ h => h
  | cancel goal => exact triple_timed (keeps_free keeps_cancelEntry)
  | phaseSafe goal =>
    exact bind (triple_timed (keeps_phaseSafe.mono (fun _ _ => id) fun _ _ _ => trivial))
      fun _ => triple_pure fun _ _ h => h

/-! ## 2. What completes a phase -/

/-- The replies to a poll that completes a phase, in their order, and the stamp of the report. -/
structure Replies where
  first : ℚ
  now : ℚ
  report : Feedback
  stamp : ℚ
  result : PortResult
  third : ℚ

namespace Replies

def timed (r : Replies) (journal : SequenceJournal P) : SequenceJournal P :=
  ⟨.clock, .ok r.now⟩ :: ⟨.clock, .ok r.first⟩ :: journal

def reported (r : Replies) (phase : Phase P) (child : Child) (journal : SequenceJournal P) :
    SequenceJournal P :=
  ⟨.monitor child phase.name r.now, .ok r.report⟩ :: r.timed journal

def told (r : Replies) (phase : Phase P) (child : Child) (journal : SequenceJournal P) :
    SequenceJournal P :=
  ⟨.poll phase.port child, .ok r.result⟩ :: r.reported phase child journal

/-- The oracle gives these replies, up to the report. -/
structure Asked (r : Replies) (oracle : Oracle (SequenceCall P) Reply)
    (phase : Phase P) (child : Child) (journal : SequenceJournal P) : Prop where
  first : oracle .clock journal = .ok r.first
  now : oracle .clock (⟨.clock, .ok r.first⟩ :: journal) = .ok r.now
  report : oracle (.monitor child phase.name r.now) (r.timed journal) = .ok r.report

/-- The oracle gives these replies, one after another. -/
structure Given (r : Replies) (oracle : Oracle (SequenceCall P) Reply)
    (phase : Phase P) (child : Child) (journal : SequenceJournal P) : Prop
    extends r.Asked oracle phase child journal where
  result : oracle (.poll phase.port child) (r.reported phase child journal) = .ok r.result
  third : oracle .clock (r.told phase child journal) = .ok r.third

/-- The report is admitted as evidence of the phase. -/
structure Admitted (r : Replies) (maxAge : ℚ) (e : SequenceEntry P) (phase : Phase P)
    (child : Child) : Prop where
  inTime : r.first - e.phaseAt < phase.timeout
  bounded : number "phase clock" (.finite r.now) = .ok r.now
  named : r.report.goalId = child.text
  stamped : number "feedback time" r.report.observed = .ok r.stamp
  earliest : e.phaseAt ≤ r.stamp
  latest : r.stamp ≤ r.now
  recent : r.now - r.stamp ≤ maxAge

/-- With these replies the phase of the entry is complete. -/
structure Complete (r : Replies) (maxAge : ℚ) (e : SequenceEntry P) (phase : Phase P)
    (child : Child) : Prop extends r.Admitted maxAge e phase child where
  going : e.cancel = false
  started : e.started = true
  during : r.report.conditions.Satisfy phase.during
  succeeded : r.result.state = .succeeded
  after : r.report.conditions.Satisfy phase.after

/-- Up to the report there is one way to answer. -/
theorem Asked.agree {r r' : Replies} {oracle : Oracle (SequenceCall P) Reply}
    {phase : Phase P} (h : r.Asked oracle phase child journal)
    (h' : r'.Asked oracle phase child journal) :
    r' = { r with stamp := r'.stamp, result := r'.result, third := r'.third } := by
  obtain ⟨first', now', report', stamp', result', third'⟩ := r'
  obtain ⟨hfirst', hnow', hreport'⟩ := h'
  obtain rfl : first' = r.first := Except.ok.inj (hfirst'.symm.trans h.first)
  obtain rfl : now' = r.now := Except.ok.inj (hnow'.symm.trans h.now)
  obtain rfl : report' = r.report := Except.ok.inj (hreport'.symm.trans h.report)
  rfl

end Replies

/-- How a poll of the entry ends: every goal is at its phase, and the replies did not complete the
phase of this one, or they did, and this goal is at the next. -/
inductive Outcome (oracle : Oracle (SequenceCall P) Reply) (maxAge : ℚ) (goal : String)
    (e : SequenceEntry P) (phase : Phase P) (w₀ : SequencePort P) (before : SequenceJournal P)
    (w : SequencePort P) (journal : SequenceJournal P) : Prop
  | stays (hincomplete : ∀ r : Replies, r.Given oracle phase ⟨goal, e.index⟩ before →
      ¬ r.Complete maxAge e phase ⟨goal, e.index⟩) (hsame : phaseOf w = phaseOf w₀)
  | advances (r : Replies) (hgiven : r.Given oracle phase ⟨goal, e.index⟩ before)
      (hcomplete : r.Complete maxAge e phase ⟨goal, e.index⟩)
      (hnext : phaseOf w = Function.update (phaseOf w₀) goal (some (e.index + 1)))
      (hsuffix : ∃ later, journal = later ++ r.reported phase ⟨goal, e.index⟩ before)

section Poll

variable {oracle : Oracle (SequenceCall P) Reply} {w₀ : SequencePort P}
  {before : SequenceJournal P} {e : SequenceEntry P} {phase : Phase P}

/-- An action that leaves every goal at its phase. -/
theorem triple_staying {calls : SequenceCall P → Prop} (hx : x.Keeps (staying calls)) :
    Triple (heeds oracle) (At w₀ before) x
      (fun _ w journal => phaseOf w = phaseOf w₀ ∧ ∃ later, journal = later ++ before)
      fun _ w journal => phaseOf w = phaseOf w₀ ∧ ∃ later, journal = later ++ before := by
  refine (hx.triple_kept (P := fun w => phaseOf w = phaseOf w₀)
    (I := fun journal => ∃ later, journal = later ++ before) (fun _ _ hchanges h => hchanges.trans h)
    ?_ ?_).conseq ?_ (fun _ _ _ h => h) fun _ _ _ h => h
  · rintro journal journal' h rfl
    exact h
  · rintro w call journal - ⟨later, rfl⟩
    refine ⟨trivial, ?_⟩
    rintro reply _ ⟨-, rfl⟩
    exact ⟨⟨call, reply⟩ :: later, rfl⟩
  · rintro w journal ⟨rfl, rfl⟩
    exact ⟨rfl, [], rfl⟩

variable {q : SequenceCall P → Prop}

/-- It leaves the outcome of a poll as it is. -/
theorem outcome_kept (hx : x.Keeps (staying q)) :
    Triple (heeds oracle) (Outcome oracle maxAge goal e phase w₀ before) x
      (fun _ => Outcome oracle maxAge goal e phase w₀ before)
      fun _ => Outcome oracle maxAge goal e phase w₀ before := by
  intro w journal h
  have hmore : ∀ w' journal', phaseOf w' = phaseOf w ∧ (∃ later, journal' = later ++ journal) →
      Outcome oracle maxAge goal e phase w₀ before w' journal' := by
    rintro w' _ ⟨hsame', later, rfl⟩
    cases h with
    | stays hincomplete hsame => exact .stays hincomplete (hsame'.trans hsame)
    | advances r hgiven hcomplete hnext hsuffix =>
      obtain ⟨earlier, rfl⟩ := hsuffix
      exact .advances r hgiven hcomplete (hsame'.trans hnext)
        ⟨later ++ earlier, (List.append_assoc ..).symm⟩
  exact ((triple_staying hx).conseq (fun _ _ h => h) (fun _ => hmore) fun _ => hmore) w journal
    ⟨rfl, rfl⟩

theorem outcome_stays {now : SequenceJournal P} (hx : x.Keeps (staying q))
    (hincomplete : ∀ r : Replies, r.Given oracle phase ⟨goal, e.index⟩ before →
      ¬ r.Complete maxAge e phase ⟨goal, e.index⟩) :
    Triple (heeds oracle) (At w₀ now) x
      (fun _ => Outcome oracle maxAge goal e phase w₀ before)
      fun _ => Outcome oracle maxAge goal e phase w₀ before :=
  (triple_staying hx).conseq (fun _ _ h => h) (fun _ _ _ h => .stays hincomplete h.1)
    fun _ _ _ h => .stays hincomplete h.1

theorem evidence_heard {first : ℚ} (hfirst : oracle .clock before = .ok first)
    (hinTime : first - e.phaseAt < phase.timeout) :
    Triple (heeds oracle) (At w₀ (⟨.clock, .ok first⟩ :: before))
      (evidence maxAge ⟨goal, e.index⟩ phase e.phaseAt)
      (fun conditions w journal => ∃ r : Replies,
        r.Asked oracle phase ⟨goal, e.index⟩ before ∧ r.Admitted maxAge e phase ⟨goal, e.index⟩ ∧
          conditions = r.report.conditions ∧ At w₀ (r.reported phase ⟨goal, e.index⟩ before) w journal)
      fun _ => Outcome oracle maxAge goal e phase w₀ before := by
  have hsame : ∀ r : Replies, r.Given oracle phase ⟨goal, e.index⟩ before → first = r.first :=
    fun r hgiven => Except.ok.inj (hfirst.symm.trans hgiven.first)
  refine triple_hear_bind (fun now hnow => ?_) fun error herror => .stays (fun r hgiven => ?_) rfl
  swap
  · obtain rfl := hsame r hgiven
    exact nomatch herror.symm.trans hgiven.now
  have hsame' : ∀ r : Replies, r.Given oracle phase ⟨goal, e.index⟩ before →
      first = r.first ∧ now = r.now := by
    intro r hgiven
    obtain rfl := hsame r hgiven
    exact ⟨rfl, Except.ok.inj (hnow.symm.trans hgiven.now)⟩
  refine triple_expect_bind (fun now' hbounded => ?_) fun error herror => ?_
  swap
  · rintro w journal ⟨rfl, -⟩
    refine .stays (fun r hgiven hcomplete => ?_) rfl
    obtain ⟨-, rfl⟩ := hsame' r hgiven
    exact nomatch herror.symm.trans hcomplete.bounded
  obtain rfl : now = now' := Scalar.finite.inj (number_eq_ok hbounded)
  refine triple_hear_bind (fun report hreport => ?_) fun error herror => .stays (fun r hgiven => ?_) rfl
  swap
  · obtain ⟨rfl, rfl⟩ := hsame' r hgiven
    exact nomatch herror.symm.trans hgiven.report
  have hsame'' : ∀ r : Replies, r.Given oracle phase ⟨goal, e.index⟩ before → report = r.report := by
    intro r hgiven
    obtain ⟨rfl, rfl⟩ := hsame' r hgiven
    exact Except.ok.inj (hreport.symm.trans hgiven.report)
  refine triple_ite (fun hnamed => triple_throw ?_) fun hnamed => ?_
  · rintro w journal ⟨rfl, -⟩
    refine .stays (fun r hgiven hcomplete => hnamed ?_) rfl
    rw [hsame'' r hgiven]
    exact hcomplete.named
  refine triple_expect_bind (fun stamp hstamped => ?_) fun error herror => ?_
  swap
  · rintro w journal ⟨rfl, -⟩
    refine .stays (fun r hgiven hcomplete => ?_) rfl
    rw [hsame'' r hgiven] at herror
    exact nomatch herror.symm.trans hcomplete.stamped
  refine triple_ite (fun hstale => triple_throw ?_) fun hfresh => triple_pure ?_
  · rintro w journal ⟨rfl, -⟩
    refine .stays (fun r hgiven hcomplete => ?_) rfl
    obtain ⟨-, rfl⟩ := hsame' r hgiven
    rw [hsame'' r hgiven] at hstamped
    obtain rfl := Except.ok.inj (hstamped.symm.trans hcomplete.stamped)
    rcases hstale with hstale | hstale
    · exact hstale ⟨hcomplete.earliest, hcomplete.latest⟩
    · exact absurd hcomplete.recent (not_le.mpr hstale)
  · rintro w journal ⟨rfl, rfl⟩
    obtain ⟨hwithin, hrecent⟩ := not_or.mp hfresh
    obtain ⟨hearliest, hlatest⟩ := not_not.mp hwithin
    exact ⟨⟨first, now, report, stamp, ⟨.running, ""⟩, 0⟩, ⟨hfirst, hnow, hreport⟩, ⟨hinTime, hbounded,
      not_not.mp hnamed, hstamped, hearliest, hlatest, not_lt.mp hrecent⟩, rfl, rfl, rfl⟩

/-- The index moves on. -/
theorem phaseOf_next {w : SequencePort P} {index : Nat} (h : phaseOf w goal = some index) :
    phaseOf (w.update goal fun e => { e with index := e.index + 1 }) =
      Function.update (phaseOf w) goal (some (index + 1)) := by
  obtain ⟨e, hlookup, rfl⟩ := Option.map_eq_some_iff.mp h
  funext other
  unfold phaseOf
  rw [lookup_update hlookup, Function.update_apply]
  split <;> rfl

theorem follow_outcome {r : Replies} (hlookup : w₀.entries.lookup goal = some e)
    (hgoing : e.cancel = false) (hstarted : e.started = true)
    (hasked : r.Asked oracle phase ⟨goal, e.index⟩ before)
    (hadmitted : r.Admitted maxAge e phase ⟨goal, e.index⟩) :
    Triple (heeds oracle) (At w₀ (r.reported phase ⟨goal, e.index⟩ before))
      (follow goal phase ⟨goal, e.index⟩ r.report.conditions)
      (fun _ => Outcome oracle maxAge goal e phase w₀ before)
      fun _ => Outcome oracle maxAge goal e phase w₀ before := by
  have hresults : ∀ {reply}, oracle (.poll phase.port ⟨goal, e.index⟩)
      (r.reported phase ⟨goal, e.index⟩ before) = reply → ∀ r' : Replies,
        r'.Given oracle phase ⟨goal, e.index⟩ before → .ok r'.result = reply := by
    rintro reply rfl r' hgiven
    have hresult := hgiven.result
    rw [hasked.agree hgiven.toAsked] at hresult
    exact hresult.symm
  refine triple_ite (fun hduring => ?_) fun hduring => triple_hear_bind (fun result hresult => ?_)
    fun error herror => .stays (fun r' hgiven => nomatch hresults herror r' hgiven) rfl
  · refine outcome_stays keeps_cancelEntry fun r' hgiven hcomplete => hduring ?_
    have hkept := hcomplete.during
    rw [hasked.agree hgiven.toAsked] at hkept
    exact hkept
  have hsame : ∀ r' : Replies, r'.Given oracle phase ⟨goal, e.index⟩ before → r'.result = result :=
    fun r' hgiven => Except.ok.inj (hresults hresult r' hgiven)
  refine triple_ite (fun hfailed => ?_) fun _ => triple_ite (fun hdone => ?_) fun hdone => ?_
  · refine outcome_stays keeps_cancelEntry fun r' hgiven hcomplete => ?_
    obtain rfl := hsame r' hgiven
    simp only [hcomplete.succeeded, reduceCtorEq, or_self] at hfailed
  swap
  · refine outcome_stays (q := Plain) (keeps_pure _) fun r' hgiven hcomplete => hdone ?_
    have hafter := hcomplete.after
    rw [hasked.agree hgiven.toAsked] at hafter
    exact ⟨hsame r' hgiven ▸ hcomplete.succeeded, hafter⟩
  refine triple_hear_bind (fun third hthird => ?_) fun error herror =>
    .stays (fun r' hgiven => ?_) rfl
  swap
  · have hclock := hgiven.third
    rw [hasked.agree hgiven.toAsked, hsame r' hgiven] at hclock
    exact nomatch herror.symm.trans hclock
  refine bind (M := fun _ w journal => phaseOf w = phaseOf w₀ ∧
      ∃ later, journal = later ++ r.reported phase ⟨goal, e.index⟩ before)
    (triple_modify ?_) fun _ => bind
      (M := fun _ => Outcome oracle maxAge goal e phase w₀ before) (triple_modify ?_) fun _ =>
        outcome_kept (q := Plain) ?_
  · rintro w journal ⟨rfl, rfl⟩
    exact ⟨phaseOf_update fun _ => rfl, [_, _], rfl⟩
  · rintro w journal ⟨hphase, hsuffix⟩
    have hindex : phaseOf w goal = some e.index := by
      rw [hphase, phaseOf, hlookup]
      rfl
    refine .advances { r with result, third }
      ⟨⟨hasked.first, hasked.now, hasked.report⟩, hresult, hthird⟩
      ⟨⟨hadmitted.inTime, hadmitted.bounded, hadmitted.named, hadmitted.stamped, hadmitted.earliest,
        hadmitted.latest, hadmitted.recent⟩, hgoing, hstarted, not_not.mp hduring, hdone.1, hdone.2⟩
      ?_ hsuffix
    rw [phaseOf_next hindex, hphase]
  · refine Keeps.bind (keeps_call (c := .clock) fun _ => trivial) fun now =>
      Keeps.bind (keeps_amend fun _ => rfl) fun _ => Keeps.bind keeps_entry fun e' => ?_
    split
    · exact keeps_finish (q := Plain) fun _ => rfl
    · exact keeps_pure _

theorem keeps_launch {conditions : Conditions} :
    (launch goal phase child conditions).Keeps (staying fun _ => True) := by
  refine (keeps_call fun _ => trivial).bind fun ready => ?_
  split
  · exact Keeps.bind (keeps_amend fun _ => rfl) fun _ => keeps_call fun _ => trivial
  · exact keeps_pure _

theorem advance_outcome (hlookup : w₀.entries.lookup goal = some e) :
    Triple (heeds oracle) (At w₀ before) (advance maxAge goal phase ⟨goal, e.index⟩)
      (fun _ => Outcome oracle maxAge goal e phase w₀ before)
      fun _ => Outcome oracle maxAge goal e phase w₀ before := by
  refine bind (triple_entry_of fun w _ h => h.1 ▸ hlookup) fun e' => of_fact ?_
  rintro rfl
  refine triple_ite (fun hcancel => ?_) fun hgoing => triple_hear_bind (fun first hfirst => ?_)
    fun error herror => .stays (fun r hgiven => nomatch herror.symm.trans hgiven.first) rfl
  · refine outcome_stays (q := Plain) (keeps_pure _) fun r _ hcomplete => ?_
    exact nomatch hcancel.symm.trans hcomplete.going
  refine triple_ite (fun hlate => ?_) fun hinTime => bind
    (evidence_heard hfirst (not_le.mp hinTime)) fun conditions => ?_
  · refine outcome_stays keeps_cancelEntry fun r hgiven hcomplete => ?_
    obtain rfl := Except.ok.inj (hfirst.symm.trans hgiven.first)
    exact absurd hcomplete.inTime (not_lt.mpr hlate)
  rintro w journal ⟨r, hasked, hadmitted, rfl, hat⟩
  have hcancel : e'.cancel = false := by simpa using hgoing
  refine triple_ite (fun hstarted => follow_outcome hlookup hcancel hstarted hasked hadmitted)
    (fun hunstarted => ?_) w journal hat
  refine outcome_stays keeps_launch fun r' _ hcomplete => ?_
  exact hunstarted hcomplete.started

/-- **What a poll does.** -/
theorem poll_outcome (hlookup : w₀.entries.lookup goal = some e) (hrunning : e.status = .running)
    (hphase : e.phases[e.index]? = some phase) :
    Triple (heeds oracle) (At w₀ before) (poll maxAge goal)
      (fun _ => Outcome oracle maxAge goal e phase w₀ before)
      fun _ => Outcome oracle maxAge goal e phase w₀ before := by
  refine bind (triple_entry_of fun w _ h => h.1 ▸ hlookup) fun e' => of_fact ?_
  rintro rfl
  rw [if_neg (not_not.mpr hrunning), hphase]
  exact bind ((advance_outcome hlookup).tryCatch fun _ => outcome_kept keeps_cancelEntry)
    fun _ => bind (outcome_kept keeps_settle) fun _ =>
      bind (outcome_kept (q := Plain) keeps_entry) fun _ =>
        outcome_kept (q := Plain) (keeps_pure _)

end Poll

/-! ## 3. Every run -/

/-- What an operation other than such a poll leaves. -/
def Kept (w₀ w : SequencePort P) : Prop :=
  ∀ goal index, phaseOf w₀ goal = some index → phaseOf w goal = some index

theorem kept_of_staying {oracle : Oracle (SequenceCall P) Reply}
    {w₀ : SequencePort P} {before : SequenceJournal P} (hx : x.Keeps (staying q)) :
    Triple (heeds oracle) (At w₀ before) x (fun _ w _ => Kept w₀ w) fun _ w _ => Kept w₀ w :=
  (triple_staying hx).conseq (fun _ _ h => h) (fun _ _ _ h _ _ hphase => h.1 ▸ hphase)
    fun _ _ _ h _ _ hphase => h.1 ▸ hphase

theorem start_keeps {oracle : Oracle (SequenceCall P) Reply} {w₀ : SequencePort P}
    {before : SequenceJournal P} {parameters : String} :
    Triple (heeds oracle) (At w₀ before) (start goal parameters) (fun _ w _ => Kept w₀ w)
      fun _ w _ => Kept w₀ w := by
  refine triple_get_bind fun w => ?_
  rintro t journal ⟨rfl, rfl, rfl⟩
  refine (show Triple _ (At t journal) _ _ _ from triple_ite (fun _ => triple_throw ?_)
    fun hfree => ?_) t journal ⟨rfl, rfl⟩
  · rintro w _ ⟨rfl, -⟩
    exact fun _ _ h => h
  have hnew : t.entries.lookup goal = none := by
    simpa using fun h => hfree (.inr (.inl h))
  refine triple_hear_bind (fun documents _ => triple_expect_bind (fun phases _ =>
    triple_hear_bind (fun now _ => triple_expect_bind (fun now' _ => triple_modify ?_) ?_) ?_) ?_) ?_
  · rintro w _ ⟨rfl, -⟩ other index hphase
    have hother : other ≠ goal := by
      rintro rfl
      rw [phaseOf, hnew] at hphase
      cases hphase
    rw [phaseOf, Registry.enter, AList.lookup_insert_ne hother]
    exact hphase
  · rintro _ - w _ ⟨rfl, -⟩
    exact fun _ _ h => h
  · exact fun _ _ _ _ h => h
  · rintro _ - w _ ⟨rfl, -⟩
    exact fun _ _ h => h
  · exact fun _ _ _ _ h => h

/-- The phases that the step completes, it completes on reports from after the start of the child:
each is the third reply to the poll. -/
def Fresh (maxAge : ℚ) (s : SequencePort P × SequenceJournal P)
    (input : SequenceOp × Oracle (SequenceCall P) Reply) : Prop :=
  ∀ goal e e', s.1.entries.lookup goal = some e →
    (consult (SequenceOp.action maxAge) s input).1.entries.lookup goal = some e' →
    e'.index ≠ e.index →
    ∃ phase, ∃ r : Replies, ∃ moment later, e.phases[e.index]? = some phase ∧
      (consult (SequenceOp.action maxAge) s input).2 =
        later ++ r.reported phase ⟨goal, e.index⟩ s.2 ∧
      number "feedback time" r.report.observed = .ok r.stamp ∧
      startedAt ⟨goal, e.index⟩ s.2 = some moment ∧ moment ≤ r.stamp

/-- A poll finds a child at work and gets replies that complete its phase, with a report from
before the start of the child. -/
def Early (maxAge : ℚ) (s : SequencePort P × SequenceJournal P)
    (input : SequenceOp × Oracle (SequenceCall P) Reply) : Prop :=
  ∃ goal e phase moment, ∃ r : Replies, input.1 = .poll goal ∧ s.1.entries.lookup goal = some e ∧
    e.status = .running ∧ e.phases[e.index]? = some phase ∧
    r.Given input.2 phase ⟨goal, e.index⟩ s.2 ∧ r.Complete maxAge e phase ⟨goal, e.index⟩ ∧
    startedAt ⟨goal, e.index⟩ s.2 = some moment ∧ r.stamp < moment

section Run

variable {s : SequencePort P × SequenceJournal P} {op : SequenceOp}
  {oracle : Oracle (SequenceCall P) Reply}

theorem fresh_of_kept (h : Kept s.1 (consult (SequenceOp.action maxAge) s (op, oracle)).1) :
    Fresh maxAge s (op, oracle) := by
  intro goal e e' hlookup hlookup' hmoved
  have hphase : phaseOf s.1 goal = some e.index := by rw [phaseOf, hlookup]; rfl
  have hkept := h goal e.index hphase
  rw [phaseOf, hlookup'] at hkept
  exact absurd (Option.some.inj hkept) hmoved

variable {phase : Phase P}

/-- A child at work was started at some reading. -/
theorem startedAt_of_sound {e : SequenceEntry P} (hsound : Sound (law P) s.1 s.2)
    (htimed : Timed s.2) (hlookup : s.1.entries.lookup goal = some e)
    (hrunning : e.status = .running) (hgoing : e.cancel = false) (hstarted : e.started = true)
    (hphase : e.phases[e.index]? = some phase) :
    ∃ moment, startedAt ⟨goal, e.index⟩ s.2 = some moment := by
  have hknown : Known goal e s.2 := hsound.known goal e hlookup
  have hstarts := (hknown.going hrunning hgoing).2 hstarted
  refine startedAt_of_mem htimed (?_ : (phase.port, _) ∈ _)
  rw [show (⟨goal, e.index⟩ : Child).goal = goal from rfl, hstarts, children_take hphase]
  exact List.mem_append_right _ (List.mem_singleton.mpr rfl)

/-- The report that an entry of the journal holds. -/
def reportOf : Entry (SequenceCall P) Reply → Option Feedback
  | ⟨.monitor .., .ok report⟩ => some report
  | _ => none

theorem report_eq {r r' : Replies}
    (h : r.reported phase child journal = r'.reported phase child journal) : r.report = r'.report :=
  Option.some.inj (congrArg (fun journal => journal.head?.bind reportOf) h)

theorem polled_fresh_iff {e : SequenceEntry P} (hsound : Sound (law P) s.1 s.2)
    (htimed : Timed s.2) (hlookup : s.1.entries.lookup goal = some e)
    (hrunning : e.status = .running) (hphase : e.phases[e.index]? = some phase) :
    Fresh maxAge s (.poll goal, oracle) ↔ ¬ Early maxAge s (.poll goal, oracle) := by
  have hpolled : Triple (heeds oracle) (At s.1 s.2) ((SequenceOp.poll goal).action maxAge)
      (fun _ => Outcome oracle maxAge goal e phase s.1 s.2)
      fun _ => Outcome oracle maxAge goal e phase s.1 s.2 :=
    bind (poll_outcome hlookup hrunning hphase) fun _ =>
      outcome_kept (q := Plain) (keeps_pure _)
  have hend : Outcome oracle maxAge goal e phase s.1 s.2
      (consult (SequenceOp.action maxAge) s (.poll goal, oracle)).1
      (consult (SequenceOp.action maxAge) s (.poll goal, oracle)).2 :=
    heard hpolled ⟨rfl, rfl⟩
  cases hend with
  | stays hincomplete hsame =>
    refine iff_of_true (fresh_of_kept fun _ _ h => hsame ▸ h) ?_
    rintro ⟨_, e', phase', moment, r, ⟨rfl⟩, hlookup', -, hphase', hgiven, hcomplete, -⟩
    obtain rfl := Option.some.inj (hlookup.symm.trans hlookup')
    obtain rfl := Option.some.inj (hphase.symm.trans hphase')
    exact hincomplete r hgiven hcomplete
  | advances r hgiven hcomplete hnext hsuffix =>
    obtain ⟨later, hlater⟩ := hsuffix
    have hmoment := startedAt_of_sound hsound htimed hlookup hrunning hcomplete.going
      hcomplete.started hphase
    constructor
    · rintro hfresh ⟨_, e₁, phase₁, moment, r₁, ⟨rfl⟩, hlookup₁, -, hphase₁, hgiven₁, hcomplete₁,
        hmoment₁, hearly⟩
      obtain rfl := Option.some.inj (hlookup.symm.trans hlookup₁)
      obtain rfl := Option.some.inj (hphase.symm.trans hphase₁)
      have hindex := (congrFun hnext goal).trans (Function.update_self ..)
      obtain ⟨e', hlookup', hmoved⟩ := Option.map_eq_some_iff.mp hindex
      obtain ⟨phase₂, r₂, moment₂, later₂, hphase₂, hsuffix₂, hstamped₂, hmoment₂, hle⟩ :=
        hfresh goal e e' hlookup hlookup' (by omega)
      obtain rfl := Option.some.inj (hphase.symm.trans hphase₂)
      obtain rfl := Option.some.inj (hmoment₁.symm.trans hmoment₂)
      have hsame := (List.append_inj' (hlater.symm.trans hsuffix₂) rfl).2
      have hreport : r₂.report = r₁.report := by
        rw [hgiven.toAsked.agree hgiven₁.toAsked]
        exact (report_eq hsame).symm
      rw [hreport] at hstamped₂
      obtain hstamp := Except.ok.inj (hstamped₂.symm.trans hcomplete₁.stamped)
      exact absurd hearly (not_lt.mpr (hstamp ▸ hle))
    · intro hlate goal₁ e₁ e₁' hlookup₁ hlookup₁' hmoved
      have hgoal : goal₁ = goal := by
        by_contra hother
        have hphase₁ := congrFun hnext goal₁
        rw [Function.update_of_ne hother, phaseOf, phaseOf, hlookup₁, hlookup₁'] at hphase₁
        exact hmoved (Option.some.inj hphase₁)
      subst hgoal
      obtain rfl := Option.some.inj (hlookup.symm.trans hlookup₁)
      obtain ⟨moment, hmoment⟩ := hmoment
      refine ⟨phase, r, moment, later, hphase, hlater, hcomplete.stamped, hmoment, ?_⟩
      by_contra hearly
      exact hlate ⟨goal₁, e, phase, moment, r, rfl, hlookup, hrunning, hphase, hgiven, hcomplete,
        hmoment, not_le.mp hearly⟩

/-- **One step.** -/
theorem fresh_iff (hsound : Sound (law P) s.1 s.2) (htimed : Timed s.2) :
    Fresh maxAge s (op, oracle) ↔ ¬ Early maxAge s (op, oracle) := by
  by_cases hpoll : ∃ goal e phase, op = .poll goal ∧ s.1.entries.lookup goal = some e ∧
      e.status = .running ∧ e.phases[e.index]? = some phase
  · obtain ⟨goal, e, phase, rfl, hlookup, hrunning, hphase⟩ := hpoll
    exact polled_fresh_iff hsound htimed hlookup hrunning hphase
  suffices hkept : Triple (heeds oracle) (At s.1 s.2) (op.action maxAge) (fun _ w _ => Kept s.1 w)
      fun _ w _ => Kept s.1 w by
    refine iff_of_true (fresh_of_kept (heard hkept ⟨rfl, rfl⟩)) ?_
    rintro ⟨goal, e, phase, -, -, hop, hlookup, hrunning, hphase, -⟩
    exact hpoll ⟨goal, e, phase, hop, hlookup, hrunning, hphase⟩
  cases op with
  | start goal parameters => exact start_keeps
  | cancel goal => exact kept_of_staying keeps_cancelEntry
  | phaseSafe goal =>
    refine kept_of_staying (q := Plain) (Keeps.bind ?_ fun _ => keeps_pure _)
    exact keeps_phaseSafe.mono (fun _ _ => id) fun _ _ hsame => congrArg phaseOf hsame
  | poll goal =>
    have hsame : Triple (heeds oracle) (At s.1 s.2) (poll maxAge goal) (fun _ => At s.1 s.2)
        fun _ => At s.1 s.2 := by
      refine bind triple_find fun e => triple_ite (fun _ => triple_pure fun _ _ h => h.1)
        fun hrunning => ?_
      split
      · exact triple_throw fun _ _ h => h.1
      next phase hphase =>
        rintro w journal ⟨⟨rfl, rfl⟩, hlookup⟩
        exact absurd ⟨goal, e, phase, rfl, hlookup, not_not.mp hrunning, hphase⟩ hpoll
    refine bind (hsame.conseq (fun _ _ h => h) (fun _ _ _ h => h) fun _ _ _ h => ?_)
      fun _ => triple_pure fun _ _ h => ?_
    · exact fun _ _ hphase => h.1 ▸ hphase
    · exact fun _ _ hphase => h.1 ▸ hphase

end Run

/-- **The phases of a run are completed on reports from after the starts of their children** exactly
if no poll of a child at work gets replies that complete the phase with an earlier report. -/
theorem completions_fresh_iff (maxAge : ℚ)
    (l : List (SequenceOp × Oracle (SequenceCall P) Reply)) :
    Along (consult (SequenceOp.action maxAge)) (Fresh maxAge) (Registry.empty, []) l ↔
      Along (consult (SequenceOp.action maxAge)) (fun s input => ¬ Early maxAge s input)
        (Registry.empty, []) l := by
  have hempty : Sound (law P) Registry.empty [] ∧ Timed ([] : SequenceJournal P) :=
    ⟨sound_empty fun _ => rfl, trivial⟩
  refine along_congr_of (I := fun s => Sound (law P) s.1 s.2 ∧ Timed s.2) ?_ ?_ l hempty
  · exact fun s input hs => ⟨consulted (op_sound input.1) input.2 hs.1,
      consulted (op_timed input.1) input.2 hs.2⟩
  · exact fun s input hs => fresh_iff hs.1 hs.2

/-! ## 4. A report from before the start -/

/-- A port that succeeds at once, at a reading of the clock and with a report of a given date. -/
def clearedAt (now observed : ℚ) : Oracle (SequenceCall Unit) Reply
  | .build _, _ => .ok [⟨"pick_retreat", (), "", [], [], ["arm_clear"], .finite 20⟩]
  | .clock, _ => .ok now
  | .monitor child _ _, _ =>
    .ok ⟨child.text, .finite observed, .running, [("arm_clear", true)], ""⟩
  | .ready _, _ => .ok true
  | .start .., _ => .ok ()
  | .poll .., _ => .ok ⟨.succeeded, ""⟩
  | .cancel .., _ => .ok ()

def retreat : Phase Unit := ⟨"pick_retreat", (), "", [], [], ["arm_clear"], 20⟩

/-- The phase begins at 0, and its child is started at 10. -/
def launched : List (SequenceOp × Oracle (SequenceCall Unit) Reply) :=
  [(.start "pick" "", clearedAt 0 0), (.poll "pick", clearedAt 10 10)]

/-- A report from 9.9, a quarter of a second after the start. -/
def lookedBack : SequenceOp × Oracle (SequenceCall Unit) Reply :=
  (.poll "pick", clearedAt (41 / 4) (99 / 10))

/-- What the monitor saw before the child moved completes the phase. -/
theorem completed_on_early_report :
    ¬ ∀ (maxAge : ℚ) (l : List (SequenceOp × Oracle (SequenceCall Unit) Reply)),
      Along (consult (SequenceOp.action maxAge)) (Fresh maxAge) (Registry.empty, []) l := by
  intro h
  have hrun := (along_append _ launched [lookedBack]).mp (h (1 / 2) (launched ++ [lookedBack]))
  have hfresh := hrun.2.1
  generalize hs : run (consult (SequenceOp.action (1 / 2))) (Registry.empty, []) launched = s
    at hfresh
  have hsound : Sound (law Unit) s.1 s.2 := hs ▸ consult_invariant op_sound launched
    (show Sound (law Unit) Registry.empty [] from sound_empty fun _ => rfl)
  have htimed : Timed s.2 := hs ▸ consult_invariant op_timed launched
    (show Timed ([] : SequenceJournal Unit) from trivial)
  have hstage : (s.1.entries.lookup "pick").map (fun e =>
      (e.status, e.cancel, e.started, e.index)) = some (.running, false, true, 0) := by
    rw [← hs]
    decide +kernel
  have hphases : (s.1.entries.lookup "pick").map (fun e => (e.phaseAt, e.phases)) =
      some (0, [retreat]) := by
    rw [← hs]
    decide +kernel
  have hmoment : startedAt ⟨"pick", 0⟩ s.2 = some 10 := by
    rw [← hs]
    decide +kernel
  obtain ⟨⟨phases, index, started, phaseAt, status, cancel, destination, reason, history⟩, hlookup,
    hfields⟩ := Option.map_eq_some_iff.mp hstage
  rw [hlookup] at hphases
  obtain ⟨rfl, rfl, rfl, rfl⟩ : status = .running ∧ cancel = false ∧ started = true ∧ index = 0 := by
    simpa using hfields
  obtain ⟨rfl, rfl⟩ : phaseAt = 0 ∧ phases = [retreat] := by simpa using hphases
  refine (fresh_iff hsound htimed).mp hfresh ⟨"pick", _, retreat, 10, ⟨41 / 4, 41 / 4,
    ⟨Child.text ⟨"pick", 0⟩, .finite (99 / 10), .running, [("arm_clear", true)], ""⟩, 99 / 10,
    ⟨.succeeded, ""⟩, 41 / 4⟩, rfl, hlookup, rfl, rfl, ⟨⟨rfl, rfl, rfl⟩, rfl, rfl⟩,
    ⟨⟨?_, by decide +kernel, rfl, by decide +kernel, ?_, by decide +kernel, by decide +kernel⟩,
      rfl, rfl, by decide +kernel, rfl, by decide +kernel⟩, hmoment, by decide +kernel⟩
  · exact (by decide +kernel : (41 / 4 - 0 : ℚ) < 20)
  · exact (by decide +kernel : (0 : ℚ) ≤ 99 / 10)

end SequencePort

end MobileBimanual.Tasks
