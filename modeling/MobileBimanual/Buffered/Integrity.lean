/-
# Integrity of the v1 buffered executor

The executor of `Executor.lean` under any calls with any arguments, and a ledger beside it of what
becomes of the samples it admitted.

* `Outcome` says once what a call can do; everything else is read off it;
* `Sound`: a RUNNING executor has a queue, whose ticks follow the anchor's and one another, so no
  segment is empty; the ledger balances and its line is in tick order;
* `Inside`: whatever limits contain the limits given with every admission and start contain the
  queue, the anchor and every output.
-/
import MobileBimanual.Buffered.Executor
import MobileBimanual.Lib.Custody
import MobileBimanual.Stream.JointLimits

namespace MobileBimanual.Buffered

open MobileBimanual.Stream (Tick Urad tickIsAfter)
open Serial (After ahead)
open Custody (Entry)
open Machine BufferedExecutor

/-! ## 1. The calls -/

inductive BufferedCall where
  | admitBatch (samples : List Setpoint) (currentTick minimumLeadTicks maximumLeadTicks : Tick)
      (limits : JointLimits)
  | markInputComplete
  | start (anchorTick : Tick) (anchorPositionsUrad : Joints) (limits : JointLimits)
  | step (currentTick : Tick)
  | plannedHold (currentTick : Tick)
  | cancel (currentTick : Tick)
  | connectionLoss (currentTick : Tick)
  | trackingError (currentTick : Tick)

/-- What a call leaves, answers and puts out. -/
structure Answer where
  executor : BufferedExecutor
  result : BufferedResult
  output : Option Joints

/-- The answer of a call without an output. -/
def Answer.silent (answer : BufferedExecutor × BufferedResult) : Answer :=
  ⟨answer.1, answer.2, none⟩

namespace BufferedExecutor

def call (executor : BufferedExecutor) : BufferedCall → Answer
  | .admitBatch samples currentTick minimumLeadTicks maximumLeadTicks limits =>
    .silent (executor.admitBatch samples currentTick minimumLeadTicks maximumLeadTicks limits)
  | .markInputComplete => .silent executor.markInputComplete
  | .start anchorTick anchorPositionsUrad limits =>
    .silent (executor.start anchorTick anchorPositionsUrad limits)
  | .step currentTick =>
    ⟨(executor.step currentTick).1, (executor.step currentTick).2.1,
      (executor.step currentTick).2.2⟩
  | .plannedHold currentTick => .silent (executor.plannedHold currentTick)
  | .cancel currentTick => .silent (executor.cancel currentTick)
  | .connectionLoss currentTick => .silent (executor.connectionLoss currentTick)
  | .trackingError currentTick => .silent (executor.trackingError currentTick)

/-- PRIMING or RUNNING. -/
abbrev live (executor : BufferedExecutor) : Bool :=
  stateAcceptsCommands executor.diagnostics.state

variable (executor : BufferedExecutor)

theorem live_iff :
    executor.live = true ↔
      executor.diagnostics.state = .priming ∨ executor.diagnostics.state = .running := by
  simp [live, stateAcceptsCommands]

/-- Nothing but bookkeeping lies between two executors. -/
structure Same (executor next : BufferedExecutor) : Prop where
  queue : next.queue = executor.queue
  anchor : next.anchor = executor.anchor
  anchorValid : next.anchorValid = executor.anchorValid
  state : next.diagnostics.state = executor.diagnostics.state

theorem Same.refl : Same executor executor := ⟨rfl, rfl, rfl, rfl⟩

/-! ## 2. What a call can do -/

inductive Outcome (executor : BufferedExecutor) : BufferedCall → Answer → Prop
  | idle {call : BufferedCall} {answer : Answer}
      (noAdmission : ∀ samples currentTick minimumLeadTicks maximumLeadTicks limits,
        call = .admitBatch samples currentTick minimumLeadTicks maximumLeadTicks limits →
          answer.result ≠ .ok)
      (same : Same executor answer.executor) (silent : answer.output = none) :
      Outcome executor call answer
  | admitted {samples : List Setpoint} {currentTick minimumLeadTicks maximumLeadTicks : Tick}
      {limits : JointLimits} {answer : Answer} (accepted : answer.result = .ok)
      (live : executor.live = true)
      (queue : answer.executor.queue.contents = executor.queue.contents ++ samples)
      (order : InOrder (previousTick executor.queue currentTick) samples)
      (valid : ∀ sample ∈ samples, positionsAreValid sample.positionUrad limits = true)
      (anchor : answer.executor.anchor = executor.anchor)
      (anchorValid : answer.executor.anchorValid = executor.anchorValid)
      (state : answer.executor.diagnostics.state = executor.diagnostics.state)
      (silent : answer.output = none) :
      Outcome executor
        (.admitBatch samples currentTick minimumLeadTicks maximumLeadTicks limits) answer
  | started {anchorTick : Tick} {anchorPositionsUrad : Joints} {limits : JointLimits}
      {answer : Answer} {first : Setpoint} {rest : List Setpoint}
      (priming : executor.diagnostics.state = .priming)
      (front : executor.queue.contents = first :: rest)
      (ahead : After first.applyTick anchorTick)
      (valid : positionsAreValid anchorPositionsUrad limits = true)
      (next : answer.executor = executor.anchored anchorTick anchorPositionsUrad)
      (silent : answer.output = none) :
      Outcome executor (.start anchorTick anchorPositionsUrad limits) answer
  | applied {currentTick : Tick} {answer : Answer} {next : Setpoint} {rest : List Setpoint}
      (running : executor.diagnostics.state = .running)
      (front : executor.queue.contents = next :: rest)
      (queue : answer.executor.queue.contents = rest)
      (anchor : answer.executor.anchor = next)
      (anchorValid : answer.executor.anchorValid = true)
      (state : answer.executor.diagnostics.state = .running ∧ rest ≠ [] ∨
        answer.executor.live = false ∧ rest = [])
      (output : answer.output = some next.positionUrad) :
      Outcome executor (.step currentTick) answer
  | interpolated {currentTick : Tick} {answer : Answer} {next : Setpoint} {rest : List Setpoint}
      (running : executor.diagnostics.state = .running)
      (front : executor.queue.contents = next :: rest)
      (within : ahead currentTick executor.anchor.applyTick ≤
        ahead next.applyTick executor.anchor.applyTick)
      (same : answer.executor = executor)
      (output : answer.output = some fun joint =>
        interpolate (executor.anchor.positionUrad joint) (next.positionUrad joint)
          (currentTick - executor.anchor.applyTick)
          (next.applyTick - executor.anchor.applyTick)) :
      Outcome executor (.step currentTick) answer
  | ended {call : BufferedCall} {answer : Answer}
      (noAdmission : ∀ samples currentTick minimumLeadTicks maximumLeadTicks limits,
        call ≠ .admitBatch samples currentTick minimumLeadTicks maximumLeadTicks limits)
      (live : executor.live = true) (queue : answer.executor.queue.contents = [])
      (dead : answer.executor.live = false) (silent : answer.output = none) :
      Outcome executor call answer

@[simp] theorem transitionTerminal_contents (state : BufferedState) (reason : BufferedReason)
    (safeStopRequired : Bool) (currentTick : Tick) :
    (executor.transitionTerminal state reason safeStopRequired currentTick).queue.contents = [] :=
  contents_clear _

theorem admitBatch_outcome (samples : List Setpoint)
    (currentTick minimumLeadTicks maximumLeadTicks : Tick) (limits : JointLimits) :
    Outcome executor (.admitBatch samples currentTick minimumLeadTicks maximumLeadTicks limits)
      (executor.call
        (.admitBatch samples currentTick minimumLeadTicks maximumLeadTicks limits)) := by
  simp only [call, Answer.silent, admitBatch]
  split
  · exact .idle (fun _ _ _ _ _ _ h => by cases h) (.refl executor) rfl
  · rename_i haccepts
    rcases hpush : pushBatch executor.queue samples currentTick minimumLeadTicks maximumLeadTicks
      limits with ⟨queue, result⟩
    by_cases hok : result = .ok
    · subst hok
      obtain ⟨-, hqueue, horder, hvalid⟩ := pushBatch_ok hpush
      refine .admitted rfl ?_ hqueue horder hvalid rfl rfl rfl rfl
      simp only [Bool.or_eq_true, Bool.not_eq_true', not_or, Bool.not_eq_false] at haccepts
      exact haccepts.1
    · obtain rfl := pushBatch_rejected hok hpush
      cases result with
      | ok => exact absurd rfl hok
      | _ => exact .idle (fun _ _ _ _ _ _ h => by cases h) ⟨rfl, rfl, rfl, rfl⟩ rfl

theorem markInputComplete_outcome :
    Outcome executor .markInputComplete (executor.call .markInputComplete) := by
  simp only [call, Answer.silent, markInputComplete]
  split
  · exact .idle (fun _ _ _ _ _ h => by cases h) (.refl executor) rfl
  · exact .idle (fun _ _ _ _ _ h => by cases h) ⟨rfl, rfl, rfl, rfl⟩ rfl

theorem start_outcome (anchorTick : Tick) (anchorPositionsUrad : Joints) (limits : JointLimits) :
    Outcome executor (.start anchorTick anchorPositionsUrad limits)
      (executor.call (.start anchorTick anchorPositionsUrad limits)) := by
  have hrefused : ∀ result : BufferedResult,
      Outcome executor (.start anchorTick anchorPositionsUrad limits)
        (.silent (executor, result)) :=
    fun _ => .idle (fun _ _ _ _ _ h => by cases h) (.refl executor) rfl
  simp only [call, start]
  split
  · exact hrefused _
  · rename_i hpriming
    split
    · exact hrefused _
    · rcases hpeek : peek executor.queue with _ | first
      · exact hrefused _
      · dsimp only
        split
        · exact hrefused _
        · rename_i hahead
          split
          · exact hrefused _
          · rename_i hvalid
            refine .started (not_not.mp hpriming) (peek_cons hpeek) ?_ ?_ rfl rfl
            · simpa using hahead
            · simpa using hvalid

/-- A queue that has run empty is where an execution ends. -/
theorem applied_finish (queue : SetpointQueue) (next : Setpoint) (currentTick : Tick)
    (hrunning : executor.diagnostics.state = .running) :
    let finished := (executor.applied queue next currentTick).finishIfEmpty currentTick
    finished.queue.contents = queue.contents ∧ finished.anchor = next ∧
      finished.anchorValid = executor.anchorValid ∧
      (finished.diagnostics.state = .running ∧ queue.contents ≠ [] ∨
        finished.live = false ∧ queue.contents = []) := by
  intro finished
  have hqueue : (executor.applied queue next currentTick).queue = queue := rfl
  by_cases hcount : queue.count = 0
  · have hempty := queue.contents_eq_nil_iff.mpr hcount
    cases hinput : (executor.applied queue next currentTick).diagnostics.inputComplete with
    | false =>
      have hfinished : finished = (executor.applied queue next currentTick).transitionTerminal
          .hold .queueUnderflow true currentTick := by
        simp [finished, finishIfEmpty, hqueue, hcount, hinput]
      rw [hfinished, transitionTerminal_contents, hempty]
      exact ⟨rfl, rfl, rfl, Or.inr ⟨rfl, rfl⟩⟩
    | true =>
      have hfinished : finished = { executor.applied queue next currentTick with
          diagnostics := { (executor.applied queue next currentTick).diagnostics with
            state := .succeeded, terminalTick := currentTick } } := by
        simp [finished, finishIfEmpty, hqueue, hcount, hinput]
      rw [hfinished]
      exact ⟨rfl, rfl, rfl, Or.inr ⟨rfl, hempty⟩⟩
  · have hfinished : finished = executor.applied queue next currentTick := by
      simp [finished, finishIfEmpty, hqueue, hcount]
    have hne : queue.contents ≠ [] := fun hnil => hcount (queue.contents_eq_nil_iff.mp hnil)
    rw [hfinished]
    exact ⟨rfl, rfl, rfl, Or.inl ⟨hrunning, hne⟩⟩

theorem Outcome.of_terminal {executor : BufferedExecutor} {currentTick : Tick}
    {state : BufferedState} (reason : BufferedReason) (safeStopRequired : Bool)
    (hrunning : executor.diagnostics.state = .running)
    (hstate : stateAcceptsCommands state = false) :
    Outcome executor (.step currentTick)
      ⟨executor.transitionTerminal state reason safeStopRequired currentTick, .terminal, none⟩ :=
  .ended (fun _ _ _ _ _ h => by cases h) ((live_iff executor).mpr (Or.inr hrunning))
    (transitionTerminal_contents _ _ _ _ _) hstate rfl

theorem step_outcome (currentTick : Tick) :
    Outcome executor (.step currentTick) (executor.call (.step currentTick)) := by
  have hrefused : ∀ result : BufferedResult,
      Outcome executor (.step currentTick) ⟨executor, result, none⟩ :=
    fun _ => .idle (fun _ _ _ _ _ h => by cases h) (.refl executor) rfl
  simp only [call, step]
  split
  · exact hrefused _
  · rename_i hguard
    obtain ⟨hrunning, hanchor⟩ := not_or.mp hguard
    have hrunning := not_not.mp hrunning
    have hanchor : executor.anchorValid = true := by simpa using hanchor
    split
    · split
      · exact .of_terminal _ _ hrunning rfl
      · exact .of_terminal _ _ hrunning rfl
    · rcases hpeek : peek executor.queue with _ | next
      · exact hrefused _
      · have hfront := peek_cons hpeek
        dsimp only
        split
        · simp only [stepApply]
          split
          · exact .of_terminal _ _ hrunning rfl
          · rw [takeDue_front hpeek]
            obtain ⟨hqueue, hnext, hvalid, hstate⟩ :=
              applied_finish executor executor.queue.pop next currentTick hrunning
            exact .applied hrunning hfront hqueue hnext (hvalid.trans hanchor) hstate rfl
        · simp only [stepInterpolate]
          split
          · exact hrefused _
          · split
            · exact .of_terminal _ _ hrunning rfl
            · rename_i hwithin
              exact .interpolated hrunning hfront (not_lt.mp hwithin) rfl rfl

theorem endExecution_outcome {state : BufferedState} (hstate : stateAcceptsCommands state = false)
    (reason : BufferedReason) (safeStopRequired : Bool) (currentTick : Tick) {call : BufferedCall}
    (hcall : ∀ samples currentTick minimumLeadTicks maximumLeadTicks limits,
      call ≠ .admitBatch samples currentTick minimumLeadTicks maximumLeadTicks limits) :
    Outcome executor call
      (.silent (executor.endExecution state reason safeStopRequired currentTick)) := by
  simp only [endExecution]
  split
  · exact .idle (fun _ _ _ _ _ h => absurd h (hcall _ _ _ _ _)) (.refl executor) rfl
  · rename_i hlive
    exact .ended hcall (by simpa using hlive) (transitionTerminal_contents _ _ _ _ _) hstate rfl

/-- **What any call can do.** -/
theorem call_outcome (c : BufferedCall) : Outcome executor c (executor.call c) := by
  cases c with
  | admitBatch samples currentTick minimumLeadTicks maximumLeadTicks limits =>
    exact admitBatch_outcome executor samples currentTick minimumLeadTicks maximumLeadTicks limits
  | markInputComplete => exact markInputComplete_outcome executor
  | start anchorTick anchorPositionsUrad limits =>
    exact start_outcome executor anchorTick anchorPositionsUrad limits
  | step currentTick => exact step_outcome executor currentTick
  | plannedHold currentTick =>
    exact endExecution_outcome executor rfl _ _ _ fun _ _ _ _ _ h => by cases h
  | cancel currentTick =>
    exact endExecution_outcome executor rfl _ _ _ fun _ _ _ _ _ h => by cases h
  | connectionLoss currentTick =>
    exact endExecution_outcome executor rfl _ _ _ fun _ _ _ _ _ h => by cases h
  | trackingError currentTick =>
    exact endExecution_outcome executor rfl _ _ _ fun _ _ _ _ _ h => by cases h

end BufferedExecutor

/-! ## 3. The books -/

/-- When a sample was applied, and what was put out for it. -/
structure Application where
  tick : Tick
  output : Joints

abbrev Ledger := Custody.Ledger Setpoint Application Empty

/-- The executor, what became of the samples it admitted, and what it has put out. -/
structure Books where
  executor : BufferedExecutor
  ledger : Ledger
  outputs : List Joints

namespace Books

def begin (executor : BufferedExecutor) : Books := ⟨executor, Custody.Ledger.empty, []⟩

/-- What an answer books before its end is looked at: an accepted batch is entered, and an output
that came with a shorter queue is the application of the front. -/
def post (books : Books) (call : BufferedCall) (answer : Answer) : Ledger :=
  match call with
  | .admitBatch samples _ _ _ _ =>
    if answer.result = .ok then books.ledger.enter samples else books.ledger
  | .step currentTick =>
    match answer.output with
    | some output =>
      if answer.executor.queue.count < books.executor.queue.count then
        books.ledger.apply ⟨currentTick, output⟩
      else books.ledger
    | none => books.ledger
  | _ => books.ledger

/-- An executor that takes no more commands has discarded what it still had. -/
def settle (executor : BufferedExecutor) (ledger : Ledger) : Ledger :=
  if executor.live then ledger else ledger.discard

def next (books : Books) (call : BufferedCall) : Books :=
  let answer := books.executor.call call
  { executor := answer.executor
    ledger := settle answer.executor (books.post call answer)
    outputs := books.outputs ++ answer.output.toList }

/-- The ticks of what was applied and of what is queued, from the first applied on. -/
def ticks (books : Books) : List Tick :=
  books.ledger.applied.map (·.1.item.applyTick) ++ books.ledger.queued.map (·.item.applyTick)

/-- **The integrity of the executor.** -/
structure Sound (books : Books) : Prop where
  running : books.executor.diagnostics.state = .running →
    ∃ next rest, books.executor.queue.contents = next :: rest ∧
      After next.applyTick books.executor.anchor.applyTick
  /-- The ledger's queue is the executor's. -/
  queued : books.ledger.queued.map (·.item) = books.executor.queue.contents
  balanced : books.ledger.Balanced
  order : List.IsChain (fun earlier later => After later earlier) books.ticks
  /-- Nothing is applied before the start. -/
  priming : books.executor.diagnostics.state = .priming → books.ledger.applied = []
  live : books.executor.live = true → books.ledger.discarded = []
  ended : books.executor.live = false → books.executor.queue.contents = []
  putOut : ∀ a ∈ books.ledger.applied, a.2.output = a.1.item.positionUrad

variable {executor : BufferedExecutor}

theorem settle_live (h : executor.live = true) (ledger : Ledger) :
    settle executor ledger = ledger := if_pos h

theorem settle_dead (h : executor.live = false) (ledger : Ledger) :
    settle executor ledger = ledger.discard := if_neg (by simp [h])

theorem Sound.of_ended {ledger : Ledger} {outputs : List Joints} (hdead : executor.live = false)
    (hempty : executor.queue.contents = []) (hbalanced : ledger.Balanced)
    (horder : List.IsChain (fun earlier later => After later earlier) (Books.mk executor ledger outputs).ticks)
    (hputOut : ∀ a ∈ ledger.applied, a.2.output = a.1.item.positionUrad) :
    Sound ⟨executor, settle executor ledger, outputs⟩ := by
  have hnever : executor.live = true → False := fun hlive => by simp [hdead] at hlive
  rw [settle_dead hdead]
  refine ⟨?_, ?_, hbalanced.discard, ?_, ?_, fun hlive => (hnever hlive).elim, fun _ => hempty,
    hputOut⟩
  · intro hrunning
    exact (hnever ((live_iff _).mpr (Or.inr hrunning))).elim
  · simp [Custody.Ledger.discard, hempty]
  · have happlied : (ledger.applied.map (·.1.item.applyTick)).IsChain
        (fun earlier later => After later earlier) := (List.isChain_append.mp horder).1
    simpa [ticks, Custody.Ledger.discard] using happlied
  · intro hpriming
    exact (hnever ((live_iff _).mpr (Or.inl hpriming))).elim

theorem sound_begin {minimumStartSamples : Nat} {maximumApplyLatenessTicks : Tick}
    {initial : BufferedExecutor}
    (hinit : init minimumStartSamples maximumApplyLatenessTicks = .ok initial) :
    Sound (begin initial) := by
  unfold init at hinit
  split_ifs at hinit
  obtain rfl := Except.ok.inj hinit
  exact ⟨nofun, rfl, Custody.Ledger.balanced_empty, List.IsChain.nil, fun _ => rfl, fun _ => rfl,
    nofun, nofun⟩

variable {books : Books}

/-- A call that changes nothing but bookkeeping. -/
theorem Sound.idle (h : Sound books) (same : books.executor.Same executor) (outputs : List Joints) :
    Sound ⟨executor, settle executor books.ledger, outputs⟩ := by
  have hlive : executor.live = books.executor.live := congrArg stateAcceptsCommands same.state
  cases hcase : executor.live with
  | false =>
    have hempty := h.ended (hlive.symm.trans hcase)
    exact .of_ended hcase (by rw [same.queue, hempty]) h.balanced h.order h.putOut
  | true =>
    rw [settle_live hcase]
    refine ⟨?_, ?_, h.balanced, h.order, ?_, ?_, ?_, h.putOut⟩
    · intro hrunning
      simpa only [same.queue, same.anchor] using h.running (same.state.symm.trans hrunning)
    · simpa only [same.queue] using h.queued
    · exact fun hpriming => h.priming (same.state.symm.trans hpriming)
    · exact fun _ => h.live (hlive.symm.trans hcase)
    · intro hdead
      exact absurd (hcase.symm.trans hdead) (by simp)

variable {currentTick : Tick}

/-- The line is extended by what was checked against its end. -/
theorem Sound.extended (h : Sound books) (hlive : books.executor.live = true)
    {samples : List Setpoint}
    (horder : InOrder (previousTick books.executor.queue currentTick) samples) :
    List.IsChain (fun earlier later => After later earlier)
      (books.ticks ++ samples.map (·.applyTick)) := by
  refine List.isChain_append.mpr ⟨h.order, horder.tail, ?_⟩
  intro last hlast first hfirst
  have hqueue : books.ledger.queued.map (·.item.applyTick) =
      books.executor.queue.contents.map (·.applyTick) := by
    rw [← h.queued, List.map_map]
    rfl
  rcases hcontents : books.executor.queue.contents with _ | ⟨front, rest⟩
  · -- An empty queue under commands is that of a PRIMING executor, whose line is empty.
    have hpriming : books.executor.diagnostics.state = .priming := by
      rcases (live_iff _).mp hlive with hpriming | hrunning
      · exact hpriming
      · obtain ⟨next, rest, hqueue, -⟩ := h.running hrunning
        rw [hcontents] at hqueue
        cases hqueue
    rw [ticks, h.priming hpriming, hqueue, hcontents] at hlast
    simp at hlast
  · have hprevious : previousTick books.executor.queue currentTick = last := by
      rw [previousTick_eq, hcontents]
      rw [ticks, hqueue, hcontents, List.getLast?_append_of_ne_nil _ (by simp)] at hlast
      rw [Option.mem_def.mp hlast]
      rfl
    rw [hprevious] at horder
    cases samples with
    | nil => simp at hfirst
    | cons sample samples =>
      obtain rfl : sample.applyTick = first := by simpa using hfirst
      exact (List.isChain_cons_cons.mp horder).1

theorem Sound.admitted {books : Books} (h : Sound books) {executor : BufferedExecutor}
    {samples : List Setpoint} {currentTick : Tick} (hlive : books.executor.live = true)
    (hqueue : executor.queue.contents = books.executor.queue.contents ++ samples)
    (horder : InOrder (previousTick books.executor.queue currentTick) samples)
    (hanchor : executor.anchor = books.executor.anchor)
    (hstate : executor.diagnostics.state = books.executor.diagnostics.state)
    (outputs : List Joints) :
    Sound ⟨executor, settle executor (books.ledger.enter samples), outputs⟩ := by
  have hnext : executor.live = true := by
    rw [← hlive]
    exact congrArg stateAcceptsCommands hstate
  rw [settle_live hnext]
  refine ⟨?_, ?_, h.balanced.enter samples, ?_, ?_, fun _ => h.live hlive, ?_, h.putOut⟩
  · intro hrunning
    obtain ⟨next, rest, hcontents, hafter⟩ := h.running (hstate.symm.trans hrunning)
    exact ⟨next, rest ++ samples, by rw [hqueue, hcontents]; rfl, by rwa [hanchor]⟩
  · rw [hqueue, ← h.queued]
    simp [Custody.Ledger.enter]
  · have hticks : (Books.mk executor (books.ledger.enter samples) outputs).ticks =
        books.ticks ++ samples.map (·.applyTick) := by
      have hitems := congrArg (List.map (·.applyTick))
        (Custody.Ledger.number_items books.ledger.admitted.length samples)
      rw [List.map_map] at hitems
      simp only [ticks, Custody.Ledger.enter, List.map_append, List.append_assoc]
      exact congrArg _ (congrArg _ hitems)
    rw [hticks]
    exact h.extended hlive horder
  · exact fun hpriming => h.priming (hstate.symm.trans hpriming)
  · intro hdead
    exact absurd (hnext.symm.trans hdead) (by simp)

/-- The front of the queue moves to the end of what was applied; the line stays as it is. -/
theorem Sound.applied (h : Sound books) {next : Setpoint} {rest : List Setpoint}
    (hrunning : books.executor.diagnostics.state = .running)
    (hfront : books.executor.queue.contents = next :: rest)
    (hqueue : executor.queue.contents = rest) (hanchor : executor.anchor = next)
    (hstate : executor.diagnostics.state = .running ∧ rest ≠ [] ∨ executor.live = false ∧ rest = [])
    (outputs : List Joints) :
    Sound ⟨executor, settle executor (books.ledger.apply ⟨currentTick, next.positionUrad⟩),
      outputs⟩ := by
  have hmirror := h.queued
  rw [hfront] at hmirror
  obtain ⟨entry, entries, hentries, rfl, hrest⟩ := List.map_eq_cons_iff.mp hmirror
  have hbalanced := h.balanced.apply ⟨currentTick, entry.item.positionUrad⟩
  rw [Custody.Ledger.apply_cons _ hentries] at hbalanced ⊢
  have hputOut : ∀ a ∈ books.ledger.applied ++
      [(entry, Application.mk currentTick entry.item.positionUrad)],
      a.2.output = a.1.item.positionUrad := by
    intro a ha
    rcases List.mem_append.mp ha with ha | ha
    · exact h.putOut a ha
    · obtain rfl := List.mem_singleton.mp ha
      rfl
  have hline := h.order
  have hsplit : books.ticks = books.ledger.applied.map (·.1.item.applyTick) ++
      entry.item.applyTick :: rest.map (·.applyTick) := by
    rw [ticks, hentries, ← hrest]
    simp
  have horder : List.IsChain (fun earlier later => After later earlier)
      (Books.mk executor { books.ledger with
        queued := entries
        applied := books.ledger.applied ++
          [(entry, Application.mk currentTick entry.item.positionUrad)] } outputs).ticks := by
    have hsame : books.ticks = (Books.mk executor { books.ledger with
        queued := entries
        applied := books.ledger.applied ++
          [(entry, Application.mk currentTick entry.item.positionUrad)] } outputs).ticks := by
      simp [ticks, hentries]
    rwa [← hsame]
  rcases hstate with ⟨hnext, hne⟩ | ⟨hdead, rfl⟩
  · have hlive := (live_iff executor).mpr (Or.inr hnext)
    rw [settle_live hlive]
    refine ⟨?_, by rw [hqueue]; exact hrest, hbalanced, horder, ?_, ?_, ?_, hputOut⟩
    · intro _
      obtain ⟨second, others, rfl⟩ := List.exists_cons_of_ne_nil hne
      rw [hsplit] at hline
      have hpair := (List.isChain_append.mp hline).2.1
      rw [hanchor]
      exact ⟨second, others, hqueue, (List.isChain_cons_cons.mp hpair).1⟩
    · intro hpriming
      cases hnext.symm.trans hpriming
    · exact fun _ => h.live ((live_iff _).mpr (Or.inr hrunning))
    · intro hdead
      exact absurd (hlive.symm.trans hdead) (by simp)
  · exact .of_ended hdead hqueue hbalanced horder hputOut

/-- **Every call keeps the integrity of the executor.** -/
theorem Sound.next (h : Sound books) (call : BufferedCall) : Sound (books.next call) := by
  have houtcome := books.executor.call_outcome call
  unfold Books.next
  dsimp only
  generalize books.executor.call call = answer at houtcome ⊢
  cases houtcome with
  | idle noAdmission same silent =>
    have hpost : books.post call answer = books.ledger := by
      unfold post
      split
      · exact if_neg (noAdmission _ _ _ _ _ rfl)
      · rw [silent]
      · rfl
    rw [hpost]
    exact h.idle same _
  | admitted accepted live queue order valid anchor anchorValid state silent =>
    simp only [post, accepted, if_true]
    exact h.admitted live queue order anchor state _
  | started priming front ahead valid next silent =>
    have hlive : answer.executor.live = true := by
      rw [next]
      rfl
    simp only [post]
    rw [settle_live hlive]
    refine ⟨?_, by rw [next]; exact h.queued, h.balanced, h.order, ?_, ?_, ?_, h.putOut⟩
    · intro _
      rw [next]
      exact ⟨_, _, front, ahead⟩
    · intro _
      exact h.priming priming
    · exact fun _ => h.live ((live_iff _).mpr (Or.inl priming))
    · intro hdead
      exact absurd (hlive.symm.trans hdead) (by simp)
  | @applied currentTick _ next rest running front queue anchor anchorValid state output =>
    have hshorter : answer.executor.queue.count < books.executor.queue.count := by
      rw [← RingBuffer.length_contents, ← RingBuffer.length_contents, queue, front]
      simp
    simp only [post, output, hshorter, if_true]
    exact h.applied running front queue anchor state _
  | interpolated running front within same output =>
    have hlive := (live_iff _).mpr (Or.inr running)
    simp only [post, output, same, lt_irrefl, if_false]
    rw [settle_live hlive]
    exact ⟨h.running, h.queued, h.balanced, h.order, h.priming, h.live, h.ended, h.putOut⟩
  | ended noAdmission live queue dead silent =>
    have hpost : books.post call answer = books.ledger := by
      unfold post
      split
      · exact absurd rfl (noAdmission _ _ _ _ _)
      · rw [silent]
      · rfl
    rw [hpost]
    exact .of_ended dead queue h.balanced h.order h.putOut

end Books

/-! ## 4. The joint limits -/

/-- Some limits lie within others. -/
def JointLimits.Within (given limits : JointLimits) : Prop :=
  ∀ joint, (limits joint).minimumUrad.toInt ≤ (given joint).minimumUrad.toInt ∧
    (given joint).maximumUrad.toInt ≤ (limits joint).maximumUrad.toInt

/-- The limits given with an admission or a start lie within `limits`. -/
def BufferedCall.GivenWithin (limits : JointLimits) : BufferedCall → Prop
  | .admitBatch _ _ _ _ given => given.Within limits
  | .start _ _ given => given.Within limits
  | _ => True

instance (given limits : JointLimits) : Decidable (given.Within limits) :=
  inferInstanceAs (Decidable (∀ _, _))

instance (limits : JointLimits) : DecidablePred (BufferedCall.GivenWithin limits)
  | .admitBatch _ _ _ _ given => inferInstanceAs (Decidable (given.Within limits))
  | .start _ _ given => inferInstanceAs (Decidable (given.Within limits))
  | .markInputComplete => isTrue trivial
  | .step _ => isTrue trivial
  | .plannedHold _ => isTrue trivial
  | .cancel _ => isTrue trivial
  | .connectionLoss _ => isTrue trivial
  | .trackingError _ => isTrue trivial

theorem valid_of_within {given limits : JointLimits} (h : given.Within limits)
    {positionUrad : Joints} (hvalid : positionsAreValid positionUrad given = true) :
    positionsAreValid positionUrad limits = true := by
  rw [positionsAreValid_iff] at hvalid ⊢
  intro joint
  obtain ⟨hlow, hhigh⟩ := h joint
  obtain ⟨hmin, hmax⟩ := hvalid joint
  exact ⟨Int.le_trans hlow hmin, Int.le_trans hmax hhigh⟩

/-- The interpolation is the one of the v2 stream, the sum taken before the cut. -/
theorem interpolate_eq (start next : Urad) (elapsedTicks segmentTicks : Tick) :
    interpolate start next elapsedTicks segmentTicks =
      Stream.interpolateUrad start next elapsedTicks segmentTicks := by
  rw [interpolate, Stream.interpolateUrad, BitVec.ofInt_add, BitVec.ofInt_toInt]

/-- **Within a segment the interpolation stays between its ends.**  A segment is shorter than half
the clock, so the product fits whatever the positions are. -/
theorem interpolate_hull (start target : Urad) {anchorTick applyTick currentTick : Tick}
    (hafter : After applyTick anchorTick)
    (hwithin : ahead currentTick anchorTick ≤ ahead applyTick anchorTick) :
    min start.toInt target.toInt ≤
        (interpolate start target (currentTick - anchorTick)
          (applyTick - anchorTick)).toInt ∧
      (interpolate start target (currentTick - anchorTick)
        (applyTick - anchorTick)).toInt ≤ max start.toInt target.toInt := by
  rw [interpolate_eq]
  refine Stream.interpolateUrad_hull ?_ hwithin
  have hshort := ((Serial.after_iff applyTick anchorTick).mp hafter).2
  have helapsed : (currentTick - anchorTick).toNat < 2 ^ 31 := by
    have hle : (currentTick - anchorTick).toNat ≤ ahead applyTick anchorTick := hwithin
    omega
  have hstart := Stream.toInt_range start
  have htarget := Stream.toInt_range target
  have hdelta : (target.toInt - start.toInt).natAbs ≤ 2 ^ 32 - 1 := by omega
  calc (target.toInt - start.toInt).natAbs * (currentTick - anchorTick).toNat
      ≤ (2 ^ 32 - 1) * (2 ^ 31 - 1) := Nat.mul_le_mul hdelta (by omega)
    _ < 2 ^ 63 := by decide

namespace Books

/-- Everything that can be put out, and everything that was, is inside the limits. -/
structure Inside (limits : JointLimits) (books : Books) : Prop where
  queue : ∀ sample ∈ books.executor.queue.contents,
    positionsAreValid sample.positionUrad limits = true
  anchor : books.executor.diagnostics.state = .running →
    positionsAreValid books.executor.anchor.positionUrad limits = true
  outputs : ∀ output ∈ books.outputs, positionsAreValid output limits = true

theorem Inside.next {limits : JointLimits} {books : Books} (h : Inside limits books)
    (hsound : Sound books) {call : BufferedCall} (hgiven : call.GivenWithin limits) :
    Inside limits (books.next call) := by
  have houtcome := books.executor.call_outcome call
  unfold Books.next
  dsimp only
  generalize books.executor.call call = answer at houtcome ⊢
  have hsilent : answer.output = none →
      ∀ output ∈ books.outputs ++ answer.output.toList,
        positionsAreValid output limits = true := by
    intro hnone
    rw [hnone]
    simpa using h.outputs
  have hput : ∀ {output : Joints}, answer.output = some output →
      positionsAreValid output limits = true →
      ∀ other ∈ books.outputs ++ answer.output.toList,
        positionsAreValid other limits = true := by
    intro output hsome hvalid other hmem
    rw [hsome, Option.toList_some, List.mem_append, List.mem_singleton] at hmem
    rcases hmem with hmem | rfl
    · exact h.outputs other hmem
    · exact hvalid
  cases houtcome with
  | idle noAdmission same silent =>
    refine ⟨by rw [same.queue]; exact h.queue, ?_, hsilent silent⟩
    intro hrunning
    rw [same.anchor]
    exact h.anchor (same.state.symm.trans hrunning)
  | admitted accepted live queue order valid anchor anchorValid state silent =>
    refine ⟨?_, ?_, hsilent silent⟩
    · intro sample hsample
      rw [queue] at hsample
      rcases List.mem_append.mp hsample with hsample | hsample
      · exact h.queue sample hsample
      · exact valid_of_within hgiven (valid sample hsample)
    · intro hrunning
      rw [anchor]
      exact h.anchor (state.symm.trans hrunning)
  | started priming front ahead valid next silent =>
    refine ⟨by rw [next]; exact h.queue, ?_, hsilent silent⟩
    intro _
    rw [next]
    exact valid_of_within hgiven valid
  | applied running front queue anchor anchorValid state output =>
    have hnext := h.queue _ (by rw [front]; exact List.mem_cons_self)
    refine ⟨?_, fun _ => by rw [anchor]; exact hnext, hput output hnext⟩
    intro sample hsample
    rw [queue] at hsample
    exact h.queue sample (by rw [front]; exact List.mem_cons_of_mem _ hsample)
  | @interpolated _ _ next _ running front within same output =>
    have hanchor := (positionsAreValid_iff _ _).mp (h.anchor running)
    have hnext := (positionsAreValid_iff _ _).mp
      (h.queue _ (by rw [front]; exact List.mem_cons_self))
    obtain ⟨_, _, hfront, hafter⟩ := hsound.running running
    rw [front] at hfront
    obtain ⟨rfl, rfl⟩ := List.cons.inj hfront
    refine ⟨by rw [same]; exact h.queue, by rw [same]; exact h.anchor, hput output ?_⟩
    rw [positionsAreValid_iff]
    intro joint
    obtain ⟨hlow, hhigh⟩ := interpolate_hull (books.executor.anchor.positionUrad joint)
      (next.positionUrad joint) hafter within
    have ha := hanchor joint
    have hn := hnext joint
    exact ⟨by omega, by omega⟩
  | ended noAdmission live queue dead silent =>
    refine ⟨by rw [queue]; simp, ?_, hsilent silent⟩
    intro hrunning
    have hlive := (live_iff answer.executor).mpr (Or.inr hrunning)
    exact absurd (dead.symm.trans hlive) (by simp)

/-! ## 5. Every run -/

variable {minimumStartSamples : Nat} {maximumApplyLatenessTicks : Tick} {initial : BufferedExecutor}

theorem sound_run
    (hinit : init minimumStartSamples maximumApplyLatenessTicks = .ok initial)
    (calls : List BufferedCall) : Sound (run next (begin initial) calls) :=
  run_invariant_all (I := Sound) (fun _ call h => h.next call) calls (sound_begin hinit)

theorem inside_begin
    (hinit : init minimumStartSamples maximumApplyLatenessTicks = .ok initial)
    (limits : JointLimits) : Inside limits (begin initial) := by
  unfold init at hinit
  split_ifs at hinit
  obtain rfl := Except.ok.inj hinit
  exact ⟨nofun, nofun, nofun⟩

theorem inside_run
    (hinit : init minimumStartSamples maximumApplyLatenessTicks = .ok initial)
    {limits : JointLimits} {calls : List BufferedCall}
    (hgiven : ∀ call ∈ calls, call.GivenWithin limits) :
    Inside limits (run next (begin initial) calls) := by
  have hboth : Sound (run next (begin initial) calls) ∧
      Inside limits (run next (begin initial) calls) :=
    run_invariant (I := fun books => Sound books ∧ Inside limits books)
      (fun _ call h hcall => ⟨h.1.next call, h.2.next h.1 hcall⟩) calls
      ⟨sound_begin hinit, inside_begin hinit limits⟩
      (along_of_forall (fun _ call hcall => hgiven call hcall) _)
  exact hboth.2

/-- **The integrity of the buffered executor, over every run.**  A RUNNING executor has a queue
whose first tick is after the anchor's, so the segment it divides by is not empty; every output is
inside whatever limits contain those given with the admissions and the start; and the admitted
samples are, each once, queued, applied in the order of their admission and of their ticks, or
discarded by the end of the execution. -/
theorem executor_integrity
    (hinit : init minimumStartSamples maximumApplyLatenessTicks = .ok initial)
    {limits : JointLimits} (calls : List BufferedCall)
    (hgiven : ∀ call ∈ calls, call.GivenWithin limits) : let books := run next (begin initial) calls
    (books.executor.diagnostics.state = .running →
        ∃ first rest, books.executor.queue.contents = first :: rest ∧
          After first.applyTick books.executor.anchor.applyTick ∧
          first.applyTick - books.executor.anchor.applyTick ≠ 0) ∧
      (∀ output ∈ books.outputs, positionsAreValid output limits = true) ∧
      (books.ledger.Balanced ∧
        books.ledger.queued.map (·.item) = books.executor.queue.contents ∧
        List.IsChain (fun earlier later => After later earlier) books.ticks ∧
        (∀ a ∈ books.ledger.applied, a.2.output = a.1.item.positionUrad) ∧
        (books.ledger.discarded ≠ [] → books.executor.live = false)) := by
  intro books
  have hsound : Sound books := sound_run hinit calls
  have hinside : Inside limits books := inside_run hinit hgiven
  refine ⟨?_, hinside.outputs, hsound.balanced, hsound.queued, hsound.order, hsound.putOut, ?_⟩
  · intro hrunning
    obtain ⟨first, rest, hqueue, hafter⟩ := hsound.running hrunning
    refine ⟨first, rest, hqueue, hafter, ?_⟩
    intro hzero
    have hpositive := ((Serial.after_iff _ _).mp hafter).1
    rw [ahead, hzero] at hpositive
    exact absurd hpositive (by decide)
  · intro hdiscarded
    by_contra hlive
    exact hdiscarded (hsound.live (by simpa using hlive))

/-- Two samples on a wrapping clock, a start, a step between them and one that is due. -/
theorem executor_integrity_bench :
    let limits : JointLimits := fun _ => ⟨BitVec.ofInt 32 (-1000), 1000⟩
    let calls : List BufferedCall :=
      [.admitBatch [⟨4, fun _ => 100⟩, ⟨14, fun _ => 300⟩] 0xFFFFFFF0 5 100 limits,
        .start 0xFFFFFFFA (fun _ => 0) limits, .step 0xFFFFFFFF, .step 5]
    ∃ initial, init 2 3 = .ok initial ∧
      (run next (begin initial) calls).executor.diagnostics.state = .running ∧
      ((run next (begin initial) calls).outputs.map fun output => (output 0).toInt) = [50, 100] ∧
      (run next (begin initial) calls).ledger.Balanced := by
  intro limits calls
  refine ⟨_, rfl, by decide +kernel, by decide +kernel, ?_⟩
  exact (@executor_integrity 2 3 _ rfl limits calls (by decide +kernel)).2.2.1

end Books

end MobileBimanual.Buffered
