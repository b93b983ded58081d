/-
# The books of a stream

What becomes of every admitted sample, kept beside the executor in a custody ledger.  The
bookkeeper sees each event from outside: a batch that is admitted joins the ledger's queue, cut
first behind what the batch retains; a step that counts an applied sample applies the front of
the ledger's queue; and when the executor stops being live, or a new stream opens, the ledger's
queue is discarded.

`Kept` is what makes the books those of the executor: while it is live the ledger's queue IS the
session's queue, sample by sample, so the front that the ledger applies is the sample the
executor applied, and the output of that step is its position.
-/
import MobileBimanual.Lib.Custody
import MobileBimanual.Stream.Run

namespace MobileBimanual.Stream

open Serial (After ahead)

/-! ## 1. The bookkeeper -/

/-- An admitted sample and the number of its stream. -/
structure Ticket where
  sample : Setpoint
  stream : Nat

/-- The step that applied a sample: its tick, the epoch of the control grid it fell on, and what it
reported. -/
structure Application where
  tick : Tick
  controlEpochTick : Tick
  outputUrad : Option Joints

/-- A removal is noted by its splice tick. -/
abbrev Ledger := Custody.Ledger Ticket Application Tick

structure Books where
  executor : StreamExecutor
  ledger : Ledger
  stream : Nat
  /-- The samples that splices have removed from the current stream. -/
  spliced : Nat

def StreamExecutor.live (executor : StreamExecutor) : Bool :=
  executor.diagnostics.state == .priming || executor.diagnostics.state == .running

/-- What is still queued when the executor is no longer live is discarded. -/
def settle (executor : StreamExecutor) (ledger : Ledger) : Ledger :=
  if executor.live then ledger else ledger.discard

/-- The front of the queue is applied if the executor has counted an applied sample. -/
def noteApplication (before executor : StreamExecutor) (event : Event) (ledger : Ledger) :
    Ledger :=
  if executor.diagnostics.appliedSamples = before.diagnostics.appliedSamples then ledger
  else ledger.apply
    { tick := event.tick
      controlEpochTick := before.controlEpochTick
      outputUrad := output before event }

def Books.next (books : Books) (event : Event) : Books :=
  let executor := Stream.next books.executor event
  if opens books.executor event then
    { executor := executor
      ledger := books.ledger.discard
      stream := books.stream + 1
      spliced := 0 }
  else match admittedBatch books.executor event with
  | some (kind, batch) =>
    let kept := (retainedSamples books.executor.session batch kind).length
    { executor := executor
      ledger := (books.ledger.cut kept batch.spliceAtTick).enter
        (batch.samples.map fun sample => ⟨sample, books.stream⟩)
      stream := books.stream
      spliced := books.spliced + (books.executor.queue.length - kept) }
  | none =>
    { executor := executor
      ledger := settle executor (noteApplication books.executor executor event books.ledger)
      stream := books.stream
      spliced := books.spliced }

def Books.begin (executor : StreamExecutor) : Books := ⟨executor, Custody.Ledger.empty, 0, 0⟩

theorem Books.executor_next (books : Books) (event : Event) :
    (books.next event).executor = Stream.next books.executor event := by
  unfold Books.next
  dsimp only
  split
  · rfl
  · split <;> rfl

/-- Keeping the books does not change the run. -/
theorem Books.executor_run (books : Books) (events : List Event) :
    (Machine.run Books.next books events).executor = after books.executor events :=
  Machine.map_run Books.executor Books.executor_next books events

theorem live_iff (executor : StreamExecutor) : executor.live = true ↔
    executor.diagnostics.state = .priming ∨ executor.diagnostics.state = .running := by
  simp [StreamExecutor.live]

/-! ## 2. The books are right -/

/-- Every application reported the position of the sample it is booked for. -/
def Reported (ledger : Ledger) : Prop :=
  ∀ a ∈ ledger.applied, a.2.outputUrad = some a.1.item.sample.positionUrad

structure Kept (books : Books) : Prop where
  balanced : books.ledger.Balanced
  queued : books.executor.live = true →
    books.ledger.queued.map (·.item.sample) = books.executor.queue
  settled : books.executor.live = false → books.ledger.queued = []
  stream : ∀ entry ∈ books.ledger.queued, entry.item.stream = books.stream
  /-- A sample is discarded when its stream ends, not before. -/
  ended : ∀ entry ∈ books.ledger.discarded, entry.item.stream < books.stream ∨
    books.executor.live = false ∧ entry.item.stream = books.stream
  reported : Reported books.ledger
  counted : books.executor.live = true →
    books.executor.diagnostics.acceptedSamples = books.executor.diagnostics.appliedSamples +
      BitVec.ofNat 32 (books.executor.queue.length + books.spliced)

/-- Settling keeps the books right, whatever the executor has become. -/
theorem kept_settle {executor : StreamExecutor} {ledger : Ledger} {stream spliced : Nat}
    (hbalanced : ledger.Balanced)
    (hqueued : executor.live = true → ledger.queued.map (·.item.sample) = executor.queue)
    (hstream : ∀ entry ∈ ledger.queued, entry.item.stream = stream)
    (hended : ∀ entry ∈ ledger.discarded, entry.item.stream < stream ∨
      executor.live = false ∧ entry.item.stream = stream)
    (hreported : Reported ledger)
    (hcounted : executor.live = true →
      executor.diagnostics.acceptedSamples = executor.diagnostics.appliedSamples +
        BitVec.ofNat 32 (executor.queue.length + spliced)) :
    Kept ⟨executor, settle executor ledger, stream, spliced⟩ := by
  unfold settle
  split
  · rename_i hlive
    exact ⟨hbalanced, hqueued, fun hdead => by simp [hlive] at hdead, hstream, hended, hreported,
      hcounted⟩
  · rename_i hdead
    refine ⟨hbalanced.discard, fun hlive => absurd hlive hdead, fun _ => rfl,
      fun _ hentry => absurd hentry List.not_mem_nil, ?_, hreported, hcounted⟩
    intro entry hentry
    rcases List.mem_append.mp hentry with hentry | hentry
    · exact hended entry hentry
    · exact Or.inr ⟨Bool.eq_false_iff.mpr hdead, hstream entry hentry⟩

variable {books : Books} {event : Event}

theorem Books.next_quiet (hopens : opens books.executor event = false)
    (hbatch : admittedBatch books.executor event = none) :
    books.next event = ⟨Stream.next books.executor event,
      settle (Stream.next books.executor event) (noteApplication books.executor
        (Stream.next books.executor event) event books.ledger), books.stream, books.spliced⟩ := by
  simp [Books.next, hopens, hbatch]

variable {executor : StreamExecutor}

/-- An event that applies nothing and at most ends the stream leaves the books as they are, or
settles them. -/
theorem Kept.idle (h : Kept books) (hlive : executor.live = true → books.executor.live = true)
    (hqueue : executor.queue = books.executor.queue)
    (haccepted : executor.diagnostics.acceptedSamples = books.executor.diagnostics.acceptedSamples)
    (happlied : executor.diagnostics.appliedSamples = books.executor.diagnostics.appliedSamples) :
    Kept ⟨executor, settle executor (noteApplication books.executor executor event books.ledger),
      books.stream, books.spliced⟩ := by
  rw [noteApplication, if_pos happlied]
  refine kept_settle h.balanced ?_ h.stream ?_ h.reported ?_
  · intro hl
    rw [hqueue]
    exact h.queued (hlive hl)
  · intro entry hentry
    rcases h.ended entry hentry with hlt | ⟨hdead, heq⟩
    · exact Or.inl hlt
    · refine Or.inr ⟨Bool.eq_false_iff.mpr fun hl => ?_, heq⟩
      simp [hlive hl] at hdead
  · intro hl
    rw [hqueue, haccepted, happlied]
    exact h.counted (hlive hl)

theorem add_one_ne (x : BitVec 32) : x + 1 ≠ x := by
  intro h
  have hzero : x + 1 - x = 0#32 := by rw [h, BitVec.sub_self]
  rw [BitVec.add_comm, BitVec.add_sub_cancel] at hzero
  exact absurd hzero (by decide)

theorem Kept.apply {books : Books} {event : Event} {executor : StreamExecutor}
    {sample : Setpoint} {rest : List Setpoint} (h : Kept books)
    (hlive : books.executor.live = true)
    (hbefore : books.executor.queue = sample :: rest) (hqueue : executor.queue = rest)
    (houtput : output books.executor event = some sample.positionUrad)
    (haccepted : executor.diagnostics.acceptedSamples =
      books.executor.diagnostics.acceptedSamples)
    (happlied : executor.diagnostics.appliedSamples =
      books.executor.diagnostics.appliedSamples + 1) :
    Kept ⟨executor, settle executor (noteApplication books.executor executor event books.ledger),
      books.stream, books.spliced⟩ := by
  have hchanged : executor.diagnostics.appliedSamples ≠
      books.executor.diagnostics.appliedSamples := by
    rw [happlied]
    exact add_one_ne _
  have hmirror := h.queued hlive
  rw [hbefore] at hmirror
  obtain ⟨entry, entries, hentries, hentry, hrest⟩ := List.map_eq_cons_iff.mp hmirror
  have hbalanced := h.balanced.apply
    { tick := event.tick
      controlEpochTick := books.executor.controlEpochTick
      outputUrad := output books.executor event }
  rw [noteApplication, if_neg hchanged]
  rw [Custody.Ledger.apply_cons _ hentries] at hbalanced ⊢
  refine kept_settle hbalanced (fun _ => by rw [hqueue, ← hrest]) ?_ ?_ ?_ ?_
  · intro e he
    exact h.stream e (by rw [hentries]; exact List.mem_cons_of_mem _ he)
  · intro e he
    rcases h.ended e he with hlt | ⟨hdead, -⟩
    · exact Or.inl hlt
    · simp [hlive] at hdead
  · intro a ha
    rcases List.mem_append.mp ha with ha | ha
    · exact h.reported a ha
    · obtain rfl := List.mem_singleton.mp ha
      rw [houtput, ← hentry]
  · intro _
    have hcounted := h.counted hlive
    rw [hbefore, List.length_cons] at hcounted
    rw [haccepted, happlied, hqueue, hcounted,
      show rest.length + 1 + books.spliced = 1 + (rest.length + books.spliced) by omega,
      BitVec.ofNat_add, ← BitVec.add_assoc]
    rfl

theorem kept_step {books : Books} {event : Event} {result : ExecutorResult} (h : Kept books)
    (hstep : StepOutcome books.executor event.tick
      (executor, result, output books.executor event)) :
    Kept ⟨executor, settle executor (noteApplication books.executor executor event books.ledger),
      books.stream, books.spliced⟩ := by
  have hlive : books.executor.diagnostics.state = .running → books.executor.live = true :=
    fun running => (live_iff _).mpr (Or.inr running)
  generalize hout : output books.executor event = out at hstep
  cases hstep with
  | idle => exact h.idle id rfl rfl rfl
  | applied running sample rest queued noTimeout due onTime more =>
    exact h.apply (hlive running) queued (congrArg List.tail queued) hout rfl rfl
  | succeeded running sample queued due onTime planned final =>
    exact h.apply (hlive running) queued (congrArg List.tail queued) hout rfl rfl
  | _ running => exact h.idle (fun _ => hlive running) rfl rfl rfl

theorem kept_admitted {payload : List Byte} {kind : BatchKind} {batch : Batch} (h : Kept books)
    (hadmits : Admits books.executor payload kind event.tick batch) :
    let kept := (retainedSamples books.executor.session batch kind).length
    Kept
      { executor := admitted books.executor batch kind event.tick hadmits.accepts.fits
        ledger := (books.ledger.cut kept batch.spliceAtTick).enter
          (batch.samples.map fun sample => ⟨sample, books.stream⟩)
        stream := books.stream
        spliced := books.spliced + (books.executor.queue.length - kept) } := by
  intro kept
  have hlive : books.executor.live = true := (live_iff _).mpr hadmits.live
  have hinitial := retainedSamples_initial books.executor.session batch kind
  have hkept : kept ≤ books.executor.queue.length := hinitial.length_le
  refine ⟨(h.balanced.cut _ _).enter _, ?_, ?_, ?_, h.ended, h.reported, ?_⟩
  · intro _
    have htake : books.executor.queue.take kept =
        retainedSamples books.executor.session batch kind := (List.prefix_iff_eq_take.mp hinitial).symm
    have hqueued : (books.ledger.queued.take kept).map (·.item.sample) =
        retainedSamples books.executor.session batch kind := by
      rw [List.map_take, h.queued hlive, htake]
    have hnew := Custody.Ledger.number_items books.ledger.admitted.length
      (batch.samples.map fun sample => (⟨sample, books.stream⟩ : Ticket))
    have hnew' := congrArg (List.map Ticket.sample) hnew
    rw [List.map_map, List.map_map] at hnew'
    show List.map _ (books.ledger.queued.take kept ++ _) =
      retainedSamples books.executor.session batch kind ++ batch.samples
    rw [List.map_append, hqueued]
    exact congrArg _ (hnew'.trans (by simp [Function.comp_def]))
  · intro hdead
    have hsame : (admitted books.executor batch kind event.tick hadmits.accepts.fits).live =
        books.executor.live := rfl
    rw [hsame, hlive] at hdead
    cases hdead
  · intro entry hentry
    rcases List.mem_append.mp hentry with hentry | hentry
    · exact h.stream entry (List.mem_of_mem_take hentry)
    · have hitem : entry.item ∈ (Custody.Ledger.number books.ledger.admitted.length
          (batch.samples.map fun sample => (⟨sample, books.stream⟩ : Ticket))).map (·.item) :=
        List.mem_map_of_mem hentry
      rw [Custody.Ledger.number_items] at hitem
      obtain ⟨sample, -, heq⟩ := List.mem_map.mp hitem
      rw [← heq]
  · intro _
    have hcounted := h.counted hlive
    show books.executor.diagnostics.acceptedSamples + BitVec.ofNat 32 batch.samples.length =
      books.executor.diagnostics.appliedSamples +
        BitVec.ofNat 32 ((retainedSamples books.executor.session batch kind ++
          batch.samples).length + (books.spliced + (books.executor.queue.length - kept)))
    rw [hcounted, BitVec.add_assoc, ← BitVec.ofNat_add, List.length_append]
    congr 2
    omega

/-- **The books are right after every event.** -/
theorem kept_next (event : Event) (h : Kept books) : Kept (books.next event) := by
  have houtcome := next_outcome books.executor event
  generalize hnext : Stream.next books.executor event = executor at houtcome
  cases houtcome with
  | refused _ same call noBatch notOpen silent =>
    have hstate : executor.diagnostics.state = books.executor.diagnostics.state :=
      congrArg (·.diagnostics.state) same
    rw [Books.next_quiet notOpen noBatch, hnext]
    refine h.idle ?_ (congrArg (·.queue) same) (congrArg (·.diagnostics.acceptedSamples) same)
      (congrArg (·.diagnostics.appliedSamples) same)
    simp [StreamExecutor.live, hstate]
  | opened payload policy call notRunning accepted opens silent =>
    simp only [Books.next, opens, if_true, hnext]
    refine ⟨h.balanced.discard, fun _ => rfl, fun _ => rfl,
      fun _ hentry => absurd hentry List.not_mem_nil, ?_, h.reported, fun _ => rfl⟩
    intro entry hentry
    refine Or.inl (Nat.lt_succ_of_le ?_)
    rcases List.mem_append.mp hentry with hentry | hentry
    · rcases h.ended entry hentry with hlt | ⟨-, heq⟩
      · exact Nat.le_of_lt hlt
      · exact Nat.le_of_eq heq
    · exact Nat.le_of_eq (h.stream entry hentry)
  | admitted payload kind batch call admits admitted_ notOpen silent =>
    simp only [Books.next, notOpen, admitted_, hnext]
    exact kept_admitted h admits
  | started position call starts notOpen silent =>
    rw [Books.next_quiet notOpen (by simp [admittedBatch, call]), hnext]
    exact h.idle (fun _ => (live_iff _).mpr (Or.inl starts.priming)) rfl rfl rfl
  | stepped _ result call step notOpen =>
    rw [Books.next_quiet notOpen (by simp [admittedBatch, call]), hnext]
    exact kept_step h step
  | checked _ result call check notOpen silent =>
    have hbatch : admittedBatch books.executor event = none := by
      unfold admittedBatch
      split
      · rename_i hcall
        simp [hcall, Call.isFeedback] at call
      · rfl
    rw [Books.next_quiet notOpen hbatch, hnext]
    generalize hresult : (executor, result) = r at check
    cases check with
    | idle =>
      cases hresult
      exact h.idle id rfl rfl rfl
    | tracked errors =>
      cases hresult
      exact h.idle id rfl rfl rfl
    | aborted errors joint live =>
      cases hresult
      exact h.idle (fun hlive => by cases hlive) rfl rfl rfl
  | noted joint call notOpen silent =>
    rw [Books.next_quiet notOpen (by simp [admittedBatch, call]), hnext]
    exact h.idle id rfl rfl rfl

theorem settle_applied (executor : StreamExecutor) (ledger : Ledger) :
    (settle executor ledger).applied = ledger.applied := by
  unfold settle
  split <;> rfl

theorem settle_removed (executor : StreamExecutor) (ledger : Ledger) :
    (settle executor ledger).removed = ledger.removed := by
  unfold settle
  split <;> rfl

/-- What an event books as applied: nothing, or the head of the queue, by a step on which it is
due. -/
theorem applied_next (h : Kept books) (event : Event) :
    (books.next event).ledger.applied = books.ledger.applied ∨
      ∃ entry rest, event.call = .step ∧ books.executor.diagnostics.state = .running ∧
        books.executor.queue = entry.item.sample :: rest ∧
        ¬ After (books.executor.due entry.item.sample) event.tick ∧
        (books.next event).ledger.applied = books.ledger.applied ++
          [(entry, ⟨event.tick, books.executor.controlEpochTick, output books.executor event⟩)] := by
  by_cases hopens : opens books.executor event = true
  · simp [Books.next, hopens, Custody.Ledger.discard]
  · cases hbatch : admittedBatch books.executor event with
    | some admitted =>
      simp [Books.next, hopens, hbatch, Custody.Ledger.enter, Custody.Ledger.cut]
    | none =>
      rw [Books.next_quiet (Bool.eq_false_iff.mpr hopens) hbatch]
      simp only [settle_applied, noteApplication]
      split
      · exact Or.inl rfl
      · rename_i hchanged
        refine Or.inr ?_
        obtain ⟨hcall, hrunning, sample, rest, hqueue, hdue⟩ :=
          (next_outcome books.executor event).applies hchanged (Bool.eq_false_iff.mpr hopens)
        have hmirror := h.queued ((live_iff _).mpr (Or.inr hrunning))
        rw [hqueue] at hmirror
        obtain ⟨entry, entries, hentries, rfl, -⟩ := List.map_eq_cons_iff.mp hmirror
        refine ⟨entry, rest, hcall, hrunning, hqueue, hdue, ?_⟩
        rw [Custody.Ledger.apply_cons _ hentries]

variable {hardCaps : StreamHardCaps} {jointLimits : JointLimits} {initial : StreamExecutor}

theorem kept_begin (hinit : streamExecutorInit hardCaps jointLimits = .ok initial) :
    Kept (Books.begin initial) := by
  obtain ⟨hstate, -⟩ := streamExecutorInit_ok hinit
  have hdead : initial.live = false := by simp [StreamExecutor.live, hstate]
  have hnever : (Books.begin initial).executor.live = true → False := by
    intro hlive
    rw [Books.begin, hdead] at hlive
    cases hlive
  exact ⟨Custody.Ledger.balanced_empty, fun hlive => (hnever hlive).elim, fun _ => rfl,
    fun _ hentry => absurd hentry List.not_mem_nil,
    fun _ hentry => absurd hentry List.not_mem_nil, fun _ ha => absurd ha List.not_mem_nil,
    fun hlive => (hnever hlive).elim⟩

theorem kept_run (hinit : streamExecutorInit hardCaps jointLimits = .ok initial)
    (events : List Event) : Kept (Machine.run Books.next (Books.begin initial) events) :=
  Machine.run_invariant_all (fun _ event h => kept_next event h) events (kept_begin hinit)

end MobileBimanual.Stream
