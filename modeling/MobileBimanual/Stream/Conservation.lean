/-
# Conservation and order of the queued samples

Every admitted sample is applied once, still queued, removed by a splice, or discarded with its
stream; the books of the stream balance after every run (`Kept`).  What is left is order, and
order is a matter of the tick circle:

* a splice removes what is at or behind its tick, and the samples it removes are behind its tick
  if the queue it cuts is shorter than half the circle (`removed_not_before_splice`); on a longer
  queue the samples behind the first one it removes may lie anywhere (`Bench.wrappedRun`);
* consecutive applied samples are in order because the head of the queue is after the anchor;
  a batch appended to a queue that has run empty must bring that with it.
-/
import MobileBimanual.Stream.Books
import MobileBimanual.Stream.Payload

namespace MobileBimanual.Stream

open Serial (After ahead reach)

/-! ## 1. Splices on a short queue -/

/-- The queue spans less than half the circle. -/
def ShortQueue : List Setpoint → Prop
  | [] => True
  | s :: rest => 2 * reach s.applyTick (rest.map (·.applyTick)) < 2 ^ 32

instance : (queue : List Setpoint) → Decidable (ShortQueue queue)
  | [] => inferInstanceAs (Decidable True)
  | _ :: _ => inferInstanceAs (Decidable (_ < _))

/-- The samples of a short queue lie in order on one arc from its head. -/
theorem ShortQueue.arc {s : Setpoint} {rest : List Setpoint} (h : ShortQueue (s :: rest))
    {x : Setpoint} (hx : x ∈ s :: rest) :
    ahead x.applyTick s.applyTick ≤ reach s.applyTick (rest.map (·.applyTick)) := by
  rcases List.mem_cons.mp hx with rfl | hx
  · simp
  · exact Serial.ahead_le_reach (List.mem_map_of_mem hx) (by
      have : 2 * reach s.applyTick (rest.map (·.applyTick)) < 2 ^ 32 := h
      omega)

/-- A short queue in order from each sample to the next is in order throughout. -/
theorem ShortQueue.pairwise {queue : List Setpoint} (h : ShortQueue queue)
    (horder : InOrder queue) :
    List.Pairwise (fun x y : Setpoint => After y.applyTick x.applyTick) queue := by
  cases queue with
  | nil => exact List.Pairwise.nil
  | cons s rest =>
    have hticks : List.IsChain (fun x y : Tick => After y x)
        (s.applyTick :: rest.map (·.applyTick)) :=
      (List.isChain_map (fun t : Setpoint => t.applyTick) (l := s :: rest)).mpr horder
    have hpairs := Serial.pairwise_after hticks h
    exact List.pairwise_map.mp (show List.Pairwise _ ((s :: rest).map (·.applyTick)) from hpairs)

variable {position : Joints}

/-- Where the queue has an interpolated position, it has an arc under it: the tick is no further
from the head than the tail is. -/
theorem interpolatePosition_arc {tick : Tick} :
    ∀ {s : Setpoint} {rest : List Setpoint}, InOrder (s :: rest) → ShortQueue (s :: rest) →
      interpolatePosition tick (s :: rest) = some position →
      ahead tick s.applyTick ≤ reach s.applyTick (rest.map (·.applyTick))
  | s, [], _, _, h => by
    simp only [interpolatePosition] at h
    split at h
    · rename_i heq
      simp [heq]
    · cases h
  | s, t :: rest, horder, hshort, h => by
    have hst := (Serial.after_iff _ _).mp (List.isChain_cons_cons.mp horder).1
    have hspan : 2 * (ahead t.applyTick s.applyTick +
        reach t.applyTick (rest.map (·.applyTick))) < 2 ^ 32 := hshort
    rw [List.map_cons, Serial.reach_cons]
    simp only [interpolatePosition] at h
    split at h
    · rename_i heq
      simp [heq]
    · split at h
      · rename_i hbetween
        rw [Bool.and_eq_true, tickIsAfter_iff, tickIsBefore_iff, Serial.after_iff,
          Serial.after_iff] at hbetween
        have hsum : ahead t.applyTick s.applyTick =
            ahead t.applyTick tick + ahead tick s.applyTick := Serial.ahead_add (by omega)
        omega
      · have ih := interpolatePosition_arc (List.isChain_cons_cons.mp horder).2
          (show 2 * _ < 2 ^ 32 by omega) h
        have hsum : ahead tick s.applyTick =
            ahead tick t.applyTick + ahead t.applyTick s.applyTick := Serial.ahead_add (by omega)
        omega

theorem drop_length_takeWhile {α : Type} (p : α → Bool) (l : List α) :
    l.drop (l.takeWhile p).length = l.dropWhile p := by
  have hsplit : l.takeWhile p ++ l.dropWhile p = l := List.takeWhile_append_dropWhile
  calc l.drop (l.takeWhile p).length
      = (l.takeWhile p ++ l.dropWhile p).drop (l.takeWhile p).length := by rw [hsplit]
    _ = l.dropWhile p := List.drop_left

theorem removed_not_before_splice {session : StreamSession} {batch : Batch}
    (horder : InOrder session.validatedSamples.samples)
    (hshort : ShortQueue session.validatedSamples.samples)
    (hposition : interpolatePosition batch.spliceAtTick session.validatedSamples.samples = some position)
    {removed : Setpoint}
    (hremoved : removed ∈ session.validatedSamples.samples.drop
      (retainedSamples session batch .splice).length) :
    ¬ After batch.spliceAtTick removed.applyTick := by
  unfold retainedSamples at hremoved
  generalize session.validatedSamples.samples = queue at *
  rw [drop_length_takeWhile] at hremoved
  obtain ⟨first, others, hdropped⟩ := List.exists_cons_of_ne_nil (List.ne_nil_of_mem hremoved)
  have hsuffix : first :: others <:+ queue := hdropped ▸ List.dropWhile_suffix _
  have hfirst : ¬ After batch.spliceAtTick first.applyTick := by
    have hnot := List.head?_dropWhile_not
      (fun sample : Setpoint => tickIsBefore sample.applyTick batch.spliceAtTick) queue
    rw [hdropped] at hnot
    simpa using hnot
  rw [hdropped] at hremoved
  obtain ⟨s, rest, rfl⟩ := List.exists_cons_of_ne_nil
    (List.ne_nil_of_mem (hsuffix.subset List.mem_cons_self))
  have hspan : 2 * reach s.applyTick (rest.map (·.applyTick)) < 2 ^ 32 := hshort
  have hsplice := interpolatePosition_arc horder hshort hposition
  have hfirstArc := hshort.arc (hsuffix.subset List.mem_cons_self)
  have hremovedArc := hshort.arc (hsuffix.subset hremoved)
  -- on the arc of the queue the order is the order of the distances from its head
  rw [Serial.after_iff_of_arc (c := s.applyTick) (by omega) (by omega)] at hfirst ⊢
  rcases List.mem_cons.mp hremoved with rfl | hlater
  · exact hfirst
  · have hpairs := (hshort.pairwise horder).sublist hsuffix.sublist
    have hafter := (List.pairwise_cons.mp hpairs).1 removed hlater
    rw [Serial.after_iff_of_arc (c := s.applyTick) (by omega) (by omega)] at hafter
    omega

variable {batch : Batch}

theorem splice_at_head {session : StreamSession} (horder : InOrder session.validatedSamples.samples)
    (hshort : ShortQueue session.validatedSamples.samples)
    (hposition : interpolatePosition batch.spliceAtTick session.validatedSamples.samples = some position)
    (hretained : retainedSamples session batch .splice = []) :
    ∃ head ∈ session.validatedSamples.samples.head?, batch.spliceAtTick = head.applyTick := by
  unfold retainedSamples at hretained
  generalize session.validatedSamples.samples = queue at *
  cases queue with
  | nil => cases hposition
  | cons s rest =>
    refine ⟨s, rfl, ?_⟩
    have hnot : ¬ After batch.spliceAtTick s.applyTick := by
      simpa [List.takeWhile_cons] using hretained
    have hspan : 2 * reach s.applyTick (rest.map (·.applyTick)) < 2 ^ 32 := hshort
    have hsplice := interpolatePosition_arc horder hshort hposition
    rw [Serial.after_iff] at hnot
    exact Serial.eq_of_ahead_eq_zero (by omega)

/-! ## 2. Removals and applications in order -/

/-- A splice edits a queue shorter than half the circle, and a batch appended to an empty RUNNING
queue begins after the anchor. -/
def editsInOrder (executor : StreamExecutor) (event : Event) : Prop :=
  ∀ admitted ∈ admittedBatch executor event,
    (admitted.1 = .splice → ShortQueue executor.queue) ∧
    (admitted.1 = .append → executor.diagnostics.state = .running → executor.queue = [] →
      After admitted.2.firstApplyTick executor.anchor.applyTick)

instance (executor : StreamExecutor) (event : Event) : Decidable (editsInOrder executor event) :=
  inferInstanceAs (Decidable (∀ admitted ∈ admittedBatch executor event, _))

/-- No removed sample is before the splice that removed it. -/
def RemovedBehindSplice (ledger : Ledger) : Prop :=
  ∀ removal ∈ ledger.removed, ¬ After removal.2 removal.1.item.sample.applyTick

/-- Two applications in a row, of one stream, are in apply-tick order. -/
def AppliedInOrder (ledger : Ledger) : Prop :=
  List.IsChain (fun a b => a.1.item.stream = b.1.item.stream →
    After b.1.item.sample.applyTick a.1.item.sample.applyTick) ledger.applied

structure Ordered (books : Books) : Prop where
  removed : RemovedBehindSplice books.ledger
  applied : AppliedInOrder books.ledger
  streams : ∀ a ∈ books.ledger.applied, a.1.item.stream ≤ books.stream
  /-- The last sample applied in the current stream is the anchor, and the head is after it. -/
  last : ∀ a ∈ books.ledger.applied.getLast?, a.1.item.stream = books.stream →
    books.executor.live = true →
      books.executor.diagnostics.state = .running ∧
        books.executor.anchor = a.1.item.sample ∧
        ∀ s ∈ books.executor.queue.head?, After s.applyTick books.executor.anchor.applyTick

variable {books : Books} {event : Event} {executor : StreamExecutor}

/-- An event that applies nothing and keeps anchor and queue, or ends the stream. -/
theorem Ordered.idle (h : Ordered books)
    (hlive : executor.live = true → books.executor.live = true ∧ (books.executor.diagnostics.state = .running → executor.diagnostics.state = .running ∧ executor.anchor = books.executor.anchor ∧ executor.queue = books.executor.queue))
    (happlied : executor.diagnostics.appliedSamples = books.executor.diagnostics.appliedSamples) :
    Ordered ⟨executor, settle executor (noteApplication books.executor executor event
      books.ledger), books.stream, books.spliced⟩ := by
  rw [noteApplication, if_pos happlied]
  refine ⟨?_, ?_, ?_, ?_⟩
  · simpa only [RemovedBehindSplice, settle_removed] using h.removed
  · simpa only [AppliedInOrder, settle_applied] using h.applied
  · simpa only [settle_applied] using h.streams
  · intro a ha hstream hl
    rw [settle_applied] at ha
    obtain ⟨hbefore, hsame⟩ := hlive hl
    obtain ⟨hrunning, hanchor, hhead⟩ := h.last a ha hstream hbefore
    obtain ⟨hstate, hanchor', hqueue⟩ := hsame hrunning
    refine ⟨hstate, hanchor'.trans hanchor, ?_⟩
    intro s hs
    rw [hqueue] at hs
    rw [hanchor']
    exact hhead s hs

theorem Ordered.apply {sample : Setpoint} {rest : List Setpoint} (h : Ordered books)
    (hkept : Kept books) (hsound : Sound books.executor)
    (hrunning : books.executor.diagnostics.state = .running)
    (hbefore : books.executor.queue = sample :: rest) (hqueue : executor.queue = rest)
    (hanchor : executor.anchor = sample)
    (hstate : executor.live = true → executor.diagnostics.state = .running)
    (happlied : executor.diagnostics.appliedSamples =
      books.executor.diagnostics.appliedSamples + 1) :
    Ordered ⟨executor, settle executor (noteApplication books.executor executor event
      books.ledger), books.stream, books.spliced⟩ := by
  have hlive : books.executor.live = true := (live_iff _).mpr (Or.inr hrunning)
  have hchanged : executor.diagnostics.appliedSamples ≠
      books.executor.diagnostics.appliedSamples := by
    rw [happlied]
    exact add_one_ne _
  have hmirror := hkept.queued hlive
  rw [hbefore] at hmirror
  obtain ⟨entry, entries, hentries, hentry, -⟩ := List.map_eq_cons_iff.mp hmirror
  have hstream : entry.item.stream = books.stream :=
    hkept.stream entry (by rw [hentries]; exact List.mem_cons_self)
  rw [noteApplication, if_neg hchanged, Custody.Ledger.apply_cons _ hentries]
  refine ⟨?_, ?_, ?_, ?_⟩
  · simpa only [RemovedBehindSplice, settle_removed] using h.removed
  · simp only [AppliedInOrder, settle_applied]
    refine List.isChain_append.mpr ⟨h.applied, List.isChain_singleton _, ?_⟩
    intro a ha b hb
    cases hb
    intro hsame
    obtain ⟨-, hbefore', hhead⟩ := h.last a ha (hsame.trans hstream) hlive
    have hafter := hhead sample (by simp [hbefore])
    rw [hbefore'] at hafter
    rwa [← hentry] at hafter
  · intro a ha
    rw [settle_applied] at ha
    rcases List.mem_append.mp ha with ha | ha
    · exact h.streams a ha
    · obtain rfl := List.mem_singleton.mp ha
      exact Nat.le_of_eq hstream
  · intro a ha _ hl
    rw [settle_applied, List.getLast?_append] at ha
    cases ha
    refine ⟨hstate hl, hanchor.trans hentry.symm, ?_⟩
    intro s hs
    have horder := hsound.inOrder
    rw [hbefore] at horder
    rw [hqueue] at hs
    rw [hanchor]
    exact (List.isChain_cons.mp horder).1 s hs

theorem ordered_step {result : ExecutorResult} (h : Ordered books) (hkept : Kept books)
    (hsound : Sound books.executor)
    (hstep : StepOutcome books.executor event.tick
      (executor, result, output books.executor event)) :
    Ordered ⟨executor, settle executor (noteApplication books.executor executor event
      books.ledger), books.stream, books.spliced⟩ := by
  have hlive : books.executor.diagnostics.state = .running → books.executor.live = true :=
    fun running => (live_iff _).mpr (Or.inr running)
  generalize output books.executor event = out at hstep
  cases hstep with
  | idle => exact h.idle (fun hl => ⟨hl, fun hr => ⟨hr, rfl, rfl⟩⟩) rfl
  | applied running sample rest queued noTimeout due onTime more =>
    exact h.apply hkept hsound running queued (congrArg List.tail queued) rfl
      (fun _ => running) rfl
  | succeeded running sample queued due onTime planned final =>
    exact h.apply hkept hsound running queued (congrArg List.tail queued) rfl
      (fun hl => by cases hl) rfl
  | holding running => exact h.idle (fun hl => ⟨hl, fun hr => ⟨hr, rfl, rfl⟩⟩) rfl
  | interpolated running => exact h.idle (fun hl => ⟨hl, fun hr => ⟨hr, rfl, rfl⟩⟩) rfl
  | _ running => exact h.idle (fun hl => by cases hl) rfl

/-- The head of the edited queue is after whatever the head of the queue is after, or was
required to be. -/
theorem head_after_anchor {payload : List Byte} {kind : BatchKind} (hsound : Sound executor)
    (hadmits : Admits executor payload kind event.tick batch)
    (hbatch : admittedBatch executor event = some (kind, batch)) (hok : editsInOrder executor event)
    (hrunning : executor.diagnostics.state = .running)
    (hhead : ∀ s ∈ executor.queue.head?, After s.applyTick executor.anchor.applyTick) :
    ∀ s ∈ (retainedSamples executor.session batch kind ++ batch.samples).head?,
      After s.applyTick executor.anchor.applyTick := by
  intro s hs
  obtain ⟨hsplice, happend⟩ := hok _ hbatch
  have hinitial := retainedSamples_initial executor.session batch kind
  cases hretained : retainedSamples executor.session batch kind with
  | cons r rs =>
    rw [hretained] at hs hinitial
    cases hs
    obtain ⟨tail, htail⟩ := hinitial
    exact hhead _ (by rw [StreamExecutor.queue, ← htail]; rfl)
  | nil =>
    rw [hretained, List.nil_append] at hs
    have hfirst : s.applyTick = batch.firstApplyTick := by
      rw [← hadmits.accepts.decoded.first, Batch.firstSample, List.headD_eq_head?_getD, hs,
        Option.getD_some]
    rw [hfirst]
    cases kind with
    | append => exact happend rfl hrunning hretained
    | splice =>
      obtain ⟨position, hposition, hspliceOk⟩ := hadmits.accepts.splice rfl
      obtain ⟨head, hhead', htick⟩ := splice_at_head hsound.inOrder (hsplice rfl) hposition
        hretained
      rw [← hadmits.accepts.decoded.first, hspliceOk.first, htick]
      exact hhead head hhead'

theorem cut_behind_splice {payload : List Byte} {kind : BatchKind} {batch : Batch}
    (hkept : Kept books) (hsound : Sound books.executor)
    (hadmits : Admits books.executor payload kind event.tick batch)
    (hbatch : admittedBatch books.executor event = some (kind, batch))
    (hok : editsInOrder books.executor event) {entry : Custody.Entry Ticket}
    (hentry : entry ∈ books.ledger.queued.drop
      (retainedSamples books.executor.session batch kind).length) :
    ¬ After batch.spliceAtTick entry.item.sample.applyTick := by
  obtain ⟨hsplice, -⟩ := hok _ hbatch
  have hsample : entry.item.sample ∈ books.executor.queue.drop
      (retainedSamples books.executor.session batch kind).length := by
    rw [← hkept.queued ((live_iff _).mpr hadmits.live), ← List.map_drop]
    exact List.mem_map_of_mem hentry
  cases kind with
  | append => simp [retainedSamples] at hsample
  | splice =>
    obtain ⟨position, hposition, -⟩ := hadmits.accepts.splice rfl
    exact removed_not_before_splice hsound.inOrder (hsplice rfl) hposition hsample

/-- **Every event that edits in order keeps the order.** -/
theorem ordered_next (h : Ordered books) (hkept : Kept books) (hsound : Sound books.executor)
    (hok : editsInOrder books.executor event) : Ordered (books.next event) := by
  have houtcome := next_outcome books.executor event
  generalize hnext : Stream.next books.executor event = executor at houtcome
  cases houtcome with
  | refused _ same call noBatch notOpen silent =>
    have hstate : executor.diagnostics.state = books.executor.diagnostics.state :=
      congrArg (·.diagnostics.state) same
    rw [Books.next_quiet notOpen noBatch, hnext]
    refine h.idle (fun hl => ⟨by simpa [StreamExecutor.live, hstate] using hl, fun hr => ?_⟩)
      (congrArg (·.diagnostics.appliedSamples) same)
    exact ⟨hstate.trans hr, congrArg (·.anchor) same, congrArg (·.queue) same⟩
  | opened payload policy call notRunning accepted opens silent =>
    simp only [Books.next, opens, if_true, hnext]
    refine ⟨h.removed, h.applied, fun a ha => Nat.le_succ_of_le (h.streams a ha), ?_⟩
    intro a ha hstream
    have hold := h.streams a (List.mem_of_getLast? ha)
    have hstream : a.1.item.stream = books.stream + 1 := hstream
    omega
  | admitted payload kind batch call admits admitted_ notOpen silent =>
    simp only [Books.next, notOpen, admitted_, hnext]
    refine ⟨?_, h.applied, h.streams, ?_⟩
    · intro removal hremoval
      rcases List.mem_append.mp hremoval with hremoval | hremoval
      · exact h.removed removal hremoval
      · obtain ⟨entry, hentry, rfl⟩ := List.mem_map.mp hremoval
        exact cut_behind_splice hkept hsound admits admitted_ hok hentry
    · intro a ha hstream hl
      obtain ⟨hrunning, hanchor, hhead⟩ := h.last a ha hstream hl
      exact ⟨hrunning, hanchor, head_after_anchor hsound admits admitted_ hok hrunning hhead⟩
  | started position call starts notOpen silent =>
    rw [Books.next_quiet notOpen (by simp [admittedBatch, call]), hnext]
    refine h.idle (fun _ => ⟨(live_iff _).mpr (Or.inl starts.priming), fun hr => ?_⟩) rfl
    rw [starts.priming] at hr
    cases hr
  | stepped _ result call step notOpen =>
    rw [Books.next_quiet notOpen (by simp [admittedBatch, call]), hnext]
    exact ordered_step h hkept hsound step
  | checked _ result call check notOpen silent =>
    have hbatch : admittedBatch books.executor event = none := by
      unfold admittedBatch
      split
      · rename_i hcall
        simp [hcall, Call.isFeedback] at call
      · rfl
    rw [Books.next_quiet notOpen hbatch, hnext]
    generalize hresult : (executor, result) = r at check
    cases check with
    | idle =>
      cases hresult
      exact h.idle (fun hl => ⟨hl, fun hr => ⟨hr, rfl, rfl⟩⟩) rfl
    | tracked errors =>
      cases hresult
      exact h.idle (fun hl => ⟨hl, fun hr => ⟨hr, rfl, rfl⟩⟩) rfl
    | aborted errors joint live =>
      cases hresult
      exact h.idle (fun hl => by cases hl) rfl
  | noted joint call notOpen silent =>
    rw [Books.next_quiet notOpen (by simp [admittedBatch, call]), hnext]
    exact h.idle (fun hl => ⟨hl, fun hr => ⟨hr, rfl, rfl⟩⟩) rfl

/-! ## 3. Conservation -/

/-- Without a splice nothing is cut off. -/
theorem spliced_next (h : books.spliced = 0) (hevent : event.call.isSplice = false) :
    (books.next event).spliced = 0 := by
  unfold Books.next
  dsimp only
  split
  · rfl
  · split
    · rename_i kind batch hbatch
      obtain ⟨payload, hcall⟩ := admittedBatch_kind hbatch
      cases kind with
      | append => simp [retainedSamples, h]
      | splice => simp [hcall, Call.isSplice] at hevent
    · exact h

/-- What is in the queue, and where every admitted sample is. -/
structure Accounted (jointLimits : JointLimits) (books : Books) : Prop where
  fits : books.executor.queue.length ≤ 16
  withinLimits : ∀ s ∈ books.executor.queue,
    positionsWithinLimits jointLimits s.positionUrad = true
  inOrder : InOrder books.executor.queue
  balanced : books.ledger.Balanced
  queued : books.executor.live = true →
    books.ledger.queued.map (·.item.sample) = books.executor.queue
  settled : books.executor.live = false → books.ledger.queued = []
  ended : ∀ entry ∈ books.ledger.discarded, entry.item.stream < books.stream ∨
    books.executor.live = false ∧ entry.item.stream = books.stream
  reported : Reported books.ledger

/-- **Conservation and order.**  In every run the queue is sound and every admitted sample is in
exactly one place; in append-only runs the counters of a RUNNING executor balance; and if every
edit is in order, so are the removals and the applications. -/
theorem queue_conserved {hardCaps : StreamHardCaps} {jointLimits : JointLimits}
    {initial : StreamExecutor} (hinit : streamExecutorInit hardCaps jointLimits = .ok initial)
    (events : List Event) :
    (Machine.run Books.next (Books.begin initial) events).executor = after initial events ∧
    Accounted jointLimits (Machine.run Books.next (Books.begin initial) events) ∧
    ((∀ event ∈ events, event.call.isSplice = false) →
      (after initial events).diagnostics.state = .running →
      (after initial events).diagnostics.acceptedSamples =
        (after initial events).diagnostics.appliedSamples +
          BitVec.ofNat 32 (after initial events).queue.length) ∧
    (Machine.Along next editsInOrder initial events →
      RemovedBehindSplice (Machine.run Books.next (Books.begin initial) events).ledger ∧
      AppliedInOrder (Machine.run Books.next (Books.begin initial) events).ledger) := by
  have hexecutor := Books.executor_run (Books.begin initial) events
  have hkept := kept_run hinit events
  have hsound := sound_after hinit events
  refine ⟨hexecutor, ?_, ?_, ?_⟩
  · refine ⟨SampleQueue.fits _, ?_, ?_, hkept.balanced, hkept.queued, hkept.settled,
      hkept.ended, hkept.reported⟩
    · rw [hexecutor, ← after_jointLimits hinit events]
      exact hsound.withinLimits
    · rw [hexecutor]
      exact hsound.inOrder
  · intro happendOnly hrunning
    have hspliced : (Machine.run Books.next (Books.begin initial) events).spliced = 0 :=
      Machine.run_invariant (I := fun books : Books => books.spliced = 0)
        (fun _ _ h hok => spliced_next h hok) events rfl
        (Machine.along_of_forall (fun _ event hevent => happendOnly event hevent) _)
    have hlive : (Machine.run Books.next (Books.begin initial) events).executor.live = true := by
      rw [hexecutor]
      exact (live_iff _).mpr (Or.inr hrunning)
    have hcounted := hkept.counted hlive
    rwa [hspliced, Nat.add_zero, hexecutor] at hcounted
  · intro hedits
    have hordered : Ordered (Books.begin initial) :=
      ⟨fun _ h => absurd h List.not_mem_nil, List.isChain_nil,
        fun _ h => absurd h List.not_mem_nil, nofun⟩
    have hinv := Machine.run_invariant
      (I := fun books => Ordered books ∧ Kept books ∧ Sound books.executor)
      (fun books event h hok => ⟨ordered_next h.1 h.2.1 h.2.2 hok, kept_next event h.2.1, by
        rw [Books.executor_next]
        exact sound_next event h.2.2⟩)
      events ⟨hordered, kept_begin hinit, sound_init hinit⟩
      ((Machine.along_map Books.executor Books.executor_next _ events).mpr hedits)
    exact ⟨hinv.1.removed, hinv.1.applied⟩

/-- A stream on the bench whose queue is cut by a splice before its last sample. -/
def Bench.splicedRun : List Event :=
  [⟨100, .openStream (openPayload 1 0 100)⟩,
    ⟨100, .admitBatch (batchPayload 0 0 [(120, 0), (140, 0)]) .append⟩, ⟨100, .start fun _ => 0⟩,
    ⟨100, .step⟩, ⟨105, .admitBatch (batchPayload 0 130 [(130, 0), (150, 0)]) .splice⟩,
    ⟨115, .step⟩, ⟨120, .step⟩, ⟨130, .step⟩]

theorem queue_conserved_bench :
    RemovedBehindSplice
        (Machine.run Books.next (Books.begin Bench.executor) Bench.splicedRun).ledger ∧
      AppliedInOrder
        (Machine.run Books.next (Books.begin Bench.executor) Bench.splicedRun).ledger :=
  (queue_conserved Bench.executor_init Bench.splicedRun).2.2.2 (by decide +kernel)

/-- A queue that goes once round the circle, and a splice of its second sample. -/
def Bench.wrappedRun : List Event :=
  [⟨100, .openStream (openPayload 1 0 100)⟩,
    ⟨100, .admitBatch (batchPayload 0 0 [(120, 0), (2147483760, 0), (104, 0), (124, 0)]) .append⟩,
    ⟨100, .admitBatch (batchPayload 0 122 [(122, 0)]) .splice⟩]

/-- **The splice at 122 removes the sample of tick 104**, which it is later than. -/
theorem splice_removes_earlier :
    ¬ RemovedBehindSplice
      (Machine.run Books.next (Books.begin Bench.executor) Bench.wrappedRun).ledger := by
  unfold RemovedBehindSplice
  decide +kernel

end MobileBimanual.Stream
