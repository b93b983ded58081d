/-
# One phase after another

In every run of a sequence port the goal under way is the owner, the children of a goal are started
in the order of its phases and none twice, and the ownership is given back when the last phase has
succeeded, or when a cancelled goal has no child at work: none is started that has not succeeded, or
the last one has reported its end after it was cancelled.

`Tracks` is what is known of the owner's entry inside a poll that began at the phase `at_`.  An
exception of the clock between two phases leaves an entry whose phase counts as started though no
child of it is (`Tracks.stage`, the third case); such an entry can only be cancelled.
-/
import MobileBimanual.Tasks.SequencePort

namespace MobileBimanual.Tasks

open Activity Oracle Machine Registry Triple SequenceCall

abbrev SequenceJournal (P : Type) := Journal (SequenceCall P) Reply

namespace SequencePort

variable {P : Type}

/-! ## 1. What a journal shows -/

def children (goal : String) (phases : List (Phase P)) : List (P × Child) :=
  phases.mapIdx fun index phase => (phase.port, ⟨goal, index⟩)

/-- Those that were started, in order. -/
def starts (goal : String) : SequenceJournal P → List (P × Child)
  | [] => []
  | ⟨.start port child _, _⟩ :: journal =>
    if child.goal = goal then starts goal journal ++ [(port, child)] else starts goal journal
  | _ :: journal => starts goal journal

/-- The child reported success, and the monitor what the phase requires then. -/
def Succeeded (phase : Phase P) (child : Child) (journal : SequenceJournal P) : Prop :=
  (∃ result : PortResult, ⟨.poll phase.port child, .ok result⟩ ∈ journal ∧
    result.state = .succeeded) ∧
  ∃ now, ∃ feedback : Feedback, ⟨.monitor child phase.name now, .ok feedback⟩ ∈ journal ∧
    feedback.conditions.Satisfy phase.after

def Cancelled (port : P) (child : Child) (journal : SequenceJournal P) : Prop :=
  ∃ reply : Except Raised Unit, ⟨.cancel port child, reply⟩ ∈ journal

/-- The child was cancelled, and has reported its end since. -/
def Halted (port : P) (child : Child) (journal : SequenceJournal P) : Prop :=
  ∃ later before, ∃ result : PortResult,
    journal = later ++ ⟨.poll port child, .ok result⟩ :: before ∧ result.state.Terminal ∧
    Cancelled port child before

/-- Every child that was started has succeeded. -/
def Idle (goal : String) (phases : List (Phase P)) (journal : SequenceJournal P) : Prop :=
  ∃ count, starts goal journal = (children goal phases).take count ∧
    ∀ index phase, index < count → phases[index]? = some phase →
      Succeeded phase ⟨goal, index⟩ journal

/-- What lets the port go. -/
def Released (goal : String) (e : SequenceEntry P) (journal : SequenceJournal P) : Prop :=
  (e.status = .succeeded ∧ starts goal journal = children goal e.phases ∧
    ∀ index phase, e.phases[index]? = some phase → Succeeded phase ⟨goal, index⟩ journal) ∨
  (e.cancel = true ∧ (Idle goal e.phases journal ∨
    ∃ port child, (starts goal journal).getLast? = some (port, child) ∧ Halted port child journal))

/-- What holds of a sequence port in every state it reaches. -/
structure Safe (w : SequencePort P) (journal : SequenceJournal P) : Prop where
  owner : ∀ goal e, w.entries.lookup goal = some e → (e.status = .running ↔ w.owner = some goal)
  present : ∀ goal, w.owner = some goal → ∃ e, w.entries.lookup goal = some e
  built : ∀ goal e, w.entries.lookup goal = some e → ∃ parameters documents,
    ⟨.build parameters, .ok documents⟩ ∈ journal ∧ checkPhases documents = .ok e.phases
  /-- Each child once and in order: the indices are distinct. -/
  ordered : ∀ goal e, w.entries.lookup goal = some e →
    starts goal journal <+: children goal e.phases
  unknown : ∀ goal, w.entries.lookup goal = none → starts goal journal = []
  released : ∀ goal e, w.entries.lookup goal = some e → e.status ≠ .running →
    Released goal e journal

/-! ## 2. Entries of the journal -/

def Concerns : SequenceCall P → String → Prop
  | .start _ child _, goal => child.goal = goal
  | _, _ => False

variable {goal : String} {phases : List (Phase P)} {journal : SequenceJournal P}
  {r : Entry (SequenceCall P) Reply} {e : SequenceEntry P} {at_ : Nat}

theorem starts_cons (h : ¬ Concerns r.call goal) :
    starts goal (r :: journal) = starts goal journal := by
  obtain ⟨call, reply⟩ := r
  cases call with
  | start port child parameters => exact if_neg h
  | _ => rfl

variable {phase : Phase P} {child : Child}

theorem Succeeded.cons (h : Succeeded phase child journal) :
    Succeeded phase child (r :: journal) := by
  obtain ⟨⟨result, hpoll, hstate⟩, now, feedback, hmonitor, hafter⟩ := h
  exact ⟨⟨result, List.mem_cons_of_mem _ hpoll, hstate⟩, now, feedback,
    List.mem_cons_of_mem _ hmonitor, hafter⟩

theorem Cancelled.cons {port : P} (h : Cancelled port child journal) :
    Cancelled port child (r :: journal) := by
  obtain ⟨reply, hmem⟩ := h
  exact ⟨reply, List.mem_cons_of_mem _ hmem⟩

theorem Halted.cons {port : P} (h : Halted port child journal) :
    Halted port child (r :: journal) := by
  obtain ⟨later, before, result, rfl, hrest⟩ := h
  exact ⟨r :: later, before, result, rfl, hrest⟩

theorem Released.cons (h : Released goal e journal) (hmute : ¬ Concerns r.call goal) :
    Released goal e (r :: journal) := by
  unfold Released at h ⊢
  rw [starts_cons hmute]
  rcases h with ⟨hstatus, hstarts, hdone⟩ | ⟨hcancel, hidle | ⟨port, child, hlast, hhalted⟩⟩
  · exact .inl ⟨hstatus, hstarts, fun index phase hphase => (hdone index phase hphase).cons⟩
  · obtain ⟨count, hstarts, hdone⟩ := hidle
    refine .inr ⟨hcancel, .inl ⟨count, (starts_cons hmute).trans hstarts, ?_⟩⟩
    exact fun index phase hindex hphase => (hdone index phase hindex hphase).cons
  · exact .inr ⟨hcancel, .inr ⟨port, child, hlast, hhalted.cons⟩⟩

/-! ## 3. The entry of the owner -/

/-- The phases are those that were built. -/
def Built (phases : List (Phase P)) (journal : SequenceJournal P) : Prop :=
  ∃ parameters documents, ⟨.build parameters, .ok documents⟩ ∈ journal ∧
    checkPhases documents = .ok phases

structure Tracks (goal : String) (phases : List (Phase P)) (at_ : Nat) (e : SequenceEntry P)
    (journal : SequenceJournal P) : Prop where
  fixed : e.phases = phases
  built : Built phases journal
  index : e.index ≤ phases.length
  done : ∀ index phase, index < e.index → phases[index]? = some phase →
    Succeeded phase ⟨goal, index⟩ journal
  stage :
    e.started = false ∧ starts goal journal = (children goal phases).take e.index ∨
    e.started = true ∧ starts goal journal = (children goal phases).take (e.index + 1) ∨
    e.started = true ∧ starts goal journal = (children goal phases).take e.index
  captured : e.started = true → e.index = at_ ∨
    starts goal journal = (children goal phases).take e.index
  asked : e.cancel = true → e.started = true → ∀ phase, phases[e.index]? = some phase →
    starts goal journal = (children goal phases).take (e.index + 1) →
    Cancelled phase.port ⟨goal, e.index⟩ journal

/-- An entry that is not cancelled is at a phase. -/
def Going (goal : String) (phases : List (Phase P)) (e : SequenceEntry P)
    (journal : SequenceJournal P) : Prop :=
  e.cancel = false → e.index < phases.length ∧ (e.started = true →
    starts goal journal = (children goal phases).take (e.index + 1))

structure Known (goal : String) (e : SequenceEntry P) (journal : SequenceJournal P) : Prop where
  tracks : Tracks goal e.phases e.index e journal
  going : e.status = .running → Going goal e.phases e journal
  released : e.status ≠ .running → Released goal e journal

theorem Tracks.cons (h : Tracks goal phases at_ e journal) (hmute : ¬ Concerns r.call goal) :
    Tracks goal phases at_ e (r :: journal) := by
  have hstarts : starts goal (r :: journal) = starts goal journal := starts_cons hmute
  obtain ⟨parameters, documents, hmem, hphases⟩ := h.built
  refine ⟨h.fixed, ⟨parameters, documents, List.mem_cons_of_mem _ hmem, hphases⟩, h.index,
    fun index phase hindex hphase => (h.done index phase hindex hphase).cons, ?_, ?_, ?_⟩
  · rw [hstarts]
    exact h.stage
  · rw [hstarts]
    exact h.captured
  · rw [hstarts]
    exact fun hcancel hstarted phase hphase htake =>
      (h.asked hcancel hstarted phase hphase htake).cons

theorem Going.cons (h : Going goal phases e journal) (hmute : ¬ Concerns r.call goal) :
    Going goal phases e (r :: journal) := by
  unfold Going
  rw [starts_cons hmute]
  exact h

/-- What an entry and its journal have in common. -/
def law (P : Type) : Law (SequenceEntry P) (SequenceCall P) Reply where
  running e := e.status = .running
  known := Known
  unknown goal journal := starts goal journal = []
  concerns := Concerns
  known_cons hmute h := ⟨h.tracks.cons hmute, fun hrunning => (h.going hrunning).cons hmute,
    fun hended => (h.released hended).cons hmute⟩
  unknown_cons hmute h := (starts_cons hmute).trans h

theorem Known.ordered (h : Known goal e journal) :
    starts goal journal <+: children goal e.phases := by
  rcases h.tracks.stage with ⟨-, hstarts⟩ | ⟨-, hstarts⟩ | ⟨-, hstarts⟩ <;> rw [hstarts] <;>
    exact List.take_prefix _ _

theorem Sound.safe {w : SequencePort P} (h : Sound (law P) w journal) : Safe w journal :=
  ⟨h.owned, h.present, fun goal e hlookup => (h.known goal e hlookup).tracks.built,
    fun goal e hlookup => (h.known goal e hlookup).ordered, h.unknown,
    fun goal e hlookup => (h.known goal e hlookup).released⟩

/-- An entry under way, inside a poll that began at the phase `at_`. -/
def Moving (goal : String) (phases : List (Phase P)) (at_ : Nat) (e : SequenceEntry P)
    (journal : SequenceJournal P) : Prop :=
  Tracks goal phases at_ e journal ∧ Going goal phases e journal

theorem Moving.cons (h : Moving goal phases at_ e journal) (hmute : ¬ Concerns r.call goal) :
    Moving goal phases at_ e (r :: journal) :=
  ⟨h.1.cons hmute, h.2.cons hmute⟩

theorem Moving.known (h : Moving goal phases at_ e journal) (hrunning : e.status = .running) :
    Known goal e journal := by
  obtain ⟨htracks, hgoing⟩ := h
  obtain rfl := htracks.fixed
  refine ⟨⟨rfl, htracks.built, htracks.index, htracks.done, htracks.stage, fun _ => .inl rfl,
    htracks.asked⟩, fun _ => hgoing, fun hended => absurd hrunning hended⟩

theorem Known.moving (h : Known goal e journal) (hrunning : e.status = .running) :
    Moving goal e.phases e.index e journal :=
  ⟨h.tracks, h.going hrunning⟩

/-- A note that changes neither the stage nor the cancellation. -/
theorem Tracks.same (h : Tracks goal phases at_ e journal) {e' : SequenceEntry P}
    (hphases : e'.phases = e.phases) (hindex : e'.index = e.index)
    (hstarted : e'.started = e.started)
    (hasked : e'.cancel = true → e'.started = true → ∀ phase, phases[e'.index]? = some phase →
      starts goal journal = (children goal phases).take (e'.index + 1) →
      Cancelled phase.port ⟨goal, e'.index⟩ journal) : Tracks goal phases at_ e' journal := by
  refine ⟨hphases.trans h.fixed, h.built, hindex ▸ h.index, ?_, ?_, ?_, hasked⟩
  · rw [hindex]
    exact h.done
  · rw [hindex, hstarted]
    exact h.stage
  · rw [hindex, hstarted]
    exact h.captured

/-! ## 4. Cancelling -/

variable {R : Raised → SequencePort P → SequenceJournal P → Prop}

/-- The entry has been cancelled, and its child too if it is at work. -/
theorem moving_cancelled {e' : SequenceEntry P} (h : Tracks goal phases at_ e journal)
    (hphases : e'.phases = e.phases) (hindex : e'.index = e.index)
    (hstarted : e'.started = e.started) (hcancel : e'.cancel = true)
    (hasked : e.started = true → ∀ phase, phases[e.index]? = some phase →
      Cancelled phase.port ⟨goal, e.index⟩ journal) : Moving goal phases at_ e' journal := by
  refine ⟨h.same hphases hindex hstarted ?_, fun hfalse => nomatch hcancel.symm.trans hfalse⟩
  rw [hindex, hstarted]
  exact fun _ hstarted phase hphase _ => hasked hstarted phase hphase

/-- What is known after a cancellation, whether the child's port raised or the entry has no phase. -/
theorem cancelEntry_moves {reason : String} {cancelled : Bool} :
    Triple (conduct (SequenceCall P) Reply)
      (Attends (law P) goal (Tracks goal phases at_)) (cancelEntry goal reason cancelled)
      (fun _ => Attends (law P) goal (Moving goal phases at_))
      fun _ => Attends (law P) goal (Moving goal phases at_) := by
  refine bind triple_entry fun e => triple_ite (fun hdone => triple_pure ?_) fun hgoing => ?_
  · rintro w journal h
    refine h.mono ?_
    rintro e' hrunning ⟨rfl, h⟩
    refine ⟨h, fun hcancel => ?_⟩
    rcases hdone with hended | hdone
    · exact absurd hrunning hended
    · exact nomatch hdone.symm.trans hcancel
  refine bind (M := fun _ => Attends (law P) goal fun e' journal =>
      Tracks goal phases at_ e journal ∧ e'.phases = e.phases ∧ e'.index = e.index ∧
        e'.started = e.started ∧ e'.cancel = true)
    (triple_amend fun e' journal hrunning ⟨he, h⟩ => ⟨hrunning, ?_⟩) fun _ => ?_
  · subst he
    exact ⟨h, rfl, rfl, rfl, rfl⟩
  refine triple_ite (fun hstarted => ?_) fun hstarted => triple_pure ?_
  · split
    next hnone =>
      refine triple_throw fun w journal h => h.mono ?_
      rintro e' hrunning ⟨h, hphases, hindex, hsame, hcancel⟩
      refine moving_cancelled h hphases hindex hsame hcancel fun _ phase hphase => ?_
      rw [h.fixed] at hnone
      exact nomatch hnone.symm.trans hphase
    next phase hphase =>
      have hasked : ∀ reply : Except Raised Unit, ∀ e' journal, (law P).running e' →
          (Tracks goal phases at_ e journal ∧ e'.phases = e.phases ∧ e'.index = e.index ∧
            e'.started = e.started ∧ e'.cancel = true) →
          Moving goal phases at_ e' (⟨.cancel phase.port ⟨goal, e.index⟩, reply⟩ :: journal) := by
        rintro reply e' journal - ⟨h, hphases, hindex, hsame, hcancel⟩
        refine moving_cancelled (h.cons (r := ⟨.cancel .., reply⟩) id) hphases hindex hsame
          hcancel fun _ phase' hphase' => ⟨reply, ?_⟩
        rw [h.fixed] at hphase
        rw [Option.some.inj (hphase'.symm.trans hphase)]
        exact List.mem_cons_self
      refine tryCatch (E := fun _ => Attends (law P) goal (Moving goal phases at_))
        (Registry.triple_ask (fun _ _ => id) (fun e' journal _ => hasked (.ok _) e' journal)
          fun e' journal error => hasked (.error error) e' journal) fun error => ?_
      refine triple_amend fun e' journal hrunning h => ⟨hrunning, h.1.same rfl rfl rfl h.1.asked, h.2⟩
  · rintro w journal h
    refine h.mono ?_
    rintro e' hrunning ⟨h, hphases, hindex, hsame, hcancel⟩
    exact moving_cancelled h hphases hindex hsame hcancel fun htrue => absurd htrue hstarted

/-! ## 5. A poll -/

/-- What a poll leaves of the owner: it is still under way, or has just succeeded. -/
def Advanced (goal : String) (phases : List (Phase P)) (at_ : Nat) (w : SequencePort P)
    (journal : SequenceJournal P) : Prop :=
  Attends (law P) goal (Moving goal phases at_) w journal ∨
    Sound (law P) w journal ∧ ∀ e, w.entries.lookup goal = some e → e.cancel = false

/-- The entry as the poll has found it. -/
def AtPhase (goal : String) (phases : List (Phase P)) (phase : Phase P) (e₀ e : SequenceEntry P)
    (journal : SequenceJournal P) : Prop :=
  e = e₀ ∧ Moving goal phases e₀.index e journal ∧ e.cancel = false ∧
    phases[e₀.index]? = some phase

variable {e₀ : SequenceEntry P}

theorem AtPhase.cons (h : AtPhase goal phases phase e₀ e journal) (hmute : ¬ Concerns r.call goal) :
    AtPhase goal phases phase e₀ e (r :: journal) :=
  ⟨h.1, h.2.1.cons hmute, h.2.2⟩

theorem AtPhase.tracks {w : SequencePort P}
    (h : Attends (law P) goal (AtPhase goal phases phase e₀) w journal) :
    Attends (law P) goal (Tracks goal phases e₀.index) w journal :=
  h.mono fun _ _ h => h.2.1.1

/-- A call that starts no child finds the entry as it was. -/
theorem askAtPhase {call : SequenceCall P} (hmute : ∀ goal, ¬ Concerns call goal) :
    Triple (conduct (SequenceCall P) Reply)
      (Attends (law P) goal (AtPhase goal phases phase e₀)) (invoke call)
      (fun value => Attends (law P) goal fun e journal => AtPhase goal phases phase e₀ e journal ∧
        ⟨call, .ok value⟩ ∈ journal)
      fun _ => Attends (law P) goal (Tracks goal phases e₀.index) :=
  Registry.triple_ask (fun other _ => hmute other)
    (fun _ _ value _ h =>
      ⟨h.cons (r := ⟨call, .ok value⟩) (hmute goal), List.mem_cons_self⟩)
    fun _ _ error _ h => (h.cons (r := ⟨call, .error error⟩) (hmute goal)).2.1.1

/-- The monitor has reported these conditions. -/
def Monitored (child : Child) (phase : Phase P) (conditions : Conditions)
    (journal : SequenceJournal P) : Prop :=
  ∃ now, ∃ feedback : Feedback, ⟨.monitor child phase.name now, .ok feedback⟩ ∈ journal ∧
    feedback.conditions = conditions

variable {conditions : Conditions}

theorem Monitored.cons (h : Monitored child phase conditions journal) :
    Monitored child phase conditions (r :: journal) := by
  obtain ⟨now, feedback, hmem, hconditions⟩ := h
  exact ⟨now, feedback, List.mem_cons_of_mem _ hmem, hconditions⟩

variable {maxAge : ℚ}

theorem evidence_reports {earliest : ℚ} :
    Triple (conduct (SequenceCall P) Reply)
      (Attends (law P) goal (AtPhase goal phases phase e₀)) (evidence maxAge child phase earliest)
      (fun conditions => Attends (law P) goal fun e journal =>
        AtPhase goal phases phase e₀ e journal ∧ Monitored child phase conditions journal)
      fun _ => Attends (law P) goal (Tracks goal phases e₀.index) := by
  refine bind (askAtPhase fun _ => id) fun now => bind
    (M := fun _ => Attends (law P) goal (AtPhase goal phases phase e₀))
    (triple_expect (fun _ _ _ _ h => h.mono fun _ _ h => h.1)
      fun _ _ _ _ h => AtPhase.tracks (h.mono fun _ _ h => h.1)) fun now =>
    bind (askAtPhase fun _ => id) fun feedback =>
      triple_ite (fun _ => triple_throw fun _ _ h => AtPhase.tracks (h.mono fun _ _ h => h.1))
        fun _ => bind (M := fun _ => Attends (law P) goal fun e journal =>
            AtPhase goal phases phase e₀ e journal ∧
              ⟨.monitor child phase.name now, .ok feedback⟩ ∈ journal)
          (triple_expect (fun _ _ _ _ h => h)
            fun _ _ _ _ h => AtPhase.tracks (h.mono fun _ _ h => h.1)) fun stamp =>
          triple_ite (fun _ => triple_throw fun _ _ h => AtPhase.tracks (h.mono fun _ _ h => h.1))
            fun _ => triple_pure fun _ _ h => h.mono ?_
  exact fun e _ h => ⟨h.1, now, feedback, h.2, rfl⟩

theorem cancel_advances {reason : String} {X : SequenceEntry P → SequenceJournal P → Prop}
    (hX : ∀ e journal, X e journal → AtPhase goal phases phase e₀ e journal) :
    Triple (conduct (SequenceCall P) Reply) (Attends (law P) goal X)
      (cancelEntry goal reason false) (fun _ => Advanced goal phases e₀.index)
      fun _ => Attends (law P) goal (Tracks goal phases e₀.index) :=
  cancelEntry_moves.conseq (fun _ _ h => h.mono fun e _ he => (hX e _ he).2.1.1)
    (fun _ _ _ h => .inl h) fun _ _ _ h => h.mono fun _ _ h => h.1

theorem children_take {index : Nat} (h : phases[index]? = some phase) :
    (children goal phases).take (index + 1) =
      (children goal phases).take index ++ [(phase.port, ⟨goal, index⟩)] := by
  obtain ⟨hindex, hphase⟩ := List.getElem?_eq_some_iff.mp h
  have hlength : index < (children goal phases).length := by
    rw [children, List.length_mapIdx]
    exact hindex
  rw [List.take_succ_eq_append_getElem hlength]
  simp only [children, List.getElem_mapIdx, hphase]

/-- The child has succeeded; the entry is still at its phase. -/
structure Passed (goal : String) (phases : List (Phase P)) (phase : Phase P) (at_ : Nat)
    (e : SequenceEntry P) (journal : SequenceJournal P) : Prop
    extends Tracks goal phases at_ e journal where
  here : e.index = at_
  there : phases[at_]? = some phase
  moving : e.started = true
  kept : e.cancel = false
  launched : starts goal journal = (children goal phases).take (at_ + 1)
  succeeded : Succeeded phase ⟨goal, at_⟩ journal

/-- The next phase has come, and none of its children. -/
theorem Passed.next (h : Passed goal phases phase at_ e journal) :
    Tracks goal phases at_ { e with index := e.index + 1 } journal ∧
      starts goal journal = (children goal phases).take (e.index + 1) ∧ e.cancel = false := by
  obtain ⟨htracks, hhere, hthere, hmoving, hkept, hlaunched, hsucceeded⟩ := h
  subst hhere
  refine ⟨⟨htracks.fixed, htracks.built, ?_, ?_, .inr (.inr ⟨hmoving, hlaunched⟩),
    fun _ => .inr hlaunched, fun hcancel => nomatch hkept.symm.trans hcancel⟩, hlaunched, hkept⟩
  · exact (List.getElem?_eq_some_iff.mp hthere).1
  · intro index phase' hindex hphase'
    rcases Nat.lt_succ_iff_lt_or_eq.mp hindex with hindex | hindex
    · exact htracks.done index phase' hindex hphase'
    · subst hindex
      obtain rfl := Option.some.inj (hthere.symm.trans hphase')
      exact hsucceeded

theorem follow_advances (hstarted : e₀.started = true) :
    Triple (conduct (SequenceCall P) Reply)
      (Attends (law P) goal fun e journal => AtPhase goal phases phase e₀ e journal ∧
        Monitored ⟨goal, e₀.index⟩ phase conditions journal)
      (follow goal phase ⟨goal, e₀.index⟩ conditions) (fun _ => Advanced goal phases e₀.index)
      fun _ => Attends (law P) goal (Tracks goal phases e₀.index) := by
  refine triple_ite (fun _ => cancel_advances fun _ _ h => h.1) fun _ => bind
    (M := fun result => Attends (law P) goal fun e journal =>
      AtPhase goal phases phase e₀ e journal ∧ Monitored ⟨goal, e₀.index⟩ phase conditions journal ∧
        ⟨.poll phase.port ⟨goal, e₀.index⟩, .ok result⟩ ∈ journal)
    (Registry.triple_ask (fun _ _ => id)
      (fun _ _ result _ h => ⟨h.1.cons (r := ⟨.poll .., .ok result⟩) id, h.2.cons,
        List.mem_cons_self⟩)
      fun _ _ error _ h => (h.1.cons (r := ⟨.poll .., .error error⟩) id).2.1.1) fun result => ?_
  refine triple_ite (fun _ => cancel_advances fun _ _ h => h.1) fun _ =>
    triple_ite (fun hsucceeded => ?_) fun _ => triple_pure fun _ _ h => .inl (h.mono fun _ _ h => h.1.2.1)
  -- The clock may raise before and after the index has moved on.
  refine bind (M := fun _ => Attends (law P) goal (Passed goal phases phase e₀.index))
    (Registry.triple_ask (fun _ _ => id) ?_ ?_) fun now => bind
    (M := fun _ => Attends (law P) goal (Passed goal phases phase e₀.index))
    (triple_amend fun e journal hrunning h => ⟨hrunning, ?_⟩) fun _ => bind
    (M := fun _ => Attends (law P) goal fun e journal => Tracks goal phases e₀.index e journal ∧
      starts goal journal = (children goal phases).take e.index ∧ e.cancel = false)
    (triple_amend fun e journal hrunning h => ⟨hrunning, h.next⟩) fun _ => bind
    (M := fun _ => Attends (law P) goal fun e journal => Tracks goal phases e₀.index e journal ∧
      starts goal journal = (children goal phases).take e.index ∧ e.cancel = false)
    (Registry.triple_ask (fun _ _ => id) ?_ ?_) fun now => bind
    (M := fun _ => Attends (law P) goal fun e journal => Tracks goal phases e₀.index e journal ∧
      e.started = false ∧ starts goal journal = (children goal phases).take e.index ∧
      e.cancel = false)
    (triple_amend fun e journal hrunning h => ⟨hrunning, ?_⟩) fun _ =>
    bind triple_entry fun e => triple_ite (fun hlast => ?_) fun hlast => triple_pure ?_
  · rintro e journal now - ⟨⟨rfl, hmoving, hcancel, hphase⟩, hmonitored, hpoll⟩
    have hmoving' := hmoving.cons (r := ⟨.clock, .ok now⟩) id
    obtain ⟨now', feedback, hmonitor, rfl⟩ := hmonitored
    exact ⟨hmoving'.1, rfl, hphase, hstarted, hcancel, (hmoving'.2 hcancel).2 hstarted,
      ⟨result, List.mem_cons_of_mem _ hpoll, hsucceeded.1⟩, now', feedback,
      List.mem_cons_of_mem _ hmonitor, hsucceeded.2⟩
  · exact fun e journal error _ h => (h.1.cons (r := ⟨.clock, .error error⟩) id).2.1.1
  · exact ⟨h.toTracks.same rfl rfl rfl h.asked, h.here, h.there, h.moving, h.kept, h.launched,
      h.succeeded⟩
  · rintro e journal value - ⟨htracks, hstarts, hcancel⟩
    have hmute : ¬ Concerns (clock : SequenceCall P) goal := id
    exact ⟨htracks.cons hmute, (starts_cons hmute).trans hstarts, hcancel⟩
  · exact fun e journal error _ h => h.1.cons (r := ⟨.clock, .error error⟩) id
  · obtain ⟨htracks, hstarts, hcancel⟩ := h
    exact ⟨⟨htracks.fixed, htracks.built, htracks.index, htracks.done, .inl ⟨rfl, hstarts⟩, nofun,
      fun _ => nofun⟩, rfl, hstarts, hcancel⟩
  · refine (triple_finish_showing (K := fun e => e.cancel = false) ?_ ?_).conseq
      (fun _ _ h => h) (fun _ _ _ h => .inr h) fun _ _ _ h => h
    · rintro e' journal hrunning ⟨rfl, htracks, hunstarted, hstarts, hcancel⟩
      obtain rfl := htracks.fixed
      have hall : starts goal journal = children goal e'.phases := by
        rw [hstarts, hlast]
        exact List.take_of_length_le (by rw [children, List.length_mapIdx])
      refine ⟨nofun, ⟨htracks.fixed, htracks.built, htracks.index, htracks.done,
        .inl ⟨hunstarted, hstarts⟩, fun h => (nomatch hunstarted.symm.trans h),
        fun _ h => (nomatch hunstarted.symm.trans h)⟩, nofun, fun _ => .inl ⟨rfl, hall, ?_⟩⟩
      intro index phase' hphase'
      exact htracks.done index phase' (hlast ▸ (List.getElem?_eq_some_iff.mp hphase').1) hphase'
    · rintro e' journal ⟨rfl, -, -, -, hcancel⟩
      exact hcancel
  · rintro w journal h
    refine .inl (h.mono ?_)
    rintro e' - ⟨rfl, htracks, hunstarted, hstarts, hcancel⟩
    refine ⟨htracks, fun _ => ⟨lt_of_le_of_ne htracks.index ?_, fun h =>
      nomatch hunstarted.symm.trans h⟩⟩
    rw [← htracks.fixed]
    exact hlast

/-- The phase counts as started, and its child is not. -/
structure Launching (goal : String) (phases : List (Phase P)) (phase : Phase P) (at_ : Nat)
    (e : SequenceEntry P) (journal : SequenceJournal P) : Prop
    extends Tracks goal phases at_ e journal where
  here : e.index = at_
  there : phases[at_]? = some phase
  moving : e.started = true
  kept : e.cancel = false
  behind : starts goal journal = (children goal phases).take at_

/-- The child is started, whatever its port says. -/
theorem Launching.start (h : Launching goal phases phase at_ e journal) {parameters : String}
    {reply : Except Raised Unit} :
    Moving goal phases at_ e (⟨.start phase.port ⟨goal, at_⟩ parameters, reply⟩ :: journal) := by
  obtain ⟨htracks, hhere, hthere, hmoving, hkept, hbehind⟩ := h
  subst hhere
  obtain ⟨parameters', documents, hmem, hphases⟩ := htracks.built
  have hstarts : starts goal
      (⟨.start phase.port ⟨goal, e.index⟩ parameters, reply⟩ :: journal : SequenceJournal P) =
      (children goal phases).take (e.index + 1) := by
    rw [children_take hthere, ← hbehind]
    exact if_pos rfl
  exact ⟨⟨htracks.fixed, ⟨parameters', documents, List.mem_cons_of_mem _ hmem, hphases⟩,
    htracks.index, fun index phase' hindex hphase' => (htracks.done index phase' hindex hphase').cons,
    .inr (.inl ⟨hmoving, hstarts⟩), fun _ => .inl rfl,
    fun hcancel => nomatch hkept.symm.trans hcancel⟩,
    fun _ => ⟨(List.getElem?_eq_some_iff.mp hthere).1, fun _ => hstarts⟩⟩

theorem launch_advances (hunstarted : e₀.started = false) :
    Triple (conduct (SequenceCall P) Reply)
      (Attends (law P) goal (AtPhase goal phases phase e₀))
      (launch goal phase ⟨goal, e₀.index⟩ conditions) (fun _ => Advanced goal phases e₀.index)
      fun _ => Attends (law P) goal (Tracks goal phases e₀.index) := by
  refine bind (askAtPhase fun _ => id) fun ready => triple_ite (fun _ => ?_) fun _ =>
    triple_pure fun _ _ h => .inl (h.mono fun _ _ h => h.1.2.1)
  refine bind
    (M := fun _ => Attends (law P) goal (Launching goal phases phase e₀.index))
    (triple_amend fun e journal hrunning h => ⟨hrunning, ?_⟩) fun _ => ?_
  · obtain ⟨⟨rfl, ⟨htracks, -⟩, hcancel, hphase⟩, -⟩ := h
    have hstarts : starts goal journal = (children goal phases).take e.index := by
      rcases htracks.stage with ⟨-, hstarts⟩ | ⟨hstarted, -⟩ | ⟨hstarted, -⟩
      · exact hstarts
      · exact nomatch hunstarted.symm.trans hstarted
      · exact nomatch hunstarted.symm.trans hstarted
    exact ⟨⟨htracks.fixed, htracks.built, htracks.index, htracks.done, .inr (.inr ⟨rfl, hstarts⟩),
      fun _ => .inl rfl, fun hfalse => nomatch hcancel.symm.trans hfalse⟩, rfl, hphase, rfl, hcancel,
      hstarts⟩
  · have hask := @Registry.triple_ask _ _ _ _ (law P) goal (Launching goal phases phase e₀.index)
      (.start phase.port ⟨goal, e₀.index⟩ phase.parameters) (fun _ => Moving goal phases e₀.index)
      (fun _ => Moving goal phases e₀.index)
      (fun other hother hsame => hother hsame.symm) (fun _ _ _ _ h => h.start)
      fun _ _ _ _ h => h.start
    exact hask.conseq (fun _ _ h => h) (fun _ _ _ h => .inl h) fun _ _ _ h => h.mono fun _ _ h => h.1

theorem advance_advances :
    Triple (conduct (SequenceCall P) Reply)
      (Attends (law P) goal fun e journal => e = e₀ ∧ Moving goal phases e₀.index e journal ∧
        phases[e₀.index]? = some phase)
      (advance maxAge goal phase ⟨goal, e₀.index⟩) (fun _ => Advanced goal phases e₀.index)
      fun _ => Attends (law P) goal (Tracks goal phases e₀.index) := by
  refine triple_entry_bind (fun _ _ h => h.1) (triple_ite (fun _ => triple_pure fun _ _ h =>
    .inl (h.mono fun _ _ h => h.2.1)) fun hcancel => ?_)
  refine bind (M := fun _ => Attends (law P) goal (AtPhase goal phases phase e₀))
    (Registry.triple_ask (fun _ _ => id) ?_ ?_) fun now =>
      triple_ite (fun _ => cancel_advances fun _ _ h => h) fun _ =>
        bind evidence_reports fun conditions => ?_
  · rintro e journal now - ⟨rfl, hmoving, hphase⟩
    exact ⟨rfl, hmoving.cons (r := ⟨.clock, .ok now⟩) id, by simpa using hcancel, hphase⟩
  · exact fun e journal error _ h => (h.2.1.cons (r := ⟨.clock, .error error⟩) id).1
  · refine triple_ite (fun hstarted => follow_advances hstarted) fun hstarted =>
      (launch_advances (by simpa using hstarted)).conseq (fun _ _ h => h.mono fun _ _ h => h.1)
        (fun _ _ _ h => h) fun _ _ _ h => h

/-- No child is at work. -/
theorem released_of_idle (h : Tracks goal phases at_ e journal) (hcancel : e.cancel = true)
    (hstarts : starts goal journal = (children goal phases).take e.index) :
    Released goal { e with status := e.destination.entryStatus } journal := by
  obtain rfl := h.fixed
  exact .inr ⟨hcancel, .inl ⟨e.index, hstarts, h.done⟩⟩

/-- The child that the poll found at work has reported its end. -/
theorem released_of_terminal {result : PortResult} (h : Tracks goal phases at_ e journal)
    (hcancel : e.cancel = true) (hstarted : e.started = true) (hphase : phases[at_]? = some phase)
    (hterminal : result.state.Terminal) :
    Released goal { e with status := e.destination.entryStatus }
      (⟨.poll phase.port ⟨goal, at_⟩, .ok result⟩ :: journal) := by
  have hstill : ∀ {count}, starts goal journal = (children goal phases).take count →
      starts goal (⟨.poll phase.port ⟨goal, at_⟩, .ok result⟩ :: journal : SequenceJournal P) =
        (children goal phases).take count := fun hstarts => hstarts
  have hcons := h.cons (r := ⟨.poll phase.port ⟨goal, at_⟩, .ok result⟩) id
  have hidle : starts goal journal = (children goal phases).take e.index →
      Released goal { e with status := e.destination.entryStatus }
        (⟨.poll phase.port ⟨goal, at_⟩, .ok result⟩ :: journal) :=
    fun hstarts => released_of_idle hcons hcancel (hstill hstarts)
  rcases h.stage with ⟨hunstarted, -⟩ | ⟨-, hstarts⟩ | ⟨-, hstarts⟩
  · exact nomatch hunstarted.symm.trans hstarted
  · rcases h.captured hstarted with rfl | hbehind
    · refine .inr ⟨hcancel, .inr ⟨phase.port, ⟨goal, e.index⟩, ?_, [], journal, result, rfl,
        hterminal, h.asked hcancel hstarted phase hphase hstarts⟩⟩
      rw [hstill hstarts, children_take hphase, List.getLast?_concat]
    · exact hidle hbehind
  · exact hidle hstarts

/-- **The end of a cancelled entry.** -/
theorem settle_sound (hphase : phases[at_]? = some phase) :
    Triple (conduct (SequenceCall P) Reply) (Advanced goal phases at_)
      (settle goal phase ⟨goal, at_⟩) (fun _ => Sound (law P)) fun _ => Sound (law P) := by
  have hsound : ∀ w journal, Attends (law P) goal (Moving goal phases at_) w journal →
      Sound (law P) w journal := fun w journal h => h.sound fun e hrunning he => he.known hrunning
  have hmoving : Triple (conduct (SequenceCall P) Reply)
      (Attends (law P) goal (Moving goal phases at_)) (settle goal phase ⟨goal, at_⟩)
      (fun _ => Sound (law P)) fun _ => Sound (law P) := by
    refine bind triple_entry fun e => triple_ite (fun hcancel => ?_) fun _ =>
      triple_pure fun _ _ h => hsound _ _ (h.mono fun _ _ h => h.1 ▸ h.2)
    refine bind (M := fun idle => Attends (law P) goal fun e' journal => e' = e ∧
        Moving goal phases at_ e journal ∧ (idle = true →
          Released goal { e with status := e.destination.entryStatus } journal)) ?_ fun idle =>
      triple_ite (fun hidle => ?_) fun _ => triple_pure fun _ _ h =>
        hsound _ _ (h.mono fun _ _ h => h.1 ▸ h.2.1)
    · refine triple_ite (fun hunstarted => triple_pure fun _ _ h => h.mono ?_) fun hstarted =>
        tryCatch (E := fun _ => Attends (law P) goal fun e' journal => e' = e ∧
          Moving goal phases at_ e journal) (bind (M := fun result => Attends (law P) goal
            fun e' journal => e' = e ∧ Moving goal phases at_ e journal ∧ (result.state.Terminal →
              Released goal { e with status := e.destination.entryStatus } journal))
            (Registry.triple_ask (fun _ _ => id) ?_ ?_) fun result =>
              triple_pure fun _ _ h => h.mono ?_) fun _ => triple_pure fun _ _ h => h.mono ?_
      · rintro e' - ⟨rfl, h⟩
        refine ⟨rfl, h, fun _ => released_of_idle h.1 hcancel ?_⟩
        rcases h.1.stage with ⟨-, hstarts⟩ | ⟨hstarted, -⟩ | ⟨hstarted, -⟩
        · exact hstarts
        · exact absurd hstarted hunstarted
        · exact absurd hstarted hunstarted
      · rintro e' journal result - ⟨rfl, h⟩
        exact ⟨rfl, h.cons (r := ⟨.poll .., .ok result⟩) id,
          released_of_terminal h.1 hcancel (not_not.mp hstarted) hphase⟩
      · rintro e' journal error - ⟨rfl, h⟩
        exact ⟨rfl, h.cons (r := ⟨.poll .., .error error⟩) id⟩
      · rintro e' - ⟨rfl, h, hreleased⟩
        exact ⟨rfl, h, fun hidle => hreleased (of_decide_eq_true hidle)⟩
      · rintro e' - ⟨rfl, h⟩
        exact ⟨rfl, h, nofun⟩
    · refine triple_finish fun e' journal _ ⟨he, h, hreleased⟩ => ?_
      subst he
      obtain rfl := h.1.fixed
      exact ⟨e'.destination.entryStatus_ne, ⟨rfl, h.1.built, h.1.index, h.1.done, h.1.stage,
        fun _ => .inl rfl, h.1.asked⟩, fun hrunning => absurd hrunning e'.destination.entryStatus_ne,
        fun _ => hreleased hidle⟩
  have hended : Triple (conduct (SequenceCall P) Reply)
      (fun w journal => Sound (law P) w journal ∧
        ∀ e, w.entries.lookup goal = some e → e.cancel = false) (settle goal phase ⟨goal, at_⟩)
      (fun _ => Sound (law P)) fun _ => Sound (law P) := by
    refine bind (triple_find.conseq (fun _ _ h => h) (fun _ _ _ h => h) fun _ _ _ h => h.1)
      fun e => triple_ite (fun hcancel => ?_) fun _ => triple_pure fun _ _ h => h.1.1
    exact fun w journal h => nomatch (h.1.2 e h.2).symm.trans hcancel
  exact fun w journal h => h.elim (hmoving w journal) (hended w journal)

/-! ## 6. Every run -/

theorem mapM_length {α β : Type} {f : α → Except Raised β} : ∀ {l : List α} {l' : List β},
    l.mapM f = .ok l' → l'.length = l.length
  | [], l', h => by
    cases h
    rfl
  | a :: l, l', h => by
    rw [List.mapM_cons] at h
    obtain ⟨b, -, h⟩ := Except.bind_eq_ok_iff.mp h
    obtain ⟨tail, htail, h⟩ := Except.bind_eq_ok_iff.mp h
    cases h
    exact congrArg Nat.succ (mapM_length htail)

theorem checkPhases_pos {documents : List (PhaseDocument P)}
    (h : checkPhases documents = .ok phases) : 0 < phases.length := by
  unfold checkPhases at h
  split at h
  next => cases h
  next hlength =>
    rw [mapM_length h]
    exact (not_not.mp hlength).1

theorem start_sound {parameters : String} :
    Triple (conduct (SequenceCall P) Reply) (Sound (law P)) (start goal parameters)
      (fun _ => Sound (law P)) fun _ => Sound (law P) := by
  refine triple_get_bind fun w₀ => triple_ite (fun _ => triple_throw fun _ _ h => h.2) fun hfree => ?_
  simp only [not_or, Bool.not_eq_true, Option.isSome_eq_false_iff, Option.isNone_iff_eq_none]
    at hfree
  refine bind (M := fun documents w journal => w = w₀ ∧ Sound (law P) w journal ∧
      ⟨.build parameters, .ok documents⟩ ∈ journal) (triple_invoke ?_ ?_) fun documents =>
    bind (M := fun phases w journal => w = w₀ ∧ Sound (law P) w journal ∧ Built phases journal)
      (triple_expect ?_ fun _ _ _ _ h => h.2.1) fun phases =>
    bind (M := fun _ w journal => w = w₀ ∧ Sound (law P) w journal ∧ Built phases journal)
      (triple_invoke ?_ ?_) fun now =>
    bind (M := fun _ w journal => w = w₀ ∧ Sound (law P) w journal ∧ Built phases journal)
      (triple_expect (fun _ _ _ _ h => h) fun _ _ _ _ h => h.2.1) fun now => triple_modify ?_
  · rintro w journal documents ⟨rfl, h⟩
    exact ⟨rfl, h.cons (r := ⟨.build parameters, .ok documents⟩) fun _ => id,
      List.mem_cons_self⟩
  · rintro w journal error ⟨rfl, h⟩
    exact h.cons (r := ⟨.build parameters, .error error⟩) fun _ => id
  · rintro phases hphases w journal ⟨rfl, h, hmem⟩
    exact ⟨rfl, h, parameters, documents, hmem, hphases⟩
  · rintro w journal now ⟨rfl, h, parameters', documents', hmem, hphases⟩
    exact ⟨rfl, h.cons (r := ⟨.clock, .ok now⟩) fun _ => id, parameters', documents',
      List.mem_cons_of_mem _ hmem, hphases⟩
  · rintro w journal error ⟨rfl, h, -⟩
    exact h.cons (r := ⟨.clock, .error error⟩) fun _ => id
  · rintro w journal ⟨rfl, h, hbuilt⟩
    have hphases : 0 < phases.length := by
      obtain ⟨-, documents', -, hcheck⟩ := hbuilt
      exact checkPhases_pos hcheck
    refine Attends.sound (P := Known goal) (h.enter hfree.1 hfree.2.1 rfl fun hunknown => ?_)
      fun _ _ h => h
    exact ⟨⟨rfl, hbuilt, Nat.zero_le _, fun _ _ => nofun, .inl ⟨rfl, hunknown⟩, nofun, nofun⟩,
      fun _ _ => ⟨hphases, nofun⟩, fun hended => absurd rfl hended⟩

theorem poll_sound :
    Triple (conduct (SequenceCall P) Reply) (Sound (law P)) (poll maxAge goal)
      (fun _ => Sound (law P)) fun _ => Sound (law P) := by
  refine bind triple_find fun e => triple_ite (fun _ => triple_pure fun _ _ h => h.1)
    fun hrunning => ?_
  split
  · exact triple_throw fun _ _ h => h.1
  next phase hphase =>
    have hcaught : Triple (conduct (SequenceCall P) Reply)
        (fun w journal => Sound (law P) w journal ∧ w.entries.lookup goal = some e)
        (tryCatch (advance maxAge goal phase ⟨goal, e.index⟩) fun error =>
          cancelEntry goal ("phase_error:" ++ error.text) false)
        (fun _ => Advanced goal e.phases e.index) fun _ => Sound (law P) := by
      refine tryCatch (advance_advances.conseq ?_ (fun _ _ _ h => h) fun _ _ _ h => h)
        fun error => cancelEntry_moves.conseq (fun _ _ h => h) (fun _ _ _ h => .inl h)
          fun _ _ _ h => h.sound fun _ hrunning he => he.known hrunning
      rintro w journal ⟨h, hlookup⟩
      refine (h.attends hlookup (not_not.mp hrunning)).mono ?_
      rintro e' hrunning' ⟨rfl, hknown⟩
      exact ⟨rfl, Known.moving hknown hrunning', hphase⟩
    exact bind hcaught fun _ => bind (settle_sound hphase) fun _ =>
      bind triple_find fun _ => triple_pure fun _ _ h => h.1

theorem cancel_sound :
    Triple (conduct (SequenceCall P) Reply) (Sound (law P)) (cancel goal)
      (fun _ => Sound (law P)) fun _ => Sound (law P) := by
  refine triple_by_entry goal (fun e => ?_) ?_
  · have hsound : ∀ w journal, Attends (law P) goal (Moving goal e.phases e.index) w journal →
        Sound (law P) w journal := fun w journal h => h.sound fun _ hrunning he => he.known hrunning
    refine cancelEntry_moves.conseq (fun w journal h => h.mono ?_) (fun _ => hsound) fun _ => hsound
    rintro e' - ⟨rfl, hknown⟩
    exact Known.tracks hknown
  · refine bind (triple_find.conseq (fun _ _ h => h) (fun _ _ _ h => h) fun _ _ _ h => h.1)
      fun e => triple_ite (fun _ => triple_pure fun _ _ h => h.1.1) fun hgoing => ?_
    exact fun w journal h => absurd (.inl (h.1.2 e h.2)) hgoing

theorem evidence_triple {earliest : ℚ} :
    Triple (conduct (SequenceCall P) Reply) (Sound (law P))
      (evidence maxAge child phase earliest) (fun _ => Sound (law P)) fun _ => Sound (law P) := by
  have hask : ∀ call : SequenceCall P, (∀ goal, ¬ Concerns call goal) →
      Triple (conduct (SequenceCall P) Reply) (Sound (law P)) (invoke call)
        (fun _ => Sound (law P)) fun _ => Sound (law P) := fun call hmute =>
    triple_invoke (fun _ _ value h => h.cons (r := ⟨call, .ok value⟩) hmute)
      fun _ _ error h => h.cons (r := ⟨call, .error error⟩) hmute
  exact bind (hask _ fun _ => id) fun now =>
    bind (M := fun _ => Sound (law P)) (triple_expect (fun _ _ _ _ h => h) fun _ _ _ _ h => h)
      fun now => bind (hask _ fun _ => id) fun feedback =>
        triple_ite (fun _ => triple_throw fun _ _ h => h) fun _ =>
          bind (M := fun _ => Sound (law P))
            (triple_expect (fun _ _ _ _ h => h) fun _ _ _ _ h => h) fun stamp =>
            triple_ite (fun _ => triple_throw fun _ _ h => h) fun _ => triple_pure fun _ _ h => h

theorem phaseSafe_sound :
    Triple (conduct (SequenceCall P) Reply) (Sound (law P)) (phaseSafe maxAge goal)
      (fun _ => Sound (law P)) fun _ => Sound (law P) := by
  refine bind (triple_find.conseq (fun _ _ h => h) (fun _ _ _ h => h.1) fun _ _ _ h => h)
    fun e => triple_ite (fun _ => triple_pure fun _ _ h => h) fun _ =>
      triple_ite (fun _ => triple_pure fun _ _ h => h) fun _ => ?_
  split
  · exact triple_throw fun _ _ h => h
  · exact tryCatch (bind evidence_triple fun _ => triple_pure fun _ _ h => h) fun _ =>
      triple_pure fun _ _ h => h

theorem op_sound (op : SequenceOp) :
    Triple (conduct (SequenceCall P) Reply) (Sound (law P)) (op.action maxAge)
      (fun _ => Sound (law P)) fun _ => Sound (law P) := by
  cases op with
  | start goal parameters => exact start_sound
  | poll goal => exact bind poll_sound fun _ => triple_pure fun _ _ h => h
  | cancel goal => exact cancel_sound
  | phaseSafe goal => exact bind phaseSafe_sound fun _ => triple_pure fun _ _ h => h

/-- **One owner, one child after another**, in every run of a sequence port. -/
theorem sequence_safe (maxAge : ℚ)
    (l : List (SequenceOp × Oracle (SequenceCall P) Reply)) :
    Safe (run (consult (SequenceOp.action maxAge)) (Registry.empty, []) l).1
      (run (consult (SequenceOp.action maxAge)) (Registry.empty, []) l).2 :=
  Sound.safe (consult_invariant op_sound l (sound_empty fun _ => rfl))

end SequencePort

end MobileBimanual.Tasks
