/-
# The adapter fails closed

The adapter over a transport that answers as it likes, with a journal of the calls it makes
(`HostSystem`).  Between operations the arms are commanded only in READY and ACTIVE: in any other
state the last of the ARMs and SAFE_STOPs in the journal is a stop (`Rest`).  During an operation
every call is `Proper`: nothing is commanded outside READY and ACTIVE, and the first call after the
adapter has left them with the arms commanded is the SAFE_STOP.  Each operation, as a triple, keeps
the first and makes only the second (`action_guarded`); a run then does (`adapter_fails_closed`).
-/
import MobileBimanual.Adapter.Aside
import MobileBimanual.Lib.Client
import MobileBimanual.Lib.Machine

namespace MobileBimanual.Adapter

open Activity Program AdapterState

/-! ## 1. The journal -/

/-- READY and ACTIVE. -/
def AdapterState.Live (state : AdapterState) : Prop := state = .ready ∨ state = .active

instance (state : AdapterState) : Decidable state.Live := inferInstanceAs (Decidable (_ ∨ _))

/-- FAULTED and STOPPED. -/
def AdapterState.Departed (state : AdapterState) : Prop := state = .faulted ∨ state = .stopped

variable {state : AdapterState}

theorem AdapterState.Departed.not_live (h : state.Departed) : ¬ state.Live := by
  rcases h with rfl | rfl <;> exact nofun

/-- A request that arms, enables, opens or moves. -/
def Request.commands : Request → Bool
  | .arm _ | .enable | .openStream _ | .append _ | .splice _ => true
  | _ => false

/-- The calls that were made, the last one first. -/
abbrev Journal := List HostCall

/-- The last of the ARMs and SAFE_STOPs is an ARM. -/
def powered : Journal → Bool
  | [] => false
  | .transport _ (.arm _) :: _ => true
  | .transport _ .safeStop :: _ => false
  | _ :: journal => powered journal

/-- A call in its turn, of an adapter that may be past READY and ACTIVE for good. -/
structure Proper (gone : Bool) (state : AdapterState) (request : Request) (journal : Journal) :
    Prop where
  departed : gone = true → state.Departed
  /-- Nothing is commanded outside READY and ACTIVE. -/
  live : request.commands = true → state.Live
  /-- Outside them powered arms are stopped before anything else. -/
  stopFirst : ¬ state.Live → powered journal = true → request = .safeStop

def journalConduct (gone : Bool) : Conduct HostCall HostCall.Reply Journal where
  interferes journal journal' := journal' = journal
  permits call journal := ∀ state request, call = .transport state request →
    Proper gone state request journal
  answers call journal _ journal' := journal' = call :: journal

/-- What holds between calls: powered arms are known to be, and outside READY and ACTIVE there are
none. -/
structure Rest (gone : Bool) (a : ResidentAdapter) (journal : Journal) : Prop where
  departed : gone = true → a.state.Departed
  known : powered journal = true → a.armed = true
  disarmed : ¬ a.state.Live → a.armed = false

variable {gone : Bool} {S T U : AdapterState → Prop} {setup : Setup}

variable {a : ResidentAdapter} {journal : Journal}

theorem Rest.unpowered (h : Rest gone a journal) (hstate : ¬ a.state.Live) :
    powered journal = false := by
  cases hpowered : powered journal with
  | false => rfl
  | true => exact nomatch (h.known hpowered).symm.trans (h.disarmed hstate)

/-! ## 2. Guarded actions -/

def anywhere : AdapterState → Prop := fun _ => True

/-- From the states `S` the action keeps `Rest`, and ends in the states `T` if it does not raise. -/
def Guarded (gone : Bool) (S T : AdapterState → Prop) {α : Type} (x : Operation α) : Prop :=
  Triple (journalConduct gone) (fun a journal => Rest gone a journal ∧ S a.state) x
    (fun _ a journal => Rest gone a journal ∧ T a.state) fun _ a journal => Rest gone a journal

theorem powered_calm {call : HostCall} (h : calm state call) :
    powered (call :: journal) = powered journal := by
  cases call with
  | transport state' request => cases request <;> first | rfl | cases h.2
  | monotonic => rfl

theorem proper_calm {call : HostCall} (hrest : Rest gone a journal) (h : calm a.state call) :
    (journalConduct gone).permits call journal := by
  rintro state request rfl
  obtain ⟨rfl, hcalm⟩ := h
  refine ⟨hrest.departed, fun hcommands => ?_, fun hstate hpowered => ?_⟩
  · cases request <;>
      first
      | exact (Bool.false_ne_true hcommands).elim
      | exact (Bool.false_ne_true hcalm).elim
  · exact nomatch hpowered.symm.trans (hrest.unpowered hstate)

theorem Rest.calm {a' : ResidentAdapter} (h : Rest gone a journal) (hcalm : Calm a a') :
    Rest gone a' journal where
  departed hgone := hcalm.state ▸ h.departed hgone
  known hpowered := hcalm.armed.trans (h.known hpowered)
  disarmed hstate := hcalm.armed.trans (h.disarmed (hcalm.state ▸ hstate))

variable {α : Type}

variable {x : Operation α}

/-- **Calm actions are guarded.** -/
theorem guarded_calm (h : x.Keeps Calm.frame) : Guarded gone S S x := by
  rintro a journal ⟨hrest, hS⟩
  refine Holds.mono ?_ ((h a).holds (I := fun journal => Rest gone a journal) ?_ ?_ hrest)
  · rintro ⟨error | value, a'⟩ journal' ⟨hcalm, hrest'⟩
    · exact hrest'.calm hcalm
    · exact ⟨hrest'.calm hcalm, Eq.subst (Calm.state hcalm).symm hS⟩
  · exact fun {_ _} hrest heq => heq ▸ hrest
  · intro call journal hcalm hrest
    refine ⟨proper_calm hrest hcalm, ?_⟩
    rintro reply - rfl
    exact ⟨hrest.departed, fun hpowered => hrest.known (powered_calm hcalm ▸ hpowered),
      hrest.disarmed⟩

variable {request : Request}

/-- A command in READY or ACTIVE; ARM where the arms count as powered already. -/
theorem command_rests (hlive : ∀ state, S state → state.Live) :
    Triple (journalConduct gone)
      (fun a journal => Rest gone a journal ∧ S a.state ∧ ∀ hash, request = .arm hash → a.armed = true)
      (transport request) (fun _ a journal => Rest gone a journal ∧ S a.state)
      fun _ a journal => Rest gone a journal := by
  rintro a journal ⟨hrest, hS, harm⟩
  rw [program_transport]
  rintro journal' hsame
  obtain rfl : journal = journal' := hsame.symm
  refine ⟨?_, ?_⟩
  · rintro state request ⟨⟩
    exact ⟨hrest.departed, fun _ => hlive _ hS, fun hstate => absurd (hlive _ hS) hstate⟩
  · rintro reply - rfl
    have hrest' : Rest gone a (.transport a.state request :: journal) := by
      refine ⟨hrest.departed, fun hpowered => ?_, hrest.disarmed⟩
      cases request <;>
        first
        | exact hrest.known hpowered
        | exact harm _ rfl
        | exact (Bool.false_ne_true hpowered).elim
    cases reply with
    | error error => exact hrest'
    | ok value => exact ⟨hrest', hS⟩

theorem guarded_command (hlive : ∀ state, S state → state.Live)
    (harm : ∀ hash, request ≠ .arm hash) : Guarded gone S S (transport request) :=
  (command_rests hlive).conseq
    (fun _ _ ⟨hrest, hS⟩ => ⟨hrest, hS, fun hash heq => absurd heq (harm hash)⟩)
    (fun _ _ _ => id) fun _ _ _ => id

theorem guarded_bind {β : Type} {f : α → Operation β} (hx : Guarded gone S T x)
    (hf : ∀ value, Guarded gone T U (f value)) : Guarded gone S U (x >>= f) :=
  Triple.bind hx hf

theorem guarded_get_bind {f : ResidentAdapter → Operation α} (hf : ∀ a, Guarded gone S T (f a)) :
    Guarded gone S T (get >>= f) :=
  triple_get_bind fun a => (hf a).conseq (fun _ _ h => h.2) (fun _ _ _ => id) fun _ _ _ => id

theorem guarded_expect {result : Except HostError α} :
    Guarded gone S S (expect result : Operation α) :=
  guarded_calm (keeps_expect result)

theorem guarded_pure {value : α} : Guarded gone S S (pure value : Operation α) :=
  guarded_calm (keeps_pure value)

variable {f : ResidentAdapter → ResidentAdapter}

/-- A note in the adapter. -/
theorem guarded_note (harmed : ∀ a, (f a).armed = a.armed) (hstate : ∀ a, (f a).state = a.state) :
    Guarded gone S S (modify f : Operation PUnit) := by
  refine triple_modify fun a journal ⟨hrest, hS⟩ => ⟨⟨?_, ?_, ?_⟩, ?_⟩
  · exact fun hgone => hstate a ▸ hrest.departed hgone
  · exact fun hpowered => (harmed a).trans (hrest.known hpowered)
  · exact fun hlive => (harmed a).trans (hrest.disarmed (hstate a ▸ hlive))
  · exact hstate a ▸ hS

/-- The step into READY or ACTIVE. -/
theorem guarded_into_live (harmed : ∀ a, (f a).armed = a.armed) (hlive : ∀ a, (f a).state.Live)
    (hS : ∀ state, S state → ¬ state.Departed) :
    Guarded gone S Live (modify f : Operation PUnit) := by
  refine triple_modify fun a journal ⟨hrest, hstate⟩ => ⟨⟨?_, ?_, ?_⟩, hlive a⟩
  · exact fun hgone => absurd (hrest.departed hgone) (hS _ hstate)
  · exact fun hpowered => (harmed a).trans (hrest.known hpowered)
  · exact fun h => absurd (hlive a) h

theorem not_departed_of_live (state : AdapterState) (h : state.Live) : ¬ state.Departed :=
  fun hdeparted => hdeparted.not_live h

/-! ## 3. Faults -/

/-- The stop of powered arms. -/
theorem stopOnFault_rests :
    Triple (journalConduct gone) (fun a _ => a.state = .faulted) (stopOnFault setup)
      (fun _ a journal => Rest gone a journal) fun _ a journal => Rest gone a journal := by
  refine Triple.bind (M := fun _ a journal => a.state = .faulted ∧ powered journal = false)
    (Triple.attempt ?_) fun _ => ?_
  · rintro a journal hfaulted
    rw [program_transport]
    rintro journal' hsame
    obtain rfl : journal = journal' := hsame.symm
    refine ⟨?_, ?_⟩
    · rintro state request ⟨⟩
      exact ⟨fun _ => .inl hfaulted, fun h => (Bool.false_ne_true h).elim, fun _ _ => rfl⟩
    · rintro reply - rfl
      cases reply <;> exact ⟨hfaulted, rfl⟩
  · refine Triple.bind (M := fun _ a journal => Rest gone a journal ∧ anywhere a.state) ?_ fun _ =>
      Triple.bind (guarded_calm collectPostStopDiagnostics_calm) fun _ =>
        triple_pure fun a journal h => h.1
    refine triple_modify fun a journal ⟨hfaulted, hpowered⟩ => ⟨⟨?_, fun h => ?_, ?_⟩, trivial⟩
    · exact fun _ => .inl hfaulted
    · exact nomatch hpowered.symm.trans h
    · exact fun _ => rfl

/-- **A fault stops what is powered.** -/
theorem fault_rests {error : HostError} {post : α → ResidentAdapter → Journal → Prop} :
    Triple (journalConduct gone) (fun a journal => Rest gone a journal) (fault setup error : Operation α) post
      fun _ a journal => Rest gone a journal := by
  have hnote : ∀ text : String, Triple (journalConduct gone) (fun a journal => Rest gone a journal)
      (do modify fun a => { a with faultDiagnostic := some text }
          throw ⟨.stream, text⟩ : Operation α) post fun _ a journal => Rest gone a journal :=
    fun text => Triple.bind
      (M := fun _ a journal => Rest gone a journal)
      (triple_modify fun a journal hrest => ⟨hrest.departed, hrest.known, hrest.disarmed⟩)
      fun _ => triple_throw fun _ _ hrest => hrest
  refine Triple.bind
    (M := fun _ a journal => a.state = .faulted ∧ (powered journal = true → a.armed = true))
    (triple_modify fun a journal hrest => ⟨rfl, hrest.known⟩) fun _ =>
    triple_get_bind fun a => ?_
  dsimp only
  split
  · refine Triple.bind (stopOnFault_rests.conseq (fun t journal h => h.2.1) (fun _ _ _ => id)
      fun _ _ _ => id) fun _ => hnote _
  · rename_i harmed
    refine Triple.bind (M := fun _ t journal => Rest gone t journal) (triple_pure ?_) fun _ => hnote _
    rintro t journal ⟨rfl, hfaulted, hknown⟩
    exact ⟨fun _ => .inl hfaulted, hknown, fun _ => Bool.not_eq_true _ ▸ harmed⟩

theorem guarded_orFault {body : Operation α} (h : Guarded gone S T body) :
    Guarded gone S T (orFault setup body) :=
  Triple.tryCatch h fun _ => fault_rests

/-! ## 4. The operations -/

theorem guarded_transport (h : request.calm = true) : Guarded gone S S (transport request) :=
  guarded_calm (calm_transport h)

theorem guarded_heartbeat : Guarded gone S S (healthyHeartbeat setup) :=
  guarded_calm healthyHeartbeat_calm

/-- An operation that goes on from a state it has read. -/
theorem guarded_from (h : Guarded gone S T x) (hstate : S a.state) :
    Triple (journalConduct gone) (fun t journal => t = a ∧ Rest gone t journal ∧ anywhere t.state)
      x (fun _ a journal => Rest gone a journal ∧ anywhere a.state)
      fun _ a journal => Rest gone a journal :=
  h.conseq (fun _ _ ⟨heq, hrest, _⟩ => ⟨hrest, heq ▸ hstate⟩)
    (fun _ _ _ hend => ⟨hend.1, trivial⟩) fun _ _ _ => id

/-- The same behind a check of the state. -/
theorem guarded_check {bad : Prop} [Decidable bad] {message : String} (hbad : ¬ bad → S a.state)
    (h : Guarded gone S T x) :
    Triple (journalConduct gone) (fun t journal => t = a ∧ Rest gone t journal ∧ anywhere t.state)
      (do expect (streamIf bad message); x)
      (fun _ a journal => Rest gone a journal ∧ anywhere a.state)
      fun _ a journal => Rest gone a journal := by
  refine Triple.bind (M := fun _ t journal => Rest gone t journal ∧ S t.state)
    (triple_expect (fun _ hok t journal ht => ⟨ht.2.1, ?_⟩) fun _ _ t journal ht => ht.2.1) fun _ =>
    h.conseq (fun _ _ => id) (fun _ _ _ hend => ⟨hend.1, trivial⟩) fun _ _ _ => id
  exact ht.1 ▸ hbad (streamIf_ok_iff.mp hok)

/-- The preparation is for a new adapter only, so one that has departed is not READY again. -/
theorem prepareBody_guarded : Guarded gone (· = .new) Live (prepareBody setup) := by
  refine guarded_bind (guarded_transport rfl) fun _ => guarded_bind guarded_expect fun _ =>
    guarded_bind (guarded_transport rfl) fun _ => guarded_bind (guarded_transport rfl) fun _ =>
    guarded_bind (guarded_transport rfl) fun _ => guarded_bind (guarded_transport rfl) fun _ =>
    guarded_bind guarded_expect fun _ => guarded_bind guarded_expect fun _ =>
    guarded_bind guarded_expect fun _ => guarded_bind guarded_expect fun _ =>
    guarded_bind (guarded_into_live ?_ ?_ ?_) fun _ => guarded_pure
  · exact fun _ => rfl
  · exact fun _ => .inl rfl
  · rintro state rfl (h | h) <;> cases h

theorem prepare_guarded : Guarded gone anywhere anywhere (prepare setup) := by
  refine triple_get_bind fun a => guarded_check (fun hgood => of_not_not hgood)
    (guarded_orFault prepareBody_guarded)

theorem refreshUnarmedAnchor_guarded : Guarded gone S S (refreshUnarmedAnchor setup) := by
  refine guarded_get_bind fun _ => guarded_bind guarded_expect fun _ => guarded_orFault ?_
  exact guarded_bind (guarded_calm readAnchor_calm) fun _ =>
    guarded_bind (guarded_note (fun _ => rfl) fun _ => rfl) fun _ => guarded_pure

theorem keepalive_guarded {force : Bool} : Guarded gone S S (keepalive setup force) := by
  refine guarded_get_bind fun a => triple_ite (fun _ => guarded_pure) fun _ =>
    guarded_bind (guarded_calm (keeps_ask fun _ => trivial)) fun now =>
      triple_ite (fun _ => guarded_pure) fun _ => guarded_orFault ?_
  exact guarded_bind guarded_heartbeat fun _ => guarded_pure

theorem feedbackSnapshot_guarded : Guarded gone S S (feedbackSnapshot setup) := by
  refine guarded_get_bind fun _ => guarded_bind guarded_expect fun _ => Triple.tryCatch
    (guarded_bind keepalive_guarded fun _ => guarded_bind
      (guarded_calm validatedFeedbackSnapshot_calm) fun _ =>
      guarded_bind (guarded_note (fun _ => rfl) fun _ => rfl) fun _ =>
        guarded_pure) fun error => ?_
  refine triple_ite (fun _ => ?_) fun _ => fault_rests
  refine Triple.bind (M := fun _ a journal => Rest gone a journal)
    (triple_modify fun a journal hrest => ⟨hrest.departed, hrest.known, hrest.disarmed⟩) fun _ =>
    triple_get_bind fun a => ?_
  dsimp only
  refine triple_ite (fun _ => triple_throw fun _ _ h => h.2) fun _ => ?_
  exact fault_rests.conseq (fun _ _ h => h.2) (fun _ _ _ => id) fun _ _ _ => id

/-- The arms count as powered before ARM is sent. -/
theorem armAndEnable_guarded : Guarded gone Live Live (armAndEnable setup) := by
  refine guarded_get_bind fun a => triple_ite (fun _ => guarded_pure) fun _ => ?_
  refine Triple.bind
    (M := fun _ a journal => Rest gone a journal ∧ a.state.Live ∧ a.armed = true)
    (triple_modify fun a journal ⟨hrest, hlive⟩ =>
      ⟨⟨hrest.departed, fun _ => rfl, fun hstate => absurd hlive hstate⟩, hlive, rfl⟩) fun _ => ?_
  refine Triple.bind ((command_rests (S := Live) fun _ => id).conseq
      (fun a journal ⟨hrest, hlive, harmed⟩ => ⟨hrest, hlive, fun _ _ => harmed⟩)
      (fun _ _ _ => id) fun _ _ _ => id) fun _ =>
    guarded_bind guarded_heartbeat fun _ => guarded_bind guarded_expect fun _ =>
    guarded_bind (guarded_command (fun _ => id) nofun) fun _ => guarded_expect

theorem sendAppend_guarded {batch : Stream.Host.StreamBatchV2} {label : String} :
    Guarded gone Live Live (sendAppend setup batch label) :=
  guarded_bind (guarded_command (fun _ => id) nofun) fun _ =>
    guarded_bind guarded_expect fun _ => guarded_pure

theorem openAndFill_guarded {convertedAll : List Converted} {initialCount : Nat} {finite : Bool} :
    Guarded gone Live Live (openAndFill setup convertedAll initialCount finite) := by
  refine guarded_bind guarded_heartbeat fun _ => guarded_bind guarded_expect fun _ =>
    guarded_bind (guarded_command (fun _ => id) nofun) fun _ => guarded_bind guarded_expect fun _ =>
    guarded_get_bind fun _ => guarded_bind sendAppend_guarded fun _ =>
    guarded_bind (guarded_note (fun _ => rfl) fun _ => rfl) fun _ =>
    guarded_bind guarded_expect fun _ =>
    guarded_bind (guarded_into_live ?_ ?_ not_departed_of_live) fun _ => guarded_pure
  · exact fun _ => rfl
  · exact fun _ => .inr rfl

theorem freshAnchor_guarded : Guarded gone S S (freshAnchor setup) :=
  guarded_get_bind fun _ => triple_ite (fun _ => guarded_pure) fun _ =>
    guarded_bind refreshUnarmedAnchor_guarded fun _ => guarded_pure

variable {owner : String} {points : List TimedJointPoint}

theorem start_guarded {finite : Bool} :
    Guarded gone anywhere anywhere (start setup owner points finite) := by
  refine guarded_bind guarded_expect fun _ => triple_get_bind fun a => guarded_check
    (S := Live) (T := Live) (fun hgood => .inl (by tauto)) ?_
  refine guarded_bind freshAnchor_guarded fun _ => guarded_get_bind fun _ =>
    guarded_bind guarded_expect fun converted => guarded_bind (guarded_calm claimStart_calm) fun _ =>
    guarded_orFault ?_
  exact guarded_bind armAndEnable_guarded fun _ => openAndFill_guarded

theorem pumpFinitePlan_guarded : Guarded gone Live Live (pumpFinitePlan setup) := by
  refine guarded_get_bind fun a => triple_ite (fun _ => guarded_pure) fun _ => ?_
  split
  · refine guarded_bind guarded_heartbeat fun _ => guarded_bind guarded_expect fun sending => ?_
    cases sending with
    | none => exact guarded_pure
    | some sending =>
      exact guarded_bind sendAppend_guarded fun _ => guarded_bind guarded_expect fun _ =>
        guarded_note (fun _ => rfl) fun _ => rfl
  · exact guarded_calm (keeps_throw _)

theorem finishWhenDone_guarded {report : PollReport}
    {terminalFeedback : Option BimanualFeedbackSnapshotV2} :
    Guarded gone Live Live (finishWhenDone setup report terminalFeedback) := by
  refine triple_ite (fun _ => triple_get_bind fun a => ?_) fun _ => guarded_pure
  refine Triple.bind (M := fun _ t journal => t = a ∧ Rest gone t journal ∧ t.state.Live)
    (triple_expect (fun _ _ _ _ h => h) fun _ _ _ _ h => h.2.1) fun prepared => ?_
  rintro t journal ⟨rfl, hrest, hlive⟩
  refine ⟨⟨fun hgone => absurd hlive (hrest.departed hgone).not_live, hrest.known, fun h => ?_⟩,
    .inl rfl⟩
  exact absurd (.inl rfl) h

theorem pollBody_guarded : Guarded gone Live Live (pollBody setup) :=
  guarded_bind guarded_heartbeat fun _ => guarded_bind (guarded_transport rfl) fun _ =>
    guarded_bind (guarded_calm terminalFeedbackOf_calm) fun _ =>
    guarded_bind guarded_heartbeat fun _ => guarded_bind (guarded_transport rfl) fun _ =>
    guarded_bind (guarded_transport rfl) fun _ => guarded_bind guarded_heartbeat fun _ =>
    guarded_bind guarded_expect fun _ => guarded_bind finishWhenDone_guarded fun _ => guarded_pure

theorem poll_guarded : Guarded gone anywhere anywhere (poll setup owner) := by
  refine guarded_bind (guarded_calm claim_calm) fun _ => triple_get_bind fun a =>
    guarded_check (S := Live) (T := Live)
      (fun hgood => .inr (of_not_not hgood)) (guarded_orFault ?_)
  exact guarded_bind pumpFinitePlan_guarded fun _ => pollBody_guarded

theorem append_guarded : Guarded gone anywhere anywhere (append setup owner points) := by
  refine guarded_bind (guarded_calm claim_calm) fun _ => triple_get_bind fun a => ?_
  split
  · rename_i tailTick tailPositions hactive htick hpositions
    refine guarded_from (S := Live) (T := Live) (guarded_orFault ?_)
      (.inr hactive)
    exact guarded_bind guarded_heartbeat fun _ => guarded_get_bind fun _ =>
      guarded_bind guarded_expect fun _ => guarded_bind sendAppend_guarded fun _ =>
      guarded_bind guarded_expect fun _ =>
      guarded_bind (guarded_note (fun _ => rfl) fun _ => rfl) fun _ => guarded_pure
  · exact triple_throw fun _ _ h => h.2.1

theorem splice_guarded {spliceOffsetMs : Int} :
    Guarded gone anywhere anywhere (splice setup owner points spliceOffsetMs) := by
  refine guarded_bind (guarded_calm claim_calm) fun _ => triple_get_bind fun a => ?_
  split
  · rename_i tailTick hactive htick
    refine guarded_from (S := Live) (T := Live)
      (guarded_bind guarded_expect fun _ => guarded_orFault ?_) (.inr hactive)
    exact guarded_bind guarded_heartbeat fun _ => guarded_get_bind fun _ =>
      guarded_bind guarded_expect fun _ =>
      guarded_bind (guarded_note (fun _ => rfl) fun _ => rfl) fun _ =>
      guarded_get_bind fun _ => guarded_bind (guarded_command (fun _ => id) nofun) fun _ =>
      guarded_bind guarded_expect fun _ => guarded_bind guarded_expect fun _ =>
      guarded_bind (guarded_note (fun _ => rfl) fun _ => rfl) fun _ => guarded_pure
  · exact triple_throw fun _ _ h => h.2.1

theorem stopBody_guarded : Guarded gone anywhere anywhere stopBody := by
  refine Triple.bind (M := fun _ a journal => Rest gone a journal ∧ powered journal = false) ?_
    fun _ => Triple.bind (M := fun _ a journal => powered journal = false)
      (triple_expect (fun _ _ _ _ h => h.2) fun _ _ _ _ h => h.1) fun _ =>
    triple_modify fun a journal hpowered =>
      ⟨⟨fun _ => .inr rfl, fun h => (nomatch hpowered.symm.trans h), fun _ => rfl⟩, trivial⟩
  rintro a journal ⟨hrest, -⟩
  rw [program_transport]
  rintro journal' hsame
  obtain rfl : journal = journal' := hsame.symm
  refine ⟨?_, ?_⟩
  · rintro state request ⟨⟩
    exact ⟨hrest.departed, fun h => (Bool.false_ne_true h).elim, fun _ _ => rfl⟩
  · rintro reply - rfl
    have hrest' : Rest gone a (.transport a.state .safeStop :: journal) :=
      ⟨hrest.departed, fun h => (Bool.false_ne_true h).elim, hrest.disarmed⟩
    cases reply with
    | error error => exact hrest'
    | ok value => exact ⟨hrest', rfl⟩

theorem stop_guarded : Guarded gone anywhere anywhere (stop setup owner) :=
  guarded_bind (guarded_calm claim_calm) fun _ => guarded_get_bind fun _ =>
    triple_ite (fun _ => guarded_pure) fun _ => guarded_orFault stopBody_guarded

/-- **Every operation keeps to the conduct.** -/
theorem action_guarded (operation : AdapterOperation) : Guarded gone anywhere anywhere (operation.action setup) := by
  have hforget : ∀ {α : Type} {x : Operation α}, Guarded gone anywhere anywhere x → Guarded gone anywhere anywhere (forget x) :=
    fun h => guarded_bind h fun _ => guarded_pure
  cases operation with
  | splice owner points spliceOffsetMs => exact hforget splice_guarded
  | feed operation =>
    cases operation with
    | prepare => exact hforget prepare_guarded
    | refresh => exact hforget refreshUnarmedAnchor_guarded
    | keepalive force => exact hforget keepalive_guarded
    | feedback => exact hforget feedbackSnapshot_guarded
    | start owner points finite => exact hforget start_guarded
    | append owner points => exact hforget append_guarded
    | poll owner => exact hforget poll_guarded
    | stop owner => exact stop_guarded

/-! ## 5. Along a run -/

abbrev HostSystem := Client.Session ResidentAdapter AdapterOperation Journal HostCall HostCall.Reply
  (Except HostError Unit)

inductive HostEvent where
  | operate (operation : AdapterOperation)
  /-- The call under way is answered. -/
  | answer (replies : (call : HostCall) → call.Reply)

namespace HostSystem

open Client.Session

def step (setup : Setup) (w : HostSystem) : HostEvent → HostSystem
  | .operate operation => w.operate (fun operation => (operation.action setup).program) operation
  | .answer replies => w.serve fun _ _ call journal => (replies call, call :: journal)

def begin : HostSystem where
  state := newAdapter
  flight := none
  world := []

/-- The request that is under way, and the state it was made in. -/
def asking (w : HostSystem) : Option (AdapterState × Request) :=
  match w.flight with
  | some (_, .call (.transport state request) _) => some (state, request)
  | _ => none

def Sound (gone : Bool) (w : HostSystem) : Prop :=
  Client.Session.Sound (fun _ _ => journalConduct gone) (Rest gone) w

variable {w : HostSystem}

theorem run_sound (h : w.Sound gone) (events : List HostEvent) :
    (Machine.run (step setup) w events).Sound gone := by
  refine Machine.run_invariant_all (I := Sound gone) (fun w event h => ?_) events h
  cases event with
  | operate operation =>
    refine sound_operate (fun operation a journal hrest => ?_) h operation
    refine Holds.mono ?_ (action_guarded operation a journal ⟨hrest, trivial⟩)
    rintro ⟨error | value, a'⟩ journal' hend
    · exact hend
    · exact hend.1
  | answer replies => exact sound_serve (fun _ _ _ => rfl) (fun _ _ _ _ => rfl) h

theorem begin_sound : begin.Sound false := ⟨nofun, nofun, fun _ => rfl⟩

theorem Sound.proper (h : w.Sound gone) (hasking : w.asking = some (state, request)) :
    Proper gone state request w.world := by
  unfold asking at hasking
  split at hasking
  · rename_i operation state' request' go hflight
    cases hasking
    exact Sound.permits h (fun _ _ _ => rfl) hflight state request rfl
  · cases hasking

theorem sound_iff_rest (hidle : w.flight = none) : w.Sound gone ↔ Rest gone w.state w.world := by
  unfold Sound Client.Session.Sound
  rw [hidle]

/-- An adapter that has departed goes on as one that has departed for good. -/
theorem Sound.departed (h : w.Sound false) (hidle : w.flight = none)
    (hdeparted : w.state.state.Departed) : w.Sound true := by
  have hrest := (sound_iff_rest hidle).mp h
  exact (sound_iff_rest hidle).mpr ⟨fun _ => hdeparted, hrest.known, hrest.disarmed⟩

end HostSystem

/-- **Fail closed.**  Between operations an adapter that is in neither READY nor ACTIVE has stopped
what ARM powered, and during one the stop is the first call it makes there; no command is sent in
another state; and an adapter in FAULTED or STOPPED sends none in any run from there. -/
theorem adapter_fails_closed (setup : Setup) (events : List HostEvent) :
    let w := Machine.run (HostSystem.step setup) HostSystem.begin events
    (w.flight = none → ¬ w.state.state.Live → powered w.world = false) ∧
    (∀ state request, w.asking = some (state, request) →
      (¬ state.Live → powered w.world = true → request = .safeStop) ∧
      (request.commands = true → state.Live)) ∧
    (w.flight = none → w.state.state.Departed → ∀ events' state request,
      (Machine.run (HostSystem.step setup) w events').asking = some (state, request) →
      request.commands = false) := by
  intro w
  have hsound : w.Sound false := HostSystem.run_sound HostSystem.begin_sound events
  refine ⟨fun hidle => ((HostSystem.sound_iff_rest hidle).mp hsound).unpowered, ?_, ?_⟩
  · intro state request hasking
    exact ⟨(hsound.proper hasking).stopFirst, (hsound.proper hasking).live⟩
  · intro hidle hdeparted events' state request hasking
    have hproper := (@HostSystem.run_sound true setup w (hsound.departed hidle hdeparted)
      events').proper hasking
    by_contra hcommands
    exact (hproper.departed rfl).not_live (hproper.live (Bool.not_eq_false _ ▸ hcommands))

end MobileBimanual.Adapter
