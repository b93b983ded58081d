/-
# Refused operations

Every operation may be turned down for the state, the owner or its arguments (`Refused`).  `start`
judges all three before it claims the stream, and `refresh_unarmed_anchor` claims nothing: they
leave no trace (`Untraced`).  `append`, `splice` and `poll` claim first, so that a refusal may leave
an owner and a new epoch behind; and what `append` and `splice` find wrong with the points behind
their heartbeat is a fault.  `Spared` says when neither happens.
-/
import MobileBimanual.Adapter.Aside
import MobileBimanual.Adapter.Link

namespace MobileBimanual.Adapter

open Activity Program

variable {setup : Setup} {ω : Type} {serve : (call : HostCall) → ω → call.Reply × ω}
  {a a' : ResidentAdapter} {w w' : ω}

/-! ## 1. Claims -/

/-- The owner has a name, and nobody else has the stream. -/
structure MayClaim (a : ResidentAdapter) (owner : String) : Prop where
  named : (strip owner).isEmpty = false
  free : ∀ current, a.owner = some current → current = strip owner

/-- The adapter after a claim that went through. -/
def claimed (a : ResidentAdapter) (owner : String) : ResidentAdapter :=
  match a.owner with
  | none => advanceEpoch { a with owner := some (strip owner) }
  | some _ => a

section Claims

variable {owner : String}

theorem claim_taken (h : MayClaim a owner) :
    (claim owner).perform serve a w = ((.ok (), claimed a owner), w) := by
  unfold claim perform claimed
  dsimp only
  rw [if_neg (Bool.eq_false_iff.mp h.named), program_bind, program_get, done_bind, goOn_ok]
  cases howner : a.owner with
  | none => rfl
  | some current =>
    dsimp only
    rw [if_neg (fun hne => hne (h.free current howner))]
    rfl

theorem claim_refused (h : ¬ MayClaim a owner) :
    ∃ error, (claim owner).perform serve a w = ((.error error, a), w) := by
  unfold claim
  dsimp only
  split
  · exact ⟨_, perform_throw⟩
  · rename_i hnamed
    unfold perform
    rw [program_bind, program_get, done_bind, goOn_ok]
    cases howner : a.owner with
    | none =>
      refine absurd ⟨Bool.eq_false_iff.mpr hnamed, fun other hother => ?_⟩ h
      rw [howner] at hother
      cases hother
    | some current =>
      dsimp only
      split
      · exact ⟨_, rfl⟩
      · rename_i hsame
        refine absurd ⟨Bool.eq_false_iff.mpr hnamed, fun other hother => ?_⟩ h
        rw [howner] at hother
        cases hother
        exact not_not.mp hsame

theorem claimed_owner (h : a.owner = none) : (claimed a owner).owner = some (strip owner) := by
  unfold claimed
  rw [h]
  rfl

theorem claimed_self (h : a.owner ≠ none) : claimed a owner = a := by
  unfold claimed
  cases howner : a.owner with
  | none => exact absurd howner h
  | some current => rfl

@[simp] theorem claimed_state : (claimed a owner).state = a.state := by
  unfold claimed
  cases a.owner <;> rfl

@[simp] theorem claimed_tailTick : (claimed a owner).tailTick = a.tailTick := by
  unfold claimed
  cases a.owner <;> rfl

@[simp] theorem claimed_tailPositionsUrad :
    (claimed a owner).tailPositionsUrad = a.tailPositionsUrad := by
  unfold claimed
  cases a.owner <;> rfl

end Claims

/-! ## 2. Refusals -/

/-- A stream that can be appended to. -/
def Streaming (a : ResidentAdapter) : Prop :=
  a.state = .active ∧ a.tailTick ≠ none ∧ a.tailPositionsUrad ≠ none

/-- A stream that can be spliced. -/
def Spliceable (a : ResidentAdapter) : Prop := a.state = .active ∧ a.tailTick ≠ none

/-- An operation is turned down for the state, the owner or its arguments. -/
inductive Refused (setup : Setup) (serve : (call : HostCall) → ω → call.Reply × ω)
    (a : ResidentAdapter) (w : ω) : AdapterOperation → Prop
  | startUnauthorized {owner points finite} (h : setup.motionAuthorized = false) :
    Refused setup serve a w (.feed (.start owner points finite))
  | startNotReady {owner points finite} (h : a.state ≠ .ready ∨ a.prepared = none) :
    Refused setup serve a w (.feed (.start owner points finite))
  | startOwned {owner points finite} (hunarmed : a.armed = false) (h : a.owner ≠ none) :
    Refused setup serve a w (.feed (.start owner points finite))
  | startPoints {owner points finite a₁ w₁ error}
    (hanchor : (freshAnchor setup).perform serve a w = ((.ok (), a₁), w₁))
    (h : startPoints setup a₁.prepared points finite = .error error) :
    Refused setup serve a w (.feed (.start owner points finite))
  | startClaim {owner points finite a₁ w₁}
    (hanchor : (freshAnchor setup).perform serve a w = ((.ok (), a₁), w₁))
    (h : ¬ MayClaim a₁ owner) : Refused setup serve a w (.feed (.start owner points finite))
  | refresh (h : a.state ≠ .ready ∨ a.armed ∨ a.owner ≠ none) :
    Refused setup serve a w (.feed .refresh)
  | appendClaim {owner points} (h : ¬ MayClaim a owner) :
    Refused setup serve a w (.feed (.append owner points))
  | appendInactive {owner points} (h : ¬ Streaming a) :
    Refused setup serve a w (.feed (.append owner points))
  | appendPoints {owner points tailTick tailPositionsUrad heartbeat a₁ w₁ error}
    (hactive : a.state = .active) (htail : a.tailTick = some tailTick)
    (hpositions : a.tailPositionsUrad = some tailPositionsUrad)
    (hheartbeat : (healthyHeartbeat setup).perform serve (claimed a owner) w =
      ((.ok heartbeat, a₁), w₁))
    (h : alignedPoints setup points heartbeat.lastHeartbeatMs tailTick tailPositionsUrad =
      .error error) : Refused setup serve a w (.feed (.append owner points))
  | spliceClaim {owner points spliceOffsetMs} (h : ¬ MayClaim a owner) :
    Refused setup serve a w (.splice owner points spliceOffsetMs)
  | spliceInactive {owner points spliceOffsetMs} (h : ¬ Spliceable a) :
    Refused setup serve a w (.splice owner points spliceOffsetMs)
  | spliceGuards {owner points spliceOffsetMs error}
    (h : spliceGuards setup points spliceOffsetMs = .error error) :
    Refused setup serve a w (.splice owner points spliceOffsetMs)
  | splicePoints {owner points spliceOffsetMs tailTick heartbeat a₁ w₁ error}
    (hactive : a.state = .active) (htail : a.tailTick = some tailTick)
    (hheartbeat : (healthyHeartbeat setup).perform serve (claimed a owner) w =
      ((.ok heartbeat, a₁), w₁))
    (h : spliceSamples setup points spliceOffsetMs heartbeat.lastHeartbeatMs tailTick
      (futureRoute a₁.routeSamples heartbeat.lastHeartbeatMs) = .error error) :
    Refused setup serve a w (.splice owner points spliceOffsetMs)
  | pollClaim {owner} (h : ¬ MayClaim a owner) : Refused setup serve a w (.feed (.poll owner))
  | pollInactive {owner} (h : a.state ≠ .active) : Refused setup serve a w (.feed (.poll owner))

/-- Nothing is left that a later start could tell. -/
structure Untraced (setup : Setup) (a a' : ResidentAdapter) : Prop where
  owner : a'.owner = a.owner
  epoch : a'.epoch = a.epoch
  route : a'.routeSamples = a.routeSamples
  pending : a'.pendingFiniteSamples = a.pendingFiniteSamples
  state : a'.state = a.state
  start : ∀ owner points finite,
    (start setup owner points finite).verdict a' = (start setup owner points finite).verdict a

theorem Untraced.refl (a : ResidentAdapter) : Untraced setup a a :=
  ⟨rfl, rfl, rfl, rfl, rfl, fun _ _ _ => rfl⟩

/-- The operation, should it be refused, is refused before it claims a stream that nobody has, and
not behind its heartbeat. -/
def Spared (setup : Setup) (a : ResidentAdapter) : AdapterOperation → Prop
  | .feed (.append owner _) => MayClaim a owner → a.owner ≠ none ∧ ¬ Streaming a
  | .feed (.poll owner) => MayClaim a owner → a.owner ≠ none
  | .splice owner points spliceOffsetMs => MayClaim a owner → a.owner ≠ none ∧
      (Spliceable a → spliceGuards setup points spliceOffsetMs ≠ .ok ())
  | .feed _ => True

/-! ## 3. How a refusal ends -/

variable {owner : String} {points : List TimedJointPoint} {finite : Bool} {spliceOffsetMs : Int}

theorem reads_transport {request : Request} :
    (transport request).Reads ResidentAdapter.state :=
  ⟨fun state => .call (HostCall.transport state request) .done,
    fun adapter => program_transport request adapter⟩

theorem readAnchor_reads : (readAnchor setup).Reads ResidentAdapter.state :=
  reads_transport.bind fun _ => (reads_expect _).bind fun _ =>
    reads_transport.bind fun _ => reads_expect _

variable {α : Type}

theorem fault_throws {error : HostError} : (fault setup error : Operation α).Throws := by
  refine throws_bind fun _ => throws_bind fun adapter => ?_
  dsimp only
  split
  · exact throws_bind fun _ => throws_bind fun _ => throws_throw _
  · exact throws_bind fun _ => throws_bind fun _ => throws_throw _

/-- What goes wrong in a body is a fault, and the stream is over. -/
theorem orFault_raises {body : Operation α} {P : ResidentAdapter → Prop}
    (h : body.Raises serve a w P) :
    (orFault setup body).Raises serve a w fun a' => a'.state ≠ .active := by
  obtain ⟨error, a₁, w₁, hbody, -⟩ := h
  obtain ⟨error', herror'⟩ :=
    (fault_throws : (fault setup error : Operation α).Throws).perform serve a₁ w₁
  have hends := (@fault_ends α setup error a₁).exec serve w₁
  refine ⟨error', ((fault setup error : Operation α).perform serve a₁ w₁).1.2,
    ((fault setup error : Operation α).perform serve a₁ w₁).2,
    (perform_tryCatch_error hbody).trans ?_, fun hactive => ?_⟩
  · exact Prod.ext (Prod.ext herror' rfl) rfl
  · exact nomatch hends.active hactive

/-- The stream is there to be started for the first time. -/
structure Unclaimed (a : ResidentAdapter) : Prop where
  ready : a.state = .ready
  unarmed : a.armed = false
  free : a.owner = none

/-- An unarmed start may have read the anchor again. -/
inductive KeepsAnchor (a : ResidentAdapter) : ResidentAdapter → Prop
  | kept : KeepsAnchor a a
  | read (h : Unclaimed a) (prepared : PreparedBimanualState) :
    KeepsAnchor a { a with prepared := some prepared }

/-- How a refresh goes on from its reading. -/
def refreshed (setup : Setup) : Except HostError PreparedBimanualState × ResidentAdapter →
    Program HostCall HostCall.Reply (Except HostError PreparedBimanualState × ResidentAdapter)
  | (.ok prepared, a) => .done (.ok prepared, { a with prepared := some prepared })
  | (.error error, a) => (fault setup error).program a

theorem program_refresh (h : Unclaimed a) :
    (refreshUnarmedAnchor setup).program a = (readAnchor setup).program a >>= refreshed setup := by
  unfold refreshUnarmedAnchor
  rw [program_bind, program_get, done_bind, goOn_ok, program_bind, program_expect,
    contractIf_ok_iff.mpr (by simp [h.ready, h.unarmed, h.free]), done_bind, goOn_ok, orFault,
    program_tryCatch, refreshBody, program_bind, Program.bind_assoc]
  refine congrArg ((readAnchor setup).program a >>= ·) (funext fun result => ?_)
  obtain ⟨error | prepared, a'⟩ := result <;> rfl

theorem refresh_refused (h : a.state ≠ .ready ∨ a.armed ∨ a.owner ≠ none) :
    (refreshUnarmedAnchor setup).Raises serve a w (· = a) := by
  obtain ⟨error, herror⟩ : ∃ error, contractIf (a.state ≠ .ready ∨ a.armed ∨ a.owner ≠ none)
      "unarmed anchor refresh requires an unowned READY session" = .error error :=
    ⟨_, if_pos h⟩
  unfold refreshUnarmedAnchor
  rw [Raises, perform_get_bind, herror]
  exact Raises.bind (raises_expect rfl rfl)

theorem refresh_keeps {prepared : PreparedBimanualState}
    (h : (refreshUnarmedAnchor setup).perform serve a w = ((.ok prepared, a'), w')) :
    KeepsAnchor a a' := by
  by_cases hguard : a.state ≠ .ready ∨ a.armed ∨ a.owner ≠ none
  · obtain ⟨error, a₁, w₁, hrefused, -⟩ := @refresh_refused setup ω serve a w hguard
    cases h.symm.trans hrefused
  · push Not at hguard
    have hunclaimed : Unclaimed a := ⟨hguard.1, Bool.eq_false_iff.mpr hguard.2.1, hguard.2.2⟩
    have hstate := (@readAnchor_reads setup).perform_state serve a w
    unfold perform at h hstate
    rw [program_refresh hunclaimed, exec_bind] at h
    generalize ((readAnchor setup).program a).exec serve w = outcome at h hstate
    obtain ⟨⟨error | read, a₁⟩, w₁⟩ := outcome
    · obtain ⟨error', herror'⟩ := fault_throws.perform serve a₁ w₁
      exact nomatch herror'.symm.trans (congrArg (·.1.1) h)
    · cases h
      cases hstate
      exact .read hunclaimed prepared

theorem freshAnchor_keeps (h : (freshAnchor setup).perform serve a w = ((.ok (), a'), w')) :
    KeepsAnchor a a' := by
  unfold freshAnchor at h
  rw [perform_get_bind] at h
  split at h
  · cases h
    exact .kept
  · generalize hrefresh : (refreshUnarmedAnchor setup).perform serve a w = outcome at h
    obtain ⟨⟨error | prepared, a₁⟩, w₁⟩ := outcome
    · cases (perform_bind_error hrefresh).symm.trans h
    · cases (perform_bind_ok hrefresh).symm.trans h
      exact refresh_keeps hrefresh

/-- A fault of unarmed arms stops nothing, and raises what it was raised for. -/
theorem fault_unarmed {error : HostError} (h : a.armed = false) :
    (fault setup error : Operation α).program a =
      .done (.error ⟨.stream, error.message ++ ""⟩,
        { a with state := .faulted, faultDiagnostic := some (error.message ++ "") }) := by
  unfold fault
  rw [program_bind, program_modify, done_bind, goOn_ok, program_bind, program_get, done_bind,
    goOn_ok]
  dsimp only
  rw [h]
  rfl

variable {f : Unit → Operation α}

/-- The anchor that was there is gone by the time the points are judged. -/
theorem verdict_freshAnchor (h : Unclaimed a) (prepared : PreparedBimanualState) :
    (freshAnchor setup >>= f).verdict { a with prepared := some prepared } =
      (freshAnchor setup >>= f).verdict a := by
  obtain ⟨reading, hreading⟩ := @readAnchor_reads setup
  have hverdict : ∀ b, Unclaimed b → (freshAnchor setup >>= f).verdict b =
      reading b.state >>= fun
        | .ok prepared => (f ()).verdict { b with prepared := some prepared }
        | .error error => .done (.error ⟨.stream, error.message ++ ""⟩) := by
    intro b hb
    rw [verdict_bind, freshAnchor, program_bind, program_get, done_bind, goOn_ok,
      if_neg (Bool.eq_false_iff.mp hb.unarmed), program_bind, program_refresh hb, hreading,
      Program.bind_assoc, Program.bind_assoc, Program.bind_assoc]
    refine congrArg (reading b.state >>= ·) (funext fun result => ?_)
    cases result with
    | ok prepared => rfl
    | error error =>
      rw [done_bind, refreshed, fault_unarmed hb.unarmed]
      rfl
  exact (hverdict { a with prepared := some prepared } ⟨h.ready, h.unarmed, h.free⟩).trans
    (hverdict a h).symm

theorem verdict_start (h : Unclaimed a) (hprepared : a.prepared ≠ none)
    (prepared : PreparedBimanualState) :
    (start setup owner points finite).verdict { a with prepared := some prepared } =
      (start setup owner points finite).verdict a := by
  unfold start
  rw [verdict_expect_bind, verdict_expect_bind]
  split
  · rw [verdict_get_bind, verdict_get_bind, verdict_expect_bind, verdict_expect_bind,
      streamIf_ok_iff.mpr (by simp [h.ready]), streamIf_ok_iff.mpr (by simp [h.ready, hprepared])]
    exact verdict_freshAnchor h prepared
  · rfl

theorem KeepsAnchor.untraced (hprepared : a.prepared ≠ none) (h : KeepsAnchor a a') :
    Untraced setup a a' := by
  cases h with
  | kept => exact .refl a
  | read hunclaimed prepared =>
    exact ⟨rfl, rfl, rfl, rfl, rfl, fun _ _ _ => verdict_start hunclaimed hprepared prepared⟩

/-- A start is turned down before it claims anything. -/
theorem start_refused (h : Refused setup serve a w (.feed (.start owner points finite))) :
    (start setup owner points finite).Raises serve a w (Untraced setup a) := by
  refine raises_expect_bind (fun _ _ => .refl a) fun _ hauthorized => ?_
  rw [Raises, perform_get_bind]
  refine raises_expect_bind (fun _ _ => .refl a) fun _ hready => ?_
  have hprepared : a.prepared ≠ none := fun hnone => streamIf_ok_iff.mp hready (.inr hnone)
  cases h with
  | startUnauthorized h => exact absurd h (streamIf_ok_iff.mp hauthorized)
  | startNotReady h => exact absurd h (streamIf_ok_iff.mp hready)
  | startOwned hunarmed h =>
    refine Raises.bind ?_
    rw [Raises, freshAnchor, perform_get_bind, if_neg (Bool.eq_false_iff.mp hunarmed)]
    obtain ⟨error, a₁, w₁, hrefused, rfl⟩ := @refresh_refused setup ω serve a w
      (.inr (.inr h))
    exact Raises.bind ⟨error, _, w₁, hrefused, .refl _⟩
  | startPoints hanchor h =>
    refine Raises.after hanchor ?_
    rw [Raises, perform_get_bind]
    exact Raises.bind (raises_expect h ((freshAnchor_keeps hanchor).untraced hprepared))
  | @startClaim _ _ _ a₁ w₁ hanchor h =>
    refine Raises.after hanchor ?_
    rw [Raises, perform_get_bind]
    have huntraced := @KeepsAnchor.untraced setup _ _ hprepared (freshAnchor_keeps hanchor)
    refine raises_expect_bind (fun _ _ => huntraced) fun _ _ => Raises.bind ?_
    obtain ⟨error, hclaim⟩ := @claim_refused ω serve a₁ w₁ _ h
    rw [Raises, claimStart, perform_get_bind]
    exact Raises.bind ⟨error, a₁, w₁, hclaim, huntraced⟩

/-- How an operation that claims first is turned down; `deep` says that it would get to its
heartbeat. -/
inductive ClaimsFirst (a : ResidentAdapter) (owner : String) (deep : Prop) : ResidentAdapter → Prop
  | refused (h : ¬ MayClaim a owner) : ClaimsFirst a owner deep a
  | claims (h : MayClaim a owner) (hdeep : ¬ deep) : ClaimsFirst a owner deep (claimed a owner)
  | faults {a' : ResidentAdapter} (h : MayClaim a owner) (hdeep : deep) (hactive : a.state = .active)
    (hfaulted : a'.state ≠ .active) : ClaimsFirst a owner deep a'

variable {deep : Prop}

theorem ClaimsFirst.untraced_iff (h : ClaimsFirst a owner deep a') :
    Untraced setup a a' ↔ (MayClaim a owner → a.owner ≠ none ∧ ¬ deep) := by
  cases h with
  | refused h => exact ⟨fun _ hclaim => absurd hclaim h, fun _ => .refl a⟩
  | claims h hdeep =>
    constructor
    · intro huntraced _
      refine ⟨fun hnone => ?_, hdeep⟩
      exact nomatch (claimed_owner hnone).symm.trans (huntraced.owner.trans hnone)
    · intro hspared
      rw [claimed_self (hspared h).1]
      exact .refl a
  | faults h hdeep hactive hfaulted =>
    constructor
    · exact fun huntraced => absurd (huntraced.state.trans hactive) hfaulted
    · exact fun hspared => absurd hdeep (hspared h).2

theorem claimsFirst_refused (h : ¬ MayClaim a owner) :
    (claim owner >>= f).Raises serve a w (ClaimsFirst a owner deep) := by
  obtain ⟨error, hclaim⟩ := @claim_refused ω serve a w _ h
  exact Raises.bind ⟨error, a, w, hclaim, .refused h⟩

theorem claimsFirst_faults {f : StateV2 → Operation α} {a₁ : ResidentAdapter} {w₁ : ω}
    {heartbeat : StateV2} (hclaim : MayClaim a owner) (hdeep : deep) (hactive : a.state = .active)
    (hheartbeat : (healthyHeartbeat setup).perform serve (claimed a owner) w = ((.ok heartbeat, a₁), w₁))
    (h : (f heartbeat).Raises serve a₁ w₁ fun _ => True) :
    (orFault setup (healthyHeartbeat setup >>= f)).Raises serve (claimed a owner) w
      (ClaimsFirst a owner deep) := by
  obtain ⟨error, a', w', hperform, hfaulted⟩ :=
    @orFault_raises setup _ _ _ _ _ _ _ (Raises.after hheartbeat h)
  exact ⟨error, a', w', hperform, .faults hclaim hdeep hactive hfaulted⟩

theorem append_refused (h : Refused setup serve a w (.feed (.append owner points))) :
    (append setup owner points).Raises serve a w (ClaimsFirst a owner (Streaming a)) := by
  by_cases hclaim : MayClaim a owner
  · refine Raises.after (claim_taken hclaim) ?_
    rw [Raises, perform_get_bind, claimed_state, claimed_tailTick, claimed_tailPositionsUrad]
    cases h with
    | appendClaim h => exact absurd hclaim h
    | appendInactive h =>
      split
      · rename_i hactive htail hpositions
        exact absurd ⟨hactive, Option.ne_none_iff_exists'.mpr ⟨_, htail⟩,
          Option.ne_none_iff_exists'.mpr ⟨_, hpositions⟩⟩ h
      · exact raises_throw (.claims hclaim h)
    | appendPoints hactive htail hpositions hheartbeat h =>
      rw [hactive, htail, hpositions]
      have hdeep : Streaming a := ⟨hactive, Option.ne_none_iff_exists'.mpr ⟨_, htail⟩,
        Option.ne_none_iff_exists'.mpr ⟨_, hpositions⟩⟩
      refine claimsFirst_faults hclaim hdeep hactive hheartbeat ?_
      rw [Raises, perform_get_bind]
      exact Raises.bind (raises_expect h trivial)
  · exact claimsFirst_refused hclaim

theorem splice_refused (h : Refused setup serve a w (.splice owner points spliceOffsetMs)) :
    (splice setup owner points spliceOffsetMs).Raises serve a w
      (ClaimsFirst a owner (Spliceable a ∧ spliceGuards setup points spliceOffsetMs = .ok ())) := by
  by_cases hclaim : MayClaim a owner
  · refine Raises.after (claim_taken hclaim) ?_
    rw [Raises, perform_get_bind, claimed_state, claimed_tailTick]
    by_cases hspliceable : Spliceable a
    · obtain ⟨hactive, htail⟩ := hspliceable
      obtain ⟨tailTick, htail'⟩ := Option.ne_none_iff_exists'.mp htail
      rw [hactive, htail']
      refine raises_expect_bind ?_ fun _ hguards => ?_
      · exact fun error hguards => .claims hclaim fun hdeep => nomatch hguards.symm.trans hdeep.2
      cases h with
      | spliceClaim h => exact absurd hclaim h
      | spliceInactive h => exact absurd ⟨hactive, htail⟩ h
      | spliceGuards h => cases hguards.symm.trans h
      | splicePoints _ htail'' hheartbeat h =>
        cases htail'.symm.trans htail''
        refine claimsFirst_faults hclaim ⟨⟨hactive, htail⟩, hguards⟩ hactive hheartbeat ?_
        rw [Raises, perform_get_bind]
        exact Raises.bind (raises_expect h trivial)
    · split
      · rename_i hactive htail
        exact absurd ⟨hactive, Option.ne_none_iff_exists'.mpr ⟨_, htail⟩⟩ hspliceable
      · exact raises_throw (.claims hclaim fun hdeep => hspliceable hdeep.1)
  · exact claimsFirst_refused hclaim

theorem poll_refused (h : Refused setup serve a w (.feed (.poll owner))) :
    (poll setup owner).Raises serve a w (ClaimsFirst a owner False) := by
  by_cases hclaim : MayClaim a owner
  · refine Raises.after (claim_taken hclaim) ?_
    rw [Raises, perform_get_bind, claimed_state]
    cases h with
    | pollClaim h => exact absurd hclaim h
    | pollInactive h =>
      refine raises_expect_bind (fun _ _ => .claims hclaim id) fun _ hactive => ?_
      exact absurd h (streamIf_ok_iff.mp hactive)
  · exact claimsFirst_refused hclaim

theorem Refused.raises {operation : AdapterOperation} (h : Refused setup serve a w operation) :
    (operation.action setup).Raises serve a w fun a' =>
      Untraced setup a a' ↔ Spared setup a operation := by
  have hpoll (owner : String) : (MayClaim a owner → a.owner ≠ none ∧ ¬ False) ↔
      (MayClaim a owner → a.owner ≠ none) := by simp only [not_false_eq_true, and_true]
  cases operation with
  | splice owner points spliceOffsetMs =>
    refine Raises.bind ((splice_refused h).mono fun a' hend => hend.untraced_iff.trans ?_)
    simp only [Spared, not_and]
  | feed operation =>
    cases operation with
    | start owner points finite =>
      exact Raises.bind ((start_refused h).mono fun a' hend => iff_of_true hend trivial)
    | refresh =>
      cases h with
      | refresh h =>
        refine Raises.bind ((refresh_refused h).mono ?_)
        rintro a' rfl
        exact iff_of_true (.refl a') trivial
    | append owner points =>
      exact Raises.bind ((append_refused h).mono fun a' hend => hend.untraced_iff)
    | poll owner =>
      exact Raises.bind ((poll_refused h).mono fun a' hend => hend.untraced_iff.trans (hpoll owner))
    | _ => cases h

/-! ## 4. Runs -/

/-- The adapter and its transport behind an operation. -/
def operate (setup : Setup) (serve : (call : HostCall) → ω → call.Reply × ω)
    (operation : AdapterOperation) (a : ResidentAdapter) (w : ω) : ResidentAdapter × ω :=
  let outcome := (operation.action setup).perform serve a w
  (outcome.1.2, outcome.2)

/-- Whenever an operation of the run is refused, `P` holds of it and the adapter on both sides. -/
def EveryRefusal (setup : Setup) (serve : (call : HostCall) → ω → call.Reply × ω)
    (P : ResidentAdapter → AdapterOperation → ResidentAdapter → Prop) :
    List AdapterOperation → ResidentAdapter → ω → Prop
  | [], _, _ => True
  | operation :: operations, a, w =>
    (Refused setup serve a w operation → P a operation (operate setup serve operation a w).1) ∧
      EveryRefusal setup serve P operations (operate setup serve operation a w).1
        (operate setup serve operation a w).2

theorem everyRefusal_congr {P Q : ResidentAdapter → AdapterOperation → ResidentAdapter → Prop}
    (h : ∀ a w operation, Refused setup serve a w operation →
      (P a operation (operate setup serve operation a w).1 ↔
        Q a operation (operate setup serve operation a w).1)) :
    ∀ operations a w, EveryRefusal setup serve P operations a w ↔
      EveryRefusal setup serve Q operations a w := by
  intro operations
  induction operations with
  | nil => exact fun _ _ => Iff.rfl
  | cons operation operations ih =>
    intro a w
    rw [EveryRefusal, EveryRefusal]
    exact and_congr (forall_congr' fun hrefused => h a w operation hrefused) (ih _ _)

/-- **The refused operations of a run leave no trace, exactly where each is refused before it claims
a stream that nobody has, and not behind its heartbeat.** -/
theorem refusals_untraced_iff (setup : Setup) (serve : (call : HostCall) → ω → call.Reply × ω)
    (operations : List AdapterOperation) (w : ω) :
    EveryRefusal setup serve (fun a _ a' => Untraced setup a a') operations newAdapter w ↔
      EveryRefusal setup serve (fun a operation _ => Spared setup a operation) operations
        newAdapter w := by
  refine everyRefusal_congr (fun a w operation hrefused => ?_) operations newAdapter w
  obtain ⟨error, a', w', hperform, hiff⟩ := hrefused.raises
  unfold operate
  rw [hperform]
  exact hiff

/-- A transport that answers everything as it should. -/
def Bench.answer : (call : HostCall) → Unit → call.Reply × Unit
  | .transport _ request, _ => (.ok (bystanders request), ())
  | .monotonic, _ => ((0 : Int), ())

def Bench.prepared : ResidentAdapter :=
  (operate Bench.setup answer (.feed .prepare) newAdapter ()).1

/-- The adapter after a poll of a stream that nobody has started. -/
def Bench.polled : ResidentAdapter := (operate Bench.setup answer (.feed (.poll "x")) prepared ()).1

/-- Nobody polls the stream before anybody has it; the poll is refused and keeps the stream, and the
one who starts it is refused for that. -/
theorem refused_poll_owns :
    Bench.prepared.owner = none ∧ Bench.polled.owner = some "x" ∧
    ((start Bench.setup "y" Bench.points true).perform Bench.answer Bench.prepared ()).1.2.state =
      .active ∧
    ((start Bench.setup "y" Bench.points true).perform Bench.answer Bench.polled ()).1.2 =
      Bench.polled ∧
    ¬ EveryRefusal Bench.setup Bench.answer (fun a _ a' => Untraced Bench.setup a a')
      [.feed .prepare, .feed (.poll "x")] newAdapter () := by
  refine ⟨by decide +kernel, by decide +kernel, by decide +kernel, by decide +kernel, ?_⟩
  rintro ⟨-, huntraced, -⟩
  have howner := (huntraced (.pollInactive (by decide +kernel))).owner
  revert howner
  decide +kernel

end MobileBimanual.Adapter
