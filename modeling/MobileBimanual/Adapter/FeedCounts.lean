/-
# The two counts agree

Between operations the route of an active adapter and the samples struck off it are together what
the executor has taken (`Settled`), whatever the transport did to the calls on the way: every
operation `Holds` to it (`action_settles`), so it holds along every run (`run_sound`).  The pump
is then only as right about the room in the queue as the executor is up to date: its batch
overruns the queue exactly when the executor has applied fewer samples than the feeder has struck
off, the places it left unused aside (`feeder_fits`).  A heartbeat between the apply tick of a
sample and the control tick that applies it is enough (`pump_overruns`).
-/
import MobileBimanual.Adapter.Feeder

namespace MobileBimanual.Adapter

open Activity Program
open MobileBimanual.Stream
open MobileBimanual.Stream.Host (StreamSampleV2 StreamBatchV2 encodeStreamBatchV2)
open FeedSystem

/-! ## 1. What surrounds an operation -/

/-- The count of the feeder at the batch of the pump. -/
structure PumpProper (setup : Setup) (adapter : ResidentAdapter) (batch : StreamBatchV2)
    (feed : Feed) : Prop where
  samples : batch.samples = readySamples setup feed.heartbeatTick
    (min wireMaxSamples
      (queueCapacity - (futureRoute adapter.routeSamples feed.heartbeatTick).length : Int))
    adapter.pendingFiniteSamples
  nonempty : batch.samples ≠ []
  counted : adapter.routeSamples.length + feed.struck = feed.taken

theorem PumpProper.same {setup : Setup} {adapter : ResidentAdapter} {batch : StreamBatchV2}
    {feed feed' : Feed} (h : PumpProper setup adapter batch feed) (hsame : feed.Same feed')
    (htick : feed'.heartbeatTick = feed.heartbeatTick) : PumpProper setup adapter batch feed' where
  samples := htick ▸ h.samples
  nonempty := h.nonempty
  counted := by
    rw [hsame.struck, hsame.taken]
    exact h.counted

/-- While a call of the adapter is under way the executor applies samples; the batches of the pump
are counted. -/
def feedConduct (setup : Setup) (operation : FeedOperation) (adapter : ResidentAdapter) :
    Conduct HostCall HostCall.Reply Feed where
  interferes feed feed' := feed.Same feed' ∧ feed'.heartbeatTick = feed.heartbeatTick
  permits call feed := ∀ owner state batch, operation = .poll owner →
    call = .transport state (.append batch) → PumpProper setup adapter batch feed
  answers call feed reply feed' := ∃ tick bystanders transit now,
    reply = (Feed.answer setup tick bystanders transit now operation adapter call feed).1 ∧
    feed' = (Feed.answer setup tick bystanders transit now operation adapter call feed).2

/-- Route and struck samples are together what the executor has taken. -/
def Settled (adapter : ResidentAdapter) (feed : Feed) : Prop :=
  adapter.state = .active → adapter.routeSamples.length + feed.struck = feed.taken

theorem Settled.same {adapter : ResidentAdapter} {feed feed' : Feed} (h : Settled adapter feed)
    (hsame : feed.Same feed') : Settled adapter feed' := by
  intro hactive
  rw [hsame.struck, hsame.taken]
  exact h hactive

theorem Settled.continues {a a' : ResidentAdapter} {feed : Feed} (h : Settled a feed)
    (hcontinues : Continues a a') : Settled a' feed := by
  intro hactive
  obtain ⟨hbefore, hroute⟩ := hcontinues hactive
  rw [hroute]
  exact h hbefore

section

variable {setup : Setup} {operation : FeedOperation} {origin adapter : ResidentAdapter}
  {feed : Feed}

/-! ## 2. Quiet calls -/

theorem quiet_permits {call : HostCall} (h : quiet call) :
    (feedConduct setup operation origin).permits call feed := by
  rintro owner state batch - rfl
  cases h

theorem quiet_answers {call : HostCall} {reply : call.Reply} {feed' : Feed} (h : quiet call)
    (hanswer : (feedConduct setup operation origin).answers call feed reply feed') :
    feed.Same feed' := by
  obtain ⟨tick, bystanders, transit, now, -, rfl⟩ := hanswer
  cases call with
  | transport state request => exact Feed.carry_same h
  | monotonic => exact .refl feed

variable {α : Type}

/-- **A quiet action leaves the counts alone.** -/
theorem quiet_holds {x : Operation α} {R : ResidentAdapter → Prop}
    (h : (x.program adapter).Within quiet fun result => R result.2) (feed : Feed) :
    (x.program adapter).Holds (feedConduct setup operation origin)
      (fun result feed' => R result.2 ∧ feed.Same feed') feed := by
  refine h.holds (I := fun feed' => feed.Same feed') ?_ ?_ (.refl feed)
  · exact fun hsame hinterferes => hsame.trans hinterferes.1
  · intro call feed' hquiet hsame
    exact ⟨quiet_permits hquiet, fun _ _ hanswer => hsame.trans (quiet_answers hquiet hanswer)⟩

/-- After a quiet action. -/
theorem quiet_holds_bind {α β : Type} {x : Operation α} {f : α → Operation β}
    {post : Except HostError β × ResidentAdapter → Feed → Prop}
    (h : x.Keeps Aside.frame)
    (hvalue : ∀ value adapter' feed', Aside adapter adapter' → feed.Same feed' →
      ((f value).program adapter').Holds (feedConduct setup operation origin) post feed')
    (herror : ∀ error adapter' feed', Aside adapter adapter' → feed.Same feed' →
      post (.error error, adapter') feed') :
    ((x >>= f).program adapter).Holds (feedConduct setup operation origin) post feed := by
  rw [program_bind, holds_bind]
  refine Holds.mono ?_ (quiet_holds (h adapter) feed)
  rintro ⟨error | value, adapter'⟩ feed' ⟨haside, hsame⟩
  · exact herror error adapter' feed' haside hsame
  · exact hvalue value adapter' feed' haside hsame

/-- A call of the transport, wherever it gets to. -/
theorem transport_holds_bind {β : Type} {request : Request} {f : request.Answer → Operation β}
    {post : Except HostError β × ResidentAdapter → Feed → Prop}
    (h : ∀ feed', feed.Same feed' → feed'.heartbeatTick = feed.heartbeatTick →
      (feedConduct setup operation origin).permits (.transport adapter.state request) feed' ∧
      ∀ tick bystanders transit,
        (goOn f ((feed'.carry setup operation origin bystanders tick transit request).2,
          adapter)).Holds (feedConduct setup operation origin) post
          (feed'.carry setup operation origin bystanders tick transit request).1) :
    ((transport request >>= f).program adapter).Holds (feedConduct setup operation origin) post
      feed := by
  rw [program_bind, program_transport, call_bind]
  rintro feed' ⟨hsame, htick⟩
  obtain ⟨hpermits, hgo⟩ := h feed' hsame htick
  refine ⟨hpermits, ?_⟩
  rintro reply - ⟨tick, bystanders, transit, now, rfl, rfl⟩
  exact hgo tick bystanders transit

/-! ## 3. The heartbeat that dates a batch -/

/-- What a heartbeat leaves behind: the counts as they were, and a healthy one its tick on both
sides. -/
structure Dated (adapter : ResidentAdapter) (feed : Feed)
    (result : Except HostError StateV2 × ResidentAdapter) (feed' : Feed) : Prop where
  aside : Aside adapter result.2
  same : feed.Same feed'
  tick : ∀ state, result.1 = .ok state → feed'.heartbeatTick = state.lastHeartbeatMs

theorem heartbeat_dates {bystanders : Bystanders} {tick : Tick} {transit : Transit}
    {state : StateV2}
    (h : (feed.carry setup operation origin bystanders tick transit .heartbeat).2 = .ok state) :
    (feed.carry setup operation origin bystanders tick transit .heartbeat).1.heartbeatTick =
      state.lastHeartbeatMs := by
  unfold Feed.carry at h ⊢
  dsimp only at h ⊢
  rw [h]
  rfl

theorem healthyHeartbeat_dated :
    ((healthyHeartbeat setup).program adapter).Holds (feedConduct setup operation origin)
      (Dated adapter feed) feed := by
  refine transport_holds_bind fun feed₁ hsame₁ _ =>
    ⟨quiet_permits rfl, fun tick bystanders transit => ?_⟩
  have hsame := hsame₁.trans (@Feed.carry_same .heartbeat setup operation origin feed₁ bystanders
    tick transit rfl)
  have hdates := @heartbeat_dates setup operation origin feed₁ bystanders tick transit
  generalize feed₁.carry setup operation origin bystanders tick transit .heartbeat = carried
    at hsame hdates ⊢
  obtain ⟨feed₂, error | state⟩ := carried
  · exact ⟨Aside.refl adapter, hsame, nofun⟩
  · rw [goOn_ok, program_bind, program_expect, done_bind]
    cases streamIf (state.stopLatched ∨ state.statusCode ≠ 0)
      s!"heartbeat failed: {setup.repr .heartbeat state}" with
    | error error => exact ⟨Aside.refl adapter, hsame, nofun⟩
    | ok _ =>
      rw [goOn_ok, program_bind, program_monotonic, call_bind]
      rintro feed₃ ⟨hsame₃, htick₃⟩
      refine ⟨quiet_permits trivial, ?_⟩
      rintro now feed₄ ⟨tick', bystanders', transit', now', -, hfeed₄⟩
      obtain rfl : feed₃ = feed₄ := hfeed₄.symm
      refine ⟨⟨id, rfl, rfl, rfl, rfl, rfl⟩, hsame.trans hsame₃, ?_⟩
      rintro state' ⟨⟩
      exact htick₃.trans (hdates rfl)

/-- After a heartbeat: a failed one is a quiet end. -/
theorem healthyHeartbeat_holds_bind {β : Type} {f : StateV2 → Operation β}
    {post : Except HostError β × ResidentAdapter → Feed → Prop}
    (hvalue : ∀ (state : StateV2) adapter' feed', Aside adapter adapter' → feed.Same feed' →
      feed'.heartbeatTick = state.lastHeartbeatMs →
      ((f state).program adapter').Holds (feedConduct setup operation origin) post feed')
    (herror : ∀ error adapter' feed', Aside adapter adapter' → feed.Same feed' →
      post (.error error, adapter') feed') :
    ((healthyHeartbeat setup >>= f).program adapter).Holds (feedConduct setup operation origin)
      post feed := by
  rw [program_bind, holds_bind]
  refine Holds.mono ?_ healthyHeartbeat_dated
  rintro ⟨error | state, adapter'⟩ feed' hdated
  · exact herror error adapter' feed' hdated.aside hdated.same
  · exact hvalue state adapter' feed' hdated.aside hdated.same (hdated.tick state rfl)

/-! ## 4. The batches -/

/-- The counts after a batch, if it was acknowledged. -/
structure Counted (operation : FeedOperation) (origin : ResidentAdapter) (feed : Feed)
    (count : Nat) (feed' : Feed) : Prop where
  taken : feed'.taken = feed.taken + count
  struck : feed'.struck = feed.struck + operation.strikes origin feed.heartbeatTick

variable {β : Type}

theorem sendAppend_holds_bind {batch : StreamBatchV2} {label : String}
    {f : StreamStatusV2 → Operation β} {post : Except HostError β × ResidentAdapter → Feed → Prop}
    (hproper : ∀ owner, operation = .poll owner → PumpProper setup origin batch feed)
    (hvalue : ∀ status feed', Counted operation origin feed batch.samples.length feed' → ((f status).program adapter).Holds (feedConduct setup operation origin) post feed')
    (herror : ∀ error feed', post (.error error, adapter) feed') :
    ((sendAppend setup batch label >>= f).program adapter).Holds
      (feedConduct setup operation origin) post feed := by
  rw [program_bind, holds_bind]
  refine transport_holds_bind fun feed₁ hsame htick =>
    ⟨fun owner state batch' hoperation hcall => ?_, fun tick bystanders transit => ?_⟩
  · cases hcall
    exact (hproper owner hoperation).same hsame htick
  · have hcounted := @Feed.carry_append setup operation origin feed₁ bystanders tick transit batch
    generalize feed₁.carry setup operation origin bystanders tick transit (.append batch) = carried
      at hcounted ⊢
    obtain ⟨feed₂, error | status⟩ := carried
    · exact herror error feed₂
    · have haccepted := @requireAccepted_ok_iff setup (setup.repr (.append batch) status) label
        status
      rw [goOn_ok, program_bind, program_expect, done_bind]
      cases hrequire : requireAccepted setup (setup.repr (.append batch) status) status label with
      | error error => exact herror error feed₂
      | ok _ =>
        obtain ⟨htaken, hstruck⟩ := hcounted (haccepted.mp hrequire)
        refine hvalue status feed₂ ⟨?_, ?_⟩
        · rw [htaken, hsame.taken]
        · rw [hstruck, hsame.struck, htick]

/-! ## 5. The operations settle -/

/-- Settled, if the action came to its end. -/
def SettledEnd {α : Type} (result : Except HostError α × ResidentAdapter) (feed : Feed) : Prop :=
  ∀ value, result.1 = .ok value → Settled result.2 feed

theorem settledEnd_error {error : HostError} :
    SettledEnd ((.error error : Except HostError α), adapter) feed := nofun

/-- A fault is settled whatever went wrong. -/
theorem orFault_settles {body : Operation α}
    (h : (body.program adapter).Holds (feedConduct setup operation origin) SettledEnd feed) :
    ((orFault setup body).program adapter).Holds (feedConduct setup operation origin)
      (fun result feed' => Settled result.2 feed') feed := by
  unfold orFault
  rw [program_tryCatch, holds_bind]
  refine Holds.mono ?_ h
  rintro ⟨error | value, adapter'⟩ feed' hend
  · rw [handle_error]
    refine Holds.mono ?_ (quiet_holds (fault_ends adapter') feed')
    rintro result feed'' ⟨haside, -⟩ hactive
    exact nomatch haside.active hactive
  · exact hend value rfl

/-- An operation that only goes on with the stream. -/
theorem continues_settles {x : Operation α} (h : x.Keeps Continues.frame)
    (hsettled : Settled adapter feed) :
    (x.program adapter).Holds (feedConduct setup operation origin)
      (fun result feed' => Settled result.2 feed') feed :=
  (quiet_holds (h adapter) feed).mono fun _ _ ⟨hcontinues, hsame⟩ =>
    (hsettled.same hsame).continues hcontinues

/-- The route behind an acknowledged batch. -/
theorem Counted.settles {samples : List StreamSampleV2} {feed' : Feed}
    (h : Counted operation origin feed samples.length feed')
    (hstrikes : operation.strikes origin feed.heartbeatTick = origin.routeSamples.length -
      (futureRoute origin.routeSamples feed.heartbeatTick).length)
    (hcounted : origin.routeSamples.length + feed.struck = feed.taken) :
    (futureRoute origin.routeSamples feed.heartbeatTick ++ samples).length + feed'.struck =
      feed'.taken := by
  have hshorter : (futureRoute origin.routeSamples feed.heartbeatTick).length ≤
      origin.routeSamples.length := List.length_filter_le _ _
  rw [List.length_append, h.struck, h.taken, hstrikes]
  omega

variable {owner : String}

/-- The pump counts on the route of the last heartbeat. -/
theorem pumpFinitePlan_settles (hoperation : operation = .poll owner)
    (haside : Aside origin adapter) (hsettled : Settled origin feed)
    (hactive : adapter.state = .active) :
    ((pumpFinitePlan setup).program adapter).Holds (feedConduct setup operation origin)
      SettledEnd feed := by
  have hquiet : ∀ {adapter' : ResidentAdapter} {feed' : Feed}, Aside adapter adapter' →
      feed.Same feed' → Settled adapter' feed' := fun haside' hsame =>
    (hsettled.same hsame).continues (haside.trans haside').continues
  have hcounted := hsettled (haside.active hactive)
  unfold pumpFinitePlan
  rw [program_bind, program_get, done_bind, goOn_ok, program_ite]
  split_ifs with hempty
  · exact fun _ _ => hquiet (Aside.refl adapter) (.refl feed)
  · split
    · rename_i horizon tailTick hhorizon htail
      refine healthyHeartbeat_holds_bind ?_ fun error adapter' feed' _ _ => nofun
      intro heartbeat adapter' feed' haside' hsame htick
      rw [program_bind, program_expect, done_bind]
      cases hbatch : pumpBatch setup adapter horizon heartbeat.lastHeartbeatMs with
      | error error => exact nofun
      | ok sending =>
        rw [goOn_ok]
        cases sending with
        | none => exact fun _ _ => hquiet haside' hsame
        | some sending =>
          obtain ⟨batch, route⟩ := sending
          obtain ⟨rfl, hsamples, hnonempty⟩ := pumpBatch_some hbatch
          rw [haside.route, haside.pending, ← htick] at hsamples
          have hcounted' : origin.routeSamples.length + feed'.struck = feed'.taken := by
            rw [hsame.struck, hsame.taken]
            exact hcounted
          refine sendAppend_holds_bind (fun _ _ => ⟨hsamples, hnonempty, hcounted'⟩) ?_
            fun _ _ => nofun
          intro status feed'' hcount
          rw [program_bind, program_expect, done_bind]
          cases last batch.samples with
          | error error => exact nofun
          | ok tail =>
            rintro ⟨⟩ - -
            dsimp only [extendRoute]
            rw [haside.route, ← htick]
            exact hcount.settles (hoperation ▸ rfl) hcounted'
    · exact nofun

theorem poll_settles (hsettled : Settled origin feed) :
    ((poll setup owner).program origin).Holds (feedConduct setup (.poll owner) origin)
      (fun result feed' => Settled result.2 feed') feed := by
  refine quiet_holds_bind (aside_of_calm claim_calm) ?_ fun error adapter feed' haside hsame =>
    (hsettled.same hsame).continues haside.continues
  intro _ adapter feed' haside hsame
  rw [program_bind, program_get, done_bind, goOn_ok, program_bind, program_expect, done_bind]
  cases hcheck : streamIf (adapter.state ≠ .active) "stream is not active" with
  | error error => exact (hsettled.same hsame).continues haside.continues
  | ok _ =>
    have hactive := of_not_not (streamIf_ok_iff.mp hcheck)
    refine orFault_settles ?_
    rw [program_bind, holds_bind]
    refine (pumpFinitePlan_settles rfl haside (hsettled.same hsame) hactive).mono ?_
    rintro ⟨error | value, adapter'⟩ feed'' hend
    · exact settledEnd_error
    · rw [goOn_ok]
      refine Holds.mono ?_ (continues_settles pollBody_continues (hend value rfl))
      exact fun result feed₃ h _ _ => h

variable {points : List TimedJointPoint}

theorem append_settles (hsettled : Settled origin feed) :
    ((append setup owner points).program origin).Holds
      (feedConduct setup (.append owner points) origin)
      (fun result feed' => Settled result.2 feed') feed := by
  refine quiet_holds_bind (aside_of_calm claim_calm) ?_ fun error adapter feed' haside hsame =>
    (hsettled.same hsame).continues haside.continues
  intro _ adapter feed' haside hsame
  rw [program_bind, program_get, done_bind, goOn_ok]
  split
  · rename_i tailTick tailPositions hactive htick hpositions
    refine orFault_settles (healthyHeartbeat_holds_bind ?_ fun _ _ _ _ _ => nofun)
    intro heartbeat adapter' feed'' haside' hsame' htick'
    rw [program_bind, program_get, done_bind, goOn_ok, program_bind, program_expect, done_bind]
    cases halign : alignedPoints setup points heartbeat.lastHeartbeatMs tailTick tailPositions with
    | error error => exact nofun
    | ok samples =>
      refine sendAppend_holds_bind (fun _ => nofun) ?_ fun _ _ => nofun
      intro status feed₃ hcount
      rw [program_bind, program_expect, done_bind]
      cases hlast : last samples with
      | error error => exact nofun
      | ok tail =>
        rintro value - -
        have hroute : adapter'.routeSamples = origin.routeSamples :=
          haside'.route.trans haside.route
        have hcounted : origin.routeSamples.length + feed''.struck = feed''.taken :=
          hsettled.same (hsame.trans hsame') (haside.active hactive)
        dsimp only [extendRoute]
        rw [hroute, ← htick']
        exact hcount.settles rfl hcounted
  · exact (hsettled.same hsame).continues haside.continues

/-- A new stream is counted from its OPEN. -/
theorem openAndFill_settles {finite : Bool} {convertedAll : List Converted} {initialCount : Nat} :
    ((openAndFill setup convertedAll initialCount finite).program adapter).Holds
      (feedConduct setup (.start owner points finite) origin) SettledEnd feed := by
  refine healthyHeartbeat_holds_bind ?_ fun _ _ _ _ _ => settledEnd_error
  intro heartbeat adapter' feed₁ _ _ _
  dsimp only
  rw [program_bind, program_expect, done_bind]
  generalize (if finite = true then _ else _ : Except HostError Int) = horizon
  cases horizon with
  | error error => exact settledEnd_error
  | ok horizon =>
    refine transport_holds_bind fun feed₂ _ _ =>
      ⟨fun _ _ _ => nofun, fun tick bystanders transit => ?_⟩
    have hopen := @Feed.carry_open setup (.start owner points finite) origin feed₂ bystanders tick
      transit (policyFor setup horizon)
    generalize feed₂.carry setup _ origin bystanders tick transit
      (.openStream (policyFor setup horizon)) = carried at hopen ⊢
    obtain ⟨feed₃, error | opened⟩ := carried
    · exact settledEnd_error
    · rw [goOn_ok, program_bind, program_expect, done_bind]
      cases hrequire : requireAccepted setup
          (setup.repr (.openStream (policyFor setup horizon)) opened) opened "stream open" with
      | error error => exact settledEnd_error
      | ok _ =>
        obtain ⟨htaken, hstruck⟩ := hopen (requireAccepted_ok_iff.mp hrequire)
        rw [goOn_ok, program_bind, program_get, done_bind, goOn_ok]
        refine sendAppend_holds_bind (fun _ => nofun) ?_ fun _ _ => settledEnd_error
        intro status feed₄ hcount
        rw [program_bind, program_modify, done_bind, goOn_ok, program_bind, program_expect,
          done_bind]
        cases last (List.take initialCount (samplesAt heartbeat.lastHeartbeatMs convertedAll)) with
        | error error => exact settledEnd_error
        | ok tail =>
          rintro value - -
          have hlength : feed₄.taken =
              (List.take initialCount (samplesAt heartbeat.lastHeartbeatMs convertedAll)).length :=
            hcount.taken.trans (by rw [htaken, Nat.zero_add]; rfl)
          have hstruck₄ : feed₄.struck = 0 := hcount.struck.trans (by rw [hstruck]; rfl)
          dsimp only [noteStarted]
          rw [hlength, hstruck₄, Nat.add_zero]

theorem start_settles {finite : Bool} (hsettled : Settled origin feed) :
    ((start setup owner points finite).program origin).Holds
      (feedConduct setup (.start owner points finite) origin)
      (fun result feed' => Settled result.2 feed') feed := by
  unfold start
  rw [program_bind, program_expect, done_bind]
  cases streamIf (setup.motionAuthorized = false) "motion_authorized is false" with
  | error error => exact hsettled
  | ok _ =>
    rw [goOn_ok, program_bind, program_get, done_bind, goOn_ok, program_bind, program_expect,
      done_bind]
    cases streamIf (origin.state ≠ .ready ∨ origin.prepared = none) "adapter is not ready" with
    | error error => exact hsettled
    | ok _ =>
      have haside : ∀ {adapter feed'}, Aside origin adapter → feed.Same feed' →
          Settled adapter feed' := fun haside hsame =>
        (hsettled.same hsame).continues haside.continues
      refine quiet_holds_bind freshAnchor_aside ?_ fun _ _ _ h hsame => haside h hsame
      intro _ adapter₁ feed₁ haside₁ hsame₁
      rw [program_bind, program_get, done_bind, goOn_ok, program_bind, program_expect, done_bind]
      cases startPoints setup adapter₁.prepared points finite with
      | error error => exact haside haside₁ hsame₁
      | ok converted =>
        obtain ⟨convertedAll, initialCount⟩ := converted
        rw [goOn_ok]
        dsimp only
        refine quiet_holds_bind (aside_of_calm claimStart_calm) ?_ fun _ _ _ h hsame =>
          haside (haside₁.trans h) (hsame₁.trans hsame)
        intro _ adapter₂ feed₂ haside₂ hsame₂
        refine orFault_settles (quiet_holds_bind armAndEnable_aside ?_ fun _ _ _ _ _ =>
          settledEnd_error)
        exact fun _ _ _ _ _ => openAndFill_settles

theorem forget_settles {α : Type} {x : Operation α}
    (h : (x.program adapter).Holds (feedConduct setup operation origin)
      (fun result feed' => Settled result.2 feed') feed) :
    ((forget x).program adapter).Holds (feedConduct setup operation origin)
      (fun result feed' => Settled result.2 feed') feed := by
  unfold forget
  rw [program_bind, holds_bind]
  refine Holds.mono ?_ h
  rintro ⟨error | value, adapter'⟩ feed' hsettled
  · exact hsettled
  · exact hsettled

/-- **Every operation settles.** -/
theorem action_settles (operation : FeedOperation) (hsettled : Settled origin feed) :
    ((operation.action setup).program origin).Holds (feedConduct setup operation origin)
      (fun result feed' => Settled result.2 feed') feed := by
  have haside : ∀ {α : Type} {x : Operation α}, x.Keeps Aside.frame →
      ((forget x).program origin).Holds (feedConduct setup operation origin)
        (fun result feed' => Settled result.2 feed') feed := fun h =>
    forget_settles (continues_settles (continues_of_aside h) hsettled)
  cases operation with
  | prepare => exact haside prepare_aside
  | refresh => exact haside refreshUnarmedAnchor_aside
  | keepalive force => exact haside keepalive_aside
  | feedback => exact haside feedbackSnapshot_aside
  | start owner points finite => exact forget_settles (start_settles hsettled)
  | append owner points => exact forget_settles (append_settles hsettled)
  | poll owner => exact forget_settles (poll_settles hsettled)
  | stop owner => exact continues_settles stop_continues hsettled

/-! ## 6. Along a run -/

namespace FeedSystem

open Client.Session

def Sound (setup : Setup) (w : FeedSystem) : Prop :=
  Client.Session.Sound (feedConduct setup) Settled w

theorem step_sound {w : FeedSystem} (event : FeedEvent) (h : w.Sound setup) :
    (w.step setup event).Sound setup := by
  cases event with
  | operate operation =>
    exact sound_operate (fun operation _ _ hsettled => action_settles operation hsettled) h operation
  | deliver tick bystanders transit now =>
    exact sound_serve (fun _ _ feed => ⟨.refl feed, rfl⟩)
      (fun _ _ _ _ => ⟨tick, bystanders, transit, now, rfl, rfl⟩) h
  | executor event =>
    unfold step
    dsimp only
    split_ifs with hcommand
    · exact h
    · have hwork : ∀ feed : Feed, feed.Same (feed.work event) ∧
          (feed.work event).heartbeatTick = feed.heartbeatTick := fun feed =>
        ⟨⟨Feed.work_taken (Bool.not_eq_true _ ▸ hcommand), rfl⟩, rfl⟩
      refine sound_disturb ?_ ?_ ?_ (fun _ => hwork w.world) h
      · exact fun _ _ _ _ _ hwv hvu => ⟨hwv.1.trans hvu.1, hvu.2.trans hwv.2⟩
      · exact fun _ _ _ _ _ hsettled hinterferes => hsettled.same hinterferes.1
      · exact fun _ hsettled => hsettled.same (hwork w.world).1

theorem run_sound (executor : StreamExecutor) (events : List FeedEvent) :
    (Machine.run (step setup) (begin executor) events).Sound setup :=
  Machine.run_invariant_all (fun _ event => step_sound event) events
    (fun hactive => nomatch hactive : Settled newAdapter (begin executor).world)

/-- The batch under way is the one that the pump counts. -/
theorem Sound.pump {w : FeedSystem} (h : w.Sound setup) {batch : StreamBatchV2}
    (hpump : w.pumping = some batch) : PumpProper setup w.state batch w.world := by
  unfold pumping at hpump
  split at hpump
  · rename_i owner state batch' go hflight
    cases hpump
    exact Sound.permits h (fun _ _ feed => ⟨.refl feed, rfl⟩) hflight owner state batch rfl rfl
  · cases hpump

end FeedSystem

theorem PumpProper.fits_iff {w : FeedSystem} {batch : StreamBatchV2}
    (h : PumpProper setup w.state batch w.world) {decoded : Batch}
    (hlength : decoded.samples.length = batch.samples.length) :
    Fits w.world.executor decoded .append ↔ w.KeepsPace setup := by
  obtain ⟨hsamples, hnonempty, hcounted⟩ := h
  have hqueue : (retainedSamples w.world.executor.session decoded .append).length =
      w.world.executor.queue.length := rfl
  have hready := congrArg List.length hsamples
  have hpositive := List.length_pos_iff.mpr hnonempty
  have hcapacity : batch.samples.length ≤
      (min (wireMaxSamples : Int) (queueCapacity - w.route.length)).toNat := by
    rw [hsamples]
    exact List.length_take_le _ _
  have hroute : w.route.length ≤ w.state.routeSamples.length := List.length_filter_le _ _
  unfold Fits KeepsPace struckOff unused
  dsimp only
  rw [List.length_append, hqueue, hlength]
  unfold Feed.taken at hcounted
  unfold route at hcapacity hroute ⊢
  rw [← hready]
  omega

/-- **A batch of the pump is refused for want of room exactly when nothing else is wrong with it
and the executor is behind the feeder.** -/
theorem feeder_fits (setup : Setup) (executor : StreamExecutor) (events : List FeedEvent)
    (batch : StreamBatchV2) (payload : List Byte) (tick : Tick)
    (hpump : (Machine.run (step setup) (begin executor) events).pumping =
      some batch)
    (hencode : encodeStreamBatchV2 batch .append = .ok payload) :
    let w := Machine.run (step setup) (begin executor) events
    overflows w.world.executor payload .append tick = false ↔
      ((∃ decoded, Acceptable w.world.executor payload .append tick decoded) →
        w.KeepsPace setup) := by
  intro w
  have hproper := (run_sound executor events).pump hpump
  obtain ⟨decoded, hdecode, hback, -⟩ := batch_codec batch .append payload hencode
  have hlength : decoded.samples.length = batch.samples.length := by
    rw [← hback, Host.ofFirmware, List.length_map]
  rw [← Bool.not_eq_true, overflows_iff hdecode, hproper.fits_iff hlength]
  constructor
  · rintro hroom ⟨decoded', hacceptable⟩
    have hsame := Except.ok.inj (hdecode.symm.trans hacceptable.decodes)
    by_contra hbehind
    exact hroom ⟨hsame ▸ hacceptable, hbehind⟩
  · rintro hpace ⟨hacceptable, hbehind⟩
    exact hbehind (hpace ⟨decoded, hacceptable⟩)

end

/-! ## 7. A heartbeat between two control ticks -/

namespace Bench

def hardCaps : StreamHardCaps :=
  { Stream.Bench.hardCaps with
    trackingErrorLimitUrad := fun joint => if joint.val = 5 ∨ joint.val = 11 then 160000 else 100000 }

def executor : StreamExecutor := closedExecutor hardCaps Stream.Bench.jointLimits

/-- An operation whose calls all arrive at `tick`. -/
def operated (tick : Tick) (operation : FeedOperation) (calls : Nat) : List FeedEvent :=
  .operate operation :: List.replicate calls (.deliver tick bystanders .delivered 0)

def stepped (tick : Tick) : FeedEvent := .executor ⟨tick, .step⟩

/-- The plan is prepared and started, and the executor on its grid from 103. -/
def started : List FeedEvent :=
  operated 100 .prepare 5 ++ operated 100 (.start "a" points true) 10 ++
    [.executor ⟨103, .start fun _ => 0⟩, stepped 103]


/-- Polled at 104, which fills the queue, and again at 121, past the tick of the first sample. -/
def polledAhead : List FeedEvent :=
  started ++ operated 104 (.poll "a") 12 ++
    [stepped 108, stepped 113, stepped 118] ++ operated 121 (.poll "a") 2

/-- The batch that the pump has under way, with its payload, and whether it overruns the queue. -/
def overrun (w : FeedSystem) (tick : Tick) : Option (StreamBatchV2 × List Byte × Bool) :=
  w.pumping.bind fun batch => match encodeStreamBatchV2 batch .append with
    | .ok payload => some (batch, payload, overflows w.world.executor payload .append tick)
    | .error _ => none

theorem overrun_some {w : FeedSystem} {tick : Tick} {full : Bool}
    (h : (overrun w tick).map (·.2.2) = some full) : ∃ batch payload,
      w.pumping = some batch ∧ encodeStreamBatchV2 batch .append = .ok payload ∧
      overflows w.world.executor payload .append tick = full := by
  unfold overrun at h
  cases hpump : w.pumping with
  | none =>
    rw [hpump] at h
    cases h
  | some batch =>
    rw [hpump] at h
    cases hencode : encodeStreamBatchV2 batch .append with
    | error error =>
      simp only [Option.bind_some, hencode] at h
      cases h
    | ok payload =>
      simp only [Option.bind_some, hencode] at h
      exact ⟨batch, payload, rfl, hencode, Option.some.inj h⟩

theorem polledAhead_overruns :
    (overrun (Machine.run (step setup) (begin executor) polledAhead) 122).map
      (·.2.2) = some true := by
  decide +kernel

end Bench

/-- The heartbeat at 121 has struck off the sample of 120, which the executor applies at 123. -/
theorem pump_overruns : ¬ ∀ (setup : Setup) (executor : StreamExecutor) (events : List FeedEvent)
    (batch : StreamBatchV2) (payload : List Byte) (tick : Tick),
    (Machine.run (step setup) (begin executor) events).pumping =
      some batch →
    encodeStreamBatchV2 batch .append = .ok payload →
    overflows (Machine.run (step setup) (begin executor)
      events).world.executor payload .append tick = false := by
  intro h
  obtain ⟨batch, payload, hpump, hencode, hfull⟩ := Bench.overrun_some Bench.polledAhead_overruns
  have hroom := h Bench.setup Bench.executor Bench.polledAhead batch payload 122 hpump hencode
  exact nomatch hfull.symm.trans hroom

theorem feeder_fits_polledAhead : ∃ batch payload,
    let w := Machine.run (step Bench.setup) (begin Bench.executor)
      Bench.polledAhead
    w.pumping = some batch ∧ encodeStreamBatchV2 batch .append = .ok payload ∧
    (overflows w.world.executor payload .append 122 = false ↔
      ((∃ decoded, Acceptable w.world.executor payload .append 122 decoded) →
        w.KeepsPace Bench.setup)) := by
  obtain ⟨batch, payload, hpump, hencode, -⟩ := Bench.overrun_some Bench.polledAhead_overruns
  exact ⟨batch, payload, hpump, hencode,
    feeder_fits Bench.setup Bench.executor Bench.polledAhead batch payload 122 hpump hencode⟩

end MobileBimanual.Adapter
