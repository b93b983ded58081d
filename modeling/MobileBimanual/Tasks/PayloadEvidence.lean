/-
# What a payload proof rests on

The log notes what the monitor has accepted and what it was polled with.  `Chain` says what a proof
of a state needs of it: pairs of samples, all since the expectation, that show the state one after
another, without one in between that contradicts it.  In every run a verified proof is
`Established`: it has a chain as long as the dwell time.

* `Tracked` ties the bookkeeping to a chain; `tracked_advance` is the step of a poll;
* `inv_step` keeps it through every operation, whether it raises or not.
-/
import MobileBimanual.Lib.Machine
import MobileBimanual.Tasks.PayloadMonitor

namespace MobileBimanual.Tasks

open Machine

/-! ## 1. The log -/

/-- What the monitor has accepted, and the pairs it was polled with. -/
inductive Noted where
  | expected (expectation : Expectation)
  | grip (measurement : GripMeasurement)
  | vision (observation : PayloadObservation)
  | polled (pair : Pair)

/-- The last entry first. -/
abbrev PayloadLog := List Noted

inductive PayloadOp where
  | expect (intent : Intent) (objectId : String) (destination : Option String) (now : Scalar)
  | observeGrip (document : GripDocument) (now : Scalar)
  | observeVision (document : PayloadDocument) (now : Scalar)
  | proof (now : Scalar)

namespace PayloadMonitor

/-- What an operation leaves in the log: nothing if it raises. -/
def noted {α : Type} (note : PayloadMonitor → Option Noted) :
    PayloadMonitor × Except Raised α → Option Noted
  | (m, .ok _) => note m
  | (_, .error _) => none

def step (w : PayloadMonitor × PayloadLog) (op : PayloadOp) : PayloadMonitor × PayloadLog :=
  match op with
  | .expect intent objectId destination now =>
    let result := w.1.expect intent objectId destination now
    (result.1, (noted (fun m => some (.expected m.expectation)) result).toList ++ w.2)
  | .observeGrip document now =>
    let result := w.1.observeGrip document now
    (result.1, (noted (fun m => m.grip.map .grip) result).toList ++ w.2)
  | .observeVision document now =>
    let result := w.1.observeVision document now
    (result.1, (noted (fun m => m.vision.map .vision) result).toList ++ w.2)
  | .proof now =>
    let result := w.1.proof now
    (result.1, (noted (fun m => m.pair.map .polled) result).toList ++ w.2)

end PayloadMonitor

/-- What was last expected. -/
def expectationOf : PayloadLog → Expectation
  | [] => ⟨.unknown, none, none, 0⟩
  | .expected x :: _ => x
  | _ :: log => expectationOf log

/-- The entry is an accepted sample that contradicts the state, or a new expectation. -/
def Contradicts (limits : PayloadLimits) (x : Expectation) (state : PayloadState) : Noted → Prop
  | .expected _ => True
  | .grip g => ¬ (g.healthy = true ∧ g.Shows limits state)
  | .vision v => ¬ (some v.objectId = x.objectId ∧ v.Shows x state)
  | .polled _ => False

/-- Two accepted samples, taken close to each other and after the expectation, that show the
state. -/
structure Fits (limits : PayloadLimits) (state : PayloadState) (p : Pair) (log : PayloadLog) :
    Prop where
  grip : .grip p.grip ∈ log
  vision : .vision p.vision ∈ log
  since : (expectationOf log).at_ ≤ p.stamp
  skew : |p.grip.observed - p.vision.observed| ≤ limits.skew
  healthy : p.grip.healthy = true
  gripShows : p.grip.Shows limits state
  object : some p.vision.objectId = (expectationOf log).objectId
  visionShows : p.vision.Shows (expectationOf log) state

/-- The pair follows the last one, not too long after. -/
structure Follows (limits : PayloadLimits) (last p : Pair) : Prop where
  grip : last.grip.sequence < p.grip.sequence
  vision : last.vision.sequence < p.vision.sequence
  gap : p.stamp - last.stamp ≤ limits.age

/-- The pairs, the last one first, show the state one after another, and nothing that came in
between or since contradicts it. -/
inductive Chain (limits : PayloadLimits) (state : PayloadState) : List Pair → PayloadLog → Prop
  | first {p : Pair} {log : PayloadLog} (fits : Fits limits state p log) :
    Chain limits state [p] (.polled p :: log)
  | next {p last : Pair} {pairs : List Pair} {log : PayloadLog}
    (chain : Chain limits state (last :: pairs) log) (fits : Fits limits state p log)
    (follows : Follows limits last p) : Chain limits state (p :: last :: pairs) (.polled p :: log)
  | quiet {pairs : List Pair} {entry : Noted} {log : PayloadLog}
    (chain : Chain limits state pairs log)
    (agrees : ¬ Contradicts limits (expectationOf log) state entry) :
    Chain limits state pairs (entry :: log)

/-- A chain as long as the dwell time. -/
def Established (limits : PayloadLimits) (state : PayloadState) (log : PayloadLog) : Prop :=
  ∃ first last pairs, Chain limits state (last :: pairs) log ∧
    (last :: pairs).getLast? = some first ∧ limits.dwell ≤ last.stamp - first.stamp

/-! ## 2. The bookkeeping -/

namespace PayloadMonitor

/-- The state that is being followed has the chain that the bookkeeping says. -/
def Tracked (m : PayloadMonitor) (t : Track) (log : PayloadLog) : Prop :=
  ∃ first last pairs, Chain m.limits t.candidate (last :: pairs) log ∧
    (last :: pairs).getLast? = some first ∧ t.since = first.stamp ∧
    t.lastPairStamp = last.stamp ∧ t.signature = last.signature ∧
    (m.verified = true → m.limits.dwell ≤ last.stamp - first.stamp)

structure Inv (limits : PayloadLimits) (m : PayloadMonitor) (log : PayloadLog) : Prop where
  limits : m.limits = limits
  expectation : expectationOf log = m.expectation
  grip : ∀ g, m.grip = some g → .grip g ∈ log
  vision : ∀ v, m.vision = some v → .vision v ∈ log
  track : ∀ t, m.track = some t → Tracked m t log

variable {limits : PayloadLimits} {m : PayloadMonitor} {log : PayloadLog}

theorem inv_init (limits : PayloadLimits) : Inv limits (init limits) [] :=
  ⟨rfl, rfl, nofun, nofun, nofun⟩

theorem Inv.invalidate (h : Inv limits m log) : Inv limits m.invalidate log :=
  ⟨h.limits, h.expectation, h.grip, h.vision, nofun⟩

theorem inv_clock (h : Inv limits m log) (now : Scalar) : Inv limits (m.clock now).1 log := by
  unfold clock
  split
  · exact h
  · split
    · exact ⟨h.limits, h.expectation, nofun, nofun, nofun⟩
    · exact ⟨h.limits, h.expectation, h.grip, h.vision, h.track⟩

/-- An accepted sample that does not belie the state goes on with its chain. -/
theorem Tracked.quiet {m' : PayloadMonitor} {t : Track} {entry : Noted} (h : Tracked m t log)
    (hlimits : m'.limits = m.limits) (hverified : m'.verified = m.verified)
    (hagrees : ¬ Contradicts m.limits (expectationOf log) t.candidate entry) :
    Tracked m' t (entry :: log) := by
  obtain ⟨first, last, pairs, hchain, hrest⟩ := h
  refine ⟨first, last, pairs, ?_, ?_⟩
  · rw [hlimits]
    exact hchain.quiet hagrees
  · rw [hlimits, hverified]
    exact hrest

theorem inv_expect (h : Inv limits m log) (intent : Intent) (objectId : String)
    (destination : Option String) (now : Scalar) :
    Inv limits (step (m, log) (.expect intent objectId destination now)).1
      (step (m, log) (.expect intent objectId destination now)).2 := by
  have hclock := inv_clock h now
  simp only [step, expect]
  generalize m.clock now = clocked at hclock
  obtain ⟨m', error | now'⟩ := clocked
  · exact hclock
  · dsimp only at hclock ⊢
    cases m'.checkExpect intent objectId destination with
    | error error => exact hclock
    | ok checked =>
      exact ⟨hclock.limits, rfl, fun g hg => List.mem_cons_of_mem _ (hclock.grip g hg),
        fun v hv => List.mem_cons_of_mem _ (hclock.vision v hv), nofun⟩

theorem inv_observeGrip (h : Inv limits m log) (document : GripDocument) (now : Scalar) :
    Inv limits (step (m, log) (.observeGrip document now)).1
      (step (m, log) (.observeGrip document now)).2 := by
  have hclock := inv_clock h now
  simp only [step, observeGrip]
  generalize m.clock now = clocked at hclock
  obtain ⟨m', error | now'⟩ := clocked
  · exact hclock
  · dsimp only at hclock ⊢
    cases m'.checkGrip document now' with
    | error error => exact ⟨hclock.limits, hclock.expectation, nofun, hclock.vision, nofun⟩
    | ok g =>
      dsimp only
      have hvision : ∀ v, m'.vision = some v → .vision v ∈ Noted.grip g :: log :=
        fun v hv => List.mem_cons_of_mem _ (hclock.vision v hv)
      split
      · refine ⟨hclock.limits, hclock.expectation, ?_, hvision, nofun⟩
        rintro _ ⟨⟩
        exact List.mem_cons_self
      next hagrees =>
        refine ⟨hclock.limits, hclock.expectation, ?_, hvision, fun t ht => ?_⟩
        · rintro _ ⟨⟩
          exact List.mem_cons_self
        · refine (hclock.track t ht).quiet rfl rfl ?_
          exact fun hbelies => hagrees ⟨t, ht, hbelies⟩

theorem inv_observeVision (h : Inv limits m log) (document : PayloadDocument) (now : Scalar) :
    Inv limits (step (m, log) (.observeVision document now)).1
      (step (m, log) (.observeVision document now)).2 := by
  have hclock := inv_clock h now
  simp only [step, observeVision]
  generalize m.clock now = clocked at hclock
  obtain ⟨m', error | now'⟩ := clocked
  · exact hclock
  · dsimp only at hclock ⊢
    cases m'.checkVision document now' with
    | error error => exact ⟨hclock.limits, hclock.expectation, hclock.grip, nofun, nofun⟩
    | ok v =>
      dsimp only
      have hcamera : Inv limits
          (if m'.vision.any (decide <| ·.cameraFrame ≠ v.cameraFrame) then m'.invalidate else m')
          log := by
        split
        · exact hclock.invalidate
        · exact hclock
      generalize (if m'.vision.any (decide <| ·.cameraFrame ≠ v.cameraFrame) then m'.invalidate
        else m') = m'' at hcamera ⊢
      have hgrip : ∀ g, m''.grip = some g → .grip g ∈ Noted.vision v :: log :=
        fun g hg => List.mem_cons_of_mem _ (hcamera.grip g hg)
      split
      · refine ⟨hcamera.limits, hcamera.expectation, hgrip, ?_, nofun⟩
        rintro _ ⟨⟩
        exact List.mem_cons_self
      next hagrees =>
        refine ⟨hcamera.limits, hcamera.expectation, hgrip, ?_, fun t ht => ?_⟩
        · rintro _ ⟨⟩
          exact List.mem_cons_self
        · refine (hcamera.track t ht).quiet rfl rfl ?_
          rw [hcamera.expectation]
          exact fun hbelies => hagrees ⟨t, ht, hbelies⟩

variable {state : PayloadState} {p : Pair}

theorem stateOf_shows (h : m.stateOf p = some state) :
    p.grip.Shows m.limits state ∧ p.vision.Shows m.expectation state := by
  unfold stateOf at h
  split at h
  next hshows =>
    cases h
    exact hshows.1
  next =>
    split at h
    next hshows =>
      cases h
      exact hshows.1
    next =>
      split at h
      next hshows =>
        cases h
        exact hshows.1
      next => cases h

theorem fits_of_valid {now : ℚ} (h : Inv limits m log) (hpair : m.pair = some p)
    (hvalid : m.Valid p now) (hstate : m.stateOf p = some state) : Fits m.limits state p log := by
  obtain ⟨hgrip, hvision⟩ : m.grip = some p.grip ∧ m.vision = some p.vision := by
    unfold pair at hpair
    cases hg : m.grip with
    | none =>
      rw [hg] at hpair
      cases hpair
    | some g =>
      cases hv : m.vision with
      | none =>
        rw [hg, hv] at hpair
        cases hpair
      | some v =>
        rw [hg, hv] at hpair
        cases hpair
        exact ⟨rfl, rfl⟩
  obtain ⟨hhealthy, hobject, hsince, -, hskew⟩ := hvalid
  obtain ⟨hgripShows, hvisionShows⟩ := stateOf_shows hstate
  rw [← h.expectation] at hobject hsince hvisionShows
  exact ⟨h.grip _ hgrip, h.vision _ hvision, hsince, hskew, hhealthy, hgripShows, hobject,
    hvisionShows⟩

/-- A poll with a pair leaves the samples as they are. -/
theorem pair_follow (m : PayloadMonitor) (p : Pair) (now : ℚ) :
    (m.follow p now).1.pair = m.pair := by
  unfold follow
  split
  · cases m.stateOf p with
    | none => rfl
    | some state =>
      cases m.track with
      | none => rfl
      | some t =>
        dsimp only
        split
        · rfl
        · unfold advance
          split <;> rfl
  · rfl

/-- **One poll**: the pair begins a chain, or goes on with one, or leaves it. -/
theorem tracked_advance {t : Track} (h : Tracked m t log)
    (hfits : Fits m.limits t.candidate p log) (ht : m.track = some t) :
    ∀ t', (m.advance t p).track = some t' →
      t'.candidate = t.candidate ∧ Tracked (m.advance t p) t' (.polled p :: log) := by
  intro t' ht'
  unfold advance at ht' ⊢
  split at ht'
  next hadvances =>
    rw [if_pos hadvances]
    cases ht'
    refine ⟨rfl, ?_⟩
    obtain ⟨first, last, pairs, hchain, hfirst, hsince, hlast, hsignature, -⟩ := h
    rw [hsignature] at hadvances
    rw [hlast]
    dsimp only
    by_cases hgap : p.stamp - last.stamp > m.limits.age
    · rw [if_pos hgap]
      exact ⟨p, p, [], .first hfits, rfl, rfl, rfl, rfl, of_decide_eq_true⟩
    · rw [if_neg hgap]
      refine ⟨first, p, last :: pairs, .next hchain hfits
        ⟨hadvances.1, hadvances.2, not_lt.mp hgap⟩, ?_, hsince, rfl, rfl, fun hverified => ?_⟩
      · rw [List.getLast?_cons_cons]
        exact hfirst
      · rw [← hsince]
        exact of_decide_eq_true hverified
  next hstays =>
    rw [if_neg hstays]
    obtain rfl := Option.some.inj (ht.symm.trans ht')
    exact ⟨rfl, h.quiet rfl rfl id⟩

theorem inv_follow (now : ℚ) (h : Inv limits m log) (hpair : m.pair = some p) :
    Inv limits (m.follow p now).1 (.polled p :: log) ∧
      ∀ state, (m.follow p now).2 = some state →
        ∃ t, (m.follow p now).1.track = some t ∧ t.candidate = state := by
  have hbase : ∀ m' : PayloadMonitor, m'.limits = m.limits → m'.expectation = m.expectation →
      m'.grip = m.grip → m'.vision = m.vision →
      (∀ t, m'.track = some t → Tracked m' t (.polled p :: log)) →
      Inv limits m' (.polled p :: log) := by
    intro m' hlimits hexpectation hgrip hvision htrack
    exact ⟨hlimits.trans h.limits, h.expectation.trans hexpectation.symm,
      fun g hg => List.mem_cons_of_mem _ (h.grip g (hgrip ▸ hg)),
      fun v hv => List.mem_cons_of_mem _ (h.vision v (hvision ▸ hv)), htrack⟩
  have hbegin : ∀ state, Fits m.limits state p log →
      Inv limits (m.begin state p) (.polled p :: log) := by
    intro state hfits
    refine hbase _ rfl rfl rfl rfl ?_
    rintro _ ⟨⟩
    exact ⟨p, p, [], .first hfits, rfl, rfl, rfl, rfl, nofun⟩
  unfold follow
  split
  next hvalid =>
    cases hstate : m.stateOf p with
    | none => exact ⟨hbase _ rfl rfl rfl rfl nofun, nofun⟩
    | some state =>
      have hfits := fits_of_valid h hpair hvalid hstate
      cases htrack : m.track with
      | none =>
        refine ⟨hbegin state hfits, ?_⟩
        rintro _ ⟨⟩
        exact ⟨_, rfl, rfl⟩
      | some t =>
        dsimp only
        split
        · refine ⟨hbegin state hfits, ?_⟩
          rintro _ ⟨⟩
          exact ⟨_, rfl, rfl⟩
        next hsame =>
          obtain rfl := not_not.mp hsame
          have hadvance := tracked_advance (h.track t htrack) hfits htrack
          obtain ⟨t', ht'⟩ : ∃ t', (m.advance t p).track = some t' := by
            unfold advance
            split
            · exact ⟨_, rfl⟩
            · exact ⟨t, htrack⟩
          refine ⟨hbase _ ?_ ?_ ?_ ?_ fun t'' ht'' => (hadvance t'' ht'').2, ?_⟩
          · unfold advance
            split <;> rfl
          · unfold advance
            split <;> rfl
          · unfold advance
            split <;> rfl
          · unfold advance
            split <;> rfl
          · rintro _ ⟨⟩
            exact ⟨t', ht', (hadvance t' ht').1⟩
  next => exact ⟨hbase _ rfl rfl rfl rfl nofun, nofun⟩

theorem inv_conclude {state : Option PayloadState} {stamp : ℚ} (h : Inv limits m log) :
    Inv limits (m.conclude state stamp).1 log :=
  ⟨h.limits, h.expectation, h.grip, h.vision, h.track⟩

/-- What is proven is the state that is being followed. -/
theorem established_conclude {shown : PayloadState} {stamp : ℚ} (h : Inv limits m log)
    (htrack : ∃ t, m.track = some t ∧ t.candidate = state)
    (hshown : (m.conclude (some state) stamp).2.state = some shown) :
    Established limits shown log := by
  obtain ⟨t, ht, rfl⟩ := htrack
  obtain ⟨first, last, pairs, hchain, hfirst, -, -, -, hdwell⟩ := h.track t ht
  have hstate : (if m.verified then some t.candidate else none) = some shown := hshown
  split at hstate
  next hverified =>
    obtain rfl := Option.some.inj hstate
    rw [h.limits] at hchain hdwell
    exact ⟨first, last, pairs, hchain, hfirst, hdwell hverified⟩
  next => cases hstate

/-- **A poll**, and what its proof rests on. -/
theorem inv_proof (h : Inv limits m log) (now : Scalar) :
    Inv limits (step (m, log) (.proof now)).1 (step (m, log) (.proof now)).2 ∧
      ∀ proof state, (m.proof now).2 = .ok proof → proof.state = some state →
        Established limits state (step (m, log) (.proof now)).2 := by
  have hclock := inv_clock h now
  simp only [step, proof]
  generalize m.clock now = clocked at hclock
  obtain ⟨m', error | now'⟩ := clocked
  · exact ⟨hclock, nofun⟩
  · dsimp only at hclock ⊢
    cases hpair : m'.pair with
    | none =>
      dsimp only
      have hnone : (m'.invalidate.conclude none now').1.pair = none := hpair
      rw [noted, hnone]
      refine ⟨inv_conclude hclock.invalidate, ?_⟩
      rintro _ state ⟨⟩ hstate
      cases hstate
    | some p =>
      dsimp only
      obtain ⟨hinv, hstates⟩ := inv_follow now' hclock hpair
      have hfollow := (pair_follow m' p now').trans hpair
      generalize m'.follow p now' = followed at hinv hstates hfollow ⊢
      obtain ⟨m'', state⟩ := followed
      dsimp only at hinv hstates hfollow ⊢
      have hsome : (m''.conclude state p.stamp).1.pair = some p := hfollow
      rw [noted, hsome]
      refine ⟨inv_conclude hinv, ?_⟩
      rintro _ shown ⟨⟩ hshown
      cases state with
      | none =>
        simp only [conclude, ite_self] at hshown
        cases hshown
      | some state => exact established_conclude hinv (hstates state rfl) hshown

theorem inv_step (h : Inv limits m log) (op : PayloadOp) :
    Inv limits (step (m, log) op).1 (step (m, log) op).2 := by
  cases op with
  | expect intent objectId destination now => exact inv_expect h intent objectId destination now
  | observeGrip document now => exact inv_observeGrip h document now
  | observeVision document now => exact inv_observeVision h document now
  | proof now => exact (inv_proof h now).1

/-- **What is proven has been seen**: a verified proof has a chain as long as the dwell time. -/
theorem proof_established (limits : PayloadLimits) (l : List PayloadOp) (now : Scalar)
    {proof : PayloadProof} {state : PayloadState}
    (hproof : ((run step (init limits, []) l).1.proof now).2 = .ok proof)
    (hstate : proof.state = some state) :
    Established limits state (run step (init limits, []) (l ++ [.proof now])).2 := by
  have hinv : Inv limits (run step (init limits, []) l).1 (run step (init limits, []) l).2 :=
    run_invariant_all (I := fun w : PayloadMonitor × PayloadLog => Inv limits w.1 w.2)
      (fun _ op h => inv_step h op) l (inv_init limits)
  rw [run_append, run_cons, run_nil]
  exact (inv_proof hinv now).2 proof state hproof hstate

/-- Thresholds for a cup. -/
def cupLimits : PayloadLimits where
  gapMin := 1
  gapMax := 40
  openGap := 60
  effortMin := 5
  effortMax := 90
  emptyEffort := 2
  age := 1
  skew := 1 / 2
  dwell := 1
  cameraFrames := none
  gaps := by decide +kernel
  efforts := by decide +kernel
  times := by decide +kernel

/-- A grasp and two pairs, a second apart; the second is polled last. -/
def cupHeld : List PayloadOp :=
  [.expect .grasp "cup" none (.finite 0),
    .observeGrip ⟨some 1, .finite 1, .finite 20, .finite 30, true⟩ (.finite 1),
    .observeVision ⟨some 1, .finite 1, "cup", some .held, none, false, ""⟩ (.finite 1),
    .proof (.finite 1),
    .observeGrip ⟨some 2, .finite 2, .finite 20, .finite 30, true⟩ (.finite 2),
    .observeVision ⟨some 2, .finite 2, "cup", some .held, none, false, ""⟩ (.finite 2)]

theorem proof_established_grasp :
    Established cupLimits .held
      (run step (init cupLimits, []) (cupHeld ++ [.proof (.finite 2)])).2 :=
  @proof_established cupLimits cupHeld (.finite 2)
    ⟨some .held, 2, PayloadState.conditions (some .held)⟩ .held (by decide +kernel) rfl

end PayloadMonitor

end MobileBimanual.Tasks
