/-
# No goal after a stop latch

What a stop latch promises: once it is set, no goal packet goes out until the latch has been
cleared, the arms have been armed and enabled again, and a stream has been opened and started
after that.  The promise is a monitor (`recoveryMonitor`) over the log of what the firmware did.

The stop is spread over many flags, and each stop path of the source sets a different few of
them.  What matters to the promise is little: the latch itself, whether the stream clock still
runs over a dispatcher that launches (`exposed`), and whether the arms count as powered, because
the service loop faults the dispatcher of a latched host with powered arms.  Accordingly there
are two invariants:

* `Watched` ties the monitor to the state, and every part of the code keeps it that is not a
  step of the recovery itself (`Effect`);
* `Contained` is the state in which the service loop still catches an exposed stream.  The
  code does not keep it everywhere: `StopsCleanly` is what each event needs for it.
-/
import MobileBimanual.Firmware.HostService
import MobileBimanual.Lib.Monitor

namespace MobileBimanual.Firmware

open MobileBimanual.Stream

/-! ## 1. The promise -/

/-- How far the host has come back from its last stop. -/
inductive Recovery where
  | running
  | stopped
  | cleared
  | armed
  | enabled
  | opened
  deriving DecidableEq

/-- A stop throws the recovery back from wherever it is; everything else takes it one step on, in
order; a goal packet needs all of it. -/
def recoveryMonitor : Monitor Recovery HostAction where
  next recovery action :=
    match action, recovery with
    | .stopLatched, _ => .stopped
    | .latchCleared, .stopped => .cleared
    | .armed, .cleared => .armed
    | .enabled, .armed => .enabled
    | .streamOpened, .enabled => .opened
    | .streamStarted, .opened => .running
    | _, recovery => recovery
  admits recovery action := action = .goalLaunched → recovery = .running

instance decidableAdmits (recovery : Recovery) (action : HostAction) :
    Decidable (recoveryMonitor.admits recovery action) :=
  inferInstanceAs (Decidable (action = .goalLaunched → recovery = .running))

def recovery (host : HostControl) : Recovery := recoveryMonitor.state .running host.actions

/-- Every goal packet of the log went out in a recovered host. -/
def NoGoalAfterStop (host : HostControl) : Prop :=
  recoveryMonitor.Accepts .running host.actions

instance decidableNoGoalAfterStop (host : HostControl) : Decidable (NoGoalAfterStop host) :=
  inferInstanceAs (Decidable (recoveryMonitor.Accepts .running host.actions))

/-! ## 2. What the stop depends on -/

/-- The stream clock runs over a dispatcher that still launches. -/
def exposed (host : HostControl) : Bool := host.executorClockActive && !host.dispatch.faulted

theorem exposed_iff (host : HostControl) :
    exposed host = true ↔ host.executorClockActive = true ∧ host.dispatch.faulted = false := by
  simp [exposed]

/-- The torque writes of a stop, and the latch itself. -/
def StopAction (action : HostAction) : Prop :=
  action = .stopLatched ∨ ∃ write, action = .torque write

theorem torque_ignored (writes : List TorqueWrite) :
    recoveryMonitor.Ignores (writes.map .torque) := by
  intro action h recovery
  obtain ⟨write, -, rfl⟩ := List.mem_map.1 h
  exact ⟨by cases recovery <;> rfl, fun h => nomatch h⟩

variable {actions : List HostAction}

theorem stopActions_accepted (recovery : Recovery) (h : ∀ action ∈ actions, StopAction action) :
    recoveryMonitor.Accepts recovery actions := by
  induction actions generalizing recovery with
  | nil => trivial
  | cons action actions ih =>
    refine ⟨?_, ih _ fun a ha => h a (List.mem_cons_of_mem action ha)⟩
    rcases h action List.mem_cons_self with rfl | ⟨write, rfl⟩
    · intro h
      cases h
    · intro h
      cases h

/-- A stopped host stays stopped under further stops. -/
theorem stopActions_stopped (h : ∀ action ∈ actions, StopAction action) :
    recoveryMonitor.state .stopped actions = .stopped := by
  induction actions with
  | nil => rfl
  | cons action actions ih =>
    have hfirst : recoveryMonitor.next .stopped action = .stopped := by
      rcases h action List.mem_cons_self with rfl | ⟨write, rfl⟩
      · rfl
      · rfl
    rw [Monitor.state_cons, hfirst]
    exact ih fun a ha => h a (List.mem_cons_of_mem action ha)

/-- Nothing that a stop depends on got worse, and nothing but torque was noted. -/
structure Calm (host host' : HostControl) : Prop where
  actions : ∃ writes : List TorqueWrite, host'.actions = host.actions ++ writes.map .torque
  latch : host'.stopLatched = host.stopLatched
  exposure : exposed host' = true → exposed host = true
  arming : host'.safety.state = .armed → host.safety.state = .armed
  activity : host'.safety.state = .active → host.safety.state = .active
  priming : host'.streamExecutor.diagnostics.state = .priming →
    host.streamExecutor.diagnostics.state = .priming
  pending : exposed host' = true → host.executorStartPending = true →
    host'.executorStartPending = true

theorem Calm.refl (host : HostControl) : Calm host host :=
  ⟨⟨[], by simp⟩, rfl, id, id, id, id, fun _ h => h⟩

theorem Calm.trans {a b c : HostControl} (h : Calm a b) (h' : Calm b c) : Calm a c where
  actions := by
    obtain ⟨writes, hactions⟩ := h.actions
    obtain ⟨writes', hactions'⟩ := h'.actions
    exact ⟨writes ++ writes', by rw [hactions', hactions, List.map_append, List.append_assoc]⟩
  latch := h'.latch.trans h.latch
  exposure := fun he => h.exposure (h'.exposure he)
  arming := fun hs => h.arming (h'.arming hs)
  activity := fun hs => h.activity (h'.activity hs)
  priming := fun hs => h.priming (h'.priming hs)
  pending := fun he hp => h'.pending he (h.pending (h'.exposure he) hp)

/-- **What code that is no step of the recovery can do**: either nothing that counts got worse,
or the stop was latched. -/
inductive Effect (host host' : HostControl) : Prop
  | calm (calm : Calm host host') : Effect host host'
  | latched (before after : List HostAction)
      (actions : host'.actions = host.actions ++ (before ++ .stopLatched :: after))
      (stops : ∀ action ∈ before ++ .stopLatched :: after, StopAction action)
      (latch : host'.stopLatched = true)
      (exposure : exposed host' = true → exposed host = true) : Effect host host'

theorem Effect.refl (host : HostControl) : Effect host host := .calm (.refl host)

theorem Effect.exposure {host host' : HostControl} (h : Effect host host') :
    exposed host' = true → exposed host = true := by
  cases h with
  | calm calm => exact calm.exposure
  | latched before after hactions hstops hlatch hexposure => exact hexposure

theorem stopAction_torque {writes : List TorqueWrite} {action : HostAction}
    (h : action ∈ writes.map HostAction.torque) : StopAction action := by
  obtain ⟨write, -, rfl⟩ := List.mem_map.1 h
  exact Or.inr ⟨write, rfl⟩

theorem Effect.trans {a b c : HostControl} (h : Effect a b) (h' : Effect b c) : Effect a c := by
  cases h with
  | calm calm =>
    cases h' with
    | calm calm' => exact .calm (calm.trans calm')
    | latched before after hactions' hstops hlatch' hexposure' =>
      obtain ⟨writes, hactions⟩ := calm.actions
      refine .latched (writes.map .torque ++ before) after ?_ ?_ hlatch'
        fun he => calm.exposure (hexposure' he)
      · rw [hactions', hactions]
        simp
      · intro action haction
        rw [List.append_assoc, List.mem_append] at haction
        rcases haction with haction | haction
        · exact stopAction_torque haction
        · exact hstops action haction
  | latched before after hactions hstops hlatch hexposure =>
    cases h' with
    | calm calm' =>
      obtain ⟨writes, hactions'⟩ := calm'.actions
      refine .latched before (after ++ writes.map .torque) ?_ ?_ (calm'.latch.trans hlatch)
        fun he => hexposure (calm'.exposure he)
      · rw [hactions', hactions]
        simp
      · intro action haction
        have hsplit : action ∈ before ++ .stopLatched :: after ∨
            action ∈ writes.map HostAction.torque := by
          simpa [or_assoc] using haction
        rcases hsplit with h | h
        · exact hstops action h
        · exact stopAction_torque h
    | latched before' after' hactions' hstops' hlatch' hexposure' =>
      refine .latched before (after ++ (before' ++ .stopLatched :: after')) ?_ ?_ hlatch'
        fun he => hexposure (hexposure' he)
      · rw [hactions', hactions]
        simp
      · intro action haction
        have hsplit : action ∈ before ++ .stopLatched :: after ∨
            action ∈ before' ++ .stopLatched :: after' := by
          simpa [or_assoc] using haction
        rcases hsplit with h | h
        · exact hstops action h
        · exact hstops' action h

/-! ## 3. The first invariant -/

/-- What the state of a host shows of each stage of its recovery. -/
def StageShows (host : HostControl) : Recovery → Prop
  | .running => host.stopLatched = false
  | .stopped => host.stopLatched = true
  | .cleared =>
    host.stopLatched = false ∧ exposed host = false ∧ host.safety.state ≠ .armed ∧
      host.safety.state ≠ .active
  | .armed => host.stopLatched = false ∧ exposed host = false ∧ host.safety.state ≠ .active
  | .enabled =>
    host.stopLatched = false ∧ exposed host = false ∧
      host.streamExecutor.diagnostics.state ≠ .priming
  | .opened =>
    host.stopLatched = false ∧ (exposed host = true → host.executorStartPending = true)

structure Watched (host : HostControl) : Prop where
  promise : NoGoalAfterStop host
  shows_ : StageShows host (recovery host)

/-- A latched host is one that has not been cleared. -/
theorem Watched.latched_iff {host : HostControl} (h : Watched host) :
    host.stopLatched = true ↔ recovery host = .stopped := by
  have hshows := h.shows_
  revert hshows
  cases recovery host <;> simp +contextual [StageShows]

/-- **The first invariant survives everything that is no step of the recovery.** -/
theorem Watched.effect {host host' : HostControl} (h : Watched host) (effect : Effect host host') :
    Watched host' := by
  cases effect with
  | calm calm =>
    obtain ⟨writes, hactions⟩ := calm.actions
    have hignored := torque_ignored writes
    have hrecovery : recovery host' = recovery host := by
      rw [recovery, hactions, Monitor.state_append, hignored.state_eq]
      rfl
    have hunexposed : exposed host = false → exposed host' = false := by
      intro hfalse
      by_contra hne
      rw [Bool.not_eq_false] at hne
      rw [calm.exposure hne] at hfalse
      cases hfalse
    constructor
    · rw [NoGoalAfterStop, hactions, Monitor.accepts_append]
      exact ⟨h.promise, hignored.accepts _⟩
    · have hshows := h.shows_
      rw [hrecovery]
      revert hshows
      cases recovery host with
      | running => exact fun hs => calm.latch.trans hs
      | stopped => exact fun hs => calm.latch.trans hs
      | cleared =>
        rintro ⟨hl, he, harmed, hactive⟩
        exact ⟨calm.latch.trans hl, hunexposed he, fun hs => harmed (calm.arming hs),
          fun hs => hactive (calm.activity hs)⟩
      | armed =>
        rintro ⟨hl, he, hactive⟩
        exact ⟨calm.latch.trans hl, hunexposed he, fun hs => hactive (calm.activity hs)⟩
      | enabled =>
        rintro ⟨hl, he, hprime⟩
        exact ⟨calm.latch.trans hl, hunexposed he, fun hs => hprime (calm.priming hs)⟩
      | opened =>
        rintro ⟨hl, hp⟩
        exact ⟨calm.latch.trans hl, fun he => calm.pending he (hp (calm.exposure he))⟩
  | latched before after hactions hstops hlatch _ =>
    have hafter : recovery host' = .stopped := by
      have hrest : ∀ action ∈ after, StopAction action := fun a ha =>
        hstops a (List.mem_append_right before (List.mem_cons_of_mem _ ha))
      rw [recovery, hactions, Monitor.state_append, Monitor.state_append, Monitor.state_cons]
      exact stopActions_stopped hrest
    constructor
    · rw [NoGoalAfterStop, hactions, Monitor.accepts_append]
      exact ⟨h.promise, stopActions_accepted _ hstops⟩
    · rw [hafter]
      exact hlatch

theorem Watched.calm {host host' : HostControl} (h : Watched host) (calm : Calm host host') :
    Watched host' := h.effect (.calm calm)

end MobileBimanual.Firmware
