/-
# Runs of the mobile supervisor

The supervisor takes its operations in any order and at any readings of the clock.  What a run
keeps is `Guarded`: it stands still unless it is active, its target is within the configured
velocities, and it has a session and feedback as soon as it is ready.

An operation that leaves it active has just found everything in order: `Driving` at its reading
of the clock.  `observe`, `arm` and the two commands poll first and `observe` polls again behind
the feedback it took; a command checks the travel of the lift against its own velocities.
-/
import MobileBimanual.Lib.Machine
import MobileBimanual.Mobile.Supervisor
import Mathlib.Algebra.Order.Group.Unbundled.Abs

namespace MobileBimanual.Mobile

open MobileBimanual.Stream (Byte Tick)
open Machine

/-! ## 1. Operations -/

/-- An operation of the supervisor, with its arguments. -/
inductive SupervisorCall where
  | observe (feedback : MobileFeedback) (nowMs : Tick)
  | arm (session nowMs : Tick)
  | command (session sequence : Tick) (velocityRaw : Axis → Int) (nowMs : Tick)
  | commandUntil (session sequence : Tick) (velocityRaw : Axis → Int) (validUntilMs nowMs : Tick)
  | poll (nowMs : Tick)
  | stop

namespace SupervisorCall

/-- The operation is made at this reading.  `stop` takes none: it may be made at any. -/
def At : SupervisorCall → Tick → Prop
  | .observe _ nowMs, now => now = nowMs
  | .arm _ nowMs, now => now = nowMs
  | .command _ _ _ nowMs, now => now = nowMs
  | .commandUntil _ _ _ _ nowMs, now => now = nowMs
  | .poll nowMs, now => now = nowMs
  | .stop, _ => True

end SupervisorCall

namespace MobileSupervisor

def call (s : MobileSupervisor) : SupervisorCall → MobileSupervisor
  | .observe feedback nowMs => (s.observe feedback nowMs).1
  | .arm session nowMs => (s.arm session nowMs).1
  | .command session sequence velocityRaw nowMs => (s.command session sequence velocityRaw nowMs).1
  | .commandUntil session sequence velocityRaw validUntilMs nowMs =>
    (s.commandUntil session sequence velocityRaw validUntilMs nowMs).1
  | .poll nowMs => s.poll nowMs
  | .stop => s.stop

/-! ## 2. What an operation does -/

/-- The command in force runs out at the deadline that came with it. -/
def unexpired (s : MobileSupervisor) (nowMs : Tick) : Bool :=
  nowMs - s.commandMs < s.commandValidForMs

/-- All that an active supervisor has to find in order. -/
structure Driving (s : MobileSupervisor) (nowMs : Tick) : Prop where
  healthy : s.healthy nowMs = true
  inside : s.liftInside = true
  inward : s.liftOutward s.targetRaw = false
  unexpired : s.unexpired nowMs = true

variable {now : Tick}

/-- What holds of a supervisor that is ready or active; active, its command runs. -/
theorem poll_live {s : MobileSupervisor} (hconf : s.configured = true)
    (h : (s.poll now).state = .ready ∨ (s.poll now).state = .active) :
    s.poll now = s ∧ s.healthy now = true ∧ s.liftInside = true ∧
      s.liftOutward s.targetRaw = false ∧ (s.state = .active → s.unexpired now = true) := by
  unfold poll at h ⊢
  split_ifs at h ⊢ with hoff hhealth hlift htime
  · rcases h with h | h <;> simp [hconf, h] at hoff
  · simp [latch] at h
  · simp [latch] at h
  · simp [latch] at h
  · simp only [Bool.not_eq_true', Bool.not_eq_false] at hhealth
    simp only [Bool.or_eq_true, Bool.not_eq_true', not_or, Bool.not_eq_false,
      Bool.not_eq_true] at hlift
    refine ⟨rfl, hhealth, hlift.1, hlift.2, fun hactive => ?_⟩
    simpa [unexpired, hactive] using htime

theorem Driving.poll {s : MobileSupervisor} (hconf : s.configured = true)
    (h : (s.poll now).state = .active) : (s.poll now).Driving now := by
  obtain ⟨heq, hhealth, hinside, hinward, htime⟩ := poll_live hconf (Or.inr h)
  rw [heq] at h ⊢
  exact ⟨hhealth, hinside, hinward, htime h⟩

/-- **A command**: refused after a poll, or in force. -/
theorem command_cases (s : MobileSupervisor) (session sequence : Tick) (velocity : Axis → Int)
    (now : Tick) :
    s.command session sequence velocity now = (s.poll now, false) ∨
    ((s.poll now).configured = true ∧ session = (s.poll now).session ∧
      ((s.poll now).state = .ready ∨ (s.poll now).state = .active) ∧
      ((s.poll now).haveSequence = true → (s.poll now).sequence < sequence) ∧
      (∀ axis, -(s.poll now).config.maxVelocityRaw axis ≤ velocity axis ∧
        velocity axis ≤ (s.poll now).config.maxVelocityRaw axis) ∧
      (s.poll now).liftOutward velocity = false ∧
      s.command session sequence velocity now =
        ({ s.poll now with
            targetRaw := velocity
            sequence
            haveSequence := true
            commandMs := now
            commandValidForMs := (s.poll now).config.commandTimeoutMs
            state := .active }, true)) := by
  unfold command
  dsimp only
  split_ifs with hrefuse hrange hlift
  · exact Or.inl rfl
  · exact Or.inl rfl
  · exact Or.inl rfl
  · right
    simp only [Bool.or_eq_true, Bool.not_eq_true', Bool.and_eq_true, bne_iff_ne, ne_eq,
      decide_eq_true_eq, not_or, Bool.not_eq_false, not_and, not_not, BitVec.not_le] at hrefuse
    obtain ⟨⟨⟨hconf, hsession⟩, hstate⟩, hsequence⟩ := hrefuse
    simp only [Bool.not_eq_true', decide_eq_false_iff_not, not_not] at hrange
    refine ⟨hconf, hsession, ?_, hsequence, hrange, by simpa using hlift, rfl⟩
    exact or_iff_not_imp_left.mpr hstate

theorem poll_poll (s : MobileSupervisor) (now : Tick) : (s.poll now).poll now = s.poll now := by
  rcases s.poll_eq now with heq | ⟨reason, heq⟩
  · rw [heq, heq]
  · rw [heq]
    exact poll_of_latched rfl now

/-- **A command with a deadline**: refused after a poll, or a command whose life is cut. -/
theorem commandUntil_cases (s : MobileSupervisor) (session sequence : Tick)
    (velocity : Axis → Int) (validUntil now : Tick) :
    s.commandUntil session sequence velocity validUntil now = (s.poll now, false) ∨
    (validUntil - now ≠ 0 ∧ (s.command session sequence velocity now).2 = true ∧
      s.commandUntil session sequence velocity validUntil now =
        ({ (s.command session sequence velocity now).1 with
            commandValidForMs := validUntil - now }, true)) := by
  have hagain : (s.poll now).command session sequence velocity now =
      s.command session sequence velocity now := by
    unfold command
    rw [poll_poll]
  unfold commandUntil
  dsimp only
  rw [hagain]
  split_ifs with hrefuse
  · exact Or.inl rfl
  · simp only [Bool.or_eq_true, beq_iff_eq, not_or] at hrefuse
    rcases s.command_cases session sequence velocity now with
      h | ⟨-, -, -, -, -, -, h⟩ <;> rw [h]
    · exact Or.inl rfl
    · exact Or.inr ⟨hrefuse.1.2, rfl, rfl⟩

/-- **Arming**: refused after a poll, or ready under a greater session, from standstill. -/
theorem arm_cases (s : MobileSupervisor) (session now : Tick) :
    s.arm session now = (s.poll now, false) ∨
    (session ≠ 0 ∧ (s.poll now).session < session ∧
      ((s.poll now).state = .disabled ∨ (s.poll now).state = .stopLatched) ∧
      (s.poll now).measuredStopped now = true ∧
      s.arm session now =
        ({ s.poll now with
            session
            haveSequence := false
            state := .ready
            reason := .none
            targetRaw := fun _ => 0 }, true)) := by
  unfold arm
  dsimp only
  split_ifs with hrefuse
  · exact Or.inl rfl
  · right
    simp only [Bool.or_eq_true, beq_iff_eq, decide_eq_true_eq, Bool.and_eq_true, bne_iff_ne, ne_eq,
      Bool.not_eq_true', not_or, BitVec.not_le, not_and, not_not, Bool.not_eq_false] at hrefuse
    obtain ⟨⟨⟨hsession, hgreater⟩, hstate⟩, hstopped⟩ := hrefuse
    exact ⟨hsession, hgreater, or_iff_not_imp_left.mpr hstate, hstopped, rfl⟩

/-- **Feedback**: refused out of hand, refused after a poll, or taken between two polls. -/
theorem observe_cases (s : MobileSupervisor) (feedback : MobileFeedback) (now : Tick) :
    (s.configured = false ∧ s.observe feedback now = (s, false)) ∨
    s.observe feedback now = (s.poll now, false) ∨
    s.observe feedback now =
      (({ s.poll now with feedback, haveFeedback := true } : MobileSupervisor).poll now, true) := by
  unfold observe
  dsimp only
  split_ifs with hconf
  · exact Or.inl ⟨by simpa using hconf, rfl⟩
  · exact Or.inr (Or.inl rfl)
  · exact Or.inr (Or.inl rfl)
  · exact Or.inr (Or.inl rfl)
  · exact Or.inr (Or.inr rfl)

/-! ## 3. What a run keeps -/

structure Guarded (config : MobileConfig) (s : MobileSupervisor) : Prop where
  config_eq : s.configured = true → s.config = config
  accepted : s.configured = true → configOk config = true
  unconfigured : s.configured = false → s.state = .disabled
  rests : s.Rests
  bounded : s.state = .active → ∀ axis, -config.maxVelocityRaw axis ≤ s.targetRaw axis ∧
    s.targetRaw axis ≤ config.maxVelocityRaw axis

namespace Guarded

variable {config : MobileConfig} {s : MobileSupervisor}

theorem configured_of_live (h : Guarded config s) (hlive : s.state ≠ .disabled) :
    s.configured = true := by
  by_contra hoff
  exact hlive (h.unconfigured (by simpa using hoff))

theorem init (config : MobileConfig) : Guarded config (MobileSupervisor.init config).1 := by
  have hrests := Rests.init config
  unfold MobileSupervisor.init at hrests ⊢
  split at hrests
  · rename_i hok
    rw [if_pos hok]
    exact ⟨fun _ => rfl, fun _ => hok, nofun, hrests, nofun⟩
  · rename_i hok
    rw [if_neg hok]
    exact ⟨nofun, nofun, fun _ => rfl, hrests, nofun⟩

/-- A latched supervisor stands still. -/
theorem latch (h : Guarded config s) (hconf : s.configured = true) (reason : MobileReason) :
    Guarded config (s.latch reason) where
  config_eq := h.config_eq
  accepted := h.accepted
  unconfigured hoff := by
    rw [MobileSupervisor.latch] at hoff
    rw [hconf] at hoff
    cases hoff
  rests := s.rests_latch reason
  bounded := nofun

theorem poll (h : Guarded config s) (now : Tick) : Guarded config (s.poll now) := by
  cases hconf : s.configured
  · have hskip : s.poll now = s := by simp [MobileSupervisor.poll, hconf]
    rw [hskip]
    exact h
  · rcases s.poll_eq now with heq | ⟨reason, heq⟩ <;> rw [heq]
    · exact h
    · exact h.latch hconf reason

theorem stop (h : Guarded config s) : Guarded config s.stop := by
  unfold MobileSupervisor.stop
  split
  · rename_i hconf
    exact h.latch hconf _
  · exact h

theorem observe (h : Guarded config s) (feedback : MobileFeedback) (now : Tick) :
    Guarded config (s.observe feedback now).1 := by
  rcases s.observe_cases feedback now with ⟨-, heq⟩ | heq | heq <;> rw [heq]
  · exact h
  · exact h.poll now
  · have hpolled := h.poll now
    have htaken : Guarded config { s.poll now with feedback, haveFeedback := true } :=
      ⟨hpolled.config_eq, hpolled.accepted, hpolled.unconfigured, hpolled.rests, hpolled.bounded⟩
    exact htaken.poll now

theorem arm (h : Guarded config s) (session now : Tick) :
    Guarded config (s.arm session now).1 := by
  have hpolled := h.poll now
  rcases s.arm_cases session now with heq | ⟨-, -, -, hstopped, heq⟩ <;> rw [heq]
  · exact hpolled
  · have hconf : (s.poll now).configured = true := by
      rw [measuredStopped] at hstopped
      simp only [Bool.and_eq_true] at hstopped
      exact hstopped.1.1.1
    exact ⟨hpolled.config_eq, hpolled.accepted, fun hoff => absurd (hconf.symm.trans hoff) (by decide),
      fun _ _ => rfl, nofun⟩

theorem command (h : Guarded config s) (session sequence : Tick) (velocity : Axis → Int)
    (now : Tick) : Guarded config (s.command session sequence velocity now).1 := by
  have hpolled := h.poll now
  rcases s.command_cases session sequence velocity now with
    heq | ⟨hconf, -, -, -, hrange, -, heq⟩ <;> rw [heq]
  · exact hpolled
  · rw [hpolled.config_eq hconf] at hrange
    exact ⟨hpolled.config_eq, hpolled.accepted, fun hoff => absurd (hconf.symm.trans hoff) (by decide),
      fun hidle => absurd rfl hidle, fun _ => hrange⟩

theorem commandUntil (h : Guarded config s) (session sequence : Tick) (velocity : Axis → Int)
    (validUntil now : Tick) :
    Guarded config (s.commandUntil session sequence velocity validUntil now).1 := by
  rcases s.commandUntil_cases session sequence velocity validUntil now with
    heq | ⟨-, -, heq⟩ <;> rw [heq]
  · exact h.poll now
  · have hcommand := h.command session sequence velocity now
    exact ⟨hcommand.config_eq, hcommand.accepted, hcommand.unconfigured, hcommand.rests,
      hcommand.bounded⟩

theorem call (h : Guarded config s) (c : SupervisorCall) : Guarded config (s.call c) := by
  cases c with
  | observe feedback now => exact h.observe feedback now
  | arm session now => exact h.arm session now
  | command session sequence velocity now => exact h.command session sequence velocity now
  | commandUntil session sequence velocity validUntil now =>
    exact h.commandUntil session sequence velocity validUntil now
  | poll now => exact h.poll now
  | stop => exact h.stop

theorem run (config : MobileConfig) (calls : List SupervisorCall) :
    Guarded config (Machine.run MobileSupervisor.call (MobileSupervisor.init config).1 calls) :=
  run_invariant_all (fun _ c h => h.call c) calls (Guarded.init config)

/-! ## 4. Active, and out of the latch -/

theorem driving_command (h : Guarded config s) {session sequence : Tick} {velocity : Axis → Int}
    (hok : (s.command session sequence velocity now).2 = true) :
    (s.command session sequence velocity now).1.Driving now := by
  rcases s.command_cases session sequence velocity now with
    heq | ⟨hconf, -, hstate, -, -, hinward, heq⟩ <;> rw [heq] at hok ⊢
  · cases hok
  have hpolled := h.poll now
  have hlive := s.poll_poll now ▸ hstate
  obtain ⟨-, hhealth, hinside, -, -⟩ := poll_live hconf hlive
  refine ⟨hhealth, hinside, hinward, ?_⟩
  have htimeout := hpolled.accepted hconf
  rw [← hpolled.config_eq hconf] at htimeout
  simp only [configOk, Bool.and_eq_true, bne_iff_ne, ne_eq] at htimeout
  have hpos := htimeout.1.1.1.1.1.1.1
  simp only [unexpired, BitVec.sub_self, decide_eq_true_eq]
  exact (BitVec.pos_iff_ne_zero _).mpr hpos

/-- **An operation that leaves the supervisor active has found everything in order.** -/
theorem driving_call (h : Guarded config s) {c : SupervisorCall} (hat : c.At now)
    (hactive : (s.call c).state = .active) : (s.call c).Driving now := by
  have hconf := (h.call c).configured_of_live (by rw [hactive]; decide)
  have hpolled (hactive : (s.poll now).state = .active) : (s.poll now).Driving now := by
    refine Driving.poll ?_ hactive
    have hon := (h.poll now).configured_of_live (by rw [hactive]; decide)
    rcases s.poll_eq now with heq | ⟨reason, heq⟩ <;> rw [heq] at hon
    · exact hon
    · exact hon
  cases c with
  | observe feedback nowMs =>
    obtain rfl : now = nowMs := hat
    simp only [MobileSupervisor.call] at hactive hconf ⊢
    rcases s.observe_cases feedback now with ⟨hoff, heq⟩ | heq | heq <;>
      rw [heq] at hactive hconf ⊢
    · exact absurd (hconf.symm.trans hoff) (by decide)
    · exact hpolled hactive
    · refine Driving.poll ?_ hactive
      rcases MobileSupervisor.poll_eq _ now with hsame | ⟨reason, hsame⟩ <;> rw [hsame] at hconf
      · exact hconf
      · exact hconf
  | arm session nowMs =>
    obtain rfl : now = nowMs := hat
    simp only [MobileSupervisor.call] at hactive ⊢
    rcases s.arm_cases session now with heq | ⟨-, -, -, -, heq⟩ <;> rw [heq] at hactive ⊢
    · exact hpolled hactive
    · cases hactive
  | command session sequence velocity nowMs =>
    obtain rfl : now = nowMs := hat
    simp only [MobileSupervisor.call] at hactive ⊢
    rcases s.command_cases session sequence velocity now with
      heq | ⟨-, -, -, -, -, -, heq⟩
    · rw [heq] at hactive ⊢
      exact hpolled hactive
    · exact h.driving_command (by rw [heq])
  | commandUntil session sequence velocity validUntil nowMs =>
    obtain rfl : now = nowMs := hat
    simp only [MobileSupervisor.call] at hactive ⊢
    rcases s.commandUntil_cases session sequence velocity validUntil now with
      heq | ⟨hlife, hok, heq⟩ <;> rw [heq] at hactive ⊢
    · exact hpolled hactive
    · obtain ⟨hhealth, hinside, hinward, -⟩ := h.driving_command hok
      refine ⟨hhealth, hinside, hinward, ?_⟩
      rcases s.command_cases session sequence velocity now with
        heq | ⟨-, -, -, -, -, -, heq⟩ <;> rw [heq] at hok ⊢
      · cases hok
      · simp only [unexpired, BitVec.sub_self, decide_eq_true_eq]
        exact (BitVec.pos_iff_ne_zero _).mpr hlife
  | poll nowMs =>
    obtain rfl : now = nowMs := hat
    exact hpolled hactive
  | stop =>
    simp only [MobileSupervisor.call, MobileSupervisor.stop] at hactive hconf
    split at hactive
    · cases hactive
    · rename_i hoff
      rw [if_neg hoff] at hconf
      exact absurd hconf hoff

end Guarded

/-- **The latch is left by an arm request alone.** -/
theorem leaves_latch {s : MobileSupervisor} {c : SupervisorCall} (h : s.state = .stopLatched)
    (hleft : (s.call c).state ≠ .stopLatched) :
    ∃ session nowMs, c = .arm session nowMs ∧ s.session < session ∧
      s.measuredStopped nowMs = true := by
  have hpoll (now : Tick) : s.poll now = s := poll_of_latched h now
  have hrefused {session sequence : Tick} {velocity : Axis → Int} {now : Tick} :
      s.command session sequence velocity now = (s, false) := by
    rcases s.command_cases session sequence velocity now with
      heq | ⟨-, -, hstate, -⟩
    · rw [heq, hpoll]
    · rw [hpoll, h] at hstate
      rcases hstate with hstate | hstate <;> cases hstate
  cases c with
  | observe feedback now =>
    refine absurd ?_ hleft
    simp only [call]
    rcases s.observe_cases feedback now with ⟨-, heq⟩ | heq | heq <;> rw [heq]
    · exact h
    · rw [hpoll]
      exact h
    · rw [hpoll]
      exact (congrArg MobileSupervisor.state (poll_of_latched (s := { s with
        feedback, haveFeedback := true }) h now)).trans h
  | arm session now =>
    simp only [call] at hleft
    rcases s.arm_cases session now with heq | ⟨-, hgreater, -, hstopped, -⟩
    · rw [heq, hpoll] at hleft
      exact absurd h hleft
    · rw [hpoll] at hgreater hstopped
      exact ⟨session, now, rfl, hgreater, hstopped⟩
  | command session sequence velocity now =>
    simp only [call, hrefused] at hleft
    exact absurd h hleft
  | commandUntil session sequence velocity validUntil now =>
    simp only [call] at hleft
    rcases s.commandUntil_cases session sequence velocity validUntil now with
      heq | ⟨-, hok, -⟩
    · rw [heq, hpoll] at hleft
      exact absurd h hleft
    · rw [hrefused] at hok
      cases hok
  | poll now =>
    simp only [call, hpoll] at hleft
    exact absurd h hleft
  | stop =>
    simp only [call, stop] at hleft
    split at hleft
    · exact absurd rfl hleft
    · exact absurd h hleft

/-- **The supervisor is safe in every run.**  It moves only while active and within the configured
velocities; an operation that leaves it active has found, at its reading of the clock, fresh and
healthy feedback, the lift inside its travel and not driven past its ends, and an unexpired
command; and only an arm request with a greater session, at measured standstill, ends a stop. -/
theorem supervisor_safe (config : MobileConfig) (calls : List SupervisorCall) :
    let s := Machine.run call (init config).1 calls
    (∀ axis, s.targetRaw axis ≠ 0 →
      s.state = .active ∧ |s.targetRaw axis| ≤ config.maxVelocityRaw axis) ∧
    (∀ c now, c.At now → (s.call c).state = .active →
      (s.call c).healthy now = true ∧ (s.call c).liftInside = true ∧
        (s.call c).liftOutward (s.call c).targetRaw = false ∧
        now - (s.call c).commandMs < (s.call c).commandValidForMs) ∧
    (∀ c, s.state = .stopLatched → (s.call c).state ≠ .stopLatched →
      ∃ session nowMs, c = .arm session nowMs ∧ s.session < session ∧
        s.measuredStopped nowMs = true) := by
  intro s
  have h : Guarded config s := Guarded.run config calls
  refine ⟨fun axis hmoves => ?_, fun c now hat hactive => ?_, fun c => leaves_latch⟩
  · have hactive : s.state = .active := by
      by_contra hidle
      exact hmoves (h.rests hidle axis)
    exact ⟨hactive, abs_le.mpr (h.bounded hactive axis)⟩
  · obtain ⟨hhealth, hinside, hinward, htime⟩ := h.driving_call hat hactive
    exact ⟨hhealth, hinside, hinward, by simpa [unexpired] using htime⟩

end MobileSupervisor

end MobileBimanual.Mobile
