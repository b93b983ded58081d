/-
# The lease of the lift

Over every run of the endpoint the requests that it takes come in strictly increasing session and
sequence, so no packet is taken twice; and an owner that a poll leaves in place was granted its
time by the last of them, is within it, and has the interlocks closed (`lift_leased`).
-/
import MobileBimanual.Lib.Ratchet
import MobileBimanual.Mobile.LiftRecovery

namespace MobileBimanual.Mobile

open MobileBimanual.Stream (Tick)
open Machine

/-- Session, sequence and end of the lease that a request asks for. -/
def LiftRequest.lease (request : LiftRequest) : Tick × Tick × Tick :=
  (request.session, request.sequence, request.deadlineMs)

namespace LiftEndpoint

variable {e : LiftEndpoint}

/-! ## 1. What is taken -/

/-- The request of a packet that the endpoint takes; STATUS asks for nothing. -/
def taken (e : LiftEndpoint) : LiftEndpointEvent → Option LiftRequest
  | .endpoint (.exchange packet nowMs) =>
    (parse packet).filter fun request =>
      request.op ≠ .status && ((e.poll nowMs).answer request nowMs).2
  | _ => none

/-- The owner, its sequence, and how long the lift is its own. -/
def lease (e : LiftEndpoint) : Tick × Tick × Tick := (e.session, e.sequence, e.validUntilMs)

def rank (lease : Tick × Tick × Tick) : ℕ ×ₗ ℕ := toLex (lease.1.toNat, lease.2.1.toNat)

theorem rank_lt {a b c d : Tick} (h : a < c ∨ a = c ∧ b < d) (u v : Tick) :
    rank (a, b, u) < rank (c, d, v) :=
  Prod.Lex.toLex_lt_toLex.mpr
    (h.imp BitVec.lt_def.mp (And.imp (congrArg BitVec.toNat) BitVec.lt_def.mp))

/-- Nothing is taken. -/
structure Rests (e e' : LiftEndpoint) : Prop where
  lease : e'.lease = e.lease
  active : e'.active = true → e.active = true

/-- The request gets the lease, which is newer than the one before. -/
structure Takes (e e' : LiftEndpoint) (request : LiftRequest) : Prop where
  lease : e'.lease = request.lease
  newer : rank e.lease < rank request.lease

theorem rests_poll (e : LiftEndpoint) (now : Tick) : Rests e (e.poll now) := by
  unfold poll
  dsimp only
  split_ifs
  · exact ⟨rfl, id⟩
  · exact ⟨rfl, nofun⟩
  · exact ⟨rfl, nofun⟩
  · exact ⟨rfl, id⟩

/-- **A request is taken, or it changes nothing of the lease.** -/
theorem answer_takes (e : LiftEndpoint) (request : LiftRequest) (now : Tick) :
    Rests e (e.answer request now).1 ∧
        (request.op = .status ∨ (e.answer request now).2 = false) ∨
      Takes e (e.answer request now).1 request ∧
        request.op ≠ .status ∧ (e.answer request now).2 = true := by
  unfold answer
  split_ifs with haddressed hstatus hleased hgo hrefuse
  · exact Or.inl ⟨⟨rfl, id⟩, Or.inr rfl⟩
  · exact Or.inl ⟨⟨rfl, id⟩, Or.inl hstatus⟩
  · exact Or.inl ⟨⟨rfl, id⟩, Or.inr rfl⟩
  · exact Or.inl ⟨⟨rfl, id⟩, Or.inr rfl⟩
  · simp only [advances, Bool.or_eq_true, Bool.and_eq_true, beq_iff_eq, decide_eq_true_eq,
      not_or, Bool.not_eq_true', Bool.not_eq_false] at hrefuse
    have hnewer := rank_lt (hrefuse.2.symm.imp_right (And.imp_left Eq.symm)) e.validUntilMs
      request.deadlineMs
    unfold engage
    revert hstatus
    cases request.op <;> intro hstatus <;> dsimp only <;> split
    all_goals first
      | exact Or.inr ⟨⟨rfl, hnewer⟩, hstatus, rfl⟩
      | exact Or.inl ⟨⟨rfl, id⟩, Or.inr rfl⟩
  · unfold attend
    split
    · exact Or.inl ⟨⟨rfl, id⟩, Or.inr rfl⟩
    · rename_i hpermit
      simp only [Bool.or_eq_true, bne_iff_ne, ne_eq, decide_eq_true_eq, Bool.not_eq_true', not_or,
        not_not, BitVec.not_le] at hpermit
      have hnewer := rank_lt (Or.inr ⟨hpermit.1.1.symm, hpermit.1.2⟩) e.validUntilMs
        request.deadlineMs
      refine Or.inr ⟨⟨?_, hnewer⟩, hstatus, rfl⟩
      cases request.op <;> simp [lease, LiftRequest.lease, stop, hpermit.1.1]

/-- **An event takes a request, or changes nothing of the lease.** -/
theorem step_takes (e : LiftEndpoint) (event : LiftEndpointEvent) :
    taken e event = none ∧ Rests e (e.step event) ∨
      ∃ request, taken e event = some request ∧ Takes e (e.step event) request := by
  cases event with
  | endpoint action =>
    cases action with
    | poll now => exact Or.inl ⟨rfl, rests_poll e now⟩
    | exchange packet now =>
      have hcount : ∀ (e : LiftEndpoint) (ok : Bool), (e.countRejected ok).lease = e.lease ∧
          (e.countRejected ok).active = e.active := by
        intro e ok
        unfold countRejected
        split <;> exact ⟨rfl, rfl⟩
      have hpoll := rests_poll e now
      simp only [taken, step, act, exchange]
      cases parse packet with
      | none => exact Or.inl ⟨rfl, rfl, id⟩
      | some request =>
        dsimp only
        rcases (e.poll now).answer_takes request now with ⟨hrests, hno⟩ | ⟨htakes, hop, hok⟩
        · refine Or.inl ⟨?_, (hcount _ _).1.trans (hrests.lease.trans hpoll.lease), fun hactive => ?_⟩
          · rcases hno with hno | hno <;> simp [hno]
          · exact hpoll.active (hrests.active ((hcount _ _).2 ▸ hactive))
        · refine Or.inr ⟨request, by simp [hop, hok], (hcount _ _).1.trans htakes.lease, ?_⟩
          rw [← hpoll.lease]
          exact htakes.newer
    | stop => exact Or.inl ⟨rfl, rfl, fun h => by cases h⟩
    | interlock => exact Or.inl ⟨rfl, rfl, id⟩
  | _ => exact Or.inl ⟨rfl, rfl, id⟩

/-! ## 2. Runs -/

theorem ratchet : Ratchet.Holds step taken (fun e => rank e.lease) (fun r => rank r.lease) := by
  refine ⟨fun e event => ?_, fun e event request htaken => ?_, fun e event request htaken => ?_⟩
  · rcases e.step_takes event with ⟨-, hrests⟩ | ⟨request, -, htakes⟩
    · exact (congrArg rank hrests.lease).ge
    · exact htakes.lease ▸ htakes.newer.le
  · rcases e.step_takes event with ⟨hnone, -⟩ | ⟨request', hsome, htakes⟩
    · cases hnone.symm.trans htaken
    · cases hsome.symm.trans htaken
      exact htakes.newer
  · rcases e.step_takes event with ⟨hnone, -⟩ | ⟨request', hsome, htakes⟩
    · cases hnone.symm.trans htaken
    · cases hsome.symm.trans htaken
      exact (congrArg rank htakes.lease).ge

/-- An owner has the lease of the last request that was taken. -/
def Granted (e : LiftEndpoint) (log : List LiftRequest) : Prop :=
  e.active = true → ∃ request, log.getLast? = some request ∧ e.lease = request.lease

theorem granted_run (hinactive : e.active = false) (events : List LiftEndpointEvent) :
    Granted (run step e events) (Ratchet.log step taken e events) := by
  refine Ratchet.log_keeps (J := fun _ => True) (fun _ _ _ => trivial) ?_ events e [] trivial
    fun hactive => absurd (hinactive.symm.trans hactive) nofun
  intro e event back _ hgranted
  rcases e.step_takes event with ⟨hnone, hrests⟩ | ⟨request, hsome, htakes⟩
  · intro hactive
    rw [hnone, hrests.lease]
    simpa using hgranted (hrests.active hactive)
  · exact fun _ => ⟨request, by simp [hsome], htakes.lease⟩

/-- What an owner has in force. -/
structure InForce (e : LiftEndpoint) (log : List LiftRequest) (now : Tick) : Prop where
  granted : ∃ request, log.getLast? = some request ∧ e.lease = request.lease
  inTime : e.validUntilMs - now ≠ 0 ∧ e.validUntilMs - now ≤ e.leaseMaxMs
  interlocked : e.interlocked now = true

theorem inTime_of_poll (now : Tick) (hactive : (e.poll now).active = true) :
    ((e.poll now).validUntilMs - now ≠ 0 ∧
      (e.poll now).validUntilMs - now ≤ (e.poll now).leaseMaxMs) ∧
    (e.poll now).interlocked now = true := by
  have hbefore := (rests_poll e now).active hactive
  unfold poll at hactive ⊢
  simp only [hbefore, Bool.not_true, Bool.false_eq_true, if_false] at hactive ⊢
  split_ifs at hactive ⊢ with hlapsed hended
  simpa [BitVec.not_lt, and_assoc] using hlapsed

/-- **The lift is leased.** -/
theorem lift_leased {config : LiftConfig} {bootId leaseMaxMs : Tick} {initial : LiftEndpoint}
    (hinit : init (Lift.init config).1 bootId leaseMaxMs = some initial)
    (events : List LiftEndpointEvent) :
    let log := Ratchet.log step taken initial events
    (log.Pairwise fun a b => rank a.lease < rank b.lease) ∧
      ∀ now, ((run step initial events).poll now).active = true →
        InForce ((run step initial events).poll now) log now := by
  have hinactive : initial.active = false := by
    unfold init at hinit
    split at hinit <;> cases hinit
    rfl
  refine ⟨ratchet.pairwise_log events initial, fun now hactive => ?_⟩
  obtain ⟨hinTime, hinterlocked⟩ := inTime_of_poll now hactive
  have hrests := rests_poll (run step initial events) now
  refine ⟨?_, hinTime, hinterlocked⟩
  rw [hrests.lease]
  exact granted_run hinactive events (hrests.active hactive)

theorem lift_leased_bench :
    let events := Bench.faultedRun.take 3
    InForce ((run step MobileOutput.benchEndpoint events).poll 2)
      (Ratchet.log step taken MobileOutput.benchEndpoint events) 2 :=
  (lift_leased MobileOutput.init_benchEndpoint (Bench.faultedRun.take 3)).2 2 (by decide +kernel)

end LiftEndpoint

end MobileBimanual.Mobile
