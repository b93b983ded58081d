/-
# Tokens are used once

Every job that goes out owns the bus under a token of its own until a completion that carries
this token, or a recovery, takes it off.  `TokenLog` is the book kept beside a run: the tokens
given out, those whose jobs are still out, and those that are dead, because the job ran out of
its time, its transport failed or it was completed.

`exactly_once` states it of every state a run reaches and of every call that may follow there,
whatever token the call carries.  What carries it is that no call but a hand-out moves the
token, and none takes a fault off but a recovery, which leaves the bus free (`CallEffect`).
-/
import MobileBimanual.Bus.Router

namespace MobileBimanual.Bus

open MobileBimanual.Stream (Byte Tick)
open Machine Search

/-! ## 1. What a call does to the transaction -/

/-- The transaction, if there is one, and the receipt are the same; a fault stays. -/
structure SameTransaction (r s : Router) : Prop where
  active : s.bus.active = r.bus.active
  token : s.bus.token = r.bus.token
  owner : s.bus.owner = r.bus.owner
  startedUs : s.bus.startedUs = r.bus.startedUs
  budgetUs : s.bus.budgetUs = r.bus.budgetUs
  completed : s.completed = r.completed
  faulted : r.bus.faulted = true → s.bus.faulted = true

namespace SameTransaction

variable {r s t : Router}

theorem refl (r : Router) : SameTransaction r r := ⟨rfl, rfl, rfl, rfl, rfl, rfl, id⟩

theorem poll (r : Router) (now : Tick) : SameTransaction r (r.poll now) :=
  ⟨by simp, by simp, by simp, by simp, by simp, rfl, SharedBus.poll_faulted⟩

theorem fault (r : Router) (now : Tick) :
    SameTransaction r { r with bus := (r.bus.poll now).faultStop } :=
  ⟨r.bus.poll_active now, r.bus.poll_token now, r.bus.poll_owner now, r.bus.poll_startedUs now,
    r.bus.poll_budgetUs now, rfl, fun _ => rfl⟩

theorem trans (h : SameTransaction r s) (h' : SameTransaction s t) : SameTransaction r t where
  active := h'.active.trans h.active
  token := h'.token.trans h.token
  owner := h'.owner.trans h.owner
  startedUs := h'.startedUs.trans h.startedUs
  budgetUs := h'.budgetUs.trans h.budgetUs
  completed := h'.completed.trans h.completed
  faulted := h'.faulted ∘ h.faulted

/-- A turn of the scan without a find leaves the transaction alone. -/
theorem visit {now available : Tick} {kind : Work}
    (hnone : (Router.visit now available r kind).2 = none) :
    SameTransaction r (Router.visit now available r kind).1 := by
  rcases Router.visit_cases now available r kind with
    ⟨-, heq⟩ | ⟨-, -, heq⟩ | ⟨-, -, heq⟩ | ⟨-, -, heq⟩ | ⟨-, -, heq⟩
  · rw [heq]
    exact refl r
  · rw [heq]
    exact ⟨rfl, rfl, rfl, rfl, rfl, rfl, id⟩
  · rw [heq]
    exact poll r now
  · rw [heq]
    exact fault r now
  · rw [heq] at hnone
    cases hnone

end SameTransaction

namespace Router

/-- The call takes the job in flight off the bus as done. -/
def completes (r : Router) : Call → Bool
  | .complete token nowUs ok => (r.complete token nowUs ok).2
  | _ => false

/-- The call reports that the transport of the job in flight failed. -/
def fails (r : Router) : Call → Bool
  | .complete token _ ok => r.bus.active && token == r.bus.token && !ok
  | _ => false

/-- The call takes the job of a faulted bus off it. -/
def recovers (r : Router) : Call → Bool
  | .recover uartIdle => (r.recover uartIdle).2
  | _ => false

/-- What a call can do to the bus: nothing to its transaction but a fault, or a hand-out, or a
completion, or a recovery. -/
inductive CallEffect (r : Router) (c : Call) : Prop
  | quiet (nothing : r.handout c = none) (done : r.completes c = false)
      (held : r.recovers c = false) (same : SameTransaction r (r.call c))
      (fault : r.overruns c = true ∨ r.fails c = true → (r.call c).bus.faulted = true)
  | handsOut (out : Handout) (found : r.handout c = some out) (done : r.completes c = false)
      (held : r.recovers c = false) (idle : r.bus.active = false) (left : r.bus.token ≠ lastToken)
      (token : out.token = r.bus.token + 1) (current : (r.call c).bus.token = r.bus.token + 1)
      (active : (r.call c).bus.active = true) (receipt : (r.call c).completed = r.completed)
  | completes (now : Tick) (call : c = .complete r.bus.token now true)
      (done : r.completes c = true) (active : r.bus.active = true)
      (intime : (r.bus.poll now).faulted = false) (token : (r.call c).bus.token = r.bus.token)
      (free : (r.call c).bus.active = false)
  | recovers (call : ∃ idle, c = .recover idle) (held : r.recovers c = true)
      (faulted : r.bus.faulted = true) (token : (r.call c).bus.token = r.bus.token)
      (free : (r.call c).bus.active = false) (receipt : (r.call c).completed = r.completed)

variable {r : Router}

theorem faulted_of_overruns {c : Call} {now : Tick} (hclock : c.clock = some now)
    (hover : r.overruns c = true) : (r.bus.poll now).faulted = true := by
  rw [overruns, hclock] at hover
  rw [SharedBus.poll_of_overrun hover]
  rfl

theorem overruns_of_idle (h : r.bus.active = false) (c : Call) : r.overruns c = false := by
  unfold overruns
  split
  · rfl
  · simp [SharedBus.overrun, h]

theorem submit_effect (kind : Nat) (bytes : List Byte) (now deadline budget : Tick) :
    CallEffect r (.submit kind bytes now deadline budget) := by
  have hpoll : ∀ s : Router, s.bus.faulted = (r.bus.poll now).faulted →
      Call.clock (.submit kind bytes now deadline budget) = some now →
      r.overruns (.submit kind bytes now deadline budget) = true ∨
        r.fails (.submit kind bytes now deadline budget) = true → s.bus.faulted = true := by
    rintro s hs hclock (hover | hfail)
    · rw [hs]
      exact faulted_of_overruns hclock hover
    · cases hfail
  rcases r.submit_cases kind bytes now deadline budget with
    ⟨-, hclock, heq⟩ | ⟨-, hclock, heq⟩ | ⟨-, hclock, heq⟩ | ⟨work, -, -, hclock, -, -, -, heq⟩
  · refine .quiet rfl rfl rfl (by rw [heq]; exact .refl r) ?_
    rintro (hover | hfail)
    · rw [overruns, hclock] at hover
      cases hover
    · cases hfail
  · exact .quiet rfl rfl rfl (by rw [heq]; exact .poll r now)
      (hpoll _ (by rw [heq, poll_bus]) hclock)
  · refine .quiet rfl rfl rfl ?_ (hpoll _ ?_ hclock) <;> rw [heq]
    · obtain ⟨h₁, h₂, h₃, h₄, h₅, h₆, h₇⟩ := SameTransaction.poll r now
      exact ⟨h₁, h₂, h₃, h₄, h₅, h₆, h₇⟩
    · rfl
  · refine .quiet rfl rfl rfl ?_ (hpoll _ ?_ hclock) <;> rw [heq]
    · obtain ⟨h₁, h₂, h₃, h₄, h₅, h₆, h₇⟩ := SameTransaction.poll r now
      exact ⟨h₁, h₂, h₃, h₄, h₅, h₆, h₇⟩
    · rfl

theorem next_effect (now available : Tick) : CallEffect r (.next now available) := by
  rcases next_rule (r := r) (P := fun s => SameTransaction r s) (SameTransaction.poll r now)
      (fun s kind hs hnone => hs.trans (SameTransaction.visit hnone)) with
    ⟨hnone, hsame⟩ | ⟨s, kind, hs, hoffered, -, heq⟩
  · refine .quiet hnone rfl rfl hsame ?_
    rintro (hover | hfail)
    · rcases r.next_cases now available with ⟨-, heq⟩ | ⟨hidle, -⟩
      · rw [Router.call, heq]
        exact faulted_of_overruns rfl hover
      · rw [overruns_of_idle hidle] at hover
        cases hover
    · cases hfail
  · have hfree : s.bus.active = false := by
      simp only [offered, Bool.and_eq_true, SharedBus.grants_iff, SharedBus.poll_active] at hoffered
      exact hoffered.1.2.2.2.2.2.1
    have hleft : s.bus.token ≠ lastToken := by
      simp only [offered, Bool.and_eq_true, bne_iff_ne] at hoffered
      exact hoffered.2
    refine .handsOut ⟨kind, s.bus.token + 1, (s.jobs kind).bytes⟩ ?_ rfl rfl ?_ ?_ ?_ ?_ ?_ ?_
    · rw [handout, heq]
    · rw [← hs.active, hfree]
    · rw [← hs.token]
      exact hleft
    · rw [hs.token]
    · rw [Router.call, heq, ← hs.token]
      rfl
    · rw [Router.call, heq]
      rfl
    · rw [Router.call, heq]
      exact hs.completed

theorem complete_effect (token now : Tick) (ok : Bool) : CallEffect r (.complete token now ok) := by
  rcases r.complete_cases token now ok with
    heq | ⟨ha, ht, hf, hok, heq⟩ | ⟨ha, ht, hf, hok, heq⟩
  · refine .quiet rfl (by rw [completes, heq]) rfl ?_ ?_ <;> rw [Router.call, heq]
    · exact .poll r now
    · rintro (hover | hfail)
      · exact faulted_of_overruns rfl hover
      -- a failure of the job in flight is refused only where the bus is faulted already
      · simp only [fails, Bool.and_eq_true, beq_iff_eq, Bool.not_eq_true'] at hfail
        obtain ⟨⟨ha, ht⟩, hok⟩ := hfail
        by_contra hf
        rw [Bool.not_eq_true, poll_bus] at hf
        subst ht hok
        have hpolled : r.poll now = { r with bus := (r.bus.poll now).faultStop } := by
          have hnow : r.complete r.bus.token now false =
              ({ r with bus := (r.bus.poll now).faultStop }, false) := by
            simp [complete, SharedBus.complete, ha, hf]
          rw [hnow] at heq
          exact (Prod.mk.inj heq).1.symm
        have hfault : (r.bus.poll now).faulted = true := congrArg (fun s => s.bus.faulted) hpolled
        rw [hf] at hfault
        cases hfault
  · refine .quiet rfl (by rw [completes, heq]) rfl ?_ ?_ <;> rw [Router.call, heq]
    · exact .fault r now
    · intro _
      rfl
  · subst ht hok
    refine .completes now rfl (by rw [completes, heq]) ha hf ?_ ?_ <;> rw [Router.call, heq]
    · exact r.bus.poll_token now

/-- **Every call has one of the four effects.** -/
theorem call_effect (r : Router) (c : Call) : CallEffect r c := by
  cases c with
  | submit kind bytes now deadline budget => exact submit_effect kind bytes now deadline budget
  | next now available => exact next_effect now available
  | complete token now ok => exact complete_effect token now ok
  | poll now =>
    refine .quiet rfl rfl rfl (.poll r now) ?_
    rintro (hover | hfail)
    · exact faulted_of_overruns rfl hover
    · cases hfail
  | resume confirmed =>
    have hsame : SameTransaction r (r.call (.resume confirmed)) := by
      rcases r.resume_cases confirmed with heq | ⟨-, -, -, -, heq⟩ <;> rw [Router.call, heq]
      · exact .refl r
      · exact ⟨rfl, rfl, rfl, rfl, rfl, rfl, id⟩
    refine .quiet rfl rfl rfl hsame ?_
    rintro (h | h) <;> cases h
  | recover idle =>
    rcases r.recover_cases idle with heq | ⟨hf, heq⟩
    · refine .quiet rfl rfl (by rw [recovers, heq]) (by rw [Router.call, heq]; exact .refl r) ?_
      rintro (h | h) <;> cases h
    · refine .recovers ⟨idle, rfl⟩ (by rw [recovers, heq]) hf ?_ ?_ ?_ <;> rw [Router.call, heq]

end Router

/-! ## 2. The book of the tokens -/

/-- The tokens given out, the latest first; those of jobs that are out; those of jobs that ran
out of their time, failed, were completed or were given up. -/
structure TokenLog where
  issued : List Tick
  out : List Tick
  dead : List Tick

/-- The token of the job a call takes off the bus: the one a completion carries, or that of the
job in flight when the bus is recovered. -/
def Router.taken (r : Router) (c : Call) : List Tick :=
  match c with
  | .complete token nowUs ok => if (r.complete token nowUs ok).2 then [token] else []
  | .recover uartIdle => if (r.recover uartIdle).2 then [r.bus.token] else []
  | _ => []

namespace TokenLog

def see (log : TokenLog) (r : Router) (c : Call) : TokenLog where
  issued := ((r.handout c).map Handout.token).toList ++ log.issued
  out := ((r.handout c).map Handout.token).toList ++ log.out.diff (r.taken c)
  dead := r.taken c ++ (if r.overruns c || r.fails c then [r.bus.token] else []) ++ log.dead

end TokenLog

abbrev Booked := Router × TokenLog

namespace Booked

def init : Booked := (Router.init, ⟨[], [], []⟩)

def step (p : Booked) (c : Call) : Booked := (p.1.call c, p.2.see p.1 c)

/-- The book and the bus agree. -/
structure Tracked (p : Booked) : Prop where
  sorted : p.2.issued.Pairwise fun later earlier => earlier < later
  issued : ∀ t ∈ p.2.issued, t ≤ p.1.bus.token
  out : p.2.out = if p.1.bus.active then [p.1.bus.token] else []
  dead : ∀ t ∈ p.2.dead, t ≤ p.1.bus.token
  still : p.1.bus.token ∈ p.2.dead → p.1.bus.active = true → p.1.bus.faulted = true

theorem tracked_init : Tracked init := by
  constructor <;> simp [init, Router.init, SharedBus.init]

theorem lt_succ_of_left {token : Tick} (h : token ≠ lastToken) : token < token + 1 := by
  have hne : token.toNat ≠ 4294967295 := fun he => h (BitVec.eq_of_toNat_eq he)
  have hlt := token.isLt
  have hone : BitVec.toNat (1 : Tick) = 1 := rfl
  rw [BitVec.lt_def, BitVec.toNat_add, hone]
  omega

theorem token_lt {t u v : Tick} (h : t ≤ u) (h' : u < v) : t < v := by
  rw [BitVec.le_def] at h
  rw [BitVec.lt_def] at h' ⊢
  omega

theorem taken_of_not {r : Router} {c : Call} (hdone : r.completes c = false)
    (hheld : r.recovers c = false) : r.taken c = [] := by
  cases c with
  | complete token now ok =>
    have h : (r.complete token now ok).2 = false := hdone
    simp [Router.taken, h]
  | recover idle =>
    have h : (r.recover idle).2 = false := hheld
    simp [Router.taken, h]
  | _ => rfl

/-- **Every call keeps the book.** -/
theorem Tracked.step {p : Booked} (h : Tracked p) (c : Call) : Tracked (p.step c) := by
  obtain ⟨r, log⟩ := p
  cases r.call_effect c with
  | quiet nothing done held same fault =>
    have htaken := taken_of_not done held
    constructor
    · simpa [Booked.step, TokenLog.see, nothing] using h.sorted
    · simpa [Booked.step, TokenLog.see, nothing, same.token] using h.issued
    · simpa [Booked.step, TokenLog.see, nothing, htaken, same.token, same.active] using h.out
    · intro t ht
      simp only [Booked.step, TokenLog.see, htaken, List.nil_append, List.mem_append] at ht
      rw [Booked.step, same.token]
      rcases ht with ht | ht
      · split at ht
        · rw [List.mem_singleton.mp ht]
          exact BitVec.le_refl _
        · cases ht
      · exact h.dead t ht
    · intro hdead hactive
      simp only [Booked.step, TokenLog.see, htaken, List.nil_append, List.mem_append,
        same.token] at hdead
      rcases hdead with hdead | hdead
      · split at hdead
        · rename_i hkill
          exact fault (by simpa using hkill)
        · cases hdead
      · refine same.faulted (h.still hdead ?_)
        rw [← same.active]
        exact hactive
  | handsOut out found done held idle left token current active receipt =>
    have htaken := taken_of_not done held
    have hlt := lt_succ_of_left left
    have hquiet : (r.overruns c || r.fails c) = false := by
      rw [Router.overruns_of_idle idle, Bool.false_or]
      cases c with
      | complete token now ok => simp [Router.fails, idle]
      | _ => rfl
    constructor
    · simp only [Booked.step, TokenLog.see, found, Option.map_some, Option.toList_some,
        List.singleton_append, List.pairwise_cons]
      refine ⟨fun t ht => ?_, h.sorted⟩
      rw [token]
      exact token_lt (h.issued t ht) hlt
    · intro t ht
      simp only [Booked.step, TokenLog.see, found, Option.map_some, Option.toList_some,
        List.singleton_append, List.mem_cons] at ht
      rw [Booked.step, current]
      rcases ht with rfl | ht
      · rw [token]
        exact BitVec.le_refl _
      · exact BitVec.le_of_lt (token_lt (h.issued t ht) hlt)
    · have hout := h.out
      simp only [idle, Bool.false_eq_true, if_false] at hout
      simp [Booked.step, TokenLog.see, found, htaken, hout, token, current, active]
    · intro t ht
      simp only [Booked.step, TokenLog.see, htaken, hquiet, List.nil_append, Bool.false_eq_true,
        if_false] at ht
      rw [Booked.step, current]
      exact BitVec.le_of_lt (token_lt (h.dead t ht) hlt)
    · intro hdead
      simp only [Booked.step, TokenLog.see, htaken, hquiet, List.nil_append, Bool.false_eq_true,
        if_false, current] at hdead
      -- no dead token lies ahead of the bus
      exact absurd (h.dead _ hdead) (BitVec.not_le.mpr hlt)
  | completes now call done active intime token free =>
    subst call
    have htaken : r.taken (.complete r.bus.token now true) = [r.bus.token] := if_pos done
    have hout := h.out
    simp only [active, if_true] at hout
    constructor
    · exact h.sorted
    · intro t ht
      rw [Booked.step, token]
      exact h.issued t ht
    · simp [Booked.step, TokenLog.see, Router.handout, htaken, hout, free]
    · intro t ht
      simp only [Booked.step, TokenLog.see, htaken, List.mem_append] at ht
      rw [Booked.step, token]
      rcases ht with (ht | ht) | ht
      · rw [List.mem_singleton.mp ht]
        exact BitVec.le_refl _
      · split at ht
        · rw [List.mem_singleton.mp ht]
          exact BitVec.le_refl _
        · cases ht
      · exact h.dead t ht
    · intro _ hactive
      rw [Booked.step, free] at hactive
      cases hactive
  | recovers call held faulted token free receipt =>
    obtain ⟨idle, rfl⟩ := call
    have htaken : r.taken (.recover idle) = [r.bus.token] := if_pos held
    constructor
    · exact h.sorted
    · intro t ht
      rw [Booked.step, token]
      exact h.issued t ht
    · have hout : log.out = if r.bus.active then [r.bus.token] else [] := h.out
      simp only [Booked.step, TokenLog.see, Router.handout, htaken, hout, free]
      cases r.bus.active <;> simp
    · intro t ht
      simp only [Booked.step, TokenLog.see, htaken, List.mem_append] at ht
      rw [Booked.step, token]
      rcases ht with (ht | ht) | ht
      · rw [List.mem_singleton.mp ht]
        exact BitVec.le_refl _
      · cases ht
      · exact h.dead t ht
    · intro _ hactive
      rw [Booked.step, free] at hactive
      cases hactive

/-! ## 3. Exactly once -/

/-- What a call may do where the book stands. -/
structure Orderly (p : Booked) (c : Call) : Prop where
  /-- A token is ahead of all that were given out before it, and goes to a free bus. -/
  fresh : ∀ out, p.1.handout c = some out → p.2.out = [] ∧ ∀ t ∈ p.2.issued, t < out.token
  /-- A completion that writes the receipt or frees the bus is a success of the job that is out. -/
  current : ∀ token now ok, c = .complete token now ok →
    (p.1.call c).completed ≠ p.1.completed ∨
      (p.1.bus.active = true ∧ (p.1.call c).bus.active = false) →
    ok = true ∧ p.1.bus.active = true ∧ token = p.1.bus.token ∧ token ∈ p.2.out
  /-- Nothing but a completion writes the receipt. -/
  receipt : (p.1.call c).completed ≠ p.1.completed → ∃ token now, c = .complete token now true
  /-- A dead token changes neither the ownership nor the receipt. -/
  dead : ∀ token now ok, c = .complete token now ok → token ∈ p.2.dead →
    SameTransaction p.1 (p.1.call c)

theorem Tracked.orderly {p : Booked} (h : Tracked p) (c : Call) : Orderly p c := by
  obtain ⟨r, log⟩ := p
  cases r.call_effect c with
  | quiet nothing done held same fault =>
    constructor
    · intro out hout
      rw [nothing] at hout
      cases hout
    · rintro token now ok rfl (hreceipt | ⟨hactive, hfree⟩)
      · exact absurd same.completed hreceipt
      · rw [same.active, hactive] at hfree
        cases hfree
    · intro hreceipt
      exact absurd same.completed hreceipt
    · intro _ _ _ _ _
      exact same
  | handsOut out found done held idle left token current active receipt =>
    have hlt := lt_succ_of_left left
    have hnext : ∃ now available, c = .next now available := by
      cases c with
      | next now available => exact ⟨now, available, rfl⟩
      | _ => cases found
    obtain ⟨now, available, rfl⟩ := hnext
    constructor
    · intro out' hout
      rw [found] at hout
      cases hout
      refine ⟨by simpa [idle] using h.out, fun t ht => ?_⟩
      rw [token]
      exact token_lt (h.issued t ht) hlt
    · intro _ _ _ heq
      cases heq
    · intro hreceipt
      exact absurd receipt hreceipt
    · intro _ _ _ heq
      cases heq
  | completes now call done active intime token free =>
    subst call
    constructor
    · intro out hout
      cases hout
    · rintro token' now' ok' heq -
      cases heq
      refine ⟨rfl, active, rfl, ?_⟩
      have hout := h.out
      simp only [active, if_true] at hout
      simp [hout]
    · intro _
      exact ⟨_, _, rfl⟩
    · intro token' now' ok' heq hdead
      cases heq
      have hpolled : (r.bus.poll now).faulted = true :=
        SharedBus.poll_faulted (h.still hdead active)
      rw [intime] at hpolled
      cases hpolled
  | recovers call held faulted token free receipt =>
    obtain ⟨idle, rfl⟩ := call
    constructor
    · intro out hout
      cases hout
    · intro _ _ _ heq
      cases heq
    · intro hreceipt
      exact absurd receipt hreceipt
    · intro _ _ _ heq
      cases heq

/-- **Exactly-once completion.**  In every state a run reaches, the tokens given out so far are
strictly increasing, at most one job is out, and whatever call comes next is orderly. -/
theorem exactly_once (calls : List Call) (c : Call) :
    (run step init calls).2.issued.Pairwise (fun later earlier => earlier < later) ∧
    (run step init calls).2.out.length ≤ 1 ∧
    Orderly (run step init calls) c := by
  have h : Tracked (run step init calls) :=
    run_invariant_all (I := Tracked) (fun _ c hp => Tracked.step hp c) calls tracked_init
  refine ⟨h.sorted, ?_, h.orderly c⟩
  rw [h.out]
  split <;> simp

end Booked

end MobileBimanual.Bus
