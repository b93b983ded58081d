/-
# The stop fence of the bus router

From the moment a STOP is submitted, or a job in flight or in a slot runs out of its time, until
a successful resume nothing but STOP may go out; and what was submitted before the stop may not
go out after the resume.

The router keeps the fence with two flags.  `inhibited` shuts the four normal slots and
`stopPending` keeps their work off the bus (`Latched`); a router that is inhibited with no stop
pending has its normal slots empty (`Sound`), so that there is nothing left to replay when
`resume` lifts the inhibition.

What the code loses is the moment a QUEUED job runs out: `next` stops its scan at the first job
the bus grants, so that a job behind it in the turn may lie there expired (`lateFirst` says when
it does not), and `submit` writes over an expired job.  `Watch` keeps the moments the claim
speaks of beside the run, and `stop_fence` says when the code meets them.
-/
import MobileBimanual.Bus.Router

namespace MobileBimanual.Bus

open MobileBimanual.Stream (Byte Tick)
open Machine Search Router SharedBus

/-! ## 1. Shut and latched routers -/

/-- The normal slots are empty. -/
def Flushed (r : Router) : Prop := ∀ kind, kind ≠ .stop → (r.jobs kind).pending = false

instance (r : Router) : Decidable (Flushed r) :=
  inferInstanceAs (Decidable (∀ kind, kind ≠ .stop → (r.jobs kind).pending = false))

/-- Nothing but STOP gets past either flag. -/
def Latched (r : Router) : Prop := r.inhibited = true ∨ r.bus.stopPending = true

instance (r : Router) : Decidable (Latched r) := inferInstanceAs (Decidable (_ ∨ _))

namespace Flushed

variable {r : Router}

theorem of_le {s : Router} (h : Flushed r)
    (hle : ∀ kind, (s.jobs kind).pending = true → (r.jobs kind).pending = true) : Flushed s := by
  intro kind hkind
  cases hp : (s.jobs kind).pending with
  | false => rfl
  | true =>
    have := hle kind hp
    rw [h kind hkind] at this
    cases this

theorem drop (h : Flushed r) (kind : Work) : Flushed (r.drop kind) :=
  h.of_le fun _ hp => (drop_pending.mp hp).2

/-- A STOP is queued beside empty slots. -/
theorem fill_stop (h : Flushed r) (bytes : List Byte) (deadline budget : Tick) :
    Flushed (r.fill .stop bytes deadline budget) := by
  intro kind hkind
  cases hp : ((r.fill .stop bytes deadline budget).jobs kind).pending with
  | false => rfl
  | true =>
    rcases fill_pending.mp hp with heq | hp
    · exact absurd heq hkind
    · rw [h kind hkind] at hp
      cases hp

end Flushed

theorem flushed_flush (r : Router) : Flushed r.flush := by
  intro kind hkind
  simp [flush, hkind]

namespace Router

variable {kind : Work}

/-- A turn of the scan does not lift the inhibition, and fills no slot. -/
theorem visit_inhibited {r : Router} {now available : Tick} (h : r.inhibited = true) :
    (visit now available r kind).1.inhibited = true := by
  rcases visit_cases now available r kind with
    ⟨-, heq⟩ | ⟨-, -, heq⟩ | ⟨-, -, heq⟩ | ⟨-, -, heq⟩ | ⟨-, -, heq⟩ <;> rw [heq]
  · exact h
  · rfl
  · exact h
  · exact h
  · exact h

theorem visit_pending {r : Router} {now available : Tick} {other : Work}
    (h : ((visit now available r kind).1.jobs other).pending = true) :
    (r.jobs other).pending = true := by
  rcases visit_cases now available r kind with
    ⟨-, heq⟩ | ⟨-, -, heq⟩ | ⟨-, -, heq⟩ | ⟨-, -, heq⟩ | ⟨-, -, heq⟩ <;> rw [heq] at h
  · exact h
  · exact (drop_pending.mp h).2
  · exact h
  · exact h
  · exact (drop_pending.mp h).2

/-- A turn of the scan keeps the latch. -/
theorem visit_latched {r : Router} {now available : Tick} (h : Latched r) :
    Latched (visit now available r kind).1 := by
  rcases visit_cases now available r kind with
    ⟨-, heq⟩ | ⟨-, -, heq⟩ | ⟨-, -, heq⟩ | ⟨-, -, heq⟩ | ⟨-, -, heq⟩ <;> rw [heq]
  · exact h
  · exact Or.inl rfl
  · exact h.imp_right poll_stopPending
  · exact Or.inr rfl
  · exact h.imp_right poll_stopPending

theorem offered_iff {r : Router} {now available : Tick} :
    r.offered now available kind = true ↔
      (r.jobs kind).pending = true ∧ (r.jobs kind).late now = false ∧
        (r.bus.poll now).grants kind (r.jobs kind).budgetUs available = true ∧
        r.bus.token ≠ lastToken := by
  simp [offered, and_assoc]

theorem stop_of_offered {r : Router} {now available : Tick} (h : Latched r)
    (hoffered : r.offered now available kind = true) (hkind : r.inhibited = true → kind = .stop) :
    kind = .stop := by
  rcases h with hi | hs
  · exact hkind hi
  · obtain ⟨-, -, hgrants, -⟩ := offered_iff.mp hoffered
    exact (grants_iff.mp hgrants).2.2.2.2.2.1 (poll_stopPending hs)

/-- **A latched router hands nothing out but STOP.** -/
theorem next_of_latched {r : Router} {now available : Tick} (h : Latched (r.poll now))
    {out : Handout} (hout : (r.next now available).2 = some out) : out.kind = .stop := by
  rcases next_rule (P := Latched) h (fun _ _ hs _ => visit_latched hs) with
    ⟨hnone, -⟩ | ⟨s, kind, hs, hoffered, hkind, heq⟩
  · rw [hnone] at hout
    cases hout
  · rw [heq] at hout
    cases hout
    exact stop_of_offered hs hoffered hkind

/-! ## 2. The invariant of every run -/

/-- A fault has its stop pending; a STOP that is queued or in flight has shut the router; and an
inhibited router whose stop was served is empty. -/
structure Sound (r : Router) : Prop where
  faulted : r.bus.faulted = true → r.bus.stopPending = true
  stopping : (r.jobs .stop).pending = true ∨ (r.bus.active = true ∧ r.bus.owner = .stop) →
    r.inhibited = true ∧ Flushed r
  served : r.inhibited = true → r.bus.stopPending = false → Flushed r

theorem sound_init : Sound init := by
  constructor <;> simp [init, SharedBus.init, Flushed]

namespace Sound

variable {r : Router}

theorem poll (h : Sound r) (now : Tick) : Sound (r.poll now) := by
  constructor
  · intro hf
    cases hs : ((r.poll now).bus).stopPending with
    | true => rfl
    | false =>
      have heq := poll_stopPending_eq_false hs
      rw [poll_bus, heq] at hf hs
      rw [h.faulted hf] at hs
      cases hs
  · intro hstop
    rw [poll_jobs, poll_bus, poll_active, poll_owner] at hstop
    exact h.stopping hstop
  · intro hi hs
    have heq := poll_stopPending_eq_false hs
    rw [poll_bus, heq] at hs
    exact h.served hi hs

/-- Faulting the bus latches its stop. -/
theorem fault (h : Sound r) {bus : SharedBus} (hactive : bus.active = r.bus.active)
    (howner : bus.owner = r.bus.owner) : Sound { r with bus := bus.faultStop } := by
  constructor
  · intro _
    rfl
  · intro hstop
    refine h.stopping (hstop.imp_right ?_)
    rintro ⟨ha, ho⟩
    exact ⟨hactive ▸ ha, howner ▸ ho⟩
  · intro _ hs
    cases hs

theorem expire (h : Sound r) (kind : Work) : Sound (r.expire kind) := by
  constructor
  · intro _
    rfl
  · intro hstop
    refine ⟨rfl, Flushed.drop ?_ kind⟩
    refine (h.stopping (hstop.imp_left ?_)).2
    intro hp
    exact (drop_pending.mp hp).2
  · intro _ hs
    cases hs

/-- A job goes out: a STOP of a shut router, or another of one that has no STOP. -/
theorem handOut (h : Sound r) {now available : Tick}
    (hoffered : r.offered now available kind = true) (hkind : r.inhibited = true → kind = .stop) :
    Sound (r.handOut now kind) := by
  obtain ⟨hp, -, hgrants, -⟩ := offered_iff.mp hoffered
  constructor
  · intro hf
    exact (h.poll now).faulted hf
  · intro hstop
    by_cases hk : kind = .stop
    · subst hk
      have hshut := h.stopping (Or.inl hp)
      exact ⟨hshut.1, hshut.2.drop _⟩
    · rcases hstop with hstop | ⟨-, howner⟩
      · have hshut := h.stopping (Or.inl (drop_pending.mp hstop).2)
        exact absurd (hkind hshut.1) hk
      · exact absurd howner hk
  · intro hi hs
    exact ((h.poll now).served hi hs).drop kind

theorem visit (h : Sound r) (now available : Tick) (kind : Work) :
    Sound (visit now available r kind).1 := by
  rcases visit_cases now available r kind with
    ⟨-, heq⟩ | ⟨-, -, heq⟩ | ⟨-, -, heq⟩ | ⟨-, -, heq⟩ | ⟨hoffered, hkind, heq⟩ <;> rw [heq]
  · exact h
  · exact h.expire kind
  · exact h.poll now
  · exact h.fault (by simp) (by simp)
  · exact h.handOut hoffered hkind

theorem next (h : Sound r) (now available : Tick) : Sound (r.next now available).1 := by
  rcases r.next_cases now available with ⟨-, heq⟩ | ⟨-, -, heq⟩ <;> rw [heq]
  · exact h.poll now
  · exact search_invariant (P := Sound) (fun s kind hs => hs.visit now available kind) _ h

theorem queue_stop (r : Router) (bytes : List Byte) (deadline budget : Tick) :
    Sound (r.inhibit.flush.requestStop.fill .stop bytes deadline budget) := by
  have hflushed : Flushed (r.inhibit.flush.requestStop.fill .stop bytes deadline budget) :=
    (flushed_flush r.inhibit).fill_stop bytes deadline budget
  constructor
  · intro _
    rfl
  · intro _
    exact ⟨rfl, hflushed⟩
  · intro _ _
    exact hflushed

theorem queue (h : Sound r) (hkind : kind ≠ .stop) (hi : r.inhibited = false) (bytes : List Byte)
    (deadline budget : Tick) : Sound (r.fill kind bytes deadline budget) := by
  constructor
  · exact h.faulted
  · intro hstop
    have hshut : r.inhibited = true := by
      refine (h.stopping (hstop.imp_left ?_)).1
      intro hp
      exact (fill_pending.mp hp).resolve_left hkind.symm
    rw [hi] at hshut
    cases hshut
  · intro hi'
    rw [show (r.fill kind bytes deadline budget).inhibited = r.inhibited from rfl, hi] at hi'
    cases hi'

theorem complete (h : Sound r) (token now : Tick) (ok : Bool) :
    Sound (r.complete token now ok).1 := by
  rcases r.complete_cases token now ok with heq | ⟨-, -, -, -, heq⟩ | ⟨ha, -, hf, -, heq⟩ <;>
    rw [heq]
  · exact h.poll now
  · exact h.fault (by simp) (by simp)
  · constructor
    · intro hf'
      rw [hf] at hf'
      cases hf'
    · rintro (hp | ⟨ha', -⟩)
      · exact h.stopping (Or.inl hp)
      · cases ha'
    · intro hi hs
      by_cases ho : r.bus.owner = .stop
      · exact (h.stopping (Or.inr ⟨ha, ho⟩)).2
      · have hs' : (r.bus.poll now).stopPending = false := by simpa [ho] using hs
        exact (h.poll now).served hi hs'

theorem resume (h : Sound r) (confirmed : Bool) : Sound (r.resume confirmed).1 := by
  rcases r.resume_cases confirmed with heq | ⟨ha, hf, -, hp, heq⟩ <;> rw [heq]
  · exact h
  · constructor
    · exact h.faulted
    · rintro (hp' | ⟨ha', -⟩)
      · rw [hp] at hp'
        cases hp'
      · rw [ha] at ha'
        cases ha'
    · intro hi
      cases hi

theorem recover (h : Sound r) (idle : Bool) : Sound (r.recover idle).1 := by
  rcases r.recover_cases idle with heq | ⟨-, heq⟩ <;> rw [heq]
  · exact h
  · constructor
    · intro _
      rfl
    · rintro (hp | ⟨ha, -⟩)
      · exact h.stopping (Or.inl hp)
      · cases ha
    · intro _ hs
      cases hs

/-- **Every call keeps the invariant.** -/
theorem call (h : Sound r) (c : Call) : Sound (r.call c) := by
  cases c with
  | submit kind bytes now deadline budget =>
    rcases r.submit_cases kind bytes now deadline budget with
      ⟨-, -, heq⟩ | ⟨-, -, heq⟩ | ⟨-, -, heq⟩ | ⟨work, hwork, -, -, -, -, hi, heq⟩ <;> rw [heq]
    · exact h
    · exact h.poll now
    · exact queue_stop (r.poll now) bytes deadline budget
    · exact (h.poll now).queue hwork hi bytes deadline budget
  | next now available => exact h.next now available
  | complete token now ok => exact h.complete token now ok
  | poll now => exact h.poll now
  | resume confirmed => exact h.resume confirmed
  | recover idle => exact h.recover idle

end Sound

/-! ## 3. The scan of an open router -/

/-- In the order of the scan an expired job comes before every job the bus would take. -/
def lateFirst (r : Router) (nowUs availableUs : Tick) : List Work → Bool
  | [] => true
  | kind :: l =>
    (r.jobs kind).expired nowUs || (!r.offered nowUs availableUs kind && lateFirst r nowUs availableUs l)

variable {r : Router} {now available : Tick}

theorem lateFirst_of_lastToken (h : r.bus.token = lastToken) :
    ∀ l : List Work, lateFirst r now available l = true
  | [] => rfl
  | kind :: l => by
    have hoffered : r.offered now available kind = false := by simp [offered, h]
    rw [lateFirst, hoffered, lateFirst_of_lastToken h l]
    simp

/-- A shut router with no STOP queued has nothing to hand out. -/
theorem scan_of_inhibited (hi : r.inhibited = true) (hstop : (r.jobs .stop).pending = false)
    (l : List Work) : (search (visit now available) r l).2 = none := by
  have hvisit : ∀ s kind, (s.inhibited = true ∧ (s.jobs Work.stop).pending = false) →
      (visit now available s kind).2 = none →
      (visit now available s kind).1.inhibited = true ∧
        ((visit now available s kind).1.jobs Work.stop).pending = false := by
    rintro s kind ⟨hsi, hsstop⟩ -
    refine ⟨visit_inhibited hsi, ?_⟩
    by_contra hp
    rw [Bool.not_eq_false] at hp
    rw [visit_pending hp] at hsstop
    cases hsstop
  rcases scan_rule hvisit l ⟨hi, hstop⟩ with ⟨hnone, -⟩ | ⟨s, kind, ⟨hsi, hsstop⟩, hoffered, hkind, -⟩
  · exact hnone
  · obtain rfl := hkind hsi
    rw [(offered_iff.mp hoffered).1] at hsstop
    cases hsstop

/-- Nor has a faulted one. -/
theorem scan_of_faulted (hf : r.bus.faulted = true) (l : List Work) :
    (search (visit now available) r l).2 = none := by
  have hvisit : ∀ s kind, s.bus.faulted = true → (visit now available s kind).2 = none →
      (visit now available s kind).1.bus.faulted = true := by
    intro s kind hsf hnone
    rcases visit_cases now available s kind with
      ⟨-, heq⟩ | ⟨-, -, heq⟩ | ⟨-, -, heq⟩ | ⟨-, -, heq⟩ | ⟨-, -, heq⟩
    · rwa [heq]
    · rw [heq]
      exact hsf
    · rw [heq]
      exact poll_faulted hsf
    · rw [heq]
      rfl
    · rw [heq] at hnone
      cases hnone
  rcases scan_rule hvisit l hf with ⟨hnone, -⟩ | ⟨s, kind, hsf, hoffered, -, -⟩
  · exact hnone
  · obtain ⟨-, -, hgrants, -⟩ := offered_iff.mp hoffered
    have hpolled : (s.bus.poll now).faulted = true := poll_faulted hsf
    rw [(grants_iff.mp hgrants).2.2.2.1] at hpolled
    cases hpolled

/-- **The scan of an open router** with no STOP queued hands a normal job out unless an expired
one comes first. -/
theorem scan_of_open (hidle : r.bus.active = false) (hi : r.inhibited = false)
    (hstop : (r.jobs .stop).pending = false) : ∀ l : List Work,
      (lateFirst r now available l = true → (search (visit now available) r l).2 = none) ∧
      (lateFirst r now available l = false →
        ∃ out, (search (visit now available) r l).2 = some out ∧ out.kind ≠ .stop)
  | [] => by simp [lateFirst]
  | kind :: l => by
    have hpoll : r.poll now = r := by rw [poll, poll_of_idle hidle]
    have ih := scan_of_open hidle hi hstop l
    rcases visit_cases now available r kind with
      ⟨hskip, heq⟩ | ⟨hexpired, -, heq⟩ | ⟨hexpired, hno, heq⟩ | ⟨hexpired, hlast, heq⟩ |
        ⟨hoffered, -, heq⟩
    · have hp : (r.jobs kind).pending = false := by
        rcases hskip with hp | ⟨hi', -⟩
        · exact hp
        · rw [hi] at hi'
          cases hi'
      rw [search_cons_none heq, lateFirst]
      simpa [Job.expired, offered, hp] using ih
    · rw [search_cons_none heq, lateFirst, hexpired]
      have hstop' : ((r.expire kind).jobs .stop).pending = false := by
        by_contra hp
        rw [Bool.not_eq_false] at hp
        rw [(drop_pending.mp hp).2] at hstop
        cases hstop
      simpa using scan_of_inhibited rfl hstop' l
    · have hoffered : r.offered now available kind = false := by simp [offered, hno]
      rw [search_cons_none heq, lateFirst, hexpired, hoffered, hpoll]
      simpa using ih
    · rw [search_cons_none heq, lateFirst_of_lastToken hlast]
      simpa using scan_of_faulted rfl l
    · obtain ⟨hp, hlate, -, -⟩ := offered_iff.mp hoffered
      have hexpired : (r.jobs kind).expired now = false := by simp [Job.expired, hlate]
      rw [search_cons_some heq, lateFirst, hexpired, hoffered]
      simp only [Bool.not_true, Bool.false_and, Bool.or_false, Bool.false_eq_true,
        false_implies, true_and, forall_const]
      refine ⟨_, rfl, ?_⟩
      rintro rfl
      rw [hp] at hstop
      cases hstop

/-! ## 4. What a call does to the flags and the slots -/

variable {c : Call}

/-- **Only a resume takes the latch off**: a STOP that completes leaves the inhibition. -/
theorem call_latched (hsound : Sound r) (h : Latched r) (hresumes : r.resumes c = false) :
    Latched (r.call c) := by
  have hpoll : ∀ now, Latched (r.poll now) := fun now => h.imp_right poll_stopPending
  cases c with
  | submit kind bytes now deadline budget =>
    rcases r.submit_cases kind bytes now deadline budget with
      ⟨-, -, heq⟩ | ⟨-, -, heq⟩ | ⟨-, -, heq⟩ | ⟨work, -, -, -, -, -, -, heq⟩ <;> rw [heq]
    · exact h
    · exact hpoll now
    · exact Or.inl rfl
    · exact hpoll now
  | next now available =>
    rcases r.next_cases now available with ⟨-, heq⟩ | ⟨-, -, heq⟩ <;> rw [call, heq]
    · exact hpoll now
    · exact search_invariant (P := Latched) (fun _ _ hs => visit_latched hs) _ h
  | complete token now ok =>
    rcases r.complete_cases token now ok with heq | ⟨-, -, -, -, heq⟩ | ⟨ha, -, -, -, heq⟩ <;>
      rw [call, heq]
    · exact hpoll now
    · exact Or.inr rfl
    · by_cases ho : r.bus.owner = .stop
      · exact Or.inl (hsound.stopping (Or.inr ⟨ha, ho⟩)).1
      · refine (hpoll now).imp_right ?_
        intro hs
        rw [poll_bus] at hs
        simp [hs, ho]
  | poll now => exact hpoll now
  | resume confirmed =>
    rcases r.resume_cases confirmed with heq | ⟨-, -, -, -, heq⟩
    · rw [call, heq]
      exact h
    · rw [resumes, heq] at hresumes
      cases hresumes
  | recover idle =>
    rcases r.recover_cases idle with heq | ⟨-, heq⟩ <;> rw [call, heq]
    · exact h
    · exact Or.inr rfl

/-- The code notices every overrun. -/
theorem latched_of_overruns (h : r.overruns c = true) : Latched (r.call c) := by
  have hpoll : ∀ now, c.clock = some now →
      (r.bus.poll now).stopPending = true ∧ (r.bus.poll now).faulted = true := by
    intro now hclock
    rw [overruns, hclock] at h
    rw [poll_of_overrun h]
    exact ⟨rfl, rfl⟩
  cases c with
  | submit kind bytes now deadline budget =>
    rcases r.submit_cases kind bytes now deadline budget with
      ⟨-, hclock, -⟩ | ⟨-, hclock, heq⟩ | ⟨-, -, heq⟩ | ⟨work, -, -, hclock, hf, -⟩
    · rw [overruns, hclock] at h
      cases h
    · rw [heq]
      exact Or.inr (hpoll now hclock).1
    · rw [heq]
      exact Or.inl rfl
    · rw [(hpoll now hclock).2] at hf
      cases hf
  | next now available =>
    have hover : r.bus.overrun now = true := h
    rcases r.next_cases now available with ⟨-, heq⟩ | ⟨hidle, -⟩
    · rw [call, heq]
      exact Or.inr (hpoll now rfl).1
    · simp [overrun, hidle] at hover
  | complete token now ok =>
    rcases r.complete_cases token now ok with heq | ⟨-, -, hf, -⟩ | ⟨-, -, hf, -⟩
    · rw [call, heq]
      exact Or.inr (hpoll now rfl).1
    · rw [(hpoll now rfl).2] at hf
      cases hf
    · rw [(hpoll now rfl).2] at hf
      cases hf
  | poll now => exact Or.inr (hpoll now rfl).1
  | resume confirmed => cases h
  | recover idle => cases h

theorem inhibited_of_queues_stop (h : r.queues c = some .stop) : (r.call c).inhibited = true := by
  cases c with
  | submit kind bytes now deadline budget =>
    rcases r.submit_cases kind bytes now deadline budget with
      ⟨hq, -, -⟩ | ⟨hq, -, -⟩ | ⟨-, -, heq⟩ | ⟨work, hwork, hq, -⟩
    · rw [hq] at h
      cases h
    · rw [hq] at h
      cases h
    · rw [heq]
      rfl
    · rw [hq, Option.some_inj] at h
      exact absurd h hwork
  | _ => cases h

theorem call_inhibited (h : r.inhibited = true) (hresumes : r.resumes c = false) :
    (r.call c).inhibited = true := by
  cases c with
  | submit kind bytes now deadline budget =>
    rcases r.submit_cases kind bytes now deadline budget with
      ⟨-, -, heq⟩ | ⟨-, -, heq⟩ | ⟨-, -, heq⟩ | ⟨work, -, -, -, -, -, -, heq⟩ <;> rw [heq]
    · exact h
    · exact h
    · rfl
    · exact h
  | next now available =>
    rcases r.next_cases now available with ⟨-, heq⟩ | ⟨-, -, heq⟩ <;> rw [call, heq]
    · exact h
    · exact search_invariant (P := fun s : Router => s.inhibited = true)
        (fun _ _ hs => visit_inhibited hs) _ h
  | complete token now ok =>
    rcases r.complete_cases token now ok with heq | ⟨-, -, -, -, heq⟩ | ⟨-, -, -, -, heq⟩ <;>
      rw [call, heq] <;> exact h
  | poll now => exact h
  | resume confirmed =>
    rcases r.resume_cases confirmed with heq | ⟨-, -, -, -, heq⟩
    · rw [call, heq]
      exact h
    · rw [resumes, heq] at hresumes
      cases hresumes
  | recover idle =>
    rcases r.recover_cases idle with heq | ⟨-, heq⟩ <;> rw [call, heq] <;> exact h

/-- A job is in its slot because it was there or was just queued. -/
theorem call_pending (h : ((r.call c).jobs kind).pending = true) :
    r.queues c = some kind ∨ (r.queues c ≠ some kind ∧ (r.jobs kind).pending = true) := by
  by_cases hq : r.queues c = some kind
  · exact Or.inl hq
  refine Or.inr ⟨hq, ?_⟩
  cases c with
  | submit k bytes now deadline budget =>
    rcases r.submit_cases k bytes now deadline budget with
      ⟨-, -, heq⟩ | ⟨-, -, heq⟩ | ⟨hstop, -, heq⟩ | ⟨work, -, hwork, -, -, -, -, heq⟩ <;> rw [heq] at h
    · exact h
    · exact h
    · rcases fill_pending.mp h with rfl | hp
      · exact absurd hstop hq
      · exact (flush_pending.mp hp).2
    · rcases fill_pending.mp h with rfl | hp
      · exact absurd hwork hq
      · exact hp
  | next now available =>
    rcases r.next_cases now available with ⟨-, heq⟩ | ⟨-, -, heq⟩ <;> rw [call, heq] at h
    · exact h
    · have hkeep : ∀ s k, ((s.jobs kind).pending = true → (r.jobs kind).pending = true) →
          ((visit now available s k).1.jobs kind).pending = true → (r.jobs kind).pending = true :=
        fun s k hs hp => hs (visit_pending hp)
      exact search_invariant hkeep (scanOrder r.cursor) id h
  | complete token now ok =>
    rcases r.complete_cases token now ok with heq | ⟨-, -, -, -, heq⟩ | ⟨-, -, -, -, heq⟩ <;>
      rw [call, heq] at h <;> exact h
  | poll now => exact h
  | resume confirmed =>
    rcases r.resume_cases confirmed with heq | ⟨-, -, -, -, heq⟩ <;>
      rw [call, heq] at h <;> exact h
  | recover idle =>
    rcases r.recover_cases idle with heq | ⟨-, heq⟩ <;> rw [call, heq] at h <;> exact h

/-- Into a shut router only a STOP is queued. -/
theorem stop_of_queues (h : r.inhibited = true) (hq : r.queues c = some kind) : kind = .stop := by
  cases c with
  | submit k bytes now deadline budget =>
    rcases r.submit_cases k bytes now deadline budget with
      ⟨hnone, -⟩ | ⟨hnone, -⟩ | ⟨hstop, -⟩ | ⟨work, -, -, -, -, -, hi, -⟩
    · rw [hnone] at hq
      cases hq
    · rw [hnone] at hq
      cases hq
    · rw [hstop, Option.some_inj] at hq
      exact hq.symm
    · rw [h] at hi
      cases hi
  | _ => cases hq

/-- Inhibited, with nothing queued but a STOP. -/
structure Shut (r : Router) : Prop where
  inhibited : r.inhibited = true
  flushed : Flushed r

/-- **A shut router stays shut until it is resumed.** -/
theorem Shut.call (h : Shut r) (hresumes : r.resumes c = false) : Shut (r.call c) := by
  refine ⟨call_inhibited h.inhibited hresumes, ?_⟩
  intro kind hkind
  cases hp : ((r.call c).jobs kind).pending with
  | false => rfl
  | true =>
    rcases call_pending hp with hq | ⟨-, hp⟩
    · exact absurd (stop_of_queues h.inhibited hq) hkind
    · rw [h.flushed kind hkind] at hp
      cases hp

/-- What is handed out was in its slot. -/
theorem handout_pending {out : Handout} (h : r.handout c = some out) :
    (r.jobs out.kind).pending = true := by
  cases c with
  | next now available =>
    have hkeep : ∀ s kind, (∀ k, (s.jobs k).pending = true → (r.jobs k).pending = true) →
        (visit now available s kind).2 = none →
        ∀ k, ((visit now available s kind).1.jobs k).pending = true → (r.jobs k).pending = true :=
      fun s kind hs _ k hp => hs k (visit_pending hp)
    rcases next_rule (r := r) (fun k hp => hp) hkeep with
      ⟨hnone, -⟩ | ⟨s, kind, hs, hoffered, -, heq⟩
    · rw [handout, hnone] at h
      cases h
    · rw [handout, heq] at h
      cases h
      exact hs _ (offered_iff.mp hoffered).1
  | _ => cases h

end Router

/-! ## 5. The moments of a run -/

/-- Beside a run: whether, since the last successful resume, a STOP was submitted or the job in
flight ran out of its time, and whether a queued job did; how many jobs were queued; which of
them is in each slot; and below which number a job was queued before a resume that ended a
stop. -/
structure Watch where
  stopped : Bool
  late : Bool
  count : Nat
  serial : Work → Nat
  barred : Nat

namespace Watch

def init : Watch where
  stopped := false
  late := false
  count := 0
  serial _ := 0
  barred := 0

/-- What the watch makes of a call. -/
def see (w : Watch) (r : Router) (c : Call) : Watch where
  stopped := (w.stopped || r.queues c == some .stop || r.overruns c) && !r.resumes c
  late := (w.late || r.expires c) && !r.resumes c
  count := if (r.queues c).isSome then w.count + 1 else w.count
  serial kind := if r.queues c = some kind then w.count else w.serial kind
  barred := if r.resumes c && (w.stopped || w.late) then w.count else w.barred

end Watch

abbrev Watched := Router × Watch

namespace Watched

def init : Watched := (Router.init, Watch.init)

def step (p : Watched) (c : Call) : Watched := (p.1.call c, p.2.see p.1 c)

/-- Between a stop, or a held job's expiry, and the resume that ends it nothing but STOP is
handed out. -/
def Fenced (p : Watched) (c : Call) : Prop :=
  (p.2.stopped || p.1.overruns c) = true ∨ (p.2.late || p.1.expires c) = true →
    ∀ out, p.1.handout c = some out → out.kind = .stop

/-- Nothing that was queued before the resume that ended a stop is handed out. -/
def NoReplay (p : Watched) (c : Call) : Prop :=
  ∀ out, p.1.handout c = some out → p.2.barred ≤ p.2.serial out.kind

/-- Once a queued job has run out of its time, a `next` finds the router latched, or an expired
job before every job it could hand out. -/
def NextHeeds (p : Watched) : Call → Prop
  | .next nowUs availableUs =>
    (p.2.late || p.1.expires (.next nowUs availableUs)) = true →
      Latched (p.1.poll nowUs) ∨
        lateFirst p.1 nowUs availableUs (scanOrder p.1.cursor) = true
  | _ => True

/-- Once a queued job has run out of its time, a successful resume finds the router inhibited or
its normal slots empty. -/
def ResumeHeeds (p : Watched) (c : Call) : Prop :=
  p.1.resumes c = true → p.2.late = true → p.1.inhibited = true ∨ Flushed p.1

instance (p : Watched) (c : Call) : Decidable (ResumeHeeds p c) :=
  inferInstanceAs (Decidable (_ → _ → _ ∨ _))

instance (p : Watched) (c : Call) : Decidable (Fenced p c) :=
  match h : p.1.handout c with
  | none => isTrue fun _ out hout => by rw [h] at hout; cases hout
  | some out =>
    decidable_of_iff ((p.2.stopped || p.1.overruns c) = true ∨
      (p.2.late || p.1.expires c) = true → out.kind = .stop)
      (by simp [Fenced, h])

/-! ## 6. The fence -/

/-- What every run keeps: a stopped run has its router latched. -/
structure Kept (p : Watched) : Prop where
  sound : Sound p.1
  stopped : p.2.stopped = true → Latched p.1

theorem kept_init : Kept init := ⟨Router.sound_init, fun h => by cases h⟩

variable {p : Watched}

theorem Kept.step (h : Kept p) (c : Call) : Kept (p.step c) := by
  refine ⟨h.sound.call c, ?_⟩
  intro hs
  simp only [Watched.step, Watch.see, Bool.and_eq_true, Bool.or_eq_true, beq_iff_eq,
    Bool.not_eq_true'] at hs
  obtain ⟨(hs | hs) | hs, hresumes⟩ := hs
  · exact call_latched h.sound (h.stopped hs) hresumes
  · exact Or.inl (inhibited_of_queues_stop hs)
  · exact latched_of_overruns hs

/-- **A call keeps the fence exactly if it heeds the expired jobs.** -/
theorem Kept.fenced_iff (h : Kept p) (c : Call) : p.Fenced c ↔ p.NextHeeds c := by
  obtain ⟨r, w⟩ := p
  cases c with
  | next now available =>
    by_cases hlatched : Latched (r.poll now)
    · constructor
      · intro _ _
        exact Or.inl hlatched
      · intro _ _ out hout
        exact next_of_latched hlatched hout
    -- an open router: its bus is as it was, and neither stopped nor faulted
    simp only [Latched, not_or, Bool.not_eq_true, poll_inhibited] at hlatched
    obtain ⟨hi, hs⟩ := hlatched
    have hpoll : r.bus.poll now = r.bus := poll_stopPending_eq_false hs
    have hstopped : (w.stopped || r.overruns (.next now available)) = false := by
      rw [Bool.or_eq_false_iff]
      constructor
      · by_contra hw
        rw [Bool.not_eq_false] at hw
        rcases h.stopped hw with hi' | hs'
        · rw [hi] at hi'
          cases hi'
        · rw [poll_bus, hpoll, hs'] at hs
          cases hs
      · by_contra hover
        rw [Bool.not_eq_false] at hover
        rw [poll_bus, poll_of_overrun hover] at hs
        cases hs
    have hstop : (r.jobs .stop).pending = false := by
      by_contra hp
      rw [Bool.not_eq_false] at hp
      rw [(h.sound.stopping (Or.inl hp)).1] at hi
      cases hi
    have hnot : ¬ Latched (r.poll now) := by
      rintro (hi' | hs')
      · rw [poll_inhibited, hi] at hi'
        cases hi'
      · rw [hs] at hs'
        cases hs'
    have hf : r.bus.faulted = false := by
      by_contra hf
      rw [Bool.not_eq_false] at hf
      have := h.sound.faulted hf
      rw [poll_bus, hpoll, this] at hs
      cases hs
    cases ha : r.bus.active with
    | true =>
      have hnone : r.handout (.next now available) = none := by
        rcases r.next_cases now available with ⟨-, heq⟩ | ⟨hidle, -⟩
        · rw [handout, heq]
        · rw [ha] at hidle
          cases hidle
      have hlate : ∀ l, lateFirst r now available l = true := by
        intro l
        induction l with
        | nil => rfl
        | cons kind l ih =>
          have : r.offered now available kind = false := by
            simp [offered, grants, ha]
          simp [lateFirst, this, ih]
      constructor
      · intro _ _
        exact Or.inr (hlate _)
      · intro _ _ out hout
        rw [hnone] at hout
        cases hout
    | false =>
      have hscan : (lateFirst r now available (scanOrder r.cursor) = true →
            (search (visit now available) r (scanOrder r.cursor)).2 = none) ∧
          (lateFirst r now available (scanOrder r.cursor) = false →
            ∃ out, (search (visit now available) r (scanOrder r.cursor)).2 = some out ∧
              out.kind ≠ .stop) := scan_of_open ha hi hstop _
      have hnext : r.handout (.next now available) =
          (search (visit now available) r (scanOrder r.cursor)).2 := by
        rcases r.next_cases now available with ⟨hbusy, -⟩ | ⟨-, -, heq⟩
        · simp [ha, hf] at hbusy
        · rw [handout, heq]
      simp only [Fenced, NextHeeds, hstopped, hnot, false_or, Bool.false_eq_true]
      refine imp_congr_right fun _ => ?_
      rw [hnext]
      constructor
      · intro hall
        by_contra hlate
        rw [Bool.not_eq_true] at hlate
        obtain ⟨out, hout, hkind⟩ := hscan.2 hlate
        exact hkind (hall out hout)
      · intro hlate out hout
        rw [hscan.1 hlate] at hout
        cases hout
  | _ =>
    constructor
    · intro _
      trivial
    · intro _ _ out hout
      cases hout

/-! ## 7. No replay -/

/-- Every queued job is numbered from the last resume that ended a stop on. -/
structure Numbered (p : Watched) : Prop where
  kept : Kept p
  slots : ∀ kind, (p.1.jobs kind).pending = true → p.2.barred ≤ p.2.serial kind
  count : p.2.barred ≤ p.2.count

theorem numbered_init : Numbered init :=
  ⟨kept_init, fun _ h => (nomatch h), Nat.le_refl _⟩

/-- A resume that ends a stop finds every slot empty. -/
theorem Kept.empty_of_resumes {p : Watched} (h : Kept p) {c : Call} (hheeds : p.ResumeHeeds c)
    (hresumes : p.1.resumes c = true) (hended : p.2.stopped = true ∨ p.2.late = true)
    (kind : Work) : (p.1.jobs kind).pending = false := by
  cases c with
  | resume confirmed =>
    rcases p.1.resume_cases confirmed with heq | ⟨-, -, hs, hstop, -⟩
    · rw [resumes, heq] at hresumes
      cases hresumes
    have hflushed : Flushed p.1 := by
      rcases hended with hstopped | hlate
      · rcases h.stopped hstopped with hi | hs'
        · exact h.sound.served hi hs
        · rw [hs] at hs'
          cases hs'
      · rcases hheeds hresumes hlate with hi | hflushed
        · exact h.sound.served hi hs
        · exact hflushed
    by_cases hkind : kind = .stop
    · rw [hkind]
      exact hstop
    · exact hflushed kind hkind
  | _ => cases hresumes

theorem Numbered.step (h : Numbered p) (c : Call) (hheeds : p.ResumeHeeds c) :
    Numbered (p.step c) := by
  by_cases hended : (p.1.resumes c && (p.2.stopped || p.2.late)) = true
  · have hempty := h.kept.empty_of_resumes hheeds
      (by simpa using (Bool.and_eq_true_iff.mp hended).1)
      (by simpa using (Bool.and_eq_true_iff.mp hended).2)
    have hqueues : p.1.queues c = none := by
      cases c with
      | resume confirmed => rfl
      | _ => cases (Bool.and_eq_true_iff.mp hended).1
    refine ⟨h.kept.step c, ?_, ?_⟩
    · intro kind hp
      rcases call_pending hp with hq | ⟨-, hp⟩
      · rw [hqueues] at hq
        cases hq
      · rw [hempty kind] at hp
        cases hp
    · simp [Watched.step, Watch.see, hended, hqueues]
  · refine ⟨h.kept.step c, ?_, ?_⟩
    · intro kind hp
      simp only [Watched.step, Watch.see, if_neg hended]
      rcases call_pending hp with hq | ⟨hq, hp⟩
      · rw [if_pos hq]
        exact h.count
      · rw [if_neg hq]
        exact h.slots kind hp
    · simp only [Watched.step, Watch.see, if_neg hended]
      have := h.count
      split <;> omega

theorem Numbered.noReplay (h : Numbered p) (c : Call) : p.NoReplay c :=
  fun _ hout => h.slots _ (handout_pending hout)

/-! ## 8. Every run -/

/-- **The stop fence.**  Along every run of the router the fence holds exactly if every `next`
heeds the expired jobs; and if every resume does, nothing from before a stop is handed out after
the resume that ends it. -/
theorem stop_fence (calls : List Call) :
    (Along step Fenced init calls ↔ Along step NextHeeds init calls) ∧
    (Along step ResumeHeeds init calls → Along step NoReplay init calls) := by
  constructor
  · exact along_congr_of (fun _ c hp => Kept.step hp c) (fun _ c hp => hp.fenced_iff c) calls
      kept_init
  · exact along_of_invariant (fun _ c hp hheeds => Numbered.step hp c hheeds)
      (fun _ c hp _ => hp.noReplay c) calls numbered_init

/-- The arm's job of a stopped run is never handed out, that of the resumed one is. -/
theorem stop_fence_bench :
    Along step NoReplay init
      [.submit 1 [1] 0 500 100, .submit 0 [0] 10 500 100, .next 20 0, .complete 1 30 true,
        .resume true, .submit 1 [2] 40 900 100, .next 50 400] :=
  (stop_fence _).2 (by decide +kernel)

/-- The wheels' job runs out at 400 and lies behind the arm's in the turn: at 600 the arm's job
is handed out. -/
theorem fence_misses_queued_expiry :
    ¬ ∀ calls : List Call, Along step Fenced init calls ∧ Along step NoReplay init calls := by
  intro h
  have hrun := (h [.submit 2 [1] 0 500 100, .submit 1 [2] 0 10000 100, .next 600 1000]).1
  revert hrun
  decide +kernel

end Watched

end MobileBimanual.Bus
