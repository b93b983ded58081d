/-
# The delivery of a STOP

A router that is inhibited hands nothing out but STOPs.  One such packet waits in its slot
(`Waiting`), is on the bus (`Flying`), or is what the receipt acknowledges (`Landed`); `Bound` adds
the router that is faulted with an empty slot, which has lost it.  Every operation keeps a packet
bound, but for the two that lose it: the scan that finds the waiting packet late, and the recovery
of a bus that had it in flight.  `after` is the token noted when it was queued, `spare` the number
of tokens the bus is to have left behind it.

Where nothing is lost, the readings of the clock can be chosen so that it is delivered: what is on
the bus completes in time (`complete_inTime`), and the packet goes out (`next_inTime`).
-/
import MobileBimanual.Bus.Fence
import MobileBimanual.Bus.Receipts

namespace MobileBimanual.Bus

open MobileBimanual.Stream (Byte Tick)
open Search

namespace Router

/-! ## 1. Where the packet is -/

structure Waiting (r : Router) (bytes : List Byte) : Prop where
  pending : (r.jobs .stop).pending = true
  bytes : (r.jobs .stop).bytes = bytes
  positive : (r.jobs .stop).budgetUs ≠ 0
  small : (r.jobs .stop).budgetUs.toNat + 1 < 2 ^ 31

structure Flying (r : Router) (after : Tick) (bytes : List Byte) : Prop where
  empty : (r.jobs .stop).pending = false
  active : r.bus.active = true
  intact : r.bus.faulted = false
  owner : r.bus.owner = .stop
  bytes : r.activeBytes = bytes
  ahead : after < r.bus.token

structure Landed (r : Router) (after : Tick) (bytes : List Byte) : Prop where
  empty : (r.jobs .stop).pending = false
  idle : r.bus.active = false
  intact : r.bus.faulted = false
  kind : r.completed.kind = .stop
  bytes : r.completed.bytes = bytes
  ahead : after < r.completed.token

/-- The bus has this many tokens left. -/
def Room (r : Router) (n : Nat) : Prop := r.bus.token.toNat + n ≤ lastToken.toNat

instance (r : Router) (n : Nat) : Decidable (Room r n) :=
  inferInstanceAs (Decidable (_ ≤ _))

inductive Delivery (r : Router) (spare : Nat) (after : Tick) (bytes : List Byte) : Prop
  | waiting (h : Waiting r bytes) (behind : after ≤ r.bus.token) (room : Room r (spare + 1))
  | flying (h : Flying r after bytes) (room : Room r spare)
  | landed (h : Landed r after bytes) (room : Room r spare)

/-- A faulted bus and nothing behind it. -/
structure Stuck (r : Router) : Prop where
  faulted : r.bus.faulted = true
  empty : (r.jobs .stop).pending = false

inductive Bound (r : Router) (spare : Nat) (after : Tick) (bytes : List Byte) : Prop
  | stuck (h : Stuck r)
  | delivery (h : Delivery r spare after bytes)

/-- What is on the bus was given a budget. -/
def Timed (r : Router) : Prop := r.bus.active = true → r.bus.budgetUs ≠ 0

variable {r s t : Router} {spare : Nat} {after : Tick} {bytes : List Byte}

variable {n : Nat}

theorem Room.left (h : Room r (n + 1)) : r.bus.token ≠ lastToken := by
  unfold Room at h
  intro heq
  rw [heq] at h
  omega

/-! ## 2. Operations that leave the packet alone -/

/-- The transaction and the STOP slot are the same; the bus may have faulted, and the router have
been inhibited. -/
structure Undisturbed (r s : Router) : Prop where
  same : SameTransaction r s
  bytes : s.activeBytes = r.activeBytes
  slot : s.jobs .stop = r.jobs .stop
  inhibited : r.inhibited = true → s.inhibited = true

namespace Undisturbed

theorem refl (r : Router) : Undisturbed r r := ⟨.refl r, rfl, rfl, id⟩

theorem trans (h : Undisturbed r s) (h' : Undisturbed s t) : Undisturbed r t :=
  ⟨h.same.trans h'.same, h'.bytes.trans h.bytes, h'.slot.trans h.slot,
    h'.inhibited ∘ h.inhibited⟩

theorem poll (r : Router) (now : Tick) : Undisturbed r (r.poll now) :=
  ⟨.poll r now, rfl, rfl, id⟩

theorem inhibit (r : Router) : Undisturbed r r.inhibit :=
  ⟨⟨rfl, rfl, rfl, rfl, rfl, rfl, id⟩, rfl, rfl, fun _ => rfl⟩

theorem requestStop (r : Router) : Undisturbed r r.requestStop :=
  ⟨⟨rfl, rfl, rfl, rfl, rfl, rfl, id⟩, rfl, rfl, id⟩

theorem flush (r : Router) : Undisturbed r r.flush :=
  ⟨⟨rfl, rfl, rfl, rfl, rfl, rfl, id⟩, rfl, rfl, id⟩

theorem faultStop (r : Router) : Undisturbed r { r with bus := r.bus.faultStop } :=
  ⟨⟨rfl, rfl, rfl, rfl, rfl, rfl, fun _ => rfl⟩, rfl, rfl, id⟩

theorem room (h : Undisturbed r s) {n : Nat} (hr : Room r n) : Room s n := by
  rw [Room, h.same.token]
  exact hr

theorem timed (h : Undisturbed r s) (hr : Timed r) : Timed s := by
  rw [Timed, h.same.active, h.same.budgetUs]
  exact hr

theorem waiting (h : Undisturbed r s) (hr : Waiting r bytes) : Waiting s bytes := by
  obtain ⟨hpending, hbytes, hpositive, hsmall⟩ := hr
  rw [← h.slot] at hpending hbytes hpositive hsmall
  exact ⟨hpending, hbytes, hpositive, hsmall⟩

theorem flying (h : Undisturbed r s) (hr : Flying r after bytes) (hintact : s.bus.faulted = false) :
    Flying s after bytes where
  empty := by rw [h.slot]; exact hr.empty
  active := h.same.active.trans hr.active
  intact := hintact
  owner := h.same.owner.trans hr.owner
  bytes := h.bytes.trans hr.bytes
  ahead := by rw [h.same.token]; exact hr.ahead

theorem landed (h : Undisturbed r s) (hr : Landed r after bytes) (hintact : s.bus.faulted = false) :
    Landed s after bytes where
  empty := by rw [h.slot]; exact hr.empty
  idle := h.same.active.trans hr.idle
  intact := hintact
  kind := by rw [h.same.completed]; exact hr.kind
  bytes := by rw [h.same.completed]; exact hr.bytes
  ahead := by rw [h.same.completed]; exact hr.ahead

theorem stuck (h : Undisturbed r s) (hr : Stuck r) : Stuck s :=
  ⟨h.same.faulted hr.faulted, by rw [h.slot]; exact hr.empty⟩

theorem bound (h : Undisturbed r s) (hr : Bound r spare after bytes) : Bound s spare after bytes := by
  rcases hr with hstuck | ⟨hwaiting, hbehind, hroom⟩ | ⟨hflying, hroom⟩ | ⟨hlanded, hroom⟩
  · exact .stuck (h.stuck hstuck)
  · refine .delivery (.waiting (h.waiting hwaiting) ?_ (h.room hroom))
    rw [h.same.token]
    exact hbehind
  · cases hf : s.bus.faulted
    · exact .delivery (.flying (h.flying hflying hf) (h.room hroom))
    · exact .stuck ⟨hf, by rw [h.slot]; exact hflying.empty⟩
  · cases hf : s.bus.faulted
    · exact .delivery (.landed (h.landed hlanded hf) (h.room hroom))
    · exact .stuck ⟨hf, by rw [h.slot]; exact hlanded.empty⟩

end Undisturbed

/-! ## 3. The scan of an inhibited router -/

theorem scanOrder_eq (cursor : Nat) :
    ∃ rest, scanOrder cursor = .stop :: rest ∧ Work.stop ∉ rest := by
  have hindex : ∀ i, i ≠ 0 → 0 < scanIndex cursor i := by
    intro i hi
    rw [scanIndex, if_neg hi]
    exact Nat.lt_of_lt_of_le Nat.zero_lt_one (Nat.le_add_right 1 _)
  have hother : ∀ i, i ≠ 0 → ∀ work, Work.ofNat? (scanIndex cursor i) = some work →
      work ≠ .stop := by
    rintro i hi work hwork rfl
    have hzero := Work.toNat_of_ofNat? hwork
    have hpositive := hindex i hi
    rw [← hzero] at hpositive
    exact Nat.lt_irrefl 0 hpositive
  refine ⟨([1, 2, 3, 4] : List Nat).filterMap fun i => Work.ofNat? (scanIndex cursor i), rfl, ?_⟩
  intro hmem
  obtain ⟨i, hi, hwork⟩ := List.mem_filterMap.mp hmem
  refine hother i ?_ .stop hwork rfl
  rintro rfl
  simp at hi

variable {now available : Tick}

/-- An inhibited router passes the other slots over. -/
theorem scan_skips (hi : r.inhibited = true) :
    ∀ {l : List Work}, Work.stop ∉ l → search (visit now available) r l = (r, none)
  | [], _ => rfl
  | kind :: l, hl => by
    have hkind : kind ≠ .stop := fun h => hl (h ▸ List.mem_cons_self)
    have hvisit : visit now available r kind = (r, none) := by
      unfold visit
      rw [if_pos]
      simp [hi, hkind]
    rw [search_cons_none hvisit]
    exact scan_skips hi fun h => hl (List.mem_cons_of_mem kind h)

/-- **The next job of an inhibited router** is its STOP or none. -/
theorem next_of_inhibited (hi : r.inhibited = true) (hidle : r.bus.active = false)
    (hintact : r.bus.faulted = false) : r.next now available = visit now available r .stop := by
  rcases r.next_cases now available with ⟨hbusy, -⟩ | ⟨-, -, heq⟩
  · rw [hidle, hintact] at hbusy
    rcases hbusy with h | h <;> cases h
  rw [heq]
  obtain ⟨rest, horder, hrest⟩ := scanOrder_eq r.cursor
  rw [horder]
  have hinhibited : (visit now available r .stop).1.inhibited = true := visit_inhibited hi
  generalize hfind : visit now available r .stop = found at hinhibited ⊢
  obtain ⟨s, _ | out⟩ := found
  · rw [search_cons_none hfind]
    exact scan_skips hinhibited hrest
  · exact search_cons_some hfind rest

/-- An empty STOP slot has nothing for it. -/
theorem visit_empty (h : (r.jobs .stop).pending = false) :
    visit now available r .stop = (r, none) := by
  unfold visit
  rw [if_pos]
  simp [h]

/-- An inhibited router without a STOP hands nothing out. -/
theorem next_of_empty (hi : r.inhibited = true) (hempty : (r.jobs .stop).pending = false) :
    Undisturbed r (r.next now available).1 := by
  rcases r.next_cases now available with ⟨-, heq⟩ | ⟨hidle, hintact, -⟩
  · rw [heq]
    exact .poll r now
  · rw [next_of_inhibited hi hidle hintact, visit_empty hempty]
    exact .refl r

/-! ## 4. What keeps the packet bound -/

theorem Waiting.handOut (h : Waiting r bytes) (hidle : r.bus.active = false)
    (hintact : r.bus.faulted = false) (hbehind : after ≤ r.bus.token) (now : Tick)
    (hleft : r.bus.token ≠ lastToken) : Flying (r.handOut now .stop) after bytes where
  empty := by simp [Router.handOut, Router.drop]
  active := rfl
  intact := by
    simp only [Router.handOut, SharedBus.poll_of_idle hidle]
    exact hintact
  owner := rfl
  bytes := h.bytes
  ahead := Booked.token_lt hbehind (Booked.lt_succ_of_left hleft)

theorem Room.handOut (h : Room r (n + 1)) (now : Tick) (kind : Work) :
    Room (r.handOut now kind) n := by
  have hsucc : (r.bus.token + 1).toNat = r.bus.token.toNat + 1 := by
    have hlast : lastToken.toNat = 2 ^ 32 - 1 := rfl
    unfold Room at h
    rw [BitVec.toNat_add]
    have hone : (1 : Tick).toNat = 1 := rfl
    omega
  unfold Room at h ⊢
  simp only [Router.handOut, hsucc]
  omega

theorem Bound.room (h : Bound r spare after bytes) (hpending : (r.jobs .stop).pending = true) :
    Room r (spare + 1) := by
  rcases h with hstuck | ⟨-, -, hroom⟩ | ⟨hflying, -⟩ | ⟨hlanded, -⟩
  · rw [hstuck.empty] at hpending
    cases hpending
  · exact hroom
  · rw [hflying.empty] at hpending
    cases hpending
  · rw [hlanded.empty] at hpending
    cases hpending

/-- The scan finds the STOP late. -/
def Lapses (r : Router) (nowUs : Tick) : Prop :=
  r.bus.active = false ∧ r.bus.faulted = false ∧ (r.jobs .stop).expired nowUs = true

/-- **A scan that does not find it late keeps the packet bound.** -/
theorem Bound.next (h : Bound r spare after bytes) (hi : r.inhibited = true)
    (hkept : ¬ Lapses r now) : Bound (r.next now available).1 spare after bytes := by
  by_cases hbusy : r.bus.active = true ∨ r.bus.faulted = true
  · rcases r.next_cases now available with ⟨-, heq⟩ | ⟨hidle, hintact, -⟩
    · rw [heq]
      exact (Undisturbed.poll r now).bound h
    · rw [hidle, hintact] at hbusy
      rcases hbusy with h | h <;> cases h
  simp only [not_or, Bool.not_eq_true] at hbusy
  obtain ⟨hidle, hintact⟩ := hbusy
  rw [next_of_inhibited hi hidle hintact]
  rcases h with hstuck | ⟨hwaiting, hbehind, hroom⟩ | ⟨hflying, hroom⟩ | ⟨hlanded, hroom⟩
  · rw [visit_empty hstuck.empty]
    exact .stuck hstuck
  · rcases visit_cases now available r .stop with
      ⟨⟨hempty⟩ | ⟨-, hne⟩, -⟩ | ⟨hexpired, -, -⟩ | ⟨-, -, heq⟩ | ⟨-, hlast, -⟩ | ⟨-, -, heq⟩
    · rw [hwaiting.pending] at hempty
      cases hempty
    · exact absurd rfl hne
    · exact absurd ⟨hidle, hintact, hexpired⟩ hkept
    · rw [heq]
      exact (Undisturbed.poll r now).bound (.delivery (.waiting hwaiting hbehind hroom))
    · exact absurd hlast hroom.left
    · rw [heq]
      exact .delivery (.flying (hwaiting.handOut hidle hintact hbehind now hroom.left)
        (hroom.handOut now .stop))
  · rw [hflying.active] at hidle
    cases hidle
  · rw [visit_empty hlanded.empty]
    exact .delivery (.landed hlanded hroom)

/-- What a completion leaves. -/
def acknowledge (r : Router) (nowUs : Tick) : Router :=
  { r with
    bus := { r.bus.poll nowUs with
      active := false
      stopPending := (r.bus.poll nowUs).stopPending && r.bus.owner != .stop }
    completed := { token := r.bus.token, us := nowUs, kind := r.bus.owner, bytes := r.activeBytes } }

/-- A completion is refused or fails, which leaves everything alone, or is acknowledged. -/
theorem complete_outcome (r : Router) (token now : Tick) (ok : Bool) :
    (Undisturbed r (r.complete token now ok).1 ∧ (r.complete token now ok).2 = false) ∨
    (r.bus.active = true ∧ (r.bus.poll now).faulted = false ∧
      r.complete token now ok = (r.acknowledge now, true)) := by
  rcases r.complete_cases token now ok with
    heq | ⟨-, -, -, -, heq⟩ | ⟨hactive, rfl, hintact, -, heq⟩
  · left
    rw [heq]
    exact ⟨Undisturbed.poll r now, rfl⟩
  · left
    rw [heq]
    exact ⟨(Undisturbed.poll r now).trans (Undisturbed.faultStop _), rfl⟩
  · right
    exact ⟨hactive, hintact, heq⟩

theorem Waiting.acknowledge (h : Waiting r bytes) (now : Tick) :
    Waiting (r.acknowledge now) bytes := ⟨h.pending, h.bytes, h.positive, h.small⟩

theorem Room.acknowledge (h : Room r n) (now : Tick) : Room (r.acknowledge now) n := by
  unfold Room at h ⊢
  simpa [Router.acknowledge] using h

theorem Flying.acknowledge (h : Flying r after bytes) (hintact : (r.bus.poll now).faulted = false) :
    Landed (r.acknowledge now) after bytes where
  empty := h.empty
  idle := rfl
  intact := hintact
  kind := h.owner
  bytes := h.bytes
  ahead := h.ahead

/-- **A completion keeps the packet bound**: it lands, or was not what was in flight. -/
theorem Bound.acknowledge (h : Bound r spare after bytes) (hactive : r.bus.active = true)
    (hintact : (r.bus.poll now).faulted = false) : Bound (r.acknowledge now) spare after bytes := by
  rcases h with hstuck | ⟨hwaiting, hbehind, hroom⟩ | ⟨hflying, hroom⟩ | ⟨hlanded, hroom⟩
  · rw [SharedBus.poll_faulted hstuck.faulted] at hintact
    cases hintact
  · refine .delivery (.waiting (hwaiting.acknowledge now) ?_ (hroom.acknowledge now))
    simpa [Router.acknowledge] using hbehind
  · exact .delivery (.landed (hflying.acknowledge hintact) (hroom.acknowledge now))
  · rw [hlanded.idle] at hactive
    cases hactive

theorem Bound.complete (h : Bound r spare after bytes) (token now : Tick) (ok : Bool) :
    Bound (r.complete token now ok).1 spare after bytes := by
  rcases r.complete_outcome token now ok with ⟨hsame, -⟩ | ⟨hactive, hintact, heq⟩
  · exact hsame.bound h
  · rw [heq]
    exact h.acknowledge hactive hintact

/-- **A recovery keeps a packet that waits.** -/
theorem Bound.recover (h : Bound r spare after bytes) (idle : Bool)
    (hkept : r.bus.faulted = true → (r.jobs .stop).pending = true) :
    Bound (r.recover idle).1 spare after bytes := by
  rcases r.recover_cases idle with heq | ⟨hfaulted, heq⟩
  · rw [heq]
    exact h
  rw [heq]
  have hpending := hkept hfaulted
  rcases h with hstuck | ⟨hwaiting, hbehind, hroom⟩ | ⟨hflying, -⟩ | ⟨hlanded, -⟩
  · rw [hstuck.empty] at hpending
    cases hpending
  · exact .delivery (.waiting ⟨hwaiting.pending, hwaiting.bytes, hwaiting.positive, hwaiting.small⟩
      hbehind hroom)
  · rw [hflying.empty] at hpending
    cases hpending
  · rw [hlanded.empty] at hpending
    cases hpending

/-- A budget is given with every hand-out. -/
theorem Timed.call (h : Timed r) (c : Call) : Timed (r.call c) := by
  cases r.call_effect c with
  | quiet nothing done held same fault =>
    rw [Timed, same.active, same.budgetUs]
    exact h
  | handsOut out found done held idle left token current active receipt =>
    cases c with
    | next now available =>
      rcases next_rule (r := r) (P := fun _ => True) trivial
        (fun _ _ _ _ => trivial) with ⟨hnone, -⟩ | ⟨s, kind, -, hoffered, -, heq⟩
      · rw [handout, hnone] at found
        cases found
      · obtain ⟨-, -, hgrants, -⟩ := offered_iff.mp hoffered
        intro _
        rw [Router.call, heq]
        exact (SharedBus.grants_iff.mp hgrants).1
    | _ => cases found
  | completes now call done active intime token free =>
    intro hactive
    rw [free] at hactive
    cases hactive
  | recovers call held faulted token free receipt =>
    intro hactive
    rw [free] at hactive
    cases hactive

/-- A scan fills no slot. -/
theorem next_slot (h : ((r.next now available).1.jobs .stop).pending = true) :
    (r.next now available).1.jobs .stop = r.jobs .stop := by
  have hdrop : ∀ {s : Router} {kind : Work}, ((s.drop kind).jobs .stop).pending = true →
      (s.drop kind).jobs .stop = s.jobs .stop := by
    intro s kind hp
    obtain ⟨hne, -⟩ := drop_pending.mp hp
    simp [drop, Function.update_of_ne hne]
  have hrule := @next_rule (fun s => (s.jobs .stop).pending = true → s.jobs .stop = r.jobs .stop)
    r now available (fun _ => rfl) ?_
  · rcases hrule with ⟨-, hkept⟩ | ⟨s, kind, hs, -, -, heq⟩
    · exact hkept h
    · rw [heq] at h ⊢
      exact (hdrop h).trans (hs (drop_pending.mp h).2)
  · intro s kind hs hnone hp
    rcases visit_cases now available s kind with
      ⟨-, heq⟩ | ⟨-, -, heq⟩ | ⟨-, -, heq⟩ | ⟨-, -, heq⟩ | ⟨-, -, heq⟩
    · rw [heq] at hp ⊢
      exact hs hp
    · rw [heq] at hp ⊢
      exact (hdrop hp).trans (hs (drop_pending.mp hp).2)
    · rw [heq] at hp ⊢
      exact hs hp
    · rw [heq] at hp ⊢
      exact hs hp
    · rw [heq] at hnone
      cases hnone

/-- A scan writes no receipt. -/
theorem next_completed (r : Router) (now available : Tick) :
    (r.next now available).1.completed = r.completed := by
  cases r.next_effect now available with
  | quiet nothing done held same fault => exact same.completed
  | handsOut out found done held idle left token current active receipt => exact receipt
  | completes now call => cases call
  | recovers call held => cases held

/-- The token of the bus never falls. -/
theorem next_token (r : Router) (now available : Tick) :
    r.bus.token ≤ (r.next now available).1.bus.token := by
  cases r.next_effect now available with
  | quiet nothing done held same fault =>
    have htoken : (r.next now available).1.bus.token = r.bus.token := same.token
    rw [htoken]
    exact BitVec.le_refl _
  | handsOut out found done held idle left token current active receipt =>
    have htoken : (r.next now available).1.bus.token = r.bus.token + 1 := current
    rw [htoken]
    exact BitVec.le_of_lt (Booked.lt_succ_of_left left)
  | completes now call => cases call
  | recovers call held => cases held

/-- A late STOP is dropped. -/
theorem next_of_lapses (hi : r.inhibited = true) (h : r.Lapses now) :
    (r.next now available).1 = r.expire .stop := by
  obtain ⟨hidle, hintact, hexpired⟩ := h
  rw [next_of_inhibited hi hidle hintact]
  unfold visit
  simp only [Job.expired, Bool.and_eq_true] at hexpired
  rw [if_neg (by simp [hexpired.1]), if_pos hexpired.2]

/-! ## 5. In time -/

/-- **What is on the bus can complete.** -/
theorem complete_inTime (hactive : r.bus.active = true) (hintact : r.bus.faulted = false)
    (htimed : Timed r) :
    (r.bus.poll r.bus.startedUs).faulted = false ∧
      r.complete r.bus.token r.bus.startedUs true = (r.acknowledge r.bus.startedUs, true) := by
  have hpoll : r.bus.poll r.bus.startedUs = r.bus := by
    unfold SharedBus.poll
    rw [if_neg]
    simp only [SharedBus.overrun, hactive, Bool.true_and, decide_eq_true_eq, BitVec.sub_self,
      BitVec.not_le]
    rw [BitVec.lt_def]
    exact Nat.pos_of_ne_zero fun hzero => htimed hactive (BitVec.eq_of_toNat_eq hzero)
  refine ⟨by rw [hpoll]; exact hintact, ?_⟩
  rcases r.complete_cases r.bus.token r.bus.startedUs true with
    heq | ⟨-, -, -, hok, -⟩ | ⟨-, -, -, -, heq⟩
  · unfold Router.complete SharedBus.complete at heq
    simp only [hpoll, hactive, hintact] at heq
    simp at heq
  · cases hok
  · exact heq

/-- The last microsecond at which the STOP is handed out. -/
def lastCall (r : Router) : Tick := (r.jobs .stop).deadlineUs - ((r.jobs .stop).budgetUs + 1)

theorem budget_succ (h : Waiting r bytes) :
    ((r.jobs .stop).budgetUs + 1).toNat = (r.jobs .stop).budgetUs.toNat + 1 := by
  have hsmall := h.small
  have hone : (1 : Tick).toNat = 1 := rfl
  rw [BitVec.toNat_add]
  omega

theorem lastCall_inTime (h : Waiting r bytes) : (r.jobs .stop).expired r.lastCall = false := by
  have hremaining : (r.jobs .stop).deadlineUs - r.lastCall = (r.jobs .stop).budgetUs + 1 := by
    rw [lastCall]
    bv_omega
  have hnat := budget_succ h
  have hsmall := h.small
  have hhalf : halfCircle.toNat = 2 ^ 31 := rfl
  unfold Job.expired Job.late
  simp only [hremaining, Bool.and_eq_false_iff, Bool.or_eq_false_iff, beq_eq_false_iff_ne, ne_eq,
    decide_eq_false_iff_not, BitVec.not_le]
  refine Or.inr ⟨⟨fun hzero => ?_, ?_⟩, ?_⟩
  · rw [hzero] at hnat
    have hnil : (0 : Tick).toNat = 0 := rfl
    omega
  · rw [BitVec.lt_def]
    omega
  · rw [BitVec.lt_def]
    omega

/-- **The waiting packet can go out.** -/
theorem next_inTime (h : Waiting r bytes) (hi : r.inhibited = true) (hidle : r.bus.active = false)
    (hintact : r.bus.faulted = false) (hleft : r.bus.token ≠ lastToken) :
    (r.next r.lastCall 0).1 = r.handOut r.lastCall .stop := by
  have hgrants : (r.bus.poll r.lastCall).grants .stop (r.jobs .stop).budgetUs 0 = true := by
    rw [SharedBus.poll_of_idle hidle, SharedBus.grants_iff]
    have hsmall := h.small
    have hhalf : halfCircle.toNat = 2 ^ 31 := rfl
    refine ⟨h.positive, ?_, ?_, hintact, hidle, fun _ => rfl, fun hne => absurd rfl hne⟩
    · rw [BitVec.lt_def]
      omega
    · rw [BitVec.lt_def, hhalf]
      exact Nat.two_pow_pos 31
  rw [next_of_inhibited hi hidle hintact]
  rcases visit_cases r.lastCall 0 r .stop with
    ⟨⟨hempty⟩ | ⟨-, hne⟩, -⟩ | ⟨hexpired, -, -⟩ | ⟨-, hno, -⟩ | ⟨-, hlast, -⟩ | ⟨-, -, heq⟩
  · exact absurd (h.pending.symm.trans hempty) (by decide)
  · exact absurd rfl hne
  · exact absurd ((lastCall_inTime h).symm.trans hexpired) (by decide)
  · exact absurd (hgrants.symm.trans hno) (by decide)
  · exact absurd hlast hleft
  · rw [heq]

end Router

end MobileBimanual.Bus
