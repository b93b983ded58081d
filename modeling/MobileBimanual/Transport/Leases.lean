/-
# One lease, and the fence of a stop

What the leases of a UART keep to, in whatever order its callers and its router act and whatever
the HAL answers.

* At most one lease is out, and only the lease that is out sends.
* A lease taken behind a stop that still stands, and for no STOP, sends nothing but reads: `begin`
  refuses it, a cleanup lease may not send, and a read-only lease has its packets checked.
* The owner record, the transaction and the bus of the router agree on who has the UART.

Three calls break this.  A claim that finds no job and then the line busy keeps a lease nobody has
the token of; a recovery under the router's last token frees the gate and not the transaction; and
the packet checks of the wheel images let a read-only lease write.  `leases_iff_clean` says that
these are the only ones.
-/
import MobileBimanual.Bus.Completion
import MobileBimanual.Bus.Fence
import MobileBimanual.Transport.Queue

namespace MobileBimanual.Transport

open MobileBimanual.Stream (Byte Tick)
open MobileBimanual.Bus (Work Router Handout lastToken Latched SameTransaction)
open MobileBimanual.Mobile (MobileIds)
open History Machine

/-! ## 1. Leases in the log -/

section Log

variable {token other : Tick} {kind : Work} {log : List LeaseEntry} {e : LeaseEntry}

/-- The lease was given and is not back. -/
def Holds (token : Tick) (log : List LeaseEntry) : Prop :=
  Since (fun e => ∃ kind, e = .leased token kind) (· = .released token) log

/-- A stop that was not resumed. -/
def Standing (log : List LeaseEntry) : Prop := Since (· = .stopRequested) (· = .resumed) log

/-- The lease was taken behind a stop that still stands, and for no STOP. -/
def Shut (token : Tick) (log : List LeaseEntry) : Prop :=
  ∃ between kind before, log = between ++ .leased token kind :: before ∧ Standing before ∧
    .resumed ∉ between ∧ kind ≠ .stop

/-- Only the lease that is out sends, and nothing but reads if a stop has shut it. -/
def Heeds (earlier : List LeaseEntry) : LeaseEntry → Prop
  | .sent token data => Holds token earlier ∧ (IsRead data ∨ ¬ Shut token earlier)
  | _ => True

theorem holds_leased :
    Holds token (.leased other kind :: log) ↔ other = token ∨ Holds token log := by
  simp [Holds, eq_comm]

theorem holds_released :
    Holds token (.released other :: log) ↔ token ≠ other ∧ Holds token log := by
  simp [Holds, eq_comm]

theorem standing_leased : Standing (.leased token kind :: log) ↔ Standing log :=
  since_cons_of_not (by simp) (by simp)

/-- The entries that give no lease and take none back. -/
def Passes : LeaseEntry → Prop
  | .leased _ _ => False
  | .released _ => False
  | _ => True

theorem Passes.holds (h : Passes e) : Holds token (e :: log) ↔ Holds token log := by
  refine since_cons_of_not ?_ ?_
  · rintro ⟨kind, rfl⟩
    exact h
  · rintro rfl
    exact h

theorem Shut.of_cons (h : Shut token (e :: log)) (he : ∀ kind, e ≠ .leased token kind) :
    Shut token log := by
  obtain ⟨between, kind, before, hlog, hstands, hresumed, hkind⟩ := h
  cases between with
  | nil => exact absurd (List.cons.inj hlog).1 (he kind)
  | cons e' between =>
    obtain ⟨rfl, rfl⟩ := List.cons.inj hlog
    exact ⟨between, kind, before, rfl, hstands, fun hmem => hresumed (List.mem_cons_of_mem _ hmem),
      hkind⟩

theorem Shut.of_leased (h : Shut token (.leased token kind :: log)) :
    (Standing log ∧ kind ≠ .stop) ∨ Shut token log := by
  obtain ⟨between, kind', before, hlog, hstands, hresumed, hkind⟩ := h
  cases between with
  | nil =>
    obtain ⟨heq, rfl⟩ := List.cons.inj hlog
    cases heq
    exact .inl ⟨hstands, hkind⟩
  | cons e' between =>
    obtain ⟨rfl, rfl⟩ := List.cons.inj hlog
    exact .inr ⟨between, kind', before, rfl, hstands,
      fun hmem => hresumed (List.mem_cons_of_mem _ hmem), hkind⟩

theorem Shut.leased (h : Shut token log) : ∃ kind, LeaseEntry.leased token kind ∈ log := by
  obtain ⟨between, kind, before, rfl, -⟩ := h
  exact ⟨kind, List.mem_append_right _ List.mem_cons_self⟩

end Log

/-! ## 2. What is kept -/

/-- A STOP that is queued has shut the router. -/
def Guarded (r : Router) : Prop := (r.jobs .stop).pending = true → r.inhibited = true

/-- The three flags of one UART tell the same. -/
structure Channel.Agrees (c : Channel) : Prop where
  bus : c.transaction.active = c.router.bus.active
  gate : c.gate.owner.active = true ↔ c.gate.Direct ∨ c.transaction.active = true
  lease : c.transaction.active = true →
    c.gate.owner.owns c.transaction.gateToken = true ∧ ¬ c.gate.Direct ∧
      c.transaction.routerToken = c.router.bus.token

/-- What a UART promises. -/
structure Channel.Orderly (c : Channel) : Prop where
  one : ∀ token other, Holds token c.gate.log → Holds other c.gate.log → token = other
  heeds : Lawful Heeds c.gate.log
  agrees : c.Agrees

/-- The tokens that were given out are behind the owner's; the lease in the log is the owner's; and
an owner that a stop has shut either may not send or is held to reads. -/
structure Gate.Kept (g : Gate) : Prop where
  given : ∀ token kind, .leased token kind ∈ g.log → token.toNat ≤ g.owner.token.toNat
  direct : ∀ token ∈ g.direct, token.toNat ≤ g.owner.token.toNat
  holds : ∀ token, Holds token g.log ↔ g.owner.active = true ∧ g.owner.token = token
  named : g.owner.active = true → g.owner.token ≠ 0
  stands : Standing g.log → g.owner.stopRequired = true
  shut : g.owner.active = true → g.owner.transmitAllowed = true → Shut g.owner.token g.log →
    g.owner.readOnly = true
  heeds : Lawful Heeds g.log

structure Channel.Kept (c : Channel) : Prop where
  gate : c.gate.Kept
  agrees : c.Agrees
  stop : Guarded c.router

theorem Channel.Kept.orderly {c : Channel} (h : c.Kept) : c.Orderly where
  one token other htoken hother :=
    ((h.gate.holds token).mp htoken).2.symm.trans ((h.gate.holds other).mp hother).2
  heeds := h.gate.heeds
  agrees := h.agrees

theorem Gate.kept_free : Gate.free.Kept where
  given _ _ hmem := by cases hmem
  direct _ hmem := by cases hmem
  holds token := by simp [Holds, free, Owner.free]
  named hactive := by cases hactive
  stands hstands := hstands.elim
  shut hactive := by cases hactive
  heeds := lawful_nil

theorem Channel.kept_free : Channel.free.Kept where
  gate := Gate.kept_free
  agrees :=
    { bus := rfl
      gate := by decide
      lease := fun hactive => by cases hactive }
  stop hpending := by cases hpending

/-! ## 3. The calls of the gate -/

/-- A lease is taken of a free owner.  It has the next token, and where a stop is required it is
for a STOP, or may not send, or is held to reads. -/
structure Owner.Takes (o o' : Owner) : Prop where
  free : o.active = false
  left : o.token ≠ lastToken
  token : o'.token = o.token + 1
  active : o'.active = true
  stops : o.stopRequired = true → o'.stopRequired = true
  shut : o.stopRequired = true → o'.kind ≠ .stop → o'.transmitAllowed = true → o'.readOnly = true

/-- A call for a lease is refused, or takes one. -/
def Owner.Answers (o : Owner) (taken : Owner × Option Tick) : Prop :=
  taken = (o, none) ∨ (o.Takes taken.1 ∧ taken.2 = some taken.1.token)

namespace Owner

/-- What `begin` asks of the owner. -/
def Lets (o : Owner) (kind : Work) (ready : Bool) : Prop :=
  o.active = false ∧ ready = true ∧ (o.stopRequired = true → kind = .stop) ∧ o.token ≠ lastToken

variable (o : Owner)

theorem begin_cases (kind : Work) (ready : Bool) :
    (¬ o.Lets kind ready ∧ o.begin kind ready = (o, none)) ∨
    (o.Lets kind ready ∧ ∃ owner, o.Takes owner ∧
      o.begin kind ready = (owner, some owner.token)) := by
  rw [begin]
  split
  · next hbusy =>
    refine .inl ⟨?_, rfl⟩
    rintro ⟨hidle, rfl, hkind, hleft⟩
    cases hstop : o.stopRequired
    · simp [hidle, hstop, hleft] at hbusy
    · simp [hidle, hstop, hleft, hkind hstop] at hbusy
  · next hfree =>
    simp only [Bool.or_eq_true, Bool.not_eq_true', beq_iff_eq, Bool.and_eq_true, bne_iff_ne,
      not_or, not_and, ne_eq, not_not, Bool.not_eq_true, Bool.not_eq_false] at hfree
    obtain ⟨⟨⟨hidle, hready⟩, hkind⟩, hleft⟩ := hfree
    refine .inr ⟨⟨hidle, hready, hkind, hleft⟩, _,
      ⟨hidle, hleft, rfl, rfl, fun hstop => ?_, fun hstop hne => ?_⟩, rfl⟩
    · simp [hstop]
    · exact absurd (hkind hstop) hne

theorem answers_begin (kind : Work) (ready : Bool) : o.Answers (o.begin kind ready) := by
  rcases o.begin_cases kind ready with ⟨-, heq⟩ | ⟨-, owner, ht, heq⟩ <;> rw [heq]
  · exact .inl rfl
  · exact .inr ⟨ht, rfl⟩

theorem answers_beginCleanup : o.Answers o.beginCleanup := by
  rw [beginCleanup]
  split
  · exact .inl rfl
  · next hfree =>
    simp only [Bool.or_eq_true, beq_iff_eq, not_or, Bool.not_eq_true] at hfree
    exact .inr ⟨⟨hfree.1, hfree.2, rfl, rfl, id, fun _ _ hsends => by cases hsends⟩, rfl⟩

theorem answers_beginReadOnly (ready : Bool) : o.Answers (o.beginReadOnly ready) := by
  rw [beginReadOnly]
  split
  · exact .inl rfl
  · next hfree =>
    simp only [Bool.or_eq_true, beq_iff_eq, not_or, Bool.not_eq_true] at hfree
    exact .inr ⟨⟨hfree.1.1, hfree.1.2, rfl, rfl, id, fun _ _ _ => rfl⟩, rfl⟩

theorem Takes.toNat {o o' : Owner} (h : o.Takes o') : o'.token.toNat = o.token.toNat + 1 := by
  rw [h.token, toNat_succ_token h.left]

/-- What a lease must be to send, and the packet. -/
theorem mayTransmit_cases (build : TransportBuild) (ids : MobileIds) (left : Bool) (o : Owner)
    (token : Tick) (data : List Byte) :
    o.mayTransmit build ids left token data = (o, false) ∨
    ∃ readSent, o.mayTransmit build ids left token data = ({ o with readSent }, true) ∧
      o.owns token = true ∧ o.transmitAllowed = true ∧
      (o.readOnly = true → ¬ build.Lax → IsRead data) := by
  rw [mayTransmit]
  split
  · exact .inl rfl
  next hsends =>
  simp only [Bool.or_eq_true, Bool.not_eq_true', not_or, Bool.not_eq_false] at hsends
  split
  · next hstandard =>
    refine .inr ⟨o.readSent, rfl, hsends.1.1, hsends.1.2, fun hread => ?_⟩
    rw [hstandard.2] at hread
    cases hread
  · split
    · exact .inl rfl
    · next hadmits =>
      simp only [Bool.or_eq_true, Bool.not_eq_true', not_or, Bool.not_eq_false] at hadmits
      refine .inr ⟨true, rfl, hsends.1.1, hsends.1.2, fun hread hlax => ?_⟩
      rw [hread] at hadmits
      exact isRead_of_admits hlax hadmits.2

end Owner

namespace Gate

variable {g : Gate}

theorem endLease_cases (g : Gate) (token : Tick) (abortTx aborted ready : Bool) :
    (¬ (g.owner.owns token = true ∧ (abortTx = true → aborted = true) ∧ ready = true) ∧
      ∃ status, status ≠ .ok ∧ g.endLease token abortTx aborted ready = (g, status)) ∨
    (g.owner.owns token = true ∧ (abortTx = true → aborted = true) ∧ ready = true ∧
      g.endLease token abortTx aborted ready =
        (g.note { g.owner with active := false } (.released token), .ok)) := by
  rw [endLease, Owner.endLease]
  cases howns : g.owner.owns token
  · exact .inl ⟨by simp, .error, by decide, rfl⟩
  cases ready <;> cases abortTx <;> cases aborted
  all_goals
    first
    | exact .inl ⟨by simp, .error, by decide, rfl⟩
    | exact .inl ⟨by simp, .busy, by decide, rfl⟩
    | exact .inr ⟨rfl, by decide, rfl, rfl⟩

namespace Kept

/-- What is noted beside the leases changes them in nothing. -/
theorem note (h : g.Kept) {owner : Owner} {e : LeaseEntry} (hpasses : Passes e)
    (htoken : owner.token = g.owner.token) (hactive : owner.active = g.owner.active)
    (hstands : Standing (e :: g.log) → owner.stopRequired = true)
    (hsends : owner.active = true → owner.transmitAllowed = g.owner.transmitAllowed ∧
      owner.readOnly = g.owner.readOnly)
    (hheeds : Heeds g.log e) : (g.note owner e).Kept where
  given token kind hmem := by
    rcases List.mem_cons.mp hmem with rfl | hmem
    · exact hpasses.elim
    · rw [Gate.note, htoken]
      exact h.given token kind hmem
  direct token hmem := by
    rw [Gate.note, htoken]
    exact h.direct token hmem
  holds token := by
    rw [Gate.note, hpasses.holds, h.holds, hactive, htoken]
  named hnow := by
    rw [Gate.note, htoken]
    exact h.named (hactive ▸ hnow)
  stands := hstands
  shut hnow hallowed hshut := by
    obtain ⟨hsame, hread⟩ := hsends hnow
    rw [Gate.note, hread]
    refine h.shut (hactive ▸ hnow) (hsame ▸ hallowed) ?_
    rw [← htoken]
    refine hshut.of_cons fun kind heq => ?_
    rw [heq] at hpasses
    exact hpasses
  heeds := ⟨hheeds, h.heeds⟩

theorem requestStop (h : g.Kept) : g.requestStop.Kept :=
  h.note trivial rfl rfl (fun _ => rfl) (fun _ => ⟨rfl, rfl⟩) trivial

theorem resumed (h : g.Kept) :
    (g.note { g.owner with stopRequired := false } .resumed).Kept := by
  refine h.note trivial rfl rfl ?_ (fun _ => ⟨rfl, rfl⟩) trivial
  rintro (heq | ⟨hresumed, -⟩)
  · cases heq
  · exact absurd rfl hresumed

variable {owner : Owner}

/-- **A lease is taken**: none was out, and its token is new to the log. -/
theorem takes (h : g.Kept) (ht : g.owner.Takes owner) :
    (g.note owner (.leased owner.token owner.kind)).Kept where
  given token kind hmem := by
    have hnat := ht.toNat
    rcases List.mem_cons.mp hmem with heq | hmem
    · cases heq
      exact Nat.le_refl _
    · have := h.given token kind hmem
      simp only [Gate.note]
      omega
  direct token hmem := by
    have hnat := ht.toNat
    have := h.direct token hmem
    simp only [Gate.note]
    omega
  holds token := by
    simp only [Gate.note, holds_leased, h.holds, ht.free, ht.active, Bool.false_eq_true, false_and,
      or_false, true_and]
  named _ := by
    simp only [Gate.note, ht.token]
    exact succ_token_ne_zero ht.left
  stands hstands := ht.stops (h.stands (standing_leased.mp hstands))
  shut _ hallowed hshut := by
    rcases hshut.of_leased with ⟨hstands, hkind⟩ | hbefore
    · exact ht.shut (h.stands hstands) hkind hallowed
    · obtain ⟨kind, hmem⟩ := hbefore.leased
      have hle := h.given _ kind hmem
      have hnat := ht.toNat
      simp only [Gate.note] at hle
      omega
  heeds := ⟨trivial, h.heeds⟩

/-- The lease goes under another kind. -/
theorem rekind (h : g.Kept) (hactive : g.owner.active = true) {kind : Work}
    (hkind : Standing g.log → kind = .stop) :
    (g.note { g.owner with kind } (.leased g.owner.token kind)).Kept where
  given token kind' hmem := by
    rcases List.mem_cons.mp hmem with heq | hmem
    · cases heq
      exact Nat.le_refl _
    · exact h.given token kind' hmem
  direct := h.direct
  holds token := by
    simp only [Gate.note, holds_leased, h.holds, hactive, true_and, or_self]
  named := h.named
  stands hstands := h.stands (standing_leased.mp hstands)
  shut hnow hallowed hshut := by
    rcases hshut.of_leased with ⟨hstands, hne⟩ | hbefore
    · exact absurd (hkind hstands) hne
    · exact h.shut hnow hallowed hbefore
  heeds := ⟨trivial, h.heeds⟩

variable {token : Tick}

theorem released (h : g.Kept) (howns : g.owner.owns token = true) :
    (g.note { g.owner with active := false } (.released token)).Kept where
  given token kind hmem := by
    rcases List.mem_cons.mp hmem with heq | hmem
    · cases heq
    · exact h.given token kind hmem
  direct := h.direct
  holds other := by
    obtain ⟨-, -, htoken⟩ := Owner.owns_iff.mp howns
    simp only [Gate.note, holds_released, h.holds, htoken]
    tauto
  named hnow := by cases hnow
  stands hstands := by
    refine h.stands ?_
    rcases hstands with heq | ⟨-, hstands⟩
    · cases heq
    · exact hstands
  shut hnow := by cases hnow
  heeds := ⟨trivial, h.heeds⟩

theorem endLease (h : g.Kept) (token : Tick) (abortTx aborted ready : Bool) :
    (g.endLease token abortTx aborted ready).1.Kept := by
  rcases g.endLease_cases token abortTx aborted ready with
    ⟨-, status, -, heq⟩ | ⟨howns, -, -, heq⟩ <;> rw [heq]
  · exact h
  · exact h.released howns

end Kept

/-- A read-only lease that a stop has shut writes: the packet checks of the wheel images do not
look at the lease. -/
def Trespasses (setup : TransportSetup) (g : Gate) (token : Tick) (data : List Byte)
    (rejected : Bool) : Prop :=
  setup.build.Lax ∧ g.owner.readOnly = true ∧ Shut token g.log ∧ ¬ IsRead data ∧
    rejected = false ∧ (g.owner.mayTransmit setup.build setup.ids setup.left token data).2 = true

/-- **Sending**: nothing goes out, or the lease that is out sends. -/
theorem transmit_cases (setup : TransportSetup) (g : Gate) (token : Tick) (data : List Byte)
    (rejected : Bool) :
    ∃ readSent,
      g.transmit setup.build setup.ids setup.left token data rejected =
          { g with owner := { g.owner with readSent } } ∨
      (g.transmit setup.build setup.ids setup.left token data rejected =
          g.note { g.owner with readSent } (.sent token data) ∧
        rejected = false ∧
        (g.owner.mayTransmit setup.build setup.ids setup.left token data).2 = true ∧
        g.owner.owns token = true ∧ g.owner.transmitAllowed = true ∧
        (g.owner.readOnly = true → ¬ setup.build.Lax → IsRead data)) := by
  rw [transmit]
  rcases g.owner.mayTransmit_cases setup.build setup.ids setup.left token data with
    heq | ⟨readSent, heq, howns, hallowed, hread⟩ <;> rw [heq]
  · exact ⟨g.owner.readSent, .inl rfl⟩
  · cases rejected
    · exact ⟨readSent, .inr ⟨rfl, rfl, rfl, howns, hallowed, hread⟩⟩
    · exact ⟨readSent, .inl rfl⟩

namespace Kept

theorem readSent (h : g.Kept) (readSent : Bool) :
    Kept { g with owner := { g.owner with readSent } } where
  given := h.given
  direct := h.direct
  holds := h.holds
  named := h.named
  stands := h.stands
  shut := h.shut
  heeds := h.heeds

variable {setup : TransportSetup}

theorem transmit (h : g.Kept) {data : List Byte} {rejected : Bool}
    (hclean : ¬ g.Trespasses setup token data rejected) :
    (g.transmit setup.build setup.ids setup.left token data rejected).Kept := by
  obtain ⟨readSent, heq | ⟨heq, hsent, hmay, howns, hallowed, hread⟩⟩ :=
    transmit_cases setup g token data rejected <;> rw [heq]
  · exact h.readSent readSent
  · obtain ⟨hactive, -, htoken⟩ := Owner.owns_iff.mp howns
    refine (h.readSent readSent).note trivial rfl rfl ?_ (fun _ => ⟨rfl, rfl⟩) ?_
    · rintro (hstop | ⟨-, hstands⟩)
      · cases hstop
      · exact h.stands hstands
    refine ⟨(h.holds token).mpr ⟨hactive, htoken⟩, ?_⟩
    -- a lease that a stop has shut is held to reads, in every image but the lax ones
    by_cases hshut : Shut token g.log
    · have honly : g.owner.readOnly = true := h.shut hactive hallowed (htoken ▸ hshut)
      by_cases hlax : setup.build.Lax
      · by_contra hwrites
        exact hclean ⟨hlax, honly, hshut, fun hread => hwrites (.inl hread), hsent, hmay⟩
      · exact .inl (hread honly hlax)
    · exact .inr hshut

end Kept

theorem Trespasses.not_heeds {data : List Byte} {rejected : Bool}
    (h : g.Trespasses setup token data rejected) :
    ¬ Lawful Heeds (g.transmit setup.build setup.ids setup.left token data rejected).log := by
  obtain ⟨-, -, hshut, hwrites, rfl, hmay⟩ := h
  rw [transmit]
  split
  · next heq =>
    rw [heq] at hmay
    cases hmay
  · rintro ⟨⟨-, hread | hopen⟩, -⟩
    · exact hwrites hread
    · exact hopen hshut

end Gate

/-! ## 4. The router under the gate -/

namespace Guarded

variable {r : Router}

theorem next (h : Guarded r) (nowUs availableUs : Tick) :
    Guarded (r.next nowUs availableUs).1 := by
  have hvisit : ∀ s kind, Guarded s → Guarded (Router.visit nowUs availableUs s kind).1 :=
    fun s kind hs hpending => Router.visit_inhibited (hs (Router.visit_pending hpending))
  rcases @Router.next_rule Guarded r nowUs availableUs h (fun s kind hs _ => hvisit s kind hs) with
    ⟨-, hnone⟩ | ⟨s, kind, hs, -, -, heq⟩
  · exact hnone
  · rw [heq]
    exact fun hpending => hs (Router.drop_pending.mp hpending).2

theorem submit (h : Guarded r) (kind : Nat) (bytes : List Byte)
    (nowUs deadlineUs budgetUs : Tick) :
    Guarded (r.submit kind bytes nowUs deadlineUs budgetUs).1 := by
  rcases r.submit_cases kind bytes nowUs deadlineUs budgetUs with
    ⟨-, -, heq⟩ | ⟨-, -, heq⟩ | ⟨-, -, heq⟩ | ⟨work, hwork, -, -, -, -, -, heq⟩ <;>
    rw [Router.call] at heq <;> rw [heq]
  · exact h
  · exact h
  · exact fun _ => rfl
  · intro hpending
    rcases Router.fill_pending.mp hpending with hstop | hpending
    · exact absurd hstop.symm hwork
    · exact h hpending

theorem complete (h : Guarded r) (token nowUs : Tick) (ok : Bool) :
    Guarded (r.complete token nowUs ok).1 := by
  rcases r.complete_cases token nowUs ok with heq | ⟨-, -, -, -, heq⟩ | ⟨-, -, -, -, heq⟩ <;>
    rw [heq] <;> exact h

end Guarded

/-- The transport of the job in flight failed: the bus is faulted, and still taken. -/
theorem complete_failed {r : Router} {token : Tick} (hactive : r.bus.active = true)
    (htoken : token = r.bus.token) (nowUs : Tick) :
    (r.complete token nowUs false).1.bus.faulted = true ∧
      (r.complete token nowUs false).1.bus.active = true ∧
      (r.complete token nowUs false).1.bus.token = r.bus.token := by
  simp only [Router.complete, Bus.SharedBus.complete, Bus.SharedBus.poll_active, hactive, htoken,
    Bus.SharedBus.poll_token, bne_self_eq_false, Bool.not_true, Bool.or_false, Bool.false_or]
  cases hfault : (r.bus.poll nowUs).faulted <;> simp [hfault, hactive, Bus.SharedBus.faultStop]

theorem recover_of_faulted {r : Router} (hfault : r.bus.faulted = true) :
    r.recover true = if r.bus.token = lastToken then (r, false) else
      ({ r with bus := { r.bus with active := false, faulted := false, stopPending := true } },
        true) := by
  rw [Router.recover, Bus.SharedBus.recover]
  by_cases hlast : r.bus.token = lastToken <;> simp [hfault, hlast]

/-- A submission leaves the transaction alone. -/
theorem submit_same (r : Router) (kind : Nat) (bytes : List Byte)
    (nowUs deadlineUs budgetUs : Tick) :
    SameTransaction r (r.submit kind bytes nowUs deadlineUs budgetUs).1 := by
  cases Router.submit_effect (r := r) kind bytes nowUs deadlineUs budgetUs with
  | quiet _ _ _ same _ => exact same
  | handsOut _ found => cases found
  | completes _ call => cases call
  | recovers call =>
    obtain ⟨idle, heq⟩ := call
    cases heq

/-- A look for the next job leaves the transaction alone, or starts the one it tells of. -/
theorem next_transaction (r : Router) (nowUs availableUs : Tick) :
    ((r.next nowUs availableUs).2 = none ∧ SameTransaction r (r.next nowUs availableUs).1) ∨
    ∃ out, (r.next nowUs availableUs).2 = some out ∧
      (r.next nowUs availableUs).1.bus.active = true ∧
      (r.next nowUs availableUs).1.bus.token = out.token := by
  cases Router.next_effect (r := r) nowUs availableUs with
  | quiet nothing _ _ same _ => exact .inl ⟨nothing, same⟩
  | handsOut out found _ _ _ _ token current active _ =>
    exact .inr ⟨out, found, active, current.trans token.symm⟩
  | completes _ call => cases call
  | recovers call =>
    obtain ⟨idle, heq⟩ := call
    cases heq

/-! ## 5. Queued transactions -/

namespace Channel

variable {c : Channel}

/-- A claim takes a lease, finds no job, and finds the line busy when it gives the lease back. -/
def Leaks (c : Channel) (nowUs availableUs : Tick) (ready readyAtEnd : Bool) : Prop :=
  c.transaction.active = false ∧ c.heedRouter.gate.owner.Lets c.claimKind ready ∧
    (c.router.next nowUs availableUs).2 = none ∧ readyAtEnd = false

/-- A recovery gets through the gate when the router has used up its tokens. -/
def Strands (c : Channel) (quiet aborted ready : Bool) : Prop :=
  c.transaction.active = true ∧ quiet = true ∧ aborted = true ∧ ready = true ∧
    c.router.bus.token = lastToken

/-- The calls that keep to the order. -/
def Clean (setup : TransportSetup) (c : Channel) : TransportCall → Prop
  | .transmit token data => ¬ c.gate.Trespasses setup token data setup.periodicMode
  | .transmitAsync token data => ¬ c.gate.Trespasses setup token data false
  | .claimQueued nowUs availableUs ready readyAtEnd => ¬ c.Leaks nowUs availableUs ready readyAtEnd
  | .recoverQueued _ quiet aborted ready => ¬ c.Strands quiet aborted ready
  | _ => True

@[simp] theorem heedRouter_router (c : Channel) : c.heedRouter.router = c.router := by
  rw [heedRouter]
  split <;> rfl

@[simp] theorem heedRouter_transaction (c : Channel) :
    c.heedRouter.transaction = c.transaction := by
  rw [heedRouter]
  split <;> rfl

theorem heedRouter_owner (c : Channel) :
    c.heedRouter.gate.owner =
      { c.gate.owner with stopRequired := c.stopping || c.gate.owner.stopRequired } := by
  rw [heedRouter]
  cases c.stopping <;> rfl

/-- Nobody has the UART. -/
theorem kept_of_idle (hgate : c.gate.Kept) (hidle : c.gate.owner.active = false)
    (htransaction : c.transaction.active = false) (hbus : c.router.bus.active = false)
    (hstop : Guarded c.router) : c.Kept where
  gate := hgate
  agrees :=
    { bus := htransaction.trans hbus.symm
      gate := by simp [Gate.Direct, hidle, htransaction]
      lease := fun hactive => by
        rw [htransaction] at hactive
        cases hactive }
  stop := hstop

namespace Kept

theorem sameLease (h : c.Kept) {gate : Gate} (hg : gate.Kept)
    (hactive : gate.owner.active = c.gate.owner.active)
    (htoken : gate.owner.token = c.gate.owner.token) (hdirect : gate.direct = c.gate.direct) :
    Kept { c with gate } where
  gate := hg
  agrees :=
    { bus := h.agrees.bus
      gate := by
        simp only [Gate.Direct, hactive, htoken, hdirect]
        exact h.agrees.gate
      lease := by
        simp only [Gate.Direct, Owner.owns, hactive, htoken, hdirect]
        exact h.agrees.lease }
  stop := h.stop

/-- The router under the same transaction. -/
theorem sameBus (h : c.Kept) {router : Router} (hactive : router.bus.active = c.router.bus.active)
    (htoken : router.bus.token = c.router.bus.token)
    (hstop : Guarded router) : Kept { c with router } where
  gate := h.gate
  agrees :=
    { bus := by rw [h.agrees.bus, ← hactive]
      gate := h.agrees.gate
      lease := by
        simp only [htoken]
        exact h.agrees.lease }
  stop := hstop

theorem requestStop (h : c.Kept) : c.requestStop.Kept :=
  h.sameLease h.gate.requestStop rfl rfl rfl

theorem heedRouter (h : c.Kept) : c.heedRouter.Kept := by
  rw [Channel.heedRouter]
  split
  · exact h.requestStop
  · exact h

theorem inhibit (h : c.Kept) : c.inhibit.Kept :=
  requestStop (h.sameBus rfl rfl fun _ => rfl)

theorem idle (h : c.Kept) (hidle : c.gate.owner.active = false) :
    c.transaction.active = false := by
  cases hactive : c.transaction.active with
  | false => rfl
  | true =>
    have hgate := h.agrees.gate.mpr (.inr hactive)
    rw [hidle] at hgate
    cases hgate

/-- A lease that goes to a caller. -/
theorem give (h : c.Kept) {taken : Owner × Option Tick} (ht : c.gate.owner.Answers taken) :
    Kept { c with gate := Gate.give (c.gate.take taken) } := by
  rcases ht with rfl | ⟨ht, htoken⟩
  · exact h
  obtain ⟨owner, token⟩ := taken
  obtain rfl : token = some owner.token := htoken
  have hg := h.gate.takes ht
  have hidle := h.idle ht.free
  refine ⟨⟨hg.given, ?_, hg.holds, hg.named, hg.stands, hg.shut, hg.heeds⟩,
    ⟨h.agrees.bus, ?_, ?_⟩, h.stop⟩
  · rintro token (_ | ⟨_, hmem⟩)
    · exact Nat.le_refl _
    · exact hg.direct token hmem
  · exact iff_of_true ht.active (.inl ⟨ht.active, List.mem_cons_self⟩)
  · intro hactive
    rw [hidle] at hactive
    cases hactive

/-- A caller ends the lease he was given. -/
theorem endDirect (h : c.Kept) {token : Tick} (hdirect : token ∈ c.gate.direct)
    (abortTx aborted ready : Bool) :
    Kept { c with gate := (c.gate.endLease token abortTx aborted ready).1 } := by
  have hg := h.gate.endLease token abortTx aborted ready
  rcases c.gate.endLease_cases token abortTx aborted ready with
    ⟨-, status, -, heq⟩ | ⟨howns, -, -, heq⟩ <;> rw [heq] at hg ⊢
  · exact h
  obtain ⟨hactive, -, htoken⟩ := Owner.owns_iff.mp howns
  have hidle : c.transaction.active = false := by
    cases ht : c.transaction.active with
    | false => rfl
    | true => exact absurd ⟨hactive, htoken ▸ hdirect⟩ (h.agrees.lease ht).2.1
  exact kept_of_idle hg rfl hidle (h.agrees.bus.symm.trans hidle) h.stop

theorem transmit (h : c.Kept) {setup : TransportSetup} {token : Tick} {data : List Byte}
    {rejected : Bool} (hclean : ¬ c.gate.Trespasses setup token data rejected) :
    Kept { c with
      gate := c.gate.transmit setup.build setup.ids setup.left token data rejected } := by
  have hg := h.gate.transmit hclean
  obtain ⟨readSent, heq | ⟨heq, -⟩⟩ := Gate.transmit_cases setup c.gate token data rejected <;>
    rw [heq] at hg ⊢
  · exact h.sameLease hg rfl rfl rfl
  · exact h.sameLease hg rfl rfl rfl

theorem claims (h : c.Kept) (ht : c.gate.owner.Takes owner) :
    (c.gate.note owner (.leased owner.token owner.kind)).Kept ∧ c.transaction.active = false ∧
      c.router.bus.active = false ∧ owner.token ∉ c.gate.direct := by
  have hidle := h.idle ht.free
  refine ⟨h.gate.takes ht, hidle, h.agrees.bus.symm.trans hidle, fun hmem => ?_⟩
  have hle := h.gate.direct _ hmem
  have hnat := ht.toNat
  omega

end Kept

variable {nowUs availableUs : Tick} {ready : Bool}

/-- A claim that took a lease goes on with the answer of the router. -/
theorem claimQueued_of_begin (readyAtEnd : Bool) (hidle : c.transaction.active = false)
    (htaken : c.heedRouter.gate.owner.begin c.claimKind ready = (owner, some owner.token)) :
    (c.claimQueued nowUs availableUs ready readyAtEnd).1 =
      match c.router.next nowUs availableUs with
      | (router, none) =>
        let c := Channel.heedRouter { c with
          gate := c.heedRouter.gate.note owner (.leased owner.token owner.kind), router }
        { c with gate := (c.gate.endLease owner.token false true readyAtEnd).1 }
      | (router, some out) =>
        { gate := (c.heedRouter.gate.note owner (.leased owner.token owner.kind)).note
            { owner with kind := out.kind } (.leased owner.token out.kind)
          router
          transaction := ⟨owner.token, out.token, true⟩ } := by
  have hkind : c.heedRouter.claimKind = c.claimKind := by
    rw [claimKind, claimKind, heedRouter_router]
  rw [claimQueued, if_neg (by rw [hidle]; decide)]
  simp only [hkind, htaken, Gate.take, heedRouter_router]
  rcases c.router.next nowUs availableUs with ⟨router, - | out⟩
  · simp only [heedRouter_transaction]
  · rfl

theorem claimQueued_of_refused (readyAtEnd : Bool) (hidle : c.transaction.active = false)
    (hrefused : c.heedRouter.gate.owner.begin c.claimKind ready = (c.heedRouter.gate.owner, none)) :
    (c.claimQueued nowUs availableUs ready readyAtEnd).1 = c.heedRouter := by
  have hkind : c.heedRouter.claimKind = c.claimKind := by
    rw [claimKind, claimKind, heedRouter_router]
  rw [claimQueued, if_neg (by rw [hidle]; decide)]
  simp only [hkind, hrefused, Gate.take]

theorem heedRouter_gate_kept (h : c.gate.Kept) : c.heedRouter.gate.Kept := by
  rw [heedRouter]
  split
  · exact h.requestStop
  · exact h

/-- A lease taken behind a stop is for a STOP, and the router then hands nothing else out. -/
theorem Kept.stop_of_handout (h : c.Kept) {out : Handout}
    (hlets : c.gate.owner.Lets c.claimKind ready)
    (hout : (c.router.next nowUs availableUs).2 = some out) (hstands : Standing c.gate.log) :
    out.kind = .stop := by
  have hkind : c.claimKind = .stop := hlets.2.2.1 (h.gate.stands hstands)
  have hpending : (c.router.jobs .stop).pending = true := by
    rw [claimKind] at hkind
    split at hkind
    · assumption
    · cases hkind
  have hlatched : Latched (c.router.poll nowUs) := .inl (h.stop hpending)
  exact Router.next_of_latched hlatched hout

/-- A claim that found no job, before it gives the lease back. -/
theorem Kept.unanswered (h : c.Kept) (ht : c.heedRouter.gate.owner.Takes owner) (router : Router) :
    ∃ c', Channel.heedRouter { c with
        gate := c.heedRouter.gate.note owner (.leased owner.token owner.kind), router } = c' ∧
      c'.gate.Kept ∧ c'.gate.owner.owns owner.token = true ∧ ¬ c'.gate.Direct ∧
      c'.router = router ∧ c'.transaction = c.transaction := by
  obtain ⟨hgate, -, -, hdirect⟩ := h.heedRouter.claims ht
  have howns : owner.owns owner.token = true :=
    Owner.owns_iff.mpr ⟨ht.active, hgate.named ht.active, rfl⟩
  refine ⟨_, rfl, heedRouter_gate_kept hgate, ?_, ?_, heedRouter_router _,
    heedRouter_transaction _⟩
  · rw [heedRouter_owner]
    exact howns
  · rintro ⟨-, hmem⟩
    rw [heedRouter_owner] at hmem
    refine hdirect ?_
    have hsame : ∀ c : Channel, c.heedRouter.gate.direct = c.gate.direct := fun c => by
      rw [Channel.heedRouter]
      split <;> rfl
    rwa [hsame] at hmem

theorem Kept.claimQueued (h : c.Kept) {readyAtEnd : Bool}
    (hclean : ¬ c.Leaks nowUs availableUs ready readyAtEnd) :
    (c.claimQueued nowUs availableUs ready readyAtEnd).1.Kept := by
  cases hactive : c.transaction.active with
  | true =>
    rw [Channel.claimQueued, if_pos hactive]
    exact h
  | false =>
  have hheed := h.heedRouter
  rcases c.heedRouter.gate.owner.begin_cases c.claimKind ready with
    ⟨-, hrefused⟩ | ⟨hlets, owner, ht, htaken⟩
  · rw [claimQueued_of_refused readyAtEnd hactive hrefused]
    exact hheed
  obtain ⟨hgate, -, hbus, hdirect⟩ := hheed.claims ht
  rw [heedRouter_router] at hbus
  rw [claimQueued_of_begin readyAtEnd hactive htaken]
  have hstop := h.stop.next nowUs availableUs
  rcases next_transaction c.router nowUs availableUs with
    ⟨hnone, hsame⟩ | ⟨out, hout, hbusy, htoken⟩
  · have hready : readyAtEnd = true := by
      by_contra hbusy
      exact hclean ⟨hactive, hlets, hnone, by simpa using hbusy⟩
    rcases hnext : c.router.next nowUs availableUs with ⟨router, found⟩
    rw [hnext] at hnone hsame hstop
    obtain rfl : found = none := hnone
    obtain ⟨c', hc, hback, howns, -, hrouter, htransaction⟩ := h.unanswered ht router
    simp only [hc]
    rcases c'.gate.endLease_cases owner.token false true readyAtEnd with
      ⟨hfails, -⟩ | ⟨-, -, -, heq⟩
    · exact absurd ⟨howns, fun _ => rfl, hready⟩ hfails
    · rw [heq]
      refine kept_of_idle (hback.released howns) rfl ?_ ?_ ?_
      · rw [htransaction, hactive]
      · rw [hrouter, hsame.active, hbus]
      · rw [hrouter]
        exact hstop
  · rcases hnext : c.router.next nowUs availableUs with ⟨router, found⟩
    rw [hnext] at hout hbusy htoken hstop
    obtain rfl : found = some out := hout
    have hrekind := @Gate.Kept.rekind _ hgate ht.active out.kind fun hstands =>
      hheed.stop_of_handout (by rwa [claimKind, heedRouter_router])
        (by rw [heedRouter_router, hnext]) (standing_leased.mp hstands)
    have howns : owner.owns owner.token = true :=
      Owner.owns_iff.mpr ⟨ht.active, hgate.named ht.active, rfl⟩
    exact ⟨hrekind, ⟨hbusy.symm, iff_of_true ht.active (.inr rfl),
      fun _ => ⟨howns, fun hmine => hdirect hmine.2, htoken.symm⟩⟩, hstop⟩

/-- The lease of a claim that leaks is nobody's. -/
theorem Leaks.not_agrees (h : c.Kept) {readyAtEnd : Bool}
    (hleaks : c.Leaks nowUs availableUs ready readyAtEnd) :
    ¬ (c.claimQueued nowUs availableUs ready readyAtEnd).1.Agrees := by
  obtain ⟨hactive, hlets, hnone, rfl⟩ := hleaks
  rcases c.heedRouter.gate.owner.begin_cases c.claimKind ready with
    ⟨hrefused, -⟩ | ⟨-, owner, ht, htaken⟩
  · exact absurd hlets hrefused
  rw [claimQueued_of_begin false hactive htaken]
  rcases hnext : c.router.next nowUs availableUs with ⟨router, found⟩
  rw [hnext] at hnone
  obtain rfl : found = none := hnone
  obtain ⟨c', hc, -, howns, hdirect, -, htransaction⟩ := h.unanswered ht router
  simp only [hc]
  rcases c'.gate.endLease_cases owner.token false true false with
    ⟨-, status, -, heq⟩ | ⟨-, -, hready, -⟩
  · rw [heq]
    intro hagrees
    rcases hagrees.gate.mp (Owner.owns_iff.mp howns).1 with hmine | hbusy
    · exact hdirect hmine
    · rw [htransaction, hactive] at hbusy
      cases hbusy
  · cases hready

/-- A completion frees the gate and the bus together. -/
theorem Kept.completeQueued (h : c.Kept) (polledUs nowUs : Tick) (transportOk ready : Bool) :
    (c.completeQueued polledUs nowUs transportOk ready).1.Kept := by
  rw [Channel.completeQueued]
  split
  · exact h
  next hlive =>
  simp only [Bool.or_eq_true, Bool.not_eq_true', not_or, Bool.not_eq_false] at hlive
  have hpoll : Kept { c with router := c.router.poll polledUs } :=
    h.sameBus (by simp) (by simp) h.stop
  dsimp only
  split
  · exact hpoll.inhibit
  split
  · exact hpoll
  have hstop := hpoll.stop.complete c.transaction.routerToken nowUs transportOk
  rcases (c.router.poll polledUs).complete_cases c.transaction.routerToken nowUs transportOk with
    heq | ⟨-, -, -, -, heq⟩ | ⟨-, -, -, -, heq⟩ <;> rw [heq] at hstop <;> rw [heq]
  · exact inhibit (hpoll.sameBus (by simp) (by simp) hstop)
  · exact inhibit (hpoll.sameBus (by simp [Bus.SharedBus.faultStop])
      (by simp [Bus.SharedBus.faultStop]) hstop)
  · exact kept_of_idle (h.gate.released hlive.2) rfl rfl rfl hstop

/-- A recovery that may go on stands before the gate with a faulted bus. -/
theorem Kept.recovers (h : c.Kept) (hactive : c.transaction.active = true) (nowUs : Tick) :
    ∃ c', Channel.inhibit { c with
        router := (c.router.complete c.transaction.routerToken nowUs false).1 } = c' ∧ c'.Kept ∧
      c'.gate.owner.owns c.transaction.gateToken = true ∧ c'.transaction = c.transaction ∧
      c'.router.bus.faulted = true ∧ c'.router.bus.token = c.router.bus.token := by
  obtain ⟨howns, -, htoken⟩ := h.agrees.lease hactive
  have hbus : c.router.bus.active = true := h.agrees.bus.symm.trans hactive
  obtain ⟨hfault, hstill, hsame⟩ := complete_failed hbus htoken nowUs
  exact ⟨_, rfl, inhibit (h.sameBus (hstill.trans hbus.symm) hsame (h.stop.complete _ _ _)), howns,
    rfl, hfault, hsame⟩

theorem Kept.recoverQueued (h : c.Kept) (nowUs : Tick) {quiet aborted : Bool}
    (hclean : ¬ c.Strands quiet aborted ready) :
    (c.recoverQueued nowUs quiet aborted ready).1.Kept := by
  rw [Channel.recoverQueued]
  split
  · exact h
  next hlive =>
  simp only [Bool.or_eq_true, Bool.not_eq_true', not_or, Bool.not_eq_false] at hlive
  obtain ⟨⟨hactive, hquiet⟩, -⟩ := hlive
  obtain ⟨c', hc, hkept, howns, htransaction, hfault, htoken⟩ := h.recovers hactive nowUs
  have hback : Kept { c' with transaction := c.transaction } := htransaction ▸ hkept
  simp only [hc, htransaction]
  rcases c'.gate.endLease_cases c.transaction.gateToken true aborted ready with
    ⟨-, status, hstatus, heq⟩ | ⟨-, haborted, hready, heq⟩ <;> rw [heq]
  · cases status with
    | ok => exact absurd rfl hstatus
    | error => exact hback
    | busy => exact hback
    | timeout => exact hback
  · have hleft : c'.router.bus.token ≠ lastToken := fun hlast =>
      hclean ⟨hactive, hquiet, haborted rfl, hready, htoken ▸ hlast⟩
    have hstop := hkept.stop
    simp only [recover_of_faulted hfault, if_neg hleft]
    exact kept_of_idle (hkept.gate.released howns) rfl rfl rfl hstop

/-- A recovery that strands leaves the transaction without its lease. -/
theorem Strands.not_agrees (h : c.Kept) (nowUs : Tick) {quiet aborted : Bool}
    (hstrands : c.Strands quiet aborted ready) :
    ¬ (c.recoverQueued nowUs quiet aborted ready).1.Agrees := by
  obtain ⟨hactive, rfl, rfl, rfl, hlast⟩ := hstrands
  obtain ⟨hmine, -, -⟩ := h.agrees.lease hactive
  obtain ⟨c', hc, -, howns, htransaction, hfault, htoken⟩ := h.recovers hactive nowUs
  rw [Channel.recoverQueued, if_neg (by simp [hactive, hmine])]
  simp only [hc, htransaction]
  rcases c'.gate.endLease_cases c.transaction.gateToken true true true with
    ⟨hfails, -⟩ | ⟨-, -, -, heq⟩
  · exact absurd ⟨howns, fun _ => rfl, rfl⟩ hfails
  · simp only [heq, recover_of_faulted hfault, htoken, hlast, if_true]
    intro hagrees
    have hbusy := hagrees.gate.mpr (.inr (htransaction ▸ hactive))
    cases hbusy

theorem Kept.resumeQueued (h : c.Kept) (ready confirmed : Bool) :
    (c.resumeQueued ready confirmed).1.Kept := by
  rw [Channel.resumeQueued]
  split
  · exact h
  rcases c.router.resume_cases confirmed with heq | ⟨-, -, -, hempty, heq⟩ <;> rw [heq]
  · exact h
  · refine sameBus (h.sameLease h.gate.resumed rfl rfl rfl) rfl rfl fun hpending => ?_
    rw [hempty] at hpending
    cases hpending

/-! ## 6. Every call -/

/-- **A clean call keeps everything.** -/
theorem Kept.call (h : c.Kept) {setup : TransportSetup} {call : TransportCall}
    (hclean : c.Clean setup call) : (c.call setup call).Kept := by
  have hbegin : ∀ kind ready, Kept { c with gate := c.gate.beginKind kind ready } := by
    intro kind ready
    rw [Gate.beginKind]
    split
    · exact h
    · exact h.give (Owner.answers_begin _ _ _)
  cases call with
  | requestStop => exact h.requestStop
  | begin kind ready => exact hbegin kind ready
  | beginService kind ready =>
    rw [Channel.call]
    split
    · exact h
    · exact hbegin kind ready
  | beginCleanup => exact h.give (Owner.answers_beginCleanup _)
  | beginReadOnly ready => exact h.give (Owner.answers_beginReadOnly _ _)
  | endLease token abortTx aborted ready =>
    rw [Channel.call]
    split
    · next hdirect => exact h.endDirect hdirect abortTx aborted ready
    · exact h
  | transmit token data => exact h.transmit hclean
  | transmitAsync token data => exact h.transmit hclean
  | claimQueued nowUs availableUs ready readyAtEnd => exact h.claimQueued hclean
  | completeQueued polledUs nowUs transportOk ready =>
    exact h.completeQueued polledUs nowUs transportOk ready
  | recoverQueued nowUs quiet aborted ready => exact h.recoverQueued nowUs hclean
  | resumeQueued ready confirmed => exact h.resumeQueued ready confirmed
  | submit kind bytes nowUs deadlineUs budgetUs =>
    have hsame := submit_same c.router kind bytes nowUs deadlineUs budgetUs
    exact h.sameBus hsame.active hsame.token (h.stop.submit kind bytes nowUs deadlineUs budgetUs)
  | pollRouter nowUs => exact h.sameBus (by simp) (by simp) h.stop
  | disturb inhibited stopPending faulted =>
    exact h.sameBus rfl rfl fun hpending => by simp [h.stop hpending]

/-- **Any other call breaks the order at once.** -/
theorem Kept.not_orderly (h : c.Kept) {call : TransportCall} (hclean : ¬ c.Clean setup call) :
    ¬ (c.call setup call).Orderly := by
  cases call with
  | transmit token data => exact fun horder => (not_not.mp hclean).not_heeds horder.heeds
  | transmitAsync token data => exact fun horder => (not_not.mp hclean).not_heeds horder.heeds
  | claimQueued nowUs availableUs ready readyAtEnd =>
    exact fun horder => (not_not.mp hclean).not_agrees h horder.agrees
  | recoverQueued nowUs quiet aborted ready =>
    exact fun horder => (not_not.mp hclean).not_agrees h nowUs horder.agrees
  | _ => exact absurd trivial hclean

end Channel

namespace ServoTransport

/-- Both UARTs keep their promise. -/
def Orderly (s : ServoTransport) : Prop := ∀ uart, (s.channel uart).Orderly

/-- The event does none of the three. -/
def Clean (build : TransportBuild) (ids : MobileIds) (s : ServoTransport) :
    TransportEvent → Prop
  | .call uart call => (s.channel uart).Clean (s.setup build ids uart) call
  | .setPeriodicMode .. => True

variable {build : TransportBuild} {ids : MobileIds} {s : ServoTransport}

theorem kept_step (h : ∀ uart, (s.channel uart).Kept) {event : TransportEvent}
    (hclean : s.Clean build ids event) (uart : ServoUart) :
    ((s.step build ids event).channel uart).Kept := by
  cases event with
  | call asked call =>
    by_cases heq : uart = asked
    · subst heq
      simp only [step, Function.update_self]
      exact (h uart).call hclean
    · simp only [step, Function.update_of_ne heq]
      exact h uart
  | setPeriodicMode enabled quiescentConfirmed leftReady rightReady =>
    rw [step]
    split <;> exact h uart

theorem not_orderly_step (h : ∀ uart, (s.channel uart).Kept) {event : TransportEvent}
    (hclean : ¬ s.Clean build ids event) : ¬ (s.step build ids event).Orderly := by
  cases event with
  | call uart call =>
    intro horder
    have hbroken := horder uart
    simp only [step, Function.update_self] at hbroken
    exact (h uart).not_orderly hclean hbroken
  | setPeriodicMode => exact absurd trivial hclean

/-- **One lease, the fence, and agreement**, in every state of a run, exactly while no claim leaks
its lease, no recovery strands its transaction and no read-only lease writes behind a stop. -/
theorem leases_iff_clean (build : TransportBuild) (ids : MobileIds) (l : List TransportEvent) :
    (∀ before after, l = before ++ after → (run (step build ids) init before).Orderly) ↔
      Along (step build ids) (Clean build ids) init l :=
  property_iff_along (I := fun s : ServoTransport => ∀ uart, (s.channel uart).Kept)
    (fun _ h uart => (h uart).orderly) (fun _ _ h hclean => kept_step h hclean)
    (fun _ _ h hclean => not_orderly_step h hclean) l (fun _ => Channel.kept_free)

/-- A claim on the bus at rest, while nothing is queued and the line turns busy. -/
def leakingClaim : TransportEvent := .call .left (.claimQueued 0 0 true false)

theorem claim_leaks_lease :
    ¬ (run (step .standard MobileIds.reference) init [leakingClaim]).Orderly := by
  intro horder
  have hgate := (horder .left).agrees.gate
  revert hgate
  decide

end ServoTransport

end MobileBimanual.Transport
