/-
# Queued transactions over the transport gate

The second half of `servo_transport.c`.  A queued transaction holds two things at once, a lease of
the gate and the router's job, and its record says so; the calls that claim, complete and recover
one have to keep the three in step.

Beside the gate stand the tokens given to direct callers, who end the leases they were given, and
a log of what was leased, sent and released, newest first.
-/
import MobileBimanual.Lib.History
import MobileBimanual.Transport.Gate

namespace MobileBimanual.Transport

open MobileBimanual.Stream (Byte Tick)
open MobileBimanual.Bus (Work Router Handout lastToken)
open MobileBimanual.Mobile (MobileIds)

/-! ## 1. The gate and its log -/

inductive LeaseEntry where
  | stopRequested
  | resumed
  | leased (token : Tick) (kind : Work)
  | released (token : Tick)
  | sent (token : Tick) (data : List Byte)

/-- `direct` are the tokens that were given to callers of the gate. -/
structure Gate where
  owner : Owner
  direct : List Tick
  log : List LeaseEntry

namespace Gate

def free : Gate := ⟨.free, [], []⟩

variable (g : Gate)

def note (owner : Owner) (entry : LeaseEntry) : Gate := { g with owner, log := entry :: g.log }

def requestStop : Gate := g.note g.owner.requestStop .stopRequested

/-- A lease goes into the log under its kind. -/
def take : Owner × Option Tick → Gate × Option Tick
  | (owner, none) => ({ g with owner }, none)
  | (owner, some token) => (g.note owner (.leased token owner.kind), some token)

def endLease (token : Tick) (abortTx aborted ready : Bool) : Gate × HalStatus :=
  match g.owner.endLease token abortTx aborted ready with
  | (owner, .ok) => (g.note owner (.released token), .ok)
  | (owner, status) => ({ g with owner }, status)

/-- A lease that goes to a caller of the gate. -/
def give : Gate × Option Tick → Gate
  | (g, none) => g
  | (g, some token) => { g with direct := token :: g.direct }

/-- The send calls; only the blocking one minds the periodic mode, behind the packet check. -/
def transmit (build : TransportBuild) (ids : MobileIds) (left : Bool) (token : Tick)
    (data : List Byte) (rejected : Bool) : Gate :=
  match g.owner.mayTransmit build ids left token data with
  | (owner, false) => { g with owner }
  | (owner, true) => if rejected then { g with owner } else g.note owner (.sent token data)

/-- A direct caller has the lease. -/
def Direct : Prop := g.owner.active = true ∧ g.owner.token ∈ g.direct

instance : Decidable g.Direct := inferInstanceAs (Decidable (_ ∧ _))

end Gate

/-! ## 2. Queued transactions -/

/-- `ServoQueuedTransaction`, of the one router that feeds the UART. -/
structure QueuedTransaction where
  gateToken : Tick
  routerToken : Tick
  active : Bool

structure Channel where
  gate : Gate
  router : Router
  transaction : QueuedTransaction

namespace Channel

def free : Channel := ⟨.free, .init, ⟨0, 0, false⟩⟩

variable (c : Channel)

def requestStop : Channel := { c with gate := c.gate.requestStop }

/-- The router shows a stop that the gate must know of. -/
def stopping : Bool := c.router.inhibited || c.router.bus.stopPending || c.router.bus.faulted

def heedRouter : Channel := if c.stopping then c.requestStop else c

/-- The kind a claim begins with. -/
def claimKind : Work := if (c.router.jobs .stop).pending then .stop else .feedback

/-- The gate is taken before the router is asked.  `readyAtEnd` is the line when the lease is given
back for want of a job; the answer of that call is not looked at. -/
def claimQueued (nowUs availableUs : Tick) (ready readyAtEnd : Bool) : Channel × Option Handout :=
  if c.transaction.active then (c, none)
  else
    let c := c.heedRouter
    match c.gate.take (c.gate.owner.begin c.claimKind ready) with
    | (gate, none) => ({ c with gate }, none)
    | (gate, some gateToken) =>
      match c.router.next nowUs availableUs with
      | (router, none) =>
        let c := Channel.heedRouter { c with gate, router }
        ({ c with gate := (c.gate.endLease gateToken false true readyAtEnd).1 }, none)
      | (router, some out) =>
        ({ gate := gate.note { gate.owner with kind := out.kind } (.leased gateToken out.kind)
           router
           transaction := ⟨gateToken, out.token, true⟩ }, some out)

/-- Both failures of a completion leave the channel so. -/
def inhibit : Channel := ({ c with router := c.router.inhibit } : Channel).requestStop

def completeQueued (polledUs nowUs : Tick) (transportOk ready : Bool) : Channel × HalStatus :=
  if !c.transaction.active || !c.gate.owner.owns c.transaction.gateToken then (c, .error)
  else
    let c := { c with router := c.router.poll polledUs }
    if c.router.bus.faulted then (c.inhibit, .error)
    else if transportOk && !ready then (c, .busy)
    else match c.router.complete c.transaction.routerToken nowUs transportOk with
      | (router, false) => (({ c with router } : Channel).inhibit, .error)
      | (router, true) =>
        -- the two releases are committed together, without another look at the line
        ({ gate := c.gate.note { c.gate.owner with active := false }
             (.released c.transaction.gateToken)
           router
           transaction := { c.transaction with active := false } }, .ok)

def recoverQueued (nowUs : Tick) (quiet aborted ready : Bool) : Channel × HalStatus :=
  if !c.transaction.active || !quiet || !c.gate.owner.owns c.transaction.gateToken then (c, .error)
  else
    let c := Channel.inhibit
      { c with router := (c.router.complete c.transaction.routerToken nowUs false).1 }
    match c.gate.endLease c.transaction.gateToken true aborted ready with
    | (gate, .ok) =>
      match c.router.recover true with
      | (router, false) => ({ c with gate, router }, .error)
      | (router, true) =>
        ({ gate, router, transaction := { c.transaction with active := false } }, .ok)
    | (gate, status) => ({ c with gate }, status)

def resumeQueued (ready confirmed : Bool) : Channel × Bool :=
  if c.gate.owner.active || !ready then (c, false)
  else match c.router.resume confirmed with
    | (router, false) => ({ c with router }, false)
    | (router, true) =>
      ({ c with
          gate := c.gate.note { c.gate.owner with stopRequired := false } .resumed
          router }, true)

/-! ## 3. Calls -/

/-- The flags that the schedulers above set in a router without a call. -/
def disturb (inhibited stopPending faulted : Bool) : Channel :=
  { c with router := { c.router with
      inhibited := c.router.inhibited || inhibited
      bus := { c.router.bus with
        stopPending := c.router.bus.stopPending || stopPending
        faulted := c.router.bus.faulted || faulted } } }

end Channel

/-- A call on one of the UARTs.  A kind is a number, as in the source. -/
inductive TransportCall where
  | requestStop
  | begin (kind : Nat) (ready : Bool)
  | beginService (kind : Nat) (ready : Bool)
  | beginCleanup
  | beginReadOnly (ready : Bool)
  | endLease (token : Tick) (abortTx aborted ready : Bool)
  | transmit (token : Tick) (data : List Byte)
  | transmitAsync (token : Tick) (data : List Byte)
  | claimQueued (nowUs availableUs : Tick) (ready readyAtEnd : Bool)
  | completeQueued (polledUs nowUs : Tick) (transportOk ready : Bool)
  | recoverQueued (nowUs : Tick) (quiet aborted ready : Bool)
  | resumeQueued (ready confirmed : Bool)
  | submit (kind : Nat) (bytes : List Byte) (nowUs deadlineUs budgetUs : Tick)
  | pollRouter (nowUs : Tick)
  | disturb (inhibited stopPending faulted : Bool)

/-- What a build and a mode fix for a call. -/
structure TransportSetup where
  build : TransportBuild
  ids : MobileIds
  left : Bool
  periodicMode : Bool

/-- `ServoTransport_Begin` refuses the numbers that name no work. -/
def Gate.beginKind (g : Gate) (kind : Nat) (ready : Bool) : Gate :=
  match Work.ofNat? kind with
  | none => g
  | some kind => Gate.give (g.take (g.owner.begin kind ready))

def Channel.call (setup : TransportSetup) (c : Channel) : TransportCall → Channel
  | .requestStop => c.requestStop
  | .begin kind ready => { c with gate := c.gate.beginKind kind ready }
  | .beginService kind ready =>
    if setup.periodicMode then c else { c with gate := c.gate.beginKind kind ready }
  | .beginCleanup => { c with gate := Gate.give (c.gate.take c.gate.owner.beginCleanup) }
  | .beginReadOnly ready =>
    { c with gate := Gate.give (c.gate.take (c.gate.owner.beginReadOnly ready)) }
  | .endLease token abortTx aborted ready =>
    -- nobody ends a lease that was not given to him
    if token ∈ c.gate.direct then
      { c with gate := (c.gate.endLease token abortTx aborted ready).1 }
    else c
  | .transmit token data =>
    { c with
        gate := c.gate.transmit setup.build setup.ids setup.left token data setup.periodicMode }
  | .transmitAsync token data =>
    { c with gate := c.gate.transmit setup.build setup.ids setup.left token data false }
  | .claimQueued nowUs availableUs ready readyAtEnd =>
    (c.claimQueued nowUs availableUs ready readyAtEnd).1
  | .completeQueued polledUs nowUs transportOk ready =>
    (c.completeQueued polledUs nowUs transportOk ready).1
  | .recoverQueued nowUs quiet aborted ready => (c.recoverQueued nowUs quiet aborted ready).1
  | .resumeQueued ready confirmed => (c.resumeQueued ready confirmed).1
  | .submit kind bytes nowUs deadlineUs budgetUs =>
    { c with router := (c.router.submit kind bytes nowUs deadlineUs budgetUs).1 }
  | .pollRouter nowUs => { c with router := c.router.poll nowUs }
  | .disturb inhibited stopPending faulted => c.disturb inhibited stopPending faulted

/-! ## 4. The two buses -/

structure ServoTransport where
  channel : ServoUart → Channel
  periodicMode : Bool

inductive TransportEvent where
  | call (uart : ServoUart) (call : TransportCall)
  | setPeriodicMode (enabled quiescentConfirmed leftReady rightReady : Bool)

namespace ServoTransport

def init : ServoTransport := ⟨fun _ => .free, false⟩

def setup (build : TransportBuild) (ids : MobileIds) (s : ServoTransport) (uart : ServoUart) :
    TransportSetup :=
  ⟨build, ids, uart = .left, s.periodicMode⟩

def step (build : TransportBuild) (ids : MobileIds) (s : ServoTransport) :
    TransportEvent → ServoTransport
  | .call uart call =>
    { s with
        channel := Function.update s.channel uart
          ((s.channel uart).call (s.setup build ids uart) call) }
  | .setPeriodicMode enabled quiescentConfirmed leftReady rightReady =>
    if !quiescentConfirmed || !(s.channel .left).gate.owner.idle leftReady ||
        !(s.channel .right).gate.owner.idle rightReady then s
    else { s with periodicMode := enabled }

end ServoTransport

/-! ## 5. Tokens are counted up -/

theorem toNat_succ_token {token : Tick} (h : token ≠ lastToken) :
    (token + 1).toNat = token.toNat + 1 := by
  have hne : token.toNat ≠ 4294967295 := fun heq => h (BitVec.eq_of_toNat_eq heq)
  have hone : (1 : Tick).toNat = 1 := rfl
  rw [BitVec.toNat_add, hone]
  omega

theorem succ_token_ne_zero {token : Tick} (h : token ≠ lastToken) : token + 1 ≠ 0 := by
  intro hzero
  have hnat := congrArg BitVec.toNat hzero
  rw [toNat_succ_token h] at hnat
  cases hnat

/-- A lease that is taken has a token of its own. -/
theorem Owner.begin_eq_some {o o' : Owner} {kind : Work} {ready : Bool} {token : Tick}
    (h : o.begin kind ready = (o', some token)) :
    o'.owns token = true ∧ o'.token.toNat = o.token.toNat + 1 := by
  rw [Owner.begin] at h
  split at h
  · cases h
  · next hfree =>
    simp only [Bool.or_eq_true, beq_iff_eq, not_or] at hfree
    obtain ⟨howner, htoken⟩ := Prod.mk.inj h
    obtain rfl := Option.some.inj htoken
    subst howner
    exact ⟨Owner.owns_iff.mpr ⟨rfl, succ_token_ne_zero hfree.2, rfl⟩, toNat_succ_token hfree.2⟩

namespace Owner

/-- The tokens given out so far are the numbers up to the last one. -/
def Later (o o' : Owner) : Prop := o.token.toNat ≤ o'.token.toNat

variable {o o' : Owner}

theorem Later.refl (o : Owner) : o.Later o := Nat.le_refl _

theorem later_of_token (h : o'.token = o.token) : o.Later o' := Nat.le_of_eq (congrArg _ h.symm)

theorem later_succ (h : o.token ≠ lastToken) (h' : o'.token = o.token + 1) : o.Later o' := by
  rw [Later, h', toNat_succ_token h]
  exact Nat.le_succ _

theorem later_begin (o : Owner) (kind : Work) (ready : Bool) :
    o.Later (o.begin kind ready).1 := by
  rw [begin]
  split
  · exact Later.refl o
  · next hfree =>
    simp only [Bool.or_eq_true, beq_iff_eq, not_or] at hfree
    exact later_succ hfree.2 rfl

theorem later_beginCleanup (o : Owner) : o.Later o.beginCleanup.1 := by
  rw [beginCleanup]
  split
  · exact Later.refl o
  · next hfree =>
    simp only [Bool.or_eq_true, beq_iff_eq, not_or] at hfree
    exact later_succ hfree.2 rfl

theorem later_beginReadOnly (o : Owner) (ready : Bool) : o.Later (o.beginReadOnly ready).1 := by
  rw [beginReadOnly]
  split
  · exact Later.refl o
  · next hfree =>
    simp only [Bool.or_eq_true, beq_iff_eq, not_or] at hfree
    exact later_succ hfree.1.2 rfl

theorem token_endLease (o : Owner) (token : Tick) (abortTx aborted ready : Bool) :
    (o.endLease token abortTx aborted ready).1.token = o.token := by
  rw [endLease]
  split_ifs <;> rfl

theorem token_mayTransmit (build : TransportBuild) (ids : MobileIds) (left : Bool) (o : Owner)
    (token : Tick) (data : List Byte) :
    (o.mayTransmit build ids left token data).1.token = o.token := by
  rw [mayTransmit]
  split_ifs <;> rfl

end Owner

namespace Gate

theorem owner_take (g : Gate) (taken : Owner × Option Tick) : (g.take taken).1.owner = taken.1 := by
  obtain ⟨owner, token⟩ := taken
  cases token <;> rfl

theorem owner_give (given : Gate × Option Tick) : (Gate.give given).owner = given.1.owner := by
  obtain ⟨g, token⟩ := given
  cases token <;> rfl

theorem owner_endLease (g : Gate) (token : Tick) (abortTx aborted ready : Bool) :
    (g.endLease token abortTx aborted ready).1.owner =
      (g.owner.endLease token abortTx aborted ready).1 := by
  rw [endLease]
  split <;> simp_all [note]

theorem owner_transmit (build : TransportBuild) (ids : MobileIds) (left : Bool) (g : Gate)
    (token : Tick) (data : List Byte) (rejected : Bool) :
    (g.transmit build ids left token data rejected).owner =
      (g.owner.mayTransmit build ids left token data).1 := by
  rw [transmit]
  split
  · simp_all
  · split <;> simp_all [note]

end Gate

/-- A gate whose tokens are those of another one, or more. -/
def Gate.Later (g g' : Gate) : Prop := g.owner.Later g'.owner

theorem Gate.Later.trans {g g' g'' : Gate} (h : g.Later g') (h' : g'.Later g'') : g.Later g'' :=
  Nat.le_trans h h'

theorem Gate.later_take {g : Gate} {taken : Owner × Option Tick} (h : g.owner.Later taken.1) :
    g.Later (g.take taken).1 := by
  rw [Gate.Later, Gate.owner_take]
  exact h

theorem Gate.later_give {g : Gate} {given : Gate × Option Tick} (h : g.Later given.1) :
    g.Later (Gate.give given) := by
  rw [Gate.Later, Gate.owner_give]
  exact h

theorem Gate.later_endLease (g : Gate) (token : Tick) (abortTx aborted ready : Bool) :
    g.Later (g.endLease token abortTx aborted ready).1 := by
  rw [Gate.Later, Gate.owner_endLease]
  exact Owner.later_of_token (Owner.token_endLease _ _ _ _ _)

theorem Gate.later_transmit (build : TransportBuild) (ids : MobileIds) (left : Bool) (g : Gate)
    (token : Tick) (data : List Byte) (rejected : Bool) :
    g.Later (g.transmit build ids left token data rejected) := by
  rw [Gate.Later, Gate.owner_transmit]
  exact Owner.later_of_token (Owner.token_mayTransmit _ _ _ _ _ _)

open Owner.Later

theorem Gate.later_beginKind (g : Gate) (kind : Nat) (ready : Bool) :
    g.Later (g.beginKind kind ready) := by
  rw [Gate.beginKind]
  split
  · exact refl _
  · exact Gate.later_give (Gate.later_take (Owner.later_begin _ _ _))

namespace Channel

theorem later_heedRouter (c : Channel) : c.gate.Later c.heedRouter.gate := by
  rw [heedRouter]
  split <;> exact Owner.Later.refl _

theorem later_claimQueued (c : Channel) (nowUs availableUs : Tick) (ready readyAtEnd : Bool) :
    c.gate.Later (c.claimQueued nowUs availableUs ready readyAtEnd).1.gate := by
  rw [claimQueued]
  split
  · exact refl _
  · have htake := Gate.later_take (g := c.heedRouter.gate)
      (Owner.later_begin c.heedRouter.gate.owner c.heedRouter.claimKind ready)
    have hheed := (later_heedRouter c).trans htake
    dsimp only
    split
    · next gate heq =>
      rw [heq] at hheed
      exact hheed
    · next gate token heq =>
      rw [heq] at hheed
      split
      · next router _ =>
        have hagain := later_heedRouter { c.heedRouter with gate, router }
        exact hheed.trans (hagain.trans (Gate.later_endLease _ _ _ _ _))
      · exact hheed

theorem later_completeQueued (c : Channel) (polledUs nowUs : Tick) (transportOk ready : Bool) :
    c.gate.Later (c.completeQueued polledUs nowUs transportOk ready).1.gate := by
  rw [completeQueued]
  split
  · exact refl _
  · dsimp only
    split
    · exact Owner.Later.refl _
    · split
      · exact refl _
      · split <;> exact Owner.Later.refl _

theorem later_recoverQueued (c : Channel) (nowUs : Tick) (quiet aborted ready : Bool) :
    c.gate.Later (c.recoverQueued nowUs quiet aborted ready).1.gate := by
  rw [recoverQueued]
  split
  · exact refl _
  · generalize hinhibit : Channel.inhibit
      { c with router := (c.router.complete c.transaction.routerToken nowUs false).1 } = c'
    have hc : c.gate.Later c'.gate := by
      rw [← hinhibit]
      exact Owner.Later.refl _
    have hend := hc.trans
      (Gate.later_endLease c'.gate c'.transaction.gateToken true aborted ready)
    dsimp only
    split
    · next heq =>
      rw [heq] at hend
      split <;> exact hend
    · next heq =>
      rw [heq] at hend
      exact hend

end Channel

/-- **No call gives a token out twice.** -/
theorem Channel.later_call (setup : TransportSetup) (c : Channel) (call : TransportCall) :
    c.gate.Later (c.call setup call).gate := by
  cases call with
  | requestStop => exact Owner.Later.refl _
  | begin kind ready => exact Gate.later_beginKind _ _ _
  | beginService kind ready =>
    rw [call]
    split
    · exact refl _
    · exact Gate.later_beginKind _ _ _
  | beginCleanup => exact Gate.later_give (Gate.later_take (Owner.later_beginCleanup _))
  | beginReadOnly ready => exact Gate.later_give (Gate.later_take (Owner.later_beginReadOnly _ _))
  | endLease token abortTx aborted ready =>
    rw [call]
    split
    · exact Gate.later_endLease _ _ _ _ _
    · exact refl _
  | transmit token data => exact Gate.later_transmit _ _ _ _ _ _ _
  | transmitAsync token data => exact Gate.later_transmit _ _ _ _ _ _ _
  | claimQueued nowUs availableUs ready readyAtEnd => exact later_claimQueued _ _ _ _ _
  | completeQueued polledUs nowUs transportOk ready => exact later_completeQueued _ _ _ _ _
  | recoverQueued nowUs quiet aborted ready => exact later_recoverQueued _ _ _ _ _
  | resumeQueued ready confirmed =>
    rw [call, resumeQueued]
    split
    · exact refl _
    · split <;> exact Owner.Later.refl _
  | submit kind bytes nowUs deadlineUs budgetUs => exact refl _
  | pollRouter nowUs => exact refl _
  | disturb inhibited stopPending faulted => exact refl _

theorem ServoTransport.later_step (build : TransportBuild) (ids : MobileIds) (s : ServoTransport)
    (event : TransportEvent) (uart : ServoUart) :
    (s.channel uart).gate.Later ((s.step build ids event).channel uart).gate := by
  cases event with
  | call asked call =>
    by_cases h : uart = asked
    · subst h
      simp only [step, Function.update_self]
      exact Channel.later_call _ _ _
    · simp only [step, Function.update_of_ne h]
      exact refl _
  | setPeriodicMode enabled quiescentConfirmed leftReady rightReady =>
    rw [step]
    split <;> exact refl _

end MobileBimanual.Transport
