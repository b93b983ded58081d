/-
# Out of a fault of the lift

A fault of the lift is left by RESET alone, and RESET is for the session the endpoint has in force
and for a sequence that is new in it.  HOME and MOVE bring a session into force, and they need a
lift without a fault.  So a fault can be left as long as a session was ever accepted and its
sequences are not used up (`fault_recoverable`).
-/
import MobileBimanual.Mobile.LiftTruth

namespace MobileBimanual.Mobile

open MobileBimanual.Stream (Byte Tick readU32Le writeU32Le)
open MobileBimanual.Wire (crc32c)
open Machine

/-! ## 1. A request on the wire -/

namespace LiftRequest

/-- The bytes under the checksum, as the host's `LiftCommand` packs them. -/
def body (r : LiftRequest) : List Byte :=
  [0x41, 0x4C, 1, LiftEndpoint.opByte r.op] ++ writeU32Le r.session ++ writeU32Le r.sequence ++
    writeU32Le r.deadlineMs ++ writeU32Le (BitVec.ofInt 32 r.targetUm) ++ writeU32Le r.bootId ++
    List.replicate 8 0

def packet (r : LiftRequest) : List Byte := r.body ++ writeU32Le (crc32c r.body)

section Layout

variable (r : LiftRequest)

@[simp] theorem length_body : r.body.length = 32 := rfl

@[simp] theorem packet_body : r.packet.take 32 = r.body := List.take_left' r.length_body

@[simp] theorem packet_op : r.packet.getD 3 0 = LiftEndpoint.opByte r.op := rfl

@[simp] theorem packet_session : readU32Le r.packet 4 = r.session :=
  Stream.readU32Le_writeU32Le r.session []

@[simp] theorem packet_sequence : readU32Le r.packet 8 = r.sequence :=
  Stream.readU32Le_writeU32Le r.sequence []

@[simp] theorem packet_deadlineMs : readU32Le r.packet 12 = r.deadlineMs :=
  Stream.readU32Le_writeU32Le r.deadlineMs []

@[simp] theorem packet_targetUm : readU32Le r.packet 16 = BitVec.ofInt 32 r.targetUm :=
  Stream.readU32Le_writeU32Le (BitVec.ofInt 32 r.targetUm) []

@[simp] theorem packet_bootId : readU32Le r.packet 20 = r.bootId :=
  Stream.readU32Le_writeU32Le r.bootId []

@[simp] theorem packet_unused : ((r.packet.drop 24).take 8).all (· == 0) = true := rfl

@[simp] theorem packet_crc : readU32Le r.packet 32 = crc32c r.body :=
  Stream.readU32Le_writeU32Le (crc32c r.body) []

end Layout

@[simp] theorem ofByte?_opByte (op : LiftOp) :
    LiftOp.ofByte? (LiftEndpoint.opByte op) = some op := by
  cases op <;> rfl

/-- **A request is read as it was packed.** -/
theorem parse_packet {r : LiftRequest} (hclean : r.clean = true)
    (hlow : -2147483648 ≤ r.targetUm) (hhigh : r.targetUm ≤ 2147483647) :
    LiftEndpoint.parse r.packet = some r := by
  have hframe : (r.packet.length != 36 || r.packet.getD 0 0 != 0x41 || r.packet.getD 1 0 != 0x4C ||
      r.packet.getD 2 0 != 1 || readU32Le r.packet 32 != crc32c (r.packet.take 32)) = false := by
    rw [packet_crc, packet_body, bne_self_eq_false, Bool.or_false]
    rfl
  have htarget : (BitVec.ofInt 32 r.targetUm).toInt = r.targetUm := by
    rw [BitVec.toInt_ofInt, Int.bmod_eq_of_le (by omega) (by omega)]
  unfold LiftEndpoint.parse
  simp only [hframe, packet_op, ofByte?_opByte, packet_session, packet_sequence, packet_deadlineMs,
    packet_targetUm, htarget, packet_bootId, packet_unused, Option.map_some, Bool.false_eq_true,
    if_false]
  rw [← hclean]

end LiftRequest

/-! ## 2. Runs of the endpoint -/

/-- What happens to the endpoint and to the lift behind it. -/
inductive LiftEndpointEvent where
  | endpoint (action : EndpointAction)
  | observe (feedback : LiftFeedback) (nowMs : Tick)
  | poll (nowMs : Tick)
  | inhibit (reason : LiftFault)
  | zeroSent (completedMs : Tick)

namespace LiftEndpoint

def step (e : LiftEndpoint) : LiftEndpointEvent → LiftEndpoint
  | .endpoint action => e.act action
  | .observe feedback nowMs => { e with lift := (e.lift.observe feedback nowMs).1 }
  | .poll nowMs => { e with lift := e.lift.poll nowMs }
  | .inhibit reason => { e with lift := e.lift.inhibit reason }
  | .zeroSent completedMs => { e with lift := e.lift.markZeroSent completedMs }

/-- The endpoint took the request of this packet. -/
def Accepted (e : LiftEndpoint) (packet : List Byte) (nowMs : Tick) : Prop :=
  ∃ reply, (e.exchange packet nowMs).2 = some reply ∧ reply.getD 3 0 = packet.getD 3 0

/-- The lift is in its fault and nothing but the fault is in the way. -/
structure Faulted (e : LiftEndpoint) (nowMs : Tick) : Prop where
  fault : e.lift.state = .fault
  inactive : e.active = false
  interlocked : e.interlocked nowMs = true
  sampled : e.lift.haveSample = true
  fresh : nowMs - e.lift.observedMs < e.lift.config.feedbackTimeoutMs
  healthy : e.lift.feedback.healthy = true
  stopped : e.lift.stopped = true

/-- A RESET is accepted and leads out of the fault. -/
def Resettable (e : LiftEndpoint) (nowMs : Tick) : Prop :=
  ∃ packet, packet.getD 3 0 = opByte .reset ∧ e.Accepted packet nowMs ∧
    (e.exchange packet nowMs).1.lift.state ≠ .fault

/-! ## 3. What every run keeps -/

/-- What `init` checked. -/
structure Commissioned (e : LiftEndpoint) : Prop where
  configured : e.lift.configured = true
  lease : e.leaseMaxMs ≠ 0

end LiftEndpoint

namespace Lift

variable {l : Lift}

theorem configured_poll (h : l.configured = true) (now : Tick) :
    (l.poll now).configured = true := by
  have hadvance : l.advance.configured = true := by
    unfold advance steer
    dsimp only
    split_ifs <;> exact h
  have hconfirm : l.advance.confirm.configured = true := by
    unfold confirm
    dsimp only
    split_ifs <;> exact hadvance
  have hguard : l.advance.confirm.guardHold.configured = true := by
    unfold guardHold
    split_ifs <;> exact hconfirm
  unfold poll
  split_ifs
  · exact h
  · exact h
  · exact h
  · exact h
  · exact hguard

theorem configured_home (h : l.configured = true) (now : Tick) :
    (l.home now).1.configured = true := by
  have hpoll := configured_poll h now
  unfold home
  dsimp only
  split_ifs
  · exact h
  · exact hpoll
  · exact hpoll

theorem configured_move (h : l.configured = true) (height : Int) (now : Tick) :
    (l.move height now).1.configured = true := by
  have hpoll := configured_poll h now
  unfold move
  dsimp only
  split_ifs
  · exact h
  · exact hpoll
  · exact configured_poll (l := { l.poll now with targetUm := height, state := .moving }) hpoll now

theorem configured_cancel (h : l.configured = true) : l.cancel.configured = true := by
  unfold cancel
  split_ifs <;> exact h

theorem configured_reset (h : l.configured = true) : l.reset.configured = true := by
  unfold reset
  split_ifs <;> exact h

theorem configured_inhibit (h : l.configured = true) (reason : LiftFault) :
    (l.inhibit reason).configured = true := by
  unfold inhibit
  split
  · exact h
  · exact h

theorem configured_observe (h : l.configured = true) (f : LiftFeedback) (now : Tick) :
    (l.observe f now).1.configured = true := by
  have hpoll := configured_poll h now
  have hcontact : ∀ l : Lift, l.configured = true → (l.trackContact f).configured = true := by
    intro l hl
    unfold trackContact
    split_ifs <;> exact hl
  have hmeasure : ∀ l : Lift, l.configured = true → (l.measure f now).1.configured = true := by
    intro l hl
    unfold measure
    dsimp only
    split
    · exact hl
    · refine configured_poll (hcontact _ ?_) now
      split_ifs <;> exact hl
  unfold observe
  dsimp only
  split
  · exact h
  · split
    · exact hpoll
    · split
      · exact hpoll
      · split
        · exact hpoll
        · refine hmeasure _ ?_
          unfold takeSample
          split_ifs <;> exact hpoll

end Lift

namespace LiftEndpoint

theorem keeps_configured : Keeps fun l => l.configured = true where
  poll _ now h := Lift.configured_poll h now
  home _ now h := Lift.configured_home h now
  move _ height now h := Lift.configured_move h height now
  cancel _ h := Lift.configured_cancel h
  reset _ h := Lift.configured_reset h
  inhibit _ reason h := Lift.configured_inhibit h reason

/-- What `init` alone sets. -/
def identity (e : LiftEndpoint) : Tick × Tick := (e.bootId, e.leaseMaxMs)

theorem identity_poll (e : LiftEndpoint) (now : Tick) : (e.poll now).identity = e.identity := by
  unfold poll
  dsimp only
  split_ifs <;> rfl

theorem identity_answer (e : LiftEndpoint) (request : LiftRequest) (now : Tick) :
    (e.answer request now).1.identity = e.identity := by
  have hengage : (e.engage request now).1.identity = e.identity := by
    unfold engage
    dsimp only
    split_ifs <;> rfl
  have hattend : (e.attend request now).1.identity = e.identity := by
    unfold attend
    split_ifs
    · rfl
    · cases request.op <;> rfl
  unfold answer
  split_ifs
  · rfl
  · rfl
  · rfl
  · rfl
  · exact hengage
  · exact hattend

theorem identity_exchange (e : LiftEndpoint) (packet : List Byte) (now : Tick) :
    (e.exchange packet now).1.identity = e.identity := by
  unfold exchange
  split
  · rfl
  · rename_i request _
    have hcount : ∀ (e : LiftEndpoint) (ok : Bool),
        (e.countRejected ok).identity = e.identity := by
      intro e ok
      unfold countRejected
      split <;> rfl
    simp only [hcount, identity_answer, identity_poll]

namespace Commissioned

variable {e : LiftEndpoint}

theorem step (h : e.Commissioned) (event : LiftEndpointEvent) : (e.step event).Commissioned := by
  cases event with
  | endpoint action =>
    cases action with
    | poll now =>
      exact ⟨keeps_configured.endpointPoll h.configured now, (congrArg Prod.snd (e.identity_poll now)).trans_ne h.lease⟩
    | exchange packet now =>
      exact ⟨keeps_configured.exchange h.configured packet now,
        (congrArg Prod.snd (e.identity_exchange packet now)).trans_ne h.lease⟩
    | stop => exact ⟨Lift.configured_cancel h.configured, h.lease⟩
    | interlock interlock given ready => exact ⟨h.configured, h.lease⟩
  | observe feedback now => exact ⟨Lift.configured_observe h.configured feedback now, h.lease⟩
  | poll now => exact ⟨Lift.configured_poll h.configured now, h.lease⟩
  | inhibit reason => exact ⟨Lift.configured_inhibit h.configured reason, h.lease⟩
  | zeroSent now =>
    refine ⟨?_, h.lease⟩
    simp only [LiftEndpoint.step, Lift.markZeroSent]
    split_ifs <;> exact h.configured

theorem init {config : LiftConfig} {bootId leaseMaxMs : Tick} {initial : LiftEndpoint}
    (hinit : LiftEndpoint.init (Lift.init config).1 bootId leaseMaxMs = some initial) :
    initial.Commissioned := by
  unfold LiftEndpoint.init at hinit
  split at hinit
  · cases hinit
  · rename_i hok
    simp only [Bool.or_eq_true, Bool.not_eq_true', beq_iff_eq, not_or, Bool.not_eq_false] at hok
    cases hinit
    exact ⟨hok.1.1.1, hok.1.2⟩

end Commissioned

/-! ## 4. The way out -/

variable {e : LiftEndpoint} {now : Tick}

/-- A fault without an owner is not moved by the clock. -/
theorem poll_of_fault (hfault : e.lift.state = .fault) (hinactive : e.active = false) (now : Tick) :
    e.poll now = e := by
  have hlift : e.lift.poll now = e.lift := by simp [Lift.poll, hfault]
  unfold poll
  dsimp only
  rw [if_pos (by simp [hinactive]), hlift]

/-- The answer repeats the opcode, with its top bit set when it refuses. -/
theorem status_op (e : LiftEndpoint) (request : LiftRequest) (ok : Bool) (now : Tick) :
    (e.status request ok now).getD 3 0 =
      if ok then opByte request.op else opByte request.op ||| 0x80 := rfl

theorem countRejected_true (e : LiftEndpoint) : e.countRejected true = e := rfl

theorem op_of_parse {packet : List Byte} {request : LiftRequest} (h : parse packet = some request) :
    LiftOp.ofByte? (packet.getD 3 0) = some request.op := by
  unfold parse at h
  split at h
  · cases h
  · obtain ⟨op, hop, rfl⟩ := Option.map_eq_some_iff.mp h
    exact hop

theorem of_answer_reset {request : LiftRequest} (hop : request.op = .reset)
    (hok : (e.answer request now).2 = true) :
    request.session ≠ 0 ∧ request.session = e.session ∧ e.sequence < request.sequence := by
  unfold answer at hok
  rw [hop] at hok
  split_ifs at hok with haddressed hstatus hlease hengage
  · cases hstatus
  · simp at hengage
  · unfold attend at hok
    split at hok
    · cases hok
    · rename_i hrefuse
      simp only [Bool.or_eq_true, bne_iff_ne, ne_eq, decide_eq_true_eq, Bool.not_eq_true', not_or,
        not_not, BitVec.not_le] at hrefuse
      simp only [addressed, Bool.and_eq_true, bne_iff_ne, ne_eq, Bool.not_eq_true',
        Bool.not_eq_false] at haddressed
      exact ⟨haddressed.1.1.2, hrefuse.1.1, hrefuse.1.2⟩

/-- The RESET that the endpoint takes. -/
def resetRequest (e : LiftEndpoint) (nowMs : Tick) : LiftRequest where
  op := .reset
  session := e.session
  sequence := e.sequence + 1
  deadlineMs := nowMs + 1
  targetUm := 0
  bootId := e.bootId
  clean := true

theorem Faulted.answer_reset (h : e.Faulted now) (hcomm : e.Commissioned)
    (hsession : e.session ≠ 0) (hsequence : e.sequence ≠ 0xFFFFFFFF) :
    e.answer (e.resetRequest now) now =
      ({ e with lift := e.lift.reset, sequence := e.sequence + 1, validUntilMs := now + 1 }, true) := by
  have haddressed : e.addressed (e.resetRequest now) = true := by
    simpa [addressed, resetRequest] using hsession
  have hremaining : now + 1 - now = 1 := by
    rw [BitVec.add_comm, BitVec.add_sub_cancel]
  have hleased : e.leased (e.resetRequest now) now = true := by
    have hlease := hcomm.lease
    simp only [leased, resetRequest, hremaining, Bool.and_eq_true, bne_iff_ne, ne_eq,
      decide_eq_true_eq]
    refine ⟨by decide, ?_⟩
    rw [BitVec.le_def]
    have hpos : 0 < e.leaseMaxMs.toNat := BitVec.toNat_pos_of_ne_zero hlease
    exact hpos
  have hnew : ¬ e.sequence + 1 ≤ e.sequence := by
    have hlast : e.sequence.toNat ≠ 4294967295 := fun he =>
      hsequence (BitVec.eq_of_toNat_eq he)
    have hlt := e.sequence.isLt
    have hone : (1 : Tick).toNat = 1 := rfl
    rw [BitVec.le_def, BitVec.toNat_add, hone]
    omega
  have hpermits : e.permits .reset now = true := by
    simp [permits, h.inactive, h.interlocked, h.sampled, h.fresh, h.healthy, h.stopped]
  have hattend : e.attend (e.resetRequest now) now =
      ({ e with lift := e.lift.reset, sequence := e.sequence + 1, validUntilMs := now + 1 },
        true) := by
    have hrefuse : (e.session != e.session || decide (e.sequence + 1 ≤ e.sequence) ||
        !e.permits .reset now) = false := by
      rw [bne_self_eq_false, decide_eq_false hnew, hpermits]
      rfl
    unfold attend
    rw [resetRequest, hrefuse]
    rfl
  unfold answer
  rw [if_neg (by simp [haddressed]), if_neg (by simp [resetRequest]), if_neg (by simp [hleased]),
    if_neg (by simp [resetRequest]), hattend]

theorem Faulted.resettable (h : e.Faulted now) (hcomm : e.Commissioned) (hsession : e.session ≠ 0)
    (hsequence : e.sequence ≠ 0xFFFFFFFF) : e.Resettable now := by
  have hparse : parse (e.resetRequest now).packet = some (e.resetRequest now) :=
    LiftRequest.parse_packet rfl (by simp [resetRequest]) (by simp [resetRequest])
  have hexchange : e.exchange (e.resetRequest now).packet now =
      let e' : LiftEndpoint :=
        { e with lift := e.lift.reset, sequence := e.sequence + 1, validUntilMs := now + 1 }
      (e', some (e'.status (e.resetRequest now) true now)) := by
    unfold exchange
    rw [hparse]
    simp only [poll_of_fault h.fault h.inactive, h.answer_reset hcomm hsession hsequence, countRejected_true]
  refine ⟨(e.resetRequest now).packet, rfl, ⟨_, congrArg Prod.snd hexchange, ?_⟩, ?_⟩
  · rw [status_op]
    rfl
  rw [hexchange]
  simp [Lift.reset, hcomm.configured]

theorem Faulted.of_resettable (h : e.Faulted now) (hreset : e.Resettable now) :
    e.session ≠ 0 ∧ e.sequence ≠ 0xFFFFFFFF := by
  obtain ⟨packet, hopcode, ⟨reply, hreply, hecho⟩, -⟩ := hreset
  unfold exchange at hreply
  split at hreply
  · cases hreply
  · rename_i request hparse
    have hop : request.op = .reset := by
      have hread := op_of_parse hparse
      rw [hopcode, LiftRequest.ofByte?_opByte] at hread
      exact (Option.some.inj hread).symm
    rw [poll_of_fault h.fault h.inactive] at hreply
    simp only [Option.some.injEq] at hreply
    have hok : (e.answer request now).2 = true := by
      cases hanswer : (e.answer request now).2
      · rw [hanswer] at hreply
        rw [← hreply, hopcode] at hecho
        rw [status_op, hop] at hecho
        exact absurd hecho (by decide)
      · rfl
    obtain ⟨hsession, hsame, hnew⟩ := of_answer_reset hop hok
    refine ⟨hsame ▸ hsession, ?_⟩
    rintro hlast
    rw [hlast, BitVec.lt_def] at hnew
    have hlt := request.sequence.isLt
    simp at hnew
    omega

/-- **A fault can be left exactly while a session is in force whose sequences are not used up.** -/
theorem fault_recoverable {config : LiftConfig} {bootId leaseMaxMs : Tick} {initial : LiftEndpoint}
    (hinit : init (Lift.init config).1 bootId leaseMaxMs = some initial)
    (events : List LiftEndpointEvent) (nowMs : Tick)
    (hfault : (run step initial events).Faulted nowMs) :
    (run step initial events).Resettable nowMs ↔
      (run step initial events).session ≠ 0 ∧
        (run step initial events).sequence ≠ 0xFFFFFFFF := by
  have hcomm : (run step initial events).Commissioned :=
    run_invariant_all (fun _ event h => h.step event) events (Commissioned.init hinit)
  exact ⟨hfault.of_resettable, fun h => hfault.resettable hcomm h.1 h.2⟩

/-- A sample of the lift at rest. -/
def Bench.restAt (nowMs : Tick) (positionRaw : Nat) : LiftEndpointEvent :=
  .observe
    { observedMs := nowMs, positionRaw, velocityRaw := 0, currentMa := 100, healthy := true
      holdVerified := false } nowMs

def Bench.interlockAt (nowMs : Tick) : LiftEndpointEvent :=
  .endpoint (.interlock
    { observedMs := nowMs, baseStopped := true, armsSafe := true, modeOk := true
      hardwareOk := true } true true)

/-- HOME of session 1 is accepted, and the feedback fails. -/
def Bench.faultedRun : List LiftEndpointEvent :=
  [Bench.restAt 0 1000, Bench.interlockAt 0,
    .endpoint (.exchange
      (LiftRequest.packet
        { op := .home, session := 1, sequence := 1, deadlineMs := 100, targetUm := 0, bootId := 42
          clean := true }) 1),
    .inhibit .badFeedback, .endpoint (.poll 2), Bench.restAt 20 1000, Bench.interlockAt 20]

theorem fault_recoverable_bench :
    (run step MobileOutput.benchEndpoint Bench.faultedRun).Resettable 20 :=
  (fault_recoverable MobileOutput.init_benchEndpoint Bench.faultedRun 20
    ⟨by decide +kernel, by decide +kernel, by decide +kernel, by decide +kernel,
      by decide +kernel, by decide +kernel, by decide +kernel⟩).mpr
    ⟨by decide +kernel, by decide +kernel⟩

/-- The encoder jumps by half a turn before any request arrived. -/
def Bench.jumpRun : List LiftEndpointEvent :=
  [Bench.restAt 0 1000, Bench.restAt 10 3000, Bench.restAt 20 1000, Bench.interlockAt 20]

/-- **A fault before the first session is final.** -/
theorem first_fault_final :
    ¬ ∀ (events : List LiftEndpointEvent) (nowMs : Tick),
      (run step MobileOutput.benchEndpoint events).Faulted nowMs →
        (run step MobileOutput.benchEndpoint events).Resettable nowMs := by
  intro h
  have hfault : (run step MobileOutput.benchEndpoint Bench.jumpRun).Faulted 20 :=
    ⟨by decide +kernel, by decide +kernel, by decide +kernel, by decide +kernel,
      by decide +kernel, by decide +kernel, by decide +kernel⟩
  have hsession : (run step MobileOutput.benchEndpoint Bench.jumpRun).session = 0 := by
    decide +kernel
  exact (hfault.of_resettable (h Bench.jumpRun 20 hfault)).1 hsession

end LiftEndpoint

end MobileBimanual.Mobile
