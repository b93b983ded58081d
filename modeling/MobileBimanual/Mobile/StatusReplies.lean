/-
# What the host reads of a status

The two endpoints write their statuses, `LS` and `AS`, and the host decodes them.  What it insists
on holds of the lift in every reachable state (`LiftEndpoint.Readable`) and of the supervisor
(`MobileSupervisor.Readable`), and the words come back as they were written.  So every answer of
the lift endpoint is read; and so is every answer of the mobile endpoint but those to an opcode
that does not exist, which the framed route does not let through.
-/
import MobileBimanual.Mobile.Endpoint
import MobileBimanual.Mobile.HostCodec
import MobileBimanual.Mobile.LiftRecovery

namespace MobileBimanual.Mobile

open MobileBimanual.Stream (Byte Tick readU32Le writeU32Le)
open MobileBimanual.Stream.Host (raiseIf raiseIf_ok_iff check_bind_ok_iff)
open MobileBimanual.Wire (crc32c)
open MobileBimanual.Wire.Host (unpackU16 unpackU32 unpackU32_eq)
open Host (unpackI32 unpackI32_eq unknownFlags)
open Machine MobileEndpoint

/-! ## 1. Words -/

/-- A value that an `int32_t` holds. -/
def IsInt32 (value : Int) : Prop := -2147483648 ≤ value ∧ value ≤ 2147483647

theorem toInt_ofInt {value : Int} (h : IsInt32 value) : (BitVec.ofInt 32 value).toInt = value := by
  obtain ⟨hlow, hhigh⟩ := h
  rw [BitVec.toInt_ofInt, Int.bmod_eq_of_le (by omega) (by omega)]

/-- The checksum behind a body of 60 bytes is the one the host computes. -/
theorem crc_sixty {data body : List Byte} (hlength : body.length = 60)
    (hdata : data = body ++ writeU32Le (crc32c body)) :
    unpackU32 data 60 = Host.crc32c (data.take 60) := by
  have htake : data.take 60 = body := by rw [hdata, List.take_left' hlength]
  have hread := Stream.readU32Le_append body (writeU32Le (crc32c body)) 0
  rw [hlength, ← hdata] at hread
  rw [Host.crc32c_eq, htake, unpackU32_eq, hread]
  exact congrArg BitVec.toNat (Stream.readU32Le_writeU32Le (crc32c body) [])

theorem unknownFlags_five (a b c d f : Prop) [Decidable a] [Decidable b] [Decidable c]
    [Decidable d] [Decidable f] :
    unknownFlags ((if a then (1 : Byte) else 0) ||| (if b then 2 else 0) |||
      (if c then 4 else 0) ||| (if d then 8 else 0) ||| (if f then 16 else 0)).toNat = 0 := by
  split_ifs <;> decide +kernel

theorem toNat_ne_zero {word : BitVec 32} (h : word ≠ 0) : word.toNat ≠ 0 :=
  fun hzero => h (BitVec.eq_of_toNat_eq hzero)

/-! ## 2. The lift -/

namespace LiftEndpoint

/-- What the host is to read of an answer. -/
def report (e : LiftEndpoint) (request : LiftRequest) (ok : Bool) (nowMs : Tick) : Host.LiftStatus where
  kind := (if ok then opByte request.op else opByte request.op ||| 0x80).toNat
  requestSequence := request.sequence.toNat
  mcuTickMs := nowMs.toNat
  bootId := e.bootId.toNat
  session := e.session.toNat
  sequence := e.sequence.toNat
  state := (stateByte e.lift.state).toNat
  fault := (faultByte e.lift.fault).toNat
  flags := (e.flagsByte nowMs).toNat
  observedMs := e.lift.observedMs.toNat
  heightUm := e.lift.heightUm
  targetUm := e.lift.targetUm
  commandRaw := e.lift.commandRaw
  currentMa := e.lift.feedback.currentMa
  positionRaw := e.lift.previousRaw
  rejected := e.rejected.toNat
  validUntilMs := e.validUntilMs.toNat

end LiftEndpoint

/-- What of a checked configuration bounds a command and a target. -/
structure LiftConfig.Moderate (c : LiftConfig) : Prop where
  homing : 0 < c.homingSpeedRaw ∧ c.homingSpeedRaw ≤ 32767
  maximum : c.maximumSpeedRaw ≤ 32767
  height : c.maximumHeightUm ≤ 10000000

/-- What the host insists on, and what the words hold. -/
structure Lift.Readable (l : Lift) : Prop where
  config : l.configured = true → l.config.Moderate
  height : IsInt32 l.heightUm
  target : IsInt32 l.targetUm
  command : IsInt32 l.commandRaw
  current : 0 ≤ l.feedback.currentMa ∧ l.feedback.currentMa ≤ 2147483647
  position : l.previousRaw < 4096

namespace LiftEndpoint

theorem decode_status {e : LiftEndpoint} (hboot : e.bootId ≠ 0) (h : e.lift.Readable)
    (request : LiftRequest) (ok : Bool) (now : Tick) :
    Host.LiftStatus.decode (e.status request ok now) = .ok (e.report request ok now) := by
  have hcrc : unpackU32 (e.status request ok now) 60 =
      Host.crc32c ((e.status request ok now).take 60) := by
    obtain ⟨body, hlength, hbody⟩ : ∃ body : List Byte, body.length = 60 ∧
        e.status request ok now = body ++ writeU32Le (crc32c body) := by
      refine ⟨_, ?_, rfl⟩
      simp only [List.length_append, List.length_cons, List.length_nil, Stream.length_writeU32Le]
    exact crc_sixty hlength hbody
  have hlength : (e.status request ok now).length = 64 := by
    simp only [status, List.length_append, List.length_cons, List.length_nil,
      Stream.length_writeU32Le]
  have hbytes : (e.status request ok now).take 3 = [0x4C, 0x53, 1] ∧
      (e.status request ok now).getD 24 0 = stateByte e.lift.state ∧
      (e.status request ok now).getD 25 0 = faultByte e.lift.fault ∧
      (e.status request ok now).getD 26 0 = e.flagsByte now ∧
      (e.status request ok now).getD 27 0 = 0 := by
    simp only [status, List.append_assoc, List.cons_append, List.nil_append, Stream.getD_word,
      List.getD_cons_succ, List.getD_cons_zero, List.take_succ_cons, List.take_zero, and_self]
  obtain ⟨hmagic, hstateByte, hfaultByte, hflagsByte, hunused⟩ := hbytes
  have hposition : (BitVec.ofNat 32 e.lift.previousRaw).toNat = e.lift.previousRaw := by
    have hlow := h.position
    rw [BitVec.toNat_ofNat]
    omega
  have hcurrent : IsInt32 e.lift.feedback.currentMa :=
    ⟨by have := h.current.1; omega, h.current.2⟩
  have hkind : 1 ≤ ((e.status request ok now).getD 3 0).toNat &&& 127 ∧
      ((e.status request ok now).getD 3 0).toNat &&& 127 ≤ 6 := by
    rw [status_op]
    cases ok <;> cases request.op <;> decide
  have hstate : (stateByte e.lift.state).toNat ≤ 6 := by cases e.lift.state <;> decide
  have hfault : (faultByte e.lift.fault).toNat ≤ 5 := by cases e.lift.fault <;> decide
  unfold Host.LiftStatus.decode
  refine check_bind_ok_iff.mpr ⟨raiseIf_ok_iff.mpr ?_, ?_⟩
  · simp only [ne_eq, not_or, not_not]
    exact ⟨hlength, hmagic, hunused, hcrc⟩
  refine check_bind_ok_iff.mpr ⟨raiseIf_ok_iff.mpr ?_, ?_⟩
  · rw [hstateByte, hfaultByte, hflagsByte]
    simp only [not_or, not_not, Nat.not_lt, gt_iff_lt]
    exact ⟨hkind, hstate, hfault, unknownFlags_five _ _ _ _ _⟩
  have hreport : ({
      kind := ((e.status request ok now).getD 3 0).toNat
      requestSequence := unpackU32 (e.status request ok now) 4
      mcuTickMs := unpackU32 (e.status request ok now) 8
      bootId := unpackU32 (e.status request ok now) 12
      session := unpackU32 (e.status request ok now) 16
      sequence := unpackU32 (e.status request ok now) 20
      state := ((e.status request ok now).getD 24 0).toNat
      fault := ((e.status request ok now).getD 25 0).toNat
      flags := ((e.status request ok now).getD 26 0).toNat
      observedMs := unpackU32 (e.status request ok now) 28
      heightUm := unpackI32 (e.status request ok now) 32
      targetUm := unpackI32 (e.status request ok now) 36
      commandRaw := unpackI32 (e.status request ok now) 40
      currentMa := unpackI32 (e.status request ok now) 44
      positionRaw := unpackU32 (e.status request ok now) 48
      rejected := unpackU32 (e.status request ok now) 52
      validUntilMs := unpackU32 (e.status request ok now) 56 } : Host.LiftStatus) =
      e.report request ok now := by
    rw [hstateByte, hfaultByte, hflagsByte, status_op]
    simp only [unpackU32_eq, unpackI32_eq, status, List.append_assoc, List.cons_append,
      List.nil_append, Stream.readU32Le_cons, Stream.readU32Le_word, Stream.readU32Le_writeU32Le,
      toInt_ofInt h.height,
      toInt_ofInt h.target, toInt_ofInt h.command, toInt_ofInt hcurrent, hposition, report]
  rw [hreport]
  refine check_bind_ok_iff.mpr ⟨raiseIf_ok_iff.mpr ?_, rfl⟩
  have hlow := h.position
  have hpositive := h.current.1
  simp only [report, not_or, not_lt, ge_iff_le, Nat.not_le]
  exact ⟨toNat_ne_zero hboot, hlow, hpositive⟩

end LiftEndpoint

namespace Lift

theorem isInt32_small {value : Int} (hlow : -32767 ≤ value) (hhigh : value ≤ 32767) :
    IsInt32 value := ⟨by omega, by omega⟩

theorem isInt32_zero : IsInt32 0 := isInt32_small (by decide) (by decide)

/-- The speed of a movement is at least 1 and at most the maximum. -/
theorem speed_bounds {l : Lift} (hmaximum : l.config.maximumSpeedRaw ≤ 32767) (magnitude : Int) :
    1 ≤ l.speed magnitude ∧ l.speed magnitude ≤ 32767 := by
  unfold speed
  dsimp only
  split_ifs <;> omega

namespace Readable

variable {l : Lift}

theorem init (config : LiftConfig) : (Lift.init config).1.Readable := by
  have hblank : blank.Readable :=
    ⟨nofun, isInt32_zero, isInt32_zero, isInt32_zero, by decide, by decide⟩
  unfold Lift.init
  split
  · rename_i hok
    simp only [configOk, Bool.and_eq_true, decide_eq_true_eq] at hok
    have hmoderate : config.Moderate := ⟨⟨by omega, by omega⟩, by omega, by omega⟩
    exact { hblank with config := fun _ => hmoderate }
  · exact hblank

theorem fail (h : l.Readable) (reason : LiftFault) : (l.fail reason).Readable :=
  { h with command := isInt32_zero }

theorem steer (h : l.Readable) (hconfigured : l.configured = true) : l.steer.Readable := by
  unfold Lift.steer
  dsimp only
  generalize (if l.targetUm - l.heightUm < 0 then -(l.targetUm - l.heightUm)
    else l.targetUm - l.heightUm) = magnitude
  split
  · exact { h with command := isInt32_zero }
  · obtain ⟨hlow, hhigh⟩ := speed_bounds (h.config hconfigured).maximum magnitude
    refine { h with command := ?_ }
    dsimp only
    split
    · exact isInt32_small (by omega) (by omega)
    · exact isInt32_small (by omega) (by omega)

theorem advance (h : l.Readable) (hconfigured : l.configured = true) : l.advance.Readable := by
  unfold Lift.advance
  split_ifs
  · have hhoming := (h.config hconfigured).homing
    exact { h with command := isInt32_small (by dsimp only; omega) (by dsimp only; omega) }
  · exact h.fail _
  · exact h.steer hconfigured
  · exact h

theorem confirm (h : l.Readable) : l.confirm.Readable := by
  unfold Lift.confirm
  dsimp only
  split
  · exact { h with command := isInt32_zero }
  · exact h

theorem guardHold (h : l.Readable) : l.guardHold.Readable := by
  unfold Lift.guardHold
  split
  · exact h.fail _
  · exact h

theorem poll (h : l.Readable) (now : Tick) : (l.poll now).Readable := by
  unfold Lift.poll
  split_ifs with hidle
  · exact h
  · exact h.fail _
  · exact h.fail _
  · exact h.fail _
  · have hconfigured : l.configured = true := by
      by_contra hoff
      simp [hoff] at hidle
    exact (h.advance hconfigured).confirm.guardHold

theorem reset (h : l.Readable) : l.reset.Readable := by
  unfold Lift.reset
  split
  · exact h
  · exact { h with command := isInt32_zero }

theorem inhibit (h : l.Readable) (reason : LiftFault) : (l.inhibit reason).Readable := by
  unfold Lift.inhibit
  split
  · exact h.fail _
  · exact h

theorem cancel (h : l.Readable) : l.cancel.Readable := by
  unfold Lift.cancel
  split_ifs
  · exact h
  · exact h
  · exact { h with command := isInt32_zero, target := h.height }
  · exact { h with command := isInt32_zero, target := h.height }

theorem home (h : l.Readable) (now : Tick) : (l.home now).1.Readable := by
  unfold Lift.home
  dsimp only
  split
  · exact h
  · rename_i hoff
    split
    · exact h.poll now
    · have hpoll := h.poll now
      have hconfigured : (l.poll now).configured = true :=
        configured_poll (by simpa using hoff) now
      have hhoming := (hpoll.config hconfigured).homing
      exact { hpoll with command := isInt32_small (by dsimp only; omega) (by dsimp only; omega) }

theorem move (h : l.Readable) (height : Int) (now : Tick) : (l.move height now).1.Readable := by
  unfold Lift.move
  dsimp only
  split
  · exact h
  · rename_i hoff
    have hpoll := h.poll now
    split
    · exact hpoll
    · rename_i hrange
      have hconfigured : (l.poll now).configured = true :=
        configured_poll (by simpa using hoff) now
      have hheight := (hpoll.config hconfigured).height
      simp only [Bool.or_eq_true, decide_eq_true_eq, not_or, not_lt] at hrange
      refine poll (l := { l.poll now with targetUm := height, state := .moving }) ?_ now
      refine { hpoll with target := ⟨?_, ?_⟩ }
      · dsimp only
        omega
      · dsimp only
        omega

theorem trackContact (h : l.Readable) (f : LiftFeedback) : (l.trackContact f).Readable := by
  unfold Lift.trackContact
  split_ifs
  · exact h
  · exact { h with }
  · exact { h with height := isInt32_zero, target := isInt32_zero, command := isInt32_zero }
  · exact h
  · exact { h with }

theorem measure (h : l.Readable) (f : LiftFeedback) (now : Tick) :
    (l.measure f now).1.Readable := by
  unfold Lift.measure
  dsimp only
  split
  · exact h.fail _
  · rename_i hrange
    refine poll (trackContact ?_ f) now
    split
    · rename_i hhomed
      simp only [hhomed, Bool.true_and, Bool.or_eq_true, decide_eq_true_eq, not_or,
        not_lt] at hrange
      exact { h with height := hrange }
    · exact h

/-- A sample is taken if it is in range, so that the encoder and the current are. -/
theorem observe (h : l.Readable) {f : LiftFeedback} (hf : f.currentMa ≤ 2147483647) (now : Tick) :
    (l.observe f now).1.Readable := by
  have hpoll := h.poll now
  unfold Lift.observe
  dsimp only
  split
  · exact h
  split
  · exact hpoll
  split
  · exact hpoll.fail _
  split
  · exact hpoll.fail _
  rename_i hacceptable _ _
  have hrange : f.positionRaw < 4096 ∧ 0 ≤ f.currentMa := by
    simp only [acceptable, Bool.not_not, Bool.or_eq_true, decide_eq_true_eq, not_or, not_lt,
      not_le] at hacceptable
    omega
  refine measure ?_ f now
  unfold takeSample
  split
  · exact { hpoll with current := ⟨hrange.2, hf⟩, position := hrange.1 }
  · exact { hpoll with current := ⟨hrange.2, hf⟩, position := hrange.1 }

theorem markZeroSent (h : l.Readable) (now : Tick) : (l.markZeroSent now).Readable := by
  unfold Lift.markZeroSent
  split
  · exact { h with }
  · exact h

end Readable

end Lift

namespace LiftEndpoint

theorem keeps_readable : Keeps Lift.Readable where
  poll _ now h := h.poll now
  home _ now h := h.home now
  move _ height now h := h.move height now
  cancel _ h := h.cancel
  reset _ h := h.reset
  inhibit _ reason h := h.inhibit reason

/-- The endpoint has a boot, and its lift is readable. -/
structure Answering (e : LiftEndpoint) : Prop where
  boot : e.bootId ≠ 0
  lift : e.lift.Readable

end LiftEndpoint

/-- The current of a sample is an `int32_t`. -/
def LiftEndpointEvent.Typed : LiftEndpointEvent → Prop
  | .observe feedback _ => feedback.currentMa ≤ 2147483647
  | _ => True

abbrev TypedLiftEvent := { event : LiftEndpointEvent // event.Typed }

namespace LiftEndpoint

namespace Answering

variable {e : LiftEndpoint}

theorem exchange (h : e.Answering) (packet : List Byte) (now : Tick) :
    (e.exchange packet now).1.Answering :=
  ⟨(congrArg Prod.fst (e.identity_exchange packet now)).trans_ne h.boot,
    keeps_readable.exchange h.lift packet now⟩

theorem step (h : e.Answering) (event : TypedLiftEvent) : (e.step event.val).Answering := by
  obtain ⟨event, htyped⟩ := event
  cases event with
  | endpoint action =>
    cases action with
    | poll now =>
      exact ⟨(congrArg Prod.fst (e.identity_poll now)).trans_ne h.boot,
        keeps_readable.endpointPoll h.lift now⟩
    | exchange packet now => exact h.exchange packet now
    | stop => exact ⟨h.boot, h.lift.cancel⟩
    | interlock interlock given ready => exact ⟨h.boot, h.lift⟩
  | observe feedback now => exact ⟨h.boot, h.lift.observe htyped now⟩
  | poll now => exact ⟨h.boot, h.lift.poll now⟩
  | inhibit reason => exact ⟨h.boot, h.lift.inhibit reason⟩
  | zeroSent now => exact ⟨h.boot, h.lift.markZeroSent now⟩

theorem init {config : LiftConfig} {bootId leaseMaxMs : Tick} {initial : LiftEndpoint}
    (hinit : LiftEndpoint.init (Lift.init config).1 bootId leaseMaxMs = some initial) :
    initial.Answering := by
  unfold LiftEndpoint.init at hinit
  split at hinit
  · cases hinit
  · rename_i hok
    simp only [Bool.or_eq_true, beq_iff_eq, not_or] at hok
    cases hinit
    exact ⟨hok.1.1.2, .init config⟩

end Answering

theorem exchange_reply {e : LiftEndpoint} {packet reply : List Byte} {now : Tick}
    (h : (e.exchange packet now).2 = some reply) :
    ∃ request, parse packet = some request ∧ reply = (e.exchange packet now).1.status request
      ((e.poll now).answer request now).2 now := by
  unfold exchange at h ⊢
  split at h
  · cases h
  · rename_i request hrequest
    cases h
    exact ⟨request, hrequest, rfl⟩

end LiftEndpoint

/-! ## 3. The mobile axes -/

/-- A kind that the host knows, but for its top bit. -/
def KnownKind (kind : Byte) : Prop := 1 ≤ kind.toNat &&& 127 ∧ kind.toNat &&& 127 ≤ 6

instance (kind : Byte) : Decidable (KnownKind kind) := inferInstanceAs (Decidable (_ ∧ _))

theorem replyKinds_refused : ∀ kind : Byte, (kind ||| 0x80).toNat ∈ Host.replyKinds ↔ KnownKind kind := by
  have hall : ∀ n : Fin 256, (BitVec.ofNat 8 n ||| 0x80).toNat ∈ Host.replyKinds ↔
      KnownKind (BitVec.ofNat 8 n) := by
    decide +kernel
  intro kind
  have hkind := hall ⟨kind.toNat, kind.isLt⟩
  rwa [BitVec.ofNat_toNat, BitVec.setWidth_eq] at hkind

theorem replyKinds_accepted : ∀ kind : Byte, 1 ≤ kind → kind ≤ 6 →
    kind.toNat ∈ Host.replyKinds ∧ KnownKind kind := by
  have hall : ∀ n : Fin 7, 1 ≤ (n : Nat) → (n : Nat) ∈ Host.replyKinds ∧
      KnownKind (BitVec.ofNat 8 n) := by
    decide +kernel
  intro kind hlow hhigh
  have hkind := hall ⟨kind.toNat, Nat.lt_succ_of_le (BitVec.le_def.mp hhigh)⟩
    (BitVec.le_def.mp hlow)
  rwa [BitVec.ofNat_toNat, BitVec.setWidth_eq] at hkind

/-- What the words of a status hold. -/
structure MobileSupervisor.Readable (s : MobileSupervisor) : Prop where
  velocity : ∀ axis, IsInt32 (s.feedback.velocityRaw axis)
  lift : IsInt32 s.feedback.liftPositionUm

namespace MobileEndpoint

/-- What the host is to read of an answer. -/
def report (e : MobileEndpoint) (kind : Byte) (sequence nowMs : Tick) : Host.MobileStatus where
  kind := kind.toNat
  requestSequence := sequence.toNat
  mcuTickMs := nowMs.toNat
  bootId := e.bootId.toNat
  capabilities := 7
  session := e.supervisor.session.toNat
  sequence := e.supervisor.sequence.toNat
  state := e.supervisor.state.toByte.toNat
  reason := e.supervisor.reason.toByte.toNat
  flags := (e.supervisor.flagsByte nowMs).toNat
  feedbackTickMs := e.supervisor.feedback.observedMs.toNat
  velocityRaw := (List.finRange 4).map e.supervisor.feedback.velocityRaw
  liftPositionUm := e.supervisor.feedback.liftPositionUm
  rejectedFrames := e.rejectedFrames.toNat

theorem decode_status {e : MobileEndpoint} (hboot : e.bootId ≠ 0) (h : e.supervisor.Readable)
    (kind : Byte) (sequence now : Tick) :
    Host.MobileStatus.decode (e.status kind sequence now) =
      if kind.toNat ∈ Host.replyKinds then .ok (e.report kind sequence now)
      else .error "unsupported reply kind" := by
  have haxes : ∀ value : Axis → Tick, (List.finRange 4).flatMap (fun axis => writeU32Le (value axis)) =
      writeU32Le (value 0) ++ writeU32Le (value 1) ++ writeU32Le (value 2) ++
        writeU32Le (value 3) := fun _ => rfl
  have hlength : (e.status kind sequence now).length = 64 := by
    simp only [status, statusBody, haxes, List.length_append, List.length_cons, List.length_nil,
      Stream.length_writeU32Le]
  have hcrc : unpackU32 (e.status kind sequence now) 60 =
      Host.crc32c ((e.status kind sequence now).take 60) := by
    refine @crc_sixty _ (e.statusBody kind sequence now) ?_ rfl
    simp only [statusBody, haxes, List.length_append, List.length_cons, List.length_nil,
      Stream.length_writeU32Le]
  have hbytes : (e.status kind sequence now).take 3 = [0x41, 0x53, 1] ∧
      (e.status kind sequence now).getD 3 0 = kind ∧
      (e.status kind sequence now).getD 28 0 = e.supervisor.state.toByte ∧
      (e.status kind sequence now).getD 29 0 = e.supervisor.reason.toByte ∧
      (e.status kind sequence now).getD 30 0 = e.supervisor.flagsByte now ∧
      (e.status kind sequence now).getD 31 0 = 0 := by
    simp only [status, statusBody, List.append_assoc, List.cons_append, List.nil_append,
      Stream.getD_word, List.getD_cons_succ, List.getD_cons_zero, List.take_succ_cons,
      List.take_zero, and_self]
  obtain ⟨hmagic, hkind, hstate, hreason, hflags, hunused⟩ := hbytes
  have hflags' : unpackU16 (e.status kind sequence now) 30 = (e.supervisor.flagsByte now).toNat := by
    simp only [unpackU16, hflags, hunused, Wire.Host.unpackLe]
    rfl
  have hstate' : e.supervisor.state.toByte.toNat ≤ 3 := by cases e.supervisor.state <;> decide
  have hreason' : e.supervisor.reason.toByte.toNat ≤ 4 := by cases e.supervisor.reason <;> decide
  have hreport : ({
      kind := ((e.status kind sequence now).getD 3 0).toNat
      requestSequence := unpackU32 (e.status kind sequence now) 4
      mcuTickMs := unpackU32 (e.status kind sequence now) 8
      bootId := unpackU32 (e.status kind sequence now) 12
      capabilities := unpackU32 (e.status kind sequence now) 16
      session := unpackU32 (e.status kind sequence now) 20
      sequence := unpackU32 (e.status kind sequence now) 24
      state := ((e.status kind sequence now).getD 28 0).toNat
      reason := ((e.status kind sequence now).getD 29 0).toNat
      flags := unpackU16 (e.status kind sequence now) 30
      feedbackTickMs := unpackU32 (e.status kind sequence now) 32
      velocityRaw := (List.range 4).map fun axis =>
        unpackI32 (e.status kind sequence now) (36 + 4 * axis)
      liftPositionUm := unpackI32 (e.status kind sequence now) 52
      rejectedFrames := unpackU32 (e.status kind sequence now) 56 } : Host.MobileStatus) =
      e.report kind sequence now := by
    have hrange : ∀ f : Nat → Int, (List.range 4).map f = [f 0, f 1, f 2, f 3] := fun _ => rfl
    have hfin : ∀ f : Axis → Int, (List.finRange 4).map f = [f 0, f 1, f 2, f 3] := fun _ => rfl
    rw [hkind, hstate, hreason, hflags', hrange]
    simp only [unpackU32_eq, unpackI32_eq, status, statusBody, haxes, List.append_assoc,
      List.cons_append, List.nil_append, Stream.readU32Le_cons, Stream.readU32Le_word,
      Stream.readU32Le_writeU32Le, Nat.reduceMul, Nat.reduceAdd, toInt_ofInt (h.velocity _),
      toInt_ofInt h.lift, report, hfin]
    rfl
  have hframe : raiseIf ((e.status kind sequence now).length ≠ 64 ∨
      (e.status kind sequence now).take 3 ≠ [0x41, 0x53, 1]) "invalid mobile status" = .ok () :=
    raiseIf_ok_iff.mpr (by simp only [hlength, hmagic, ne_eq, not_true_eq_false, or_self, not_false_eq_true])
  have hsum : raiseIf (Host.crc32c ((e.status kind sequence now).take 60) ≠
      unpackU32 (e.status kind sequence now) 60) "status CRC mismatch" = .ok () :=
    raiseIf_ok_iff.mpr (not_not.mpr hcrc.symm)
  have hfields : raiseIf ((e.report kind sequence now).bootId = 0 ∨
      (e.report kind sequence now).state > 3 ∨ (e.report kind sequence now).reason > 4 ∨
      unknownFlags (e.report kind sequence now).flags ≠ 0) "unsupported status fields" = .ok () := by
    refine raiseIf_ok_iff.mpr ?_
    simp only [not_or, not_not, gt_iff_lt, Nat.not_lt]
    exact ⟨toNat_ne_zero hboot, hstate', hreason', unknownFlags_five _ _ _ _ _⟩
  unfold Host.MobileStatus.decode
  rw [hreport, hframe, hsum]
  dsimp only [bind, Except.bind]
  rw [hfields]
  have hanswer : raiseIf ((e.report kind sequence now).kind ∉ Host.replyKinds)
      "unsupported reply kind" =
        if kind.toNat ∈ Host.replyKinds then .ok () else .error "unsupported reply kind" := by
    by_cases hknown : kind.toNat ∈ Host.replyKinds
    · rw [if_pos hknown]
      exact raiseIf_ok_iff.mpr (not_not.mpr hknown)
    · rw [if_neg hknown]
      exact if_pos hknown
  rw [hanswer]
  split_ifs <;> rfl

end MobileEndpoint

namespace MobileSupervisor

theorem feedback_poll (s : MobileSupervisor) (now : Tick) : (s.poll now).feedback = s.feedback := by
  rcases s.poll_eq now with heq | ⟨reason, heq⟩ <;> rw [heq]
  rfl

theorem feedback_arm (s : MobileSupervisor) (session now : Tick) :
    (s.arm session now).1.feedback = s.feedback := by
  unfold arm
  dsimp only
  split
  · exact s.feedback_poll now
  · exact s.feedback_poll now

theorem feedback_command (s : MobileSupervisor) (session sequence : Tick) (velocity : Axis → Int)
    (now : Tick) : (s.command session sequence velocity now).1.feedback = s.feedback := by
  unfold command
  dsimp only
  split_ifs <;> exact s.feedback_poll now

theorem feedback_commandUntil (s : MobileSupervisor) (session sequence : Tick)
    (velocity : Axis → Int) (validUntil now : Tick) :
    (s.commandUntil session sequence velocity validUntil now).1.feedback = s.feedback := by
  have hcommand := (s.poll now).feedback_command session sequence velocity now
  unfold commandUntil
  dsimp only
  split
  · exact s.feedback_poll now
  · split
    · rename_i heq
      exact (congrArg (fun result => result.1.feedback) heq).symm.trans
        (hcommand.trans (s.feedback_poll now))
    · rename_i heq
      exact (congrArg (fun result => result.1.feedback) heq).symm.trans
        (hcommand.trans (s.feedback_poll now))

theorem feedback_stop (s : MobileSupervisor) : s.stop.feedback = s.feedback := by
  unfold stop
  split <;> rfl

theorem feedback_apply (s : MobileSupervisor) (packet : List Byte) (now : Tick) :
    (s.apply packet now).1.feedback = s.feedback := by
  rcases s.apply_cases packet now with
    heq | ⟨m, -, ⟨-, heq⟩ | ⟨-, heq⟩ | ⟨-, -, -, heq⟩⟩ <;> rw [heq]
  · exact s.feedback_poll now
  · exact ((s.poll now).feedback_arm m.session now).trans (s.feedback_poll now)
  · exact ((s.poll now).feedback_commandUntil m.session m.sequence m.velocityRaw m.validUntilMs
      now).trans (s.feedback_poll now)
  · exact (s.poll now).feedback_stop.trans (s.feedback_poll now)

namespace Readable

variable {s : MobileSupervisor}

theorem congr (h : s.Readable) {s' : MobileSupervisor} (hfeedback : s'.feedback = s.feedback) :
    s'.Readable :=
  ⟨hfeedback ▸ h.velocity, hfeedback ▸ h.lift⟩

theorem init (config : MobileConfig) : (MobileSupervisor.init config).1.Readable := by
  unfold MobileSupervisor.init
  split
  · exact ⟨fun _ => Lift.isInt32_zero, Lift.isInt32_zero⟩
  · exact ⟨fun _ => Lift.isInt32_zero, Lift.isInt32_zero⟩

/-- Feedback is taken if its velocities are in range. -/
theorem observe (h : s.Readable) {feedback : MobileFeedback} (hlift : IsInt32 feedback.liftPositionUm)
    (now : Tick) : (s.observe feedback now).1.Readable := by
  have hpoll := h.congr (s.feedback_poll now)
  unfold MobileSupervisor.observe
  dsimp only
  split
  · exact h
  split
  · exact hpoll
  split
  · exact hpoll
  split
  · exact hpoll
  · rename_i hrange
    simp only [Bool.not_eq_true', decide_eq_false_iff_not, not_not] at hrange
    have htaken : ({ s.poll now with feedback, haveFeedback := true } : MobileSupervisor).Readable :=
      ⟨fun axis => Lift.isInt32_small (hrange axis).1 (hrange axis).2, hlift⟩
    exact htaken.congr (feedback_poll _ now)

end Readable

end MobileSupervisor

/-- What happens to the mobile endpoint, and to the supervisor behind it. -/
inductive MobileEndpointEvent where
  | byte (byte : Byte) (nowMs : Tick)
  | framed (flags : BitVec 16) (payload : List Byte) (nowMs : Tick)
  | supervisor (call : SupervisorCall)

/-- The position of the lift is an `int32_t`. -/
def MobileEndpointEvent.Typed : MobileEndpointEvent → Prop
  | .supervisor (.observe feedback _) => IsInt32 feedback.liftPositionUm
  | _ => True

abbrev TypedMobileEvent := { event : MobileEndpointEvent // event.Typed }

namespace MobileEndpoint

def step (e : MobileEndpoint) : MobileEndpointEvent → MobileEndpoint
  | .byte byte nowMs => (e.feed byte nowMs).1
  | .framed flags payload nowMs => (e.framedReply flags payload nowMs).1
  | .supervisor call => { e with supervisor := e.supervisor.call call }

/-- The endpoint has a boot, and its supervisor is readable. -/
structure Answering (e : MobileEndpoint) : Prop where
  boot : e.bootId ≠ 0
  supervisor : e.supervisor.Readable

namespace Answering

variable {e : MobileEndpoint}

theorem take (h : e.Answering) (byte : Byte) (now : Tick) : (e.take byte now).Answering := by
  have hpoll := h.supervisor.congr (e.supervisor.feedback_poll now)
  unfold MobileEndpoint.take
  dsimp only
  split
  · exact ⟨h.boot, hpoll⟩
  · exact ⟨h.boot, hpoll⟩

theorem serve {s : MobileSupervisor} (h : s.Readable) (packet : List Byte) (now : Tick) :
    (serve s packet now).1.Readable := by
  unfold MobileEndpoint.serve
  dsimp only
  split_ifs
  · exact h
  · exact h.congr (s.feedback_apply packet now)
  · exact h

theorem feed (h : e.Answering) (byte : Byte) (now : Tick) : (e.feed byte now).1.Answering := by
  have htake := h.take byte now
  unfold MobileEndpoint.feed
  dsimp only
  split_ifs
  · exact htake
  · exact ⟨htake.boot, htake.supervisor⟩
  · exact ⟨htake.boot, serve htake.supervisor _ now⟩

theorem feedAll (h : e.Answering) (bytes : List Byte) (now : Tick) :
    (e.feedAll bytes now).1.Answering := by
  unfold MobileEndpoint.feedAll
  generalize (none : Option (List Byte)) = replied
  induction bytes generalizing e replied with
  | nil => exact h
  | cons byte bytes ih => exact ih (h.feed byte now) _

theorem framedReply (h : e.Answering) (flags : BitVec 16) (payload : List Byte) (now : Tick) :
    (e.framedReply flags payload now).1.Answering := by
  have hempty : ({ e with buffer := [] } : MobileEndpoint).Answering := ⟨h.boot, h.supervisor⟩
  have hfed := hempty.feedAll payload now
  unfold MobileEndpoint.framedReply
  split
  · split
    · rename_i heq
      rwa [heq] at hfed
    · rename_i heq
      rwa [heq] at hfed
  · exact h

theorem step (h : e.Answering) (event : TypedMobileEvent) : (e.step event.val).Answering := by
  obtain ⟨event, htyped⟩ := event
  cases event with
  | byte byte now => exact h.feed byte now
  | framed flags payload now => exact h.framedReply flags payload now
  | supervisor call =>
    refine ⟨h.boot, ?_⟩
    cases call with
    | observe feedback now => exact h.supervisor.observe htyped now
    | arm session now => exact h.supervisor.congr (e.supervisor.feedback_arm session now)
    | command session sequence velocity now =>
      exact h.supervisor.congr (e.supervisor.feedback_command session sequence velocity now)
    | commandUntil session sequence velocity validUntil now =>
      exact h.supervisor.congr
        (e.supervisor.feedback_commandUntil session sequence velocity validUntil now)
    | poll now => exact h.supervisor.congr (e.supervisor.feedback_poll now)
    | stop => exact h.supervisor.congr e.supervisor.feedback_stop

theorem init {config : MobileConfig} {bootId : Tick} {initial : MobileEndpoint}
    (hinit : init (MobileSupervisor.init config).1 bootId = some initial) :
    initial.Answering := by
  unfold MobileEndpoint.init at hinit
  split at hinit
  · cases hinit
  · rename_i hok
    simp only [Bool.or_eq_true, beq_iff_eq, not_or] at hok
    cases hinit
    exact ⟨hok.2, .init config⟩

end Answering

/-! ## 4. Replies -/

/-- The packet that a byte completes, and whether it is accepted. -/
def packetOf (e : MobileEndpoint) (byte : Byte) (nowMs : Tick) : List Byte := (e.take byte nowMs).buffer

def accepts (e : MobileEndpoint) (byte : Byte) (nowMs : Tick) : Bool :=
  (serve (e.take byte nowMs).supervisor (e.packetOf byte nowMs) nowMs).2

/-- The opcode of a reply. -/
def replyKind (kind : Byte) (accepted : Bool) : Byte := if accepted then kind else kind ||| 0x80

variable {byte : Byte} {now : Tick} {reply : List Byte}

theorem feed_reply {e : MobileEndpoint} (h : (e.feed byte now).2 = some reply) :
    reply = (e.feed byte now).1.status
      (replyKind ((e.packetOf byte now).getD 3 0) (e.accepts byte now))
      (readU32Le (e.packetOf byte now) 8) now := by
  unfold feed at h ⊢
  dsimp only at h ⊢
  split_ifs at h ⊢
  cases h
  rfl

theorem kind_of_accepted {s : MobileSupervisor} {packet : List Byte}
    (h : (serve s packet now).2 = true) : 1 ≤ packet.getD 3 0 ∧ packet.getD 3 0 ≤ 6 := by
  unfold serve at h
  dsimp only at h
  split_ifs at h with hquery hcommand
  · simp only [Bool.and_eq_true, decide_eq_true_eq] at hquery
    exact ⟨BitVec.le_trans (by decide) hquery.1.1, hquery.1.2⟩
  · simp only [Bool.and_eq_true, decide_eq_true_eq] at hcommand
    exact ⟨hcommand.1, BitVec.le_trans hcommand.2 (by decide)⟩

theorem mem_replyKinds_iff (e : MobileEndpoint) (byte : Byte) (now : Tick) :
    (replyKind ((e.packetOf byte now).getD 3 0) (e.accepts byte now)).toNat ∈ Host.replyKinds ↔
      KnownKind ((e.packetOf byte now).getD 3 0) := by
  cases haccepts : e.accepts byte now with
  | false => exact replyKinds_refused _
  | true =>
    obtain ⟨hlow, hhigh⟩ := kind_of_accepted haccepts
    obtain ⟨hmem, hknown⟩ := replyKinds_accepted _ hlow hhigh
    exact iff_of_true hmem hknown

/-- **A reply to a byte is read, if its packet has a kind that exists.** -/
theorem decode_feed {e : MobileEndpoint} (he : e.Answering) (h : (e.feed byte now).2 = some reply) :
    Host.MobileStatus.decode reply =
      if KnownKind ((e.packetOf byte now).getD 3 0) then
        .ok ((e.feed byte now).1.report
          (replyKind ((e.packetOf byte now).getD 3 0) (e.accepts byte now))
          (readU32Le (e.packetOf byte now) 8) now)
      else .error "unsupported reply kind" := by
  have hanswering := he.feed byte now
  rw [feed_reply h, decode_status hanswering.boot hanswering.supervisor]
  exact if_congr (e.mem_replyKinds_iff byte now) rfl rfl

variable {payload : List Byte}

/-- The first bytes of a packet are no reason to slide. -/
theorem misaligned_append {pre rest : List Byte} (hpayload : pre ++ byte :: rest = payload)
    (hmagic : payload.getD 0 0 = 0x41 ∧ payload.getD 1 0 = 0x4D ∧ payload.getD 2 0 = 1) :
    misaligned (pre ++ [byte]) = false := by
  have hread : ∀ index < (pre ++ [byte]).length,
      (pre ++ [byte]).getD index 0 = payload.getD index 0 := by
    intro index hindex
    have hsplit : payload = (pre ++ [byte]) ++ rest := by rw [← hpayload, List.append_cons]
    rw [hsplit, List.getD_append _ _ _ _ hindex]
  obtain ⟨h0, h1, h2⟩ := hmagic
  have hzero : (pre ++ [byte]).getD 0 0 = 0x41 := (hread 0 (by simp)).trans h0
  unfold misaligned
  rw [hzero]
  simp only [bne_self_eq_false, Bool.false_or, Bool.or_eq_false_iff, Bool.and_eq_false_imp,
    decide_eq_true_eq, bne_eq_false_iff_eq]
  exact ⟨fun hlong => (hread 1 hlong).trans h1, fun hlong => (hread 2 hlong).trans h2⟩

theorem take_aligned {e : MobileEndpoint} (hrecent : e.buffer = [] ∨ e.lastByteMs = now)
    (haligned : misaligned (e.buffer ++ [byte]) = false) :
    (e.take byte now).buffer = e.buffer ++ [byte] ∧ (e.take byte now).lastByteMs = now := by
  have hresync : ∀ rejectedFrames, resync rejectedFrames (e.buffer ++ [byte]) =
      (rejectedFrames, e.buffer ++ [byte]) := by
    intro rejectedFrames
    cases hbuffer : e.buffer ++ [byte] with
    | nil => rfl
    | cons first rest =>
      rw [resync, ← hbuffer, haligned]
      rfl
  have hkept : ¬ (e.buffer ≠ [] ∧ 100 ≤ now - e.lastByteMs) := by
    rintro ⟨hnonempty, hlate⟩
    obtain rfl : e.lastByteMs = now := hrecent.resolve_left hnonempty
    rw [BitVec.sub_self] at hlate
    exact absurd hlate (by decide)
  unfold take
  dsimp only
  rw [if_neg hkept]
  dsimp only
  rw [hresync]
  exact ⟨rfl, rfl⟩

theorem feedAll_packet (hlength : payload.length = 36)
    (hmagic : payload.getD 0 0 = 0x41 ∧ payload.getD 1 0 = 0x4D ∧ payload.getD 2 0 = 1)
    (hcrc : readU32Le payload 32 = crc32c (payload.take 32)) :
    ∀ (rest : List Byte) {e : MobileEndpoint} (_ : e.Answering) (_ : rest ≠ [])
      (_ : e.buffer ++ rest = payload) (_ : e.buffer = [] ∨ e.lastByteMs = now),
      ∃ (e₀ : MobileEndpoint) (byte : Byte) (reply : List Byte), e₀.Answering ∧ e₀.packetOf byte now = payload ∧
        (e₀.feed byte now).2 = some reply ∧
        e.feedAll rest now = ((e₀.feed byte now).1, some reply) := by
  intro rest
  induction rest with
  | nil => exact fun _ hrest => absurd rfl hrest
  | cons byte rest ih =>
    intro e he _ hpayload hrecent
    have haligned := misaligned_append hpayload hmagic
    obtain ⟨hbuffer, hlast⟩ := take_aligned hrecent haligned
    cases rest with
    | nil =>
      have hwhole : e.packetOf byte now = payload := hbuffer.trans hpayload
      have hfeed : e.feed byte now =
          (((e.take byte now).answer now).1, some ((e.take byte now).answer now).2) := by
        unfold feed
        dsimp only
        rw [packetOf] at hwhole
        rw [if_neg (by rw [hwhole, hlength]; decide), if_neg (by rw [hwhole, hcrc]; simp)]
      refine ⟨e, byte, ((e.take byte now).answer now).2, he, hwhole, by rw [hfeed], ?_⟩
      unfold feedAll
      rw [List.foldl_cons, List.foldl_nil]
      dsimp only
      rw [hfeed]
      rfl
    | cons byte' rest =>
      have hshort : (e.take byte now).buffer.length < 36 := by
        have hsum := congrArg List.length hpayload
        rw [hbuffer]
        simp only [List.length_append, List.length_cons, List.length_nil] at hsum ⊢
        omega
      have hfeed : e.feed byte now = (e.take byte now, none) := by
        unfold feed
        dsimp only
        rw [if_pos hshort]
      have hrest := ih (he.take byte now) (List.cons_ne_nil byte' rest)
        (by rw [hbuffer, ← List.append_cons]; exact hpayload) (.inr hlast)
      have hgo : e.feedAll (byte :: byte' :: rest) now =
          (e.take byte now).feedAll (byte' :: rest) now := by
        unfold feedAll
        rw [List.foldl_cons]
        dsimp only
        rw [hfeed]
        rfl
      rw [hgo]
      exact hrest

/-- **Every reply of the framed route is read.** -/
theorem decode_framedReply {e : MobileEndpoint} (he : e.Answering) {flags : BitVec 16}
    (h : (e.framedReply flags payload now).2 = 0 :: reply) :
    ∃ accepted, Host.MobileStatus.decode reply =
      .ok ((e.framedReply flags payload now).1.report (replyKind (payload.getD 3 0) accepted)
        (readU32Le payload 8) now) := by
  by_cases hframed : framed flags payload
  · have hframed' := hframed
    simp only [framed, Bool.and_eq_true, beq_iff_eq, decide_eq_true_eq] at hframed'
    obtain ⟨⟨⟨⟨⟨⟨⟨-, hlength⟩, h0⟩, h1⟩, h2⟩, hlow⟩, hhigh⟩, hcrc⟩ := hframed'
    have hnonempty : payload ≠ [] := by
      rintro rfl
      cases hlength
    obtain ⟨e₀, byte, reply', he₀, hpacket, hreply, hall⟩ :=
      feedAll_packet (e := { e with buffer := [] }) hlength ⟨h0, h1, h2⟩ hcrc payload
        ⟨he.boot, he.supervisor⟩ hnonempty rfl (.inl rfl)
    have hroute : e.framedReply flags payload now = ((e₀.feed byte now).1, 0 :: reply') := by
      unfold framedReply
      rw [if_pos hframed, hall]
    rw [hroute] at h ⊢
    cases h
    have hdecode := decode_feed he₀ hreply
    rw [hpacket, if_pos (replyKinds_accepted _ hlow hhigh).2] at hdecode
    exact ⟨_, hdecode⟩
  · unfold framedReply at h
    rw [if_neg hframed] at h
    cases h

end MobileEndpoint

/-- **What the host reads.**  Behind every run the answer of the lift endpoint is read, field by
field; the mobile endpoint's is, where the packet has a kind that exists, and on the framed route
it always has. -/
theorem status_replies_read {liftConfig : LiftConfig} {liftBoot leaseMaxMs : Tick}
    {lift : LiftEndpoint}
    (hlift : LiftEndpoint.init (Lift.init liftConfig).1 liftBoot leaseMaxMs = some lift)
    {mobileConfig : MobileConfig} {mobileBoot : Tick} {mobile : MobileEndpoint}
    (hmobile : init (MobileSupervisor.init mobileConfig).1 mobileBoot = some mobile) :
    (∀ (events : List TypedLiftEvent) (packet : List Byte) (now : Tick) (reply : List Byte),
      let e := run (fun e (event : TypedLiftEvent) => LiftEndpoint.step e event.val) lift events
      (e.exchange packet now).2 = some reply →
        ∃ request, LiftEndpoint.parse packet = some request ∧
          Host.LiftStatus.decode reply = .ok ((e.exchange packet now).1.report request
            ((e.poll now).answer request now).2 now)) ∧
    ∀ (events : List TypedMobileEvent),
      let e := run (fun e (event : TypedMobileEvent) => step e event.val) mobile events
      (∀ (byte : Byte) (now : Tick) (reply : List Byte), (e.feed byte now).2 = some reply →
        Host.MobileStatus.decode reply =
          if KnownKind ((e.packetOf byte now).getD 3 0) then
            .ok ((e.feed byte now).1.report
              (replyKind ((e.packetOf byte now).getD 3 0) (e.accepts byte now))
              (readU32Le (e.packetOf byte now) 8) now)
          else .error "unsupported reply kind") ∧
      ∀ (flags : BitVec 16) (payload : List Byte) (now : Tick) (reply : List Byte),
        (e.framedReply flags payload now).2 = 0 :: reply →
          ∃ accepted, Host.MobileStatus.decode reply =
            .ok ((e.framedReply flags payload now).1.report
              (replyKind (payload.getD 3 0) accepted) (readU32Le payload 8) now) := by
  constructor
  · intro events packet now reply e hreply
    have he : e.Answering :=
      run_invariant_all (fun _ event h => h.step event) events (LiftEndpoint.Answering.init hlift)
    obtain ⟨request, hrequest, rfl⟩ := LiftEndpoint.exchange_reply hreply
    have hafter := he.exchange packet now
    exact ⟨request, hrequest, LiftEndpoint.decode_status hafter.boot hafter.lift request _ now⟩
  · intro events e
    have he : e.Answering :=
      run_invariant_all (fun _ event h => h.step event) events (Answering.init hmobile)
    exact ⟨fun byte now reply hreply => decode_feed he hreply,
      fun flags payload now reply hreply => decode_framedReply he hreply⟩

def Bench.mobileEndpoint : MobileEndpoint :=
  { supervisor := (MobileSupervisor.init MobileOutput.benchSupervisor).1, bootId := 42
    rejectedFrames := 0, buffer := [], lastByteMs := 0 }

theorem Bench.init_mobileEndpoint :
    init (MobileSupervisor.init MobileOutput.benchSupervisor).1 42 =
      some Bench.mobileEndpoint :=
  if_neg (by decide +kernel)

/-- A query of an opcode, of nonce 1. -/
def Bench.query (kind : Byte) : List Byte :=
  let body := [0x41, 0x4D, 1, kind, 1] ++ List.replicate 27 0
  body ++ writeU32Le (crc32c body)

theorem status_replies_read_bench :
    ∃ accepted, Host.MobileStatus.decode
        ((Bench.mobileEndpoint.framedReply 0 (Bench.query 5) 7).2.drop 1) =
      .ok ((Bench.mobileEndpoint.framedReply 0 (Bench.query 5) 7).1.report
        (replyKind ((Bench.query 5).getD 3 0) accepted)
        (readU32Le (Bench.query 5) 8) 7) :=
  ((status_replies_read MobileOutput.init_benchEndpoint Bench.init_mobileEndpoint).2 []).2 0
    (Bench.query 5) 7 _ (by decide +kernel)

/-- A packet of opcode 7 is answered, and the host cannot read the answer. -/
theorem unknown_kind_unread :
    ((Bench.mobileEndpoint.feedAll (Bench.query 7) 0).2.map Host.MobileStatus.decode) =
      some (.error "unsupported reply kind") := by
  decide +kernel

end MobileBimanual.Mobile
