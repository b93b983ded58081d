/-
# The host's side of STREAM_OPEN

`validate_stream_policy_v2` and `encode_stream_open_v2` of `stream_protocol_v2.py`.  A field of a
dataclass is an integer of any size and a vector a tuple of any length; the encoder refuses what
does not fit, the validator judges what fits against the hard caps.

* `streamPolicyDecode_makeOpen`: the firmware reads back what a host writes;
* `Host.encodeStreamOpenV2_ok_iff`: what the encoder takes and what it writes;
* `admission_agrees`: host and firmware admit the same policies.

A `StreamContractError` is its text.
-/
import MobileBimanual.Stream.Payload
import MobileBimanual.Stream.Outcomes
import Mathlib.Data.Int.Bitwise

namespace MobileBimanual.Stream

/-! ## 1. What the firmware reads back -/

theorem length_flatMap_writeU32Le {α : Type} (value : α → BitVec 32) (items : List α) :
    (items.flatMap fun item => writeU32Le (value item)).length = 4 * items.length := by
  induction items with
  | nil => rfl
  | cons item items ih =>
    simp only [List.flatMap_cons, List.length_append, length_writeU32Le, ih, List.length_cons]
    omega

theorem readU32Le_flatMap {α : Type} (value : α → BitVec 32) (rest : List Byte) :
    ∀ (items : List α) (index : Nat) (h : index < items.length),
      readU32Le ((items.flatMap fun item => writeU32Le (value item)) ++ rest) (index * 4) =
        value items[index]
  | [], _, h => absurd h (Nat.not_lt_zero _)
  | item :: items, 0, _ => by
    rw [List.flatMap_cons, List.append_assoc]
    exact readU32Le_writeU32Le _ _
  | item :: items, index + 1, h => by
    have ih := readU32Le_flatMap value rest items index (by simpa using h)
    have hoffset : (index + 1) * 4 = (writeU32Le (value item)).length + index * 4 := by
      rw [length_writeU32Le]
      omega
    rw [List.flatMap_cons, List.append_assoc, hoffset, readU32Le_append, ih]
    rfl

@[simp] theorem length_writeJoints (joints : Joints) : (writeJoints joints).length = 48 := by
  rw [writeJoints, length_flatMap_writeU32Le, List.length_finRange]

theorem readU32Le_writeJoints (joints : Joints) (rest : List Byte) (joint : Joint) :
    readU32Le (writeJoints joints ++ rest) (joint * 4) = joints joint := by
  rw [writeJoints, readU32Le_flatMap joints rest (List.finRange 12) joint (by simp)]
  simp

/-- **A policy comes back as it was sent.** -/
theorem streamPolicyDecode_makeOpen {policy : StreamPolicy} (hmask : armMaskIsValid policy.armMask) :
    streamPolicyDecode (makeOpen policy) = .ok policy := by
  have hlength : (makeOpen policy).length = streamOpenWireSize := by
    simp [makeOpen, streamOpenWireSize]
  have htracking : ∀ joint : Joint,
      readU32Le (makeOpen policy) (24 + joint * 4) = policy.trackingErrorLimitUrad joint := by
    intro joint
    have h := readU32Le_append ((makeOpen policy).take 24)
      (writeJoints policy.trackingErrorLimitUrad ++ writeJoints policy.maximumStepUradPerTick)
      (joint * 4)
    rw [readU32Le_writeJoints] at h
    exact h
  have hstep : ∀ joint : Joint,
      readU32Le (makeOpen policy) (72 + joint * 4) = policy.maximumStepUradPerTick joint := by
    intro joint
    have h := readU32Le_append ((makeOpen policy).take 72)
      (writeJoints policy.maximumStepUradPerTick ++ []) (joint * 4)
    rw [readU32Le_writeJoints] at h
    exact h
  have hstart : readU16Le (makeOpen policy) 0 = policy.minimumStartSamples :=
    readU16Le_writeU16Le policy.minimumStartSamples []
  have hminimum : readU32Le (makeOpen policy) 4 = policy.minimumLeadMs :=
    readU32Le_writeU32Le policy.minimumLeadMs []
  have hhorizon : readU32Le (makeOpen policy) 8 = policy.horizonEndTick :=
    readU32Le_writeU32Le policy.horizonEndTick []
  have hmaximum : readU32Le (makeOpen policy) 12 = policy.maximumLeadMs :=
    readU32Le_writeU32Le policy.maximumLeadMs []
  have htimeout : readU32Le (makeOpen policy) 16 = policy.commandTimeoutMs :=
    readU32Le_writeU32Le policy.commandTimeoutMs []
  have hlateness : readU32Le (makeOpen policy) 20 = policy.maximumApplyLatenessMs :=
    readU32Le_writeU32Le policy.maximumApplyLatenessMs []
  have harm : (makeOpen policy).getD 2 0 = policy.armMask := rfl
  have hreserved : (makeOpen policy).getD 3 0 = 0 := rfl
  unfold streamPolicyDecode
  rw [if_neg (not_not.mpr hlength), harm, hreserved, if_neg (by simp [hmask]), if_neg (by simp),
    hstart, hminimum, hhorizon, hmaximum, htimeout, hlateness, funext htracking, funext hstep]

/-! ## 2. The host's data -/

namespace Host

structure StreamHardCapsV2 where
  minimumLeadMs : Int
  maximumLeadMs : Int
  maximumCommandTimeoutMs : Int
  maximumOpenCommandTimeoutMs : Int
  maximumApplyLatenessMs : Int
  trackingErrorLimitUrad : List Int
  maximumStepUradPerTick : List Int

structure StreamPolicyV2 where
  minimumStartSamples : Int
  minimumLeadMs : Int
  horizonEndTick : Int
  maximumLeadMs : Int
  commandTimeoutMs : Int
  maximumApplyLatenessMs : Int
  trackingErrorLimitUrad : List Int
  maximumStepUradPerTick : List Int
  armMask : Int

/-- `if bad: raise StreamContractError(message)`. -/
def raiseIf (bad : Prop) [Decidable bad] (message : String) : Except String Unit :=
  if bad then .error message else .ok ()

def requireUint (name : String) (value : Int) (bits : Nat) : Except String Unit :=
  raiseIf (¬ (0 ≤ value ∧ value < 2 ^ bits)) s!"{name} must fit uint{bits}"

def requireInt32Vector (name : String) (values : List Int) : Except String Unit := do
  raiseIf (values.length ≠ jointCount) s!"{name} must contain {jointCount} joints"
  raiseIf (∃ value ∈ values, ¬ (-2 ^ 31 ≤ value ∧ value < 2 ^ 31)) s!"{name} values must fit int32"

/-- `candidate - reference` is cut to 32 bits before the two comparisons. -/
def tickAfter (candidate reference : Int) : Bool :=
  let difference := (candidate - reference) % 2 ^ 32
  decide (0 < difference ∧ difference < 0x80000000)

/-- `ARM_MASK_BOTH`. -/
def armMaskBoth : Int := 0x03

def validateArmMask (armMask : Int) : Except String Unit := do
  requireUint "arm_mask" armMask 8
  raiseIf (armMask = 0 ∨ Int.land armMask (Int.lnot armMaskBoth) ≠ 0)
    "arm_mask must select left, right, or both"

/-! ## 3. The validator -/

/-- The body of the validator's loops over a vector and its cap. -/
def exceedsCap (pair : Int × Int) : Prop := pair.1 ≤ 0 ∨ pair.2 ≤ 0 ∨ pair.1 > pair.2

instance (pair : Int × Int) : Decidable (exceedsCap pair) :=
  inferInstanceAs (Decidable (pair.1 ≤ 0 ∨ pair.2 ≤ 0 ∨ pair.1 > pair.2))

def validateStreamPolicyV2 (policy : StreamPolicyV2) (hardCaps : StreamHardCapsV2)
    (currentTick : Int) : Except String Unit := do
  requireUint "current_tick" currentTick 32
  validateArmMask policy.armMask
  raiseIf (¬ (1 ≤ policy.minimumStartSamples ∧ policy.minimumStartSamples ≤ queueCapacity))
    "minimum_start_samples is outside 1..16"
  raiseIf (policy.minimumLeadMs < hardCaps.minimumLeadMs)
    "minimum_lead_ms loosens the hard cap"
  raiseIf (policy.maximumLeadMs > hardCaps.maximumLeadMs)
    "maximum_lead_ms loosens the hard cap"
  raiseIf (policy.minimumLeadMs > policy.maximumLeadMs)
    "lead window is inverted"
  raiseIf (¬ (1 ≤ policy.commandTimeoutMs ∧
      policy.commandTimeoutMs ≤ hardCaps.maximumCommandTimeoutMs))
    "command_timeout_ms loosens the hard cap"
  raiseIf (policy.horizonEndTick = 0 ∧
      policy.commandTimeoutMs > hardCaps.maximumOpenCommandTimeoutMs)
    "open stream command timeout loosens the hard cap"
  raiseIf (policy.maximumApplyLatenessMs > hardCaps.maximumApplyLatenessMs)
    "maximum_apply_lateness_ms loosens the hard cap"
  raiseIf (policy.horizonEndTick ≠ 0 ∧ ¬ tickAfter policy.horizonEndTick currentTick)
    "horizon_end_tick is stale"
  requireInt32Vector "tracking_error_limit_urad" policy.trackingErrorLimitUrad
  requireInt32Vector "maximum_step_urad_per_tick" policy.maximumStepUradPerTick
  requireInt32Vector "hard tracking_error_limit_urad" hardCaps.trackingErrorLimitUrad
  requireInt32Vector "hard maximum_step_urad_per_tick" hardCaps.maximumStepUradPerTick
  raiseIf (∃ pair ∈ policy.trackingErrorLimitUrad.zip hardCaps.trackingErrorLimitUrad,
      exceedsCap pair)
    "tracking error limit loosens the hard cap"
  raiseIf (∃ pair ∈ policy.maximumStepUradPerTick.zip hardCaps.maximumStepUradPerTick,
      exceedsCap pair)
    "maximum step loosens the hard cap"

/-! ## 4. The encoder -/

/-- A little-endian integer of `struct`, in two's complement, of so many bytes. -/
def packLe (size : Nat) (value : Int) : List Byte :=
  (List.range size).map fun index => BitVec.ofInt 8 (value / 256 ^ index)

/-- The order is that of the format `<HBBIIIII12i12i`. -/
def encodeStreamOpenV2 (policy : StreamPolicyV2) : Except String (List Byte) := do
  validateArmMask policy.armMask
  requireUint "minimum_start_samples" policy.minimumStartSamples 16
  requireUint "minimum_lead_ms" policy.minimumLeadMs 32
  requireUint "horizon_end_tick" policy.horizonEndTick 32
  requireUint "maximum_lead_ms" policy.maximumLeadMs 32
  requireUint "command_timeout_ms" policy.commandTimeoutMs 32
  requireUint "maximum_apply_lateness_ms" policy.maximumApplyLatenessMs 32
  requireInt32Vector "tracking_error_limit_urad" policy.trackingErrorLimitUrad
  requireInt32Vector "maximum_step_urad_per_tick" policy.maximumStepUradPerTick
  .ok (packLe 2 policy.minimumStartSamples ++ packLe 1 policy.armMask ++ packLe 1 0 ++
    packLe 4 policy.minimumLeadMs ++ packLe 4 policy.horizonEndTick ++
    packLe 4 policy.maximumLeadMs ++ packLe 4 policy.commandTimeoutMs ++
    packLe 4 policy.maximumApplyLatenessMs ++
    policy.trackingErrorLimitUrad.flatMap (packLe 4) ++
    policy.maximumStepUradPerTick.flatMap (packLe 4))

/-! ## 5. What passes the checks -/

@[simp] theorem raiseIf_ok_iff {bad : Prop} [Decidable bad] {message : String} :
    raiseIf bad message = .ok () ↔ ¬ bad := by
  unfold raiseIf
  split_ifs with h <;> simp [h]

/-- A sequence of checks passes when each of them does. -/
theorem check_bind_ok_iff {α : Type} {check : Except String Unit} {rest : Unit → Except String α}
    {answer : α} : (check >>= rest) = .ok answer ↔ check = .ok () ∧ rest () = .ok answer := by
  cases check with
  | error message => simp [bind, Except.bind]
  | ok passed => simp [bind, Except.bind]

def FitsUint (bits : Nat) (value : Int) : Prop := 0 ≤ value ∧ value < 2 ^ bits

structure FitsJoints (values : List Int) : Prop where
  length : values.length = jointCount
  range : ∀ value ∈ values, -2 ^ 31 ≤ value ∧ value < 2 ^ 31

@[simp] theorem requireUint_ok_iff {name : String} {value : Int} {bits : Nat} :
    requireUint name value bits = .ok () ↔ FitsUint bits value := by
  rw [requireUint, raiseIf_ok_iff, not_not, FitsUint]

variable {values : List Int}

@[simp] theorem requireInt32Vector_ok_iff {name : String} :
    requireInt32Vector name values = .ok () ↔ FitsJoints values := by
  unfold requireInt32Vector
  rw [check_bind_ok_iff, raiseIf_ok_iff, raiseIf_ok_iff]
  constructor
  · rintro ⟨hlength, hrange⟩
    refine ⟨not_not.mp hlength, ?_⟩
    intro value hvalue
    by_contra hbad
    exact hrange ⟨value, hvalue, hbad⟩
  · rintro ⟨hlength, hrange⟩
    refine ⟨not_not.mpr hlength, ?_⟩
    rintro ⟨value, hvalue, hbad⟩
    exact hbad (hrange value hvalue)

/-- The 256 masks, one after another. -/
theorem armMask_agrees : ∀ armMask : Fin 256,
    ¬ ((armMask : Int) = 0 ∨ Int.land (armMask : Int) (Int.lnot armMaskBoth) ≠ 0) ↔
      armMaskIsValid (BitVec.ofNat 8 armMask) = true := by
  decide +kernel

theorem validateArmMask_ok_iff {armMask : Int} :
    validateArmMask armMask = .ok () ↔
      FitsUint 8 armMask ∧ armMaskIsValid (BitVec.ofInt 8 armMask) = true := by
  unfold validateArmMask
  rw [check_bind_ok_iff, requireUint_ok_iff, raiseIf_ok_iff, and_congr_right_iff]
  rintro ⟨hnonneg, hbound⟩
  have hagrees := armMask_agrees ⟨armMask.toNat, by omega⟩
  simp only [Int.toNat_of_nonneg hnonneg] at hagrees
  rw [hagrees, ← BitVec.ofInt_natCast, Int.toNat_of_nonneg hnonneg]

/-! ## 6. The words of the firmware -/

def toJoints (values : List Int) : Joints :=
  fun joint => BitVec.ofInt 32 (values.getD joint 0)

def StreamHardCapsV2.toFirmware (hardCaps : StreamHardCapsV2) : StreamHardCaps where
  minimumLeadMs := BitVec.ofInt 32 hardCaps.minimumLeadMs
  maximumLeadMs := BitVec.ofInt 32 hardCaps.maximumLeadMs
  maximumCommandTimeoutMs := BitVec.ofInt 32 hardCaps.maximumCommandTimeoutMs
  maximumOpenCommandTimeoutMs := BitVec.ofInt 32 hardCaps.maximumOpenCommandTimeoutMs
  maximumApplyLatenessMs := BitVec.ofInt 32 hardCaps.maximumApplyLatenessMs
  trackingErrorLimitUrad := toJoints hardCaps.trackingErrorLimitUrad
  maximumStepUradPerTick := toJoints hardCaps.maximumStepUradPerTick

def StreamPolicyV2.toFirmware (policy : StreamPolicyV2) : StreamPolicy where
  minimumStartSamples := BitVec.ofInt 16 policy.minimumStartSamples
  minimumLeadMs := BitVec.ofInt 32 policy.minimumLeadMs
  horizonEndTick := BitVec.ofInt 32 policy.horizonEndTick
  maximumLeadMs := BitVec.ofInt 32 policy.maximumLeadMs
  commandTimeoutMs := BitVec.ofInt 32 policy.commandTimeoutMs
  maximumApplyLatenessMs := BitVec.ofInt 32 policy.maximumApplyLatenessMs
  trackingErrorLimitUrad := toJoints policy.trackingErrorLimitUrad
  maximumStepUradPerTick := toJoints policy.maximumStepUradPerTick
  armMask := BitVec.ofInt 8 policy.armMask

/-- The field types of the firmware's hard caps. -/
structure StreamHardCapsV2.Fits (hardCaps : StreamHardCapsV2) : Prop where
  minimumLeadMs : FitsUint 32 hardCaps.minimumLeadMs
  maximumLeadMs : FitsUint 32 hardCaps.maximumLeadMs
  maximumCommandTimeoutMs : FitsUint 32 hardCaps.maximumCommandTimeoutMs
  maximumOpenCommandTimeoutMs : FitsUint 32 hardCaps.maximumOpenCommandTimeoutMs
  maximumApplyLatenessMs : FitsUint 32 hardCaps.maximumApplyLatenessMs
  trackingErrorLimitUrad : FitsJoints hardCaps.trackingErrorLimitUrad
  maximumStepUradPerTick : FitsJoints hardCaps.maximumStepUradPerTick

/-- What the encoder wants of a policy. -/
structure StreamPolicyV2.Encodable (policy : StreamPolicyV2) : Prop where
  armMask : FitsUint 8 policy.armMask ∧ armMaskIsValid (BitVec.ofInt 8 policy.armMask) = true
  minimumStartSamples : FitsUint 16 policy.minimumStartSamples
  minimumLeadMs : FitsUint 32 policy.minimumLeadMs
  horizonEndTick : FitsUint 32 policy.horizonEndTick
  maximumLeadMs : FitsUint 32 policy.maximumLeadMs
  commandTimeoutMs : FitsUint 32 policy.commandTimeoutMs
  maximumApplyLatenessMs : FitsUint 32 policy.maximumApplyLatenessMs
  trackingErrorLimitUrad : FitsJoints policy.trackingErrorLimitUrad
  maximumStepUradPerTick : FitsJoints policy.maximumStepUradPerTick

variable (value : Int)

theorem packLe_one : packLe 1 value = [BitVec.ofInt 8 value] := by
  simp [packLe]

theorem packLe_two : packLe 2 value = writeU16Le (BitVec.ofInt 16 value) := by
  simp only [packLe, writeU16Le, List.range_succ, List.range_zero, List.nil_append,
    List.map_cons, List.map_nil, List.cons_append, List.cons.injEq, and_true,
    ← BitVec.toNat_inj, BitVec.toNat_ofInt, BitVec.toNat_setWidth, BitVec.toNat_ushiftRight,
    Nat.shiftRight_eq_div_pow]
  refine ⟨?_, ?_⟩ <;> omega

theorem packLe_four : packLe 4 value = writeU32Le (BitVec.ofInt 32 value) := by
  simp only [packLe, writeU32Le, List.range_succ, List.range_zero, List.nil_append,
    List.map_cons, List.map_nil, List.cons_append, List.cons.injEq, and_true,
    ← BitVec.toNat_inj, BitVec.toNat_ofInt, BitVec.toNat_setWidth, BitVec.toNat_ushiftRight,
    Nat.shiftRight_eq_div_pow]
  refine ⟨?_, ?_, ?_, ?_⟩ <;> omega

theorem packJoints (h : values.length = jointCount) :
    values.flatMap (packLe 4) = writeJoints (toJoints values) := by
  have hvalues : values = (List.finRange 12).map fun joint : Joint => values.getD joint 0 := by
    apply List.ext_getElem
    · simp [h, jointCount]
    · intro index hindex _
      simp [hindex]
  calc values.flatMap (packLe 4)
      = ((List.finRange 12).map fun joint : Joint => values.getD joint 0).flatMap (packLe 4) := by
        rw [← hvalues]
    _ = writeJoints (toJoints values) := by
        rw [List.flatMap_map, writeJoints]
        congr 1
        funext joint
        exact packLe_four _

/-- **What the encoder takes, and what it writes.** -/
theorem encodeStreamOpenV2_ok_iff {policy : StreamPolicyV2} {payload : List Byte} :
    encodeStreamOpenV2 policy = .ok payload ↔
      policy.Encodable ∧ payload = makeOpen policy.toFirmware := by
  have hbytes : ∀ h : policy.Encodable, (packLe 2 policy.minimumStartSamples ++
      packLe 1 policy.armMask ++ packLe 1 0 ++
      packLe 4 policy.minimumLeadMs ++ packLe 4 policy.horizonEndTick ++
      packLe 4 policy.maximumLeadMs ++ packLe 4 policy.commandTimeoutMs ++
      packLe 4 policy.maximumApplyLatenessMs ++
      policy.trackingErrorLimitUrad.flatMap (packLe 4) ++
      policy.maximumStepUradPerTick.flatMap (packLe 4)) = makeOpen policy.toFirmware := by
    intro h
    rw [packJoints h.trackingErrorLimitUrad.length, packJoints h.maximumStepUradPerTick.length]
    simp only [packLe_one, packLe_two, packLe_four]
    rfl
  unfold encodeStreamOpenV2
  simp only [check_bind_ok_iff, validateArmMask_ok_iff, requireUint_ok_iff,
    requireInt32Vector_ok_iff, Except.ok.injEq]
  constructor
  · rintro ⟨hmask, hstart, hminimum, hhorizon, hmaximum, htimeout, hlateness, htracking, hstep,
      rfl⟩
    have h : policy.Encodable :=
      ⟨hmask, hstart, hminimum, hhorizon, hmaximum, htimeout, hlateness, htracking, hstep⟩
    exact ⟨h, hbytes h⟩
  · rintro ⟨h, rfl⟩
    exact ⟨h.armMask, h.minimumStartSamples, h.minimumLeadMs, h.horizonEndTick, h.maximumLeadMs,
      h.commandTimeoutMs, h.maximumApplyLatenessMs, h.trackingErrorLimitUrad,
      h.maximumStepUradPerTick, hbytes h⟩

/-! ## 7. Each check on both sides -/

theorem toNat_ofInt {w : Nat} {value : Int} (h : FitsUint w value) :
    ((BitVec.ofInt w value).toNat : Int) = value := by
  rw [BitVec.toNat_ofInt, Int.toNat_of_nonneg (Int.emod_nonneg _ (by positivity))]
  exact Int.emod_eq_of_lt h.1 (by exact_mod_cast h.2)

theorem ofInt_lt_iff {w : Nat} {a b : Int} (ha : FitsUint w a) (hb : FitsUint w b) :
    BitVec.ofInt w a < BitVec.ofInt w b ↔ a < b := by
  rw [BitVec.lt_def, ← Int.ofNat_lt, toNat_ofInt ha, toNat_ofInt hb]

theorem ofInt_eq_zero_iff {w : Nat} {value : Int} (h : FitsUint w value) :
    BitVec.ofInt w value = 0 ↔ value = 0 := by
  rw [← BitVec.toNat_inj, ← Int.natCast_inj, toNat_ofInt h]
  simp

theorem ofInt_sub (w : Nat) (a b : Int) :
    BitVec.ofInt w (a - b) = BitVec.ofInt w a - BitVec.ofInt w b := by
  rw [Int.sub_eq_add_neg, BitVec.ofInt_add, BitVec.ofInt_neg, BitVec.sub_eq_add_neg]

theorem tickAfter_agrees (candidate reference : Int) :
    tickIsAfter (BitVec.ofInt 32 candidate) (BitVec.ofInt 32 reference) =
      tickAfter candidate reference := by
  unfold tickIsAfter tickAfter
  rw [← ofInt_sub, BitVec.toInt_ofInt, decide_eq_decide, Int.bmod_def]
  omega

theorem toInt_toJoints (h : FitsJoints values) (joint : Joint) :
    (toJoints values joint).toInt = values.getD joint 0 := by
  have hindex : (joint : Nat) < values.length := by
    rw [h.length]
    exact joint.isLt
  have hrange := h.range values[joint] (List.getElem_mem hindex)
  rw [toJoints, List.getD_eq_getElem _ _ hindex, BitVec.toInt_ofInt, Int.bmod_def]
  simp only [Fin.getElem_fin] at hrange
  omega

/-- The loop over the zipped vectors meets every joint once. -/
theorem exists_zip_iff {caps : List Int} (hvalues : values.length = jointCount)
    (hcaps : caps.length = jointCount) {bad : Int × Int → Prop} :
    (∃ pair ∈ values.zip caps, bad pair) ↔
      ∃ joint : Joint, bad (values.getD joint 0, caps.getD joint 0) := by
  unfold jointCount at hvalues hcaps
  constructor
  · rintro ⟨pair, hpair, hbad⟩
    obtain ⟨index, hindex, rfl⟩ := List.mem_iff_getElem.mp hpair
    have hlt : index < 12 := by
      simpa [hvalues, hcaps] using hindex
    refine ⟨⟨index, hlt⟩, ?_⟩
    simpa [hvalues, hcaps, hlt] using hbad
  · rintro ⟨joint, hbad⟩
    have hv : (joint : Nat) < values.length := by omega
    have hc : (joint : Nat) < caps.length := by omega
    rw [List.getD_eq_getElem _ _ hv, List.getD_eq_getElem _ _ hc] at hbad
    refine ⟨_, ?_, hbad⟩
    rw [List.mem_iff_getElem]
    exact ⟨joint, by simp [hvalues, hcaps], by simp⟩

end Host

/-! ## 8. Admission -/

theorem refusal_iff {bad : Prop} [Decidable bad] {refusal rest : ContractResult}
    (hrefusal : refusal ≠ .ok) :
    (if bad then refusal else rest) = .ok ↔ ¬ bad ∧ rest = .ok := by
  split_ifs with h <;> simp [h, hrefusal]

theorem policyJointCheck_eq_none_iff {policy : StreamPolicy} {hardCaps : StreamHardCaps}
    {joint : Joint} :
    policyJointCheck policy hardCaps joint = none ↔
      ¬ Host.exceedsCap ((policy.trackingErrorLimitUrad joint).toInt,
        (hardCaps.trackingErrorLimitUrad joint).toInt) ∧
      ¬ Host.exceedsCap ((policy.maximumStepUradPerTick joint).toInt,
        (hardCaps.maximumStepUradPerTick joint).toInt) := by
  unfold policyJointCheck Host.exceedsCap
  split_ifs with htracking hstep
  · simp [htracking]
  · simp [hstep]
  · exact iff_of_true rfl ⟨htracking, hstep⟩

theorem policyJoints_ok_iff {policy : StreamPolicy} {hardCaps : StreamHardCaps} :
    ((List.finRange 12).findSome? (policyJointCheck policy hardCaps)).getD .ok = .ok ↔
      ∀ joint, policyJointCheck policy hardCaps joint = none := by
  constructor
  · exact policyJointCheck_eq_none
  · intro h
    rw [List.findSome?_eq_none_iff.mpr fun joint _ => h joint]
    rfl

theorem exceedsCap_agrees {caps : List Int} (hvalues : Host.FitsJoints values)
    (hcaps : Host.FitsJoints caps) :
    (∃ pair ∈ values.zip caps, Host.exceedsCap pair) ↔
      ∃ joint, Host.exceedsCap ((Host.toJoints values joint).toInt,
        (Host.toJoints caps joint).toInt) := by
  rw [Host.exists_zip_iff hvalues.length hcaps.length]
  simp only [Host.toInt_toJoints hvalues, Host.toInt_toJoints hcaps]

/-- What is judged of a policy, in the host's integers. -/
structure Host.Admissible (policy : StreamPolicyV2) (hardCaps : StreamHardCapsV2)
    (currentTick : Int) : Prop where
  start : 1 ≤ policy.minimumStartSamples ∧ policy.minimumStartSamples ≤ queueCapacity
  minimumLead : ¬ policy.minimumLeadMs < hardCaps.minimumLeadMs
  maximumLead : ¬ policy.maximumLeadMs > hardCaps.maximumLeadMs
  window : ¬ policy.minimumLeadMs > policy.maximumLeadMs
  timeout : 1 ≤ policy.commandTimeoutMs ∧
    policy.commandTimeoutMs ≤ hardCaps.maximumCommandTimeoutMs
  openTimeout : ¬ (policy.horizonEndTick = 0 ∧
    policy.commandTimeoutMs > hardCaps.maximumOpenCommandTimeoutMs)
  lateness : ¬ policy.maximumApplyLatenessMs > hardCaps.maximumApplyLatenessMs
  horizon : ¬ (policy.horizonEndTick ≠ 0 ∧ ¬ tickAfter policy.horizonEndTick currentTick)
  tracking : ¬ ∃ pair ∈ policy.trackingErrorLimitUrad.zip hardCaps.trackingErrorLimitUrad,
    exceedsCap pair
  step : ¬ ∃ pair ∈ policy.maximumStepUradPerTick.zip hardCaps.maximumStepUradPerTick,
    exceedsCap pair

section Admission

variable {policy : Host.StreamPolicyV2} {hardCaps : Host.StreamHardCapsV2} {currentTick : Int}

/-- The rest of what the host checks is what the encoder and the field types promise. -/
theorem Host.validateStreamPolicyV2_ok_iff (hpolicy : policy.Encodable) (hcaps : hardCaps.Fits)
    (htick : FitsUint 32 currentTick) :
    validateStreamPolicyV2 policy hardCaps currentTick = .ok () ↔
      Admissible policy hardCaps currentTick := by
  unfold validateStreamPolicyV2
  simp only [check_bind_ok_iff, validateArmMask_ok_iff, requireUint_ok_iff,
    requireInt32Vector_ok_iff, raiseIf_ok_iff]
  constructor
  · rintro ⟨-, -, hstart, hminimum, hmaximum, hwindow, htimeout, hopen, hlateness, hhorizon,
      -, -, -, -, htracking, hstep⟩
    exact ⟨not_not.mp hstart, hminimum, hmaximum, hwindow, not_not.mp htimeout, hopen, hlateness,
      hhorizon, htracking, hstep⟩
  · intro h
    exact ⟨htick, hpolicy.armMask, not_not.mpr h.start, h.minimumLead, h.maximumLead, h.window,
      not_not.mpr h.timeout, h.openTimeout, h.lateness, h.horizon,
      hpolicy.trackingErrorLimitUrad, hpolicy.maximumStepUradPerTick,
      hcaps.trackingErrorLimitUrad, hcaps.maximumStepUradPerTick, h.tracking, h.step⟩

theorem policyJoints_admissible_iff (hpolicy : policy.Encodable) (hcaps : hardCaps.Fits) :
    (∀ joint, policyJointCheck policy.toFirmware hardCaps.toFirmware joint = none) ↔
      (¬ ∃ pair ∈ policy.trackingErrorLimitUrad.zip hardCaps.trackingErrorLimitUrad,
        Host.exceedsCap pair) ∧
      ¬ ∃ pair ∈ policy.maximumStepUradPerTick.zip hardCaps.maximumStepUradPerTick,
        Host.exceedsCap pair := by
  rw [exceedsCap_agrees hpolicy.trackingErrorLimitUrad hcaps.trackingErrorLimitUrad,
    exceedsCap_agrees hpolicy.maximumStepUradPerTick hcaps.maximumStepUradPerTick,
    not_exists, not_exists, ← forall_and]
  exact forall_congr' fun joint => policyJointCheck_eq_none_iff

theorem minimumStartSamples_admissible_iff (hpolicy : policy.Encodable) :
    ¬ (policy.toFirmware.minimumStartSamples = 0 ∨
        policy.toFirmware.minimumStartSamples.toNat > queueCapacity) ↔
      1 ≤ policy.minimumStartSamples ∧ policy.minimumStartSamples ≤ queueCapacity := by
  have hnat := Host.toNat_ofInt hpolicy.minimumStartSamples
  have hzero := Host.ofInt_eq_zero_iff hpolicy.minimumStartSamples
  have hnonneg := hpolicy.minimumStartSamples.1
  simp only [Host.StreamPolicyV2.toFirmware, hzero]
  omega

theorem commandTimeoutMs_admissible_iff (hpolicy : policy.Encodable) (hcaps : hardCaps.Fits) :
    ¬ (policy.toFirmware.commandTimeoutMs = 0 ∨
        policy.toFirmware.commandTimeoutMs > hardCaps.toFirmware.maximumCommandTimeoutMs) ↔
      1 ≤ policy.commandTimeoutMs ∧
        policy.commandTimeoutMs ≤ hardCaps.maximumCommandTimeoutMs := by
  have hzero := Host.ofInt_eq_zero_iff hpolicy.commandTimeoutMs
  have hlt := Host.ofInt_lt_iff hcaps.maximumCommandTimeoutMs hpolicy.commandTimeoutMs
  have hnonneg := hpolicy.commandTimeoutMs.1
  simp only [Host.StreamPolicyV2.toFirmware, Host.StreamHardCapsV2.toFirmware, gt_iff_lt, hzero,
    hlt]
  omega

theorem streamPolicyValidate_admissible_iff (hpolicy : policy.Encodable)
    (hcaps : hardCaps.Fits) :
    streamPolicyValidate policy.toFirmware hardCaps.toFirmware (BitVec.ofInt 32 currentTick) =
        .ok ↔ Host.Admissible policy hardCaps currentTick := by
  have hmask : ¬ (!armMaskIsValid policy.toFirmware.armMask) = true := by
    rw [Bool.not_eq_true', Bool.not_eq_false]
    exact hpolicy.armMask.2
  have hminimum : policy.toFirmware.minimumLeadMs < hardCaps.toFirmware.minimumLeadMs ↔ _ :=
    Host.ofInt_lt_iff hpolicy.minimumLeadMs hcaps.minimumLeadMs
  have hmaximum : hardCaps.toFirmware.maximumLeadMs < policy.toFirmware.maximumLeadMs ↔ _ :=
    Host.ofInt_lt_iff hcaps.maximumLeadMs hpolicy.maximumLeadMs
  have hwindow : policy.toFirmware.maximumLeadMs < policy.toFirmware.minimumLeadMs ↔ _ :=
    Host.ofInt_lt_iff hpolicy.maximumLeadMs hpolicy.minimumLeadMs
  have hzero : policy.toFirmware.horizonEndTick = 0 ↔ _ :=
    Host.ofInt_eq_zero_iff hpolicy.horizonEndTick
  have hopen : hardCaps.toFirmware.maximumOpenCommandTimeoutMs <
      policy.toFirmware.commandTimeoutMs ↔ _ :=
    Host.ofInt_lt_iff hcaps.maximumOpenCommandTimeoutMs hpolicy.commandTimeoutMs
  have hlateness : hardCaps.toFirmware.maximumApplyLatenessMs <
      policy.toFirmware.maximumApplyLatenessMs ↔ _ :=
    Host.ofInt_lt_iff hcaps.maximumApplyLatenessMs hpolicy.maximumApplyLatenessMs
  have hafter : tickIsAfter policy.toFirmware.horizonEndTick (BitVec.ofInt 32 currentTick) = _ :=
    Host.tickAfter_agrees policy.horizonEndTick currentTick
  unfold streamPolicyValidate
  rw [if_neg hmask, refusal_iff (by decide), refusal_iff (by decide), refusal_iff (by decide),
    refusal_iff (by decide), refusal_iff (by decide), refusal_iff (by decide),
    refusal_iff (by decide), refusal_iff (by decide), policyJoints_ok_iff,
    policyJoints_admissible_iff hpolicy hcaps, minimumStartSamples_admissible_iff hpolicy,
    commandTimeoutMs_admissible_iff hpolicy hcaps]
  simp only [gt_iff_lt, ne_eq, hminimum, hmaximum, hwindow, hzero, hopen, hlateness, hafter,
    Bool.not_eq_true']
  constructor
  · rintro ⟨hstart, hlow, hhigh, hordered, htimeout, hunbounded, hlate, hstale, htracking, hstep⟩
    exact ⟨hstart, hlow, hhigh, hordered, htimeout, hunbounded, hlate, by simpa using hstale,
      htracking, hstep⟩
  · intro h
    exact ⟨h.start, h.minimumLead, h.maximumLead, h.window, h.timeout, h.openTimeout, h.lateness,
      by simpa using h.horizon, h.tracking, h.step⟩

end Admission

/-- **Host and firmware admit the same policies**: what the host's validator says of a policy that
can be encoded is what the firmware's decoder and validator say of its bytes. -/
theorem admission_agrees (policy : Host.StreamPolicyV2) (hardCaps : Host.StreamHardCapsV2)
    (currentTick : Int) (payload : List Byte)
    (hencode : Host.encodeStreamOpenV2 policy = .ok payload) (hcaps : hardCaps.Fits)
    (htick : Host.FitsUint 32 currentTick) :
    Host.validateStreamPolicyV2 policy hardCaps currentTick = .ok () ↔
      ∃ decoded, streamPolicyDecode payload = .ok decoded ∧
        streamPolicyValidate decoded hardCaps.toFirmware (BitVec.ofInt 32 currentTick) = .ok := by
  obtain ⟨hpolicy, rfl⟩ := Host.encodeStreamOpenV2_ok_iff.mp hencode
  rw [Host.validateStreamPolicyV2_ok_iff hpolicy hcaps htick,
    streamPolicyDecode_makeOpen hpolicy.armMask.2]
  simp only [Except.ok.injEq, exists_eq_left', streamPolicyValidate_admissible_iff hpolicy hcaps]

/-- The policy and the hard caps of the bench. -/
theorem admission_agrees_bench :
    let policy : Host.StreamPolicyV2 :=
      ⟨4, 20, 4294967000, 400, 100, 5, List.replicate 12 90000, List.replicate 12 9000, 3⟩
    let hardCaps : Host.StreamHardCapsV2 :=
      ⟨20, 400, 500, 100, 5, List.replicate 12 100000, List.replicate 12 10000⟩
    Host.validateStreamPolicyV2 policy hardCaps 4294966000 = .ok () ↔
      ∃ decoded, streamPolicyDecode (makeOpen policy.toFirmware) = .ok decoded ∧
        streamPolicyValidate decoded hardCaps.toFirmware (BitVec.ofInt 32 4294966000) = .ok := by
  have huint : ∀ {bits : Nat} {value : Int}, 0 ≤ value → value < 2 ^ bits →
      Host.FitsUint bits value := And.intro
  have hjoints : ∀ {value : Int}, -2 ^ 31 ≤ value → value < 2 ^ 31 →
      Host.FitsJoints (List.replicate 12 value) := by
    intro value hlow hhigh
    refine ⟨List.length_replicate, ?_⟩
    intro other hother
    rw [List.eq_of_mem_replicate hother]
    exact ⟨hlow, hhigh⟩
  refine admission_agrees _ _ 4294966000 _ (Host.encodeStreamOpenV2_ok_iff.mpr ⟨?_, rfl⟩) ?_
    (huint (by decide) (by decide))
  · refine ⟨⟨huint ?_ ?_, ?_⟩, huint ?_ ?_, huint ?_ ?_, huint ?_ ?_, huint ?_ ?_, huint ?_ ?_,
      huint ?_ ?_, hjoints ?_ ?_, hjoints ?_ ?_⟩
    all_goals decide
  · refine ⟨huint ?_ ?_, huint ?_ ?_, huint ?_ ?_, huint ?_ ?_, huint ?_ ?_, hjoints ?_ ?_,
      hjoints ?_ ?_⟩
    all_goals decide

end MobileBimanual.Stream
