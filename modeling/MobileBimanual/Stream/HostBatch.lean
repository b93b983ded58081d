/-
# The host's side of APPEND and SPLICE

`encode_stream_batch_v2` of `stream_protocol_v2.py`.  A batch travels as a header and its samples,
each with its offset from the first tick of the batch and twelve signed positions.

* `batchDecode_makeBatch`: the firmware reads back what a host writes;
* `Host.encodeStreamBatchV2_ok`: what a batch satisfies that the encoder takes, and its bytes;
* `batch_codec`: the decoder takes every batch that the encoder takes, and the same batch.
-/
import MobileBimanual.Stream.HostPolicy

namespace MobileBimanual.Stream

open Serial (After)

/-! ## 1. What the firmware reads back -/

section ReadBack

variable {batch : Batch} {kind : BatchKind}

@[simp] theorem length_writeSample (firstApplyTick : Tick) (sample : Setpoint) :
    (writeSample firstApplyTick sample).length = sampleWireSize := by
  simp [writeSample, sampleWireSize]

@[simp] theorem length_makeBatch :
    (makeBatch batch).length = batchHeaderSize + batch.samples.length * sampleWireSize := by
  have hsamples : ∀ samples : List Setpoint,
      (samples.flatMap (writeSample batch.firstApplyTick)).length =
        samples.length * sampleWireSize := by
    intro samples
    induction samples with
    | nil => simp
    | cons sample samples ih =>
      rw [List.flatMap_cons, List.length_append, length_writeSample, ih, List.length_cons,
        Nat.succ_mul, Nat.add_comm]
  simp [makeBatch, hsamples, batchHeaderSize]
  omega

/-- The loop of the decoder over the samples that are left, with `pre` in front of them. -/
theorem decodeSamples_writeSample (firstApplyTick : Tick) (samples : List Setpoint)
    (pre : List Byte) (sampleIndex : Nat) (previousTick : Tick)
    (hpre : pre.length = batchHeaderSize + sampleIndex * sampleWireSize)
    (hchain : List.IsChain (fun p s : Setpoint => After s.applyTick p.applyTick) samples)
    (hafter : ∀ sample ∈ samples.head?, 0 < sampleIndex → After sample.applyTick previousTick)
    (hfirst : ∀ sample ∈ samples.head?, sampleIndex = 0 → sample.applyTick = firstApplyTick) :
    decodeSamples (pre ++ samples.flatMap (writeSample firstApplyTick)) firstApplyTick
      samples.length sampleIndex previousTick = .ok samples := by
  induction samples generalizing pre sampleIndex previousTick with
  | nil => rfl
  | cons sample samples ih =>
    have hnext := ih (pre ++ writeSample firstApplyTick sample) (sampleIndex + 1) sample.applyTick
      (by rw [List.length_append, hpre, length_writeSample, Nat.succ_mul, Nat.add_assoc])
      hchain.tail
      (by
        intro next hnext _
        rw [List.isChain_cons] at hchain
        exact hchain.1 next hnext)
      (by
        intro next _ hzero
        omega)
    rw [List.append_assoc, ← List.flatMap_cons] at hnext
    have hoffset : readU32Le (pre ++ (sample :: samples).flatMap (writeSample firstApplyTick))
        (batchHeaderSize + sampleIndex * sampleWireSize) = sample.applyTick - firstApplyTick := by
      have h := readU32Le_append pre ((sample :: samples).flatMap (writeSample firstApplyTick)) 0
      rw [Nat.add_zero, hpre] at h
      rw [h, List.flatMap_cons, writeSample, List.append_assoc]
      exact readU32Le_writeU32Le _ _
    have hjoints : ∀ joint : Joint,
        readU32Le (pre ++ (sample :: samples).flatMap (writeSample firstApplyTick))
          (batchHeaderSize + sampleIndex * sampleWireSize + 4 + joint * 4) =
            sample.positionUrad joint := by
      intro joint
      have h := readU32Le_append (pre ++ writeU32Le (sample.applyTick - firstApplyTick))
        (writeJoints sample.positionUrad ++ samples.flatMap (writeSample firstApplyTick))
        (joint * 4)
      rw [List.length_append, length_writeU32Le, hpre, readU32Le_writeJoints] at h
      rw [← h, List.flatMap_cons, writeSample]
      simp only [List.append_assoc]
    have hsum : firstApplyTick + (sample.applyTick - firstApplyTick) = sample.applyTick := by
      rw [BitVec.add_comm, BitVec.sub_add_cancel]
    have hguard : ¬ ((sampleIndex > 0 ∧ !tickIsAfter sample.applyTick previousTick) ∨
        (sampleIndex = 0 ∧ sample.applyTick - firstApplyTick ≠ 0)) := by
      rintro (⟨hpos, hnot⟩ | ⟨hzero, hne⟩)
      · have h := hafter sample rfl hpos
        simp [h] at hnot
      · exact hne (by rw [hfirst sample rfl hzero]; exact BitVec.sub_self _)
    rw [List.length_cons, decodeSamples]
    simp only [hoffset, hjoints, hsum]
    rw [if_neg hguard, hnext]

/-- **A batch comes back as it was sent.** -/
theorem batchDecode_makeBatch (hmask : armMaskIsValid batch.armMask)
    (hcount : 0 < batch.samples.length ∧ batch.samples.length ≤ wireMaxSamples)
    (hsplice : (kind = .append → batch.spliceAtTick = 0) ∧
      (kind = .splice → batch.spliceAtTick ≠ 0))
    (hchain : List.IsChain (fun p s : Setpoint => After s.applyTick p.applyTick) batch.samples)
    (hfirst : ∀ sample ∈ batch.samples.head?, sample.applyTick = batch.firstApplyTick) :
    batchDecode (makeBatch batch) kind = .ok batch := by
  have hfirstTick : readU32Le (makeBatch batch) 0 = batch.firstApplyTick :=
    readU32Le_writeU32Le batch.firstApplyTick []
  have hhorizon : readU32Le (makeBatch batch) 4 = batch.horizonEndTick :=
    readU32Le_writeU32Le batch.horizonEndTick []
  have hepoch : readU32Le (makeBatch batch) 8 = batch.arbiterEpoch :=
    readU32Le_writeU32Le batch.arbiterEpoch []
  have hspliceTick : readU32Le (makeBatch batch) 12 = batch.spliceAtTick :=
    readU32Le_writeU32Le batch.spliceAtTick []
  have hlength : ((makeBatch batch).getD 16 0).toNat = batch.samples.length := by
    have hbyte : (makeBatch batch).getD 16 0 = BitVec.ofNat 8 batch.samples.length := rfl
    unfold wireMaxSamples at hcount
    rw [hbyte, BitVec.toNat_ofNat]
    omega
  have harm : (makeBatch batch).getD 17 0 = batch.armMask := rfl
  have hreserved : readU16Le (makeBatch batch) 18 = 0 := readU16Le_writeU16Le 0 []
  have hsamples : decodeSamples (makeBatch batch) batch.firstApplyTick batch.samples.length 0 0 =
      .ok batch.samples :=
    decodeSamples_writeSample batch.firstApplyTick batch.samples ((makeBatch batch).take 20) 0 0
      rfl hchain (fun _ _ h => absurd h (Nat.lt_irrefl 0)) (fun sample h _ => hfirst sample h)
  have hfields : ¬ ((kind = .append ∧ batch.spliceAtTick ≠ 0) ∨
      (kind = .splice ∧ batch.spliceAtTick = 0)) := by
    rintro (⟨hkind, hne⟩ | ⟨hkind, hzero⟩)
    · exact hne (hsplice.1 hkind)
    · exact hsplice.2 hkind hzero
  unfold batchDecode
  simp only [hfirstTick, hhorizon, hepoch, hspliceTick, hlength, harm, hreserved, hsamples]
  rw [if_neg (by rw [length_makeBatch]; omega), if_neg (by omega),
    if_neg (not_not.mpr length_makeBatch), if_neg (by simp [hmask]), if_neg (by simp),
    if_neg hfields]

end ReadBack

/-! ## 2. The encoder -/

namespace Host

structure StreamSampleV2 where
  applyTick : Int
  positionsUrad : List Int
  deriving DecidableEq

structure StreamBatchV2 where
  horizonEndTick : Int
  arbiterEpoch : Int
  samples : List StreamSampleV2
  armMask : Int
  spliceAtTick : Int

/-- The loop over the samples; no tick comes before the first. -/
def encodeSamples (firstApplyTick : Int) :
    Option Int → List StreamSampleV2 → Except String (List Byte)
  | _, [] => .ok []
  | previousTick, sample :: samples => do
    let tickOffset := (sample.applyTick - firstApplyTick) % 2 ^ 32
    requireUint "sample.apply_tick" sample.applyTick 32
    requireInt32Vector "sample.positions_urad" sample.positionsUrad
    raiseIf (∃ previous ∈ previousTick, ¬ tickAfter sample.applyTick previous)
      "sample ticks must increase"
    raiseIf (tickOffset ≥ 0x80000000) "sample tick offset is ambiguous"
    let encodedSamples ← encodeSamples firstApplyTick (some sample.applyTick) samples
    .ok (packLe 4 tickOffset ++ sample.positionsUrad.flatMap (packLe 4) ++ encodedSamples)

/-- `batch.samples[0].apply_tick`; the count has been checked before it is read. -/
def StreamBatchV2.firstApplyTick (batch : StreamBatchV2) : Int :=
  (batch.samples.headD { applyTick := 0, positionsUrad := [] }).applyTick

/-- The order of the header is that of the format `<IIIIBBH`. -/
def encodeStreamBatchV2 (batch : StreamBatchV2) (kind : BatchKind) :
    Except String (List Byte) := do
  validateArmMask batch.armMask
  requireUint "horizon_end_tick" batch.horizonEndTick 32
  requireUint "arbiter_epoch" batch.arbiterEpoch 32
  requireUint "splice_at_tick" batch.spliceAtTick 32
  raiseIf (¬ (1 ≤ batch.samples.length ∧ batch.samples.length ≤ wireMaxSamples))
    "sample count is outside 1..9"
  raiseIf (kind = .append ∧ batch.spliceAtTick ≠ 0) "append must not carry splice_at_tick"
  raiseIf (kind = .splice ∧ batch.spliceAtTick = 0) "splice requires splice_at_tick"
  requireUint "first_apply_tick" batch.firstApplyTick 32
  let encodedSamples ← encodeSamples batch.firstApplyTick none batch.samples
  .ok (packLe 4 batch.firstApplyTick ++ packLe 4 batch.horizonEndTick ++
    packLe 4 batch.arbiterEpoch ++ packLe 4 batch.spliceAtTick ++
    packLe 1 batch.samples.length ++ packLe 1 batch.armMask ++ packLe 2 0 ++ encodedSamples)

/-! ## 3. What the encoder takes -/

def StreamSampleV2.toFirmware (sample : StreamSampleV2) : Setpoint where
  applyTick := BitVec.ofInt 32 sample.applyTick
  positionUrad := toJoints sample.positionsUrad

def StreamBatchV2.toFirmware (batch : StreamBatchV2) : Batch where
  firstApplyTick := BitVec.ofInt 32 batch.firstApplyTick
  horizonEndTick := BitVec.ofInt 32 batch.horizonEndTick
  arbiterEpoch := BitVec.ofInt 32 batch.arbiterEpoch
  spliceAtTick := BitVec.ofInt 32 batch.spliceAtTick
  armMask := BitVec.ofInt 8 batch.armMask
  samples := batch.samples.map StreamSampleV2.toFirmware

structure StreamSampleV2.Fits (sample : StreamSampleV2) : Prop where
  applyTick : FitsUint 32 sample.applyTick
  positionsUrad : FitsJoints sample.positionsUrad

theorem bind_ok {α β : Type} {check : Except String α} {rest : α → Except String β} {answer : β}
    (h : (check >>= rest) = .ok answer) : ∃ a, check = .ok a ∧ rest a = .ok answer := by
  cases check with
  | error message => cases h
  | ok a => exact ⟨a, rfl, h⟩

theorem packLe_offset (applyTick firstApplyTick : Int) :
    packLe 4 ((applyTick - firstApplyTick) % 2 ^ 32) =
      writeU32Le (BitVec.ofInt 32 applyTick - BitVec.ofInt 32 firstApplyTick) := by
  have hmod : BitVec.ofInt 32 ((applyTick - firstApplyTick) % 2 ^ 32) =
      BitVec.ofInt 32 (applyTick - firstApplyTick) := by
    apply BitVec.eq_of_toNat_eq
    simp only [BitVec.toNat_ofInt]
    omega
  rw [packLe_four, hmod, ofInt_sub]

/-- The samples that the loop takes, each after the one before it, and their bytes. -/
theorem encodeSamples_ok {firstApplyTick : Int} {samples : List StreamSampleV2} :
    ∀ {previousTick : Option Int} {bytes : List Byte},
      encodeSamples firstApplyTick previousTick samples = .ok bytes →
      (∀ sample ∈ samples, sample.Fits) ∧
      (∀ sample ∈ samples.head?, ∀ previous ∈ previousTick,
        tickAfter sample.applyTick previous) ∧
      List.IsChain (fun p s : StreamSampleV2 => tickAfter s.applyTick p.applyTick = true)
        samples ∧
      bytes = (samples.map StreamSampleV2.toFirmware).flatMap
        (writeSample (BitVec.ofInt 32 firstApplyTick)) := by
  induction samples with
  | nil =>
    intro previousTick bytes h
    cases h
    simp
  | cons sample samples ih =>
    intro previousTick bytes h
    rw [encodeSamples] at h
    simp only [check_bind_ok_iff, requireUint_ok_iff, requireInt32Vector_ok_iff,
      raiseIf_ok_iff] at h
    obtain ⟨htick, hpositions, hafter, -, h⟩ := h
    obtain ⟨rest, hrest, h⟩ := bind_ok h
    obtain ⟨hfits, hnext, hchain, rfl⟩ := ih hrest
    cases h
    refine ⟨?_, ?_, ?_, ?_⟩
    · intro other hother
      rw [List.mem_cons] at hother
      rcases hother with rfl | hother
      · exact ⟨htick, hpositions⟩
      · exact hfits other hother
    · intro first hfirst previous hprevious
      cases hfirst
      by_contra hnot
      exact hafter ⟨previous, hprevious, hnot⟩
    · rw [List.isChain_cons]
      exact ⟨fun next hmem => hnext next hmem sample.applyTick rfl, hchain⟩
    · rw [List.map_cons, List.flatMap_cons, packLe_offset, packJoints hpositions.length]
      rfl

/-- **What a batch satisfies that the encoder takes, and its bytes.** -/
theorem encodeStreamBatchV2_ok {batch : StreamBatchV2} {kind : BatchKind} {payload : List Byte}
    (h : encodeStreamBatchV2 batch kind = .ok payload) :
    (FitsUint 8 batch.armMask ∧ armMaskIsValid (BitVec.ofInt 8 batch.armMask) = true) ∧
      FitsUint 32 batch.horizonEndTick ∧ FitsUint 32 batch.arbiterEpoch ∧
      FitsUint 32 batch.spliceAtTick ∧ FitsUint 32 batch.firstApplyTick ∧
      (0 < batch.samples.length ∧ batch.samples.length ≤ wireMaxSamples) ∧
      ((kind = .append → batch.spliceAtTick = 0) ∧ (kind = .splice → batch.spliceAtTick ≠ 0)) ∧
      (∀ sample ∈ batch.samples, sample.Fits) ∧
      List.IsChain (fun p s : StreamSampleV2 => tickAfter s.applyTick p.applyTick = true)
        batch.samples ∧
      payload = makeBatch batch.toFirmware := by
  unfold encodeStreamBatchV2 at h
  simp only [check_bind_ok_iff, validateArmMask_ok_iff, requireUint_ok_iff, raiseIf_ok_iff] at h
  obtain ⟨hmask, hhorizon, hepoch, hspliceTick, hcount, happend, hsplice, hfirst, h⟩ := h
  obtain ⟨bytes, hbytes, h⟩ := bind_ok h
  obtain ⟨hfits, -, hchain, rfl⟩ := encodeSamples_ok hbytes
  cases h
  refine ⟨hmask, hhorizon, hepoch, hspliceTick, hfirst, not_not.mp hcount,
    ⟨fun hkind => not_not.mp (not_and.mp happend hkind), not_and.mp hsplice⟩, hfits, hchain, ?_⟩
  have hlength : packLe 1 batch.samples.length =
      [BitVec.ofNat 8 (batch.samples.map StreamSampleV2.toFirmware).length] := by
    rw [packLe_one, List.length_map, BitVec.ofInt_natCast]
  rw [hlength]
  simp only [packLe_one, packLe_two, packLe_four]
  simp [makeBatch, StreamBatchV2.toFirmware]

/-! ## 4. The same batch -/

/-- The firmware's batch in the host's integers. -/
def ofFirmware (batch : Batch) : StreamBatchV2 where
  horizonEndTick := batch.horizonEndTick.toNat
  arbiterEpoch := batch.arbiterEpoch.toNat
  samples := batch.samples.map fun sample =>
    { applyTick := sample.applyTick.toNat
      positionsUrad := (List.finRange 12).map fun joint => (sample.positionUrad joint).toInt }
  armMask := batch.armMask.toNat
  spliceAtTick := batch.spliceAtTick.toNat

theorem joints_toJoints {values : List Int} (h : FitsJoints values) :
    ((List.finRange 12).map fun joint => (toJoints values joint).toInt) = values := by
  have hlength : values.length = 12 := h.length
  apply List.ext_getElem
  · simp [hlength]
  · intro index left right
    simp [toInt_toJoints h, List.getElem?_eq_getElem right]

theorem ofFirmware_sample {sample : StreamSampleV2} (h : sample.Fits) :
    { applyTick := (sample.toFirmware.applyTick.toNat : Int)
      positionsUrad := (List.finRange 12).map fun joint =>
        (sample.toFirmware.positionUrad joint).toInt : StreamSampleV2 } = sample := by
  have htick : ((BitVec.ofInt 32 sample.applyTick).toNat : Int) = sample.applyTick :=
    toNat_ofInt h.applyTick
  have hpositions := joints_toJoints h.positionsUrad
  simp only [StreamSampleV2.toFirmware, htick, hpositions]

theorem ofFirmware_toFirmware {batch : StreamBatchV2} (hmask : FitsUint 8 batch.armMask)
    (hhorizon : FitsUint 32 batch.horizonEndTick) (hepoch : FitsUint 32 batch.arbiterEpoch)
    (hsplice : FitsUint 32 batch.spliceAtTick) (hfits : ∀ sample ∈ batch.samples, sample.Fits) :
    ofFirmware batch.toFirmware = batch := by
  have hsamples : (batch.samples.map StreamSampleV2.toFirmware).map
      (fun sample => ({ applyTick := sample.applyTick.toNat, positionsUrad :=
        (List.finRange 12).map fun joint => (sample.positionUrad joint).toInt } :
          StreamSampleV2)) = batch.samples := by
    rw [List.map_map]
    conv_rhs => rw [← List.map_id batch.samples]
    exact List.map_congr_left fun sample hsample => ofFirmware_sample (hfits sample hsample)
  simp only [ofFirmware, StreamBatchV2.toFirmware, toNat_ofInt hmask, toNat_ofInt hhorizon,
    toNat_ofInt hepoch, toNat_ofInt hsplice, hsamples]

end Host

/-- **The batch codec across the two languages**: what the host encodes the firmware decodes, to
the same batch in the host's integers and with the first sample's tick as its first tick. -/
theorem batch_codec (batch : Host.StreamBatchV2) (kind : BatchKind) (payload : List Byte)
    (hencode : Host.encodeStreamBatchV2 batch kind = .ok payload) :
    ∃ decoded, batchDecode payload kind = .ok decoded ∧ Host.ofFirmware decoded = batch ∧
      (decoded.firstApplyTick.toNat : Int) = batch.firstApplyTick := by
  obtain ⟨hmask, hhorizon, hepoch, hspliceTick, hfirst, hcount, hsplice, hfits, hchain, rfl⟩ :=
    Host.encodeStreamBatchV2_ok hencode
  have hzero : batch.toFirmware.spliceAtTick = 0 ↔ batch.spliceAtTick = 0 :=
    Host.ofInt_eq_zero_iff hspliceTick
  have hticks : List.IsChain (fun p s : Setpoint => After s.applyTick p.applyTick)
      batch.toFirmware.samples := by
    refine List.isChain_map_of_isChain _ ?_ hchain
    intro p s hafter
    rw [← Host.tickAfter_agrees, tickIsAfter_iff] at hafter
    exact hafter
  refine ⟨batch.toFirmware, ?_,
    Host.ofFirmware_toFirmware hmask.1 hhorizon hepoch hspliceTick hfits,
    Host.toNat_ofInt hfirst⟩
  apply batchDecode_makeBatch hmask.2
  · simpa [Host.StreamBatchV2.toFirmware] using hcount
  · rw [ne_eq, hzero]
    exact hsplice
  · exact hticks
  · intro sample hsample
    simp only [Host.StreamBatchV2.toFirmware, Host.StreamBatchV2.firstApplyTick] at hsample ⊢
    cases hsamples : batch.samples with
    | nil => simp [hsamples] at hsample
    | cons first rest =>
      rw [hsamples] at hsample
      cases hsample
      rfl

/-- A splice across the wrap of the tick, to negative positions. -/
theorem batch_codec_wrapped :
    let batch : Host.StreamBatchV2 :=
      { horizonEndTick := 500, arbiterEpoch := 7, armMask := 3, spliceAtTick := 4294967290
        samples := [⟨4294967290, List.replicate 12 (-40)⟩, ⟨4, List.replicate 12 25⟩] }
    ∃ decoded, batchDecode (makeBatch batch.toFirmware) .splice = .ok decoded ∧
      Host.ofFirmware decoded = batch ∧
      (decoded.firstApplyTick.toNat : Int) = batch.firstApplyTick :=
  batch_codec _ .splice _ (by decide +kernel)

end MobileBimanual.Stream
