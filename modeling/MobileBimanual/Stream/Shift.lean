/-
# Moving the zero of the tick counter: payloads, contract and session

Every tick is moved by the same `k`, round the circle.  Zero in a horizon or a splice field is no
tick but says that there is none, so it stays, and a field that is a tick must not become zero
(`KeepsMark`).

The contract and the session are equivariant: given moved arguments they return what they
returned, with its ticks moved.  The reason is one fact, that a difference of ticks does not
change (`Serial.add_sub_add`), and that no tick is looked at otherwise.
-/
import MobileBimanual.Stream.Outcomes
import MobileBimanual.Stream.Payload

namespace MobileBimanual.Stream

/-! ## 1. The translation -/

/-- A tick for which zero says that there is none. -/
def shiftMark (k tick : Tick) : Tick := if tick = 0 then 0 else tick + k

def KeepsMark (k tick : Tick) : Prop := tick ≠ 0 → tick + k ≠ 0

instance (k tick : Tick) : Decidable (KeepsMark k tick) :=
  inferInstanceAs (Decidable (tick ≠ 0 → tick + k ≠ 0))

def Setpoint.shift (k : Tick) (sample : Setpoint) : Setpoint :=
  { sample with applyTick := sample.applyTick + k }

def StreamPolicy.shift (k : Tick) (policy : StreamPolicy) : StreamPolicy :=
  { policy with horizonEndTick := shiftMark k policy.horizonEndTick }

def Batch.shift (k : Tick) (batch : Batch) : Batch :=
  { batch with
    firstApplyTick := batch.firstApplyTick + k
    horizonEndTick := shiftMark k batch.horizonEndTick
    spliceAtTick := shiftMark k batch.spliceAtTick
    samples := batch.samples.map (Setpoint.shift k) }

def SampleQueue.shift (k : Tick) (queue : SampleQueue) : SampleQueue :=
  ⟨queue.samples.map (Setpoint.shift k), by
    rw [List.length_map]
    exact queue.fits⟩

def StreamSession.shift (k : Tick) (session : StreamSession) : StreamSession :=
  { session with
    policy := session.policy.shift k
    horizonEndTick := shiftMark k session.horizonEndTick
    validatedSamples := session.validatedSamples.shift k }

@[simp] theorem Setpoint.shift_applyTick (k : Tick) (sample : Setpoint) :
    (sample.shift k).applyTick = sample.applyTick + k := rfl

@[simp] theorem Setpoint.shift_positionUrad (k : Tick) (sample : Setpoint) :
    (sample.shift k).positionUrad = sample.positionUrad := rfl

@[simp] theorem SampleQueue.shift_samples (k : Tick) (queue : SampleQueue) :
    (queue.shift k).samples = queue.samples.map (Setpoint.shift k) := rfl

theorem shiftMark_of_ne {k tick : Tick} (h : tick ≠ 0) : shiftMark k tick = tick + k := if_neg h

theorem shiftMark_eq_zero_iff {k tick : Tick} (h : KeepsMark k tick) :
    shiftMark k tick = 0 ↔ tick = 0 := by
  by_cases hzero : tick = 0
  · exact iff_of_true (if_pos hzero) hzero
  · rw [shiftMark_of_ne hzero]
    exact ⟨fun hsum => absurd hsum (h hzero), fun htick => absurd htick hzero⟩

@[simp] theorem sub_shift (a b k : Tick) : (a + k) - (b + k) = a - b := Serial.add_sub_add a b k

@[simp] theorem tickIsAfter_shift (a b k : Tick) :
    tickIsAfter (a + k) (b + k) = tickIsAfter a b := by
  rw [tickIsAfter, tickIsAfter, sub_shift]

@[simp] theorem tickIsBefore_shift (a b k : Tick) :
    tickIsBefore (a + k) (b + k) = tickIsBefore a b := tickIsAfter_shift b a k

/-! ## 2. Payloads -/

/-- The word at an offset is replaced. -/
def setU32Le (payload : List Byte) (offset : Nat) (value : BitVec 32) : List Byte :=
  (((payload.set offset (value.setWidth 8)).set (offset + 1) ((value >>> 8).setWidth 8)).set
    (offset + 2) ((value >>> 16).setWidth 8)).set (offset + 3) ((value >>> 24).setWidth 8)

section SetWord

variable {payload : List Byte} {offset : Nat} {value : BitVec 32}

@[simp] theorem length_setU32Le : (setU32Le payload offset value).length = payload.length := by
  simp [setU32Le]

variable {index : Nat}

theorem getD_set_of_ne {other : Nat} {byte : Byte} (h : index ≠ other) :
    (payload.set index byte).getD other 0 = payload.getD other 0 := by
  rw [List.getD_eq_getElem?_getD, List.getElem?_set_ne h, List.getD_eq_getElem?_getD]

theorem getD_set_self {byte : Byte} (h : index < payload.length) :
    (payload.set index byte).getD index 0 = byte := by
  rw [List.getD_eq_getElem?_getD, List.getElem?_set_self h]
  rfl

theorem getD_setU32Le (h : index < offset ∨ offset + 4 ≤ index) :
    (setU32Le payload offset value).getD index 0 = payload.getD index 0 := by
  unfold setU32Le
  rw [getD_set_of_ne (by omega), getD_set_of_ne (by omega), getD_set_of_ne (by omega),
    getD_set_of_ne (by omega)]

theorem readU16Le_setU32Le (h : index + 2 ≤ offset ∨ offset + 4 ≤ index) :
    readU16Le (setU32Le payload offset value) index = readU16Le payload index := by
  unfold readU16Le
  rw [getD_setU32Le (by omega), getD_setU32Le (by omega)]

theorem readU32Le_setU32Le (h : index + 4 ≤ offset ∨ offset + 4 ≤ index) :
    readU32Le (setU32Le payload offset value) index = readU32Le payload index := by
  unfold readU32Le
  rw [getD_setU32Le (by omega), getD_setU32Le (by omega), getD_setU32Le (by omega),
    getD_setU32Le (by omega)]

theorem readU32Le_setU32Le_self (h : offset + 4 ≤ payload.length) :
    readU32Le (setU32Le payload offset value) offset = value := by
  have hread := readU32Le_writeU32Le value []
  unfold readU32Le setU32Le
  rw [getD_set_self (by simp; omega)]
  rw [getD_set_of_ne (by omega), getD_set_of_ne (by omega), getD_set_of_ne (by omega),
    getD_set_self (by omega), getD_set_of_ne (by omega), getD_set_of_ne (by omega),
    getD_set_self (by simp; omega), getD_set_of_ne (by omega), getD_set_self (by simp; omega)]
  exact hread

end SetWord

/-- The horizon of a STREAM_OPEN payload is its only tick. -/
def shiftOpen (k : Tick) (payload : List Byte) : List Byte :=
  if payload.length = streamOpenWireSize then
    setU32Le payload 8 (shiftMark k (readU32Le payload 8))
  else payload

/-- The first tick, the horizon and the splice tick of a batch payload; the samples travel as
offsets from the first. -/
def shiftBatch (k : Tick) (payload : List Byte) : List Byte :=
  if payload.length < batchHeaderSize then payload
  else setU32Le (setU32Le (setU32Le payload 0 (readU32Le payload 0 + k)) 4
    (shiftMark k (readU32Le payload 4))) 12 (shiftMark k (readU32Le payload 12))

theorem streamPolicyDecode_shiftOpen (k : Tick) (payload : List Byte) :
    streamPolicyDecode (shiftOpen k payload) =
      (streamPolicyDecode payload).map (StreamPolicy.shift k) := by
  unfold shiftOpen
  by_cases hlength : payload.length = streamOpenWireSize
  · have hroom : 8 + 4 ≤ payload.length := by
      rw [hlength]
      decide
    have hjoint : ∀ joint : Joint, ∀ base, 12 ≤ base →
        readU32Le (setU32Le payload 8 (shiftMark k (readU32Le payload 8))) (base + joint * 4) =
          readU32Le payload (base + joint * 4) := by
      intro joint base hbase
      exact readU32Le_setU32Le (by omega)
    rw [if_pos hlength]
    unfold streamPolicyDecode
    rw [length_setU32Le, getD_setU32Le (by omega), getD_setU32Le (by omega)]
    split_ifs
    · rfl
    · rfl
    · rfl
    · simp only [Except.map, StreamPolicy.shift, readU32Le_setU32Le_self hroom,
        hjoint _ 24 (by decide), hjoint _ 72 (by decide)]
      rw [readU16Le_setU32Le (by omega), readU32Le_setU32Le (by omega),
        readU32Le_setU32Le (by omega), readU32Le_setU32Le (by omega),
        readU32Le_setU32Le (by omega)]
  · rw [if_neg hlength]
    unfold streamPolicyDecode
    rw [if_pos hlength]
    rfl

/-- The loop over the samples reads nothing but offsets. -/
theorem decodeSamples_shift {k : Tick} {payload payload' : List Byte}
    (hread : ∀ index, batchHeaderSize ≤ index →
      readU32Le payload' index = readU32Le payload index)
    (firstApplyTick : Tick) (remaining : Nat) :
    ∀ (sampleIndex : Nat) (previousTick previousTick' : Tick),
      (0 < sampleIndex → previousTick' = previousTick + k) →
      decodeSamples payload' (firstApplyTick + k) remaining sampleIndex previousTick' =
        (decodeSamples payload firstApplyTick remaining sampleIndex previousTick).map
          (List.map (Setpoint.shift k)) := by
  induction remaining with
  | zero =>
    intro sampleIndex previousTick previousTick' _
    rfl
  | succ remaining ih =>
    intro sampleIndex previousTick previousTick' hprevious
    have hoffset := hread (batchHeaderSize + sampleIndex * sampleWireSize) (Nat.le_add_right _ _)
    have hjoint : ∀ joint : Joint,
        readU32Le payload' (batchHeaderSize + sampleIndex * sampleWireSize + 4 + joint * 4) =
          readU32Le payload (batchHeaderSize + sampleIndex * sampleWireSize + 4 + joint * 4) :=
      fun joint => hread _ (by omega)
    have htick : firstApplyTick + k +
        readU32Le payload (batchHeaderSize + sampleIndex * sampleWireSize) =
        firstApplyTick + readU32Le payload (batchHeaderSize + sampleIndex * sampleWireSize) + k :=
      add_right_comm _ _ _
    have hguard : ((sampleIndex > 0 ∧ !tickIsAfter (firstApplyTick +
          readU32Le payload (batchHeaderSize + sampleIndex * sampleWireSize) + k)
          previousTick') ↔
        (sampleIndex > 0 ∧ !tickIsAfter (firstApplyTick +
          readU32Le payload (batchHeaderSize + sampleIndex * sampleWireSize)) previousTick)) := by
      refine and_congr_right fun hpos => ?_
      rw [hprevious hpos, tickIsAfter_shift]
    rw [decodeSamples, decodeSamples]
    simp only [hoffset, hjoint, htick, hguard]
    split_ifs with hbad
    · rfl
    · rw [ih (sampleIndex + 1) _ _ fun _ => rfl]
      cases decodeSamples payload firstApplyTick remaining (sampleIndex + 1)
        (firstApplyTick + readU32Le payload (batchHeaderSize + sampleIndex * sampleWireSize)) with
      | error result => rfl
      | ok samples => rfl

theorem batchDecode_shiftBatch {k : Tick} {payload : List Byte} {kind : BatchKind}
    (hsplice : KeepsMark k (readU32Le payload 12)) :
    batchDecode (shiftBatch k payload) kind = (batchDecode payload kind).map (Batch.shift k) := by
  unfold shiftBatch
  by_cases hshort : payload.length < batchHeaderSize
  · rw [if_pos hshort]
    unfold batchDecode
    rw [if_pos hshort]
    rfl
  · rw [if_neg hshort]
    set payload' := setU32Le (setU32Le (setU32Le payload 0 (readU32Le payload 0 + k)) 4
      (shiftMark k (readU32Le payload 4))) 12 (shiftMark k (readU32Le payload 12)) with hpayload'
    have hlength : payload'.length = payload.length := by simp [hpayload']
    have hroom : 20 ≤ payload.length := Nat.not_lt.mp hshort
    have hfirst : readU32Le payload' 0 = readU32Le payload 0 + k := by
      rw [hpayload', readU32Le_setU32Le (by omega), readU32Le_setU32Le (by omega),
        readU32Le_setU32Le_self (by omega)]
    have hhorizon : readU32Le payload' 4 = shiftMark k (readU32Le payload 4) := by
      rw [hpayload', readU32Le_setU32Le (by omega), readU32Le_setU32Le_self (by simp; omega)]
    have hspliceTick : readU32Le payload' 12 = shiftMark k (readU32Le payload 12) := by
      rw [hpayload', readU32Le_setU32Le_self (by simp; omega)]
    have hepoch : readU32Le payload' 8 = readU32Le payload 8 := by
      rw [hpayload', readU32Le_setU32Le (by omega), readU32Le_setU32Le (by omega),
        readU32Le_setU32Le (by omega)]
    have hreserved : readU16Le payload' 18 = readU16Le payload 18 := by
      rw [hpayload', readU16Le_setU32Le (by omega), readU16Le_setU32Le (by omega),
        readU16Le_setU32Le (by omega)]
    have hbyte : ∀ index, 16 ≤ index → payload'.getD index 0 = payload.getD index 0 := by
      intro index hindex
      rw [hpayload', getD_setU32Le (by omega), getD_setU32Le (by omega), getD_setU32Le (by omega)]
    have hread : ∀ index, batchHeaderSize ≤ index →
        readU32Le payload' index = readU32Le payload index := by
      intro index hindex
      unfold batchHeaderSize at hindex
      rw [hpayload', readU32Le_setU32Le (by omega), readU32Le_setU32Le (by omega),
        readU32Le_setU32Le (by omega)]
    have hsamples := fun count => decodeSamples_shift (k := k) hread (readU32Le payload 0) count 0 0 0
      (fun h => absurd h (Nat.lt_irrefl 0))
    unfold batchDecode
    simp only [hlength, hfirst, hhorizon, hspliceTick, hepoch, hreserved,
      hbyte 16 (by decide), hbyte 17 (by decide), hsamples, ne_eq, shiftMark_eq_zero_iff hsplice]
    split_ifs
    · rfl
    · rfl
    · rfl
    · cases decodeSamples payload (readU32Le payload 0) (payload.getD 16 0).toNat 0 0 with
      | error result => rfl
      | ok samples => rfl
    · rfl
    · rfl

/-! ## 3. The contract -/

variable {policy : StreamPolicy}

theorem streamPolicyValidate_shift {k : Tick} (hhorizon : KeepsMark k policy.horizonEndTick)
    (hardCaps : StreamHardCaps) (currentTick : Tick) :
    streamPolicyValidate (policy.shift k) hardCaps (currentTick + k) =
      streamPolicyValidate policy hardCaps currentTick := by
  have hzero : (policy.shift k).horizonEndTick = 0 ↔ policy.horizonEndTick = 0 :=
    shiftMark_eq_zero_iff hhorizon
  have hstale : ((policy.shift k).horizonEndTick ≠ 0 ∧
        !tickIsAfter (policy.shift k).horizonEndTick (currentTick + k)) ↔
      (policy.horizonEndTick ≠ 0 ∧ !tickIsAfter policy.horizonEndTick currentTick) := by
    rw [ne_eq, hzero]
    refine and_congr_right fun hne => ?_
    have hshift : (policy.shift k).horizonEndTick = policy.horizonEndTick + k :=
      shiftMark_of_ne hne
    rw [hshift, tickIsAfter_shift]
  unfold streamPolicyValidate
  simp only [hstale, hzero]
  rfl

theorem stepIsContinuous_shift (k : Tick) (policy : StreamPolicy) (previous sample : Setpoint) :
    stepIsContinuous (policy.shift k) (previous.shift k) (sample.shift k) =
      stepIsContinuous policy previous sample := by
  unfold stepIsContinuous
  simp only [Setpoint.shift_applyTick, sub_shift]
  rfl

theorem samplesAreContinuous_shift (k : Tick) (policy : StreamPolicy) :
    ∀ samples : List Setpoint,
      samplesAreContinuous (policy.shift k) (samples.map (Setpoint.shift k)) =
        samplesAreContinuous policy samples
  | [] => rfl
  | [_] => rfl
  | previous :: sample :: rest => by
    have ih := samplesAreContinuous_shift k policy (sample :: rest)
    rw [List.map_cons] at ih
    rw [List.map_cons, List.map_cons, samplesAreContinuous, samplesAreContinuous, ih,
      stepIsContinuous_shift]

theorem Batch.shift_firstSample {k : Tick} {batch : Batch} (h : batch.samples ≠ []) :
    (batch.shift k).firstSample = batch.firstSample.shift k := by
  obtain ⟨sample, rest, hsamples⟩ := List.exists_cons_of_ne_nil h
  simp [Batch.firstSample, Batch.shift, hsamples]

theorem Batch.shift_finalApplyTick {k : Tick} {batch : Batch} (h : batch.samples ≠ []) :
    (batch.shift k).finalApplyTick = batch.finalApplyTick + k := by
  have hlast : (batch.samples.map (Setpoint.shift k)).getLastD Setpoint.zero =
      (batch.samples.getLastD Setpoint.zero).shift k := by
    rw [List.getLastD_eq_getLast?, List.getLastD_eq_getLast?, List.getLast?_map,
      List.getLast?_eq_some_getLast h]
    rfl
  rw [Batch.finalApplyTick, Batch.shift, hlast]
  rfl

theorem beq_zero_congr {a b : Tick} (h : a = 0 ↔ b = 0) :
    (a == (0 : Tick)) = (b == (0 : Tick)) := by
  rw [Bool.eq_iff_iff, beq_iff_eq, beq_iff_eq, h]

theorem batchValidateTransition_shift {k : Tick} {batch : Batch} {kind : BatchKind}
    {currentHorizonEndTick : Tick} (hhorizon : KeepsMark k batch.horizonEndTick)
    (hsplice : KeepsMark k batch.spliceAtTick) (hcurrent : KeepsMark k currentHorizonEndTick)
    (policy : StreamPolicy) (currentTick : Tick) (currentEpoch : BitVec 32)
    (lastApplyTick : Tick) (position : Joints) :
    batchValidateTransition (batch.shift k) kind (policy.shift k) (currentTick + k) currentEpoch
        (shiftMark k currentHorizonEndTick) (lastApplyTick + k) position =
      batchValidateTransition batch kind policy currentTick currentEpoch currentHorizonEndTick
        lastApplyTick position := by
  have hzero : (batch.shift k).horizonEndTick = 0 ↔ batch.horizonEndTick = 0 :=
    shiftMark_eq_zero_iff hhorizon
  have hspliceZero : (batch.shift k).spliceAtTick = 0 ↔ batch.spliceAtTick = 0 :=
    shiftMark_eq_zero_iff hsplice
  have hcurrentZero := shiftMark_eq_zero_iff hcurrent
  have hfirst : (batch.shift k).firstApplyTick = batch.firstApplyTick + k := rfl
  have hlength : (batch.shift k).samples.length = batch.samples.length := List.length_map _
  have hcontinuous : samplesAreContinuous (policy.shift k) (batch.shift k).samples =
      samplesAreContinuous policy batch.samples := samplesAreContinuous_shift k policy _
  unfold batchValidateTransition
  refine ite_congr rfl (fun _ => rfl) fun _ => ?_
  rw [hlength]
  refine ite_congr rfl (fun _ => rfl) fun hcount => ?_
  have hne : batch.samples ≠ [] := by
    rintro hnil
    exact hcount (Or.inl (by rw [hnil]; rfl))
  rw [hfirst, tickIsAfter_shift, sub_shift, Batch.shift_finalApplyTick hne, sub_shift]
  refine ite_congr rfl (fun _ => rfl) fun _ => ?_
  refine ite_congr rfl (fun _ => rfl) fun _ => ?_
  refine ite_congr ?_ (fun _ => rfl) fun _ => ?_
  · rw [ne_eq, hzero]
    refine propext (and_congr_right fun hmark => ?_)
    have hshift : (batch.shift k).horizonEndTick = batch.horizonEndTick + k := shiftMark_of_ne hmark
    rw [hshift, tickIsAfter_shift]
  refine ite_congr ?_ (fun _ => rfl) fun hsame => ?_
  · rw [beq_zero_congr hcurrentZero, beq_zero_congr hzero]
  refine ite_congr ?_ (fun _ => rfl) fun _ => ?_
  · rw [ne_eq, hcurrentZero]
    refine propext (and_congr_right fun hmark => ?_)
    -- a horizon that is there stays one, so both are ticks here
    have hbatch : batch.horizonEndTick ≠ 0 := by
      intro hnone
      refine hsame ?_
      rw [hnone]
      simpa using hmark
    have hshift : (batch.shift k).horizonEndTick = batch.horizonEndTick + k :=
      shiftMark_of_ne hbatch
    rw [hshift, shiftMark_of_ne hmark, tickIsAfter_shift, ne_eq, BitVec.add_left_inj]
  rw [hcontinuous]
  refine ite_congr rfl (fun _ => rfl) fun _ => ?_
  cases kind with
  | append =>
    simp only [ne_eq, hspliceZero, tickIsAfter_shift]
    rfl
  | splice =>
    simp only [ne_eq, hspliceZero]
    refine ite_congr rfl (fun _ => rfl) fun hmark => ?_
    have hshift : (batch.shift k).spliceAtTick = batch.spliceAtTick + k := shiftMark_of_ne hmark
    rw [hshift, Batch.shift_firstSample hne]
    simp only [tickIsAfter_shift, sub_shift, Setpoint.shift_applyTick, BitVec.add_left_inj]
    rfl

/-! ## 4. The session -/

theorem interpolatePosition_shift (k tick : Tick) : ∀ samples : List Setpoint,
    interpolatePosition (tick + k) (samples.map (Setpoint.shift k)) =
      interpolatePosition tick samples
  | [] => rfl
  | [sample] => by
    simp only [List.map_cons, List.map_nil, interpolatePosition, Setpoint.shift_applyTick,
      Setpoint.shift_positionUrad, BitVec.add_left_inj]
  | sample :: next :: rest => by
    have ih := interpolatePosition_shift k tick (next :: rest)
    rw [List.map_cons] at ih
    simp only [List.map_cons, interpolatePosition, Setpoint.shift_applyTick,
      Setpoint.shift_positionUrad, BitVec.add_left_inj, tickIsAfter_shift, tickIsBefore_shift,
      sub_shift, ih]

theorem batchDecode_marks {payload : List Byte} {kind : BatchKind} {batch : Batch}
    (h : batchDecode payload kind = .ok batch) :
    batch.horizonEndTick = readU32Le payload 4 ∧ batch.spliceAtTick = readU32Le payload 12 ∧
      (kind = .splice → batch.spliceAtTick ≠ 0) := by
  simp only [batchDecode] at h
  split_ifs at h with _ _ _ _ _ hfields
  split at h
  · cases h
  · cases h
    refine ⟨rfl, rfl, ?_⟩
    intro hkind hzero
    exact hfields (Or.inr ⟨hkind, hzero⟩)

section Session

variable {k : Tick} {session : StreamSession} {batch : Batch} {kind : BatchKind}

theorem transitionPosition_shift (hsplice : kind = .splice → batch.spliceAtTick ≠ 0) :
    transitionPosition (session.shift k) (batch.shift k) kind =
      transitionPosition session batch kind := by
  cases kind with
  | append => rfl
  | splice =>
    have hshift : (batch.shift k).spliceAtTick = batch.spliceAtTick + k :=
      shiftMark_of_ne (hsplice rfl)
    unfold transitionPosition
    simp only [hshift]
    exact interpolatePosition_shift k _ _

theorem retainedSamples_shift (hsplice : kind = .splice → batch.spliceAtTick ≠ 0) :
    retainedSamples (session.shift k) (batch.shift k) kind =
      (retainedSamples session batch kind).map (Setpoint.shift k) := by
  cases kind with
  | append => rfl
  | splice =>
    have hshift : (batch.shift k).spliceAtTick = batch.spliceAtTick + k :=
      shiftMark_of_ne (hsplice rfl)
    unfold retainedSamples
    simp only [hshift, StreamSession.shift, SampleQueue.shift_samples, List.takeWhile_map]
    congr 2
    funext sample
    exact tickIsBefore_shift _ _ _

theorem tailSample_shift :
    (session.shift k).tailSample = session.tailSample.map (Setpoint.shift k) :=
  List.getLast?_map

theorem lastTick_shift (currentTick : Tick) :
    (session.shift k).lastTick (currentTick + k) = session.lastTick currentTick + k := by
  rw [StreamSession.lastTick, StreamSession.lastTick, tailSample_shift]
  cases session.tailSample with
  | none => rfl
  | some tail => rfl

theorem transitionResult_shift (hhorizon : KeepsMark k batch.horizonEndTick)
    (hsplice : KeepsMark k batch.spliceAtTick) (hsession : KeepsMark k session.horizonEndTick)
    (currentTick : Tick) (position : Joints) :
    (session.shift k).transitionResult (batch.shift k) kind (currentTick + k) position =
      session.transitionResult batch kind currentTick position := by
  rw [StreamSession.transitionResult, lastTick_shift]
  exact batchValidateTransition_shift hhorizon hsplice hsession _ _ _ _ _

theorem edit_shift (hsplice : kind = .splice → batch.spliceAtTick ≠ 0)
    (fits : (retainedSamples session batch kind ++ batch.samples).length ≤ queueCapacity)
    (fits' : (retainedSamples (session.shift k) (batch.shift k) kind ++
      (batch.shift k).samples).length ≤ queueCapacity) :
    (session.shift k).edit (batch.shift k) kind fits' = (session.edit batch kind fits).shift k := by
  have hqueue : (⟨retainedSamples (session.shift k) (batch.shift k) kind ++
      (batch.shift k).samples, fits'⟩ : SampleQueue) =
      SampleQueue.shift k ⟨retainedSamples session batch kind ++ batch.samples, fits⟩ := by
    rw [SampleQueue.mk.injEq, retainedSamples_shift hsplice]
    exact List.map_append.symm
  unfold StreamSession.edit
  rw [hqueue]
  rfl

/-- What the executor reads of a session's answer. -/
def SameVerdict (result result' : StreamSessionResult) : Prop :=
  result'.statusCode = result.statusCode ∧ result'.contractResult = result.contractResult

/-- **A moved session answers as it answered**, and is left moved. -/
theorem streamSessionBatch_shift {payload : List Byte} (kind : BatchKind)
    (hhorizon : KeepsMark k (readU32Le payload 4)) (hsplice : KeepsMark k (readU32Le payload 12))
    (hsession : KeepsMark k session.horizonEndTick) (currentTick : Tick) :
    (streamSessionBatch (session.shift k) (shiftBatch k payload) kind (currentTick + k)).1 =
        (streamSessionBatch session payload kind currentTick).1.shift k ∧
      SameVerdict (streamSessionBatch session payload kind currentTick).2
        (streamSessionBatch (session.shift k) (shiftBatch k payload) kind (currentTick + k)).2 := by
  have hopen : (session.shift k).isOpen = session.isOpen := rfl
  unfold streamSessionBatch
  rw [hopen, batchDecode_shiftBatch hsplice]
  by_cases hclosed : session.isOpen = true
  · rw [if_neg (by simp [hclosed]), if_neg (by simp [hclosed])]
    cases hdecode : batchDecode payload kind with
    | error result => exact ⟨rfl, rfl, rfl⟩
    | ok batch =>
      obtain ⟨hh, hs, hpresent⟩ := batchDecode_marks hdecode
      rw [← hh] at hhorizon
      rw [← hs] at hsplice
      simp only [Except.map, transitionPosition_shift hpresent]
      cases transitionPosition session batch kind with
      | none => exact ⟨rfl, rfl, rfl⟩
      | some position =>
        simp only [transitionResult_shift hhorizon hsplice hsession]
        have hlength : (retainedSamples (session.shift k) (batch.shift k) kind ++
            (batch.shift k).samples).length =
            (retainedSamples session batch kind ++ batch.samples).length := by
          rw [retainedSamples_shift hpresent]
          simp [Batch.shift]
        by_cases hverdict : session.transitionResult batch kind currentTick position = .ok
        · rw [if_neg (not_not.mpr hverdict), if_neg (not_not.mpr hverdict)]
          by_cases hfits : (retainedSamples session batch kind ++ batch.samples).length ≤
              queueCapacity
          · rw [dif_pos hfits, dif_pos (hlength ▸ hfits)]
            exact ⟨edit_shift hpresent _ _, rfl, rfl⟩
          · rw [dif_neg hfits, dif_neg (hlength ▸ hfits)]
            exact ⟨rfl, rfl, rfl⟩
        · rw [if_pos hverdict, if_pos hverdict]
          exact ⟨rfl, rfl, rfl⟩
  · rw [if_pos (by simpa using hclosed), if_pos (by simpa using hclosed)]
    exact ⟨rfl, rfl, rfl⟩

theorem keepsMark_streamSessionBatch {payload : List Byte}
    (hhorizon : KeepsMark k (readU32Le payload 4)) (hsession : KeepsMark k session.horizonEndTick)
    (currentTick : Tick) :
    KeepsMark k (streamSessionBatch session payload kind currentTick).1.horizonEndTick := by
  unfold streamSessionBatch
  by_cases hclosed : session.isOpen = true
  · rw [if_neg (by simp [hclosed])]
    cases hdecode : batchDecode payload kind with
    | error result => exact hsession
    | ok batch =>
      obtain ⟨hh, -⟩ := batchDecode_marks hdecode
      rw [← hh] at hhorizon
      simp only
      cases transitionPosition session batch kind with
      | none => exact hsession
      | some position =>
        simp only
        split_ifs
        · exact hsession
        · exact hhorizon
        · exact hsession
  · rw [if_pos (by simpa using hclosed)]
    exact hsession

end Session

theorem streamPolicyDecode_horizon {payload : List Byte}
    (h : streamPolicyDecode payload = .ok policy) :
    policy.horizonEndTick = readU32Le payload 8 := by
  unfold streamPolicyDecode at h
  split_ifs at h
  cases h
  rfl

theorem acceptPolicy_horizon {payload : List Byte} {hardCaps : StreamHardCaps} {currentTick : Tick}
    (h : acceptPolicy payload hardCaps currentTick = .ok policy) :
    policy.horizonEndTick = readU32Le payload 8 := by
  unfold acceptPolicy at h
  split at h
  · cases h
  · rename_i hdecode
    split_ifs at h
    cases h
    exact streamPolicyDecode_horizon hdecode

theorem acceptPolicy_shift {k : Tick} {payload : List Byte}
    (hhorizon : KeepsMark k (readU32Le payload 8)) (hardCaps : StreamHardCaps)
    (currentTick : Tick) :
    acceptPolicy (shiftOpen k payload) hardCaps (currentTick + k) =
      (acceptPolicy payload hardCaps currentTick).map (StreamPolicy.shift k) := by
  unfold acceptPolicy
  rw [streamPolicyDecode_shiftOpen]
  cases hdecode : streamPolicyDecode payload with
  | error result => rfl
  | ok policy =>
    rw [← streamPolicyDecode_horizon hdecode] at hhorizon
    simp only [Except.map, streamPolicyValidate_shift hhorizon]
    split_ifs
    · rfl
    · rfl

end MobileBimanual.Stream
