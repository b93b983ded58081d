/-
# Payloads as a host writes them

The writers of the STREAM_OPEN and of the batch payload, the inverses of the decoders of the
contract, and the bench of `test_stream_executor_v2.c`: its hard caps, its
joint limits and its two payload makers, all joints alike.  The concrete runs of this
development are runs on this bench.
-/
import MobileBimanual.Stream.Executor

namespace MobileBimanual.Stream

/-! ## 1. Writers -/

def writeU16Le (value : BitVec 16) : List Byte :=
  [value.setWidth 8, (value >>> 8).setWidth 8]

def writeU32Le (value : BitVec 32) : List Byte :=
  [value.setWidth 8, (value >>> 8).setWidth 8, (value >>> 16).setWidth 8,
    (value >>> 24).setWidth 8]

def writeJoints (joints : Joints) : List Byte :=
  (List.finRange 12).flatMap fun joint => writeU32Le (joints joint)

def makeOpen (policy : StreamPolicy) : List Byte :=
  writeU16Le policy.minimumStartSamples ++ [policy.armMask, 0] ++
    writeU32Le policy.minimumLeadMs ++ writeU32Le policy.horizonEndTick ++
    writeU32Le policy.maximumLeadMs ++ writeU32Le policy.commandTimeoutMs ++
    writeU32Le policy.maximumApplyLatenessMs ++
    writeJoints policy.trackingErrorLimitUrad ++ writeJoints policy.maximumStepUradPerTick

/-- A sample travels as its offset from the first tick of the batch. -/
def writeSample (firstApplyTick : Tick) (sample : Setpoint) : List Byte :=
  writeU32Le (sample.applyTick - firstApplyTick) ++ writeJoints sample.positionUrad

def makeBatch (batch : Batch) : List Byte :=
  writeU32Le batch.firstApplyTick ++ writeU32Le batch.horizonEndTick ++
    writeU32Le batch.arbiterEpoch ++ writeU32Le batch.spliceAtTick ++
    [BitVec.ofNat 8 batch.samples.length, batch.armMask] ++ writeU16Le 0 ++
    batch.samples.flatMap (writeSample batch.firstApplyTick)

/-! ## 2. Reading back -/

theorem readU16Le_writeU16Le (value : BitVec 16) (rest : List Byte) :
    readU16Le (writeU16Le value ++ rest) 0 = value := by
  apply BitVec.eq_of_getLsbD_eq
  intro i hi
  simp only [readU16Le, writeU16Le, List.cons_append, List.getD_cons_zero, List.getD_cons_succ,
    List.nil_append, BitVec.getLsbD_or, BitVec.getLsbD_setWidth, BitVec.getLsbD_shiftLeft,
    BitVec.getLsbD_ushiftRight]
  grind

theorem readU32Le_writeU32Le (value : BitVec 32) (rest : List Byte) :
    readU32Le (writeU32Le value ++ rest) 0 = value := by
  apply BitVec.eq_of_getLsbD_eq
  intro i hi
  simp only [readU32Le, writeU32Le, List.cons_append, List.getD_cons_zero, List.getD_cons_succ,
    List.nil_append, BitVec.getLsbD_or, BitVec.getLsbD_setWidth, BitVec.getLsbD_shiftLeft,
    BitVec.getLsbD_ushiftRight]
  grind

theorem writeU32Le_readU32Le (payload : List Byte) (offset : Nat) :
    writeU32Le (readU32Le payload offset) =
      [payload.getD offset 0, payload.getD (offset + 1) 0, payload.getD (offset + 2) 0,
        payload.getD (offset + 3) 0] := by
  simp only [writeU32Le, readU32Le, List.cons.injEq, and_true]
  refine ⟨?_, ?_, ?_, ?_⟩
  all_goals
    apply BitVec.eq_of_getLsbD_eq
    intro i hi
    simp only [BitVec.getLsbD_or, BitVec.getLsbD_setWidth, BitVec.getLsbD_shiftLeft,
      BitVec.getLsbD_ushiftRight]
    grind

theorem eq_map_getD {payload : List Byte} {length : Nat} (h : payload.length = length) :
    payload = (List.range length).map (payload.getD · 0) := by
  apply List.ext_getElem
  · simp [h]
  · intro index hindex _
    simp [hindex]

/-- A field is read behind whatever stands before it. -/
theorem getD_append_add (pre rest : List Byte) (offset : Nat) :
    (pre ++ rest).getD (pre.length + offset) 0 = rest.getD offset 0 := by
  rw [List.getD_eq_getElem?_getD, List.getD_eq_getElem?_getD,
    List.getElem?_append_right (Nat.le_add_right _ _), Nat.add_sub_cancel_left]

theorem readU32Le_append (pre rest : List Byte) (offset : Nat) :
    readU32Le (pre ++ rest) (pre.length + offset) = readU32Le rest offset := by
  simp only [readU32Le, Nat.add_assoc, getD_append_add]

/-- A field behind a byte, and behind a word. -/
theorem readU32Le_cons (byte : Byte) (rest : List Byte) (offset : Nat) :
    readU32Le (byte :: rest) (offset + 1) = readU32Le rest offset := rfl

theorem readU32Le_word (word : BitVec 32) (rest : List Byte) (offset : Nat) :
    readU32Le (writeU32Le word ++ rest) (offset + 4) = readU32Le rest offset := rfl

theorem getD_word (word : BitVec 32) (rest : List Byte) (offset : Nat) :
    (writeU32Le word ++ rest).getD (offset + 4) 0 = rest.getD offset 0 := rfl

@[simp] theorem length_writeU16Le (value : BitVec 16) : (writeU16Le value).length = 2 := rfl

@[simp] theorem length_writeU32Le (value : BitVec 32) : (writeU32Le value).length = 4 := rfl

/-! ## 3. The bench -/

namespace Bench

def hardCaps : StreamHardCaps where
  minimumLeadMs := 20
  maximumLeadMs := 400
  maximumCommandTimeoutMs := 500
  maximumOpenCommandTimeoutMs := 100
  maximumApplyLatenessMs := 5
  trackingErrorLimitUrad := fun _ => 100000
  maximumStepUradPerTick := fun _ => 10000

def jointLimits : JointLimits := fun _ => { minimumUrad := -1000000, maximumUrad := 1000000 }

def executor : StreamExecutor := closedExecutor hardCaps jointLimits

theorem executor_init : streamExecutorInit hardCaps jointLimits = .ok executor :=
  if_neg (by decide)

/-- `make_open`. -/
def openPayload (minimumStartSamples : BitVec 16) (horizonEndTick commandTimeoutMs : Tick) :
    List Byte :=
  makeOpen
    { minimumStartSamples := minimumStartSamples
      minimumLeadMs := 20
      horizonEndTick := horizonEndTick
      maximumLeadMs := 400
      commandTimeoutMs := commandTimeoutMs
      maximumApplyLatenessMs := 5
      trackingErrorLimitUrad := fun _ => 90000
      maximumStepUradPerTick := fun _ => 9000
      armMask := armMaskBoth }

/-- The batch of `make_batch`, with the ticks and positions of its samples given. -/
def batch (horizonEndTick spliceAtTick : Tick) (samples : List (Tick × Urad)) : Batch where
  firstApplyTick := (samples.headD (0, 0)).1
  horizonEndTick := horizonEndTick
  arbiterEpoch := 7
  spliceAtTick := spliceAtTick
  armMask := armMaskBoth
  samples := samples.map fun s => { applyTick := s.1, positionUrad := fun _ => s.2 }

def batchPayload (horizonEndTick spliceAtTick : Tick) (samples : List (Tick × Urad)) :
    List Byte :=
  makeBatch (batch horizonEndTick spliceAtTick samples)

end Bench

end MobileBimanual.Stream
