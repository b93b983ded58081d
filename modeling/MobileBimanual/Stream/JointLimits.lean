/-
# Every output is inside the joint limits

What the step reports is the anchor, the first queued sample, or a point on the way between
them.  The first two are inside the limits in every reachable executor (`Sound`); the third is
inside because limits are intervals and the interpolation never leaves the segment: the step
aborts when the elapsed time is past the span, and with joint limits spanning less than `2^31`
the 64-bit product is exact (`interpolateUrad_toInt`).
-/
import MobileBimanual.Lib.Interp
import MobileBimanual.Stream.Payload
import MobileBimanual.Stream.Run

namespace MobileBimanual.Stream

open Serial (After ahead)

/-! ## 1. The machine arithmetic of the interpolation -/

theorem toInt_range (x : Urad) : -2 ^ 31 ≤ x.toInt ∧ x.toInt < 2 ^ 31 :=
  ⟨BitVec.le_toInt x, BitVec.toInt_lt⟩

/-- **The interpolation is exact** while its product fits in 64 bits and its time in the span:
the quotient lies between 0 and `delta`, so the final 32-bit sum does not wrap either. -/
theorem interpolateUrad_toInt {start target : Urad} {elapsed span : Tick}
    (hfit : (target.toInt - start.toInt).natAbs * elapsed.toNat < 2 ^ 63)
    (hwithin : elapsed.toNat ≤ span.toNat) :
    (interpolateUrad start target elapsed span).toInt =
      start.toInt + Interp.travel (target.toInt - start.toInt) elapsed.toNat span.toNat := by
  have hproduct : Int.bmod ((target.toInt - start.toInt) * elapsed.toNat) (2 ^ 64) =
      (target.toInt - start.toInt) * elapsed.toNat := by
    have habs : ((target.toInt - start.toInt) * elapsed.toNat).natAbs < 2 ^ 63 := by
      rwa [Int.natAbs_mul, Int.natAbs_natCast]
    exact Int.bmod_eq_of_le_mul_two (by omega) (by omega)
  have hhull := Interp.travel_hull (target.toInt - start.toInt) hwithin
  have hstart := toInt_range start
  have htarget := toInt_range target
  unfold interpolateUrad
  simp only [hproduct, BitVec.toInt_add, BitVec.toInt_ofInt, Int.add_bmod_bmod]
  rw [← Interp.travel]
  exact Int.bmod_eq_of_le_mul_two (by omega) (by omega)

/-- A point on the way from one position to another is between them. -/
theorem interpolateUrad_hull {start target : Urad} {elapsed span : Tick}
    (hfit : (target.toInt - start.toInt).natAbs * elapsed.toNat < 2 ^ 63)
    (hwithin : elapsed.toNat ≤ span.toNat) :
    min start.toInt target.toInt ≤ (interpolateUrad start target elapsed span).toInt ∧
      (interpolateUrad start target elapsed span).toInt ≤ max start.toInt target.toInt := by
  have hhull := Interp.travel_hull (target.toInt - start.toInt) hwithin
  rw [interpolateUrad_toInt hfit hwithin]
  omega

/-! ## 2. The limits -/

theorem positionsWithinLimits_iff (jointLimits : JointLimits) (positions : Joints) :
    positionsWithinLimits jointLimits positions = true ↔
      ∀ joint, (jointLimits joint).minimumUrad.toInt ≤ (positions joint).toInt ∧
        (positions joint).toInt ≤ (jointLimits joint).maximumUrad.toInt := by
  simp [positionsWithinLimits]

/-- Every joint's limits are less than `2^31` apart. -/
def SpanFits (jointLimits : JointLimits) : Prop :=
  ∀ joint, (jointLimits joint).maximumUrad.toInt - (jointLimits joint).minimumUrad.toInt ≤
    2 ^ 31 - 1

instance (jointLimits : JointLimits) : Decidable (SpanFits jointLimits) :=
  inferInstanceAs (Decidable (∀ _, _))

variable {executor : StreamExecutor}

/-- The way between two positions inside the limits stays inside them. -/
theorem towards_withinLimits {sample : Setpoint} {currentTick : Tick}
    (hspan : SpanFits executor.jointLimits)
    (hanchor : positionsWithinLimits executor.jointLimits executor.anchor.positionUrad = true)
    (hsample : positionsWithinLimits executor.jointLimits sample.positionUrad = true)
    (hwithin : ahead currentTick (executor.due executor.anchor) ≤
      ahead (executor.due sample) (executor.due executor.anchor)) :
    positionsWithinLimits executor.jointLimits (executor.towards sample currentTick) = true := by
  rw [positionsWithinLimits_iff] at hanchor hsample ⊢
  intro joint
  have ha := hanchor joint
  have hs := hsample joint
  have hd := hspan joint
  have hfit : ((sample.positionUrad joint).toInt -
      (executor.anchor.positionUrad joint).toInt).natAbs *
        (currentTick - executor.due executor.anchor).toNat < 2 ^ 63 := by
    have hdelta : ((sample.positionUrad joint).toInt -
        (executor.anchor.positionUrad joint).toInt).natAbs ≤ 2 ^ 31 - 1 := by omega
    have htime : (currentTick - executor.due executor.anchor).toNat ≤ 2 ^ 32 - 1 := by
      have := (currentTick - executor.due executor.anchor).isLt
      omega
    calc _ ≤ (2 ^ 31 - 1) * (2 ^ 32 - 1) := Nat.mul_le_mul hdelta htime
      _ < 2 ^ 63 := by norm_num
  have hhull := interpolateUrad_hull hfit hwithin
  unfold StreamExecutor.towards
  omega

/-- **What a step of a sound executor reports is inside the limits.** -/
theorem output_withinLimits {currentTick : Tick} {executor' : StreamExecutor}
    {result : ExecutorResult} {outputUrad : Joints} (hsound : Sound executor)
    (hspan : SpanFits executor.jointLimits)
    (hstep : StepOutcome executor currentTick (executor', result, some outputUrad)) :
    positionsWithinLimits executor.jointLimits outputUrad = true := by
  have hanchor := fun running => (hsound.anchored running).2.2
  cases hstep with
  | timeout running openEnded silent => exact hanchor running
  | holding running openEnded noTimeout drained => exact hanchor running
  | applied running sample rest queued noTimeout due onTime more =>
    exact hsound.withinLimits sample (by simp [queued])
  | succeeded running sample queued due onTime planned final =>
    exact hsound.withinLimits sample (by simp [queued])
  | interpolated running sample rest queued noTimeout still span within =>
    exact towards_withinLimits hspan (hanchor running)
      (hsound.withinLimits sample (by simp [queued])) within

/-- **Joint-limit safety**: after any run, with any payloads and any ticks, every output the next
step reports is inside the limits the executor was initialised with. -/
theorem every_output_within_limits {hardCaps : StreamHardCaps} {jointLimits : JointLimits}
    {initial : StreamExecutor} (hinit : streamExecutorInit hardCaps jointLimits = .ok initial)
    (hspan : SpanFits jointLimits) (events : List Event) (currentTick : Tick)
    (outputUrad : Joints)
    (houtput : (streamExecutorStep (after initial events) currentTick).2.2 = some outputUrad)
    (joint : Joint) :
    (jointLimits joint).minimumUrad.toInt ≤ (outputUrad joint).toInt ∧
      (outputUrad joint).toInt ≤ (jointLimits joint).maximumUrad.toInt := by
  have hlimits := after_jointLimits hinit events
  have hstep := streamExecutorStep_outcome (after initial events) currentTick
  rw [show streamExecutorStep (after initial events) currentTick =
    ((streamExecutorStep (after initial events) currentTick).1,
      (streamExecutorStep (after initial events) currentTick).2.1, some outputUrad) by
      rw [← houtput]] at hstep
  have hwithin := output_withinLimits (sound_after hinit events) (hlimits ▸ hspan) hstep
  rw [hlimits, positionsWithinLimits_iff] at hwithin
  exact hwithin joint

/-- A stream on the bench that is half way from its anchor to its first sample. -/
def Bench.halfwayRun : List Event :=
  [⟨100, .openStream (openPayload 1 0 100)⟩, ⟨100, .admitBatch (batchPayload 0 0 [(120, 5000)]) .append⟩,
    ⟨100, .start fun _ => 0⟩, ⟨100, .step⟩, ⟨105, .step⟩]

theorem every_output_within_limits_bench :
    (Bench.jointLimits 0).minimumUrad.toInt ≤ (2500 : Urad).toInt ∧
      (2500 : Urad).toInt ≤ (Bench.jointLimits 0).maximumUrad.toInt :=
  every_output_within_limits Bench.executor_init (by decide) Bench.halfwayRun 110 (fun _ => 2500)
    (by decide +kernel) 0

end MobileBimanual.Stream
