/-
# The control grid

The start lays a grid of 5 ms control ticks from its own tick, the epoch, and a sample is due on
the first grid tick that is not before its apply tick.  `firstControlTickAtOrAfter` computes it
in 32 bits; `firstControlTick_onTime` says that it is that grid tick whatever the epoch, and the
rest of the file says what rounding does to the order of the samples.

Rounding keeps the order of what is still ahead, but not strictly: two samples less than 5 ms
apart can be due on one tick (`due_after_or_eq`).  Samples a multiple of 5 ms apart cannot
(`due_after_of_dvd`), which is why an APPEND, whose distance to the queue is checked for that,
never makes two samples share a tick.
-/
import MobileBimanual.Stream.Run

namespace MobileBimanual.Stream

open Serial (After ahead)

/-! ## 1. The rounding -/

theorem add_controlTickMs_sub_one (elapsed : Tick) : elapsed + controlTickMs - 1 = elapsed + 4 := by
  rw [BitVec.sub_eq_add_neg, BitVec.add_assoc]
  rfl

/-- Up to the last 4 ms before the turn, rounding goes up to the next multiple of 5. -/
theorem ahead_firstControlTick {epoch x : Tick} (h : ahead x epoch + 4 < 2 ^ 32) :
    ahead (firstControlTickAtOrAfter epoch x) epoch = 5 * ((ahead x epoch + 4) / 5) := by
  have helapsed : (x - epoch + controlTickMs - 1).toNat = ahead x epoch + 4 := by
    rw [add_controlTickMs_sub_one, BitVec.toNat_add]
    exact Nat.mod_eq_of_lt h
  have hticks : ((x - epoch + controlTickMs - 1) / controlTickMs).toNat =
      (ahead x epoch + 4) / 5 := by
    rw [BitVec.toNat_udiv, helapsed]
    rfl
  unfold firstControlTickAtOrAfter
  dsimp only
  rw [ahead, BitVec.add_comm, BitVec.add_sub_cancel, BitVec.toNat_mul, hticks,
    show controlTickMs.toNat = 5 from rfl, Nat.mul_comm, Nat.mod_eq_of_lt (by omega)]

/-- In the last 4 ms before the turn the next grid tick is the epoch, come round again. -/
theorem firstControlTick_turn {epoch x : Tick} (h : 2 ^ 32 ≤ ahead x epoch + 4) :
    firstControlTickAtOrAfter epoch x = epoch := by
  have hlt := Serial.ahead_lt x epoch
  have helapsed : (x - epoch + controlTickMs - 1).toNat = ahead x epoch + 4 - 2 ^ 32 := by
    rw [add_controlTickMs_sub_one, BitVec.toNat_add]
    show (ahead x epoch + 4) % 2 ^ 32 = _
    omega
  have hticks : (x - epoch + controlTickMs - 1) / controlTickMs = 0 := by
    refine BitVec.eq_of_toNat_eq ?_
    rw [BitVec.toNat_udiv, helapsed, show controlTickMs.toNat = 5 from rfl]
    exact Nat.div_eq_of_lt (by omega)
  unfold firstControlTickAtOrAfter
  dsimp only
  rw [hticks]
  simp

/-- **The rounding is right**: on the grid, and less than a control tick after. -/
theorem firstControlTick_onTime (epoch x : Tick) :
    5 ∣ ahead (firstControlTickAtOrAfter epoch x) epoch ∧
      ahead (firstControlTickAtOrAfter epoch x) x < 5 := by
  by_cases h : ahead x epoch + 4 < 2 ^ 32
  · have hdue := ahead_firstControlTick h
    refine ⟨hdue ▸ Nat.dvd_mul_right 5 _, ?_⟩
    rw [Serial.ahead_sub (c := epoch) (by omega), hdue]
    omega
  · rw [firstControlTick_turn (by omega)]
    have hne : epoch ≠ x := by
      rintro rfl
      simp at h
    have hswap := Serial.ahead_swap hne
    exact ⟨by simp, by omega⟩

/-! ## 2. Rounding and order

What is due after a tick of the first half turn of the grid is rounded without wrapping, so its
distance from the epoch is the distance of its apply tick, rounded up. -/

section Ahead

variable {epoch last x y : Tick}

theorem ahead_due_of_after (hlast : 2 * ahead last epoch < 2 ^ 32)
    (hx : After (firstControlTickAtOrAfter epoch x) last) :
    ahead (firstControlTickAtOrAfter epoch x) epoch = 5 * ((ahead x epoch + 4) / 5) ∧
      ahead (firstControlTickAtOrAfter epoch x) epoch =
        ahead (firstControlTickAtOrAfter epoch x) last + ahead last epoch := by
  have hnoTurn : ahead x epoch + 4 < 2 ^ 32 := by
    by_contra hturn
    rw [firstControlTick_turn (by omega)] at hx
    exact Serial.not_after_of_ahead hlast hx
  refine ⟨ahead_firstControlTick hnoTurn, Serial.ahead_add ?_⟩
  have := (Serial.after_iff _ _).mp hx
  omega

/-- A later sample is due later, or on the same tick. -/
theorem due_after_or_eq (hlast : 2 * ahead last epoch < 2 ^ 32) (hgrid : 5 ∣ ahead last epoch)
    (hx : After (firstControlTickAtOrAfter epoch x) last)
    (hy : After (firstControlTickAtOrAfter epoch y) last) (hyx : After y x) :
    firstControlTickAtOrAfter epoch y = firstControlTickAtOrAfter epoch x ∨
      After (firstControlTickAtOrAfter epoch y) (firstControlTickAtOrAfter epoch x) := by
  obtain ⟨hdx, hsx⟩ := ahead_due_of_after hlast hx
  obtain ⟨hdy, hsy⟩ := ahead_due_of_after hlast hy
  have hx' := (Serial.after_iff _ _).mp hx
  have hy' := (Serial.after_iff _ _).mp hy
  obtain ⟨k, hk⟩ := hgrid
  rcases lt_trichotomy (ahead (firstControlTickAtOrAfter epoch y) last)
    (ahead (firstControlTickAtOrAfter epoch x) last) with hlt | heq | hgt
  · -- then `y` itself is less than half a turn before `x`
    have hback : ahead x y = ahead x epoch - ahead y epoch := Serial.ahead_sub (by omega)
    exact absurd hyx (Serial.not_after_of_ahead (by omega))
  · exact Or.inl (Serial.eq_of_ahead_eq heq)
  · exact Or.inr ((Serial.after_iff_of_arc (c := last) hy'.2 hx'.2).mpr hgt)

/-- Samples a multiple of 5 ms apart are due on different ticks. -/
theorem due_after_of_dvd (hlast : 2 * ahead last epoch < 2 ^ 32) (hgrid : 5 ∣ ahead last epoch)
    (hx : After (firstControlTickAtOrAfter epoch x) last)
    (hy : After (firstControlTickAtOrAfter epoch y) last) (hyx : After y x)
    (hdvd : 5 ∣ ahead y x) :
    After (firstControlTickAtOrAfter epoch y) (firstControlTickAtOrAfter epoch x) := by
  rcases due_after_or_eq hlast hgrid hx hy hyx with heq | hafter
  · obtain ⟨hdx, -⟩ := ahead_due_of_after hlast hx
    obtain ⟨hdy, -⟩ := ahead_due_of_after hlast hy
    rw [heq, hdx] at hdy
    have hpos := ((Serial.after_iff _ _).mp hyx).1
    rcases Nat.le_total (ahead x epoch) (ahead y epoch) with hle | hle
    · have hforth : ahead y x = ahead y epoch - ahead x epoch := Serial.ahead_sub hle
      omega
    · have hback : ahead x y = ahead x epoch - ahead y epoch := Serial.ahead_sub hle
      exact absurd hyx (Serial.not_after_of_ahead (by omega))
  · exact hafter

/-- Rounding moves what lies a multiple of 5 ms on by just that much. -/
theorem ahead_due_shift (hround : ahead (firstControlTickAtOrAfter epoch x) epoch =
      5 * ((ahead x epoch + 4) / 5))
    (hnear : 2 * ahead (firstControlTickAtOrAfter epoch x) epoch < 2 ^ 32)
    (hyx : 2 * ahead y x < 2 ^ 32) (hdvd : 5 ∣ ahead y x) :
    ahead (firstControlTickAtOrAfter epoch y) (firstControlTickAtOrAfter epoch x) =
      ahead y x := by
  obtain ⟨k, hk⟩ := hdvd
  have hsum : ahead y epoch = ahead y x + ahead x epoch := Serial.ahead_add (by omega)
  have hy : ahead (firstControlTickAtOrAfter epoch y) epoch = 5 * ((ahead y epoch + 4) / 5) :=
    ahead_firstControlTick (by omega)
  rw [Serial.ahead_sub (c := epoch) (by omega)]
  omega

/-- Two neighbours of a queue that cannot share a control tick. -/
def Apart (epoch : Tick) (p s : Setpoint) : Prop :=
  5 ∣ ahead s.applyTick p.applyTick ∨
    firstControlTickAtOrAfter epoch s.applyTick ≠ firstControlTickAtOrAfter epoch p.applyTick

/-- The control ticks of samples in order, if all are ahead and no two neighbours share one, are
in order. -/
theorem dues_inOrder (hlast : 2 * ahead last epoch < 2 ^ 32) (hgrid : 5 ∣ ahead last epoch) :
    ∀ {samples : List Setpoint},
      (∀ s ∈ samples, After (firstControlTickAtOrAfter epoch s.applyTick) last) →
      InOrder samples → List.IsChain (Apart epoch) samples →
      List.IsChain (fun p s : Setpoint => After (firstControlTickAtOrAfter epoch s.applyTick)
        (firstControlTickAtOrAfter epoch p.applyTick)) samples
  | [], _, _, _ => List.isChain_nil
  | [_], _, _, _ => List.isChain_singleton _
  | p :: s :: rest, hahead, horder, hapart => by
    obtain ⟨hps, horder⟩ := List.isChain_cons_cons.mp horder
    obtain ⟨hpsApart, hapart⟩ := List.isChain_cons_cons.mp hapart
    have hp := hahead p List.mem_cons_self
    have hs := hahead s (List.mem_cons_of_mem _ List.mem_cons_self)
    refine List.isChain_cons_cons.mpr ⟨?_, dues_inOrder hlast hgrid
      (fun t ht => hahead t (List.mem_cons_of_mem _ ht)) horder hapart⟩
    rcases hpsApart with hdvd | hne
    · exact due_after_of_dvd hlast hgrid hp hs hps hdvd
    · exact (due_after_or_eq hlast hgrid hp hs hps).resolve_left hne

end Ahead

/-! ## 3. The rate over the grid -/

theorem uint64OfInt32_of_pos {x : Urad} (h : 0 < x.toInt) : uint64OfInt32 x = x.toInt.toNat := by
  have := BitVec.toInt_lt (x := x)
  rw [uint64OfInt32, Int.emod_eq_of_lt (by omega) (by omega)]

/-- The unsigned product of a positive step and a number of ticks does not wrap. -/
theorem exceedsRate_eq_false {policy : StreamPolicy} {target start : Joints} {outputTicks : Tick}
    (hpolicy : PolicyOk policy) (h : exceedsRate policy target start outputTicks = false)
    (joint : Joint) : (absoluteDifference (target joint) (start joint) : Int) ≤
      (policy.maximumStepUradPerTick joint).toInt * outputTicks.toNat := by
  have hpos := hpolicy.step joint
  have hlt := BitVec.toInt_lt (x := policy.maximumStepUradPerTick joint)
  have hticks := outputTicks.isLt
  have hproduct : (policy.maximumStepUradPerTick joint).toInt.toNat * outputTicks.toNat <
      2 ^ 64 := by
    calc (policy.maximumStepUradPerTick joint).toInt.toNat * outputTicks.toNat
        ≤ 2 ^ 31 * outputTicks.toNat := Nat.mul_le_mul_right _ (by omega)
      _ < 2 ^ 64 := by omega
  have hle : absoluteDifference (target joint) (start joint) ≤
      (policy.maximumStepUradPerTick joint).toInt.toNat * outputTicks.toNat := by
    simp only [exceedsRate, decide_eq_false_iff_not, not_exists, not_lt,
      uint64OfInt32_of_pos (hpolicy.step _)] at h
    exact (h joint).trans (Nat.mod_le _ _)
  have hcast : (((policy.maximumStepUradPerTick joint).toInt.toNat * outputTicks.toNat : Nat) :
      Int) = (policy.maximumStepUradPerTick joint).toInt * outputTicks.toNat := by
    rw [Nat.cast_mul, Int.toNat_of_nonneg (by omega)]
  rw [← hcast]
  exact_mod_cast hle

/-- **An APPEND continues the queue**: its first sample follows the tail as the samples of a
batch follow one another. -/
theorem Admits.continuous_tail {executor : StreamExecutor} {payload : List Byte}
    {currentTick : Tick} {batch : Batch} (h : Admits executor payload .append currentTick batch)
    (hpolicy : PolicyOk executor.session.policy) {tail : Setpoint}
    (htail : tail ∈ executor.queue.getLast?) :
    Continuous executor.session.policy tail batch.firstSample := by
  have hafter : After batch.firstApplyTick tail.applyTick := h.accepts.after_retained htail
  have hcheck := h.tail
  have hsome : executor.session.tailSample = some tail := htail
  simp only [appendTailDiscontinuous, hsome, Bool.and_eq_false_iff, tickIsAfter_eq_false_iff,
    Bool.or_eq_false_iff, bne_eq_false_iff_eq] at hcheck
  obtain ⟨honGrid, hrate⟩ := hcheck.resolve_left (not_not.mpr hafter)
  have hpos := ((Serial.after_iff _ _).mp hafter).1
  have hdvd : 5 ∣ ahead batch.firstApplyTick tail.applyTick := by
    have hmod := congrArg BitVec.toNat honGrid
    rw [BitVec.toNat_umod] at hmod
    exact Nat.dvd_of_mod_eq_zero hmod
  refine ⟨?_, ?_, ?_⟩
  · rwa [h.accepts.decoded.first]
  · rwa [h.accepts.decoded.first]
  · intro joint
    have hjoint := exceedsRate_eq_false hpolicy hrate joint
    rw [BitVec.toNat_udiv] at hjoint
    rw [h.accepts.decoded.first]
    exact hjoint

end MobileBimanual.Stream
