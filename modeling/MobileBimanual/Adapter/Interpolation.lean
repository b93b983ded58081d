/-
# The host's interpolation against the firmware's

`_interpolate_route` of the adapter looks for a sample of the tick first and for a pair around it
then; `interpolate_position` of the firmware looks for both at once, index by index.  Both divide
towards zero, one over unbounded integers and the other in 64 bits that never overflow
(`interpolateBetween_hostSample`).  So they `Mirror` each other unless the tick is `Shadowed`: some
pair of samples has the tick between them, and a sample behind that pair carries it
(`interpolateRoute_mirrors`).

No tick is shadowed on a queue whose samples follow each other and are all still ahead of one tick
(`Ahead.not_shadowed`), and samples in front of such a queue that are due do not matter to a tick
on it (`interpolatePosition_append_due`).
-/
import MobileBimanual.Adapter.Data
import MobileBimanual.Stream.JointLimits

namespace MobileBimanual.Adapter

open MobileBimanual.Stream
open MobileBimanual.Stream.Host (StreamSampleV2 tickAfter)
open Serial (After ahead)

/-! ## 1. The same queue -/

/-- The integers of twelve positions. -/
def uradOf (joints : Joints) : List Int :=
  (List.finRange 12).map fun joint => (joints joint).toInt

/-- A sample of the firmware in the host's integers. -/
def hostSample (sample : Setpoint) : StreamSampleV2 where
  applyTick := sample.applyTick.toNat
  positionsUrad := uradOf sample.positionUrad

/-- Both have a position and it is the same, or neither has one. -/
inductive Mirrors : Except HostError (List Int) → Option Joints → Prop
  | same (joints : Joints) : Mirrors (.ok (uradOf joints)) (some joints)
  | neither (error : HostError) : Mirrors (.error error) none

theorem mirrors_ok_iff {positions : List Int} {firmware : Option Joints} :
    Mirrors (.ok positions) firmware ↔
      ∃ joints, firmware = some joints ∧ positions = uradOf joints := by
  constructor
  · rintro ⟨joints⟩
    exact ⟨joints, rfl, rfl⟩
  · rintro ⟨joints, rfl, rfl⟩
    exact .same joints

/-- The tick lies between two neighbours, and a sample behind them carries it. -/
def Shadowed (tick : Tick) : List Setpoint → Prop
  | sample :: next :: rest => sample.applyTick ≠ tick ∧
      (After tick sample.applyTick ∧ After next.applyTick tick ∧
          (∃ later ∈ rest, later.applyTick = tick) ∨
        Shadowed tick (next :: rest))
  | _ => False

theorem tickAfter_toNat (candidate reference : Tick) :
    tickAfter candidate.toNat reference.toNat = tickIsAfter candidate reference := by
  rw [← Host.tickAfter_agrees]
  simp

theorem tickAfter_toNat_iff {candidate reference : Tick} :
    tickAfter candidate.toNat reference.toNat = true ↔ After candidate reference := by
  rw [tickAfter_toNat, tickIsAfter_iff]

theorem lead_toNat (candidate reference : Tick) :
    lead candidate.toNat reference.toNat = ahead candidate reference := by
  unfold lead ahead
  rw [BitVec.toNat_sub]
  have hreference := reference.isLt
  omega

theorem hostSample_applyTick_iff {sample : Setpoint} {tick : Tick} :
    (hostSample sample).applyTick = tick.toNat ↔ sample.applyTick = tick := by
  rw [hostSample, Int.natCast_inj, BitVec.toNat_inj]

/-! ## 2. One pair of samples -/

section Pair

variable {tick : Tick} {sample next : Setpoint}

/-- **Between two samples both integers are exact.** -/
theorem interpolateBetween_hostSample (hafter : After tick sample.applyTick)
    (hbefore : After next.applyTick tick) :
    interpolateBetween (hostSample sample) (hostSample next) tick.toNat =
      uradOf fun joint => interpolateUrad (sample.positionUrad joint) (next.positionUrad joint)
        (tick - sample.applyTick) (next.applyTick - sample.applyTick) := by
  rw [Serial.after_iff] at hafter hbefore
  have hspan : ahead next.applyTick sample.applyTick =
      ahead next.applyTick tick + ahead tick sample.applyTick := Serial.ahead_add (by omega)
  unfold interpolateBetween uradOf
  simp only [hostSample, uradOf, lead_toNat, List.zipWith_map, List.zipWith_self]
  refine List.map_congr_left fun joint _ => ?_
  have hstart := toInt_range (sample.positionUrad joint)
  have hend := toInt_range (next.positionUrad joint)
  refine (interpolateUrad_toInt ?_ ?_).symm
  · calc ((next.positionUrad joint).toInt - (sample.positionUrad joint).toInt).natAbs *
          ahead tick sample.applyTick
        ≤ (2 ^ 32 - 1) * (2 ^ 31 - 1) := Nat.mul_le_mul (by omega) (by omega)
      _ < 2 ^ 63 := by norm_num
  · show ahead tick sample.applyTick ≤ ahead next.applyTick sample.applyTick
    omega

end Pair

/-! ## 3. The two searches -/

section Searches

variable {tick : Tick} {sample next : Setpoint} {rest queue : List Setpoint}

/-- The first sample carries the tick. -/
theorem interpolateRoute_here (h : sample.applyTick = tick) :
    interpolateRoute ((sample :: rest).map hostSample) tick.toNat =
      .ok (uradOf sample.positionUrad) := by
  have hhere := hostSample_applyTick_iff.mpr h
  unfold interpolateRoute
  rw [List.map_cons, List.find?_cons_of_pos (by simpa using hhere)]
  rfl

/-- Neither the first sample nor the first pair has anything to say. -/
theorem interpolateRoute_past (hne : sample.applyTick ≠ tick)
    (hpast : ¬ (After tick sample.applyTick ∧ After next.applyTick tick)) :
    interpolateRoute ((sample :: next :: rest).map hostSample) tick.toNat =
      interpolateRoute ((next :: rest).map hostSample) tick.toNat := by
  have hne' : ¬ (hostSample sample).applyTick = tick.toNat :=
    fun h => hne (hostSample_applyTick_iff.mp h)
  have hpast' : ¬ (tickAfter tick.toNat (hostSample sample).applyTick &&
      tickAfter (hostSample next).applyTick tick.toNat) = true := by
    rw [Bool.and_eq_true, hostSample, hostSample, tickAfter_toNat_iff, tickAfter_toNat_iff]
    exact hpast
  have hpairs : interpolatePairs tick.toNat ((sample :: next :: rest).map hostSample) =
      interpolatePairs tick.toNat ((next :: rest).map hostSample) := by
    rw [List.map_cons, List.map_cons, interpolatePairs, if_neg hpast']
  unfold interpolateRoute
  rw [hpairs, List.map_cons, List.find?_cons_of_neg (by simpa using hne')]

/-- The tick is between the first two samples, and no sample carries it. -/
theorem interpolateRoute_between (hafter : After tick sample.applyTick)
    (hbefore : After next.applyTick tick)
    (hnone : ∀ later ∈ sample :: next :: rest, later.applyTick ≠ tick) :
    interpolateRoute ((sample :: next :: rest).map hostSample) tick.toNat =
      .ok (uradOf fun joint => interpolateUrad (sample.positionUrad joint)
        (next.positionUrad joint) (tick - sample.applyTick)
        (next.applyTick - sample.applyTick)) := by
  have hfind : ((sample :: next :: rest).map hostSample).find?
      (fun host => host.applyTick = (tick.toNat : Int)) = none := by
    rw [List.find?_eq_none]
    intro host hhost
    obtain ⟨later, hlater, rfl⟩ := List.mem_map.mp hhost
    rw [decide_eq_true_iff, hostSample_applyTick_iff]
    exact hnone later hlater
  have hpair : (tickAfter tick.toNat (hostSample sample).applyTick &&
      tickAfter (hostSample next).applyTick tick.toNat) = true := by
    rw [Bool.and_eq_true, hostSample, hostSample, tickAfter_toNat_iff, tickAfter_toNat_iff]
    exact ⟨hafter, hbefore⟩
  rw [interpolateRoute, hfind]
  simp only [List.map_cons, interpolatePairs]
  rw [if_pos hpair, interpolateBetween_hostSample hafter hbefore]

/-- **The two interpolations agree where the tick is not shadowed**, on any queue whatever. -/
theorem interpolateRoute_mirrors :
    ∀ {queue : List Setpoint}, ¬ Shadowed tick queue →
      Mirrors (interpolateRoute (queue.map hostSample) tick.toNat)
        (interpolatePosition tick queue)
  | [], _ => .neither _
  | [sample], _ => by
    unfold interpolatePosition
    split
    · rename_i hhere
      rw [interpolateRoute_here hhere]
      exact .same _
    · rename_i hne
      have hne' : ¬ (hostSample sample).applyTick = tick.toNat :=
        fun h => hne (hostSample_applyTick_iff.mp h)
      rw [interpolateRoute, List.map_singleton, List.find?_cons_of_neg (by simpa using hne')]
      exact .neither _
  | sample :: next :: rest, hshadow => by
    unfold interpolatePosition
    split
    · rename_i hhere
      rw [interpolateRoute_here hhere]
      exact .same _
    · rename_i hne
      split
      · rename_i hpair
        rw [Bool.and_eq_true, tickIsAfter_iff, tickIsBefore_iff] at hpair
        rw [interpolateRoute_between hpair.1 hpair.2]
        · exact .same _
        · intro later hlater heq
          rcases List.mem_cons.mp hlater with rfl | hlater
          · exact hne heq
          · rcases List.mem_cons.mp hlater with rfl | hlater
            · rw [heq] at hpair
              exact Serial.after_irrefl tick hpair.2
            · exact hshadow ⟨hne, .inl ⟨hpair.1, hpair.2, later, hlater, heq⟩⟩
      · rename_i hpair
        rw [Bool.and_eq_true, tickIsAfter_iff, tickIsBefore_iff] at hpair
        rw [interpolateRoute_past hne hpair]
        exact interpolateRoute_mirrors fun h => hshadow ⟨hne, .inr h⟩

end Searches

/-! ## 4. Queues ahead of a tick -/

/-- The samples follow each other, and all of them are after the tick `base`. -/
structure Ahead (base : Tick) (queue : List Setpoint) : Prop where
  inOrder : List.IsChain (fun p s : Setpoint => After s.applyTick p.applyTick) queue
  after : ∀ sample ∈ queue, After sample.applyTick base

section AheadOfBase

variable {base tick : Tick} {queue : List Setpoint}

theorem Ahead.tail {sample : Setpoint} (h : Ahead base (sample :: queue)) : Ahead base queue :=
  ⟨h.inOrder.tail, fun later hlater => h.after later (List.mem_cons_of_mem _ hlater)⟩

theorem Ahead.arc (h : Ahead base queue) {sample : Setpoint} (hsample : sample ∈ queue) :
    2 * ahead sample.applyTick base < 2 ^ 32 :=
  ((Serial.after_iff _ _).mp (h.after sample hsample)).2

/-- From the base on the distances grow along the queue. -/
theorem Ahead.pairwise (h : Ahead base queue) :
    List.Pairwise (fun p s : Setpoint => ahead p.applyTick base < ahead s.applyTick base)
      queue := by
  induction queue with
  | nil => exact List.Pairwise.nil
  | cons sample queue ih =>
    have hrest := ih h.tail
    refine List.pairwise_cons.mpr ⟨fun later hlater => ?_, hrest⟩
    cases queue with
    | nil => cases hlater
    | cons next rest =>
      have hnext : ahead sample.applyTick base < ahead next.applyTick base :=
        (Serial.after_iff_of_arc (h.arc (by simp)) (h.arc (by simp))).mp
          (List.isChain_cons_cons.mp h.inOrder).1
      rcases List.mem_cons.mp hlater with rfl | hlater
      · exact hnext
      · exact hnext.trans ((List.pairwise_cons.mp hrest).1 later hlater)

/-- **No tick is shadowed on a queue ahead of a tick.** -/
theorem Ahead.not_shadowed (h : Ahead base queue) : ¬ Shadowed tick queue := by
  induction queue with
  | nil => exact id
  | cons sample queue ih =>
    cases queue with
    | nil => exact id
    | cons next rest =>
      rintro ⟨-, ⟨-, hbefore, later, hlater, rfl⟩ | hshadow⟩
      · have hgrows := (List.pairwise_cons.mp h.tail.pairwise).1 later hlater
        have hback := (Serial.after_iff_of_arc (h.tail.arc (by simp))
          (h.tail.arc (List.mem_cons_of_mem _ hlater))).mp hbefore
        omega
      · exact ih h.tail hshadow

/-- A tick that has a position on the queue lies on its arc: after the base, and not before the
head of the queue. -/
theorem Ahead.position_arc {joints : Joints} (h : Ahead base queue)
    (hposition : interpolatePosition tick queue = some joints) :
    After tick base ∧ ∀ head ∈ queue.head?, ahead head.applyTick base ≤ ahead tick base := by
  induction queue with
  | nil => cases hposition
  | cons sample queue ih =>
    have hsample := h.arc (List.mem_cons_self (a := sample) (l := queue))
    simp only [List.head?_cons, Option.mem_def, Option.some.injEq, forall_eq']
    cases queue with
    | nil =>
      rw [interpolatePosition] at hposition
      split at hposition
      · rename_i hhere
        subst hhere
        exact ⟨h.after sample (by simp), le_rfl⟩
      · cases hposition
    | cons next rest =>
      have hnext := h.tail.arc (List.mem_cons_self (a := next) (l := rest))
      have hgrows := (List.pairwise_cons.mp h.pairwise).1 next (by simp)
      rw [interpolatePosition] at hposition
      split at hposition
      · rename_i hhere
        subst hhere
        exact ⟨h.after sample (by simp), le_rfl⟩
      · split at hposition
        · rename_i hpair
          rw [Bool.and_eq_true, tickIsAfter_iff, tickIsBefore_iff, Serial.after_iff,
            Serial.after_iff] at hpair
          have hspan : ahead next.applyTick sample.applyTick =
              ahead next.applyTick base - ahead sample.applyTick base := Serial.ahead_sub hgrows.le
          have hparts : ahead next.applyTick sample.applyTick =
              ahead next.applyTick tick + ahead tick sample.applyTick :=
            Serial.ahead_add (by omega)
          have htick : ahead tick base =
              ahead tick sample.applyTick + ahead sample.applyTick base :=
            Serial.ahead_add (by omega)
          rw [Serial.after_iff]
          omega
        · obtain ⟨hafter, hhead⟩ := ih h.tail hposition
          have hle := hhead next rfl
          exact ⟨hafter, by omega⟩

end AheadOfBase

/-! ## 5. Samples that are due -/

/-- **Due samples in front of the queue do not matter to a tick on it.** -/
theorem interpolatePosition_append_due {base tick : Tick} {due queue : List Setpoint}
    {joints : Joints}
    (hinOrder : List.IsChain (fun p s : Setpoint => After s.applyTick p.applyTick) (due ++ queue))
    (hdue : ∀ sample ∈ due, ¬ After sample.applyTick base) (hahead : Ahead base queue)
    (hposition : interpolatePosition tick queue = some joints) :
    interpolatePosition tick (due ++ queue) = some joints := by
  obtain ⟨hafter, hhead⟩ := hahead.position_arc hposition
  induction due with
  | nil => exact hposition
  | cons sample due ih =>
    have hrest := ih hinOrder.tail fun later hlater => hdue later (List.mem_cons_of_mem _ hlater)
    have hsample := hdue sample List.mem_cons_self
    have hne : sample.applyTick ≠ tick := by
      rintro rfl
      exact hsample hafter
    cases hfollow : due ++ queue with
    | nil =>
      rw [hfollow] at hrest
      cases hrest
    | cons next rest =>
      rw [List.cons_append, hfollow] at hinOrder ⊢
      have hstep := (List.isChain_cons_cons.mp hinOrder).1
      have hpast : ¬ (After tick sample.applyTick ∧ After next.applyTick tick) := by
        cases due with
        | nil =>
          rintro ⟨-, hbefore⟩
          have hnext : next ∈ queue.head? := by
            rw [← List.nil_append queue, hfollow]
            rfl
          have hle := hhead next hnext
          have hmem : next ∈ queue := List.mem_of_mem_head? hnext
          have hgrows := (Serial.after_iff_of_arc (hahead.arc hmem)
            ((Serial.after_iff _ _).mp hafter).2).mp hbefore
          omega
        | cons other due =>
          rw [List.cons_append, List.cons.injEq] at hfollow
          obtain ⟨rfl, -⟩ := hfollow
          exact Serial.not_between_of_not_after hsample (hdue other (by simp)) hstep hafter
      rw [interpolatePosition, if_neg hne, if_neg, ← hfollow, hrest]
      rw [Bool.and_eq_true, tickIsAfter_iff, tickIsBefore_iff]
      exact hpast

end MobileBimanual.Adapter
