/-
# Serial numbers: the wrap-aware order on a fixed-width counter

A `w`-bit counter that wraps round is compared by the sign of the difference: `a` is AFTER `b`
when `a - b`, read as a signed number, is positive.  This order is total on any window shorter
than half the circle and is not transitive beyond it, and every argument about such counters is
an argument about how far round the circle a run of them goes.

So the file works with forward distances.  `ahead a b` is how far `a` lies ahead of `b` going
forward; `reach b l` is the distance really covered by walking from `b` through the list `l`.
The two facts used later are

* `ahead_le_reach`: a walk that does not go round the circle passes every one of its stops at
  its true distance, so bounds at the end of the walk bound every stop;
* `reach_eq_ahead_of_forall_after`: a walk all of whose stops are after its start has not gone
  half way round, and its length is the distance of its last stop.

`ofTime t` is the reading of the counter at the true time `t`, a natural number.
-/
import Mathlib.Data.BitVec
import Mathlib.Tactic

namespace Serial

variable {w : Nat}

/-! ## 1. Forward distance -/

/-- How far `a` lies ahead of `b`, going forward round the circle. -/
def ahead (a b : BitVec w) : Nat := (a - b).toNat

/-- `a` is after `b`: the difference, read as a signed number, is positive. -/
def After (a b : BitVec w) : Prop := 0 < (a - b).toInt

instance (a b : BitVec w) : Decidable (After a b) := inferInstanceAs (Decidable (0 < _))

theorem ahead_lt (a b : BitVec w) : ahead a b < 2 ^ w := (a - b).isLt

/-- The distance without a remainder: either no wrap, or exactly one. -/
theorem ahead_eq (a b : BitVec w) :
    ahead a b = if b.toNat ≤ a.toNat then a.toNat - b.toNat else 2 ^ w + a.toNat - b.toNat := by
  have ha := a.isLt
  have hb := b.isLt
  unfold ahead
  rw [BitVec.toNat_sub]
  split
  · rw [show 2 ^ w - b.toNat + a.toNat = (a.toNat - b.toNat) + 2 ^ w by omega,
      Nat.add_mod_right, Nat.mod_eq_of_lt (by omega)]
  · rw [Nat.mod_eq_of_lt (by omega)]
    omega

@[simp] theorem ahead_self (a : BitVec w) : ahead a a = 0 := by simp [ahead]

/-- The zero of the counter is nowhere in particular. -/
theorem add_sub_add (a b k : BitVec w) : (a + k) - (b + k) = a - b :=
  add_sub_add_right_eq_sub a b k

variable {a b c : BitVec w}

/-- Distances add up as long as the sum does not go round the circle. -/
theorem ahead_add (h : ahead a b + ahead b c < 2 ^ w) : ahead a c = ahead a b + ahead b c := by
  have ha := a.isLt
  have hb := b.isLt
  have hc := c.isLt
  rw [ahead_eq a b, ahead_eq b c] at *
  rw [ahead_eq a c]
  generalize 2 ^ w = N at *
  split_ifs at * <;> omega

/-- Of two readings ahead of a third, the nearer one lies behind the other. -/
theorem ahead_sub (h : ahead b c ≤ ahead a c) : ahead a b = ahead a c - ahead b c := by
  have ha := a.isLt
  have hb := b.isLt
  have hc := c.isLt
  rw [ahead_eq a c, ahead_eq b c] at *
  rw [ahead_eq a b]
  generalize 2 ^ w = N at *
  split_ifs at * <;> omega

/-- Round the circle and back: the two distances between distinct readings make up a turn. -/
theorem ahead_swap (h : a ≠ b) : ahead a b + ahead b a = 2 ^ w := by
  have ha := a.isLt
  have hb := b.isLt
  have hne : a.toNat ≠ b.toNat := fun he => h (BitVec.eq_of_toNat_eq he)
  rw [ahead_eq a b, ahead_eq b a]
  generalize 2 ^ w = N at *
  split_ifs <;> omega

theorem eq_of_ahead_eq_zero (h : ahead a b = 0) : a = b := by
  by_contra hne
  have := ahead_swap hne
  have := ahead_lt b a
  omega

/-- Two readings at the same distance from a third are equal. -/
theorem eq_of_ahead_eq (h : ahead a c = ahead b c) : a = b := by
  have h' : a - c = b - c := BitVec.eq_of_toNat_eq h
  simpa using congrArg (· + c) h'

/-! ## 2. The order -/

/-- `a` is after `b` exactly when it lies ahead by less than half the circle. -/
theorem after_iff (a b : BitVec w) : After a b ↔ 0 < ahead a b ∧ 2 * ahead a b < 2 ^ w := by
  unfold After ahead
  rw [BitVec.toInt_eq_toNat_cond]
  have h := (a - b).isLt
  have hcast : ((2 ^ w : Nat) : Int) = (2 : Int) ^ w := by norm_cast
  split_ifs with h2
  · constructor
    · intro h3
      exact ⟨by omega, h2⟩
    · rintro ⟨h3, -⟩
      omega
  · constructor
    · intro h3
      omega
    · rintro ⟨-, h4⟩
      exact absurd h4 h2

theorem after_irrefl (a : BitVec w) : ¬ After a a := by simp [after_iff]

/-- The order is asymmetric. -/
theorem After.asymm (h : After a b) : ¬ After b a := by
  intro h'
  rw [after_iff] at h h'
  have hne : a ≠ b := by
    rintro rfl
    simp at h
  have := ahead_swap hne
  omega

/-- Not after, in distances: at most half the circle behind, or equal. -/
theorem not_after_iff (a b : BitVec w) : ¬ After a b ↔ a = b ∨ 2 ^ w ≤ 2 * ahead a b := by
  rw [after_iff]
  constructor
  · intro h
    by_cases h0 : ahead a b = 0
    · exact Or.inl (eq_of_ahead_eq_zero h0)
    · exact Or.inr (by omega)
  · rintro (rfl | h)
    · simp
    · omega

/-- What is less than half a turn back is not after. -/
theorem not_after_of_ahead (h : 2 * ahead a b < 2 ^ w) : ¬ After b a := by
  rcases Nat.eq_zero_or_pos (ahead a b) with h0 | hpos
  · rw [eq_of_ahead_eq_zero h0]
    exact after_irrefl b
  · exact ((after_iff a b).mpr ⟨hpos, h⟩).asymm

/-- On an arc shorter than half the circle the order is the order of the distances. -/
theorem after_iff_of_arc (ha : 2 * ahead a c < 2 ^ w) (hb : 2 * ahead b c < 2 ^ w) :
    After a b ↔ ahead b c < ahead a c := by
  constructor
  · intro h
    by_contra hle
    have hback : ahead b a = ahead b c - ahead a c := ahead_sub (by omega)
    rcases Nat.eq_zero_or_pos (ahead b a) with h0 | hpos
    · rw [eq_of_ahead_eq_zero h0] at h
      exact after_irrefl a h
    · exact h.asymm ((after_iff b a).mpr ⟨hpos, by omega⟩)
  · intro h
    have hforth : ahead a b = ahead a c - ahead b c := ahead_sub (by omega)
    rw [after_iff]
    omega

/-- What is not after its two ends is not after anything between them: if neither the first nor
the last of a stretch shorter than half the circle is after `h`, no point of it is. -/
theorem not_after_between {first mid last h : BitVec w}
    (hmid : ahead mid first ≤ ahead last first) (hshort : 2 * ahead last first < 2 ^ w)
    (hfirst : ¬ After first h) (hlast : ¬ After last h) : ¬ After mid h := by
  rcases (not_after_iff first h).mp hfirst with rfl | hfar
  · rw [after_iff] at hlast ⊢
    omega
  · by_cases hfh : first = h
    · subst hfh
      simp at hfar
    have hturn := ahead_swap hfh
    -- `h` lies ahead of `first`, at most half way round, and the last point is not past it
    have hpast : ahead last first ≤ ahead h first := by
      by_contra hgt
      have hlh : ahead last h = ahead last first - ahead h first := ahead_sub (by omega)
      rw [after_iff] at hlast
      omega
    intro hafter
    rw [after_iff] at hafter
    have hmh : ahead mid first = ahead mid h + ahead h first := ahead_add (by omega)
    omega

variable {x : BitVec w}

/-- Between two points that are not after `c`, the second after the first, there is none that is:
it would lie across the far side of the circle. -/
theorem not_between_of_not_after (ha : ¬ After a c) (hb : ¬ After b c) (hstep : After b a)
    (hx : After x c) : ¬ (After x a ∧ After b x) := by
  rintro ⟨hxa, hbx⟩
  rw [after_iff] at hxa hbx hstep hx
  have hacross : ahead b c = ahead b x + ahead x c := ahead_add (by omega)
  have hparts : ahead b a = ahead b x + ahead x a := ahead_add (by omega)
  have hfar : 2 ^ w ≤ 2 * ahead b c := by
    rcases (not_after_iff b c).mp hb with rfl | hfar
    · rw [ahead_self] at hacross
      omega
    · exact hfar
  rcases (not_after_iff a c).mp ha with rfl | hback
  · omega
  · have hne : a ≠ c := by
      rintro rfl
      rw [ahead_self] at hback
      omega
    have hturn := ahead_swap hne
    have hlong : ahead x a = ahead x c + ahead c a := ahead_add (by omega)
    omega

/-! ## 3. Walks -/

/-- The distance covered by walking forward from `b` through `l`. -/
def reach : BitVec w → List (BitVec w) → Nat
  | _, [] => 0
  | b, a :: l => ahead a b + reach a l

@[simp] theorem reach_nil (b : BitVec w) : reach b [] = 0 := rfl

@[simp] theorem reach_cons (a b : BitVec w) (l : List (BitVec w)) :
    reach b (a :: l) = ahead a b + reach a l := rfl

variable {l : List (BitVec w)}

/-- **A walk that does not go round passes each stop at its true distance.** -/
theorem ahead_le_reach (hx : x ∈ l) (h : reach b l < 2 ^ w) : ahead x b ≤ reach b l := by
  induction l generalizing b with
  | nil => exact absurd hx (by simp)
  | cons a l ih =>
    rw [reach_cons] at h ⊢
    rcases List.mem_cons.mp hx with rfl | hx
    · omega
    · have hle : ahead x a ≤ reach a l := ih hx (by omega)
      have hsum : ahead x b = ahead x a + ahead a b := ahead_add (by omega)
      omega

/-- The same from below: no stop lies before the first. -/
theorem ahead_head_le (hx : x ∈ a :: l) (h : reach b (a :: l) < 2 ^ w) : ahead a b ≤ ahead x b := by
  rcases List.mem_cons.mp hx with rfl | hx
  · exact Nat.le_refl _
  · rw [reach_cons] at h
    have hle : ahead x a ≤ reach a l := ahead_le_reach hx (by omega)
    have hsum : ahead x b = ahead x a + ahead a b := ahead_add (by omega)
    omega

/-- The walk's length is the distance of its last stop. -/
theorem reach_eq_ahead_getLast (hne : l ≠ []) (h : reach b l < 2 ^ w) :
    reach b l = ahead (l.getLast hne) b := by
  induction l generalizing b with
  | nil => exact absurd rfl hne
  | cons a l ih =>
    rw [reach_cons] at h ⊢
    cases l with
    | nil => simp
    | cons c l =>
      have hl := ih (b := a) (by simp) (by omega)
      rw [List.getLast_cons (by simp)]
      have hsum := ahead_add (a := (c :: l).getLast (by simp)) (b := a) (c := b) (by omega)
      omega

/-- **A walk all of whose stops are after its start has not gone half way round.**  Each single
step is shorter than half the circle, so a step that carried past the far side of the start
would land on a stop that is not after it. -/
theorem reach_lt_of_forall_after (hsteps : List.IsChain (fun x y => After y x) l)
    (h : ∀ x ∈ l, After x b) (hne : l ≠ []) : 2 * reach b l < 2 ^ w := by
  suffices hgen : ∀ (l : List (BitVec w)) (c : BitVec w),
      List.IsChain (fun x y => After y x) (c :: l) → 2 * ahead c b < 2 ^ w →
      (∀ x ∈ l, After x b) → 2 * (ahead c b + reach c l) < 2 ^ w by
    cases l with
    | nil => exact absurd rfl hne
    | cons a l =>
      have ha := (after_iff a b).mp (h a (by simp))
      exact hgen l a hsteps ha.2 (fun x hx => h x (List.mem_cons_of_mem _ hx))
  intro l
  induction l with
  | nil =>
    intro c _ hc _
    simpa using hc
  | cons a l ih =>
    intro c hch hc hl
    rw [List.isChain_cons_cons] at hch
    have hac := (after_iff a c).mp hch.1
    have hab := (after_iff a b).mp (hl a (by simp))
    have hsum : ahead a b = ahead a c + ahead c b := ahead_add (by omega)
    have hrest := ih a hch.2 hab.2 (fun x hx => hl x (List.mem_cons_of_mem _ hx))
    rw [reach_cons]
    omega

/-- A walk shorter than half the circle is pairwise in order. -/
theorem pairwise_after (hsteps : List.IsChain (fun x y => After y x) (b :: l))
    (h : 2 * reach b l < 2 ^ w) : List.Pairwise (fun x y => After y x) (b :: l) := by
  induction l generalizing b with
  | nil => simp
  | cons a l ih =>
    rw [List.isChain_cons_cons] at hsteps
    rw [reach_cons] at h
    have hab := (after_iff a b).mp hsteps.1
    refine List.pairwise_cons.mpr ⟨?_, ih hsteps.2 (by omega)⟩
    intro x hx
    rcases List.mem_cons.mp hx with rfl | hx
    · exact hsteps.1
    · have hle : ahead x a ≤ reach a l := ahead_le_reach hx (by omega)
      have hsum : ahead x b = ahead x a + ahead a b := ahead_add (by omega)
      rw [after_iff]
      omega

/-! ## 4. Readings of a true clock -/

/-- The counter's reading at the true time `t`. -/
def ofTime (t : Nat) : BitVec w := BitVec.ofNat w t

theorem ofTime_add (t s : Nat) : (ofTime (t + s) : BitVec w) = ofTime t + BitVec.ofNat w s := by
  simp [ofTime, BitVec.ofNat_add]

/-- The distance between two readings is the elapsed time, if that is less than a turn. -/
theorem ahead_ofTime {t s : Nat} (h : s ≤ t) (h' : t < s + 2 ^ w) :
    ahead (ofTime t : BitVec w) (ofTime s) = t - s := by
  obtain ⟨d, rfl⟩ := Nat.exists_eq_add_of_le h
  have hd : d < 2 ^ w := by omega
  have hsub : (ofTime s + BitVec.ofNat w d) - ofTime s = BitVec.ofNat w d := by
    rw [BitVec.add_comm, BitVec.add_sub_cancel]
  rw [ofTime_add, ahead, hsub, BitVec.toNat_ofNat, Nat.mod_eq_of_lt hd]
  omega

/-- A reading ahead of a true time by a known distance. -/
theorem ofTime_add_ahead (x : BitVec w) (t : Nat) : x = ofTime (t + ahead x (ofTime t)) := by
  rw [ofTime_add, ahead, BitVec.ofNat_toNat, BitVec.setWidth_eq, BitVec.add_comm,
    BitVec.sub_add_cancel]

/-- An earlier time, less than half a turn back, does not read as later. -/
theorem not_after_ofTime {t s : Nat} (h : t ≤ s) (h' : 2 * (s - t) ≤ 2 ^ w) :
    ¬ After (ofTime t : BitVec w) (ofTime s) := by
  rcases Nat.eq_zero_or_pos w with hw | hw
  · subst hw
    rw [after_iff]
    have := ahead_lt (ofTime t : BitVec 0) (ofTime s)
    omega
  have hp : 0 < 2 ^ w := Nat.two_pow_pos w
  rw [not_after_iff]
  by_cases he : (ofTime t : BitVec w) = ofTime s
  · exact Or.inl he
  · refine Or.inr ?_
    have h1 := ahead_swap he
    rw [ahead_ofTime h (by omega)] at h1
    omega

end Serial
