/-
# Consistent overhead byte stuffing

A byte string is written without zeros.  It is cut at its zeros, each piece is cut after 254
bytes, and in front of each group stands its length plus one; a full group has the code 255 and
no zero after it.

* `encodeFrom run`: the encoder in the middle of a group that so far is `run`;
* `decodeGroups`: the receiver, a group at a time (`decodeGroups_group`);
* `decode_encode`: the round trip;
* `zero_notMem_encode` and `length_encode_le`: what the code is for, and what it costs.
-/
import Mathlib.Data.BitVec
import Mathlib.Data.List.Basic

namespace Cobs

/-- The longest group: its code is 255. -/
def groupLimit : Nat := 254

/-- The code of a group. -/
def code (group : List (BitVec 8)) : BitVec 8 := BitVec.ofNat 8 (group.length + 1)

def fullCode : BitVec 8 := 255

/-! ## 1. The encoder -/

def encodeFrom (run : List (BitVec 8)) : List (BitVec 8) → List (BitVec 8)
  | [] => code run :: run
  | byte :: input =>
    if byte = 0 then code run :: run ++ encodeFrom [] input
    else if run.length + 1 = groupLimit then
      code (run ++ [byte]) :: (run ++ [byte]) ++ encodeFrom [] input
    else encodeFrom (run ++ [byte]) input

def encode (input : List (BitVec 8)) : List (BitVec 8) := encodeFrom [] input

variable (run : List (BitVec 8))

theorem encodeFrom_zero (input : List (BitVec 8)) :
    encodeFrom run (0 :: input) = code run :: run ++ encodeFrom [] input := rfl

theorem encodeFrom_full {run : List (BitVec 8)} {byte : BitVec 8} (hbyte : byte ≠ 0)
    (hfull : run.length + 1 = groupLimit) (input : List (BitVec 8)) :
    encodeFrom run (byte :: input) =
      code (run ++ [byte]) :: (run ++ [byte]) ++ encodeFrom [] input := by
  rw [encodeFrom, if_neg hbyte, if_pos hfull]

theorem encodeFrom_step {run : List (BitVec 8)} {byte : BitVec 8} (hbyte : byte ≠ 0)
    (hroom : run.length + 1 ≠ groupLimit) (input : List (BitVec 8)) :
    encodeFrom run (byte :: input) = encodeFrom (run ++ [byte]) input := by
  rw [encodeFrom, if_neg hbyte, if_neg hroom]

theorem encodeFrom_ne_nil (input : List (BitVec 8)) : encodeFrom run input ≠ [] := by
  induction input generalizing run with
  | nil => exact List.cons_ne_nil _ _
  | cons byte input ih =>
    unfold encodeFrom
    split_ifs
    · exact List.cons_ne_nil _ _
    · exact List.cons_ne_nil _ _
    · exact ih _

/-- The encoding is at least as long as what it has taken in. -/
theorem length_lt_encodeFrom (input : List (BitVec 8)) :
    run.length < (encodeFrom run input).length := by
  induction input generalizing run with
  | nil => simp [encodeFrom]
  | cons byte input ih =>
    unfold encodeFrom
    split_ifs
    · simp only [List.length_cons, List.length_append]
      omega
    · simp only [List.length_cons, List.length_append]
      omega
    · have h := ih (run ++ [byte])
      simp only [List.length_append, List.length_singleton] at h
      omega

/-! ## 2. Size and alphabet -/

/-- **One byte in front, and one for every 254.** -/
theorem length_encodeFrom_le (input : List (BitVec 8)) (hrun : run.length < groupLimit) :
    (encodeFrom run input).length ≤
      run.length + input.length + 1 + (run.length + input.length) / groupLimit := by
  unfold groupLimit at *
  induction input generalizing run with
  | nil => simp [encodeFrom]
  | cons byte input ih =>
    by_cases hbyte : byte = 0
    · have h := ih [] (by simp)
      rw [hbyte, encodeFrom_zero]
      simp only [List.length_append, List.length_cons, List.length_nil] at h ⊢
      omega
    · by_cases hfull : run.length + 1 = groupLimit
      · have h := ih [] (by simp)
        rw [encodeFrom_full hbyte hfull]
        unfold groupLimit at hfull
        simp only [List.length_append, List.length_cons, List.length_nil] at h ⊢
        omega
      · have h := ih (run ++ [byte]) (by
          unfold groupLimit at hfull
          simp only [List.length_append, List.length_cons, List.length_nil]
          omega)
        rw [encodeFrom_step hbyte hfull]
        simp only [List.length_append, List.length_cons, List.length_nil] at h ⊢
        omega

variable (input : List (BitVec 8))

theorem length_encode_le :
    (encode input).length ≤ input.length + 1 + input.length / groupLimit := by
  have h := length_encodeFrom_le [] input (by decide)
  simp only [List.length_nil, Nat.zero_add] at h
  exact h

variable {group : List (BitVec 8)}

theorem toNat_code (h : group.length ≤ groupLimit) : (code group).toNat = group.length + 1 := by
  unfold groupLimit at h
  simp only [code, BitVec.toNat_ofNat]
  omega

theorem code_ne_zero (h : group.length ≤ groupLimit) : code group ≠ 0 := by
  intro hzero
  have hnat := toNat_code h
  rw [hzero] at hnat
  simp at hnat

theorem code_eq_fullCode_iff (h : group.length ≤ groupLimit) :
    code group = fullCode ↔ group.length = groupLimit := by
  rw [← BitVec.toNat_inj, toNat_code h]
  unfold fullCode groupLimit
  simp

/-- **The encoding is free of zeros.** -/
theorem zero_notMem_encodeFrom (hrun : run.length < groupLimit) (hzero : (0 : BitVec 8) ∉ run) :
    (0 : BitVec 8) ∉ encodeFrom run input := by
  have hcode : ∀ {group : List (BitVec 8)}, group.length ≤ groupLimit →
      (0 : BitVec 8) ∉ group → (0 : BitVec 8) ∉ code group :: group := by
    intro group hlen hgroup
    rw [List.mem_cons, not_or]
    exact ⟨fun h => code_ne_zero hlen h.symm, hgroup⟩
  have hsnoc : ∀ {byte : BitVec 8}, byte ≠ 0 → (0 : BitVec 8) ∉ run → (0 : BitVec 8) ∉ run ++ [byte] := by
    intro byte hbyte hr
    rw [List.mem_append, List.mem_singleton, not_or]
    exact ⟨hr, fun h => hbyte h.symm⟩
  induction input generalizing run with
  | nil => exact hcode (Nat.le_of_lt hrun) hzero
  | cons byte input ih =>
    have hrest : (0 : BitVec 8) ∉ encodeFrom [] input := by
      refine ih [] (by decide) List.not_mem_nil ?_
      intro byte hbyte _
      rw [List.mem_append, List.mem_singleton, not_or]
      exact ⟨List.not_mem_nil, fun h => hbyte h.symm⟩
    by_cases hbyte : byte = 0
    · rw [hbyte, encodeFrom_zero, List.mem_append, not_or]
      exact ⟨hcode (Nat.le_of_lt hrun) hzero, hrest⟩
    · by_cases hfull : run.length + 1 = groupLimit
      · rw [encodeFrom_full hbyte hfull, List.mem_append, not_or]
        refine ⟨hcode ?_ (hsnoc hbyte hzero), hrest⟩
        simp [hfull]
      · rw [encodeFrom_step hbyte hfull]
        refine ih (run ++ [byte]) ?_ (hsnoc hbyte hzero) ?_
        · simp only [List.length_append, List.length_singleton]
          omega
        · intro other hother hr
          rw [List.mem_append, List.mem_singleton, not_or]
          exact ⟨hr, fun h => hother h.symm⟩

theorem zero_notMem_encode : (0 : BitVec 8) ∉ encode input :=
  zero_notMem_encodeFrom [] input (by decide) List.not_mem_nil

/-! ## 3. The receiver -/

/-- The groups of a string, one after another; a zero stands between two of them unless the
first is full. -/
def decodeGroups : List (BitVec 8) → Option (List (BitVec 8))
  | [] => some []
  | code :: rest =>
    if code = 0 ∨ rest.length < code.toNat - 1 then none
    else
      let data := rest.take (code.toNat - 1)
      let rest := rest.drop (code.toNat - 1)
      (decodeGroups rest).map fun tail =>
        if code ≠ fullCode ∧ rest ≠ [] then data ++ 0 :: tail else data ++ tail
termination_by input => input.length
decreasing_by
  simp only [List.length_drop, List.length_cons]
  omega

/-- The receiver wants at least one group. -/
def decode (input : List (BitVec 8)) : Option (List (BitVec 8)) :=
  if input = [] then none else decodeGroups input

@[simp] theorem decodeGroups_nil : decodeGroups [] = some [] := by
  rw [decodeGroups]

/-- The receiver takes a group that the encoder wrote. -/
theorem decodeGroups_group (h : group.length ≤ groupLimit) (rest : List (BitVec 8)) :
    decodeGroups (code group :: group ++ rest) =
      (decodeGroups rest).map fun tail =>
        if group.length ≠ groupLimit ∧ rest ≠ [] then group ++ 0 :: tail
        else group ++ tail := by
  have hcode := toNat_code h
  have hgo : ¬ (code group = 0 ∨ (group ++ rest).length < (code group).toNat - 1) := by
    rw [hcode, List.length_append, not_or]
    exact ⟨code_ne_zero h, by omega⟩
  rw [List.cons_append, decodeGroups, if_neg hgo]
  simp only [hcode, Nat.add_sub_cancel, List.take_left', List.drop_left', ne_eq,
    code_eq_fullCode_iff h]

theorem decodeGroups_encodeFrom (hrun : run.length < groupLimit) :
    decodeGroups (encodeFrom run input) = some (run ++ input) := by
  induction input generalizing run with
  | nil =>
    have h := decodeGroups_group (Nat.le_of_lt hrun) []
    rw [List.append_nil] at h
    simpa [encodeFrom] using h
  | cons byte input ih =>
    have hrest := ih [] (by decide)
    have hne := encodeFrom_ne_nil [] input
    by_cases hbyte : byte = 0
    · rw [hbyte, encodeFrom_zero, decodeGroups_group (Nat.le_of_lt hrun), hrest]
      simp [hne, Nat.ne_of_lt hrun]
    · by_cases hfull : run.length + 1 = groupLimit
      · have hlen : (run ++ [byte]).length = groupLimit := by simpa using hfull
        rw [encodeFrom_full hbyte hfull, decodeGroups_group (Nat.le_of_eq hlen), hrest]
        simp [hfull]
      · have hroom : (run ++ [byte]).length < groupLimit := by
          simp only [List.length_append, List.length_singleton]
          omega
        rw [encodeFrom_step hbyte hfull, ih _ hroom]
        simp

/-- **The round trip.** -/
theorem decode_encode : decode (encode input) = some input := by
  unfold decode encode
  rw [if_neg (encodeFrom_ne_nil [] input), decodeGroups_encodeFrom [] input (by decide)]
  simp

/-- Nothing is read out of more than twice its bytes. -/
theorem length_le_of_decodeGroups (input : List (BitVec 8)) :
    ∀ output ∈ decodeGroups input, input.length ≤ 2 * output.length + 1 := by
  induction input using decodeGroups.induct with
  | case1 => simp
  | case2 code rest hbad =>
    rw [decodeGroups, if_pos hbad]
    simp
  | case3 code rest hgood tail ih =>
    intro output houtput
    rw [decodeGroups, if_neg hgood] at houtput
    obtain ⟨decoded, hdecoded, rfl⟩ := Option.map_eq_some_iff.mp houtput
    have hrest : rest.length - (code.toNat - 1) ≤ 2 * decoded.length + 1 := by
      simpa [tail] using ih decoded hdecoded
    rw [not_or, Nat.not_lt, ← BitVec.toNat_inj] at hgood
    have hzero : code.toNat ≠ 0 := hgood.1
    have hdata := List.length_take_of_le hgood.2
    split
    · simp only [List.length_append, List.length_cons]
      omega
    · rename_i hlast
      have hend : rest.length - (code.toNat - 1) = 0 ∨ code.toNat = 255 := by
        rw [not_and_or, not_not, not_not] at hlast
        rcases hlast with hfull | hend
        · exact Or.inr (congrArg BitVec.toNat hfull)
        · exact Or.inl (by simpa using congrArg List.length hend)
      simp only [List.length_append, List.length_cons]
      omega
theorem length_le_of_decode {input output : List (BitVec 8)} (h : decode input = some output) :
    input.length ≤ 2 * output.length + 1 := by
  unfold decode at h
  split at h
  · cases h
  · exact length_le_of_decodeGroups input output h

end Cobs
