/-
# Byte stuffing: `cobs.c` and `wire.py`

Both encoders hold a place open for the code of the group they are in and fill it when the group
is closed; here that place holds a zero until then.  The C functions write into a buffer of a
given capacity and check it at every write.

* `cobsEncode_eq`, `cobsDecode_eq`: the C functions are the code of `Lib.Cobs`, as far as the
  buffer goes;
* `Host.cobsEncode_eq`, `Host.cobsDecode_eq`: the Python functions are that code.
-/
import MobileBimanual.Lib.Cobs
import MobileBimanual.Stream.Contract

namespace MobileBimanual.Wire

open MobileBimanual.Stream (Byte)

/-! ## 1. The firmware's encoder -/

/-- `output[0..write_index)`, with `code_index` and `code`. -/
structure CobsWriter where
  output : List Byte
  codeIndex : Nat
  code : Byte

def CobsWriter.start : CobsWriter where
  output := [0]
  codeIndex := 0
  code := 1

/-- The code is written, and a place is held for the next one. -/
def CobsWriter.closeGroup (capacity : Nat) (writer : CobsWriter) : Option CobsWriter :=
  if writer.codeIndex ≥ capacity then none
  else some
    { output := writer.output.set writer.codeIndex writer.code ++ [0]
      codeIndex := writer.output.length
      code := 1 }

def cobsEncodeByte (capacity : Nat) (writer : CobsWriter) (byte : Byte) : Option CobsWriter :=
  if byte = 0 then writer.closeGroup capacity
  else if writer.output.length ≥ capacity then none
  else
    let writer := { writer with output := writer.output ++ [byte], code := writer.code + 1 }
    if writer.code = 0xFF then writer.closeGroup capacity else some writer

def CobsWriter.finish (capacity : Nat) (writer : CobsWriter) : Option (List Byte) :=
  if writer.codeIndex ≥ capacity then none
  else some (writer.output.set writer.codeIndex writer.code)

def cobsEncode (input : List Byte) (capacity : Nat) : Option (List Byte) :=
  if capacity = 0 then none
  else (input.foldlM (cobsEncodeByte capacity) CobsWriter.start).bind (CobsWriter.finish capacity)

/-! ## 2. The firmware's decoder -/

def cobsDecodeFrom (capacity : Nat) : List Byte → List Byte → Option (List Byte)
  | [], output => some output
  | code :: input, output =>
    let copyCount := code.toNat - 1
    if code = 0 then none
    else if copyCount > input.length ∨ copyCount > capacity - output.length then none
    else
      let output := output ++ input.take copyCount
      let input := input.drop copyCount
      if code ≠ 0xFF ∧ input ≠ [] then
        if output.length ≥ capacity then none
        else cobsDecodeFrom capacity input (output ++ [0])
      else cobsDecodeFrom capacity input output
termination_by input => input.length
decreasing_by
  all_goals
    simp only [List.length_drop, List.length_cons]
    omega

def cobsDecode (input : List Byte) (capacity : Nat) : Option (List Byte) :=
  if input = [] then none else cobsDecodeFrom capacity input []

/-! ## 3. The host's encoder and decoder -/

namespace Host

/-- `output`, `code_index` and `code`; the code is an integer of its own. -/
structure CobsWriter where
  output : List Byte
  codeIndex : Nat
  code : Nat

def CobsWriter.start : CobsWriter where
  output := [0]
  codeIndex := 0
  code := 1

/-- `output[code_index] = code`; an item of a `bytearray` is below 256, and so is the code. -/
def CobsWriter.finish (writer : CobsWriter) : List Byte :=
  writer.output.set writer.codeIndex (BitVec.ofNat 8 writer.code)

def CobsWriter.closeGroup (writer : CobsWriter) : CobsWriter where
  output := writer.finish ++ [0]
  codeIndex := writer.output.length
  code := 1

def cobsEncodeByte (writer : CobsWriter) (byte : Byte) : CobsWriter :=
  if byte = 0 then writer.closeGroup
  else
    let writer := { writer with output := writer.output ++ [byte], code := writer.code + 1 }
    if writer.code = 0xFF then writer.closeGroup else writer

def cobsEncode (data : List Byte) : List Byte :=
  (data.foldl cobsEncodeByte CobsWriter.start).finish

/-- The three `ProtocolError`s of the decoder. -/
inductive CobsError where
  | emptyFrame
  | zeroInside
  | truncated

def cobsDecodeFrom : List Byte → List Byte → Except CobsError (List Byte)
  | [], output => .ok output
  | code :: encoded, output =>
    let blockEnd := code.toNat - 1
    if code = 0 then .error .zeroInside
    else if blockEnd > encoded.length then .error .truncated
    else
      let output := output ++ encoded.take blockEnd
      let encoded := encoded.drop blockEnd
      if code ≠ 0xFF ∧ encoded ≠ [] then cobsDecodeFrom encoded (output ++ [0])
      else cobsDecodeFrom encoded output
termination_by encoded => encoded.length
decreasing_by
  all_goals
    simp only [List.length_drop, List.length_cons]
    omega

def cobsDecode (encoded : List Byte) : Except CobsError (List Byte) :=
  if encoded = [] then .error .emptyFrame else cobsDecodeFrom encoded []

end Host

/-! ## 4. The encoders are the code -/

/-- What a buffer of this capacity can take. -/
def within (capacity : Nat) (bytes : List Byte) : Option (List Byte) :=
  if bytes.length ≤ capacity then some bytes else none

variable {capacity : Nat}

theorem within_of_lt {bytes : List Byte} (h : capacity < bytes.length) :
    within capacity bytes = none := if_neg (Nat.not_le.mpr h)

/-- The encoder with `done` behind it and `run` in the open group. -/
def CobsWriter.inGroup (done run : List Byte) : CobsWriter where
  output := done ++ 0 :: run
  codeIndex := done.length
  code := Cobs.code run

theorem CobsWriter.closeGroup_inGroup {done : List Byte} (hroom : done.length < capacity)
    (run : List Byte) :
    (inGroup done run).closeGroup capacity = some (inGroup (done ++ Cobs.code run :: run) []) := by
  unfold closeGroup
  rw [if_neg (by simpa [inGroup] using hroom)]
  simp [inGroup, Cobs.code]

theorem code_snoc (run : List Byte) (byte : Byte) :
    Cobs.code run + 1 = Cobs.code (run ++ [byte]) := by
  simp [Cobs.code, BitVec.ofNat_add]

/-- **The C encoder from the middle of a group.**  The bytes of the open group have been checked
against the buffer; its code has not. -/
theorem cobsEncode_inGroup (capacity : Nat) (input done run : List Byte)
    (hrun : run.length < Cobs.groupLimit)
    (hroom : run ≠ [] → done.length + run.length < capacity) :
    (input.foldlM (cobsEncodeByte capacity) (CobsWriter.inGroup done run)).bind
        (CobsWriter.finish capacity) =
      within capacity (done ++ Cobs.encodeFrom run input) := by
  induction input generalizing done run with
  | nil =>
    by_cases hfull : capacity ≤ done.length
    · rw [within_of_lt (by simp [Cobs.encodeFrom]; omega)]
      simp [CobsWriter.finish, CobsWriter.inGroup, hfull]
    · have hfits : done.length + run.length < capacity := by
        by_cases hempty : run = []
        · simp [hempty]
          omega
        · exact hroom hempty
      simp [CobsWriter.finish, CobsWriter.inGroup, hfull, within, Cobs.encodeFrom]
      omega
  | cons byte input ih =>
    rw [List.foldlM_cons]
    by_cases hbyte : byte = 0
    · have hstep : cobsEncodeByte capacity (CobsWriter.inGroup done run) byte =
          (CobsWriter.inGroup done run).closeGroup capacity := if_pos hbyte
      rw [hstep, hbyte, Cobs.encodeFrom_zero]
      by_cases hfull : capacity ≤ done.length
      · rw [within_of_lt (by simp; omega)]
        simp [CobsWriter.closeGroup, CobsWriter.inGroup, hfull]
      · rw [CobsWriter.closeGroup_inGroup (Nat.not_le.mp hfull)]
        have h := ih (done ++ Cobs.code run :: run) [] (by decide) (by simp)
        simpa using h
    · by_cases hfull : capacity ≤ done.length + run.length + 1
      · have hstep : cobsEncodeByte capacity (CobsWriter.inGroup done run) byte = none := by
          unfold cobsEncodeByte
          rw [if_neg hbyte, if_pos (by simp [CobsWriter.inGroup]; omega)]
        have hlen : run.length + 1 < (Cobs.encodeFrom run (byte :: input)).length := by
          by_cases hlast : run.length + 1 = Cobs.groupLimit
          · simp [Cobs.encodeFrom_full hbyte hlast]
          · have h := Cobs.length_lt_encodeFrom (run ++ [byte]) input
            simpa [Cobs.encodeFrom_step hbyte hlast] using h
        rw [hstep, within_of_lt (by simp only [List.length_append]; omega)]
        rfl
      · have hwrite : cobsEncodeByte capacity (CobsWriter.inGroup done run) byte =
            if Cobs.code (run ++ [byte]) = Cobs.fullCode then
              (CobsWriter.inGroup done (run ++ [byte])).closeGroup capacity
            else some (CobsWriter.inGroup done (run ++ [byte])) := by
          unfold cobsEncodeByte
          rw [if_neg hbyte, if_neg (by simp [CobsWriter.inGroup]; omega)]
          simp only [CobsWriter.inGroup, code_snoc run byte, List.append_assoc,
            List.cons_append]
          rfl
        rw [hwrite]
        by_cases hlast : run.length + 1 = Cobs.groupLimit
        · have hcode : Cobs.code (run ++ [byte]) = Cobs.fullCode :=
            (Cobs.code_eq_fullCode_iff (by simp [hlast])).mpr (by simpa using hlast)
          rw [if_pos hcode, CobsWriter.closeGroup_inGroup (by omega),
            Cobs.encodeFrom_full hbyte hlast]
          have h := ih (done ++ Cobs.code (run ++ [byte]) :: (run ++ [byte])) [] (by decide)
            (by simp)
          simpa using h
        · have hshort : (run ++ [byte]).length < Cobs.groupLimit := by
            simp only [List.length_append, List.length_singleton]
            omega
          have hcode : Cobs.code (run ++ [byte]) ≠ Cobs.fullCode := by
            rw [ne_eq, Cobs.code_eq_fullCode_iff (Nat.le_of_lt hshort)]
            omega
          rw [if_neg hcode, Cobs.encodeFrom_step hbyte hlast]
          exact ih done (run ++ [byte]) hshort (fun _ => by simp; omega)

/-- **The C encoder is the code, as far as the buffer goes.** -/
theorem cobsEncode_eq (input : List Byte) (capacity : Nat) :
    cobsEncode input capacity = within capacity (Cobs.encode input) := by
  by_cases hcapacity : capacity = 0
  · have hne := Cobs.encodeFrom_ne_nil [] input
    rw [cobsEncode, if_pos hcapacity, within_of_lt]
    rw [hcapacity]
    exact List.length_pos_iff.mpr hne
  · rw [cobsEncode, if_neg hcapacity]
    exact cobsEncode_inGroup capacity input [] [] (by decide) (fun h => absurd rfl h)

namespace Host

def CobsWriter.inGroup (done run : List Byte) : CobsWriter where
  output := done ++ 0 :: run
  codeIndex := done.length
  code := run.length + 1

theorem CobsWriter.finish_inGroup (done run : List Byte) :
    (inGroup done run).finish = done ++ Cobs.code run :: run := by
  simp [finish, inGroup, Cobs.code]

theorem CobsWriter.closeGroup_inGroup (done run : List Byte) :
    (inGroup done run).closeGroup = inGroup (done ++ Cobs.code run :: run) [] := by
  unfold closeGroup
  rw [finish_inGroup]
  simp [inGroup]

theorem cobsEncode_inGroup (data done run : List Byte) :
    (data.foldl cobsEncodeByte (CobsWriter.inGroup done run)).finish =
      done ++ Cobs.encodeFrom run data := by
  induction data generalizing done run with
  | nil => exact CobsWriter.finish_inGroup done run
  | cons byte data ih =>
    rw [List.foldl_cons]
    by_cases hbyte : byte = 0
    · have hstep : cobsEncodeByte (CobsWriter.inGroup done run) byte =
          (CobsWriter.inGroup done run).closeGroup := if_pos hbyte
      rw [hstep, CobsWriter.closeGroup_inGroup, ih, hbyte, Cobs.encodeFrom_zero]
      simp
    · have hwrite : cobsEncodeByte (CobsWriter.inGroup done run) byte =
          if run.length + 1 = Cobs.groupLimit then
            (CobsWriter.inGroup done (run ++ [byte])).closeGroup
          else CobsWriter.inGroup done (run ++ [byte]) := by
        unfold cobsEncodeByte
        rw [if_neg hbyte]
        simp [CobsWriter.inGroup, Cobs.groupLimit]
      rw [hwrite]
      by_cases hlast : run.length + 1 = Cobs.groupLimit
      · rw [if_pos hlast, CobsWriter.closeGroup_inGroup, ih, Cobs.encodeFrom_full hbyte hlast]
        simp
      · rw [if_neg hlast, ih, Cobs.encodeFrom_step hbyte hlast]

theorem cobsEncode_eq (data : List Byte) : cobsEncode data = Cobs.encode data :=
  cobsEncode_inGroup data [] []

end Host

/-! ## 5. The decoders are the receiver -/

theorem decodeGroups_cons {code : Byte} {input : List Byte} (hcode : code ≠ 0)
    (hlen : code.toNat - 1 ≤ input.length) :
    Cobs.decodeGroups (code :: input) =
      (Cobs.decodeGroups (input.drop (code.toNat - 1))).map fun tail =>
        if code ≠ 0xFF ∧ input.drop (code.toNat - 1) ≠ [] then
          input.take (code.toNat - 1) ++ 0 :: tail
        else input.take (code.toNat - 1) ++ tail := by
  rw [Cobs.decodeGroups, if_neg (by rw [not_or]; exact ⟨hcode, Nat.not_lt.mpr hlen⟩)]
  rfl

theorem decodeGroups_truncated {code : Byte} {input : List Byte}
    (h : code = 0 ∨ input.length < code.toNat - 1) :
    Cobs.decodeGroups (code :: input) = none := by
  rw [Cobs.decodeGroups, if_pos h]

theorem bind_within_eq_none {answer : Option (List Byte)} {wrap : List Byte → List Byte}
    (h : ∀ tail, capacity < (wrap tail).length) :
    (answer.map wrap).bind (within capacity) = none := by
  cases answer with
  | none => rfl
  | some tail => exact within_of_lt (h tail)

/-- **The C decoder from a group boundary.** -/
theorem cobsDecodeFrom_eq (capacity : Nat) (input output : List Byte)
    (hroom : output.length ≤ capacity) :
    cobsDecodeFrom capacity input output =
      ((Cobs.decodeGroups input).map (output ++ ·)).bind (within capacity) := by
  fun_induction cobsDecodeFrom capacity input output with
  | case1 output => simp [within, hroom]
  | case2 input output =>
    rw [decodeGroups_truncated (Or.inl rfl)]
    rfl
  | case3 code input output copyCount hcode hlong =>
    have hlong : code.toNat - 1 > input.length ∨ code.toNat - 1 > capacity - output.length :=
      hlong
    by_cases hshort : input.length < code.toNat - 1
    · rw [decodeGroups_truncated (Or.inr hshort)]
      rfl
    · have hlen : (input.take (code.toNat - 1)).length = code.toNat - 1 := by
        rw [List.length_take]
        omega
      rw [decodeGroups_cons hcode (Nat.not_lt.mp hshort), Option.map_map, bind_within_eq_none]
      intro tail
      simp only [Function.comp]
      split_ifs <;> simp only [List.length_append, List.length_cons] <;> omega
  | case4 code input output copyCount hcode hlong output' input' hzero hfull =>
    have hshort : code.toNat - 1 ≤ input.length := by
      have h := not_or.mp hlong
      exact Nat.not_lt.mp h.1
    have hfull : capacity ≤ (output ++ input.take (code.toNat - 1)).length := hfull
    rw [decodeGroups_cons hcode hshort, Option.map_map, bind_within_eq_none]
    intro tail
    rw [List.length_append] at hfull
    simp only [Function.comp]
    rw [if_pos hzero]
    simp only [List.length_append, List.length_cons]
    omega
  | case5 code input output copyCount hcode hlong output' input' hzero hfull ih =>
    have hshort : code.toNat - 1 ≤ input.length := by
      have h := not_or.mp hlong
      exact Nat.not_lt.mp h.1
    rw [ih (by simp; omega), decodeGroups_cons hcode hshort, Option.map_map]
    congr 2
    funext tail
    simp only [Function.comp]
    rw [if_pos hzero]
    simp [output', copyCount]
  | case6 code input output copyCount hcode hlong output' input' hzero ih =>
    have hshort : code.toNat - 1 ≤ input.length ∧
        code.toNat - 1 ≤ capacity - output.length := by
      have h := not_or.mp hlong
      exact ⟨Nat.not_lt.mp h.1, Nat.not_lt.mp h.2⟩
    have hroom' : output'.length ≤ capacity := by
      simp only [output', copyCount, List.length_append, List.length_take]
      omega
    rw [ih hroom', decodeGroups_cons hcode hshort.1, Option.map_map]
    congr 2
    funext tail
    simp only [Function.comp]
    rw [if_neg hzero]
    simp [output', copyCount]

theorem cobsDecode_eq (input : List Byte) (capacity : Nat) :
    cobsDecode input capacity = (Cobs.decode input).bind (within capacity) := by
  unfold cobsDecode Cobs.decode
  by_cases hempty : input = []
  · simp [hempty]
  · rw [if_neg hempty, if_neg hempty, cobsDecodeFrom_eq capacity input [] (Nat.zero_le _)]
    simp

namespace Host

theorem cobsDecodeFrom_eq (encoded output : List Byte) :
    (cobsDecodeFrom encoded output).toOption = (Cobs.decodeGroups encoded).map (output ++ ·) := by
  fun_induction cobsDecodeFrom encoded output with
  | case1 output => simp [Except.toOption]
  | case2 encoded output =>
    rw [decodeGroups_truncated (Or.inl rfl)]
    rfl
  | case3 code encoded output blockEnd hcode hlong =>
    rw [decodeGroups_truncated (Or.inr hlong)]
    rfl
  | case4 code encoded output blockEnd hcode hlong output' encoded' hzero ih =>
    rw [ih, decodeGroups_cons hcode (Nat.not_lt.mp hlong), Option.map_map]
    congr 1
    funext tail
    simp only [Function.comp]
    rw [if_pos hzero]
    simp [output', blockEnd]
  | case5 code encoded output blockEnd hcode hlong output' encoded' hzero ih =>
    rw [ih, decodeGroups_cons hcode (Nat.not_lt.mp hlong), Option.map_map]
    congr 1
    funext tail
    simp only [Function.comp]
    rw [if_neg hzero]
    simp [output', blockEnd]

theorem cobsDecode_eq (encoded : List Byte) :
    (cobsDecode encoded).toOption = Cobs.decode encoded := by
  unfold cobsDecode Cobs.decode
  by_cases hempty : encoded = []
  · simp [hempty, Except.toOption]
  · rw [if_neg hempty, if_neg hempty, cobsDecodeFrom_eq]
    simp

end Host

end MobileBimanual.Wire
