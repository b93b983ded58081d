/-
# The boot identity

`actuator_boot_advance` of `device_startup.c`: two slots hold the last identities, and a boot
writes the next one over the older of the two before it is handed out.

The identities handed out are a ratchet: its level is the newest identity that can be read back.
A boot may only damage the slot it writes to, and the newest record stands in the other one
(`select_spec`); so however the write ends, the level does not fall (`boot_ratchet`).
-/
import MobileBimanual.Lib.Ratchet
import MobileBimanual.Wire.Crc

namespace MobileBimanual.Mobile

open MobileBimanual.Stream (Byte readU32Le writeU32Le)
open MobileBimanual.Wire (crc32c)

/-! ## 1. Advancing the identity -/

abbrev BootSlot := Vector Byte 16

namespace BootSlot

/-- All ones, as flash is after an erase. -/
def Erased (slot : BootSlot) : Prop := ∀ byte ∈ slot.toList, byte = 0xFF

instance (slot : BootSlot) : Decidable slot.Erased := List.decidableBAll _ _

def magic : BitVec 32 := 0x31425441

def id (slot : BootSlot) : BitVec 32 := readU32Le slot.toList 4

/-- `record` of the source -/
def Record (slot : BootSlot) : Prop :=
  readU32Le slot.toList 0 = magic ∧ slot.id ≠ 0 ∧ readU32Le slot.toList 8 = ~~~ slot.id ∧
    readU32Le slot.toList 12 = crc32c (slot.toList.take 12)

instance (slot : BootSlot) : Decidable slot.Record := inferInstanceAs (Decidable (_ ∧ _))

def body (id : BitVec 32) : List Byte := writeU32Le magic ++ writeU32Le id ++ writeU32Le (~~~ id)

/-- The record of an identity. -/
def build (id : BitVec 32) : BootSlot :=
  ⟨(body id ++ writeU32Le (crc32c (body id))).toArray, rfl⟩

end BootSlot

open BootSlot

/-- The storage callbacks; either may fail. -/
structure BootStorage (σ : Type) where
  read : σ → Fin 2 → Option BootSlot × σ
  write : σ → Fin 2 → BootSlot → Bool × σ

/-- The last identity, and the slot for the next one.  A slot that is neither a record nor erased
may have been torn, and nothing is selected. -/
def select (initializeErased : Bool) (a b : BootSlot) : Option (BitVec 32 × Fin 2) :=
  if (¬ a.Record ∧ ¬ a.Erased) ∨ (¬ b.Record ∧ ¬ b.Erased) then none
  else if a.Record ∧ b.Record then
    if a.id = b.id ∨ (if b.id < a.id then a.id - b.id else b.id - a.id) ≠ 1 then none
    else some (if b.id < a.id then (a.id, 1) else (b.id, 0))
  else if a.Record then some (a.id, 1)
  else if b.Record then some (b.id, 0)
  else if initializeErased then some (0, 0)
  else none

section Advance

variable {σ : Type} (storage : BootStorage σ)

/-- The record is written and read back. -/
def commit (s : σ) (target : Fin 2) (out : BootSlot) : Bool × σ :=
  match storage.write s target out with
  | (false, s) => (false, s)
  | (true, s) =>
    match storage.read s target with
    | (none, s) => (false, s)
    | (some check, s) => (check = out, s)

def bootAdvance (initializeErased : Bool) (s : σ) : Option (BitVec 32) × σ :=
  match storage.read s 0 with
  | (none, s) => (none, s)
  | (some a, s) =>
    match storage.read s 1 with
    | (none, s) => (none, s)
    | (some b, s) =>
      match select initializeErased a b with
      | none => (none, s)
      | some (last, target) =>
        if last = 0xFFFFFFFF then (none, s)
        else match commit storage s target (build (last + 1)) with
          | (false, s) => (none, s)
          | (true, s) => (some (last + 1), s)

end Advance

/-! ## 2. A boot -/

/-- How the write of a slot ends.  A torn one leaves so many bytes of the record in front, and the
rest as it was, erased, or anything else. -/
inductive SlotWrite where
  | done
  | untouched
  | torn (count : Nat) (rest : BootSlot)

def SlotWrite.leaves (before out : BootSlot) : SlotWrite → BootSlot
  | .done => out
  | .untouched => before
  | .torn count rest => .ofFn fun i => if i < count then out[i] else rest[i]

/-- One boot: whether erased storage may be initialised, which of its reads succeed, how its write
ends, and what the write reports.  A boot that is cut short is one whose next call fails. -/
structure Boot where
  initializeErased : Bool
  reads : List Bool
  write : SlotWrite
  reported : Bool

/-- The flash during a boot. -/
structure BootFlash where
  slots : Fin 2 → BootSlot
  boot : Boot

namespace BootFlash

def read (f : BootFlash) (slot : Fin 2) : Option BootSlot × BootFlash :=
  (if f.boot.reads.headD true then some (f.slots slot) else none,
    { f with boot := { f.boot with reads := f.boot.reads.tail } })

def write (f : BootFlash) (slot : Fin 2) (out : BootSlot) : Bool × BootFlash :=
  (f.boot.reported,
    { f with slots := Function.update f.slots slot (f.boot.write.leaves (f.slots slot) out) })

def storage : BootStorage BootFlash := ⟨read, write⟩

end BootFlash

def bootResult (slots : Fin 2 → BootSlot) (boot : Boot) : Option (BitVec 32) × BootFlash :=
  bootAdvance BootFlash.storage boot.initializeErased ⟨slots, boot⟩

/-- What a boot leaves in the slots. -/
def bootStep (slots : Fin 2 → BootSlot) (boot : Boot) : Fin 2 → BootSlot :=
  (bootResult slots boot).2.slots

/-- The identity a boot hands out. -/
def bootId (slots : Fin 2 → BootSlot) (boot : Boot) : Option (BitVec 32) :=
  (bootResult slots boot).1

def erasedSlots : Fin 2 → BootSlot := fun _ => .replicate 16 0xFF

/-! ## 3. The newest record -/

/-- The identity of a record; zero stands for none. -/
def BootSlot.rank (slot : BootSlot) : Nat := if slot.Record then slot.id.toNat else 0

def newest (slots : Fin 2 → BootSlot) : Nat := max (slots 0).rank (slots 1).rank

theorem rank_of_record {slot : BootSlot} (h : slot.Record) : slot.rank = slot.id.toNat := if_pos h

theorem rank_of_not_record {slot : BootSlot} (h : ¬ slot.Record) : slot.rank = 0 := if_neg h

variable (slots : Fin 2 → BootSlot)

theorem rank_le_newest (slot : Fin 2) : (slots slot).rank ≤ newest slots := by
  match slot with
  | 0 => exact le_max_left _ _
  | 1 => exact le_max_right _ _

theorem id_build (id : BitVec 32) : (build id).id = id :=
  Stream.readU32Le_writeU32Le id (writeU32Le (~~~ id) ++ writeU32Le (crc32c (body id)))

theorem record_build {id : BitVec 32} (h : id ≠ 0) : (build id).Record := by
  have hbody : (build id).toList.take 12 = body id := List.take_left' rfl
  refine ⟨?_, ?_, ?_, ?_⟩
  · exact Stream.readU32Le_writeU32Le magic (writeU32Le id ++ writeU32Le (~~~ id) ++
      writeU32Le (crc32c (body id)))
  · rwa [id_build]
  · rw [id_build]
    exact Stream.readU32Le_writeU32Le (~~~ id) (writeU32Le (crc32c (body id)))
  · rw [hbody]
    exact Stream.readU32Le_writeU32Le (crc32c (body id)) []

theorem rank_build {id : BitVec 32} (h : id ≠ 0) : (build id).rank = id.toNat := by
  rw [rank_of_record (record_build h), id_build]

/-- **The newest record stands in the slot that is not written to.** -/
theorem select_spec {slots : Fin 2 → BootSlot} {initializeErased : Bool} {last : BitVec 32}
    {target : Fin 2} (h : select initializeErased (slots 0) (slots 1) = some (last, target)) :
    (slots (1 - target)).rank = last.toNat ∧ newest slots = last.toNat := by
  unfold select at h
  split at h
  next => cases h
  next =>
    split at h
    next hboth =>
      have h0 := rank_of_record hboth.1
      have h1 := rank_of_record hboth.2
      by_cases hlt : (slots 1).id < (slots 0).id
      · rw [if_pos hlt, if_pos hlt] at h
        split at h <;> cases h
        rw [BitVec.lt_def] at hlt
        exact ⟨h0, by rw [newest, h0, h1, max_eq_left hlt.le]⟩
      · rw [if_neg hlt, if_neg hlt] at h
        split at h <;> cases h
        rw [BitVec.lt_def, not_lt] at hlt
        exact ⟨h1, by rw [newest, h0, h1, max_eq_right hlt]⟩
    next hboth =>
      split at h
      next ha =>
        cases h
        have h0 := rank_of_record ha
        have h1 := rank_of_not_record fun hb => hboth ⟨ha, hb⟩
        exact ⟨h0, by rw [newest, h0, h1, Nat.max_zero]⟩
      next ha =>
        have h0 := rank_of_not_record ha
        split at h
        next hb =>
          cases h
          have h1 := rank_of_record hb
          exact ⟨h1, by rw [newest, h0, h1, Nat.zero_max]⟩
        next hb =>
          have h1 := rank_of_not_record hb
          split at h <;> cases h
          exact ⟨h1, by rw [newest, h0, h1]; rfl⟩

/-! ## 4. What a boot does -/

/-- A boot leaves the slots alone, or writes to the older one; what it hands out it has read back
from there. -/
inductive Boots (slots : Fin 2 → BootSlot) : Option (BitVec 32) → (Fin 2 → BootSlot) → Prop
  | refused : Boots slots none slots
  | failed {last : BitVec 32} {target : Fin 2} {left : BootSlot}
    (hother : (slots (1 - target)).rank = last.toNat) (hlast : newest slots = last.toNat) :
    Boots slots none (Function.update slots target left)
  | advanced {last : BitVec 32} {target : Fin 2} (hother : (slots (1 - target)).rank = last.toNat)
    (hlast : newest slots = last.toNat) (hroom : last ≠ 0xFFFFFFFF) :
    Boots slots (some (last + 1)) (Function.update slots target (build (last + 1)))

theorem boots (boot : Boot) : Boots slots (bootId slots boot) (bootStep slots boot) := by
  obtain ⟨initializeErased, reads, write, reported⟩ := boot
  simp only [bootId, bootStep, bootResult, bootAdvance, commit, BootFlash.storage, BootFlash.read,
    BootFlash.write]
  cases reads.headD true with
  | false =>
    rw [if_neg Bool.false_ne_true]
    exact .refused
  | true =>
    rw [if_pos rfl]
    dsimp only
    cases reads.tail.headD true with
    | false =>
      rw [if_neg Bool.false_ne_true]
      exact .refused
    | true =>
      rw [if_pos rfl]
      dsimp only
      generalize hselect : select initializeErased (slots 0) (slots 1) = selected
      cases selected with
      | none => exact .refused
      | some selected =>
        obtain ⟨last, target⟩ := selected
        obtain ⟨hother, hlast⟩ := select_spec hselect
        dsimp only
        by_cases hroom : last = 0xFFFFFFFF
        · rw [if_pos hroom]
          exact .refused
        rw [if_neg hroom]
        cases reported with
        | false => exact .failed hother hlast
        | true =>
          dsimp only
          cases reads.tail.tail.headD true with
          | false =>
            rw [if_neg Bool.false_ne_true]
            exact .failed hother hlast
          | true =>
            rw [if_pos rfl, Function.update_self]
            dsimp only
            by_cases hcheck : write.leaves (slots target) (build (last + 1)) = build (last + 1)
            · rw [hcheck, decide_eq_true rfl]
              exact .advanced hother hlast hroom
            · rw [decide_eq_false hcheck]
              exact .failed hother hlast

/-- However a slot is left, the newest record does not get older. -/
theorem newest_update {slots : Fin 2 → BootSlot} {target : Fin 2} {last : Nat} (left : BootSlot)
    (hother : (slots (1 - target)).rank = last) (hlast : newest slots = last) :
    newest slots ≤ newest (Function.update slots target left) := by
  have hne : 1 - target ≠ target := by
    match target with
    | 0 => decide
    | 1 => decide
  have hstands := rank_le_newest (Function.update slots target left) (1 - target)
  rwa [Function.update_of_ne hne, hother, ← hlast] at hstands

theorem toNat_succ {last : BitVec 32} (h : last ≠ 0xFFFFFFFF) :
    (last + 1).toNat = last.toNat + 1 ∧ last + 1 ≠ 0 := by
  have hlast := last.isLt
  constructor <;> bv_omega

/-! ## 5. Every sequence of boots -/

/-- The identities a sequence of boots hands out. -/
def handedOut (slots : Fin 2 → BootSlot) (sequence : List Boot) : List (BitVec 32) :=
  Ratchet.log bootStep bootId slots sequence

theorem boot_ratchet : Ratchet.Holds bootStep bootId newest BitVec.toNat where
  rises := by
    intro slots boot
    have hboots := boots slots boot
    generalize bootStep slots boot = slots' at hboots ⊢
    generalize bootId slots boot = handed at hboots
    cases hboots with
    | refused => exact le_rfl
    | failed hother hlast => exact newest_update _ hother hlast
    | advanced hother hlast => exact newest_update _ hother hlast
  above := by
    intro slots boot id hid
    have hboots := boots slots boot
    rw [hid] at hboots
    generalize bootStep slots boot = slots' at hboots
    cases hboots with
    | advanced hother hlast hroom =>
      rw [hlast, (toNat_succ hroom).1]
      exact Nat.lt_succ_self _
  reaches := by
    intro slots boot id hid
    have hboots := boots slots boot
    rw [hid] at hboots
    generalize bootStep slots boot = slots' at hboots ⊢
    cases hboots with
    | @advanced last target hother hlast hroom =>
      have hstands := rank_le_newest (Function.update slots target (build (last + 1))) target
      rwa [Function.update_self, rank_build (toNat_succ hroom).2] at hstands

/-- **Boot identities increase strictly**, whatever becomes of the reads and writes of each boot;
the storage may be erased at first, or hold anything else. -/
theorem boot_ids_increase (sequence : List Boot) :
    (handedOut slots sequence).Pairwise fun id id' => id.toNat < id'.toNat :=
  boot_ratchet.pairwise_log sequence slots

/-- A boot without a hitch. -/
def cleanBoot : Boot := ⟨true, [], .done, true⟩

/-- The third boot tears the second slot before anything of the record is in it. -/
example : handedOut erasedSlots [cleanBoot, cleanBoot, { cleanBoot with write := .torn 0 (erasedSlots 0) },
    cleanBoot] = [1, 2, 3] := by decide +kernel

end MobileBimanual.Mobile
