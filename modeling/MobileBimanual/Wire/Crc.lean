/-
# The frame check: CRC-32C in two languages

`crc32c.c` and `crc32c` of `wire.py`.  The C function works on `uint32_t`; the Python function
on unbounded integers, which it cuts to 32 bits by hand.  `Host.crc32c_eq` says that the cuts
stand where they have to.
-/
import MobileBimanual.Stream.Payload
import Mathlib.Logic.Function.Iterate

namespace MobileBimanual.Wire

open MobileBimanual.Stream (Byte)

/-! ## 1. The firmware -/

def crcBit (crc : BitVec 32) : BitVec 32 :=
  let mask := -(crc &&& 1)
  (crc >>> 1) ^^^ (0x82F63B78 &&& mask)

def crcByte (crc : BitVec 32) (byte : Byte) : BitVec 32 :=
  crcBit^[8] (crc ^^^ byte.setWidth 32)

def crc32c (data : List Byte) : BitVec 32 := ~~~ data.foldl crcByte 0xFFFFFFFF

/-! ## 2. The host -/

namespace Host

/-- `value & 0xFFFFFFFF`, of an integer of any sign and size. -/
def mask32 (value : Int) : Nat := (value % 2 ^ 32).toNat

def crcBit (crc : Nat) : Nat :=
  let mask := mask32 (-(crc &&& 1 : Nat))
  mask32 ((crc >>> 1) ^^^ (0x82F63B78 &&& mask) : Nat)

def crcByte (crc : Nat) (byte : Byte) : Nat := crcBit^[8] (crc ^^^ byte.toNat)

def crc32c (data : List Byte) : Nat := mask32 (~~~ (data.foldl crcByte 0xFFFFFFFF : Nat))

variable (word : BitVec 32)

theorem mask32_toNat : mask32 (word.toNat : Nat) = word.toNat := by
  have hword := word.isLt
  unfold mask32
  omega

theorem mask32_neg : mask32 (-(word.toNat : Int)) = (-word).toNat := by
  have hword := word.isLt
  rw [BitVec.toNat_neg]
  unfold mask32
  omega

theorem mask32_not : mask32 (~~~ (word.toNat : Int)) = (~~~ word).toNat := by
  have hword := word.isLt
  have hnot : ~~~ (word.toNat : Int) = -(word.toNat + 1 : Int) := Int.negSucc_eq word.toNat
  rw [BitVec.toNat_not, hnot]
  unfold mask32
  omega

theorem crcBit_eq (crc : BitVec 32) : crcBit crc.toNat = (Wire.crcBit crc).toNat := by
  unfold crcBit Wire.crcBit
  have hbit : crc.toNat &&& 1 = (crc &&& 1).toNat := by simp
  have hword : crc.toNat >>> 1 ^^^ (0x82F63B78 &&& (-(crc &&& 1)).toNat) =
      (crc >>> 1 ^^^ (0x82F63B78 &&& -(crc &&& 1))).toNat := by
    rw [BitVec.toNat_xor, BitVec.toNat_and, BitVec.toNat_ushiftRight]
    rfl
  simp only [hbit, mask32_neg, hword, mask32_toNat]

theorem crcByte_eq (crc : BitVec 32) (byte : Byte) :
    crcByte crc.toNat byte = (Wire.crcByte crc byte).toNat := by
  have hsemiconj : Function.Semiconj BitVec.toNat Wire.crcBit crcBit :=
    fun word => (crcBit_eq word).symm
  have hbyte : crc.toNat ^^^ byte.toNat = (crc ^^^ byte.setWidth 32).toNat := by
    rw [BitVec.toNat_xor, BitVec.toNat_setWidth_of_le (by decide)]
  rw [crcByte, Wire.crcByte, hbyte, hsemiconj.iterate_right 8]

/-- **One checksum.** -/
theorem crc32c_eq (data : List Byte) : crc32c data = (Wire.crc32c data).toNat := by
  have hfold : ∀ crc : BitVec 32,
      data.foldl crcByte crc.toNat = (data.foldl Wire.crcByte crc).toNat := by
    induction data with
    | nil => exact fun _ => rfl
    | cons byte data ih =>
      intro crc
      rw [List.foldl_cons, List.foldl_cons, crcByte_eq, ih]
  rw [crc32c, Wire.crc32c, ← mask32_not, ← hfold]
  rfl

end Host

end MobileBimanual.Wire
