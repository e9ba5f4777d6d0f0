import Mathlib.Algebra.Group.Int.Defs
import Mathlib.Algebra.GroupWithZero.Nat
import Mathlib.Logic.Basic

/-!
# Numbers in network byte order

The bytes of a number, the most significant one first, and the number that a byte
string spells.  The second part is about the shifts and masks with which programs
write these bytes out of a 32-bit integer.
-/

namespace LeoOne
namespace Foundation
namespace BigEndian

/-- The number that a byte string spells. -/
def value : List UInt8 -> Nat
  | [] => 0
  | b :: bs => b.toNat * 256 ^ bs.length + value bs

/-- The last `k` bytes of a number. -/
def bytes : Nat -> Nat -> List UInt8
  | 0, _ => []
  | k + 1, n => UInt8.ofNat (n / 256 ^ k) :: bytes k n

@[simp] theorem length_bytes (k n : Nat) : (bytes k n).length = k := by
  induction k with
  | zero => rfl
  | succ k ih =>
      rw [bytes, List.length_cons, ih]

theorem value_bytes (k n : Nat) : value (bytes k n) = n % 256 ^ k := by
  induction k with
  | zero =>
      rw [Nat.pow_zero, Nat.mod_one]
      rfl
  | succ k ih =>
      have hbyte : (UInt8.ofNat (n / 256 ^ k)).toNat = n / 256 ^ k % 256 := UInt8.toNat_ofNat'
      calc value (bytes (k + 1) n)
          = n / 256 ^ k % 256 * 256 ^ k + n % 256 ^ k := by
            rw [bytes, value, length_bytes, ih, hbyte]
        _ = n % 256 ^ k + 256 ^ k * (n / 256 ^ k % 256) := by
            rw [Nat.add_comm, Nat.mul_comm]
        _ = n % 256 ^ (k + 1) := Nat.mod_pow_succ.symm

theorem value_bytes_of_lt {k n : Nat} (h : n < 256 ^ k) : value (bytes k n) = n := by
  rw [value_bytes, Nat.mod_eq_of_lt h]

theorem value_pair (hi lo : UInt8) : value [hi, lo] = hi.toNat * 256 + lo.toNat := by
  simp only [value, List.length_singleton, List.length_nil, Nat.pow_one, Nat.pow_zero,
    Nat.mul_one, Nat.add_zero]

/-!
## Bytes cut out of an integer
-/

/-- `(n >> k) & 0xff`, with the shift of a signed integer. -/
def signedByte (n : BitVec 32) (k : Nat) : UInt8 :=
  UInt8.ofBitVec ((n.sshiftRight k &&& 0xff#32).setWidth 8)

/-- `(n >> k) & 0xff`, with the shift of an unsigned integer. -/
def unsignedByte (n : BitVec 32) (k : Nat) : UInt8 :=
  UInt8.ofBitVec ((n >>> k &&& 0xff#32).setWidth 8)

theorem unsignedByte_eq (n : BitVec 32) (k : Nat) :
    unsignedByte n k = UInt8.ofNat (n.toNat / 2 ^ k) := by
  have hmask : n.toNat / 2 ^ k &&& 255 = n.toNat / 2 ^ k % 2 ^ 8 :=
    Nat.and_two_pow_sub_one_eq_mod (n.toNat / 2 ^ k) 8
  apply UInt8.toNat_inj.mp
  rw [unsignedByte, UInt8.toNat_ofBitVec, BitVec.toNat_setWidth, BitVec.toNat_and,
    BitVec.toNat_ushiftRight, Nat.shiftRight_eq_div_pow, UInt8.toNat_ofNat']
  show (n.toNat / 2 ^ k &&& 255) % 2 ^ 8 = n.toNat / 2 ^ k % 2 ^ 8
  rw [hmask, Nat.mod_mod]

/-- The two shifts agree on the bytes of the integer. -/
theorem signedByte_eq (n : BitVec 32) {k : Nat} (hk : k + 8 ≤ 32) :
    signedByte n k = UInt8.ofNat (n.toNat / 2 ^ k) := by
  have hbits : (n.sshiftRight k &&& 0xff#32).setWidth 8 = (n >>> k &&& 0xff#32).setWidth 8 := by
    apply BitVec.eq_of_getLsbD_eq
    intro i hi
    have hinside : k + i < 32 := by omega
    simp only [BitVec.getLsbD_setWidth, BitVec.getLsbD_and, BitVec.getLsbD_sshiftRight,
      BitVec.getLsbD_ushiftRight, hinside, if_true]
    have hwidth : ¬ 32 ≤ i := by omega
    simp [hwidth]
  rw [← unsignedByte_eq, signedByte, unsignedByte, hbits]

theorem bytes_two (n : BitVec 32) : [signedByte n 8, signedByte n 0] = bytes 2 n.toNat := by
  rw [signedByte_eq n (by decide), signedByte_eq n (by decide)]
  rfl

theorem bytes_four (n : BitVec 32) :
    [unsignedByte n 24, unsignedByte n 16, unsignedByte n 8, unsignedByte n 0] =
      bytes 4 n.toNat := by
  simp only [unsignedByte_eq]
  rfl

/-- A 16-bit two's complement reading of the two bytes gives a small integer back. -/
theorem toInt_bytes_two {n : Int} (hlow : -32768 ≤ n) (hhigh : n < 32768) :
    (BitVec.ofNat 16 (value (bytes 2 (BitVec.ofInt 32 n).toNat))).toInt = n := by
  have hword : (BitVec.ofInt 32 n).toNat = (n % 2 ^ 32).toNat := BitVec.toNat_ofInt n
  have hsize : 256 ^ 2 = 2 ^ 16 := rfl
  have hspelled : value (bytes 2 (BitVec.ofInt 32 n).toNat) = (n % 2 ^ 32).toNat % 2 ^ 16 := by
    rw [value_bytes, hword, hsize]
  rw [hspelled, BitVec.toInt_ofNat', Int.bmod_def]
  omega

end BigEndian
end Foundation
end LeoOne
