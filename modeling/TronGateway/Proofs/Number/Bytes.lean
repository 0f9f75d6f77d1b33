import TronGateway.Number.BigEndian
import Mathlib.Algebra.Group.Nat.Defs
import Mathlib.Data.List.Induction
set_option autoImplicit false

/-!
# Numbers below 256 and bytes

A byte made of a small number compares as the number does. The big-endian bytes of a number stand
for it up to the bytes that were cut off, and bytes are those of the number that they stand for.
-/

namespace TronGateway

theorem toNat_byte {n : Nat} (small : n < 256) : (UInt8.ofNat n).toNat = n :=
  UInt8.toNat_ofNat_of_lt' small

theorem byte_lt_iff {n : Nat} (small : n < 256) (bound : UInt8) :
    UInt8.ofNat n < bound ↔ n < bound.toNat := by
  rw [UInt8.lt_iff_toNat_lt, toNat_byte small]

theorem byte_eq_iff {n : Nat} (small : n < 256) (value : UInt8) :
    UInt8.ofNat n = value ↔ n = value.toNat := by
  rw [← UInt8.toNat_inj, toNat_byte small]

theorem byte_between_iff {n : Nat} (small : n < 256) (low high : UInt8) :
    (decide (low ≤ UInt8.ofNat n) && decide (UInt8.ofNat n ≤ high)) = true ↔
      low.toNat ≤ n ∧ n ≤ high.toNat := by
  rw [Bool.and_eq_true, decide_eq_true_eq, decide_eq_true_eq, UInt8.le_iff_toNat_le,
    UInt8.le_iff_toNat_le, toNat_byte small]

namespace BigEndian

theorem toNat_append_singleton (bytes : List UInt8) (byte : UInt8) :
    toNat (bytes ++ [byte]) = toNat bytes * 256 + byte.toNat := by
  simp only [toNat, List.foldl_append, List.foldl_cons, List.foldl_nil]

theorem toNat_ofNat (count value : Nat) : toNat (ofNat count value) = value % 256 ^ count := by
  induction count generalizing value with
  | zero =>
      rw [Nat.pow_zero, Nat.mod_one]
      rfl
  | succ count ih =>
      rw [ofNat, toNat_append_singleton, ih, toNat_byte (by omega), Nat.pow_succ', Nat.mod_mul]
      omega

theorem ofNat_toNat (bytes : List UInt8) : ofNat bytes.length (toNat bytes) = bytes := by
  induction bytes using List.reverseRecOn with
  | nil => rfl
  | append_singleton front byte ih =>
      have small := byte.toNat_lt
      rw [List.length_append, List.length_singleton, ofNat, toNat_append_singleton,
        show (toNat front * 256 + byte.toNat) / 256 = toNat front by omega,
        show (toNat front * 256 + byte.toNat) % 256 = byte.toNat by omega, ih,
        UInt8.ofNat_toNat]

end BigEndian
end TronGateway
