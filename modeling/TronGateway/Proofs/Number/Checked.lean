import TronGateway.Number.Checked
import Mathlib.Algebra.Group.Int.Defs
import Mathlib.Algebra.Group.Nat.Defs
set_option autoImplicit false

/-!
# Checked results are exact

A sum or difference that does not overflow is that of the integers, and it overflows exactly when
that one has more than 64 bits. The order and the remainder of numbers with 64 bits are
those of the integers too.
-/

namespace TronGateway

theorem fitsInt64_iff {n : Int} : fitsInt64 n = true ↔ -2 ^ 63 ≤ n ∧ n < 2 ^ 63 := by
  unfold fitsInt64
  rw [Bool.and_eq_true, decide_eq_true_eq, decide_eq_true_eq]
  omega

theorem toInt_toInt64 {n : UInt64} (small : n.toNat < 2 ^ 63) : n.toInt64.toInt = n.toNat := by
  have half : 2 * n.toInt64.toBitVec.toNat < 2 ^ 64 := by
    change 2 * n.toNat < 2 ^ 64
    omega
  exact BitVec.toInt_eq_toNat_of_lt half

theorem toUInt64?_eq_some_iff {n : Nat} {value : UInt64} :
    toUInt64? n = some value ↔ n = value.toNat := by
  unfold toUInt64?
  constructor
  · intro made
    split at made
    · next small =>
        cases made
        exact (UInt64.toNat_ofNat_of_lt' small).symm
    · cases made
  · rintro rfl
    rw [if_pos value.toNat_lt, UInt64.ofNat_toNat]

namespace Checked

theorem toInt_of_signed {operation : Overflow} {n : Int} {value : Int64}
    (exact : signed operation n = .ok value) : value.toInt = n := by
  unfold signed toInt64? at exact
  by_cases fits : fitsInt64 n
  · obtain ⟨low, high⟩ := fitsInt64_iff.mp fits
    rw [if_pos fits] at exact
    cases exact
    exact Int64.toInt_ofInt_of_le low high
  · rw [if_neg fits] at exact
    cases exact

theorem signed_of_fits {operation : Overflow} {n : Int} (low : -2 ^ 63 ≤ n) (high : n < 2 ^ 63) :
    signed operation n = .ok (Int64.ofInt n) := by
  unfold signed toInt64?
  rw [if_pos (fitsInt64_iff.mpr ⟨low, high⟩)]

theorem signed_of_large {operation : Overflow} {n : Int} (large : 2 ^ 63 ≤ n) :
    signed operation n = .error operation := by
  have outside : ¬ fitsInt64 n = true := by
    rw [fitsInt64_iff]
    omega
  unfold signed toInt64?
  rw [if_neg outside]

theorem signed_eq_error_iff {operation overflow : Overflow} {n : Int} :
    signed operation n = .error overflow ↔ fitsInt64 n = false ∧ overflow = operation := by
  unfold signed toInt64?
  cases fitsInt64 n with
  | true => simp
  | false => simp [eq_comm]

theorem toInt_of_add {left right sum : Int64} (exact : add left right = .ok sum) :
    sum.toInt = left.toInt + right.toInt :=
  toInt_of_signed exact

theorem toInt_of_sub {left right difference : Int64} (exact : sub left right = .ok difference) :
    difference.toInt = left.toInt - right.toInt :=
  toInt_of_signed exact

end Checked

instance lawfulOrderMaxInt64 : Std.LawfulOrderMax Int64 where
  max_eq_or left right := by
    change (if left ≤ right then right else left) = left ∨ _ = right
    by_cases less : left ≤ right
    · exact .inr (if_pos less)
    · exact .inl (if_neg less)
  max_le_iff left right bound := by
    change (if left ≤ right then right else left) ≤ bound ↔ _
    simp only [Int64.le_iff_toInt_le]
    split
    · omega
    · omega

/-- No multiple is missed among the negative numbers, where remainders are negative too. -/
theorem mod_eq_zero_iff_dvd {height interval : Int64} :
    height % interval = 0 ↔ interval.toInt ∣ height.toInt := by
  rw [← Int64.toInt_inj, Int64.toInt_mod, Int.dvd_iff_tmod_eq_zero]
  exact Iff.rfl

end TronGateway
