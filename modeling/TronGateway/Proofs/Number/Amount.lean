import Mathlib.Algebra.Group.Nat.Defs
import TronGateway.Number.Amount
import TronGateway.Proofs.Number.Decimal
set_option autoImplicit false

/-!
# Amounts and what rescaling does to them

An amount is its number of units, and is read back from its text. At another precision it is the
quotient over the numbers without bounds, rounded down, or the largest amount where that one is
beyond it.
-/

namespace TronGateway.Amount

theorem eq_of_units {first second : Amount} (same : first.units = second.units) :
    first = second := by
  cases first
  cases second
  cases same
  rfl

theorem ofText?_toText (amount : Amount) : ofText? amount.toText = some amount := by
  have below := amount.bounded
  unfold ofText? toText Decimal.ofNat
  rw [String.toList_ofList, Decimal.readNat_natChars (by omega)]
  exact dif_pos amount.bounded

theorem units_saturate (n : Nat) : (saturate n).units = min n (2 ^ 128 - 1) := by
  unfold saturate
  by_cases bounded : n < 0x100000000000000000000000000000000
  · rw [dif_pos bounded]
    change n = _
    omega
  · rw [dif_neg bounded]
    change 0x100000000000000000000000000000000 - 1 = _
    omega

theorem units_le (amount : Amount) : amount.units ≤ 2 ^ 128 - 1 :=
  Nat.le_pred_of_lt amount.bounded

theorem lt_pow_of_far {distance : Nat} (far : maxDecimals < distance) :
    2 ^ 128 ≤ 10 ^ distance :=
  calc
    2 ^ 128 ≤ 10 ^ 39 := by decide
    _ ≤ 10 ^ distance := Nat.pow_le_pow_right (by decide) far

theorem units_rescale_up (amount : Amount) (source : UInt32) {target : UInt32}
    (up : source.toNat < target.toNat) :
    (amount.rescale source target).units =
      min (amount.units * 10 ^ (target.toNat - source.toNat)) (2 ^ 128 - 1) := by
  have different : source ≠ target := by
    rintro rfl
    omega
  unfold rescale scale?
  rw [if_neg different, if_pos (UInt32.lt_iff_toNat_lt.mpr up)]
  by_cases near : target.toNat - source.toNat ≤ maxDecimals
  · rw [if_pos near]
    exact units_saturate _
  · rw [if_neg near]
    dsimp only
    by_cases nothing : amount.units = 0
    · rw [if_pos nothing, nothing]
      simp [zero]
    · rw [if_neg nothing]
      change 0x100000000000000000000000000000000 - 1 = _
      have wide : 2 ^ 128 ≤ amount.units * 10 ^ (target.toNat - source.toNat) :=
        Nat.le_trans (lt_pow_of_far (Nat.lt_of_not_le near))
          (Nat.le_mul_of_pos_left _ (Nat.pos_of_ne_zero nothing))
      omega

theorem units_rescale_down (amount : Amount) {source target : UInt32}
    (down : target.toNat < source.toNat) :
    (amount.rescale source target).units =
      amount.units / 10 ^ (source.toNat - target.toNat) := by
  have different : source ≠ target := by
    rintro rfl
    omega
  have notUp : ¬ source < target := by
    intro up
    have wrong := UInt32.lt_iff_toNat_lt.mp up
    omega
  unfold rescale scale?
  rw [if_neg different, if_neg notUp]
  by_cases near : source.toNat - target.toNat ≤ maxDecimals
  · rw [if_pos near]
    rfl
  · rw [if_neg near]
    change 0 = _
    have wide := lt_pow_of_far (Nat.lt_of_not_le near)
    have small := amount.units_le
    rw [Nat.div_eq_of_lt (by omega)]

/-- Rescaling rounds down, and goes no further than the largest amount. -/
theorem units_rescale (amount : Amount) (source target : UInt32) :
    (amount.rescale source target).units =
      min (amount.units * 10 ^ target.toNat / 10 ^ source.toNat) (2 ^ 128 - 1) := by
  have small := amount.units_le
  have positive (places : Nat) : 0 < 10 ^ places := Nat.pow_pos (by decide)
  rcases Nat.lt_trichotomy source.toNat target.toNat with up | same | down
  · rw [units_rescale_up amount source up]
    have split : 10 ^ target.toNat = 10 ^ (target.toNat - source.toNat) * 10 ^ source.toNat := by
      rw [← Nat.pow_add]
      congr 1
      omega
    rw [split, ← Nat.mul_assoc, Nat.mul_div_cancel _ (positive _)]
  · have equal : source = target := UInt32.toNat_inj.mp same
    subst equal
    rw [Nat.mul_div_cancel _ (positive _)]
    unfold rescale
    rw [if_pos rfl]
    omega
  · rw [units_rescale_down amount down]
    have split : 10 ^ source.toNat = 10 ^ target.toNat * 10 ^ (source.toNat - target.toNat) := by
      rw [← Nat.pow_add]
      congr 1
      omega
    rw [split, ← Nat.div_div_eq_div_mul, Nat.mul_div_cancel _ (positive _)]
    have less := Nat.div_le_self amount.units (10 ^ (source.toNat - target.toNat))
    omega

theorem units_ofSun_ofUInt64 (sun : UInt64) : (ofSun (ofUInt64 sun)).units = sun.toNat * 100 := by
  have small := sun.toNat_lt
  unfold ofSun
  rw [units_rescale_up _ _ (by decide)]
  change min (sun.toNat * 10 ^ 2) _ = _
  omega

end TronGateway.Amount
