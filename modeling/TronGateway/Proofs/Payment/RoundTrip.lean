import TronGateway.Ingest
import TronGateway.Proofs.Number.Amount
set_option autoImplicit false

/-!
# Amounts that come in and go out again

An amount at another precision is its exact worth there, rounded down and cut off at the largest
amount. So on the way there and back nothing is gained, and nothing is lost exactly when the worth
is a whole number that has a place.
-/

namespace TronGateway

namespace Amount

variable {amount more : Amount} {source target : UInt32}

theorem scale?_eq_some_iff {distance scale : Nat} :
    scale? distance = some scale ↔ scale = 10 ^ distance ∧ scale < 2 ^ 128 := by
  unfold scale?
  by_cases near : distance ≤ maxDecimals
  · rw [if_pos near]
    have most : 10 ^ distance ≤ 10 ^ 38 := Nat.pow_le_pow_right (by decide) near
    constructor
    · intro same
      obtain rfl := Option.some.inj same
      exact ⟨rfl, Nat.lt_of_le_of_lt most (by decide)⟩
    · rintro ⟨rfl, -⟩
      rfl
  · rw [if_neg near]
    have wide := lt_pow_of_far (Nat.lt_of_not_le near)
    constructor
    · intro same
      cases same
    · rintro ⟨rfl, small⟩
      exact absurd small (Nat.not_lt_of_le wide)

theorem units_rescale_mono (less : amount.units ≤ more.units) (source target : UInt32) :
    (amount.rescale source target).units ≤ (more.rescale source target).units := by
  rw [units_rescale, units_rescale]
  have worth : amount.units * 10 ^ target.toNat / 10 ^ source.toNat ≤
      more.units * 10 ^ target.toNat / 10 ^ source.toNat :=
    Nat.div_le_div_right (Nat.mul_le_mul_right _ less)
  omega

/-- What an amount is worth at another precision is whole, and is an amount. -/
structure IsExact (amount : Amount) (source target : UInt32) : Prop where
  whole : 10 ^ source.toNat ∣ amount.units * 10 ^ target.toNat
  fits : amount.units * 10 ^ target.toNat / 10 ^ source.toNat < 2 ^ 128

theorem rescale_worth_le (amount : Amount) (source target : UInt32) :
    (amount.rescale source target).units * 10 ^ source.toNat ≤
      amount.units * 10 ^ target.toNat := by
  rw [units_rescale]
  calc
    min (amount.units * 10 ^ target.toNat / 10 ^ source.toNat) (2 ^ 128 - 1) * 10 ^ source.toNat
      ≤ amount.units * 10 ^ target.toNat / 10 ^ source.toNat * 10 ^ source.toNat :=
        Nat.mul_le_mul_right _ (Nat.min_le_left _ _)
    _ ≤ amount.units * 10 ^ target.toNat := Nat.div_mul_le_self _ _

theorem rescale_worth_eq_iff :
    (amount.rescale source target).units * 10 ^ source.toNat =
      amount.units * 10 ^ target.toNat ↔ IsExact amount source target := by
  have positive : 0 < 10 ^ source.toNat := Nat.pow_pos (by decide)
  constructor
  · intro same
    have quotient : amount.units * 10 ^ target.toNat / 10 ^ source.toNat =
        (amount.rescale source target).units := by
      rw [← same, Nat.mul_div_cancel _ positive]
    refine ⟨⟨_, (Nat.mul_comm _ _).trans same |>.symm⟩, ?_⟩
    rw [quotient]
    exact (amount.rescale source target).bounded
  · intro exact
    have kept : (amount.rescale source target).units =
        amount.units * 10 ^ target.toNat / 10 ^ source.toNat := by
      rw [units_rescale]
      exact Nat.min_eq_left (Nat.le_pred_of_lt exact.fits)
    rw [kept, Nat.div_mul_cancel exact.whole]

theorem rescale_worth_back_le (amount : Amount) (source target : UInt32) :
    (amount.rescale source target).units * 10 ^ source.toNat / 10 ^ target.toNat ≤
      amount.units := by
  have positive : 0 < 10 ^ target.toNat := Nat.pow_pos (by decide)
  have back := Nat.div_le_div_right (c := 10 ^ target.toNat)
    (rescale_worth_le amount source target)
  rwa [Nat.mul_div_cancel _ positive] at back

theorem units_rescale_back (amount : Amount) (source target : UInt32) :
    ((amount.rescale source target).rescale target source).units =
      (amount.rescale source target).units * 10 ^ source.toNat / 10 ^ target.toNat := by
  have back := rescale_worth_back_le amount source target
  have small := amount.units_le
  rw [units_rescale (amount.rescale source target)]
  exact Nat.min_eq_left (Nat.le_trans back small)

theorem rescale_back_le (amount : Amount) (source target : UInt32) :
    ((amount.rescale source target).rescale target source).units ≤ amount.units := by
  rw [units_rescale_back]
  exact rescale_worth_back_le amount source target

theorem rescale_back_eq_iff :
    (amount.rescale source target).rescale target source = amount ↔
      IsExact amount source target := by
  have positive : 0 < 10 ^ target.toNat := Nat.pow_pos (by decide)
  rw [← rescale_worth_eq_iff]
  constructor
  · intro same
    have units := congrArg Amount.units same
    rw [units_rescale_back] at units
    -- The worth on the way back would be rounded down below the amount if it were any less.
    have least := Nat.div_mul_le_self
      ((amount.rescale source target).units * 10 ^ source.toNat) (10 ^ target.toNat)
    rw [units] at least
    exact Nat.le_antisymm (rescale_worth_le amount source target) least
  · intro worth
    apply eq_of_units
    rw [units_rescale_back, worth, Nat.mul_div_cancel _ positive]

/-- Rescaling is exact but for rounding down and for the largest amount, whatever the precisions:
the machine subtracts the smaller from the larger precision, knows each power of ten that has a
place and divides by nothing else. It keeps the order of amounts. There and back it never gains, and
loses nothing exactly when the worth was whole and an amount; nor does what came in gain when it is
paid out, or what was paid out when it comes in. -/
theorem rescale_never_mints (amount : Amount) (source target : UInt32) :
    (amount.rescale source target).units =
      min (amount.units * 10 ^ target.toNat / 10 ^ source.toNat) (2 ^ 128 - 1) ∧
    (∀ low high : UInt32, low < high → (high - low).toNat = high.toNat - low.toNat) ∧
    (∀ distance scale, scale? distance = some scale ↔ scale = 10 ^ distance ∧ scale < 2 ^ 128) ∧
    (∀ more : Amount, amount.units ≤ more.units →
      (amount.rescale source target).units ≤ (more.rescale source target).units) ∧
    ((amount.rescale source target).rescale target source).units ≤ amount.units ∧
    ((amount.rescale source target).rescale target source = amount ↔
      IsExact amount source target) ∧
    (∀ token : Token,
      ((Ingest.tokenCoin token amount).amount.rescale protocolDecimals token.decimals).units ≤
        amount.units ∧
      (Ingest.tokenCoin token (amount.rescale protocolDecimals token.decimals)).amount.units ≤
        amount.units) ∧
    amount.ofSun.toSun.units ≤ amount.units ∧ amount.toSun.ofSun.units ≤ amount.units :=
  ⟨units_rescale amount source target,
    fun low high less => UInt32.toNat_sub_of_le high low (UInt32.le_of_lt less),
    fun _ _ => scale?_eq_some_iff,
    fun _ less => units_rescale_mono less source target, rescale_back_le amount source target,
    rescale_back_eq_iff,
    fun token => ⟨rescale_back_le amount token.decimals protocolDecimals,
      rescale_back_le amount protocolDecimals token.decimals⟩,
    rescale_back_le amount trxDecimals protocolDecimals,
    rescale_back_le amount protocolDecimals trxDecimals⟩

def dust : Amount := ⟨199, by decide⟩

theorem rescale_never_mints_dust :
    (dust.rescale 8 6).units = 1 ∧ ((8 : UInt32) - 6).toNat = 2 ∧
      (dust.rescale 8 6).units ≤ (rescale ⟨200, by decide⟩ 8 6).units ∧
      (dust.rescale 8 6).rescale 6 8 ≠ dust ∧ (dust.rescale 8 50).rescale 50 8 ≠ dust ∧
      (dust.rescale 8 12).rescale 12 8 = dust := by
  obtain ⟨units, subtracted, -, ordered, -, lost, -⟩ := rescale_never_mints dust 8 6
  obtain ⟨-, -, -, -, -, cutOff, -⟩ := rescale_never_mints dust 8 50
  obtain ⟨-, -, -, -, -, kept, -⟩ := rescale_never_mints dust 8 12
  refine ⟨units, subtracted 6 8 (by decide), ordered ⟨200, by decide⟩ (by decide), fun same => ?_,
    fun same => ?_, kept.mpr ⟨by decide, by decide⟩⟩
  · exact absurd (lost.mp same).whole (by decide)
  · exact absurd (cutOff.mp same).fits (by decide)

end Amount
end TronGateway
