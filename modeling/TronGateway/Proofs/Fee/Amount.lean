import TronGateway.Fee
import TronGateway.Proofs.Number.Stages
set_option autoImplicit false

/-!
# The amount of a fee

The energy, the fee and its rate are exact, or they overflow at the first partial result that the
machine has no place for.
-/

namespace TronGateway.Fee

open Checked (Stage Settles)

def highest (estimates : List Int64) : Int :=
  (estimates.map Int64.toInt).max?.getD 0

/-- The fee in sun over the integers. -/
def exactFee (parameters : ChainParameters) (hasTokens : Bool) (energy : Int) : Int :=
  if hasTokens then
    345 * parameters.bandwidthFee.toInt + energy * parameters.energyFee.toInt +
      parameters.memoFee.toInt + 1100000
  else 284 * parameters.bandwidthFee.toInt + parameters.memoFee.toInt + 1100000

/-- The partial results of a fee, in the order in which they are worked out. -/
def feeStages (parameters : ChainParameters) : Bool → Int → List Stage
  | false, _ =>
    let base := 284 * parameters.bandwidthFee.toInt
    let withMemo := base + parameters.memoFee.toInt
    [.ofSigned .multiply base, .ofSigned .add withMemo, .ofSigned .add (withMemo + 1100000)]
  | true, energy =>
    let base := 345 * parameters.bandwidthFee.toInt
    let spent := energy * parameters.energyFee.toInt
    let withMemo := base + spent + parameters.memoFee.toInt
    [.ofSigned .multiply base, .ofSigned .multiply spent, .ofSigned .add (base + spent),
      .ofSigned .add withMemo, .ofSigned .add (withMemo + 1100000)]

theorem toInt_max? (estimates : List Int64) :
    (estimates.max?.getD 0).toInt = highest estimates := by
  unfold highest
  cases most : estimates.max? with
  | none =>
      rw [List.max?_eq_none_iff.mp most]
      rfl
  | some largest =>
      obtain ⟨estimated, bounds⟩ := List.max?_eq_some_iff.mp most
      have mapped : (estimates.map Int64.toInt).max? = some largest.toInt := by
        refine List.max?_eq_some_iff.mpr ⟨List.mem_map_of_mem estimated, ?_⟩
        intro other member
        obtain ⟨energy, among, rfl⟩ := List.mem_map.mp member
        exact Int64.le_iff_toInt_le.mp (bounds energy among)
      rw [mapped]
      rfl

theorem settles_maxEnergy (estimates : List Int64) :
    Settles [.ofSigned .multiply (highest estimates * 2)]
      (fun energy : Int64 => energy.toInt = highest estimates * 2) (maxEnergy estimates) :=
  Checked.settles_mul _ 2 (toInt_max? estimates) rfl

theorem settles_compute (parameters : ChainParameters) (hasTokens : Bool) {energy : Int64}
    {exact : Int} (isExact : energy.toInt = exact) :
    Settles (feeStages parameters hasTokens exact)
      (fun fee : Int64 => fee.toInt = exactFee parameters hasTokens exact)
      (compute parameters hasTokens energy) := by
  cases hasTokens with
  | false =>
      refine (Checked.settles_mul 284 _ rfl rfl).bind fun base isBase => ?_
      refine (Checked.settles_add _ _ isBase rfl).bind fun withMemo isMemo => ?_
      exact Checked.settles_add _ 1100000 isMemo rfl
  | true =>
      refine (Checked.settles_mul 345 _ rfl rfl).bind fun base isBase => ?_
      refine (Checked.settles_mul _ _ isExact rfl).bind fun spent isSpent => ?_
      refine (Checked.settles_add _ _ isBase isSpent).bind fun withEnergy isEnergy => ?_
      refine (Checked.settles_add _ _ isEnergy rfl).bind fun withMemo isMemo => ?_
      exact Checked.settles_add _ 1100000 isMemo rfl

theorem settles_message (height : Int64) (sun : UInt64) (exact : Int)
    (isExact : (sun.toNat : Int) = exact) :
    Settles [.ofUnsigned .multiply (exact * 100)]
      (fun fee => ∃ rate : UInt64, (rate.toNat : Int) = exact * 100 ∧
        fee = (⟨"TRON", height, 1, rate⟩ : NetworkFee))
      (message height sun) :=
  (Checked.settles_mulUnsigned exact 100 isExact rfl).map fun rate isRate =>
    ⟨rate, isRate, rfl⟩

end TronGateway.Fee
