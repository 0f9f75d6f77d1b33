import Mathlib.Data.List.Basic
import TronGateway.Coin
import TronGateway.Proofs.Number.Amount
set_option autoImplicit false

/-!
# Totals of coins

The total of an asset is the sum of its coins over the numbers without bounds, or no total at all
where that sum is no amount. Neither the order of the coins nor how an amount is divided among them
matters.
-/

namespace TronGateway.Coin

/-- The units of an asset in a list of coins, over the numbers without bounds. -/
def unitsOf : List Coin → Asset → Nat
  | [], _ => 0
  | coin :: rest, asset =>
    (if coin.asset = asset then coin.amount.units else 0) + unitsOf rest asset

/-- No asset has more units in the list than an amount holds. -/
def IsBounded (coins : List Coin) : Prop :=
  ∀ asset, unitsOf coins asset < 2 ^ 128

/-- Some coin of the list is one of the asset. -/
def Includes (coins : List Coin) (asset : Asset) : Prop :=
  ∃ coin ∈ coins, coin.asset = asset

variable {coins others : List Coin} {asset : Asset}

theorem unitsOf_append (coins others : List Coin) (asset : Asset) :
    unitsOf (coins ++ others) asset = unitsOf coins asset + unitsOf others asset := by
  induction coins with
  | nil => exact (Nat.zero_add _).symm
  | cons coin rest ih => rw [List.cons_append, unitsOf, unitsOf, ih, Nat.add_assoc]

theorem unitsOf_perm (same : coins.Perm others) (asset : Asset) :
    unitsOf coins asset = unitsOf others asset := by
  induction same with
  | nil => rfl
  | cons coin _ ih => rw [unitsOf, unitsOf, ih]
  | swap coin other rest =>
      rw [unitsOf, unitsOf, unitsOf, unitsOf]
      exact Nat.add_left_comm _ _ _
  | trans _ _ first second => exact first.trans second

theorem unitsOf_of_absent (absent : ¬ Includes coins asset) : unitsOf coins asset = 0 := by
  induction coins with
  | nil => rfl
  | cons coin rest ih =>
      have other : coin.asset ≠ asset := fun same => absent ⟨coin, List.mem_cons_self, same⟩
      have behind : ¬ Includes rest asset := by
        rintro ⟨found, member, same⟩
        exact absent ⟨found, List.mem_cons_of_mem _ member, same⟩
      rw [unitsOf, if_neg other, ih behind]

theorem unitsOf_le {bound : Nat} (each : ∀ coin ∈ coins, coin.amount.units ≤ bound)
    (asset : Asset) : unitsOf coins asset ≤ coins.length * bound := by
  induction coins with
  | nil => exact Nat.zero_le _
  | cons coin rest ih =>
      have behind := ih fun other member => each other (List.mem_cons_of_mem _ member)
      have small := each coin List.mem_cons_self
      rw [unitsOf, List.length_cons, Nat.succ_mul]
      by_cases same : coin.asset = asset
      · rw [if_pos same]
        omega
      · rw [if_neg same]
        omega

theorem isBounded_of_le (bound : Nat) (each : ∀ coin ∈ coins, coin.amount.units ≤ bound)
    (few : coins.length * bound < 2 ^ 128) : IsBounded coins :=
  fun asset => Nat.lt_of_le_of_lt (unitsOf_le each asset) few

theorem totalFrom_eq_ok_iff {total amount : Amount} :
    totalFrom asset total coins = .ok amount ↔
      amount.units = total.units + unitsOf coins asset := by
  induction coins generalizing total with
  | nil =>
      change Except.ok total = Except.ok amount ↔ amount.units = total.units + 0
      constructor
      · intro same
        cases same
        rfl
      · intro same
        rw [Amount.eq_of_units same]
  | cons coin rest ih =>
      rw [totalFrom, unitsOf]
      by_cases same : coin.asset = asset
      · rw [if_pos same, if_pos same]
        unfold Amount.checkedAdd
        dsimp only
        by_cases bounded : total.units + coin.amount.units < 0x100000000000000000000000000000000
        · rw [dif_pos bounded]
          dsimp only
          rw [ih]
          dsimp only
          omega
        · have beyond := amount.bounded
          rw [dif_neg bounded]
          constructor
          · intro failed
            cases failed
          · intro sum
            omega
      · rw [if_neg same, if_neg same, ih, Nat.zero_add]

theorem total_eq_ok_iff {amount : Amount} :
    total coins asset = .ok amount ↔ amount.units = unitsOf coins asset := by
  unfold total
  rw [totalFrom_eq_ok_iff]
  change amount.units = 0 + _ ↔ _
  rw [Nat.zero_add]

theorem exists_total (bounded : unitsOf coins asset < 2 ^ 128) :
    ∃ amount, total coins asset = .ok amount ∧ amount.units = unitsOf coins asset := by
  have sum := (Amount.units_saturate (unitsOf coins asset)).trans
    (Nat.min_eq_left (Nat.le_pred_of_lt bounded))
  exact ⟨_, total_eq_ok_iff.mpr sum, sum⟩

theorem total_of_absent (absent : ¬ Includes coins asset) :
    total coins asset = .ok Amount.zero :=
  total_eq_ok_iff.mpr (unitsOf_of_absent absent).symm

theorem total_of_mem {coin : Coin} (distinct : (coins.map Coin.asset).Nodup)
    (member : coin ∈ coins) : total coins coin.asset = .ok coin.amount := by
  refine total_eq_ok_iff.mpr ?_
  induction coins with
  | nil => cases member
  | cons first rest ih =>
      rw [List.map_cons, List.nodup_cons] at distinct
      rw [unitsOf]
      rcases List.mem_cons.mp member with rfl | later
      · have absent : ¬ Includes rest coin.asset := mt List.mem_map.mpr distinct.1
        rw [if_pos rfl, unitsOf_of_absent absent, Nat.add_zero]
      · have other : first.asset ≠ coin.asset := by
          intro same
          exact distinct.1 (same ▸ List.mem_map_of_mem later)
        rw [if_neg other, Nat.zero_add]
        exact ih distinct.2 later

/-- The coins in another order, with coins of one asset divided or put together. -/
inductive Regrouped : List Coin → List Coin → Prop where
  | perm {coins others : List Coin} (same : coins.Perm others) : Regrouped coins others
  | split (coin first second : Coin) (rest : List Coin) (firstAsset : first.asset = coin.asset)
      (secondAsset : second.asset = coin.asset)
      (sum : first.amount.units + second.amount.units = coin.amount.units) :
      Regrouped (coin :: rest) (first :: second :: rest)
  | symm {coins others : List Coin} (grouped : Regrouped coins others) : Regrouped others coins
  | trans {coins between others : List Coin} (first : Regrouped coins between)
      (second : Regrouped between others) : Regrouped coins others

theorem Regrouped.unitsOf_eq (grouped : Regrouped coins others) (asset : Asset) :
    unitsOf coins asset = unitsOf others asset := by
  induction grouped with
  | perm same => exact unitsOf_perm same asset
  | split coin first second rest firstAsset secondAsset sum =>
      rw [unitsOf, unitsOf, unitsOf, firstAsset, secondAsset, ← sum]
      by_cases same : coin.asset = asset
      · rw [if_pos same, if_pos same, if_pos same, Nat.add_assoc]
      · rw [if_neg same, if_neg same, if_neg same, Nat.zero_add, Nat.zero_add]
  | symm _ ih => exact ih.symm
  | trans _ _ first second => exact first.trans second

theorem Regrouped.includes_iff (grouped : Regrouped coins others) (asset : Asset) :
    Includes coins asset ↔ Includes others asset := by
  unfold Includes
  induction grouped with
  | perm same => simp only [same.mem_iff]
  | split coin first second rest firstAsset secondAsset sum =>
      simp only [List.exists_mem_cons_iff, firstAsset, secondAsset, ← or_assoc, or_self]
  | symm _ ih => exact ih.symm
  | trans _ _ first second => exact first.trans second

theorem Regrouped.isBounded (grouped : Regrouped coins others) (bounded : IsBounded coins) :
    IsBounded others := by
  intro asset
  rw [← grouped.unitsOf_eq asset]
  exact bounded asset

end TronGateway.Coin
