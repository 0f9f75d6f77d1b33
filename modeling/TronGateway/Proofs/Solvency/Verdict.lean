import TronGateway.SolvencyCheck
import TronGateway.Proofs.Coin
import TronGateway.Proofs.Program
set_option autoImplicit false

/-!
# The verdict about a vault

Where all totals are amounts, a vault is solvent exactly when its account holds of each asset that
the vault lists what the vault owes of it. The order of the coins and of the assets does not matter,
nor how amounts are divided among coins, nor what the account holds of other assets. More in the
account never makes a vault insolvent, and more to owe never makes it solvent.
-/

namespace TronGateway.SolvencyCheck

open Coin (unitsOf IsBounded Includes Regrouped)

/-- The asset occurs among the coins of the vault or those of its payments under way. -/
def Owes (vault : Vault) (asset : Asset) : Prop :=
  Includes vault.coins asset ∨ Includes vault.pendingOutbound asset

/-- The units of an asset that the account of a vault has to hold; more than the largest amount is
never asked for. -/
def required (vault : Vault) (fee : Amount) (asset : Asset) : Nat :=
  min (unitsOf vault.coins asset + unitsOf vault.pendingOutbound asset +
    if asset = Asset.trx then fee.units else 0) (2 ^ 128 - 1)

/-- The account holds what the vault owes. -/
def Covers (account : List Coin) (vault : Vault) (fee : Amount) : Prop :=
  ∀ asset, Owes vault asset → required vault fee asset ≤ unitsOf account asset

variable {account : List Coin} {vault : Vault} {fee : Amount} {asset : Asset}

theorem mem_assetsFrom_iff {found : List Asset} {coins : List Coin} :
    asset ∈ assetsFrom found coins ↔ asset ∈ found ∨ Includes coins asset := by
  unfold Includes
  induction coins generalizing found with
  | nil => simp [assetsFrom]
  | cons coin rest ih =>
      rw [assetsFrom, ih, List.exists_mem_cons_iff, ← or_assoc]
      refine or_congr_left ?_
      by_cases known : found.contains coin.asset
      · rw [if_pos known]
        constructor
        · exact Or.inl
        · rintro (member | rfl)
          · exact member
          · exact List.contains_iff_mem.mp known
      · rw [if_neg known, List.mem_append, List.mem_singleton, eq_comm]

theorem mem_owedAssets_iff : asset ∈ owedAssets vault ↔ Owes vault asset := by
  unfold owedAssets Owes
  rw [mem_assetsFrom_iff, or_iff_right List.not_mem_nil]
  unfold Includes
  simp only [List.mem_append, or_and_right, exists_or]

instance decidableCovers (account : List Coin) (vault : Vault) (fee : Amount) :
    Decidable (Covers account vault fee) :=
  decidable_of_iff
    (∀ asset ∈ owedAssets vault, required vault fee asset ≤ unitsOf account asset)
    (forall_congr' fun _ => imp_congr_left mem_owedAssets_iff)

theorem owed_of_bounded (held : unitsOf vault.coins asset < 2 ^ 128)
    (pending : unitsOf vault.pendingOutbound asset < 2 ^ 128) (fee : Amount) :
    ∃ amount, owed vault fee asset = .ok amount ∧ amount.units = required vault fee asset := by
  obtain ⟨own, ownTotal, ownUnits⟩ := Coin.exists_total held
  obtain ⟨under, underTotal, underUnits⟩ := Coin.exists_total pending
  unfold owed required
  rw [ownTotal, underTotal, ok_bind, ok_bind, ← ownUnits, ← underUnits]
  by_cases gas : asset = Asset.trx
  · have isGas : asset.isGas = true := decide_eq_true gas
    refine ⟨_, rfl, ?_⟩
    unfold Amount.saturatingAdd
    rw [if_pos isGas, if_pos gas, Amount.units_saturate, Amount.units_saturate]
    omega
  · have notGas : ¬ asset.isGas = true := mt of_decide_eq_true gas
    refine ⟨_, rfl, ?_⟩
    unfold Amount.saturatingAdd
    rw [if_neg notGas, if_neg gas, Amount.units_saturate, Nat.add_zero]

theorem covers_of_bounded (held : unitsOf vault.coins asset < 2 ^ 128)
    (pending : unitsOf vault.pendingOutbound asset < 2 ^ 128)
    (bounded : unitsOf account asset < 2 ^ 128) :
    covers account vault fee asset =
      .ok (decide (required vault fee asset ≤ unitsOf account asset)) := by
  obtain ⟨amount, known, units⟩ := owed_of_bounded held pending fee
  obtain ⟨present, total, holds⟩ := Coin.exists_total bounded
  unfold covers
  rw [known, total, ok_bind, ok_bind, ← units, ← holds]
  rfl

/-- The assets may be looked at in any order, and more than once. -/
theorem coversAll_of_bounded (held : IsBounded vault.coins)
    (pending : IsBounded vault.pendingOutbound) {assets : List Asset}
    (bounded : ∀ asset ∈ assets, unitsOf account asset < 2 ^ 128) :
    coversAll account vault fee assets =
      .ok (decide (∀ asset ∈ assets, required vault fee asset ≤ unitsOf account asset)) := by
  induction assets with
  | nil => rfl
  | cons asset rest ih =>
      have behind := ih fun other member => bounded other (List.mem_cons_of_mem _ member)
      have first := bounded asset List.mem_cons_self
      rw [coversAll, covers_of_bounded (held asset) (pending asset) first, ok_bind]
      by_cases enough : required vault fee asset ≤ unitsOf account asset
      · simp only [enough, decide_true, if_true, behind, List.forall_mem_cons, true_and]
      · simp only [enough, decide_false, Bool.false_eq_true, if_false, List.forall_mem_cons,
          false_and]
        rfl

theorem coversAll_eq (held : IsBounded vault.coins) (pending : IsBounded vault.pendingOutbound)
    {assets : List Asset} (same : ∀ asset, asset ∈ assets ↔ Owes vault asset)
    (bounded : ∀ asset, Owes vault asset → unitsOf account asset < 2 ^ 128) :
    coversAll account vault fee assets = .ok (decide (Covers account vault fee)) := by
  rw [coversAll_of_bounded held pending fun asset member => bounded asset ((same asset).mp member)]
  refine congrArg Except.ok (decide_eq_decide.mpr ?_)
  exact forall_congr' fun asset => imp_congr_left (same asset)

theorem isSolvent_eq (account : List Coin) (fee : Amount) (held : IsBounded vault.coins)
    (pending : IsBounded vault.pendingOutbound)
    (bounded : ∀ asset, Owes vault asset → unitsOf account asset < 2 ^ 128) :
    isSolvent account vault fee = .ok (decide (Covers account vault fee)) :=
  coversAll_eq held pending (fun _ => mem_owedAssets_iff) bounded

/-! ### Two verdicts -/

/-- The second vault owes at least what the first one owes. -/
structure OwesMore (vault more : Vault) : Prop where
  assets : ∀ asset, Owes vault asset → Owes more asset
  units : ∀ asset, unitsOf vault.coins asset + unitsOf vault.pendingOutbound asset ≤
    unitsOf more.coins asset + unitsOf more.pendingOutbound asset

theorem required_mono {more : Vault} {higher : Amount} (owes : OwesMore vault more)
    (dearer : fee.units ≤ higher.units) (asset : Asset) :
    required vault fee asset ≤ required more higher asset := by
  have units := owes.units asset
  unfold required
  by_cases gas : asset = Asset.trx
  · rw [if_pos gas, if_pos gas]
    omega
  · rw [if_neg gas, if_neg gas]
    omega

theorem Covers.of_less {more : Vault} {larger : List Coin} {higher : Amount}
    (covers : Covers account more higher) (owes : OwesMore vault more)
    (dearer : fee.units ≤ higher.units)
    (holds : ∀ asset, unitsOf account asset ≤ unitsOf larger asset) :
    Covers larger vault fee := by
  intro asset listed
  calc
    required vault fee asset ≤ required more higher asset := required_mono owes dearer asset
    _ ≤ unitsOf account asset := covers asset (owes.assets asset listed)
    _ ≤ unitsOf larger asset := holds asset

theorem owesMore_of_regrouped {other : Vault} (held : Regrouped vault.coins other.coins)
    (under : Regrouped vault.pendingOutbound other.pendingOutbound) : OwesMore vault other where
  assets asset := Or.imp (held.includes_iff asset).mp (under.includes_iff asset).mp
  units asset := Nat.le_of_eq (by rw [held.unitsOf_eq asset, under.unitsOf_eq asset])

theorem covers_regrouped_iff {others : List Coin} {other : Vault}
    (present : Regrouped account others) (held : Regrouped vault.coins other.coins)
    (under : Regrouped vault.pendingOutbound other.pendingOutbound) :
    Covers others other fee ↔ Covers account vault fee := by
  constructor
  · intro covers
    exact covers.of_less (owesMore_of_regrouped held under) (Nat.le_refl _) fun asset =>
      Nat.le_of_eq (present.unitsOf_eq asset).symm
  · intro covers
    exact covers.of_less (owesMore_of_regrouped held.symm under.symm) (Nat.le_refl _) fun asset =>
      Nat.le_of_eq (present.unitsOf_eq asset)

theorem unitsOf_of_unowed {extra larger : List Coin}
    (unowed : ∀ coin ∈ extra, ¬ Owes vault coin.asset) (added : larger.Perm (account ++ extra))
    (owes : Owes vault asset) :
    unitsOf larger asset = unitsOf account asset := by
  have absent : ¬ Includes extra asset := by
    rintro ⟨coin, member, rfl⟩
    exact unowed coin member owes
  rw [Coin.unitsOf_perm added, Coin.unitsOf_append, Coin.unitsOf_of_absent absent, Nat.add_zero]

/-- Where all totals are amounts, there is a verdict, and it says whether the account holds what the
vault owes; the assets may be looked at in any order. It stays the same when coins are put in
another order, divided or put together, and when the account gains assets that are not owed. A
solvent vault stays solvent when its account gains, and when it owes less or the fee is lower. -/
theorem isSolvent_iff_covers (account : List Coin) (vault : Vault) (fee : Amount)
    (present : IsBounded account) (held : IsBounded vault.coins)
    (pending : IsBounded vault.pendingOutbound) :
    isSolvent account vault fee = .ok (decide (Covers account vault fee)) ∧
    (∀ assets : List Asset, (∀ asset, asset ∈ assets ↔ Owes vault asset) →
      coversAll account vault fee assets = isSolvent account vault fee) ∧
    (∀ others coins under, Regrouped account others → Regrouped vault.coins coins →
      Regrouped vault.pendingOutbound under →
      isSolvent others { vault with coins, pendingOutbound := under } fee =
        isSolvent account vault fee) ∧
    (∀ extra larger, (∀ coin ∈ extra, ¬ Owes vault coin.asset) → larger.Perm (account ++ extra) →
      isSolvent larger vault fee = isSolvent account vault fee) ∧
    (∀ larger, IsBounded larger → (∀ asset, unitsOf account asset ≤ unitsOf larger asset) →
      isSolvent account vault fee = .ok true → isSolvent larger vault fee = .ok true) ∧
    (∀ (less : Vault) (lower : Amount), IsBounded less.coins → IsBounded less.pendingOutbound →
      OwesMore less vault → lower.units ≤ fee.units →
      isSolvent account vault fee = .ok true → isSolvent account less lower = .ok true) := by
  have known := isSolvent_eq account fee held pending fun asset _ => present asset
  refine ⟨known, ?_, ?_, ?_, ?_, ?_⟩
  · intro assets same
    rw [known]
    exact coversAll_eq held pending same fun asset _ => present asset
  · intro others coins under sameAccount sameCoins samePending
    let other : Vault := { vault with coins, pendingOutbound := under }
    have heldOther : IsBounded other.coins := sameCoins.isBounded held
    have pendingOther : IsBounded other.pendingOutbound := samePending.isBounded pending
    have verdict := isSolvent_eq others fee heldOther pendingOther fun asset _ =>
      sameAccount.isBounded present asset
    rw [verdict, known]
    refine congrArg Except.ok (decide_eq_decide.mpr ?_)
    exact covers_regrouped_iff sameAccount sameCoins samePending
  · intro extra larger unowed added
    have units {asset : Asset} (owes : Owes vault asset) := unitsOf_of_unowed unowed added owes
    have verdict := isSolvent_eq larger fee held pending fun asset owes => by
      rw [units owes]
      exact present asset
    rw [verdict, known]
    refine congrArg Except.ok (decide_eq_decide.mpr ?_)
    exact forall_congr' fun asset => forall_congr' fun owes => by rw [units owes]
  · intro larger bounded holds solvent
    rw [known] at solvent
    rw [isSolvent_eq larger fee held pending fun asset _ => bounded asset]
    have covers := of_decide_eq_true (Except.ok.inj solvent)
    exact congrArg Except.ok (decide_eq_true
      (covers.of_less ⟨fun _ => id, fun _ => Nat.le_refl _⟩ (Nat.le_refl _) holds))
  · intro less lower heldLess pendingLess owes cheaper solvent
    rw [known] at solvent
    rw [isSolvent_eq account lower heldLess pendingLess fun asset _ => present asset]
    have covers := of_decide_eq_true (Except.ok.inj solvent)
    exact congrArg Except.ok (decide_eq_true
      (covers.of_less owes cheaper fun _ => Nat.le_refl _))

/-! A vault that owes a token and a thousand units of TRX, a hundred of them in a payment under way,
and an account that holds just that and a fee. -/

def heldAsset : Asset := ⟨chainName, "USDT-TR7NHQJEKQXGTCI8Q8ZY4PL8OTSZGJLJ6T"⟩

def trxOf (units : UInt64) : Coin := Coin.ofTrx (Amount.ofUInt64 units)

def heldOf (units : UInt64) : Coin := ⟨heldAsset, Amount.ofUInt64 units, 6⟩

def pledgedVault : Vault where
  pubKey := ""
  coins := [trxOf 300, heldOf 5, trxOf 600]
  pendingOutbound := [trxOf 100]
  status := "ActiveVault"

theorem isSolvent_iff_covers_pledgedVault :
    let fee := Amount.ofUInt64 50
    let account := [trxOf 1050, heldOf 5]
    isSolvent account pledgedVault fee = .ok true ∧
    coversAll account pledgedVault fee [heldAsset, Asset.trx, heldAsset] = .ok true ∧
    isSolvent [heldOf 5, trxOf 50, trxOf 1000]
      { pledgedVault with coins := [trxOf 900, heldOf 5] } fee = .ok true ∧
    isSolvent [⟨⟨chainName, "BTT"⟩, Amount.largest, 6⟩, trxOf 1050, heldOf 5] pledgedVault fee =
      .ok true ∧
    isSolvent [trxOf 1, trxOf 1050, heldOf 5] pledgedVault fee = .ok true ∧
    isSolvent account { pledgedVault with pendingOutbound := [] } Amount.zero = .ok true ∧
    isSolvent [trxOf 1049, heldOf 6] pledgedVault fee = .ok false := by
  intro fee account
  have held : IsBounded pledgedVault.coins := Coin.isBounded_of_le 1050 (by decide) (by decide)
  have pending : IsBounded pledgedVault.pendingOutbound :=
    Coin.isBounded_of_le 1050 (by decide) (by decide)
  have present : IsBounded account := Coin.isBounded_of_le 1050 (by decide) (by decide)
  obtain ⟨verdict, order, regroup, gain, more, less⟩ :=
    isSolvent_iff_covers account pledgedVault fee present held pending
  have poorer : IsBounded [trxOf 1049, heldOf 6] :=
    Coin.isBounded_of_le 1050 (by decide) (by decide)
  obtain ⟨short, -⟩ :=
    isSolvent_iff_covers [trxOf 1049, heldOf 6] pledgedVault fee poorer held pending
  have solvent : isSolvent account pledgedVault fee = .ok true :=
    verdict.trans (congrArg Except.ok (by decide +kernel))
  have owed : ∀ asset, Owes pledgedVault asset ↔ asset ∈ [Asset.trx, heldAsset] := by
    intro asset
    rw [← mem_owedAssets_iff]
    exact iff_of_eq (congrArg (asset ∈ ·) (by decide +kernel))
  refine ⟨solvent, ?_, ?_, ?_, ?_, ?_, ?_⟩
  · rw [order, solvent]
    intro asset
    rw [owed]
    simp only [List.mem_cons, List.not_mem_nil, or_false]
    tauto
  · have account' : Regrouped account [heldOf 5, trxOf 50, trxOf 1000] :=
      .trans (.split _ (trxOf 50) (trxOf 1000) [heldOf 5] rfl rfl rfl)
        (.perm (by decide +kernel))
    have sorted : pledgedVault.coins.Perm [trxOf 300, trxOf 600, heldOf 5] := by decide +kernel
    have coins : Regrouped pledgedVault.coins [trxOf 900, heldOf 5] :=
      .trans (.perm sorted) (.symm (.split _ (trxOf 300) (trxOf 600) [heldOf 5] rfl rfl rfl))
    exact (regroup _ _ _ account' coins (.perm (.refl _))).trans solvent
  · refine (gain [⟨⟨chainName, "BTT"⟩, Amount.largest, 6⟩] _ ?_ List.perm_append_comm).trans solvent
    intro coin member
    rw [owed, List.mem_singleton.mp member]
    decide +kernel
  · refine more _ (Coin.isBounded_of_le 1050 (by decide) (by decide)) ?_ solvent
    intro asset
    rw [unitsOf]
    exact Nat.le_add_left _ _
  · have idle : IsBounded [] := Coin.isBounded_of_le 1050 (by decide) (by decide)
    refine less _ _ held idle ⟨?_, ?_⟩ (Nat.zero_le _) solvent
    · intro asset owes
      rcases owes with inCoins | ⟨coin, member, -⟩
      · exact .inl inCoins
      · cases member
    · exact fun asset => Nat.add_le_add_left (Nat.zero_le _) _
  · exact short.trans (congrArg Except.ok (by decide +kernel))

end TronGateway.SolvencyCheck
