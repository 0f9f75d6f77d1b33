import TronGateway.Proofs.Payment.Amount
import TronGateway.Proofs.Solvency.Verdict
set_option autoImplicit false

/-!
# The range of sums of coins

A sum of coins is exact, or it is no amount and overflows; it never wraps around. Whatever is worked
out of a sum overflows with it: the funds of a vault, the verdict about it, and the fee limit of an
order. A verdict is worked out asset by asset, and the first asset that fails decides. Where a sum
of one asset is no amount, whether there is a verdict can depend on the order of the assets.
-/

namespace TronGateway

namespace Coin

/-- The amount of so many units, or the overflow of the sum that they are. -/
def checkedSum (units : Nat) : Except Overflow Amount :=
  if bounded : units < 0x100000000000000000000000000000000 then .ok ⟨units, bounded⟩
  else .error .add

theorem checkedSum_of_fits {units : Nat} (fits : units < 2 ^ 128) :
    checkedSum units = .ok ⟨units, fits⟩ :=
  dif_pos fits

theorem checkedSum_of_large {units : Nat} (large : ¬ units < 2 ^ 128) :
    checkedSum units = .error .add :=
  dif_neg large

theorem totalFrom_eq (asset : Asset) (total : Amount) (coins : List Coin) :
    totalFrom asset total coins = checkedSum (total.units + unitsOf coins asset) := by
  induction coins generalizing total with
  | nil => exact (checkedSum_of_fits total.bounded).symm
  | cons coin rest ih =>
      rw [totalFrom, unitsOf]
      by_cases same : coin.asset = asset
      · have sum : total.checkedAdd coin.amount =
            checkedSum (total.units + coin.amount.units) := rfl
        rw [if_pos same, if_pos same, sum]
        by_cases fits : total.units + coin.amount.units < 2 ^ 128
        · rw [checkedSum_of_fits fits, ← Nat.add_assoc]
          exact ih _
        · have larger : ¬ total.units + (coin.amount.units + unitsOf rest asset) < 2 ^ 128 := by
            omega
          rw [checkedSum_of_large fits, checkedSum_of_large larger]
      · rw [if_neg same, if_neg same, Nat.zero_add]
        exact ih total

theorem total_eq (coins : List Coin) (asset : Asset) :
    total coins asset = checkedSum (unitsOf coins asset) := by
  unfold total
  rw [totalFrom_eq]
  exact congrArg checkedSum (Nat.zero_add _)

theorem hasFunds_eq (vault : Vault) (asset : Asset) :
    vault.hasFunds asset =
      if unitsOf vault.coins asset < 2 ^ 128 then .ok (decide (0 < unitsOf vault.coins asset))
      else .error .add := by
  unfold Vault.hasFunds
  rw [total_eq]
  by_cases fits : unitsOf vault.coins asset < 2 ^ 128
  · rw [checkedSum_of_fits fits, if_pos fits]
    rfl
  · rw [checkedSum_of_large fits, if_neg fits]
    rfl

end Coin

namespace SolvencyCheck

open Coin (unitsOf IsBounded Includes)

variable {account : List Coin} {vault : Vault} {fee : Amount} {asset : Asset}
  {assets : List Asset}

/-! ### One asset of a vault -/

/-- The sums that are taken for an asset of a vault are amounts. -/
structure IsSummed (account : List Coin) (vault : Vault) (asset : Asset) : Prop where
  held : unitsOf vault.coins asset < 2 ^ 128
  pending : unitsOf vault.pendingOutbound asset < 2 ^ 128
  present : unitsOf account asset < 2 ^ 128

/-- The sums of an asset are amounts, and the account holds what is owed of it. -/
structure Passes (account : List Coin) (vault : Vault) (fee : Amount) (asset : Asset) : Prop where
  summed : IsSummed account vault asset
  enough : required vault fee asset ≤ unitsOf account asset

instance decidableIsSummed (account : List Coin) (vault : Vault) (asset : Asset) :
    Decidable (IsSummed account vault asset) :=
  decidable_of_iff (unitsOf vault.coins asset < 2 ^ 128 ∧
      unitsOf vault.pendingOutbound asset < 2 ^ 128 ∧ unitsOf account asset < 2 ^ 128)
    ⟨fun ⟨held, pending, present⟩ => ⟨held, pending, present⟩,
      fun summed => ⟨summed.held, summed.pending, summed.present⟩⟩

instance decidablePasses (account : List Coin) (vault : Vault) (fee : Amount) (asset : Asset) :
    Decidable (Passes account vault fee asset) :=
  decidable_of_iff (IsSummed account vault asset ∧
      required vault fee asset ≤ unitsOf account asset)
    ⟨fun ⟨summed, enough⟩ => ⟨summed, enough⟩, fun passes => ⟨passes.summed, passes.enough⟩⟩

theorem covers_of_summed (fee : Amount) (summed : IsSummed account vault asset) :
    covers account vault fee asset =
      .ok (decide (required vault fee asset ≤ unitsOf account asset)) :=
  covers_of_bounded summed.held summed.pending summed.present

theorem covers_of_not_summed (fee : Amount) (unsummed : ¬ IsSummed account vault asset) :
    covers account vault fee asset = .error .add := by
  unfold covers
  by_cases held : unitsOf vault.coins asset < 2 ^ 128
  · by_cases pending : unitsOf vault.pendingOutbound asset < 2 ^ 128
    · have large : ¬ unitsOf account asset < 2 ^ 128 := fun present =>
        unsummed ⟨held, pending, present⟩
      obtain ⟨amount, known, -⟩ := owed_of_bounded held pending fee
      rw [known, ok_bind, Coin.total_eq, Coin.checkedSum_of_large large]
      rfl
    · unfold owed
      rw [Coin.total_eq, Coin.total_eq, Coin.checkedSum_of_fits held,
        Coin.checkedSum_of_large pending]
      rfl
  · unfold owed
    rw [Coin.total_eq, Coin.checkedSum_of_large held]
    rfl

/-- How the look at a vault ends at an asset that does not pass. -/
def verdictAt (account : List Coin) (vault : Vault) (asset : Asset) : Except Overflow Bool :=
  if IsSummed account vault asset then .ok false else .error .add

theorem coversAll_of_passes (passes : ∀ earlier ∈ assets, Passes account vault fee earlier)
    (rest : List Asset) :
    coversAll account vault fee (assets ++ rest) = coversAll account vault fee rest := by
  induction assets with
  | nil => rfl
  | cons asset others ih =>
      obtain ⟨first, behind⟩ := List.forall_mem_cons.mp passes
      rw [List.cons_append, coversAll, covers_of_summed fee first.summed, ok_bind,
        if_pos (decide_eq_true first.enough)]
      exact ih behind

theorem coversAll_of_fails (fails : ¬ Passes account vault fee asset) (rest : List Asset) :
    coversAll account vault fee (asset :: rest) = verdictAt account vault asset := by
  unfold verdictAt
  rw [coversAll]
  by_cases summed : IsSummed account vault asset
  · have short : ¬ required vault fee asset ≤ unitsOf account asset := fun enough =>
      fails ⟨summed, enough⟩
    rw [covers_of_summed fee summed, ok_bind, decide_eq_false short, if_pos summed]
    rfl
  · rw [covers_of_not_summed fee summed, if_neg summed]
    rfl

theorem of_coversAll_error {overflow : Overflow}
    (failed : coversAll account vault fee assets = .error overflow) :
    overflow = .add ∧ ∃ asset ∈ assets, ¬ IsSummed account vault asset := by
  induction assets with
  | nil => cases failed
  | cons asset rest ih =>
      by_cases passes : Passes account vault fee asset
      · have behind := coversAll_of_passes (List.forall_mem_singleton.mpr passes) rest
        rw [List.singleton_append, failed] at behind
        obtain ⟨add, unsummed, member, large⟩ := ih behind.symm
        exact ⟨add, unsummed, List.mem_cons_of_mem _ member, large⟩
      · rw [coversAll_of_fails passes] at failed
        unfold verdictAt at failed
        by_cases summed : IsSummed account vault asset
        · rw [if_pos summed] at failed
          cases failed
        · rw [if_neg summed] at failed
          cases failed
          exact ⟨rfl, asset, List.mem_cons_self, summed⟩

theorem isBounded_of_summed (summed : ∀ asset, Owes vault asset → IsSummed account vault asset) :
    IsBounded vault.coins ∧ IsBounded vault.pendingOutbound := by
  constructor
  · intro asset
    by_cases listed : Includes vault.coins asset
    · exact (summed asset (.inl listed)).held
    · rw [Coin.unitsOf_of_absent listed]
      decide
  · intro asset
    by_cases listed : Includes vault.pendingOutbound asset
    · exact (summed asset (.inr listed)).pending
    · rw [Coin.unitsOf_of_absent listed]
      decide

theorem coversAll_of_summed (fee : Amount)
    (summed : ∀ asset, Owes vault asset → IsSummed account vault asset)
    (same : assets.Perm (owedAssets vault)) :
    coversAll account vault fee assets = .ok (decide (Covers account vault fee)) := by
  obtain ⟨held, pending⟩ := isBounded_of_summed summed
  have members (asset : Asset) : asset ∈ assets ↔ Owes vault asset :=
    same.mem_iff.trans mem_owedAssets_iff
  exact coversAll_eq held pending members fun asset owes => (summed asset owes).present

theorem exists_order_iff (account : List Coin) (vault : Vault) (fee : Amount) :
    (∃ assets, assets.Perm (owedAssets vault) ∧ coversAll account vault fee assets = .error .add) ↔
      ∃ asset, Owes vault asset ∧ ¬ IsSummed account vault asset := by
  constructor
  · rintro ⟨assets, same, overflows⟩
    by_contra none
    have summed (asset : Asset) (owes : Owes vault asset) : IsSummed account vault asset := by
      by_contra unsummed
      exact none ⟨asset, owes, unsummed⟩
    rw [coversAll_of_summed fee summed same] at overflows
    cases overflows
  · rintro ⟨asset, owes, unsummed⟩
    have listed : asset ∈ owedAssets vault := mem_owedAssets_iff.mpr owes
    have fails : ¬ Passes account vault fee asset := fun passes => unsummed passes.summed
    refine ⟨asset :: (owedAssets vault).erase asset, (List.perm_cons_erase listed).symm, ?_⟩
    rw [coversAll_of_fails fails]
    exact if_neg unsummed

end SolvencyCheck

namespace Payment

/-! ### The fee limit of an order -/

/-- The fee limit in sun that an order allows, or the order's fault, or the overflow of its sum. -/
def feeLimit (order : Order) : Except Overflow (Except Error UInt64) :=
  let units := Coin.unitsOf order.maxGas Asset.trx
  if units < 2 ^ 128 then
    if units / 100 < 2 ^ 64 then .ok (.ok (UInt64.ofNat (units / 100)))
    else .ok (.error (.badOrder "max gas out of range"))
  else .error .add

theorem total_payable_eq (order : Order) :
    ((Coin.total order.maxGas Asset.trx).map fun gas =>
      payable gas.toSun "max gas out of range") = feeLimit order := by
  unfold feeLimit
  rw [Coin.total_eq]
  dsimp only
  by_cases fits : Coin.unitsOf order.maxGas Asset.trx < 2 ^ 128
  · rw [Coin.checkedSum_of_fits fits, if_pos fits]
    change Except.ok (payable (Amount.toSun _) _) = _
    by_cases small : Coin.unitsOf order.maxGas Asset.trx / 100 < 2 ^ 64
    · rw [if_pos small]
      refine congrArg Except.ok (payable_eq_ok_iff.mpr ?_)
      rw [units_toSun]
      exact UInt64.toNat_ofNat_of_lt' small
    · rw [if_neg small]
      refine congrArg Except.ok (payable_of_large ?_)
      rw [units_toSun]
      exact Nat.not_lt.mp small
  · rw [Coin.checkedSum_of_large fits, if_neg fits]
    rfl

variable {State : Type} {answer : (question : Question) → State → Option question.Answer × State}
  {payer : Payer} {order : Order} {coin : Coin} {owner recipient : String} {token : Token}
  {word : List UInt8} {state known : State} {memory : Memory}

/-- The order pays a token to an account, and nothing stands against that but its fee limit. -/
structure PaysToken (payer : Payer) (order : Order) (coin : Coin)
    (owner recipient : String) (token : Token) (word : List UInt8) : Prop where
  parties : Parties order coin owner recipient
  other : coin.asset ≠ Asset.trx
  listed : Token.findByAsset? payer.tokens coin.asset = some token
  placed : Abi.addressWord recipient = .ok word

def tokenCall (coin : Coin) (owner : String) (token : Token) (word : List UInt8) (limit : UInt64) :
    NodeCall :=
  let amount := coin.amount.rescale Amount.protocolDecimals token.decimals
  .triggerContract owner token.contract Abi.transferMethod
    (Hex.encode (word ++ Abi.amountWord amount)) limit

def request (coin : Coin) (owner : String) (token : Token) (word : List UInt8) (limit : UInt64) :
    Action Transaction :=
  Action.node (tokenCall coin owner token word limit)

theorem build_eq (pays : PaysToken payer order coin owner recipient token word) :
    build payer.tokens order coin owner recipient =
      Action.check (feeLimit order) >>= fun limit =>
        liftM limit >>= request coin owner token word := by
  obtain ⟨-, other, listed, placed⟩ := pays
  have encoded (amount : Amount) := Abi.encodeTransfer_eq_ok_iff.mpr
    ⟨word, placed, Eq.refl (Abi.selector Abi.transferMethod ++ (word ++ Abi.amountWord amount))⟩
  have dropped (amount : Amount) :
      (Abi.selector Abi.transferMethod ++ (word ++ Abi.amountWord amount)).drop
        Abi.selectorLength = word ++ Abi.amountWord amount :=
    List.drop_left' (Abi.length_selector _)
  unfold build Asset.isGas buildTokenTransfer request tokenCall
  rw [if_neg (mt of_decide_eq_true other), listed, ← total_payable_eq]
  dsimp only
  rw [encoded, ← dropped]
  cases Coin.total order.maxGas Asset.trx with
  | error overflow => rfl
  | ok gas => rfl

theorem run_signOrder_of_overflow (now : Int64) {overflow : Overflow}
    (begins : Begins answer order state memory known)
    (pays : PaysToken payer order coin owner recipient token word)
    (overflows : feeLimit order = .error overflow) :
    (signOrder payer order now).run.run answer state = (.overflowed overflow, known) := by
  have built : (build payer.tokens order coin owner recipient).run.run answer known =
      (.overflowed overflow, known) := by
    rw [build_eq pays, overflows]
    rfl
  have stopped : (signUnpaid payer order memory.ring now).run.run answer known =
      (.overflowed overflow, known) := by
    rw [signUnpaid_of_parties now begins.candidates pays.parties]
    exact Action.run_bind_of_overflows built
  rw [run_begun begins]
  exact Action.run_bind_of_overflows stopped

theorem run_signOrder_of_fault (now : Int64) {fault : Error}
    (begins : Begins answer order state memory known)
    (pays : PaysToken payer order coin owner recipient token word)
    (refused : feeLimit order = .ok (.error fault)) :
    (signOrder payer order now).run.run answer state = (.finished (.error fault), known) := by
  have built : (build payer.tokens order coin owner recipient).run = .done (.error fault) := by
    rw [build_eq pays, refused]
    rfl
  exact run_signOrder_of_failure begins
    (run_signUnpaid_of_build begins.candidates pays.parties built)

theorem asked_signOrder_of_limit (now : Int64) {limit : UInt64} {call : NodeCall}
    (begins : Begins answer order state memory known)
    (pays : PaysToken payer order coin owner recipient token word)
    (limited : feeLimit order = .ok (.ok limit)) :
    .node call ∈ (signOrder payer order now).run.asked answer state ↔
      call = tokenCall coin owner token word limit := by
  have built : build payer.tokens order coin owner recipient =
      request coin owner token word limit := by
    rw [build_eq pays, limited]
    rfl
  have asks : (request coin owner token word limit).run.asked answer known =
      [.node (tokenCall coin owner token word limit)] := Action.asked_node _ known
  rw [asked_begun begins, signUnpaid_of_parties now begins.candidates pays.parties,
    built, Action.mem_asked_bind, asks, List.mem_singleton]
  constructor
  · rintro (same | ⟨shell, between, -, asked⟩)
    · exact Question.node.inj same
    · cases (asks_finish payer order memory.ring now shell).asked asked
  · rintro rfl
    exact .inl rfl

/-! A token of six decimals is paid under a fee limit. -/

def limitedToken : Token := ⟨"TR7NHqjeKQxGTCi8q8ZY4pL8otSzgjLj6t", "USDT", 6⟩

def limitedCoin : Coin := ⟨limitedToken.asset, ⟨725, by decide⟩, 6⟩

def limitedOrder (maxGas : List Coin) : Order :=
  { dustOrder with coins := [limitedCoin], maxGas }

def limitedPayer : Payer := ⟨[limitedToken], ⟨none, false, false⟩⟩

def limitedMemory : Memory := ⟨[⟨1738705560000, 68975046, ""⟩], 0, none, true, 0⟩

theorem begins_limitedOrder (maxGas : List Coin) :
    Begins unpaidAnswer (limitedOrder maxGas) limitedMemory limitedMemory limitedMemory :=
  ⟨⟨limitedMemory, rfl, rfl⟩, nofun⟩

theorem exists_paysToken_limitedOrder (maxGas : List Coin) :
    ∃ owner recipient word, PaysToken limitedPayer (limitedOrder maxGas) limitedCoin owner
      recipient limitedToken word := by
  have parsed : KeyText.parse (limitedOrder maxGas).vault = .ok Curve.generator := by
    change KeyText.parse (Hex.encode (Curve.PublicKey.uncompressed Curve.generator)) = _
    rw [KeyText.parse_encode]
    rfl
  have length : (List.replicate 20 (0 : UInt8)).length = 20 := List.length_replicate
  have parties : Parties (limitedOrder maxGas) limitedCoin _ _ :=
    ⟨rfl, rfl, KeyText.address_of_parse parsed, Address.toBase58_hex length⟩
  exact ⟨_, _, _, parties, by decide, by decide, Abi.addressWord_base58 length⟩

end Payment

namespace Coin

open SolvencyCheck (coversAll Owes owedAssets IsSummed Passes Covers)
open Payment (Begins PaysToken Payer feeLimit signOrder tokenCall unpaidAnswer limitedToken
  limitedCoin limitedOrder limitedPayer limitedMemory)

/-- Each sum of coins is exact or overflows, and what is made of it overflows with it. A vault has
funds where the exact sum is positive. The verdict about a vault is the exact one where the sums of
all assets that it owes are amounts, and comes from the first asset that does not pass otherwise;
some order of the assets overflows as soon as one of them has no sum. The fee limit of an order for
a token is a hundredth of the exact sum; the order is refused where that does not fit the request,
and signing it overflows where the sum does. -/
theorem sums_are_exact_or_overflow (coins account : List Coin) (asset : Asset) (vault : Vault)
    (fee : Amount) (payer : Payer) (order : Order) (now : Int64) :
    total coins asset = checkedSum (unitsOf coins asset) ∧
    (vault.hasFunds asset =
      if unitsOf vault.coins asset < 2 ^ 128 then .ok (decide (0 < unitsOf vault.coins asset))
      else .error .add) ∧
    (∀ assets : List Asset, assets.Perm (owedAssets vault) →
      ((∀ asset ∈ assets, Passes account vault fee asset) →
        coversAll account vault fee assets = .ok true) ∧
      (∀ before asset after, assets = before ++ asset :: after →
        (∀ earlier ∈ before, Passes account vault fee earlier) →
        ¬ Passes account vault fee asset →
        coversAll account vault fee assets = SolvencyCheck.verdictAt account vault asset) ∧
      ((∀ asset, Owes vault asset → IsSummed account vault asset) →
        coversAll account vault fee assets = .ok (decide (Covers account vault fee)))) ∧
    ((∃ assets, assets.Perm (owedAssets vault) ∧
        coversAll account vault fee assets = .error .add) ↔
      ∃ asset, Owes vault asset ∧ ¬ IsSummed account vault asset) ∧
    ∀ {State : Type} (answer : (question : Question) → State → Option question.Answer × State)
      (state known : State) (memory : Memory) (coin : Coin) (owner recipient : String)
      (token : Token) (word : List UInt8),
      Begins answer order state memory known →
      PaysToken payer order coin owner recipient token word →
      (∀ overflow, feeLimit order = .error overflow →
        (signOrder payer order now).run.run answer state = (.overflowed overflow, known)) ∧
      (∀ fault, feeLimit order = .ok (.error fault) →
        (signOrder payer order now).run.run answer state = (.finished (.error fault), known)) ∧
      ∀ limit, feeLimit order = .ok (.ok limit) → ∀ call,
        .node call ∈ (signOrder payer order now).run.asked answer state ↔
          call = tokenCall coin owner token word limit := by
  refine ⟨total_eq coins asset, hasFunds_eq vault asset, ?_,
    SolvencyCheck.exists_order_iff account vault fee, ?_⟩
  · intro assets same
    refine ⟨?_, ?_, ?_⟩
    · intro passes
      have all := SolvencyCheck.coversAll_of_passes passes []
      rw [List.append_nil] at all
      exact all
    · intro before asset after split passes fails
      rw [split, SolvencyCheck.coversAll_of_passes passes]
      exact SolvencyCheck.coversAll_of_fails fails after
    · intro summed
      exact SolvencyCheck.coversAll_of_summed fee summed same
  · intro State answer state known memory coin owner recipient token word begins pays
    exact ⟨fun overflow => Payment.run_signOrder_of_overflow now begins pays,
      fun fault => Payment.run_signOrder_of_fault now begins pays,
      fun limit limited call => Payment.asked_signOrder_of_limit now begins pays limited⟩

/-! A vault that owes more TRX than an amount holds. -/

def crowdedVault : Vault where
  pubKey := ""
  coins := [ofTrx Amount.largest, ofTrx ⟨1, by decide⟩, limitedCoin]
  pendingOutbound := []
  status := "ActiveVault"

theorem sums_are_exact_or_overflow_crowdedVault :
    total crowdedVault.coins limitedToken.asset = .ok ⟨725, by decide⟩ ∧
    crowdedVault.hasFunds limitedToken.asset = .ok true ∧
    coversAll [] crowdedVault Amount.zero [limitedToken.asset, Asset.trx] = .ok false ∧
    (∃ assets, assets.Perm (owedAssets crowdedVault) ∧
      coversAll [] crowdedVault Amount.zero assets = .error .add) ∧
    ∃ owner word, Question.node (tokenCall limitedCoin owner limitedToken word 10) ∈
      (signOrder limitedPayer (limitedOrder [ofTrx ⟨1050, by decide⟩]) 0).run.asked
        unpaidAnswer limitedMemory := by
  let order := limitedOrder [ofTrx ⟨1050, by decide⟩]
  obtain ⟨sum, funds, verdict, overflows, asks⟩ := sums_are_exact_or_overflow crowdedVault.coins []
    limitedToken.asset crowdedVault Amount.zero limitedPayer order 0
  obtain ⟨-, first, -⟩ := verdict [limitedToken.asset, Asset.trx] (by decide)
  refine ⟨?_, ?_, ?_, ?_, ?_⟩
  · rw [sum]
    decide
  · rw [funds]
    decide
  · rw [first [] limitedToken.asset [Asset.trx] rfl (by decide) (by decide)]
    decide
  · exact overflows.mpr ⟨Asset.trx, .inl ⟨_, List.mem_cons_self, rfl⟩, by decide⟩
  · obtain ⟨owner, recipient, word, pays⟩ :=
      Payment.exists_paysToken_limitedOrder [ofTrx ⟨1050, by decide⟩]
    obtain ⟨-, -, asked⟩ := asks _ _ _ _ _ _ _ _ _ (Payment.begins_limitedOrder _) pays
    exact ⟨owner, word, (asked 10 (by decide) _).mpr rfl⟩

/-- Coins of TRX that are more than there is overflow wherever they are summed: no verdict about the
vault that holds them and no answer to the order that allows them as its fee. -/
theorem crowdedVault_overflows :
    total crowdedVault.coins Asset.trx = .error .add ∧
    crowdedVault.hasFunds Asset.trx = .error .add ∧
    SolvencyCheck.isSolvent [] crowdedVault Amount.zero = .error .add ∧
    (signOrder limitedPayer (limitedOrder crowdedVault.coins) 0).run.run
      unpaidAnswer limitedMemory = (.overflowed .add, limitedMemory) := by
  obtain ⟨owner, recipient, word, pays⟩ := Payment.exists_paysToken_limitedOrder crowdedVault.coins
  refine ⟨by decide, by decide, by decide, ?_⟩
  exact Payment.run_signOrder_of_overflow 0 (Payment.begins_limitedOrder _) pays (by decide)

end Coin
end TronGateway
