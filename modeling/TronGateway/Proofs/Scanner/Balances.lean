import TronGateway.Scanner
import TronGateway.Proofs.Asset
import TronGateway.Proofs.Abi
import TronGateway.Proofs.Coin
import TronGateway.Proofs.Whitelist
set_option autoImplicit false

/-!
# Balances are counted once

What an account holds of an asset is one answer of the node, rescaled, where no contract is listed
twice: the assets of the listed tokens are then different. Then a vault is solvent only by what its
account holds. A contract that is listed twice, which nothing prevents, is asked twice and counted
twice.
-/

namespace TronGateway

namespace SolvencyCheck

theorem covers_eq_ok_true_iff {account : List Coin} {vault : Vault} {fee : Amount}
    {asset : Asset} :
    covers account vault fee asset = .ok true ↔
      ∃ required present, owed vault fee asset = .ok required ∧
        Coin.total account asset = .ok present ∧ required.units ≤ present.units := by
  unfold covers
  cases owed vault fee asset with
  | error overflow => simp [bind, Except.bind]
  | ok required =>
      cases Coin.total account asset with
      | error overflow => simp [bind, Except.bind]
      | ok present => simp [bind, Except.bind, pure, Except.pure]

theorem coversAll_eq_ok_true_iff {account : List Coin} {vault : Vault} {fee : Amount}
    {assets : List Asset} :
    coversAll account vault fee assets = .ok true ↔
      ∀ asset ∈ assets, covers account vault fee asset = .ok true := by
  induction assets with
  | nil => simp [coversAll]
  | cons asset rest ih =>
      rw [coversAll, List.forall_mem_cons, ← ih]
      cases covers account vault fee asset with
      | error overflow => simp [bind, Except.bind]
      | ok covered => cases covered <;> simp [bind, Except.bind, pure, Except.pure]

end SolvencyCheck

/-! ### What the node tells -/

section Telling

variable {State : Type} (answer : (question : Question) → State → Option question.Answer × State)

/-- Asked what an account holds of a token, the node answers by a word that is the amount. -/
def TellsBalance (address : String) (token : Token) (state : State) (amount : Amount)
    (after : State) : Prop :=
  ∃ call contract text, Abi.encodeBalanceOf address = .ok call ∧
    Address.toContractHex token.contract = .ok contract ∧
    answer (.node (.contractCall contract ("0x" ++ Hex.encode call))) state =
      (some (.ok ⟨some text, none⟩), after) ∧
    Abi.decodeAmountAnswer text = .ok amount

/-- Asked for each token in turn, the node tells these amounts. -/
inductive TellsBalances (address : String) :
    List Token → State → List Amount → State → Prop where
  | nil (state : State) : TellsBalances address [] state [] state
  | cons {token : Token} {tokens : List Token} {amount : Amount} {amounts : List Amount}
      {state between after : State} (one : TellsBalance answer address token state amount between)
      (rest : TellsBalances address tokens between amounts after) :
      TellsBalances address (token :: tokens) state (amount :: amounts) after

end Telling

section Answers

variable {State : Type}
  {answer : (question : Question) → State → Option question.Answer × State}
  {tokens : List Token} {address : String} {state after : State}

theorem TellsBalances.length {amounts : List Amount}
    (tells : TellsBalances answer address tokens state amounts after) :
    amounts.length = tokens.length := by
  induction tells with
  | nil => rfl
  | cons _ _ ih => rw [List.length_cons, List.length_cons, ih]

theorem Whitelist.gives_callContract_iff {contract data text : String} :
    Action.Gives answer (callContract contract data) state text after ↔
      answer (.node (.contractCall contract data)) state =
        (some (.ok ⟨some text, none⟩), after) := by
  unfold callContract
  rw [Action.gives_bind]
  constructor
  · rintro ⟨⟨_ | found, _ | failure⟩, between, replied, given⟩
    · exact absurd given Action.not_gives_throw
    · exact absurd given Action.not_gives_throw
    · obtain ⟨rfl, rfl⟩ := Action.gives_pure.mp given
      exact Action.gives_node.mp replied
    · exact absurd given Action.not_gives_throw
  · intro replied
    exact ⟨⟨some text, none⟩, after, Action.gives_node.mpr replied,
      Action.gives_pure.mpr ⟨rfl, rfl⟩⟩

namespace Scanner

theorem gives_tokenBalance_iff {token : Token} {coin : Coin} :
    Action.Gives answer (tokenBalance address token) state coin after ↔
      ∃ amount, TellsBalance answer address token state amount after ∧
        coin = Ingest.tokenCoin token amount := by
  unfold tokenBalance TellsBalance
  simp only [Action.gives_lift_bind]
  constructor
  · rintro ⟨call, encoded, contract, spelled, given⟩
    obtain ⟨text, between, replied, given⟩ := Action.gives_bind.mp given
    obtain ⟨amount, word, given⟩ := Action.gives_lift_bind.mp given
    obtain ⟨rfl, rfl⟩ := Action.gives_pure.mp given
    exact ⟨amount, ⟨call, contract, text, encoded, spelled,
      Whitelist.gives_callContract_iff.mp replied, word⟩, rfl⟩
  · rintro ⟨amount, ⟨call, contract, text, encoded, spelled, replied, word⟩, rfl⟩
    have called := Whitelist.gives_callContract_iff.mpr replied
    refine ⟨call, encoded, contract, spelled, Action.gives_bind.mpr ⟨text, after, called, ?_⟩⟩
    refine Action.gives_lift_bind.mpr ⟨amount, word, ?_⟩
    exact Action.gives_pure.mpr ⟨rfl, rfl⟩

theorem gives_tokenBalances_iff {coins : List Coin} :
    Action.Gives answer (tokenBalances address tokens) state coins after ↔
      ∃ amounts, TellsBalances answer address tokens state amounts after ∧
        coins = List.zipWith Ingest.tokenCoin tokens amounts := by
  induction tokens generalizing coins state with
  | nil =>
      unfold tokenBalances
      rw [Action.gives_pure]
      constructor
      · rintro ⟨rfl, rfl⟩
        exact ⟨[], .nil state, rfl⟩
      · rintro ⟨amounts, tells, rfl⟩
        cases tells
        exact ⟨rfl, rfl⟩
  | cons token rest ih =>
      unfold tokenBalances
      rw [Action.gives_bind]
      constructor
      · rintro ⟨coin, between, one, given⟩
        obtain ⟨others, last, many, given⟩ := Action.gives_bind.mp given
        obtain ⟨rfl, rfl⟩ := Action.gives_pure.mp given
        obtain ⟨amount, told, rfl⟩ := gives_tokenBalance_iff.mp one
        obtain ⟨amounts, tells, rfl⟩ := ih.mp many
        exact ⟨amount :: amounts, .cons told tells, rfl⟩
      · rintro ⟨amounts, tells, rfl⟩
        cases tells with
        | cons one rest =>
            have first := gives_tokenBalance_iff.mpr ⟨_, one, rfl⟩
            have others := ih.mpr ⟨_, rest, rfl⟩
            refine ⟨_, _, first, Action.gives_bind.mpr ⟨_, _, others, ?_⟩⟩
            exact Action.gives_pure.mpr ⟨rfl, rfl⟩

theorem gives_accountCoins_iff {coins : List Coin} :
    Action.Gives answer (accountCoins tokens address) state coins after ↔
      ∃ balance between amounts,
        answer (.node (.balance address)) state = (some (.ok balance), between) ∧
        TellsBalances answer address tokens between amounts after ∧
        coins = Coin.ofTrx (Amount.ofSun (Amount.ofUInt64 balance)) ::
          List.zipWith Ingest.tokenCoin tokens amounts := by
  unfold accountCoins
  rw [Action.gives_bind]
  constructor
  · rintro ⟨balance, between, told, given⟩
    obtain ⟨others, last, many, given⟩ := Action.gives_bind.mp given
    obtain ⟨rfl, rfl⟩ := Action.gives_pure.mp given
    obtain ⟨amounts, tells, rfl⟩ := gives_tokenBalances_iff.mp many
    exact ⟨balance, between, amounts, Action.gives_node.mp told, tells, rfl⟩
  · rintro ⟨balance, between, amounts, told, tells, rfl⟩
    have balances := gives_tokenBalances_iff.mpr ⟨amounts, tells, rfl⟩
    refine ⟨balance, between, Action.gives_node.mpr told, ?_⟩
    refine Action.gives_bind.mpr ⟨_, after, balances, ?_⟩
    exact Action.gives_pure.mpr ⟨rfl, rfl⟩

end Scanner

theorem TellsBalances.assets {amounts : List Amount}
    (tells : TellsBalances answer address tokens state amounts after) :
    (List.zipWith Ingest.tokenCoin tokens amounts).map Coin.asset = tokens.map Token.asset := by
  induction tells with
  | nil => rfl
  | cons _ _ ih =>
      rw [List.zipWith_cons_cons, List.map_cons, List.map_cons, ih]
      rfl

end Answers

namespace Scanner

/-- The coins are worth what the node told, each answer once: a hundred protocol units for each sun,
and of each token the amount rescaled to eight decimals. -/
structure CountsOnce (coins : List Coin) (balance : UInt64) (tokens : List Token)
    (amounts : List Amount) : Prop where
  trx : ∃ held, Coin.total coins Asset.trx = .ok held ∧ held.units = balance.toNat * 100
  token : ∀ token amount, (token, amount) ∈ tokens.zip amounts →
    ∃ held, Coin.total coins token.asset = .ok held ∧
      held.units = min (amount.units * 10 ^ 8 / 10 ^ token.decimals.toNat) (2 ^ 128 - 1)
  other : ∀ asset, asset ≠ Asset.trx → asset ∉ tokens.map Token.asset →
    Coin.total coins asset = .ok Amount.zero

theorem countsOnce_of_nodup {balance : UInt64} {tokens : List Token} {amounts : List Amount}
    (distinct : (tokens.map Token.asset).Nodup)
    (assets : (List.zipWith Ingest.tokenCoin tokens amounts).map Coin.asset =
      tokens.map Token.asset) :
    CountsOnce (Coin.ofTrx (Amount.ofSun (Amount.ofUInt64 balance)) ::
      List.zipWith Ingest.tokenCoin tokens amounts) balance tokens amounts := by
  have gas : Asset.trx ∉ tokens.map Token.asset := by
    intro member
    obtain ⟨token, -, same⟩ := List.mem_map.mp member
    exact Asset.token_ne_trx _ _ same
  have all : ((Coin.ofTrx (Amount.ofSun (Amount.ofUInt64 balance)) ::
      List.zipWith Ingest.tokenCoin tokens amounts).map Coin.asset).Nodup := by
    rw [List.map_cons, assets]
    exact List.nodup_cons.mpr ⟨gas, distinct⟩
  refine ⟨?_, ?_, ?_⟩
  · exact ⟨_, Coin.total_of_mem all List.mem_cons_self, Amount.units_ofSun_ofUInt64 balance⟩
  · intro token amount listed
    have member : Ingest.tokenCoin token amount ∈
        List.zipWith Ingest.tokenCoin tokens amounts := by
      rw [← List.map_uncurry_zip_eq_zipWith]
      exact List.mem_map.mpr ⟨(token, amount), listed, rfl⟩
    have held := Coin.total_of_mem all (List.mem_cons_of_mem _ member)
    have rescaled := Amount.units_rescale amount token.decimals Amount.protocolDecimals
    rw [show Amount.protocolDecimals.toNat = 8 from rfl] at rescaled
    exact ⟨_, held, rescaled⟩
  · intro asset notGas unlisted
    refine Coin.total_of_absent (mt List.mem_map.mpr ?_)
    rw [List.map_cons, assets, List.mem_cons, not_or]
    exact ⟨notGas, unlisted⟩

/--
Where no two listed contracts are the same when the case of letters does not count, an account is
worth what the node tells of it: each balance counts once. A vault that passes for solvent then owes
of no asset more than that.
-/
theorem balances_count_once {Loading State : Type}
    {asked : (question : Question) → Loading → Option question.Answer × Loading}
    {answer : (question : Question) → State → Option question.Answer × State}
    {addresses : List String} {tokens : List Token} {start loaded : Loading} {address : String}
    {coins : List Coin} {state after : State}
    (load : Action.Gives asked (Whitelist.load addresses) start tokens loaded)
    (distinct : Token.AreDistinct tokens)
    (gives : Action.Gives answer (accountCoins tokens address) state coins after) :
    ∃ balance between amounts,
      answer (.node (.balance address)) state = (some (.ok balance), between) ∧
      TellsBalances answer address tokens between amounts after ∧
      amounts.length = tokens.length ∧
      CountsOnce coins balance tokens amounts ∧
      ∀ vault fee, SolvencyCheck.isSolvent coins vault fee = .ok true →
        ∀ asset ∈ SolvencyCheck.owedAssets vault, ∃ required held,
          SolvencyCheck.owed vault fee asset = .ok required ∧
          Coin.total coins asset = .ok held ∧ required.units ≤ held.units := by
  obtain ⟨balance, between, amounts, told, tells, rfl⟩ := gives_accountCoins_iff.mp gives
  have different := distinct.nodup_asset (Whitelist.base58_of_load load)
  refine ⟨balance, between, amounts, told, tells, tells.length,
    countsOnce_of_nodup different tells.assets, fun vault fee solvent asset owes => ?_⟩
  exact SolvencyCheck.covers_eq_ok_true_iff.mp
    (SolvencyCheck.coversAll_eq_ok_true_iff.mp solvent asset owes)

/-! ### A contract that is listed twice -/

def usdtAccount : List UInt8 :=
  [0xa6, 0x14, 0xf8, 0x03, 0xb6, 0xfd, 0x78, 0x09, 0x86, 0xa4,
    0x2c, 0x78, 0xec, 0x9c, 0x7f, 0x77, 0xe6, 0xde, 0xd1, 0x3c]

def holderAccount : List UInt8 :=
  [0x05, 0x6d, 0xb2, 0x90, 0xf8, 0xba, 0x32, 0x50, 0xca, 0x64,
    0xa4, 0x5d, 0x16, 0x28, 0x4d, 0x04, 0xbc, 0x6f, 0x5f, 0xbf]

def usdt : Token := ⟨"TR7NHqjeKQxGTCi8q8ZY4pL8otSzgjLj6t", "USDT", 6⟩

def holder : String := Address.base58OfPayload (0x41 :: holderAccount)

def usdtBalance : Amount := ⟨100000000, by decide⟩

def owingVault : Vault :=
  ⟨"0339a36013301597daef41fbe593a02cc513d0b55527ec2df1050e2e8ff49c85c2",
    [⟨usdt.asset, ⟨15000000000, by decide⟩, 6⟩], [], "ActiveVault"⟩

def usdtLoading : (question : Question) → Bool → Option question.Answer × Bool
  | .node (.contractCall _ _), told =>
    (some (.ok ⟨some (Hex.encode (if told then BigEndian.ofNat 32 6
      else Utf8.encode "USDT" ++ List.replicate 28 0)), none⟩), !told)
  | _, told => (none, told)

def usdtHolding : (question : Question) → Unit → Option question.Answer × Unit
  | .node (.balance _), state => (some (.ok 10), state)
  | .node (.contractCall _ _), state =>
    (some (.ok ⟨some (Hex.encode (Abi.amountWord usdtBalance)), none⟩), state)
  | _, state => (none, state)

theorem contract_usdt : Address.base58OfPayload (0x41 :: usdtAccount) = usdt.contract := by
  decide +kernel

theorem toContractHex_usdt :
    Address.toContractHex usdt.contract = .ok ("0x" ++ Hex.encode usdtAccount) := by
  rw [← contract_usdt]
  exact Address.toContractHex_base58 rfl

theorem toBase58_usdt : Address.toBase58 usdt.contract = .ok usdt.contract := by
  rw [← contract_usdt]
  exact Address.toBase58_base58 rfl

theorem gives_loadToken_usdt {address : String}
    (spelled : Address.toBase58 address = .ok usdt.contract) :
    Action.Gives usdtLoading (Whitelist.loadToken address) false usdt false := by
  have ticker : (Abi.decodeTextAnswer
      (Hex.encode (Utf8.encode "USDT" ++ List.replicate 28 0))).toOption = some "USDT" := by
    decide +kernel
  have precision : (Abi.decodeAmountAnswer (Hex.encode (BigEndian.ofNat 32 6))).toOption =
      some ⟨6, by decide⟩ := by
    decide +kernel
  refine Action.gives_lift_bind.mpr ⟨_, spelled, ?_⟩
  refine Action.gives_lift_bind.mpr ⟨_, toContractHex_usdt, ?_⟩
  refine Action.gives_bind.mpr ⟨_, true, Whitelist.gives_callContract_iff.mpr rfl, ?_⟩
  refine Action.gives_lift_bind.mpr ⟨_, eq_ok_of_toOption ticker, ?_⟩
  refine Action.gives_bind.mpr ⟨_, false, Whitelist.gives_callContract_iff.mpr rfl, ?_⟩
  refine Action.gives_lift_bind.mpr ⟨_, eq_ok_of_toOption precision, ?_⟩
  exact Action.gives_lift_bind.mpr ⟨6, rfl, rfl⟩

theorem tellsBalance_usdt : TellsBalance usdtHolding holder usdt () usdtBalance () := by
  have call : Abi.encodeBalanceOf holder =
      .ok (Abi.selector Abi.balanceMethod ++ (List.replicate 12 0 ++ holderAccount)) := by
    unfold Abi.encodeBalanceOf holder
    rw [Abi.addressWord_base58 rfl]
    rfl
  have word : (Abi.decodeAmountAnswer (Hex.encode (Abi.amountWord usdtBalance))).toOption =
      some usdtBalance := by
    decide +kernel
  exact ⟨_, _, _, call, toContractHex_usdt, rfl, eq_ok_of_toOption word⟩

def usdtCoins (times : Nat) : List Coin :=
  Coin.ofTrx (Amount.ofSun (Amount.ofUInt64 10)) ::
    List.replicate times (Ingest.tokenCoin usdt usdtBalance)

theorem gives_accountCoins_usdt (times : Nat) :
    Action.Gives usdtHolding (accountCoins (List.replicate times usdt) holder) () (usdtCoins times)
      () := by
  refine gives_accountCoins_iff.mpr ⟨10, (), List.replicate times usdtBalance, rfl, ?_, ?_⟩
  · induction times with
    | zero => exact .nil ()
    | succ times ih => exact .cons tellsBalance_usdt ih
  · rw [List.zipWith_replicate', usdtCoins]

/-- Listed once, the contract counts once, and the vault is found out. -/
theorem balances_count_once_usdt :
    Action.Gives usdtLoading (Whitelist.load [usdt.contract]) false [usdt] false ∧
    Token.AreDistinct [usdt] ∧
    Action.Gives usdtHolding (accountCoins [usdt] holder) () (usdtCoins 1) () ∧
    (∃ balance amounts, CountsOnce (usdtCoins 1) balance [usdt] amounts) ∧
    SolvencyCheck.isSolvent (usdtCoins 1) owingVault Amount.zero = .ok false := by
  have load : Action.Gives usdtLoading (Whitelist.load [usdt.contract]) false [usdt] false :=
    Whitelist.gives_load_cons (gives_loadToken_usdt toBase58_usdt) Whitelist.gives_load_nil
  have distinct : Token.AreDistinct [usdt] := List.pairwise_singleton _ _
  have gives := gives_accountCoins_usdt 1
  have insolvent : (SolvencyCheck.isSolvent (usdtCoins 1) owingVault Amount.zero).toOption =
      some false := by
    decide +kernel
  obtain ⟨balance, -, amounts, -, -, -, counted, -⟩ := balances_count_once load distinct gives
  exact ⟨load, distinct, gives, ⟨balance, amounts, counted⟩, eq_ok_of_toOption insolvent⟩

/-- Listed in base58 and in hexadecimal, the contract counts twice. The vault owes more than the
account holds, and passes for solvent. -/
theorem repeated_contract_counts_twice :
    Action.Gives usdtLoading
      (Whitelist.load [usdt.contract, "41a614f803b6fd780986a42c78ec9c7f77e6ded13c"]) false
      [usdt, usdt] false ∧
    Action.Gives usdtHolding (accountCoins [usdt, usdt] holder) () (usdtCoins 2) () ∧
    TellsBalance usdtHolding holder usdt () usdtBalance () ∧
    (Ingest.tokenCoin usdt usdtBalance).amount.units = 10000000000 ∧
    (∃ held, Coin.total (usdtCoins 2) usdt.asset = .ok held ∧ held.units = 20000000000) ∧
    (∃ required, SolvencyCheck.owed owingVault Amount.zero usdt.asset = .ok required ∧
      required.units = 15000000000) ∧
    SolvencyCheck.isSolvent (usdtCoins 2) owingVault Amount.zero = .ok true := by
  have second : Address.toBase58 "41a614f803b6fd780986a42c78ec9c7f77e6ded13c" =
      .ok usdt.contract := by
    have hex : Hex.encode (0x41 :: usdtAccount) = "41a614f803b6fd780986a42c78ec9c7f77e6ded13c" := by
      decide +kernel
    rw [← hex, ← contract_usdt]
    exact Address.toBase58_hex rfl
  have total : (Coin.total (usdtCoins 2) usdt.asset).toOption =
      some ⟨20000000000, by decide⟩ := by
    decide +kernel
  have owed : (SolvencyCheck.owed owingVault Amount.zero usdt.asset).toOption =
      some ⟨15000000000, by decide⟩ := by
    decide +kernel
  have solvent : (SolvencyCheck.isSolvent (usdtCoins 2) owingVault Amount.zero).toOption =
      some true := by
    decide +kernel
  have again := Whitelist.gives_load_cons (gives_loadToken_usdt second) Whitelist.gives_load_nil
  have loaded := Whitelist.gives_load_cons (gives_loadToken_usdt toBase58_usdt) again
  exact ⟨loaded, gives_accountCoins_usdt 2, tellsBalance_usdt, by decide +kernel,
    ⟨_, eq_ok_of_toOption total, rfl⟩, ⟨_, eq_ok_of_toOption owed, rfl⟩,
    eq_ok_of_toOption solvent⟩

end Scanner
end TronGateway
