import TronGateway.Proofs.Asset
import TronGateway.Proofs.Ingest
import TronGateway.Proofs.Payment
import TronGateway.Proofs.Payment.Amount
import TronGateway.Proofs.Payment.Success
import TronGateway.Proofs.Whitelist
set_option autoImplicit false

/-!
# Payments as they are seen on the chain

A payment that took effect is reported as an inbound transfer like any other. What is reported is
the order again: the vault pays its recipient the asset of the order with its memo, and the amount
is that of the order rounded down to the precision of the asset. The node is taken to build what it
is asked for.
-/

namespace TronGateway.Payment

variable {State : Type}
  {answer : (question : Question) → State → Option question.Answer × State}
  {tokens : List Token} {order : Order} {coin : Coin} {owner recipient : String}
  {account : List UInt8} {shell : Transaction} {state after : State}

/-- The shell has one contract, which moves as many sun as were asked for. -/
structure MovesAsAsked (shell : Transaction) (owner recipient : String) (sun : UInt64)
    (contract : Contract) (value : TransferValue) : Prop where
  single : shell.raw.contracts = [contract]
  kind : contract.kind = "TransferContract"
  wellFormed : TransferValue.ofValue? contract.value = some value
  owner : value.owner = owner
  recipient : value.recipient = recipient
  amount : value.amount = sun.toInt64

/-- The shell has one contract, which calls the method that was asked for. -/
structure CallsAsAsked (shell : Transaction) (owner address method parameter : String)
    (contract : Contract) (value : TriggerValue) : Prop where
  single : shell.raw.contracts = [contract]
  kind : contract.kind = "TriggerSmartContract"
  wellFormed : TriggerValue.ofValue? contract.value = some value
  owner : value.owner = owner
  address : value.contract = address
  data : value.data = Hex.encode (Abi.selector method) ++ parameter

/-- Whatever the node builds says what was asked for. -/
structure NodeEchoes (answer : (question : Question) → State → Option question.Answer × State) :
    Prop where
  transfer : ∀ {owner recipient memo : String} {sun : UInt64} {state after : State}
    {shell : Transaction},
    answer (.node (.createTransaction owner recipient sun memo)) state = (some (.ok shell), after) →
      ∃ contract value, MovesAsAsked shell owner recipient sun contract value
  trigger : ∀ {owner address method parameter : String} {limit : UInt64} {state after : State}
    {shell : Transaction},
    answer (.node (.triggerContract owner address method parameter limit)) state =
        (some (.ok shell), after) →
      ∃ contract value, CallsAsAsked shell owner address method parameter contract value

/-- The decimals that an asset has on the chain. -/
def precision? (tokens : List Token) (asset : Asset) : Option UInt32 :=
  if asset = Asset.trx then some Amount.trxDecimals
  else (Token.findByAsset? tokens asset).map Token.decimals

/-- What the coin is worth on the chain has 63 bits at most for TRX, and 128 for a token. -/
def FitsChain (tokens : List Token) (coin : Coin) : Prop :=
  ∀ places, precision? tokens coin.asset = some places →
    coin.amount.units * 10 ^ places.toNat / 10 ^ 8 <
      if coin.asset = Asset.trx then 2 ^ 63 else 2 ^ 128

/-- The number of units is another one, rounded down to a precision of `places` decimals. -/
structure RoundsDown (units places n : Nat) : Prop where
  amount : n = units / 10 ^ (8 - places) * 10 ^ (8 - places)
  atMost : n ≤ units
  exact : 8 ≤ places ∨ 10 ^ (8 - places) ∣ units → n = units

theorem roundsDown_iff {units places n : Nat} :
    RoundsDown units places n ↔ n = units / 10 ^ (8 - places) * 10 ^ (8 - places) := by
  constructor
  · intro rounds
    exact rounds.amount
  · intro amount
    refine ⟨amount, ?_, ?_⟩
    · rw [amount]
      exact Nat.div_mul_le_self _ _
    · intro whole
      have divides : 10 ^ (8 - places) ∣ units := by
        rcases whole with fine | divides
        · rw [Nat.sub_eq_zero_of_le fine]
          exact Nat.one_dvd units
        · exact divides
      rw [amount, Nat.div_mul_cancel divides]

theorem roundsDown_rescaled (units places : Nat) :
    RoundsDown units places (units * 10 ^ places / 10 ^ 8 * 10 ^ 8 / 10 ^ places) := by
  have positive (count : Nat) : 0 < 10 ^ count := Nat.pow_pos (by decide)
  apply roundsDown_iff.mpr
  rcases Nat.le_total 8 places with fine | coarse
  · have split : 10 ^ places = 10 ^ (places - 8) * 10 ^ 8 := by
      rw [← Nat.pow_add, Nat.sub_add_cancel fine]
    rw [Nat.sub_eq_zero_of_le fine, Nat.pow_zero, Nat.div_one, Nat.mul_one, split,
      ← Nat.mul_assoc, Nat.mul_div_cancel _ (positive 8), Nat.mul_assoc, ← split,
      Nat.mul_div_cancel _ (positive places)]
  · have split : 10 ^ 8 = 10 ^ (8 - places) * 10 ^ places := by
      rw [← Nat.pow_add, Nat.sub_add_cancel coarse]
    rw [split, Nat.mul_div_mul_right _ _ (positive places), ← Nat.mul_assoc,
      Nat.mul_div_cancel _ (positive places)]

theorem roundsDown_rescale_rescale {amount : Amount} {decimals : UInt32}
    (small : amount.units * 10 ^ decimals.toNat / 10 ^ 8 < 2 ^ 128) :
    RoundsDown amount.units decimals.toNat
      ((amount.rescale Amount.protocolDecimals decimals).rescale decimals
        Amount.protocolDecimals).units := by
  have there := Amount.units_rescale amount Amount.protocolDecimals decimals
  have back := Amount.units_rescale (amount.rescale Amount.protocolDecimals decimals) decimals
    Amount.protocolDecimals
  change _ = min (amount.units * 10 ^ decimals.toNat / 10 ^ 8) _ at there
  change _ = min (_ * 10 ^ 8 / 10 ^ decimals.toNat) _ at back
  -- Neither way is capped: what comes back is no more than what there was.
  rw [Nat.min_eq_left (by omega)] at there
  have rounds := roundsDown_rescaled amount.units decimals.toNat
  have most := rounds.atMost
  have bound := amount.units_le
  rw [there, Nat.min_eq_left (by omega)] at back
  rw [back]
  exact rounds

/-! ### What the shell pays -/

/-- The shell has one contract, and it pays the coin as far as the chain can tell it apart. -/
structure PaysCoin (tokens : List Token) (shell : Transaction) (owner recipient : String)
    (coin : Coin) (places : UInt32) (amount : Amount) : Prop where
  single : ∃ contract, shell.raw.contracts = [contract] ∧
    Ingest.Moves tokens contract ⟨owner, recipient, ⟨coin.asset, amount, places⟩⟩
  precision : precision? tokens coin.asset = some places
  rounded : RoundsDown coin.amount.units places.toNat amount.units

theorem paysCoin_of_buildTransfer (echoing : NodeEchoes answer) (gas : coin.asset = Asset.trx)
    (fits : FitsChain tokens coin) (payer : Address.toBase58 owner = .ok owner)
    (payee : Address.toBase58 recipient = .ok recipient)
    (built :
      Action.Gives answer (buildTransfer order coin owner recipient) state shell after) :
    ∃ places amount, PaysCoin tokens shell owner recipient coin places amount := by
  have precision : precision? tokens coin.asset = some 6 := if_pos gas
  have small : coin.amount.units * 10 ^ 6 / 10 ^ 8 < 2 ^ 63 := by
    have bound := fits 6 precision
    rw [if_pos gas] at bound
    exact bound
  obtain ⟨sun, payable, answered⟩ := of_buildTransfer built
  obtain ⟨contract, value, asked⟩ := echoing.transfer answered
  have paid : sun.toNat = coin.amount.units / 100 := by
    have exact := (payable_toSun_iff.mp payable).amount
    omega
  have signed : value.amount.toInt = sun.toNat := by
    rw [asked.amount]
    exact toInt_toInt64 (by omega)
  have units := Amount.units_ofSun_ofUInt64 sun
  have moves : Ingest.MovesTrx contract
      ⟨owner, recipient, ⟨coin.asset, Amount.ofSun (Amount.ofUInt64 sun), 6⟩⟩ value := {
    kind := asked.kind
    wellFormed := asked.wellFormed
    notNegative := by omega
    sender := by
      rw [asked.owner]
      exact payer
    recipient := by
      rw [asked.recipient]
      exact payee
    asset := gas
    decimals := rfl
    units := by
      dsimp only
      omega }
  refine ⟨6, Amount.ofSun (Amount.ofUInt64 sun), ⟨contract, asked.single, .inl ⟨value, moves⟩⟩,
    precision, roundsDown_iff.mpr ?_⟩
  rw [units, paid]
  rfl

theorem callData_of_asked {amount : Amount} {text : String}
    (same : text = Hex.encode (Abi.selector Abi.transferMethod) ++ Hex.encode
      ((Abi.selector Abi.transferMethod ++
        ((List.replicate 12 0 ++ account) ++ Abi.amountWord amount)).drop Abi.selectorLength)) :
    ∃ data, Hex.SpellsMarked text.toList data ∧ Abi.IsTransferTo account amount data := by
  rw [List.drop_left' (Abi.length_selector _), ← Hex.encode_append] at same
  have spells := Hex.decode_eq_ok_iff.mp (Hex.decode_encode (Abi.selector Abi.transferMethod ++
    ((List.replicate 12 0 ++ account) ++ Abi.amountWord amount)))
  rw [← same] at spells
  refine ⟨_, ⟨0, text.toList, rfl, spells⟩, List.replicate 12 0, [], List.length_replicate, ?_⟩
  rw [List.append_nil]

theorem paysCoin_of_buildTokenTransfer (echoing : NodeEchoes answer)
    (spelled : ∀ token ∈ tokens, Address.toBase58 token.contract = .ok token.contract)
    (distinct : Token.AreDistinct tokens) (other : coin.asset ≠ Asset.trx)
    (fits : FitsChain tokens coin) (payer : Address.toBase58 owner = .ok owner)
    (length : account.length = 20)
    (built : Action.Gives answer
      (buildTokenTransfer tokens order coin owner (Address.base58OfPayload (0x41 :: account)))
      state shell after) :
    ∃ places amount, PaysCoin tokens shell owner (Address.base58OfPayload (0x41 :: account))
      coin places amount := by
  obtain ⟨token, call, limit, listed, encoded, answered⟩ := of_buildTokenTransfer built
  obtain ⟨contract, value, asked⟩ := echoing.trigger answered
  obtain ⟨member, asset⟩ := Token.mem_of_findByAsset? listed
  have precision : precision? tokens coin.asset = some token.decimals := by
    unfold precision?
    rw [if_neg other, listed]
    rfl
  have small := fits token.decimals precision
  rw [if_neg other] at small
  rw [Abi.encodeTransfer_base58 length] at encoded
  cases encoded
  have rounds := roundsDown_rescale_rescale small
  refine ⟨token.decimals, _, ⟨contract, asked.single, .inr ⟨value, token, account,
    coin.amount.rescale Amount.protocolDecimals token.decimals, ?_⟩⟩, precision, rounds⟩
  exact {
    kind := asked.kind
    wellFormed := asked.wellFormed
    whitelisted := by
      rw [asked.address]
      exact ⟨token.contract, spelled token member, Token.findByContract?_of_mem distinct member⟩
    callData := callData_of_asked asked.data
    length := length
    sender := by
      rw [asked.owner]
      exact payer
    recipient := rfl
    asset := asset.symm
    decimals := rfl
    units := Amount.units_rescale _ token.decimals Amount.protocolDecimals }

theorem paysCoin_of_build (echoing : NodeEchoes answer)
    (spelled : ∀ token ∈ tokens, Address.toBase58 token.contract = .ok token.contract)
    (distinct : Token.AreDistinct tokens) (fits : FitsChain tokens coin)
    (payer : Address.toBase58 owner = .ok owner) (length : account.length = 20)
    (built : Action.Gives answer
      (build tokens order coin owner (Address.base58OfPayload (0x41 :: account)))
      state shell after) :
    ∃ places amount, PaysCoin tokens shell owner (Address.base58OfPayload (0x41 :: account))
      coin places amount := by
  unfold build Asset.isGas at built
  by_cases gas : coin.asset = Asset.trx
  · rw [if_pos (decide_eq_true gas)] at built
    exact paysCoin_of_buildTransfer echoing gas fits payer (Address.toBase58_base58 length) built
  · rw [if_neg (mt of_decide_eq_true gas)] at built
    exact paysCoin_of_buildTokenTransfer echoing spelled distinct gas fits payer length built

/-! ### What is seen of it -/

/-- What a block shows of a transaction that took effect. -/
structure ShowsSuccess (tx seen : Transaction) : Prop where
  id : seen.id = tx.id
  contracts : seen.raw.contracts = tx.raw.contracts
  data : seen.raw.data = tx.raw.data
  outcome : seen.outcomes.head? = some (some "SUCCESS")

/-- The transfer is what the order says. -/
structure Mirrors (tokens : List Token) (order : Order) (coin : Coin) (item : Transfer) : Prop where
  sender : KeyText.address order.vault = .ok item.sender
  recipient : Address.toBase58 order.recipient = .ok item.recipient
  memo : item.memo = Text.trim order.memo
  coins : ∃ places amount, item.coins = [⟨coin.asset, amount, places⟩] ∧
    precision? tokens coin.asset = some places ∧
    RoundsDown coin.amount.units places.toNat amount.units

theorem isInbound_of_paysCoin {places : UInt32} {amount : Amount} {tx seen : Transaction}
    {block : RefBlock} (pays : PaysCoin tokens shell owner recipient coin places amount)
    (shows : ShowsBinding shell tx block order.memo) (success : ShowsSuccess tx seen)
    (memo : Text.trim order.memo ≠ "") :
    Ingest.IsInbound tokens seen ⟨owner, recipient, ⟨coin.asset, amount, places⟩⟩
      (Text.trim order.memo) := by
  obtain ⟨contract, single, moves⟩ := pays.single
  refine ⟨success.outcome, ⟨contract, ?_, moves⟩, ⟨order.memo, ?_, rfl⟩, memo⟩
  · rw [success.contracts, shows.contracts, single]
  · rw [success.data, shows.memo_hex]
    exact Hex.decode_eq_ok_iff.mp (Hex.decode_encode _)

/-- The payload that pays an order with a memo is the text of a transaction which, once a block
shows that it took effect and the node tells its fee, is reported as the transfer that the order
asks for, in the amount of the order rounded down to the precision of the asset. -/
theorem paid_order_is_ingested {Loading Signing Watching : Type}
    {loading : (question : Question) → Loading → Option question.Answer × Loading}
    {signing : (question : Question) → Signing → Option question.Answer × Signing}
    (watching : (question : Question) → Watching → Option question.Answer × Watching)
    {addresses : List String} {tokens : List Token} {opening loadedAt : Loading}
    (loaded : Action.Gives loading (Whitelist.load addresses) opening tokens loadedAt)
    (distinct : Token.AreDistinct tokens) {signers : Signer.Signers} {order : Order}
    (memo : Text.trim order.memo ≠ "") {account : List UInt8}
    (recipient : Address.Spells order.recipient (0x41 :: account))
    (fits : ∀ coin ∈ order.coins, FitsChain tokens coin) (echoing : NodeEchoes signing)
    {now : Int64} {before after : Signing} {payload : String}
    (signed : Action.Gives signing (signOrder ⟨tokens, signers⟩ order now) before payload after)
    (unpaid : payload ≠ "") :
    ∃ coin tx, order.coins = [coin] ∧ payload = tx.toText ∧
      (tx.IsExact → Transaction.parse payload = some tx) ∧
      ∀ (seen : Transaction) (height : Int64) (state last : Watching) (info : TransactionInfo),
        ShowsSuccess tx seen →
        watching (.node (.transactionInfo tx.id)) state = (some (.ok info), last) →
        ∃ item, Action.Gives watching (Ingest.transfer tokens seen height) state (some item) last ∧
          item.tx = tx.id ∧ item.height = height ∧ Mirrors tokens order coin item := by
  obtain ⟨asked, known, memory, tx, -, -, signing, rfl⟩ := of_signOrder signed unpaid
  obtain ⟨coin, owner, target, built, shell, coinKnown, ownerKnown, targetKnown, building,
    finishing⟩ := of_signUnpaid signing
  obtain ⟨⟨block, -, shows⟩, -⟩ := of_finish finishing
  obtain ⟨single, -⟩ := onlyCoin_eq_ok_iff.mp coinKnown
  have length := recipient.length_account
  have spelled := Address.toBase58_eq_ok_iff.mpr ⟨_, recipient, rfl⟩
  cases targetKnown.symm.trans spelled
  obtain ⟨vaultAccount, vaultLength, rfl⟩ := KeyText.base58_of_address ownerKnown
  have fitting : FitsChain tokens coin := by
    apply fits
    rw [single]
    exact List.mem_cons_self
  obtain ⟨places, amount, pays⟩ := paysCoin_of_build echoing (Whitelist.base58_of_load loaded)
    distinct fitting (Address.toBase58_base58 vaultLength) length building
  refine ⟨coin, tx, single, rfl, Transaction.parse_toText, ?_⟩
  intro seen height state last info success told
  have inbound := isInbound_of_paysCoin pays shows success memo
  rw [← success.id] at told
  refine ⟨_, Ingest.gives_transfer_iff.mpr ⟨_, _, info, inbound, told, Ingest.reports_iff.mpr rfl⟩,
    success.id, rfl, ?_⟩
  exact ⟨ownerKnown, spelled, rfl, ⟨places, amount, rfl, pays.precision, pays.rounded⟩⟩

/-! A token of six decimals is paid by a node that echoes. -/

def heldToken : Token where
  contract := Address.base58OfPayload (0x41 :: List.replicate 20 7)
  symbol := "USDT"
  decimals := 6

def tokenCoin : Coin := ⟨heldToken.asset, ⟨650, by decide⟩, 6⟩

def tokenOrder : Order :=
  { sharedOrder with coins := [tokenCoin] }

def callingContract (owner address data : String) : Contract where
  value := .object [("data", .text data), ("owner_address", .text owner),
    ("contract_address", .text address)]
  typeUrl := "T"
  kind := triggerKind
  permissionId := none

def callingShell (contract : Contract) : Transaction :=
  { sharedShell with raw := { sharedShell.raw with contracts := [contract] } }

def echoingAnswer : (question : Question) → Memory → Option question.Answer × Memory
  | .store (.get _), memory => (some (.ok none), memory)
  | .node (.triggerContract owner address method parameter _), memory =>
    (some (.ok (callingShell (callingContract owner address
      (Hex.encode (Abi.selector method) ++ parameter)))), memory)
  | .node _, memory => (none, memory)
  | question, memory => sharedAnswer question memory

theorem ofValue?_callingContract (owner address data : String) :
    TriggerValue.ofValue? (callingContract owner address data).value =
      some ⟨data, owner, address, 0⟩ := by
  rfl

theorem nodeEchoes_echoingAnswer : NodeEchoes echoingAnswer where
  transfer := by
    intro owner recipient memo sun state after shell answered
    cases answered
  trigger := by
    intro owner address method parameter limit state after shell answered
    cases answered
    exact ⟨_, _, rfl, rfl, ofValue?_callingContract _ _ _, rfl, rfl, rfl⟩

def tickerWord : List UInt8 := Utf8.encode "USDT" ++ List.replicate 28 0

def precisionWord : List UInt8 := BigEndian.ofNat 32 6

def tellingAnswer : (question : Question) → Bool → Option question.Answer × Bool
  | .node (.contractCall _ _), told =>
    (some (.ok ⟨some (Hex.encode (if told then precisionWord else tickerWord)), none⟩), true)
  | _, told => (none, told)

theorem symbol_tokenCoin : ∃ rest, tokenCoin.asset.symbol.toList = 'U' :: rest := by
  have first (contract : String) :
      ∃ rest, (Asset.token "USDT" contract).symbol.toList = 'U' :: rest := by
    unfold Asset.token Text.uppercase
    rw [String.toList_ofList, String.toList_append]
    exact ⟨_, rfl⟩
  exact first heldToken.contract

theorem asset_tokenCoin : tokenCoin.asset ≠ Asset.trx :=
  Asset.token_ne_trx "USDT" heldToken.contract

theorem isEmpty_tokenCoin : tokenCoin.isEmpty = false := by
  obtain ⟨rest, symbol⟩ := symbol_tokenCoin
  have named : tokenCoin.asset.symbol.isEmpty = false := by
    apply Bool.eq_false_iff.mpr
    intro empty
    rw [String.isEmpty_iff.mp empty] at symbol
    cases symbol
  unfold Coin.isEmpty Asset.isEmpty
  rw [named]
  rfl

theorem listed_tokenCoin : Token.findByAsset? [heldToken] tokenCoin.asset = some heldToken :=
  Token.findByAsset?_singleton heldToken

theorem precision_tokenCoin : precision? [heldToken] tokenCoin.asset = some 6 := by
  unfold precision?
  rw [if_neg asset_tokenCoin, listed_tokenCoin]
  rfl

theorem gives_loadToken_heldToken :
    Action.Gives tellingAnswer (Whitelist.loadToken (Hex.encode (0x41 :: List.replicate 20 7)))
      false heldToken true := by
  have length : (List.replicate 20 (7 : UInt8)).length = 20 := List.length_replicate
  have spelled := Address.toBase58_hex length
  have contract := Address.toContractHex_base58 length
  have ticker : (Abi.decodeTextAnswer (Hex.encode tickerWord)).toOption = some "USDT" := by
    decide +kernel
  have precision : (Abi.decodeAmountAnswer (Hex.encode precisionWord)).toOption =
      some ⟨6, by decide⟩ := by
    decide +kernel
  refine Action.gives_lift_bind.mpr ⟨_, spelled, ?_⟩
  refine Action.gives_lift_bind.mpr ⟨_, contract, ?_⟩
  refine Action.gives_bind.mpr ⟨Hex.encode tickerWord, true, rfl, ?_⟩
  refine Action.gives_lift_bind.mpr ⟨_, eq_ok_of_toOption ticker, ?_⟩
  refine Action.gives_bind.mpr ⟨Hex.encode precisionWord, true, rfl, ?_⟩
  refine Action.gives_lift_bind.mpr ⟨_, eq_ok_of_toOption precision, ?_⟩
  exact Action.gives_lift_bind.mpr ⟨6, rfl, rfl⟩

theorem gives_load_heldToken :
    Action.Gives tellingAnswer (Whitelist.load [Hex.encode (0x41 :: List.replicate 20 7)]) false
      [heldToken] true :=
  Whitelist.gives_load_cons gives_loadToken_heldToken Whitelist.gives_load_nil

theorem gives_build_tokenOrder (owner : String) (memory : Memory) :
    ∃ data, Action.Gives echoingAnswer
      (build [heldToken] tokenOrder tokenCoin owner
        (Address.base58OfPayload (0x41 :: List.replicate 20 0))) memory
      (callingShell (callingContract owner heldToken.contract data)) memory := by
  have notGas : tokenCoin.asset.isGas ≠ true := mt of_decide_eq_true asset_tokenCoin
  unfold build
  rw [if_neg notGas]
  exact ⟨_, gives_buildTokenTransfer listed_tokenCoin List.length_replicate rfl rfl rfl⟩

theorem gives_signUnpaid_tokenOrder : ∃ tx, Action.Gives echoingAnswer
    (signUnpaid ⟨[heldToken], ⟨none, true, false⟩⟩ tokenOrder [sharedBlock] firstNow) sharedMemory
    tx sharedMemory := by
  have coinKnown := onlyCoin_eq_ok_iff.mpr ⟨rfl, isEmpty_tokenCoin⟩
  obtain ⟨owner, ownerKnown⟩ : ∃ owner, KeyText.address tokenOrder.vault = .ok owner :=
    ⟨_, KeyText.address_of_parse parse_sharedVault⟩
  have recipientKnown : Address.toBase58 tokenOrder.recipient = .ok _ :=
    Address.toBase58_hex List.length_replicate
  obtain ⟨data, built⟩ := gives_build_tokenOrder owner sharedMemory
  -- The parts of a shell do not depend on its contract.
  have parts := hasParts_boundShell firstTime
  have named := eq_ok_of_toOption hashText_sharedBlock
  have spelled : Hex.read (Hex.encode (Sha256.digest (boundBytes firstTime))) =
      .ok (BigEndian.ofNat 32 firstHash) := by
    rw [digest_first, Hex.read_encode]
  have binding : Action.Gives echoingAnswer
      (bindTo (callingShell (callingContract owner heldToken.contract data)) sharedBlock firstTime
        tokenOrder.memo) sharedMemory _ sharedMemory :=
    gives_bindTo named rfl ⟨parts.stale, parts.refBlockBytes, parts.refBlockHash, parts.data⟩
  have verified := verify_eq_ok parse_sharedVault (recover_sharedSignature recover_first)
  have signing : Action.Gives echoingAnswer
      (sign ⟨[heldToken], ⟨none, true, false⟩⟩ tokenOrder (BigEndian.ofNat 32 firstHash))
      sharedMemory _ sharedMemory :=
    gives_sign rfl rfl rfl (bytes_sharedSignature _) verified
  exact ⟨_, gives_signUnpaid rfl coinKnown ownerKnown recipientKnown built rfl rfl binding spelled
    signing⟩

def tellsFees : (question : Question) → Unit → Option question.Answer × Unit
  | .node (.transactionInfo id), state => (some (.ok ⟨id, 345000, 68975049, .empty⟩), state)
  | _, state => (none, state)

/-- Of six and a half units of the token six are paid, and reported. -/
theorem paid_tokenOrder_is_ingested :
    ∃ (payload : String) (tx : Transaction) (item : Transfer),
      Action.Gives tellingAnswer (Whitelist.load [Hex.encode (0x41 :: List.replicate 20 7)]) false
        [heldToken] true ∧
      Token.AreDistinct [heldToken] ∧ Text.trim tokenOrder.memo ≠ "" ∧
      Address.Spells tokenOrder.recipient (0x41 :: List.replicate 20 0) ∧
      (∀ coin ∈ tokenOrder.coins, FitsChain [heldToken] coin) ∧ NodeEchoes echoingAnswer ∧
      Action.Gives echoingAnswer (signOrder ⟨[heldToken], ⟨none, true, false⟩⟩ tokenOrder firstNow)
        sharedMemory payload sharedMemory ∧
      payload ≠ "" ∧ payload = tx.toText ∧
      Action.Gives tellsFees
        (Ingest.transfer [heldToken] { tx with outcomes := [some "SUCCESS"] } 68975049) ()
        (some item) () ∧
      item.tx = tx.id ∧ Mirrors [heldToken] tokenOrder tokenCoin item ∧
      item.coins = [⟨heldToken.asset, ⟨600, by decide⟩, 6⟩] := by
  have distinct : Token.AreDistinct [heldToken] := List.pairwise_singleton _ _
  have memo : Text.trim tokenOrder.memo ≠ "" := by decide
  have recipient : Address.Spells tokenOrder.recipient (0x41 :: List.replicate 20 0) :=
    Address.spells_hex List.length_replicate
  have fits : ∀ coin ∈ tokenOrder.coins, FitsChain [heldToken] coin := by
    intro coin member
    cases List.mem_singleton.mp member
    intro places known
    cases precision_tokenCoin.symm.trans known
    rw [if_neg asset_tokenCoin]
    decide
  obtain ⟨tx, signed⟩ := gives_signUnpaid_tokenOrder
  have unpaid : Action.Gives echoingAnswer
      (Action.ofStored (PaymentRecord.isPaid tokenOrder.fingerprint)) sharedMemory false
      sharedMemory := rfl
  have remembered : echoingAnswer .memory sharedMemory = (some sharedMemory, sharedMemory) := rfl
  have gives : Action.Gives echoingAnswer
      (signOrder ⟨[heldToken], ⟨none, true, false⟩⟩ tokenOrder firstNow) sharedMemory tx.toText
      sharedMemory := gives_signOrder unpaid remembered signed
  obtain ⟨coin, other, single, same, -, ingested⟩ := paid_order_is_ingested tellsFees
    gives_load_heldToken distinct memo recipient fits nodeEchoes_echoingAnswer gives
    (toText_ne_empty tx)
  cases single
  obtain ⟨item, reported, named, -, mirrors⟩ := ingested
    { other with outcomes := [some "SUCCESS"] } 68975049 () () ⟨other.id, 345000, 68975049, .empty⟩
    ⟨rfl, rfl, rfl, rfl⟩ rfl
  obtain ⟨places, amount, coins, precision, rounds⟩ := mirrors.coins
  cases precision_tokenCoin.symm.trans precision
  have worth : amount.units = 600 := rounds.amount
  have paid : amount = ⟨600, by decide⟩ := Amount.eq_of_units worth
  exact ⟨_, other, item, gives_load_heldToken, distinct, memo, recipient, fits,
    nodeEchoes_echoingAnswer, gives, toText_ne_empty tx, same, reported, named, mirrors,
    paid ▸ coins⟩

end TronGateway.Payment
