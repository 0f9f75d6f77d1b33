import TronGateway.Message
import TronGateway.Proofs.Asset.Spelling
import TronGateway.Proofs.Json.Decode
import TronGateway.Proofs.Number.Amount
set_option autoImplicit false

/-!
# Reading back messages

Every message is read from its own text: vaults, observations, fees, solvency and orders, with all
amounts, precisions and texts. The assets in them have to be made by the gateway, since the text of
an asset in other letters is read as one in capital letters.
-/

namespace TronGateway

open Json (Members ofText ofInt ofMembers readMembers readText readList)

theorem Json.decode_toText {α : Type} {reader : Json.Reader α} {json : Json} {value : α}
    (spelled : json.IsSpelled) (read : reader maxDepth json = some value) :
    decode reader json.toText = some value := by
  unfold decode
  rw [parse_toText json spelled, Option.bind_some, read]

theorem Amount.readJson_toJson (depth : Nat) (amount : Amount) :
    readJson depth amount.toJson = some amount :=
  ofText?_toText amount

namespace Coin

def namedToJson (text : String) (amount : Amount) (decimals : UInt32) : Json :=
  ofMembers [("asset", ofText text), ("amount", amount.toJson), ("decimals", ofInt decimals.toNat)]

theorem readJson_namedToJson {text : String} {asset : Asset} (depth : Nat)
    (parsed : Asset.parse text = .ok asset) (amount : Amount) (decimals : UInt32) :
    readJson (depth + 1) (namedToJson text amount decimals) =
      some ⟨asset, amount, decimals⟩ := by
  have members : readMembers ["asset", "amount", "decimals"] (depth + 1)
      (namedToJson text amount decimals) = some ⟨depth, [("asset", ofText text),
        ("amount", amount.toJson), ("decimals", ofInt decimals.toNat)]⟩ :=
    Json.readMembers_ofMembers depth (by decide) (List.Sublist.refl _)
  have read : Asset.readJson depth (ofText text) = some asset := by
    unfold Asset.readJson
    rw [Json.readText_ofText]
    dsimp only
    rw [parsed]
    rfl
  unfold readJson
  rw [members]
  simp only [Option.bind_eq_bind, Option.bind_some]
  rw [Members.required_of_lookup (ofText text) _ rfl, read,
    Members.required_of_lookup amount.toJson _ rfl, Amount.readJson_toJson,
    Members.optional_of_lookup (ofInt decimals.toNat) _ _ rfl, Json.readUInt32_ofInt]
  rfl

theorem isSpelled_namedToJson (text : String) (amount : Amount) (decimals : UInt32) :
    (namedToJson text amount decimals).IsSpelled := by
  have units : amount.toJson.IsSpelled := Json.isSpelled_ofText _
  apply Json.isSpelled_ofMembers
  simp only [List.forall_mem_cons, units, Json.isSpelled_ofText, Json.isSpelled_ofInt, true_and]
  exact fun member inside => absurd inside List.not_mem_nil

/-- The assets of the coins are made by the gateway. -/
def AreMade (coins : List Coin) : Prop :=
  ∀ coin ∈ coins, coin.asset.IsMade

variable {coins : List Coin}

theorem readList_listToJson (depth : Nat) (made : AreMade coins) :
    readList readJson (depth + 2) (listToJson coins) = some coins :=
  Json.readList_ofList fun coin member =>
    readJson_namedToJson depth (Asset.parse_toText (made coin member)) coin.amount coin.decimals

theorem isSpelled_listToJson (coins : List Coin) : (listToJson coins).IsSpelled :=
  Json.isSpelled_ofList fun coin _ =>
    isSpelled_namedToJson coin.asset.toText coin.amount coin.decimals

end Coin

namespace Vault

theorem readJson_toJson {vault : Vault} (depth : Nat) (coins : Coin.AreMade vault.coins)
    (pending : Coin.AreMade vault.pendingOutbound) :
    readJson (depth + 3) vault.toJson = some vault := by
  have members : readMembers ["pub_key", "coins", "pending_outbound", "status"] (depth + 3)
      vault.toJson = some ⟨depth + 2, [("pub_key", ofText vault.pubKey),
        ("coins", Coin.listToJson vault.coins),
        ("pending_outbound", Coin.listToJson vault.pendingOutbound),
        ("status", ofText vault.status)]⟩ :=
    Json.readMembers_ofMembers (depth + 2) (by decide) (List.Sublist.refl _)
  unfold readJson
  rw [members]
  simp only [Option.bind_eq_bind, Option.bind_some]
  rw [Members.required_of_lookup (ofText vault.pubKey) _ rfl, Json.readText_ofText,
    Members.optional_of_lookup (Coin.listToJson vault.coins) _ _ rfl,
    Coin.readList_listToJson depth coins,
    Members.optional_of_lookup (Coin.listToJson vault.pendingOutbound) _ _ rfl,
    Coin.readList_listToJson depth pending,
    Members.optional_of_lookup (ofText vault.status) _ _ rfl, Json.readText_ofText]
  rfl

theorem isSpelled_toJson (vault : Vault) : vault.toJson.IsSpelled := by
  apply Json.isSpelled_ofMembers
  simp only [List.forall_mem_cons, Coin.isSpelled_listToJson, Json.isSpelled_ofText, true_and]
  exact fun member inside => absurd inside List.not_mem_nil

end Vault

namespace Solvency

theorem readJson_toJson {solvency : Solvency} (depth : Nat)
    (coins : Coin.AreMade solvency.coins) :
    readJson (depth + 3) solvency.toJson = some solvency := by
  have members : readMembers ["height", "chain", "pub_key", "coins", "solvent"] (depth + 3)
      solvency.toJson = some ⟨depth + 2, [("height", ofInt solvency.height.toInt),
        ("chain", ofText solvency.chain), ("pub_key", ofText solvency.pubKey),
        ("coins", Coin.listToJson solvency.coins), ("solvent", .bool solvency.solvent)]⟩ :=
    Json.readMembers_ofMembers (depth + 2) (by decide) (List.Sublist.refl _)
  unfold readJson
  rw [members]
  simp only [Option.bind_eq_bind, Option.bind_some]
  rw [Members.required_of_lookup (ofInt solvency.height.toInt) _ rfl, Json.readInt64_ofInt,
    Members.required_of_lookup (ofText solvency.chain) _ rfl, Json.readText_ofText,
    Members.required_of_lookup (ofText solvency.pubKey) _ rfl, Json.readText_ofText,
    Members.required_of_lookup (Coin.listToJson solvency.coins) _ rfl,
    Coin.readList_listToJson depth coins,
    Members.required_of_lookup (.bool solvency.solvent) _ rfl, Json.readBool_bool]
  rfl

theorem isSpelled_toJson (solvency : Solvency) : solvency.toJson.IsSpelled := by
  apply Json.isSpelled_ofMembers
  simp only [List.forall_mem_cons, Coin.isSpelled_listToJson, Json.isSpelled_ofText,
    Json.isSpelled_ofInt, Json.isSpelled_bool, true_and]
  exact fun member inside => absurd inside List.not_mem_nil

end Solvency

/-! ### Observations -/

namespace Transfer

/-- The assets of the coins and of the gas are made by the gateway. -/
structure IsMade (transfer : Transfer) : Prop where
  coins : Coin.AreMade transfer.coins
  gas : Coin.AreMade transfer.gas

theorem readJson_toJson {transfer : Transfer} (depth : Nat) (made : transfer.IsMade) :
    readJson (depth + 3) transfer.toJson = some transfer := by
  have members : readMembers ["tx", "block_height", "sender", "to", "coins", "gas", "memo"]
      (depth + 3) transfer.toJson = some ⟨depth + 2, [("tx", ofText transfer.tx),
        ("block_height", ofInt transfer.height.toInt), ("sender", ofText transfer.sender),
        ("to", ofText transfer.recipient), ("coins", Coin.listToJson transfer.coins),
        ("gas", Coin.listToJson transfer.gas), ("memo", ofText transfer.memo)]⟩ :=
    Json.readMembers_ofMembers (depth + 2) (by decide) (List.Sublist.refl _)
  unfold readJson
  rw [members]
  simp only [Option.bind_eq_bind, Option.bind_some]
  rw [Members.required_of_lookup (ofText transfer.tx) _ rfl, Json.readText_ofText,
    Members.required_of_lookup (ofInt transfer.height.toInt) _ rfl, Json.readInt64_ofInt,
    Members.required_of_lookup (ofText transfer.sender) _ rfl, Json.readText_ofText,
    Members.required_of_lookup (ofText transfer.recipient) _ rfl, Json.readText_ofText,
    Members.required_of_lookup (Coin.listToJson transfer.coins) _ rfl,
    Coin.readList_listToJson depth made.coins,
    Members.required_of_lookup (Coin.listToJson transfer.gas) _ rfl,
    Coin.readList_listToJson depth made.gas,
    Members.required_of_lookup (ofText transfer.memo) _ rfl, Json.readText_ofText]
  rfl

theorem isSpelled_toJson (transfer : Transfer) : transfer.toJson.IsSpelled := by
  apply Json.isSpelled_ofMembers
  simp only [List.forall_mem_cons, Coin.isSpelled_listToJson, Json.isSpelled_ofText,
    Json.isSpelled_ofInt, true_and]
  exact fun member inside => absurd inside List.not_mem_nil

end Transfer

namespace BlockReport

theorem readJson_toJson {report : BlockReport} (depth : Nat)
    (made : ∀ transfer ∈ report.transfers, transfer.IsMade) :
    readJson (depth + 5) report.toJson = some report := by
  have members : readMembers ["chain", "tx_array", "filtered", "mem_pool"] (depth + 5)
      report.toJson = some ⟨depth + 4, [("chain", ofText report.chain),
        ("tx_array", Json.ofList Transfer.toJson report.transfers),
        ("filtered", .bool report.filtered), ("mem_pool", .bool report.memPool)]⟩ :=
    Json.readMembers_ofMembers (depth + 4) (by decide) (List.Sublist.refl _)
  have transfers : readList Transfer.readJson (depth + 4)
      (Json.ofList Transfer.toJson report.transfers) = some report.transfers :=
    Json.readList_ofList fun transfer member =>
      Transfer.readJson_toJson depth (made transfer member)
  unfold readJson
  rw [members]
  simp only [Option.bind_eq_bind, Option.bind_some]
  rw [Members.required_of_lookup (ofText report.chain) _ rfl, Json.readText_ofText,
    Members.required_of_lookup (Json.ofList Transfer.toJson report.transfers) _ rfl, transfers,
    Members.required_of_lookup (.bool report.filtered) _ rfl, Json.readBool_bool,
    Members.required_of_lookup (.bool report.memPool) _ rfl, Json.readBool_bool]
  rfl

theorem isSpelled_toJson (report : BlockReport) : report.toJson.IsSpelled := by
  have transfers : (Json.ofList Transfer.toJson report.transfers).IsSpelled :=
    Json.isSpelled_ofList fun transfer _ => transfer.isSpelled_toJson
  apply Json.isSpelled_ofMembers
  simp only [List.forall_mem_cons, transfers, Json.isSpelled_ofText, Json.isSpelled_bool, true_and]
  exact fun member inside => absurd inside List.not_mem_nil

end BlockReport

namespace NetworkFee

theorem readJson_toJson (depth : Nat) (fee : NetworkFee) :
    readJson (depth + 1) fee.toJson = some fee := by
  have members : readMembers ["chain", "height", "transaction_size", "transaction_rate"]
      (depth + 1) fee.toJson = some ⟨depth, [("chain", ofText fee.chain),
        ("height", ofInt fee.height.toInt), ("transaction_size", ofInt fee.size.toNat),
        ("transaction_rate", ofInt fee.rate.toNat)]⟩ :=
    Json.readMembers_ofMembers depth (by decide) (List.Sublist.refl _)
  unfold readJson
  rw [members]
  simp only [Option.bind_eq_bind, Option.bind_some]
  rw [Members.required_of_lookup (ofText fee.chain) _ rfl, Json.readText_ofText,
    Members.required_of_lookup (ofInt fee.height.toInt) _ rfl, Json.readInt64_ofInt,
    Members.required_of_lookup (ofInt fee.size.toNat) _ rfl, Json.readUInt64_ofInt,
    Members.required_of_lookup (ofInt fee.rate.toNat) _ rfl, Json.readUInt64_ofInt]
  rfl

theorem isSpelled_toJson (fee : NetworkFee) : fee.toJson.IsSpelled := by
  apply Json.isSpelled_ofMembers
  simp only [List.forall_mem_cons, Json.isSpelled_ofText, Json.isSpelled_ofInt, true_and]
  exact fun member inside => absurd inside List.not_mem_nil

end NetworkFee

namespace Order

theorem readJson_toJson {order : Order} (depth : Nat) (coins : Coin.AreMade order.coins)
    (maxGas : Coin.AreMade order.maxGas) :
    readJson (depth + 3) order.toJson = some order := by
  have members : readMembers ["chain", "to_address", "vault_pub_key", "coins", "memo", "max_gas",
      "gas_rate", "in_hash", "height"] (depth + 3) order.toJson =
      some ⟨depth + 2, [("chain", ofText order.chain), ("to_address", ofText order.recipient),
        ("vault_pub_key", ofText order.vault), ("coins", Coin.listToJson order.coins),
        ("memo", ofText order.memo), ("max_gas", Coin.listToJson order.maxGas),
        ("gas_rate", ofInt order.gasRate.toInt), ("in_hash", ofText order.inHash),
        ("height", ofInt order.height.toInt)]⟩ :=
    Json.readMembers_ofMembers (depth + 2) (by decide) (List.Sublist.refl _)
  unfold readJson
  rw [members]
  simp only [Option.bind_eq_bind, Option.bind_some]
  rw [Members.required_of_lookup (ofText order.chain) _ rfl, Json.readText_ofText,
    Members.required_of_lookup (ofText order.recipient) _ rfl, Json.readText_ofText,
    Members.required_of_lookup (ofText order.vault) _ rfl, Json.readText_ofText,
    Members.required_of_lookup (Coin.listToJson order.coins) _ rfl,
    Coin.readList_listToJson depth coins,
    Members.required_of_lookup (ofText order.memo) _ rfl, Json.readText_ofText,
    Members.optional_of_lookup (Coin.listToJson order.maxGas) _ _ rfl,
    Coin.readList_listToJson depth maxGas,
    Members.optional_of_lookup (ofInt order.gasRate.toInt) _ _ rfl, Json.readInt64_ofInt,
    Members.optional_of_lookup (ofText order.inHash) _ _ rfl, Json.readText_ofText,
    Members.optional_of_lookup (ofInt order.height.toInt) _ _ rfl, Json.readInt64_ofInt]
  rfl

theorem isSpelled_toJson (order : Order) : order.toJson.IsSpelled := by
  apply Json.isSpelled_ofMembers
  simp only [List.forall_mem_cons, Coin.isSpelled_listToJson, Json.isSpelled_ofText,
    Json.isSpelled_ofInt, true_and]
  exact fun member inside => absurd inside List.not_mem_nil

end Order

/-! ### Messages and assets -/

/-- The text names the token on its chain, by its asset or as listed, in letters of any case. -/
def Token.IsNamedBy (token : Token) (text : String) : Prop :=
  Text.sameIgnoringAsciiCase text token.asset.toText = true ∨
    Text.sameIgnoringAsciiCase text token.name = true

theorem Token.parse_of_isNamedBy {token : Token} {text : String} (named : token.IsNamedBy text) :
    Asset.parse text = .ok token.asset := by
  rcases named with byAsset | byName
  · exact Asset.parse_of_sameIgnoringAsciiCase byAsset (Asset.parse_toText token.isMade_asset)
  · exact Asset.parse_of_sameIgnoringAsciiCase byName token.parse_name

/-- Each message is read from its own text, and each asset that is made by the gateway from its own.
A coin that names a listed token, in letters of any case, is read as one of its asset, under which
the list finds a token, and that token where the list has no other one of the asset. -/
theorem messages_read_back :
    (∀ vault : Vault, Coin.AreMade vault.coins → Coin.AreMade vault.pendingOutbound →
      Json.decode Vault.readJson vault.toJson.toText = some vault) ∧
    (∀ report : BlockReport, (∀ transfer ∈ report.transfers, transfer.IsMade) →
      Json.decode BlockReport.readJson report.toJson.toText = some report) ∧
    (∀ fee : NetworkFee, Json.decode NetworkFee.readJson fee.toJson.toText = some fee) ∧
    (∀ solvency : Solvency, Coin.AreMade solvency.coins →
      Json.decode Solvency.readJson solvency.toJson.toText = some solvency) ∧
    (∀ order : Order, Coin.AreMade order.coins → Coin.AreMade order.maxGas →
      Json.decode Order.readJson order.toJson.toText = some order) ∧
    (∀ asset : Asset, asset.IsMade → Asset.parse asset.toText = .ok asset) ∧
    ∀ (tokens : List Token) (token : Token) (text : String), token ∈ tokens →
      token.IsNamedBy text →
      (∀ amount decimals, Json.decode Coin.readJson
        (Coin.namedToJson text amount decimals).toText = some ⟨token.asset, amount, decimals⟩) ∧
      (∃ found ∈ tokens, Token.findByAsset? tokens token.asset = some found ∧
        found.asset = token.asset) ∧
      ((tokens.map Token.asset).Nodup → Token.findByAsset? tokens token.asset = some token) := by
  refine ⟨?_, ?_, ?_, ?_, ?_, fun asset => Asset.parse_toText, ?_⟩
  · intro vault coins pending
    exact Json.decode_toText vault.isSpelled_toJson (Vault.readJson_toJson 124 coins pending)
  · intro report made
    exact Json.decode_toText report.isSpelled_toJson (BlockReport.readJson_toJson 122 made)
  · intro fee
    exact Json.decode_toText fee.isSpelled_toJson (NetworkFee.readJson_toJson 126 fee)
  · intro solvency coins
    exact Json.decode_toText solvency.isSpelled_toJson (Solvency.readJson_toJson 124 coins)
  · intro order coins maxGas
    exact Json.decode_toText order.isSpelled_toJson (Order.readJson_toJson 124 coins maxGas)
  · intro tokens token text member named
    refine ⟨fun amount decimals => ?_, Token.exists_findByAsset? member,
      fun distinct => Token.findByAsset?_of_nodup distinct member⟩
    exact Json.decode_toText (Coin.isSpelled_namedToJson text amount decimals)
      (Coin.readJson_namedToJson 126 (Token.parse_of_isNamedBy named) amount decimals)

/-! A listed token whose ticker has a point and a letter without a capital of its own. -/

def sharpToken : Token := ⟨"TNPeeaaFB7K9cmo4uQpcU32zGK8G1NYqeL", "st.ß", 6⟩

def sharpCoin : Coin := ⟨sharpToken.asset, Amount.largest, 4294967295⟩

def sharpVault : Vault := ⟨"key", [sharpCoin, .ofTrx .zero], [sharpCoin], "\n"⟩

def sharpTransfer : Transfer := ⟨"tx", -1, "from", "to", [sharpCoin], [.ofTrx .zero], "\""⟩

theorem messages_read_back_sharpToken :
    Json.decode Vault.readJson sharpVault.toJson.toText = some sharpVault ∧
      Json.decode BlockReport.readJson
          (BlockReport.mk chainName [sharpTransfer] true false).toJson.toText =
        some ⟨chainName, [sharpTransfer], true, false⟩ ∧
      Json.decode NetworkFee.readJson (NetworkFee.mk chainName 7 268 1000).toJson.toText =
        some ⟨chainName, 7, 268, 1000⟩ ∧
      Json.decode Solvency.readJson (Solvency.mk 7 chainName "key" [sharpCoin] true).toJson.toText =
        some ⟨7, chainName, "key", [sharpCoin], true⟩ ∧
      Json.decode Order.readJson
          (Order.mk chainName "to" "key" [sharpCoin] "" [.ofTrx .zero] (-3) "" 9).toJson.toText =
        some ⟨chainName, "to", "key", [sharpCoin], "", [.ofTrx .zero], -3, "", 9⟩ ∧
      Asset.parse sharpToken.asset.toText = .ok sharpToken.asset ∧
      Json.decode Coin.readJson (Coin.namedToJson
          "tron.ST.ß-tnpeeaafb7k9cmo4uqpcu32zgk8g1nyqel" Amount.largest 6).toText =
        some ⟨sharpToken.asset, Amount.largest, 6⟩ ∧
      Token.findByAsset? [sharpToken] sharpToken.asset = some sharpToken := by
  have sharp : sharpCoin.asset.IsMade := sharpToken.isMade_asset
  have fees : (Coin.ofTrx .zero).asset.IsMade := .trx
  have single (coin : Coin) (made : coin.asset.IsMade) : Coin.AreMade [coin] := by
    intro other member
    rw [List.mem_singleton.mp member]
    exact made
  have both : Coin.AreMade [sharpCoin, .ofTrx .zero] := by
    intro coin member
    rcases List.mem_cons.mp member with same | other
    · rw [same]
      exact sharp
    · exact single _ fees coin other
  have transfers : ∀ transfer ∈ [sharpTransfer], transfer.IsMade := by
    intro transfer member
    rw [List.mem_singleton.mp member]
    exact ⟨single _ sharp, single _ fees⟩
  have named : sharpToken.IsNamedBy "tron.ST.ß-tnpeeaafb7k9cmo4uqpcu32zgk8g1nyqel" :=
    .inr (by decide +kernel)
  obtain ⟨vaults, reports, networkFees, solvencies, orders, assets, tokens⟩ := messages_read_back
  obtain ⟨coins, -, found⟩ := tokens [sharpToken] sharpToken _ List.mem_cons_self named
  exact ⟨vaults _ both (single _ sharp), reports _ transfers, networkFees _,
    solvencies _ (single _ sharp), orders _ (single _ sharp) (single _ fees),
    assets _ sharpToken.isMade_asset, coins _ _, found (List.nodup_singleton _)⟩

end TronGateway
