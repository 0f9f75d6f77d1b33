import TronGateway.Json.Decode
import TronGateway.Json.Printer
import TronGateway.Vault
import TronGateway.Observation
import TronGateway.Order
import TronGateway.Keysign
set_option autoImplicit false

/-!
# Messages of the protocol chain

The JSON forms of assets, coins, vaults, observations and orders. An amount is written as a decimal
text; a 64-bit number is accepted in its place. Each message is written with its members in the
order in which they are declared.
-/

namespace TronGateway

open Json (Members ofText ofInt ofMembers readMembers readText readList)

namespace Asset

def toJson (asset : Asset) : Json := ofText asset.toText

def readJson : Json.Reader Asset := fun depth json =>
  match readText depth json with
  | some text => (Asset.parse text).toOption
  | none => none

end Asset

namespace Amount

def toJson (amount : Amount) : Json := ofText amount.toText

/-- Reads an amount from a decimal text or a 64-bit number. -/
def readJson : Json.Reader Amount
  | _, .text (some text) => Amount.ofText? text
  | depth, json => (Json.readUInt64 depth json).map Amount.ofUInt64

end Amount

namespace Coin

def toJson (coin : Coin) : Json :=
  ofMembers [("asset", coin.asset.toJson), ("amount", coin.amount.toJson),
    ("decimals", ofInt coin.decimals.toNat)]

def readJson : Json.Reader Coin := fun depth json => do
  let members ← readMembers ["asset", "amount", "decimals"] depth json
  let asset ← members.required "asset" Asset.readJson
  let amount ← members.required "amount" Amount.readJson
  let decimals ← members.optional "decimals" Json.readUInt32 0
  return ⟨asset, amount, decimals⟩

def listToJson (coins : List Coin) : Json := Json.ofList Coin.toJson coins

end Coin

namespace Vault

def toJson (vault : Vault) : Json :=
  ofMembers [("pub_key", ofText vault.pubKey), ("coins", Coin.listToJson vault.coins),
    ("pending_outbound", Coin.listToJson vault.pendingOutbound), ("status", ofText vault.status)]

def readJson : Json.Reader Vault := fun depth json => do
  let members ← readMembers ["pub_key", "coins", "pending_outbound", "status"] depth json
  let pubKey ← members.required "pub_key" readText
  let coins ← members.optional "coins" (readList Coin.readJson) []
  let pending ← members.optional "pending_outbound" (readList Coin.readJson) []
  let status ← members.optional "status" readText ""
  return ⟨pubKey, coins, pending, status⟩

end Vault

namespace Solvency

def toJson (solvency : Solvency) : Json :=
  ofMembers [("height", ofInt solvency.height.toInt), ("chain", ofText solvency.chain),
    ("pub_key", ofText solvency.pubKey), ("coins", Coin.listToJson solvency.coins),
    ("solvent", .bool solvency.solvent)]

def readJson : Json.Reader Solvency := fun depth json => do
  let members ← readMembers ["height", "chain", "pub_key", "coins", "solvent"] depth json
  let height ← members.required "height" Json.readInt64
  let chain ← members.required "chain" readText
  let pubKey ← members.required "pub_key" readText
  let coins ← members.required "coins" (readList Coin.readJson)
  let solvent ← members.required "solvent" Json.readBool
  return ⟨height, chain, pubKey, coins, solvent⟩

end Solvency

namespace Transfer

def toJson (transfer : Transfer) : Json :=
  ofMembers [("tx", ofText transfer.tx), ("block_height", ofInt transfer.height.toInt),
    ("sender", ofText transfer.sender), ("to", ofText transfer.recipient),
    ("coins", Coin.listToJson transfer.coins), ("gas", Coin.listToJson transfer.gas),
    ("memo", ofText transfer.memo)]

def readJson : Json.Reader Transfer := fun depth json => do
  let members ←
    readMembers ["tx", "block_height", "sender", "to", "coins", "gas", "memo"] depth json
  let tx ← members.required "tx" readText
  let height ← members.required "block_height" Json.readInt64
  let sender ← members.required "sender" readText
  let recipient ← members.required "to" readText
  let coins ← members.required "coins" (readList Coin.readJson)
  let gas ← members.required "gas" (readList Coin.readJson)
  let memo ← members.required "memo" readText
  return ⟨tx, height, sender, recipient, coins, gas, memo⟩

end Transfer

namespace BlockReport

def toJson (report : BlockReport) : Json :=
  ofMembers [("chain", ofText report.chain),
    ("tx_array", Json.ofList Transfer.toJson report.transfers),
    ("filtered", .bool report.filtered), ("mem_pool", .bool report.memPool)]

def readJson : Json.Reader BlockReport := fun depth json => do
  let members ← readMembers ["chain", "tx_array", "filtered", "mem_pool"] depth json
  let chain ← members.required "chain" readText
  let transfers ← members.required "tx_array" (readList Transfer.readJson)
  let filtered ← members.required "filtered" Json.readBool
  let memPool ← members.required "mem_pool" Json.readBool
  return ⟨chain, transfers, filtered, memPool⟩

end BlockReport

namespace NetworkFee

def toJson (fee : NetworkFee) : Json :=
  ofMembers [("chain", ofText fee.chain), ("height", ofInt fee.height.toInt),
    ("transaction_size", ofInt fee.size.toNat), ("transaction_rate", ofInt fee.rate.toNat)]

def readJson : Json.Reader NetworkFee := fun depth json => do
  let members ← readMembers ["chain", "height", "transaction_size", "transaction_rate"] depth json
  let chain ← members.required "chain" readText
  let height ← members.required "height" Json.readInt64
  let size ← members.required "transaction_size" Json.readUInt64
  let rate ← members.required "transaction_rate" Json.readUInt64
  return ⟨chain, height, size, rate⟩

end NetworkFee

namespace Order

def toJson (order : Order) : Json :=
  ofMembers [("chain", ofText order.chain), ("to_address", ofText order.recipient),
    ("vault_pub_key", ofText order.vault), ("coins", Coin.listToJson order.coins),
    ("memo", ofText order.memo), ("max_gas", Coin.listToJson order.maxGas),
    ("gas_rate", ofInt order.gasRate.toInt), ("in_hash", ofText order.inHash),
    ("height", ofInt order.height.toInt)]

def readJson : Json.Reader Order := fun depth json => do
  let members ← readMembers ["chain", "to_address", "vault_pub_key", "coins", "memo", "max_gas",
    "gas_rate", "in_hash", "height"] depth json
  let chain ← members.required "chain" readText
  let recipient ← members.required "to_address" readText
  let vault ← members.required "vault_pub_key" readText
  let coins ← members.required "coins" (readList Coin.readJson)
  let memo ← members.required "memo" readText
  let maxGas ← members.optional "max_gas" (readList Coin.readJson) []
  let gasRate ← members.optional "gas_rate" Json.readInt64 0
  let inHash ← members.optional "in_hash" readText ""
  let height ← members.optional "height" Json.readInt64 0
  return ⟨chain, recipient, vault, coins, memo, maxGas, gasRate, inHash, height⟩

end Order

namespace Blame

def toJson (blame : Blame) : Json :=
  ofMembers [("fail_reason", ofText blame.reason),
    ("blame_nodes", Json.ofList ofText blame.nodes)]

def readJson : Json.Reader Blame := fun depth json => do
  let members ← readMembers ["fail_reason", "blame_nodes"] depth json
  let reason ← members.required "fail_reason" readText
  let nodes ← members.required "blame_nodes" (readList readText)
  return ⟨reason, nodes⟩

end Blame

namespace SignAlgorithm

def toJson (algorithm : SignAlgorithm) : Json := ofText algorithm.name

/-- Reads a signature scheme from its name, or from an object whose only member has that name and
the value null. -/
def readJson : Json.Reader SignAlgorithm
  | _, .text (some name) => ofName? name
  | _ + 1, .object [(some name, .null)] => ofName? name
  | _, _ => none

end SignAlgorithm
end TronGateway
