import TronGateway.Transaction.Basic
set_option autoImplicit false

/-!
# Blocks and accounts

What a node tells about a block, about the execution of a transaction and about an account.
-/

namespace TronGateway

open Json (readMembers readText readList readNullable readInt64)

structure Header where
  number : Int64
  timestamp : Int64
  txTrieRoot : String
  parentHash : String
  witnessAddress : String
  witnessSignature : String
  deriving DecidableEq, Repr

structure Block where
  id : String
  header : Option Header
  transactions : List Transaction

namespace Header

/-- Reads the signed part of a header; the signature beside it is given. -/
def readSigned (witnessSignature : String) : Json.Reader Header := fun depth json => do
  let members ← readMembers ["number", "timestamp", "txTrieRoot", "parentHash", "witness_address"]
    depth json
  let number ← members.optional "number" readInt64 0
  let timestamp ← members.optional "timestamp" readInt64 0
  let txTrieRoot ← members.optional "txTrieRoot" readText ""
  let parentHash ← members.optional "parentHash" readText ""
  let witnessAddress ← members.optional "witness_address" readText ""
  return ⟨number, timestamp, txTrieRoot, parentHash, witnessAddress, witnessSignature⟩

def readJson : Json.Reader Header := fun depth json => do
  let members ← readMembers ["raw_data", "witness_signature"] depth json
  let signature ← members.optional "witness_signature" readText ""
  members.required "raw_data" (readSigned signature)

end Header

namespace Block

def height (block : Block) : Int64 :=
  match block.header with
  | some header => header.number
  | none => 0

def timestamp (block : Block) : Int64 :=
  match block.header with
  | some header => header.timestamp
  | none => 0

def readJson : Json.Reader Block := fun depth json => do
  let members ← readMembers ["blockID", "block_header", "transactions"] depth json
  let id ← members.optional "blockID" readText ""
  let header ← members.optional "block_header" (readNullable Header.readJson) none
  let transactions ← members.optional "transactions" (readList Transaction.readJson) []
  return ⟨id, header, transactions⟩

end Block

/-- What the execution of a transaction used up. -/
structure Receipt where
  energyUsageTotal : Int64
  energyPenaltyTotal : Int64
  netUsage : Int64
  netFee : Int64
  deriving DecidableEq, Repr

def Receipt.empty : Receipt := ⟨0, 0, 0, 0⟩

def Receipt.readJson : Json.Reader Receipt := fun depth json => do
  let members ← readMembers ["energy_usage_total", "energy_penalty_total", "net_usage", "net_fee"]
    depth json
  let energyUsageTotal ← members.optional "energy_usage_total" readInt64 0
  let energyPenaltyTotal ← members.optional "energy_penalty_total" readInt64 0
  let netUsage ← members.optional "net_usage" readInt64 0
  let netFee ← members.optional "net_fee" readInt64 0
  return ⟨energyUsageTotal, energyPenaltyTotal, netUsage, netFee⟩

/-- What a node tells about an executed transaction; the fee is in sun. -/
structure TransactionInfo where
  id : String
  fee : Int64
  height : Int64
  receipt : Receipt
  deriving DecidableEq, Repr

def TransactionInfo.readJson : Json.Reader TransactionInfo := fun depth json => do
  let members ← readMembers ["id", "fee", "blockNumber", "receipt"] depth json
  let id ← members.optional "id" readText ""
  let fee ← members.optional "fee" readInt64 0
  let height ← members.optional "blockNumber" readInt64 0
  let receipt ← members.optional "receipt" Receipt.readJson Receipt.empty
  return ⟨id, fee, height, receipt⟩

structure Account where
  address : String
  balance : UInt64
  deriving DecidableEq, Repr

/-- Reads an account; a node leaves both members out for an empty one. -/
def Account.readJson : Json.Reader Account := fun depth json => do
  let members ← readMembers ["address", "balance"] depth json
  let address ← members.optional "address" readText ""
  let balance ← members.optional "balance" Json.readUInt64 0
  return ⟨address, balance⟩

end TronGateway
