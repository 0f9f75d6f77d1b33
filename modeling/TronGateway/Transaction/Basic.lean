import TronGateway.Json.Decode
import TronGateway.Json.Printer
set_option autoImplicit false

/-!
# Transactions

A transaction as the node shows it and takes it: the fields of the signed bytes side by side with
the bytes themselves, the hash of the bytes, and the signatures. The value of a contract stays
untyped, so that it passes through unchanged; typed views are taken where they are needed.
-/

namespace TronGateway

structure Contract where
  value : Value
  typeUrl : String
  kind : String
  permissionId : Option Int32

structure RawData where
  contracts : List Contract
  refBlockBytes : String
  refBlockHash : String
  expiration : Int64
  timestamp : Int64
  data : String
  feeLimit : Option Int64

structure Transaction where
  visible : Option Bool
  id : String
  raw : RawData
  rawHex : String
  signatures : List String
  outcomes : List (Option String)

def transferKind : String := "TransferContract"

def triggerKind : String := "TriggerSmartContract"

def successOutcome : String := "SUCCESS"

def RawData.empty : RawData := ⟨[], "", "", 0, 0, "", none⟩

open Json (Members ofText ofInt ofMembers readMembers readText readList readNullable)

def optionalMember {α : Type} (name : String) (write : α → Json) : Option α → List (String × Json)
  | none => []
  | some value => [(name, write value)]

namespace Contract

def toJson (contract : Contract) : Json :=
  ofMembers ([("parameter", ofMembers [("value", contract.value.toJson),
      ("type_url", ofText contract.typeUrl)]), ("type", ofText contract.kind)] ++
    optionalMember "Permission_id" (fun id => ofInt (Int32.toInt id)) contract.permissionId)

def readParameter : Json.Reader (Value × String) := fun depth json => do
  let members ← readMembers ["value", "type_url"] depth json
  let value ← members.optional "value" Json.readValue .null
  let typeUrl ← members.optional "type_url" readText ""
  return (value, typeUrl)

def readJson : Json.Reader Contract := fun depth json => do
  let members ← readMembers ["parameter", "type", "Permission_id"] depth json
  let (value, typeUrl) ← members.required "parameter" readParameter
  let kind ← members.required "type" readText
  let permissionId ← members.optional "Permission_id" (readNullable Json.readInt32) none
  return ⟨value, typeUrl, kind, permissionId⟩

end Contract

namespace RawData

/-- The raw part as an object; an empty memo and an absent fee limit are left out. -/
def toJson (raw : RawData) : Json :=
  ofMembers ([("contract", Json.ofList Contract.toJson raw.contracts),
      ("ref_block_bytes", ofText raw.refBlockBytes), ("ref_block_hash", ofText raw.refBlockHash),
      ("expiration", ofInt raw.expiration.toInt), ("timestamp", ofInt raw.timestamp.toInt)] ++
    (if raw.data = "" then [] else [("data", ofText raw.data)]) ++
    optionalMember "fee_limit" (fun limit => ofInt (Int64.toInt limit)) raw.feeLimit)

def readJson : Json.Reader RawData := fun depth json => do
  let members ← readMembers ["contract", "ref_block_bytes", "ref_block_hash", "expiration",
    "timestamp", "data", "fee_limit"] depth json
  let contracts ← members.optional "contract" (readList Contract.readJson) []
  let refBlockBytes ← members.optional "ref_block_bytes" readText ""
  let refBlockHash ← members.optional "ref_block_hash" readText ""
  let expiration ← members.optional "expiration" Json.readInt64 0
  let timestamp ← members.optional "timestamp" Json.readInt64 0
  let data ← members.optional "data" readText ""
  let feeLimit ← members.optional "fee_limit" (readNullable Json.readInt64) none
  return ⟨contracts, refBlockBytes, refBlockHash, expiration, timestamp, data, feeLimit⟩

end RawData

namespace Transaction

def outcomeToJson (outcome : Option String) : Json :=
  ofMembers (optionalMember "contractRet" ofText outcome)

def readOutcome : Json.Reader (Option String) := fun depth json => do
  let members ← readMembers ["contractRet"] depth json
  members.optional "contractRet" (readNullable readText) none

def toJson (tx : Transaction) : Json :=
  ofMembers (optionalMember "visible" Json.bool tx.visible ++
    [("txID", ofText tx.id), ("raw_data", tx.raw.toJson), ("raw_data_hex", ofText tx.rawHex)] ++
    (if tx.signatures.isEmpty then [] else [("signature", Json.ofList ofText tx.signatures)]) ++
    (if tx.outcomes.isEmpty then [] else [("ret", Json.ofList outcomeToJson tx.outcomes)]))

def toText (tx : Transaction) : String := tx.toJson.toText

def memberNames : List String :=
  ["visible", "txID", "raw_data", "raw_data_hex", "signature", "ret"]

/-- The transaction of members; each of them may be absent. -/
def ofMembers? (members : Members) : Option Transaction := do
  let visible ← members.optional "visible" (readNullable Json.readBool) none
  let id ← members.optional "txID" readText ""
  let raw ← members.optional "raw_data" RawData.readJson RawData.empty
  let rawHex ← members.optional "raw_data_hex" readText ""
  let signatures ← members.optional "signature" (readList readText) []
  let outcomes ← members.optional "ret" (readList readOutcome) []
  return ⟨visible, id, raw, rawHex, signatures, outcomes⟩

def readJson : Json.Reader Transaction := fun depth json =>
  (readMembers memberNames depth json).bind ofMembers?

def parse (text : String) : Option Transaction := Json.decode readJson text

end Transaction

structure TransferValue where
  amount : Int64
  owner : String
  recipient : String

structure TriggerValue where
  data : String
  owner : String
  contract : String
  callValue : Int64

namespace TransferValue

def readJson : Json.Reader TransferValue := fun depth json => do
  let members ← readMembers ["amount", "owner_address", "to_address"] depth json
  let amount ← members.optional "amount" Json.readInt64 0
  let owner ← members.required "owner_address" readText
  let recipient ← members.required "to_address" readText
  return ⟨amount, owner, recipient⟩

def ofValue? (value : Value) : Option TransferValue :=
  readJson Json.maxDepth value.toJson

end TransferValue

namespace TriggerValue

def readJson : Json.Reader TriggerValue := fun depth json => do
  let members ← readMembers ["data", "owner_address", "contract_address", "call_value"] depth json
  let data ← members.optional "data" readText ""
  let owner ← members.required "owner_address" readText
  let contract ← members.required "contract_address" readText
  let callValue ← members.optional "call_value" Json.readInt64 0
  return ⟨data, owner, contract, callValue⟩

def ofValue? (value : Value) : Option TriggerValue :=
  readJson Json.maxDepth value.toJson

end TriggerValue
end TronGateway
