import TronGateway.Transaction.Basic
import TronGateway.Error
set_option autoImplicit false

/-!
# Replies of a node

The replies that carry more than a block or an account: an outcome beside a transaction, chain
parameters as a list of named values, and the frame of a remote call.
-/

namespace TronGateway

open Json (readMembers readText readList readNullable readBool readInt64)

/-- The reply to a request for a transfer: a transaction, or why there is none. -/
structure CreateReply where
  refusal : Option String
  transaction : Transaction

/-- The value of a member whose name and value are of any kind. -/
def isPlainMember (depth : Nat) : Option String × Json → Bool
  | (none, _) => false
  | (some name, json) => name = "Error" || (Value.ofJson? depth json).isSome

/-- Reads the reply to a request for a transfer. Its members are those of the transaction itself, so
that it has to be an object, and every member has to be a value even where nobody looks at it. -/
def CreateReply.readJson : Json.Reader CreateReply
  | depth + 1, .object entries => do
    let outer ← readMembers ["Error"] (depth + 1) (.object entries)
    let refusal ← outer.optional "Error" (readNullable readText) none
    let inner ← readMembers Transaction.memberNames (depth + 1) (.object entries)
    let transaction ← Transaction.ofMembers? inner
    if entries.all (isPlainMember depth) then some ⟨refusal, transaction⟩ else none
  | _, _ => none

structure CallOutcome where
  result : Bool
  code : Option String
  message : Option String
  deriving DecidableEq, Repr

namespace CallOutcome

def absent : CallOutcome := ⟨false, none, none⟩

def readJson : Json.Reader CallOutcome := fun depth json => do
  let members ← readMembers ["result", "code", "message"] depth json
  let result ← members.optional "result" readBool false
  let code ← members.optional "code" (readNullable readText) none
  let message ← members.optional "message" (readNullable readText) none
  return ⟨result, code, message⟩

end CallOutcome

structure TriggerReply where
  outcome : CallOutcome
  transaction : Option Transaction

def TriggerReply.readJson : Json.Reader TriggerReply := fun depth json => do
  let members ← readMembers ["result", "transaction"] depth json
  let outcome ← members.optional "result" CallOutcome.readJson CallOutcome.absent
  let transaction ← members.optional "transaction" (readNullable Transaction.readJson) none
  return ⟨outcome, transaction⟩

structure EstimateReply where
  outcome : CallOutcome
  energy : Option Int64

def EstimateReply.readJson : Json.Reader EstimateReply := fun depth json => do
  let members ← readMembers ["result", "energy_required"] depth json
  let outcome ← members.optional "result" CallOutcome.readJson CallOutcome.absent
  let energy ← members.optional "energy_required" (readNullable readInt64) none
  return ⟨outcome, energy⟩

structure BroadcastReply where
  result : Bool
  txId : String
  code : Option String
  message : Option String
  deriving DecidableEq, Repr

def BroadcastReply.readJson : Json.Reader BroadcastReply := fun depth json => do
  let members ← readMembers ["result", "txid", "code", "message"] depth json
  let result ← members.optional "result" readBool false
  let txId ← members.optional "txid" readText ""
  let code ← members.optional "code" (readNullable readText) none
  let message ← members.optional "message" (readNullable readText) none
  return ⟨result, txId, code, message⟩

/-- The three rates that the fee of a transaction is made of, in sun. -/
structure ChainParameters where
  memoFee : Int64
  energyFee : Int64
  bandwidthFee : Int64
  deriving DecidableEq, Repr

namespace ChainParameters

def readEntry : Json.Reader (String × Int64) := fun depth json => do
  let members ← readMembers ["key", "value"] depth json
  let key ← members.required "key" readText
  let value ← members.optional "value" readInt64 0
  return (key, value)

def readEntries : Json.Reader (List (String × Int64)) := fun depth json => do
  let members ← readMembers ["chainParameter"] depth json
  members.optional "chainParameter" (readList readEntry) []

def find (entries : List (String × Int64)) (key : String) : Except Error Int64 :=
  match entries.lookup key with
  | some value => .ok value
  | none => .error (.parameter ("chain parameter " ++ key ++ " missing"))

def ofEntries (entries : List (String × Int64)) : Except Error ChainParameters := do
  let memoFee ← find entries "getMemoFee"
  let energyFee ← find entries "getEnergyFee"
  let bandwidthFee ← find entries "getTransactionFee"
  return ⟨memoFee, energyFee, bandwidthFee⟩

end ChainParameters

structure RpcFailure where
  code : Int64
  message : String
  deriving DecidableEq, Repr

def RpcFailure.readJson : Json.Reader RpcFailure := fun depth json => do
  let members ← readMembers ["code", "message"] depth json
  let code ← members.optional "code" readInt64 0
  let message ← members.optional "message" readText ""
  return ⟨code, message⟩

structure RpcReply where
  result : Option String
  failure : Option RpcFailure
  deriving DecidableEq, Repr

def RpcReply.readJson : Json.Reader RpcReply := fun depth json => do
  let members ← readMembers ["result", "error"] depth json
  let result ← members.optional "result" (readNullable readText) none
  let failure ← members.optional "error" (readNullable RpcFailure.readJson) none
  return ⟨result, failure⟩

/-- The plain text of a node's message, which often arrives as hexadecimal text. -/
def nodeMessage (message : String) : String :=
  match Hex.decode message with
  | .error _ => message
  | .ok bytes =>
    match Utf8.decode bytes with
    | .ok text => text
    | .error _ => message

end TronGateway
