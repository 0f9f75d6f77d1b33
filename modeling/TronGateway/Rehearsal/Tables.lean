import TronGateway.Node.Call
import TronGateway.Message
set_option autoImplicit false

/-!
# Tables of answers

What a rehearsed node and a rehearsed protocol chain answer, as tables. What is in no table is
answered by a default or by an error that names it. A call may be made to fail as a whole.
-/

namespace TronGateway.Rehearsal

structure Tables where
  tip : Int64
  blocks : List (String × Block)
  /-- The fees of transactions in sun. -/
  fees : List (String × Int64)
  balances : List (String × UInt64)
  created : Option Transaction
  triggered : Option Transaction
  broadcast : BroadcastReply
  parameters : Option ChainParameters
  /-- The energy that a call of a contract takes. -/
  energy : List (String × Int64)
  /-- The replies to contract calls, by contract and data. -/
  calls : List (String × RpcReply)
  vaults : List Vault
  settings : List (String × Int64)
  /-- The calls that fail, by name. -/
  failures : List (String × Error)

namespace Tables

def empty : Tables :=
  ⟨0, [], [], [], none, none, ⟨true, "", none, none⟩, none, [], [], [], [], []⟩

/-- The name of a call into the node. An account is its balance. -/
def nodeName : NodeCall → String
  | .latestBlock => "get_latest_block"
  | .block _ => "get_block"
  | .transactionInfo _ => "get_transaction_info"
  | .balance _ => "get_balance"
  | .account _ => "get_balance"
  | .createTransaction _ _ _ _ => "create_transaction"
  | .triggerContract _ _ _ _ _ => "trigger_smart_contract"
  | .broadcast _ => "broadcast_transaction"
  | .chainParameters => "get_chain_parameters"
  | .estimateEnergy _ _ _ _ => "estimate_energy"
  | .contractCall _ _ => "eth_call"

/-- The name of a call into the protocol chain. The keys come out of the vaults. -/
def bridgeName : BridgeCall → String
  | .vaults => "get_asgards"
  | .vaultKeys => "get_asgards"
  | .setting _ => "get_mimir"

def blameName : String := "post_keysign_failure"

def failing (tables : Tables) (name : String) : Except Error Unit :=
  match tables.failures.lookup name with
  | some failure => .error failure
  | none => .ok ()

def entry {α : Type} (missing : Error) : Option α → Except Error α
  | some value => .ok value
  | none => .error missing

def numbered (number : Int64) : Block :=
  ⟨"", some ⟨number, 0, "", "", "", ""⟩, []⟩

def balance (tables : Tables) (address : String) : UInt64 :=
  (tables.balances.lookup address).getD 0

def findNode (tables : Tables) : (call : NodeCall) → Except Error call.Answer
  | .latestBlock => .ok (numbered tables.tip)
  | .block height =>
    let name := Decimal.ofInt height.toInt
    entry (.transport ("block " ++ name ++ " not found")) (tables.blocks.lookup name)
  | .transactionInfo id =>
    (entry (.transport ("no info for " ++ id)) (tables.fees.lookup id)).map fun fee =>
      ⟨id, fee, 0, Receipt.empty⟩
  | .balance address => .ok (tables.balance address)
  | .account address => .ok ⟨address, tables.balance address⟩
  | .createTransaction _ _ _ _ => entry (.parameter "no create_tx") tables.created
  | .triggerContract _ _ _ _ _ => entry (.parameter "no trigger_tx") tables.triggered
  | .broadcast _ => .ok tables.broadcast
  | .chainParameters => entry (.parameter "no chain parameters") tables.parameters
  | .estimateEnergy _ contract _ _ =>
    entry (.parameter ("no estimate for " ++ contract)) (tables.energy.lookup contract)
  | .contractCall contract data =>
    entry (.transport ("no answer for " ++ contract ++ " " ++ data))
      (tables.calls.lookup (contract ++ " " ++ data))

/-- What the tables say to a call into the protocol chain; a setting without an entry is -1. -/
def findBridge (tables : Tables) : (call : BridgeCall) → Except Error call.Answer
  | .vaults => .ok tables.vaults
  | .vaultKeys => .ok (tables.vaults.map Vault.pubKey)
  | .setting key => .ok ((tables.settings.lookup key).getD (-1))

def answerNode (tables : Tables) (call : NodeCall) : Except Error call.Answer := do
  tables.failing (nodeName call)
  tables.findNode call

def answerBridge (tables : Tables) (call : BridgeCall) : Except Error call.Answer := do
  tables.failing (bridgeName call)
  tables.findBridge call

def readTable {α : Type} (reader : Json.Reader α) : Json.Reader (List (String × α))
  | depth + 1, .object members => members.mapM fun member => do
    let name ← member.1
    let value ← reader depth member.2
    return (name, value)
  | _, _ => none

def readParameters : Json.Reader ChainParameters := fun depth json => do
  let members ← Json.readMembers ["memo_fee", "energy_fee", "bandwidth_fee"] depth json
  let memoFee ← members.required "memo_fee" Json.readInt64
  let energyFee ← members.required "energy_fee" Json.readInt64
  let bandwidthFee ← members.required "bandwidth_fee" Json.readInt64
  return ⟨memoFee, energyFee, bandwidthFee⟩

def errorOfKind? (kind detail : String) : Option Error :=
  [("Transport", Error.transport detail), ("Decode", .decode detail),
    ("Parameter", .parameter detail), ("InvalidAddress", .invalidAddress detail),
    ("NoRefBlock", .noRefBlock), ("BadOrder", .badOrder detail),
    ("SignVerifyFailed", .signVerifyFailed), ("Cancelled", .cancelled),
    ("Broadcast", .broadcast detail), ("Crypto", .crypto detail), ("Config", .config detail),
    ("Database", .database detail), ("SendError", .send detail), ("Io", .io detail)].lookup kind

def readError : Json.Reader Error := fun depth json => do
  let members ← Json.readMembers ["kind", "text", "blame"] depth json
  let kind ← members.required "kind" Json.readText
  let detail ← members.optional "text" Json.readText ""
  if kind = "KeysignBlame" then
    (members.required "blame" Blame.readJson).map .keysignBlame
  else errorOfKind? kind detail

def names : List String :=
  ["tip", "blocks", "fees", "balances", "create_tx", "trigger_tx", "broadcast", "chain_params",
    "energy", "eth_call", "vaults", "mimir", "fail"]

def readInto (tables : Tables) : Json.Reader Tables := fun depth json => do
  let members ← Json.readMembers names depth json
  let tip ← members.optional "tip" Json.readInt64 tables.tip
  let blocks ← members.optional "blocks" (readTable Block.readJson) tables.blocks
  let fees ← members.optional "fees" (readTable Json.readInt64) tables.fees
  let balances ← members.optional "balances" (readTable Json.readUInt64) tables.balances
  let created ← members.optional "create_tx" (Json.readNullable Transaction.readJson) tables.created
  let triggered ← members.optional "trigger_tx" (Json.readNullable Transaction.readJson)
    tables.triggered
  let broadcast ← members.optional "broadcast" BroadcastReply.readJson tables.broadcast
  let parameters ← members.optional "chain_params" (Json.readNullable readParameters)
    tables.parameters
  let energy ← members.optional "energy" (readTable Json.readInt64) tables.energy
  let calls ← members.optional "eth_call" (readTable RpcReply.readJson) tables.calls
  let vaults ← members.optional "vaults" (Json.readList Vault.readJson) tables.vaults
  let settings ← members.optional "mimir" (readTable Json.readInt64) tables.settings
  let failures ← members.optional "fail" (readTable readError) tables.failures
  return ⟨tip, blocks, fees, balances, created, triggered, broadcast, parameters, energy, calls,
    vaults, settings, failures⟩

end Tables
end TronGateway.Rehearsal
