import TronGateway.Node.Call
import TronGateway.Http.Endpoint
import TronGateway.Message
set_option autoImplicit false

/-!
# Calls over HTTP

The request of each call, and the answer that a reply to it carries. A node that refuses says so in
a body of success, so that some replies of the right form are errors all the same.
-/

namespace TronGateway

structure Service where
  node : String
  rpc : String
  bridge : String
  deriving DecidableEq, Repr

namespace NodeCall

def visibleBody (members : List (String × Value)) : Value :=
  Value.ofMembers (("visible", .bool true) :: members)

def contractMembers (owner contract selector parameter : String) : List (String × Value) :=
  [("owner_address", .text owner), ("contract_address", .text contract),
    ("function_selector", .text selector), ("parameter", .text parameter)]

/-- The member that carries a memo, which an empty one has not. -/
def memoMember (memo : String) : List (String × Value) :=
  if memo = "" then [] else [("extra_data", .text (Hex.encode (Utf8.encode memo)))]

def accountRequest (service : Service) (address : String) : Http.Request :=
  Http.post service.node "/wallet/getaccount" (visibleBody [("address", .text address)])

/-- The request of a call. A payload to broadcast has to be JSON. -/
def request (service : Service) : NodeCall → Except Error Http.Request
  | latestBlock => .ok (Http.post service.node "/wallet/getnowblock" (visibleBody []))
  | block height =>
    .ok (Http.post service.node "/wallet/getblockbynum"
      (visibleBody [("num", .integer height.toInt)]))
  | transactionInfo id =>
    .ok (Http.post service.node "/wallet/gettransactioninfobyid"
      (visibleBody [("value", .text id)]))
  | balance address => .ok (accountRequest service address)
  | account address => .ok (accountRequest service address)
  | createTransaction owner recipient amount memo =>
    .ok (Http.post service.node "/wallet/createtransaction"
      (visibleBody ([("owner_address", .text owner), ("to_address", .text recipient),
        ("amount", .integer amount.toNat)] ++ memoMember memo)))
  | triggerContract owner contract selector parameter feeLimit =>
    .ok (Http.post service.node "/wallet/triggersmartcontract"
      (visibleBody (contractMembers owner contract selector parameter ++
        [("fee_limit", .integer feeLimit.toNat), ("call_value", .integer 0)])))
  | broadcast payload =>
    match Json.decode Json.readValue payload with
    | some body => .ok (Http.post service.node "/wallet/broadcasttransaction" body)
    | none => .error .json
  | chainParameters => .ok (Http.get service.node "/wallet/getchainparameters")
  | estimateEnergy owner contract selector parameter =>
    .ok (Http.post service.node "/wallet/estimateenergy"
      (visibleBody (contractMembers owner contract selector parameter)))
  | contractCall contract data =>
    .ok (Http.remoteCall service.rpc "eth_call" [
      Value.ofMembers [("from", .text contract), ("to", .text contract), ("gas", .text "0x0"),
        ("gasPrice", .text "0x0"), ("value", .text "0x0"), ("data", .text data)],
      .text "latest"])

/-! What the replies mean. -/

def messageText : Option String → String
  | some message => nodeMessage message
  | none => ""

def checkLatest (block : Block) : Except Error Block :=
  if block.id = "" then .error (.parameter "getnowblock returned no blockID") else .ok block

/-- A height without a block is answered by a block without an id. -/
def checkBlock (height : Int64) (block : Block) : Except Error Block :=
  if block.id = "" then
    .error (.transport ("block " ++ Decimal.ofInt height.toInt ++ " not found"))
  else .ok block

def checkCreated (reply : CreateReply) : Except Error Transaction :=
  match reply.refusal with
  | some refusal => .error (.parameter ("createtransaction rejected: " ++ refusal))
  | none =>
    if reply.transaction.id = "" ∨ reply.transaction.rawHex = "" then
      .error (.parameter "createtransaction returned no txID")
    else .ok reply.transaction

/-- A built contract call has succeeded when tried out, and has an id. -/
def checkTriggered (reply : TriggerReply) : Except Error Transaction :=
  if reply.outcome.result then
    match reply.transaction with
    | some tx =>
      if tx.id = "" then .error (.parameter "triggersmartcontract returned no transaction")
      else .ok tx
    | none => .error (.parameter "triggersmartcontract returned no transaction")
  else
    .error (.parameter ("triggersmartcontract rejected: " ++ reply.outcome.code.getD "" ++ " " ++
      messageText reply.outcome.message))

def checkBroadcast (reply : BroadcastReply) : Except Error BroadcastReply :=
  if reply.result then .ok reply
  else .error (.broadcast (reply.code.getD "" ++ " " ++ messageText reply.message))

def checkEstimate (reply : EstimateReply) : Except Error Int64 :=
  if reply.outcome.result then
    match reply.energy with
    | some energy => .ok energy
    | none => .error (.parameter "estimateenergy returned no energy_required")
  else .error (.parameter ("estimateenergy rejected: " ++ messageText reply.outcome.message))

def receive (service : Service) (call : NodeCall) (request : Http.Request) (reply : Http.Reply) :
    Except Error call.Answer :=
  match call with
  | latestBlock => (Http.receive request Block.readJson reply).bind checkLatest
  | block height => (Http.receive request Block.readJson reply).bind (checkBlock height)
  | transactionInfo _ => Http.receive request TransactionInfo.readJson reply
  | balance _ => (Http.receive request Account.readJson reply).map Account.balance
  | account _ => Http.receive request Account.readJson reply
  | createTransaction _ _ _ _ => (Http.receive request CreateReply.readJson reply).bind checkCreated
  | triggerContract _ _ _ _ _ =>
    (Http.receive request TriggerReply.readJson reply).bind checkTriggered
  | broadcast _ => (Http.receive request BroadcastReply.readJson reply).bind checkBroadcast
  | chainParameters =>
    (Http.receive request ChainParameters.readEntries reply).bind ChainParameters.ofEntries
  | estimateEnergy _ _ _ _ =>
    (Http.receive request EstimateReply.readJson reply).bind checkEstimate
  | contractCall _ _ => Http.receiveRemote service.rpc "eth_call" RpcReply.readJson reply

def via {Effect : Type → Type} [Monad Effect] (service : Service)
    (exchange : Http.Request → Effect Http.Reply) (call : NodeCall) :
    Effect (Except Error call.Answer) :=
  match call.request service with
  | .error failure => pure (.error failure)
  | .ok request => (call.receive service request ·) <$> exchange request

end NodeCall

namespace BridgeCall

def readKey : Json.Reader String := fun depth json => do
  let members ← Json.readMembers ["pub_key"] depth json
  members.required "pub_key" Json.readText

def readKeys : Json.Reader (List String) := fun depth json => do
  let members ← Json.readMembers ["asgard"] depth json
  members.optional "asgard" (Json.readList readKey) []

def request (service : Service) : BridgeCall → Http.Request
  | vaults => Http.get service.bridge "/thorchain/vaults/asgard"
  | vaultKeys => Http.get service.bridge "/thorchain/vaults/pubkeys"
  | setting key => Http.get service.bridge ("/thorchain/mimir/key/" ++ key)

def receive (call : BridgeCall) (request : Http.Request) (reply : Http.Reply) :
    Except Error call.Answer :=
  match call with
  | vaults => Http.receive request (Json.readList Vault.readJson) reply
  | vaultKeys => Http.receive request readKeys reply
  | setting _ => Http.receive request Json.readInt64 reply

def via {Effect : Type → Type} [Monad Effect] (service : Service)
    (exchange : Http.Request → Effect Http.Reply) (call : BridgeCall) :
    Effect (Except Error call.Answer) :=
  let request := call.request service
  (call.receive request ·) <$> exchange request

end BridgeCall
end TronGateway
