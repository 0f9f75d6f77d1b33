import TronGateway.Node.Block
import TronGateway.Node.Reply
import TronGateway.Vault
set_option autoImplicit false

/-!
# Calls into a node and into the protocol chain

The questions that the gateway has for the outside, each with the type of its answer. A call is one
request; nothing is retried here.
-/

namespace TronGateway

inductive NodeCall where
  | latestBlock
  | block (height : Int64)
  | transactionInfo (id : String)
  | balance (address : String)
  | account (address : String)
  | createTransaction (owner recipient : String) (amount : UInt64) (memo : String)
  | triggerContract (owner contract selector parameter : String) (feeLimit : UInt64)
  | broadcast (payload : String)
  | chainParameters
  | estimateEnergy (owner contract selector parameter : String)
  | contractCall (contract data : String)
  deriving DecidableEq, Repr

abbrev NodeCall.Answer : NodeCall → Type
  | latestBlock => Block
  | block _ => Block
  | transactionInfo _ => TransactionInfo
  | balance _ => UInt64
  | account _ => Account
  | createTransaction _ _ _ _ => Transaction
  | triggerContract _ _ _ _ _ => Transaction
  | broadcast _ => BroadcastReply
  | chainParameters => ChainParameters
  | estimateEnergy _ _ _ _ => Int64
  | contractCall _ _ => RpcReply

inductive BridgeCall where
  | vaults
  | vaultKeys
  | setting (key : String)
  deriving DecidableEq, Repr

abbrev BridgeCall.Answer : BridgeCall → Type
  | vaults => List Vault
  | vaultKeys => List String
  | setting _ => Int64

end TronGateway
