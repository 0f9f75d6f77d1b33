import TronGateway.Scanner
import TronGateway.Signer
import TronGateway.PaymentRecord
import TronGateway.Transaction.Rehash
set_option autoImplicit false

/-!
# Payments

An order is turned into a transaction of the node, bound to a reference block, signed and broadcast.
The fingerprint of a broadcast order is recorded, and an order on record is not signed again.
-/

namespace TronGateway.Payment

/-- The gateway as far as it pays: its tokens and who signs. -/
structure Payer where
  tokens : List Token
  signers : Signer.Signers

/-- Transactions are stamped with whole multiples of this many milliseconds. -/
def stampAccuracy : Int64 := 10000

def validity : Int64 := 90000

/-- The stamp of a transaction made at a time in milliseconds: the time rounded down, and one step
back. -/
def stamp (now : Int64) : Except Overflow Int64 := do
  let rounded ← Checked.sub now (Int64.ofInt (now.toInt % stampAccuracy.toInt))
  Checked.sub rounded stampAccuracy

def onlyCoin (coins : List Coin) : Except Error Coin :=
  match coins with
  | [coin] => if coin.isEmpty then .error (.badOrder "empty coin") else .ok coin
  | _ => .error (.badOrder ("expected 1 coin, got " ++ Decimal.ofNat coins.length))

def payable (amount : Amount) (fault : String) : Except Error UInt64 :=
  match toUInt64? amount.units with
  | some value => .ok value
  | none => .error (.badOrder fault)

def buildTransfer (order : Order) (coin : Coin) (owner recipient : String) :
    Action Transaction := do
  let amount ← payable coin.amount.toSun ("amount " ++ coin.amount.toText ++ " out of range")
  Action.node (.createTransaction owner recipient amount order.memo)

def buildTokenTransfer (tokens : List Token) (order : Order) (coin : Coin)
    (owner recipient : String) : Action Transaction := do
  match Token.findByAsset? tokens coin.asset with
  | none => throw (.badOrder (coin.asset.toText ++ " is not a whitelisted token"))
  | some token =>
    let amount := coin.amount.rescale Amount.protocolDecimals token.decimals
    let call ← Abi.encodeTransfer recipient amount
    let gas ← Action.check (Coin.total order.maxGas Asset.trx)
    let feeLimit ← payable gas.toSun "max gas out of range"
    Action.node (.triggerContract owner token.contract Abi.transferMethod
      (Hex.encode (call.drop Abi.selectorLength)) feeLimit)

def build (tokens : List Token) (order : Order) (coin : Coin) (owner recipient : String) :
    Action Transaction :=
  if coin.asset.isGas then buildTransfer order coin owner recipient
  else buildTokenTransfer tokens order coin owner recipient

/-- A transaction bound to a block, with the time and the memo of the payment. -/
def bindTo (tx : Transaction) (block : RefBlock) (stamp : Int64) (memo : String) :
    Action Transaction := do
  let hash ← RefBlock.hashText block.id
  let expiration ← Action.check (Checked.add stamp validity)
  let raw := { tx.raw with
    refBlockBytes := RefBlock.heightText block.height
    refBlockHash := hash
    timestamp := stamp
    expiration := expiration
    data := Hex.encode (Utf8.encode memo) }
  { tx with raw }.rehash

/-! ### Signing -/

/-- Reports who is to blame for a failed signature, when somebody is and there is a reporter. -/
def reportBlame (payer : Payer) (order : Order) (blame : Blame) : Activity Unit := do
  if blame.nodes.isEmpty || !payer.signers.reporter then return ()
  else
    let _ ← Activity.query
      (.reportBlame blame order.height order.memo order.coins order.vault)
    return ()

def signRemotely (payer : Payer) (order : Order) (hash : List UInt8) : Action (List UInt8) := do
  let reply ← ExceptT.lift (Activity.query (.remoteSign hash .secp256k1 order.vault))
  match Signer.remoteBytes reply with
  | .ok signature => return signature
  | .error (.keysignBlame blame) =>
    ExceptT.lift (reportBlame payer order blame)
    throw (.keysignBlame blame)
  | .error failure => throw failure

def sign (payer : Payer) (order : Order) (hash : List UInt8) : Action (List UInt8) := do
  let signature ←
    match payer.signers.ownKey? order.vault with
    | some key => Signer.signLocally key hash
    | none =>
      if payer.signers.remote then signRemotely payer order hash
      else throw (.config ("no key manager can sign for vault " ++ order.vault))
  Signer.verify hash signature order.vault
  return signature

/-- Signs an order that has not been paid, with the candidates for its reference. -/
def signUnpaid (payer : Payer) (order : Order) (ring : List RefBlock) (now : Int64) :
    Action Transaction := do
  if ring.isEmpty then throw .noRefBlock
  else
    let coin ← onlyCoin order.coins
    let owner ← KeyText.address order.vault
    let recipient ← Address.toBase58 order.recipient
    let shell ← build payer.tokens order coin owner recipient
    let stamp ← Action.check (stamp now)
    match RefBlock.select ring stamp with
    | none => throw .noRefBlock
    | some block =>
      let tx ← bindTo shell block stamp order.memo
      let hash ← Hex.read tx.id
      let signature ← sign payer order hash
      return { tx with signatures := tx.signatures ++ [Hex.encode signature] }

/-- The payload that pays an order at a time in milliseconds; empty when the order has been paid. -/
def signOrder (payer : Payer) (order : Order) (now : Int64) : Action String := do
  if ← Action.ofStored (PaymentRecord.isPaid order.fingerprint) then return ""
  else
    let memory ← Action.memory
    let tx ← signUnpaid payer order memory.ring now
    return tx.toText

/-- The id of a broadcast payload: what the node says, else what the payload says. -/
def broadcastId (reply : BroadcastReply) (payload : String) : Except Error String :=
  if reply.txId = "" then
    match Transaction.parse payload with
    | some tx => .ok tx.id
    | none => .error .json
  else .ok reply.txId

def broadcast (order : Order) (payload : String) : Action String := do
  let reply ← Action.node (.broadcast payload)
  let id ← broadcastId reply payload
  ExceptT.lift (Activity.ofStored (PaymentRecord.record order.fingerprint order.vault id))
  return id

end TronGateway.Payment
