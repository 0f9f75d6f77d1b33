import TronGateway.Whitelist
import TronGateway.Observation
import TronGateway.Text.Blank
set_option autoImplicit false

/-!
# Inbound transfers

Which transactions of a block are payments to report: those with one contract that took effect, a
TRX transfer or a transfer of a whitelisted token, with a memo that is not blank. A transaction of
another kind is passed over; one that looks like a payment and is malformed is an error.
-/

namespace TronGateway.Ingest

structure Payment where
  sender : String
  recipient : String
  coin : Coin
  deriving DecidableEq

/-- The contract of a transaction with one contract that took effect. -/
def effectiveContract? (tx : Transaction) : Option Contract :=
  match tx.raw.contracts, tx.outcomes with
  | [contract], some outcome :: _ => if outcome = successOutcome then some contract else none
  | _, _ => none

def transferPayment (txId : String) (value : Value) : Except Error Payment :=
  match TransferValue.ofValue? value with
  | none => .error .json
  | some transfer =>
    if transfer.amount < 0 then .error (.decode ("negative amount in " ++ txId))
    else do
      let sender ← Address.toBase58 transfer.owner
      let recipient ← Address.toBase58 transfer.recipient
      let amount := Amount.ofSun (Amount.ofUInt64 transfer.amount.toUInt64)
      return ⟨sender, recipient, Coin.ofTrx amount⟩

def tokenCoin (token : Token) (amount : Amount) : Coin :=
  ⟨token.asset, amount.rescale token.decimals Amount.protocolDecimals, token.decimals⟩

/-- The payment of a contract that calls a smart contract, when it is a transfer of a known
token. -/
def triggerPayment (tokens : List Token) (value : Value) : Except Error (Option Payment) :=
  match TriggerValue.ofValue? value with
  | none => .error .json
  | some trigger => do
    let contract ← Address.toBase58 trigger.contract
    match Token.findByContract? tokens contract with
    | none => return none
    | some token =>
      match ← Abi.decodeCallText trigger.data with
      | none => return none
      | some call =>
        let sender ← Address.toBase58 trigger.owner
        return some ⟨sender, call.recipient, tokenCoin token call.amount⟩

def payment (tokens : List Token) (txId : String) (contract : Contract) :
    Except Error (Option Payment) :=
  if contract.kind = transferKind then (transferPayment txId contract.value).map some
  else if contract.kind = triggerKind then triggerPayment tokens contract.value
  else .ok none

/-- The memo of a transaction without the blanks around it. -/
def memo (tx : Transaction) : Except Error String := do
  let bytes ← Hex.read tx.raw.data
  match Utf8.decode bytes with
  | .ok text => return Text.trim text
  | .error fault =>
    throw (.decode ("memo of " ++ tx.id ++ " is not UTF-8: " ++ fault.message))

/-- The gas of a transaction that cost a fee in sun, which is never nothing. -/
def gas (fee : Int64) : Amount :=
  let units := Amount.ofSun (Amount.ofUInt64 (max fee 0).toUInt64)
  if units.units = 0 then Amount.saturate 1 else units

/-- The inbound transfer that a transaction is, if it is one. -/
def transfer (tokens : List Token) (tx : Transaction) (height : Int64) :
    Action (Option Transfer) := do
  match effectiveContract? tx with
  | none => return none
  | some contract =>
    match ← payment tokens tx.id contract with
    | none => return none
    | some payment =>
      let memo ← memo tx
      if memo = "" then return none
      else
        let info ← Action.node (.transactionInfo tx.id)
        return some ⟨tx.id, height, payment.sender, payment.recipient, [payment.coin],
          [Coin.ofTrx (gas info.fee)], memo⟩

/-- The inbound transfers among transactions, in order; one that fails is passed over. -/
def transfers (tokens : List Token) (height : Int64) : List Transaction → Activity (List Transfer)
  | [] => return []
  | tx :: rest => do
    let found ← (transfer tokens tx height).attempt
    let others ← transfers tokens height rest
    match found with
    | .ok (some transfer) => return transfer :: others
    | _ => return others

end TronGateway.Ingest
