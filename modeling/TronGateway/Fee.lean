import TronGateway.Action
import TronGateway.Abi
import TronGateway.KeyText
import TronGateway.Token
set_option autoImplicit false

/-!
# Transaction fees

What a transaction of the gateway costs, and its publication to the protocol chain. The fee is
bandwidth, energy when tokens are paid out, the fee for a memo and that for a new account, all in
sun. The remembered fee follows the published one: it changes when the queue has taken the new fee
and not before.
-/

namespace TronGateway.Fee

def transferBandwidth : Int64 := 284

def tokenBandwidth : Int64 := 345

/-- A first payment to a recipient takes about twice the estimated energy. -/
def energyMargin : Int64 := 2

/-- What it costs to pay to an account that does not exist yet. -/
def activation : Int64 := 1100000

def unitsPerSun : UInt64 := 100

def maxEnergy (estimates : List Int64) : Except Overflow Int64 :=
  Checked.mul (estimates.max?.getD 0) energyMargin

def compute (parameters : ChainParameters) (hasTokens : Bool) (energy : Int64) :
    Except Overflow Int64 := do
  let bandwidth := if hasTokens then tokenBandwidth else transferBandwidth
  let base ← Checked.mul bandwidth parameters.bandwidthFee
  let withEnergy ←
    if hasTokens then Checked.add base (← Checked.mul energy parameters.energyFee) else pure base
  let withMemo ← Checked.add withEnergy parameters.memoFee
  Checked.add withMemo activation

/-- The first vault that holds some of an asset. -/
def firstFunded? (asset : Asset) : List Vault → Except Overflow (Option Vault)
  | [] => .ok none
  | vault :: rest => do
    if ← vault.hasFunds asset then return some vault else firstFunded? asset rest

/-- The address that fees are estimated for: that of the first vault with TRX, found once. -/
def refAddress : Action String := do
  match (← Action.memory).refAddress with
  | some address => return address
  | none =>
    let vaults ← Action.bridge .vaults
    match ← Action.check (firstFunded? Asset.trx vaults) with
    | none => throw (.parameter "no vault holds TRX yet, fee reference address unknown")
    | some vault =>
      let address ← KeyText.address vault.pubKey
      Action.remember (.refAddress address)
      return address

def estimates (address parameter : String) : List Token → Action (List Int64)
  | [] => return []
  | token :: rest => do
    let energy ← Action.node
      (.estimateEnergy address token.contract Abi.transferMethod parameter)
    let others ← estimates address parameter rest
    return energy :: others

/-- The energy that a token transfer may take, tried out with transfers of nothing to the reference
address itself. -/
def estimateMaxEnergy (tokens : List Token) (address : String) : Action Int64 := do
  let call ← Abi.encodeTransfer address Amount.zero
  let found ← estimates address (Hex.encode (call.drop Abi.selectorLength)) tokens
  Action.check (maxEnergy found)

def message (height : Int64) (sun : UInt64) : Except Overflow NetworkFee :=
  (Checked.mulUnsigned sun unitsPerSun).map fun rate => ⟨chainName, height, 1, rate⟩

/-- Publishes a positive fee and remembers it; another one changes nothing. -/
def publish (height fee : Int64) : Action Unit := do
  if 0 < fee then
    let sun := fee.toUInt64
    let message ← Action.check (message height sun)
    ExceptT.mk (Activity.query (.publishFee message))
    Action.remember (.fee sun)
  else return ()

def update (tokens : List Token) (height : Int64) : Action Unit := do
  let address ← refAddress
  let parameters ← Action.node .chainParameters
  let energy ← if tokens.isEmpty then pure 0 else estimateMaxEnergy tokens address
  let fee ← Action.check (compute parameters (!tokens.isEmpty) energy)
  publish height fee

end TronGateway.Fee
