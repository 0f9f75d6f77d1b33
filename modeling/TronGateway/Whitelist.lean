import TronGateway.Action
import TronGateway.Abi
import TronGateway.Token
set_option autoImplicit false

/-!
# Loading the whitelist

The ticker and the precision of each whitelisted contract are asked of the contract itself.
-/

namespace TronGateway.Whitelist

/-- The text that a contract answers to call data. Both are hexadecimal. -/
def callContract (contract data : String) : Action String := do
  let reply ← Action.node (.contractCall contract data)
  match reply.failure, reply.result with
  | some failure, _ =>
    throw (.parameter ("eth_call " ++ contract ++ " failed: " ++
      Decimal.ofInt failure.code.toInt ++ " " ++ failure.message))
  | none, none => throw (.parameter ("eth_call " ++ contract ++ " returned no result"))
  | none, some result => return result

def callMethod (contract method : String) : Action String :=
  callContract contract ("0x" ++ Hex.encode (Abi.selector method))

def checkDecimals (contract : String) (decimals : Amount) : Except Error UInt32 :=
  if decimals.units ≤ Amount.maxDecimals then .ok (UInt32.ofNat decimals.units)
  else .error (.decode (contract ++ " reports " ++ decimals.toText ++ " decimals"))

def loadToken (address : String) : Action Token := do
  let contract ← Address.toBase58 address
  let contractHex ← Address.toContractHex contract
  let symbol ← Abi.decodeTextAnswer (← callMethod contractHex Abi.symbolMethod)
  let decimals ← Abi.decodeAmountAnswer (← callMethod contractHex Abi.decimalsMethod)
  let decimals ← checkDecimals contract decimals
  return ⟨contract, symbol, decimals⟩

/-- The tokens of contract addresses in order; the first failure ends the loading. -/
def load : List String → Action (List Token)
  | [] => return []
  | address :: rest => do
    let token ← loadToken address
    let tokens ← load rest
    return token :: tokens

end TronGateway.Whitelist
