import TronGateway.Coin
set_option autoImplicit false

/-!
# Vaults and what is reported about them

A vault is a key that the protocol chain holds funds under. What the protocol chain says of it, its
coins and the outbound payments scheduled against it, is what it owes.
-/

namespace TronGateway

structure Vault where
  pubKey : String
  coins : List Coin
  pendingOutbound : List Coin
  status : String
  deriving DecidableEq

def Vault.hasFunds (vault : Vault) (asset : Asset) : Except Overflow Bool :=
  (Coin.total vault.coins asset).map fun amount => 0 < amount.units

/-- A statement about the account of a vault at a height. -/
structure Solvency where
  height : Int64
  chain : String
  pubKey : String
  coins : List Coin
  solvent : Bool
  deriving DecidableEq

end TronGateway
