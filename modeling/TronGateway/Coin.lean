import TronGateway.Asset
import TronGateway.Number.Amount
set_option autoImplicit false

/-!
# Coins

A coin is an amount of an asset in protocol units, with the precision that the asset has on its own
chain.
-/

namespace TronGateway

structure Coin where
  asset : Asset
  amount : Amount
  decimals : UInt32
  deriving DecidableEq

namespace Coin

def ofTrx (amount : Amount) : Coin := ⟨Asset.trx, amount, Amount.trxDecimals⟩

def isEmpty (coin : Coin) : Bool :=
  coin.asset.isEmpty || coin.amount.units = 0

def toText (coin : Coin) : String :=
  coin.amount.toText ++ " " ++ coin.asset.toText

def listText (coins : List Coin) : String :=
  ", ".intercalate (coins.map toText)

def totalFrom (asset : Asset) : Amount → List Coin → Except Overflow Amount
  | total, [] => .ok total
  | total, coin :: rest =>
    if coin.asset = asset then
      match total.checkedAdd coin.amount with
      | .error overflow => .error overflow
      | .ok next => totalFrom asset next rest
    else totalFrom asset total rest

/-- The amount of an asset in a list of coins. -/
def total (coins : List Coin) (asset : Asset) : Except Overflow Amount :=
  totalFrom asset Amount.zero coins

end Coin
end TronGateway
