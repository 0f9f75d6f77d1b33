import TronGateway.Coin
set_option autoImplicit false

/-!
# Observations

What the gateway reports to the protocol chain about a block: the inbound transfers in it, and from
time to time the fee of a transaction.
-/

namespace TronGateway

structure Transfer where
  tx : String
  height : Int64
  sender : String
  recipient : String
  coins : List Coin
  gas : List Coin
  memo : String
  deriving DecidableEq

structure BlockReport where
  chain : String
  transfers : List Transfer
  filtered : Bool
  memPool : Bool
  deriving DecidableEq

/-- The fee of a transaction, as its size and the rate per unit of size. -/
structure NetworkFee where
  chain : String
  height : Int64
  size : UInt64
  rate : UInt64
  deriving DecidableEq

end TronGateway
