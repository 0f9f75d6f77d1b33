import TronGateway.Coin
import TronGateway.Hash.Sha256
set_option autoImplicit false

/-!
# Outbound orders

An order asks for a payment out of a vault. Its fingerprint is the key under which the gateway
remembers that the order has been paid.
-/

namespace TronGateway

structure Order where
  chain : String
  recipient : String
  vault : String
  coins : List Coin
  memo : String
  maxGas : List Coin
  gasRate : Int64
  inHash : String
  height : Int64
  deriving DecidableEq

def sha256Hex (bytes : List UInt8) : String :=
  Hex.encode (Sha256.digest bytes)

namespace Order

/-- The parts of an order that tell it from others, joined by bars. -/
def summary (order : Order) : String :=
  "|".intercalate
    [order.chain, order.recipient, order.vault, Coin.listText order.coins, order.memo, order.inHash]

def fingerprint (order : Order) : String :=
  sha256Hex (Utf8.encode order.summary)

end Order
end TronGateway
