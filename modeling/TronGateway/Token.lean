import TronGateway.Asset
set_option autoImplicit false

/-!
# Whitelisted tokens

The token contracts that the gateway takes in from and pays out of.
-/

namespace TronGateway

/-- A token contract with its base58 address, its ticker and its precision. -/
structure Token where
  contract : String
  symbol : String
  decimals : UInt32
  deriving DecidableEq, Repr

namespace Token

def asset (token : Token) : Asset := Asset.token token.symbol token.contract

/-- The first token with a contract, in which the case of letters does not count. -/
def findByContract? (tokens : List Token) (contract : String) : Option Token :=
  tokens.find? fun token => Text.sameIgnoringAsciiCase token.contract contract

def findByAsset? (tokens : List Token) (asset : Asset) : Option Token :=
  tokens.find? fun token => token.asset = asset

end Token
end TronGateway
