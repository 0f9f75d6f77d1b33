import TronGateway.Error
import TronGateway.Text.Uppercase
set_option autoImplicit false

/-!
# Assets

An asset is a symbol on a chain, written `CHAIN.SYMBOL` in capital letters. The symbol of a token is
its ticker and its contract address joined by a dash.
-/

namespace TronGateway

def chainName : String := "TRON"

structure Asset where
  chain : String
  symbol : String
  deriving DecidableEq, Repr

namespace Asset

def trx : Asset := ⟨chainName, "TRX"⟩

def token (ticker contract : String) : Asset :=
  ⟨chainName, Text.uppercase (ticker ++ "-" ++ contract)⟩

def isGas (asset : Asset) : Bool :=
  asset = trx

def isEmpty (asset : Asset) : Bool :=
  asset.chain.isEmpty || asset.symbol.isEmpty

def toText (asset : Asset) : String :=
  asset.chain ++ "." ++ asset.symbol

def splitAtPoint : List Char → Option (List Char × List Char)
  | [] => none
  | c :: rest =>
    if c = '.' then some ([], rest)
    else (splitAtPoint rest).map fun parts => (c :: parts.1, parts.2)

/-- The asset of a text in any case; both sides of the first point hold something. -/
def parse (text : String) : Except Error Asset :=
  match splitAtPoint text.toList with
  | none => .error (.parameter ("invalid asset: " ++ text))
  | some (chain, symbol) =>
    if chain.isEmpty || symbol.isEmpty then .error (.parameter ("invalid asset: " ++ text))
    else .ok ⟨Text.uppercase (String.ofList chain), Text.uppercase (String.ofList symbol)⟩

end Asset
end TronGateway
