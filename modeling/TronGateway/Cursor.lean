import TronGateway.Store
import TronGateway.Number.Decimal
set_option autoImplicit false

/-!
# Scan cursors

The next height to scan of a chain, kept in the store as decimal text.
-/

namespace TronGateway.Cursor

def key (chain : String) : String := "scan_position:" ++ chain

def parse (text : String) : Except Error Int64 :=
  match Decimal.readInt64 text with
  | .ok height => .ok height
  | .error fault =>
    .error (.database ("corrupt scan position " ++ Text.quoted text ++ ": " ++ fault.message))

/-- The cursor of a chain, if one was ever written. -/
def read (chain : String) : Stored (Option Int64) := do
  match ← Stored.call (.get (key chain)) with
  | none => return none
  | some text => return some (← parse text)

def write (chain : String) (height : Int64) : Stored Unit :=
  Stored.call (.put (key chain) (Decimal.ofInt height.toInt))

end TronGateway.Cursor
