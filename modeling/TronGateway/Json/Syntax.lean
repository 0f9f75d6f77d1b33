import TronGateway.Number.Decimal
set_option autoImplicit false

/-!
# JSON as written

The tree of a JSON text: members in their order and with repetitions, numbers as their digits. Text
in which a surrogate stands alone has no value; it may occur only where nobody looks at it.
-/

namespace TronGateway

/-- A number as written: sign, digits before and behind the point, and the digits of the exponent
with their sign. -/
structure Numeral where
  negative : Bool
  whole : List Char
  fraction : List Char
  exponent : Option (Bool × List Char)
  deriving DecidableEq, Repr

def Numeral.ofInt (n : Int) : Numeral :=
  ⟨n < 0, Decimal.natChars n.natAbs, [], none⟩

inductive Json where
  | null
  | bool (value : Bool)
  | number (numeral : Numeral)
  | text (value : Option String)
  | array (items : List Json)
  | object (members : List (Option String × Json))

namespace Json

def ofText (value : String) : Json := .text (some value)

def ofInt (n : Int) : Json := .number (Numeral.ofInt n)

def ofList {α : Type} (item : α → Json) (items : List α) : Json :=
  .array (items.map item)

def ofMembers (members : List (String × Json)) : Json :=
  .object (members.map fun member => (some member.1, member.2))

end Json
end TronGateway
