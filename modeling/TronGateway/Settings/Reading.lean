import TronGateway.Number.Checked
import TronGateway.Number.Decimal
import TronGateway.Settings.Tree
set_option autoImplicit false

/-!
# Reading settings

Settings are read generously: a text may be written as a number or a truth value, and a number as a
text, a truth value or a fraction, which is rounded. Lists and records admit no other form. A record
is read from a table by name, or from a list in order.
-/

namespace TronGateway.Settings

abbrev Reader (α : Type) := Tree → Option α

def readText : Reader String
  | .text value => some value
  | .flag value => some (if value then "true" else "false")
  | .integer value => some (Decimal.ofInt value.toInt)
  | .quantity value => some value.toText
  | _ => none

def wordValue? (text : String) : Option Nat :=
  let word := text.toList.map Char.toLower
  [("true".toList, 1), ("on".toList, 1), ("yes".toList, 1), ("false".toList, 0),
    ("off".toList, 0), ("no".toList, 0)].lookup word

/-- An integer between bounds; a quantity beyond them counts as the nearer bound, but a text or an
integer beyond them is refused. -/
def readBetween (low high : Int) (ofText : String → Option Int) : Reader Int
  | .integer value => if low ≤ value.toInt ∧ value.toInt ≤ high then some value.toInt else none
  | .quantity value => some (value.round low high)
  | .flag value => some (if value then 1 else 0)
  | .text value =>
    match wordValue? value with
    | some number => some number
    | none => ofText value
  | _ => none

def readInt64 : Reader Int64 := fun tree =>
  (readBetween (-0x8000000000000000) (0x8000000000000000 - 1)
    (fun text => (Decimal.readInt64 text).toOption.map Int64.toInt) tree).map Int64.ofInt

def readUInt64 : Reader UInt64 := fun tree =>
  (readBetween 0 (0x10000000000000000 - 1)
    (fun text => (Decimal.readUInt64 text).toOption.map fun n => Int.ofNat n.toNat) tree).map
    fun n => UInt64.ofNat n.toNat

def readPresent {α : Type} (reader : Reader α) : Reader (Option α)
  | .gap => some none
  | tree => (reader tree).map some

def readList {α : Type} (reader : Reader α) : Reader (List α)
  | .list items => items.mapM reader
  | _ => none

structure Members where
  entries : List (String × Tree)

def readMembers (names : List String) : Reader Members
  | .table members => some ⟨members⟩
  | .list items => some ⟨names.zip items⟩
  | _ => none

def Members.required {α : Type} (members : Members) (name : String) (reader : Reader α) :
    Option α :=
  (members.entries.lookup name).bind reader

/-- A member with a value that stands for its absence. -/
def Members.optional {α : Type} (members : Members) (name : String) (reader : Reader α)
    (absent : α) : Option α :=
  match members.entries.lookup name with
  | some tree => reader tree
  | none => some absent

end TronGateway.Settings
