import TronGateway.Json.Reader
import TronGateway.Json.Value
set_option autoImplicit false

/-!
# Typed readers of JSON

A reader takes a tree to a value of a domain type, or refuses it. It knows how many more levels of
arrays and objects the tree may have. A record is read from an object or from an array of its
members in order; members that it does not know are not looked at, but a known member must not be
repeated.
-/

namespace TronGateway.Json

abbrev Reader (α : Type) := Nat → Json → Option α

def maxDepth : Nat := 127

def decode {α : Type} (reader : Json.Reader α) (text : String) : Option α :=
  (parse text).bind (reader maxDepth)

def readText : Json.Reader String
  | _, .text value => value
  | _, _ => none

def readBool : Json.Reader Bool
  | _, .bool value => some value
  | _, _ => none

def readBetween (low high : Int) : Json.Reader Int
  | _, .number numeral =>
    match numeral.toInt? with
    | some n => if low ≤ n ∧ n ≤ high then some n else none
    | none => none
  | _, _ => none

def readInt64 : Json.Reader Int64 := fun depth json =>
  (readBetween (-0x8000000000000000) (0x8000000000000000 - 1) depth json).map Int64.ofInt

def readInt32 : Json.Reader Int32 := fun depth json =>
  (readBetween (-0x80000000) (0x80000000 - 1) depth json).map Int32.ofInt

def readUInt64 : Json.Reader UInt64 := fun depth json =>
  (readBetween 0 (0x10000000000000000 - 1) depth json).map fun n => UInt64.ofNat n.toNat

def readUInt32 : Json.Reader UInt32 := fun depth json =>
  (readBetween 0 (0x100000000 - 1) depth json).map fun n => UInt32.ofNat n.toNat

def readValue : Json.Reader Value := Value.ofJson?

def readNullable {α : Type} (reader : Json.Reader α) : Json.Reader (Option α)
  | _, .null => some none
  | depth, json => (reader depth json).map some

def readItems {α : Type} (reader : Json.Reader α) (depth : Nat) : List Json → Option (List α)
  | [] => some []
  | item :: rest =>
    match reader depth item, readItems reader depth rest with
    | some item, some rest => some (item :: rest)
    | _, _ => none

def readList {α : Type} (reader : Json.Reader α) : Json.Reader (List α)
  | depth + 1, .array items => readItems reader depth items
  | _, _ => none

/-- The known members of a record and the depth that their values may have. -/
structure Members where
  depth : Nat
  entries : List (String × Json)

/-- The members with known names; a known name occurs once, and every name is a text. -/
def knownMembers (names : List String) :
    List (String × Json) → List (Option String × Json) → Option (List (String × Json))
  | found, [] => some found
  | found, (key, item) :: rest =>
    match key with
    | none => none
    | some name =>
      if names.contains name then
        if (found.lookup name).isSome then none
        else knownMembers names (found ++ [(name, item)]) rest
      else knownMembers names found rest

def readMembers (names : List String) : Json.Reader Members
  | depth + 1, .object members => (knownMembers names [] members).map (⟨depth, ·⟩)
  | depth + 1, .array items =>
    if items.length ≤ names.length then some ⟨depth, names.zip items⟩ else none
  | _, _ => none

def Members.required {α : Type} (members : Members) (name : String) (reader : Json.Reader α) :
    Option α :=
  match members.entries.lookup name with
  | some json => reader members.depth json
  | none => none

/-- A member with a value that stands for its absence. -/
def Members.optional {α : Type} (members : Members) (name : String) (reader : Json.Reader α)
    (absent : α) : Option α :=
  match members.entries.lookup name with
  | some json => reader members.depth json
  | none => some absent

end TronGateway.Json
