import TronGateway.Settings.Tree
set_option autoImplicit false

/-!
# Settings from the environment

A variable sets one setting when its name starts with the mark of this program. Letters are small
and large alike, and two underscores separate the names of nested tables. Every value is a text.
-/

namespace TronGateway.Settings.Environment

def mark : String := "bifrost__"

/-- The small letter of a character, where that is an ASCII letter. Besides the large ASCII letters
only the sign of the unit kelvin has one. -/
def lower (c : Char) : Char :=
  if 'A' ≤ c ∧ c ≤ 'Z' then Char.ofNat (c.toNat + 32) else if c = '\u212a' then 'k' else c

def points : List Char → List Char
  | '_' :: '_' :: rest => '.' :: points rest
  | c :: rest => c :: points rest
  | [] => []

def key? (name : String) : Option String :=
  let chars := name.toList.map lower
  if mark.toList.isPrefixOf chars then
    some (String.ofList (points (chars.drop mark.length)))
  else none

def binding? (text : String) : Option (String × String) :=
  let chars := text.toList
  let name := chars.takeWhile (· ≠ '=')
  match chars.drop name.length with
  | _ :: value => some (String.ofList name, String.ofList value)
  | [] => none

/-- The variables of a block of texts, each closed by a null character. -/
def ofBlock (block : String) : List (String × String) :=
  (block.splitOn "\x00").filterMap binding?

/-- The settings in the variables, as keys and texts. Of two variables with one key the later one
counts. -/
def members : List (String × String) → List (String × Tree)
  | [] => []
  | (name, value) :: rest =>
    match key? name with
    | some key => (key, .text value) :: members rest
    | none => members rest

end TronGateway.Settings.Environment
