import TronGateway.Number.Checked
import TronGateway.Number.Decimal
import TronGateway.Settings.Tree
set_option autoImplicit false

/-!
# Paths into settings

A path names a place in a tree of settings: a member of the root, and from there members behind
points and items in brackets, such as `hosts.list[0].name`. Whatever stands in the way of a path
gives way to a table or a list.
-/

namespace TronGateway.Settings

inductive Step where
  | member (name : String)
  /-- A negative index counts from the end of the list. -/
  | item (index : Int64)
  deriving DecidableEq, Repr

namespace Path

def isNameChar (c : Char) : Bool :=
  ('a' ≤ c && c ≤ 'z') || ('A' ≤ c && c ≤ 'Z') || ('0' ≤ c && c ≤ '9') || c = ' ' || c = '_' ||
    c = '-'

def isBlank (c : Char) : Bool := c = ' ' || c = '\t'

def isDigit (c : Char) : Bool := '0' ≤ c && c ≤ '9'

def index? (chars : List Char) : Option (Int64 × List Char) :=
  let chars := chars.dropWhile isBlank
  let sign := chars.take (if chars.head? = some '-' then 1 else 0)
  let chars := chars.drop sign.length
  let digits := chars.takeWhile isDigit
  match (chars.drop digits.length).dropWhile isBlank with
  | ']' :: rest =>
    if digits.isEmpty then none
    else
      match Decimal.readInt64 (String.ofList (sign ++ digits)) with
      | .ok index => some (index, rest)
      | .error _ => none
  | _ => none

def name? (chars : List Char) : Option (String × List Char) :=
  let name := chars.takeWhile isNameChar
  if name.isEmpty then none else some (String.ofList name, chars.drop name.length)

def steps? : Nat → List Char → Option (List Step)
  | _, [] => some []
  | 0, _ => none
  | fuel + 1, '.' :: rest =>
    (name? rest).bind fun (name, rest) => (steps? fuel rest).map (.member name :: ·)
  | fuel + 1, '[' :: rest =>
    (index? rest).bind fun (index, rest) => (steps? fuel rest).map (.item index :: ·)
  | _, _ => none

def parse? (text : String) : Option (List Step) :=
  (name? text.toList).bind fun (name, rest) =>
    (steps? rest.length rest).map (.member name :: ·)

/-- The path that a key stands for; one that spells none is a name as a whole. -/
def ofKey (key : String) : List Step :=
  (parse? key).getD [.member key]

def position (index : Int64) (length : Nat) : Except Overflow Nat :=
  if 0 ≤ index then .ok index.toInt.toNat
  else if index.toInt.natAbs ≤ length then .ok (length - index.toInt.natAbs)
  else .error .subtract

/-- Puts an item at a place of a list; the places before it that nobody has set are gaps. -/
def setItem (place : Nat) (value : Tree) (items : List Tree) : List Tree :=
  (items ++ List.replicate (place + 1 - items.length) Tree.gap).set place value

def set (value : Tree) : List Step → Tree → Except Overflow Tree
  | [], _ => .ok value
  | [.member name], tree => .ok (Tree.mergeMembers [(name, value)] tree)
  | .member name :: path, tree => do
    let inner ← set value path ((tree.members.lookup name).getD .gap)
    return .table (Tree.insert name inner tree.members)
  | .item index :: path, tree => do
    let place ← position index tree.items.length
    let inner ← set value path ((tree.items[place]?).getD .gap)
    return .list (setItem place inner tree.items)

def setAll : List (String × Tree) → Tree → Except Overflow Tree
  | [], tree => .ok tree
  | (key, value) :: rest, tree => do
    let tree ← set value (ofKey key) tree
    setAll rest tree

end Path
end TronGateway.Settings
