import TronGateway.Number.Quantity
set_option autoImplicit false

/-!
# Trees of settings

What a configuration file says, before anybody knows which settings there are: truth values,
integers, quantities and texts in lists and tables. A gap fills the places of a list that nobody has
set.
-/

namespace TronGateway

inductive Tree where
  | gap
  | flag (value : Bool)
  | integer (value : Int64)
  | quantity (value : Quantity)
  | text (value : String)
  | list (items : List Tree)
  | table (members : List (String × Tree))

namespace Tree

def members : Tree → List (String × Tree)
  | table members => members
  | _ => []

def items : Tree → List Tree
  | list items => items
  | _ => []

def insert (name : String) (value : Tree) : List (String × Tree) → List (String × Tree)
  | [] => [(name, value)]
  | (other, kept) :: rest =>
    if other = name then (name, value) :: rest else (other, kept) :: insert name value rest

mutual

/-- What stands under a name after `incoming` has been set there: the members of a table are set one
by one, anything else takes the place of what was there. -/
def merge (incoming : Tree) (old : Option Tree) : Tree :=
  match incoming with
  | table members => mergeMembers members (old.getD (table []))
  | other => other

/-- Sets members one after the other; what is no table becomes one with the first of them. -/
def mergeMembers : List (String × Tree) → Tree → Tree
  | [], old => old
  | (name, value) :: rest, old =>
    mergeMembers rest (table (insert name (merge value (old.members.lookup name)) old.members))

end

end Tree
end TronGateway
