import TronGateway.Settings.Tree
set_option autoImplicit false

/-!
# Tables under construction

Tables come about in three ways: a header names them, a longer header implies them, or a dotted key
names them on its way. A header may still name an implied table, once; dotted keys may extend a
dotted table; nothing else touches what exists, so that no name is set twice.
-/

namespace TronGateway.Toml

/-- How a table came about. -/
inductive Origin where
  | implied
  | headed
  | dotted
  deriving DecidableEq, Repr

/-- A value, a table, or a series of tables under one header. -/
inductive Node where
  | leaf (value : Tree)
  | table (origin : Origin) (members : List (String × Node))
  | series (tables : List Node)

namespace Node

abbrev Members := List (String × Node)

def alter? (name : String) (change : Option Node → Option Node) : Members → Option Members
  | [] => (change none).map fun node => [(name, node)]
  | (other, node) :: rest =>
    if other = name then (change (some node)).map fun node => (other, node) :: rest
    else (alter? name change rest).map ((other, node) :: ·)

def set? (value : Tree) : List String → Members → Option Members
  | [], _ => none
  | [name], members =>
    alter? name (fun
      | none => some (leaf value)
      | some _ => none) members
  | name :: path, members =>
    alter? name (fun
      | none => (set? value path []).map (table .dotted)
      | some (table .dotted members) => (set? value path members).map (table .dotted)
      | some _ => none) members

abbrev Entry := List String × Tree

def setAll? : List Entry → Members → Option Members
  | [], members => some members
  | (path, value) :: rest, members => (set? value path members).bind (setAll? rest)

def alterLast? (change : Members → Option Members) : List Node → Option (List Node)
  | [] => none
  | [table origin members] => (change members).map fun members => [table origin members]
  | node :: rest => (alterLast? change rest).map (node :: ·)

/-- What a header makes of the node under its last name: the table that it names, or a further table
of a series. -/
def headed? (isSeries : Bool) (fill : Members → Option Members) : Option Node → Option Node
  | none => (fill []).map fun members =>
      if isSeries then series [table .headed members] else table .headed members
  | some (table .implied members) =>
    if isSeries then none else (fill members).map (table .headed)
  | some (series tables) =>
    if isSeries then (fill []).map fun members => series (tables ++ [table .headed members])
    else none
  | some _ => none

/-- Fills the table that a header names. The way there leads through tables that headers made and
through the last tables of series. -/
def underHeader? (isSeries : Bool) (fill : Members → Option Members) :
    List String → Members → Option Members
  | [], _ => none
  | [name], members => alter? name (headed? isSeries fill) members
  | name :: path, members =>
    alter? name (fun
      | none => (underHeader? isSeries fill path []).map (table .implied)
      | some (table .implied members) =>
        (underHeader? isSeries fill path members).map (table .implied)
      | some (table .headed members) =>
        (underHeader? isSeries fill path members).map (table .headed)
      | some (series tables) =>
        (alterLast? (underHeader? isSeries fill path) tables).map series
      | some _ => none) members

mutual

def toTree : Node → Tree
  | leaf value => value
  | table _ members => .table (membersToTree members)
  | series tables => .list (tablesToTree tables)

def membersToTree : List (String × Node) → List (String × Tree)
  | [] => []
  | (name, node) :: rest => (name, toTree node) :: membersToTree rest

def tablesToTree : List Node → List Tree
  | [] => []
  | node :: rest => toTree node :: tablesToTree rest

end

def ofEntries? (entries : List Entry) : Option (List (String × Tree)) :=
  (setAll? entries []).map membersToTree

end Node
end TronGateway.Toml
