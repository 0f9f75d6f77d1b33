import TronGateway.Toml.Value
set_option autoImplicit false

/-!
# Configuration files

A file is a sequence of sections. The first one has no header and holds the entries of the file
itself; each further one fills the table that its header names.
-/

namespace TronGateway.Toml

/-- A header: the names of a table, or of a series of tables that gets a further one. -/
structure Header where
  isSeries : Bool
  path : List String
  deriving DecidableEq, Repr

inductive Statement where
  | header (header : Header)
  | entry (entry : Node.Entry)

structure Section where
  header : Header
  entries : List Node.Entry

def lineEnd? (tokens : List Token) : Option (List Token) :=
  match skipGaps tokens with
  | [] => some []
  | .newline :: rest => some rest
  | .comment :: rest => some rest
  | _ => none

def header? (fuel : Nat) (tokens : List Token) : Option (Header × List Token) := do
  let (isSeries, rest) := match tokens with
    | .openBracket :: rest => (true, rest)
    | _ => (false, tokens)
  let (path, rest) ← key? fuel rest
  let rest ← expect? .closeBracket rest
  let rest ← if isSeries then expect? .closeBracket rest else some rest
  return (⟨isSeries, path⟩, rest)

def statement? (fuel : Nat) (tokens : List Token) : Parsed Statement :=
  match tokens with
  | .openBracket :: rest => (header? fuel rest).map fun (header, rest) => (.header header, rest)
  | _ => (assignment? fuel tokens).map fun (entry, rest) => (.entry entry, rest)

def statements? : Nat → List Token → Option (List Statement)
  | 0, _ => none
  | fuel + 1, tokens =>
    match skipLineGaps tokens with
    | [] => some []
    | tokens => do
      let (statement, rest) ← statement? (fuel + 1) tokens
      let rest ← lineEnd? rest
      let statements ← statements? fuel rest
      return statement :: statements

def sections : List Statement → List Node.Entry × List Section
  | [] => ([], [])
  | .entry entry :: rest =>
    let (entries, others) := sections rest
    (entry :: entries, others)
  | .header header :: rest =>
    let (entries, others) := sections rest
    ([], ⟨header, entries⟩ :: others)

def fill? : List Section → Node.Members → Option Node.Members
  | [], members => some members
  | head :: rest, members =>
    (Node.underHeader? head.header.isSeries (Node.setAll? head.entries) head.header.path
      members).bind (fill? rest)

/-- The table that a file stands for, or none when it is malformed. -/
def read? (text : String) : Option (List (String × Tree)) := do
  let tokens ← Token.scan? text
  let statements ← statements? (2 * tokens.length + 2) tokens
  let (entries, others) := sections statements
  let members ← Node.setAll? entries []
  let members ← fill? others members
  return Node.membersToTree members

end TronGateway.Toml
