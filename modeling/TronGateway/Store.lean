import TronGateway.Error
import TronGateway.Program
set_option autoImplicit false

/-!
# The store

Texts under keys. The gateway keeps its scan cursors and its record of paid orders in one store,
each under keys with a beginning of their own. A store that works is a list of entries with distinct
keys; one on a medium may fail at any call.
-/

namespace TronGateway

inductive StoreCall where
  | get (key : String)
  | put (key value : String)
  | delete (key : String)
  deriving DecidableEq, Repr

namespace StoreCall

/-- What a store answers that works. -/
abbrev Answer : StoreCall → Type
  | get _ => Option String
  | put _ _ => Unit
  | delete _ => Unit

/-- What a store answers that may fail. -/
abbrev Reply (call : StoreCall) : Type := Except Error call.Answer

def key : StoreCall → String
  | get key => key
  | put key _ => key
  | delete key => key

end StoreCall

/-- Entries with distinct keys. -/
structure Store where
  entries : List (String × String)

namespace Store

def empty : Store := ⟨[]⟩

def size (store : Store) : Nat := store.entries.length

def get? (store : Store) (key : String) : Option String :=
  store.entries.lookup key

def putEntry (key value : String) : List (String × String) → List (String × String)
  | [] => [(key, value)]
  | entry :: rest =>
    if entry.1 = key then (key, value) :: rest else entry :: putEntry key value rest

def put (store : Store) (key value : String) : Store :=
  ⟨putEntry key value store.entries⟩

def delete (store : Store) (key : String) : Store :=
  ⟨store.entries.filter fun entry => entry.1 ≠ key⟩

def answer (store : Store) : (call : StoreCall) → call.Answer × Store
  | .get key => (store.get? key, store)
  | .put key value => ((), store.put key value)
  | .delete key => ((), store.delete key)

end Store

/-- A program that uses the store and can fail. -/
abbrev Stored (α : Type) := ExceptT Error (Program StoreCall.Reply) α

namespace Stored

def call (call : StoreCall) : Stored call.Answer :=
  ExceptT.mk (Program.query call)

end Stored
end TronGateway
