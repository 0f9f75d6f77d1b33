import TronGateway.Store
set_option autoImplicit false

/-!
# A store that fails on request

A store whose reads or writes of keys with certain beginnings fail before they touch it.
-/

namespace TronGateway.Rehearsal

/-- A store with the beginnings of the keys that cannot be read or written. -/
structure FaultyStore where
  store : Store
  unreadable : List String
  unwritable : List String

namespace FaultyStore

def empty : FaultyStore := ⟨Store.empty, [], []⟩

def hits (beginnings : List String) (key : String) : Bool :=
  beginnings.any fun beginning => beginning.toList.isPrefixOf key.toList

def fails (faulty : FaultyStore) : StoreCall → Bool
  | .get key => hits faulty.unreadable key
  | .put key _ => hits faulty.unwritable key
  | .delete key => hits faulty.unwritable key

def answer (call : StoreCall) (faulty : FaultyStore) : call.Reply × FaultyStore :=
  if faulty.fails call then (.error (.database ("store down for " ++ call.key)), faulty)
  else
    let (reply, store) := faulty.store.answer call
    (.ok reply, { faulty with store })

def run {α : Type} (program : Program StoreCall.Reply α) (faulty : FaultyStore) :
    Outcome α × FaultyStore :=
  program.run (fun call faulty =>
    let (reply, faulty) := answer call faulty
    (some reply, faulty)) faulty

end FaultyStore
end TronGateway.Rehearsal
