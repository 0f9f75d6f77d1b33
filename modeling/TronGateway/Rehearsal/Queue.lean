import TronGateway.Error
set_option autoImplicit false

/-!
# Queues with a capacity

A queue takes items while it is open and has room. Its items leave in the order in which they came.
-/

namespace TronGateway.Rehearsal

/-- A queue; one that is not open has lost its receiver. -/
structure Queue (α : Type) where
  capacity : Nat
  items : List α
  isOpen : Bool

namespace Queue

variable {α : Type}

def empty (capacity : Nat) : Queue α := ⟨capacity, [], true⟩

inductive Entry (α : Type) where
  | taken (queue : Queue α)
  | closed
  | full

def push (queue : Queue α) (item : α) : Entry α :=
  if !queue.isOpen then .closed
  else if queue.items.length < queue.capacity then
    .taken { queue with items := queue.items ++ [item] }
  else .full

def drain (queue : Queue α) : List α × Queue α :=
  (queue.items, { queue with items := [] })

def close (queue : Queue α) : Queue α :=
  { queue with items := [], isOpen := false }

end Queue
end TronGateway.Rehearsal
