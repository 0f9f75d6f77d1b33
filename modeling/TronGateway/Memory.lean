import TronGateway.RefBlock
set_option autoImplicit false

/-!
# The memory of the scanner

What the scanner knows besides the store: the candidates for references, the current fee, the
address that fees are estimated for, its health, and the last scanned height. It is shared by
activities that run side by side, so that it changes by single steps.
-/

namespace TronGateway

structure Memory where
  ring : List RefBlock
  /-- In sun; zero until a fee has been published. -/
  currentFee : UInt64
  refAddress : Option String
  healthy : Bool
  previousHeight : Int64
  deriving DecidableEq, Repr

inductive Change where
  | candidate (block : RefBlock)
  | fee (sun : UInt64)
  | refAddress (address : String)
  | health (healthy : Bool)
  | scanned (height : Int64)
  deriving DecidableEq, Repr

namespace Memory

def initial : Memory := ⟨[], 0, none, true, 0⟩

def apply (memory : Memory) : Change → Memory
  | .candidate block => { memory with ring := RefBlock.push memory.ring block }
  | .fee sun => { memory with currentFee := sun }
  | .refAddress address => { memory with refAddress := some address }
  | .health healthy => { memory with healthy }
  | .scanned height => { memory with previousHeight := height }

end Memory
end TronGateway
