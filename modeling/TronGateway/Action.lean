import TronGateway.Memory
import TronGateway.Store
import TronGateway.Node.Call
import TronGateway.Observation
import TronGateway.Keysign
set_option autoImplicit false

/-!
# What the gateway asks of its surroundings

Every effect of the gateway is one of these questions. Besides the calls into the node, the protocol
chain and the store there are the shared memory, the queues to the protocol chain, the threshold
signing service, and time.
-/

namespace TronGateway

inductive Pause where
  /-- Until the next beat of the activity's own interval. -/
  | beat
  /-- Half an interval, before a block is fetched again. -/
  | retry
  /-- One second, before the start height is asked for again. -/
  | restart
  deriving DecidableEq, Repr

inductive Wake where
  | elapsed
  | stopped
  deriving DecidableEq, Repr

/-- What became of a report that was offered to a queue for a limited time. -/
inductive Offer where
  | taken
  | closed
  | timedOut
  deriving DecidableEq, Repr

inductive Question where
  | node (call : NodeCall)
  | bridge (call : BridgeCall)
  | store (call : StoreCall)
  | memory
  | remember (change : Change)
  /-- Sends a fee, however long the queue stays full. -/
  | publishFee (fee : NetworkFee)
  /-- Offers a solvency statement for one block time. -/
  | offerSolvency (report : Solvency)
  /-- Sends a block report, until there is room or a stop. -/
  | deliver (report : BlockReport)
  | remoteSign (hash : List UInt8) (algorithm : SignAlgorithm) (key : String)
  | reportBlame (blame : Blame) (height : Int64) (memo : String) (coins : List Coin)
    (vault : String)
  | wait (pause : Pause)
  | isStopped
  deriving DecidableEq

abbrev Question.Answer : Question → Type
  | node call => Except Error call.Answer
  | bridge call => Except Error call.Answer
  | store call => call.Reply
  | memory => Memory
  | remember _ => Unit
  | publishFee _ => Except Error Unit
  | offerSolvency _ => Offer
  | deliver _ => Except Error Unit
  | remoteSign _ _ _ => Except Error RemoteSignature
  | reportBlame _ _ _ _ _ => Except Error String
  | wait _ => Wake
  | isStopped => Bool

abbrev Activity (α : Type) := Program Question.Answer α

abbrev Action (α : Type) := ExceptT Error (Program Question.Answer) α

namespace Activity

def query (question : Question) : Activity question.Answer := Program.query question

def memory : Activity Memory := query .memory

def remember (change : Change) : Activity Unit := query (.remember change)

def ofStored {α : Type} (program : Program StoreCall.Reply α) : Activity α :=
  program.relay fun call => query (.store call)

end Activity

namespace Action

def attempt {α : Type} (action : Action α) : Activity (Except Error α) := action.run

def check {α : Type} (result : Except Overflow α) : Action α :=
  ExceptT.lift (Program.check result)

def memory : Action Memory := ExceptT.lift Activity.memory

def remember (change : Change) : Action Unit := ExceptT.lift (Activity.remember change)

def node (call : NodeCall) : Action call.Answer :=
  ExceptT.mk (Activity.query (.node call))

def bridge (call : BridgeCall) : Action call.Answer :=
  ExceptT.mk (Activity.query (.bridge call))

def ofStored {α : Type} (program : Stored α) : Action α :=
  ExceptT.mk (Activity.ofStored program.run)

end Action
end TronGateway
