import TronGateway.Rehearsal.Queue
import TronGateway.Rehearsal.FaultyStore
import TronGateway.Rehearsal.Clock
set_option autoImplicit false

/-!
# The near surroundings

What the gateway finds close by: its memory, the store, the queues and the clock. A full queue
either costs the time of one block, or is waited for until the stop, or for ever.
-/

namespace TronGateway.Rehearsal

structure Desk where
  memory : Memory
  store : FaultyStore
  fees : Queue NetworkFee
  solvency : Queue Solvency
  reports : Queue BlockReport
  clock : Clock
  /-- The time between two blocks of the protocol chain in milliseconds. -/
  blockTime : Nat

namespace Desk

def initial (fees solvency reports blockTime : Nat) : Desk :=
  ⟨Memory.initial, FaultyStore.empty, Queue.empty fees, Queue.empty solvency, Queue.empty reports,
    Clock.initial, blockTime⟩

def call (desk : Desk) (call : StoreCall) : call.Reply × Desk :=
  let (reply, store) := FaultyStore.answer call desk.store
  (reply, { desk with store })

/-- Sends a fee; a full queue is waited for without an end. -/
def publishFee (desk : Desk) (fee : NetworkFee) : Option (Except Error Unit) × Desk :=
  match desk.fees.push fee with
  | .taken fees => (some (.ok ()), { desk with fees })
  | .closed => (some (.error .queueClosed), desk)
  | .full => (none, desk)

def offer (desk : Desk) (report : Solvency) : Offer × Desk :=
  match desk.solvency.push report with
  | .taken solvency => (.taken, { desk with solvency })
  | .closed => (.closed, desk)
  | .full => (.timedOut, { desk with clock := desk.clock.pass desk.blockTime })

/-- Delivers a block report; a full queue is waited for until the stop. -/
def deliver (desk : Desk) (report : BlockReport) : Option (Except Error Unit) × Desk :=
  match desk.reports.push report with
  | .taken reports => (some (.ok ()), { desk with reports })
  | .closed => (some (.error .queueClosed), desk)
  | .full =>
    match desk.clock.stop with
    | some stop => (some (.error .cancelled), { desk with clock := (desk.clock.waitUntil stop).2 })
    | none => (none, desk)

def wait (desk : Desk) (pause : Pause) : Option Wake × Desk :=
  let (wake, clock) := desk.clock.wait pause
  (wake, { desk with clock })

def startClock (desk : Desk) (interval duration : Nat) : Desk :=
  { desk with clock := desk.clock.start interval duration }

def finishClock (desk : Desk) : Desk :=
  { desk with clock := desk.clock.finish }

/-- Answers a question in a world that holds a desk. What is not on the desk is answered by the rest
of the world. -/
def answerIn {World : Type} (desk : World → Desk) (put : World → Desk → World)
    (far : (question : Question) → World → Option question.Answer × World) :
    (question : Question) → World → Option question.Answer × World
  | .store call, world =>
    let (reply, after) := (desk world).call call
    (some reply, put world after)
  | .memory, world => (some (desk world).memory, world)
  | .remember change, world =>
    (some (), put world { desk world with memory := (desk world).memory.apply change })
  | .publishFee fee, world =>
    let (reply, after) := (desk world).publishFee fee
    (reply, put world after)
  | .offerSolvency report, world =>
    let (offer, after) := (desk world).offer report
    (some offer, put world after)
  | .deliver report, world =>
    let (reply, after) := (desk world).deliver report
    (reply, put world after)
  | .wait pause, world =>
    let (wake, after) := (desk world).wait pause
    (wake, put world after)
  | .isStopped, world => (some (desk world).clock.isStopped, world)
  | question, world => far question world

end Desk
end TronGateway.Rehearsal
