import TronGateway.Observation
import TronGateway.Vault
import TronGateway.Text.Quoted
set_option autoImplicit false

/-!
# The observer

The observer empties the three queues to the protocol chain and notes what it takes out. A queue is
listened to until its senders are gone and nothing is left in it. The observer is done when it
listens to no queue any more; in which order it turns to the queues does not matter.
-/

namespace TronGateway.Observer

/-- A queue from its far end: the items in it, whether anybody can still send, and whether the
observer still listens. -/
structure Feed (α : Type) where
  items : List α
  hasSenders : Bool
  isHeard : Bool
  deriving DecidableEq

namespace Feed

variable {α : Type}

def initial : Feed α := ⟨[], true, true⟩

/-- Sends an item, which needs a sender and a listener. -/
def send (item : α) (feed : Feed α) : Feed α :=
  if feed.hasSenders && feed.isHeard then { feed with items := feed.items ++ [item] } else feed

def close (feed : Feed α) : Feed α := { feed with hasSenders := false }

/-- Takes an item out, if there is one. An empty queue without senders is not listened to any
more. -/
def take (feed : Feed α) : Option α × Feed α :=
  if feed.isHeard then
    match feed.items with
    | item :: rest => (some item, { feed with items := rest })
    | [] => (none, { feed with isHeard := feed.hasSenders })
  else (none, feed)

end Feed

inductive Note where
  | transfer (transfer : Transfer)
  | fee (fee : NetworkFee)
  | solvency (report : Solvency)
  deriving DecidableEq

namespace Note

def transferText (transfer : Transfer) : String :=
  transfer.tx ++ " block " ++ Decimal.ofInt transfer.height.toInt ++ ": " ++ transfer.sender ++
    " -> " ++ transfer.recipient ++ " [" ++ Coin.listText transfer.coins ++ "] memo " ++
    Text.quoted transfer.memo

def feeText (fee : NetworkFee) : String :=
  "network fee at " ++ Decimal.ofInt fee.height.toInt ++ ": rate " ++
    Decimal.ofNat fee.rate.toNat ++ " size " ++ Decimal.ofNat fee.size.toNat

def solvencyText (report : Solvency) : String :=
  "solvency " ++ report.pubKey ++ " at " ++ Decimal.ofInt report.height.toInt ++ ": solvent=" ++
    (if report.solvent then "true" else "false") ++ " [" ++ Coin.listText report.coins ++ "]"

def text : Note → String
  | transfer value => transferText value
  | fee value => feeText value
  | solvency value => solvencyText value

end Note

inductive Source where
  | reports
  | fees
  | solvency
  deriving DecidableEq, Repr

structure State where
  reports : Feed BlockReport
  fees : Feed NetworkFee
  solvency : Feed Solvency
  notes : List Note

namespace State

def initial : State := ⟨Feed.initial, Feed.initial, Feed.initial, []⟩

def reportNotes (report : BlockReport) : List Note :=
  report.transfers.map .transfer

/-- Turns to a queue and notes what it takes out. -/
def turn (state : State) : Source → State
  | .reports =>
    let (item, reports) := state.reports.take
    { state with reports, notes := state.notes ++ item.toList.flatMap reportNotes }
  | .fees =>
    let (item, fees) := state.fees.take
    { state with fees, notes := state.notes ++ item.toList.map .fee }
  | .solvency =>
    let (item, solvency) := state.solvency.take
    { state with solvency, notes := state.notes ++ item.toList.map .solvency }

def isDone (state : State) : Bool :=
  !state.reports.isHeard && !state.fees.isHeard && !state.solvency.isHeard

def close (state : State) : State :=
  { state with
    reports := state.reports.close
    fees := state.fees.close
    solvency := state.solvency.close }

def rotate : Nat → State → State
  | 0, state => state
  | rounds + 1, state =>
    rotate rounds (((state.turn .reports).turn .fees).turn .solvency)

/-- Takes out all that is there, and finds out which queues have ended. -/
def settle (state : State) : State :=
  rotate
    (state.reports.items.length + state.fees.items.length + state.solvency.items.length + 1) state

end State
end TronGateway.Observer
