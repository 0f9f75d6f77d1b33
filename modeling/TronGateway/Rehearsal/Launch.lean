import TronGateway.Rehearsal.Routes
import TronGateway.Rehearsal.Desk
import TronGateway.Gateway
import TronGateway.Observer
set_option autoImplicit false

/-!
# Launches

A launch starts the whole gateway from its settings against routes and stops it after the first beat
of each worker. The observer takes out of the queues all that the workers put in.
-/

namespace TronGateway.Rehearsal

structure Launch where
  service : Service
  network : Network
  desk : Desk

namespace Launch

/-- More than a launch can put into a queue: the observer keeps the queues from filling up. -/
def capacity : Nat := 1000000000000

/-- When the workers are told to stop, in milliseconds: long before their second beats. -/
def stopTime : Nat := 30

/-- The surroundings of a launch with settings. Where no time is given to a request none arrives. -/
def initial (settings : Settings) (routes : List Route) : Launch :=
  ⟨Gateway.service settings, ⟨routes, settings.node.scanner.requestTimeout ≠ 0, []⟩,
    Desk.initial capacity capacity capacity (settings.bridge.blockTime.toNat * 1000)⟩

def connect {α : Type} (call : StateM Network α) (launch : Launch) : Option α × Launch :=
  let (answer, network) := call.run launch.network
  (some answer, { launch with network })

def answerFar : (question : Question) → Launch → Option question.Answer × Launch
  | .node call, launch => launch.connect (call.via launch.service Network.exchange)
  | .bridge call, launch => launch.connect (call.via launch.service Network.exchange)
  | _, launch => (none, launch)

def answer : (question : Question) → Launch → Option question.Answer × Launch :=
  Desk.answerIn desk (fun launch desk => { launch with desk }) answerFar

/-- A bound on the steps of a worker, which no launch comes near. -/
def fuel : Nat := 1000000000000

def startClock (seconds : UInt64) (launch : Launch) : Launch :=
  { launch with desk := launch.desk.startClock (seconds.toNat * 1000) stopTime }

def runChecks (settings : Settings) (tokens : List Token) (launch : Launch) :
    Outcome Unit × Launch :=
  Scanner.watchFor answer tokens fuel (launch.startClock settings.checkInterval)

def runScanner (settings : Settings) (tokens : List Token) (launch : Launch) :
    Outcome Runner.State × Launch :=
  Runner.iterate answer (Runner.scanStep (Gateway.runnerSettings settings) tokens) fuel .starting
    (launch.startClock settings.node.scanner.interval)

def joined {α : Type} : Outcome α → Except Error Unit
  | .finished _ => .ok ()
  | _ => .error .join

def work (settings : Settings) (tokens : List Token) (launch : Launch) :
    Except Error Unit × Launch :=
  let (checks, launch) := launch.runChecks settings tokens
  let (scan, launch) := launch.runScanner settings tokens
  ((joined scan).bind fun _ => joined checks, launch)

def run (settings : Settings) (launch : Launch) : Except Error Unit × Launch :=
  match (Gateway.start settings).attempt.run answer launch with
  | (.finished (.ok payer), launch) => launch.work settings payer.tokens
  | (.finished (.error failure), launch) => (.error failure, launch)
  | (_, launch) => (.error .join, launch)

def notes (launch : Launch) : List Observer.Note :=
  let state : Observer.State :=
    ⟨⟨launch.desk.reports.items, true, true⟩, ⟨launch.desk.fees.items, true, true⟩,
      ⟨launch.desk.solvency.items, true, true⟩, []⟩
  state.close.settle.notes

end Launch

structure LaunchRecord where
  result : Except Error Unit
  arrivals : List Arrival
  notes : List Observer.Note

def LaunchRecord.ofFile (file : String) (routes : List Route) : LaunchRecord :=
  match Settings.load (some file) [] with
  | .ok (.ok settings) =>
    let (result, launch) := (Launch.initial settings routes).run settings
    ⟨result, launch.network.arrivals, launch.notes⟩
  | .ok (.error failure) => ⟨.error failure, [], []⟩
  | .error _ => ⟨.error .join, [], []⟩

end TronGateway.Rehearsal
