import TronGateway.Gateway
import TronGateway.Observer
import TronGateway.Http.Record
set_option autoImplicit false

/-!
# The program

The gateway as a program without arguments. Its settings come from a file and the environment. It
reaches the network through its caller: each request goes out as one line of JSON, and the next line
that comes in is the reply. The end of the input is the order to stop. What the observer notes goes
to the error output.
-/

namespace TronGateway.Main

def defaultFile : String := "./config.toml"

def fileVariable : String := "BIFROST_CONFIG"

def environmentFile : String := "/proc/self/environ"

structure World where
  settings : Settings
  memory : Memory
  store : Store
  observer : Observer.State
  stopped : Bool
  /-- When the next beats of the scanner and of the checks are due, in milliseconds. -/
  scanBeat : Nat
  checkBeat : Nat

def readFile? (path : String) : IO (Option String) := do
  try
    return some (← IO.FS.readFile path)
  catch _ => return none

def exchange (world : IO.Ref World) (request : Http.Request) : IO Http.Reply := do
  let settings := (← world.get).settings
  let output ← IO.getStdout
  output.putStrLn (request.toJson settings.node.scanner.requestTimeout).toText
  output.flush
  let line ← (← IO.getStdin).getLine
  if line.isEmpty then
    world.modify fun world => { world with stopped := true }
    return .dropped
  else return (Json.decode Http.Reply.readJson line).getD .dropped

def observe (world : IO.Ref World) (change : Observer.State → Observer.State) : IO Unit := do
  let state := (change (← world.get).observer).settle
  for note in state.notes do
    IO.eprintln ("[Observer] " ++ note.text)
  world.modify fun world => { world with observer := { state with notes := [] } }

def noService : Error := .config "no signing service"

/-- Answers a question at once; a wait ends with the stop. -/
def answerNow (world : IO.Ref World) : (question : Question) → IO question.Answer
  | .node call => do call.via (Gateway.service (← world.get).settings) (exchange world)
  | .bridge call => do call.via (Gateway.service (← world.get).settings) (exchange world)
  | .store call => do
    let (reply, store) := (← world.get).store.answer call
    world.modify fun world => { world with store }
    return .ok reply
  | .memory => return (← world.get).memory
  | .remember change =>
    world.modify fun world => { world with memory := world.memory.apply change }
  | .publishFee fee => do
    observe world fun state => { state with fees := state.fees.send fee }
    return .ok ()
  | .offerSolvency report => do
    observe world fun state => { state with solvency := state.solvency.send report }
    return .taken
  | .deliver report => do
    observe world fun state => { state with reports := state.reports.send report }
    return .ok ()
  | .remoteSign _ _ _ => return .error noService
  | .reportBlame _ _ _ _ _ => return .error noService
  | .wait _ => return .stopped
  | .isStopped => return (← world.get).stopped

def sleepUntil (due : Nat) : IO Unit := do
  IO.sleep (due - (← IO.monoMsNow)).toUInt32

/-- Waits until a moment, and takes the rounds of the solvency checks that are due before it. -/
partial def waitUntil (world : IO.Ref World) (tokens : List Token) (due : Nat) : IO Wake := do
  let state ← world.get
  if state.stopped then return .stopped
  else if state.checkBeat ≤ due then
    sleepUntil state.checkBeat
    let _ ← (Scanner.recheck tokens).runIn (answerNow world)
    let interval := state.settings.checkInterval.toNat * 1000
    world.modify fun world => { world with checkBeat := state.checkBeat + interval }
    waitUntil world tokens due
  else
    sleepUntil due
    return .elapsed

def answer (world : IO.Ref World) (tokens : List Token) :
    (question : Question) → IO question.Answer
  | .wait pause => do
    let state ← world.get
    let interval := state.settings.node.scanner.interval.toNat * 1000
    match pause with
    | .beat =>
      world.modify fun world => { world with scanBeat := state.scanBeat + interval }
      waitUntil world tokens state.scanBeat
    | .retry => waitUntil world tokens ((← IO.monoMsNow) + interval / 2)
    | .restart => waitUntil world tokens ((← IO.monoMsNow) + 1000)
  | question => answerNow world question

/-- Takes the steps of the scanner until it stops. -/
partial def scan (world : IO.Ref World) (settings : Runner.Settings) (tokens : List Token)
    (state : Runner.State) : IO (Except Error Unit) := do
  match state with
  | .stopped => return .ok ()
  | _ =>
    match ← (Runner.scanStep settings tokens state).runIn (answer world tokens) with
    | .finished state => scan world settings tokens state
    | _ => return .error .join

/-- Runs the gateway with its settings until the stop. Both workers need beats. -/
def serve (settings : Settings) : IO (Except Error Unit) := do
  let now ← IO.monoMsNow
  let world ← IO.mkRef (World.mk settings Memory.initial Store.empty Observer.State.initial false
    now now)
  match ← (Gateway.start settings).attempt.runIn (answerNow world) with
  | .finished (.ok payer) =>
    if settings.checkInterval = 0 ∨ settings.node.scanner.interval = 0 then return .error .join
    else
      let ended ← scan world (Gateway.runnerSettings settings) payer.tokens .starting
      observe world Observer.State.close
      return ended
  | .finished (.error failure) => return .error failure
  | _ => return .error .join

def loadSettings : IO (Except Error Settings) := do
  let path := (← IO.getEnv fileVariable).getD defaultFile
  let environment := Settings.Environment.ofBlock ((← readFile? environmentFile).getD "")
  match Settings.load (← readFile? path) environment with
  | .ok loaded => return loaded
  | .error _ => return .error .settings

/-- Runs the program; a failure is shown and makes the exit code 1. -/
def run : IO UInt32 := do
  let ended ←
    match ← loadSettings with
    | .ok settings => serve settings
    | .error failure => pure (.error failure)
  match ended with
  | .ok _ => return 0
  | .error failure =>
    IO.eprintln ("Error: " ++ failure.message)
    return 1

end TronGateway.Main

def main : IO UInt32 := TronGateway.Main.run
