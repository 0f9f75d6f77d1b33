import TronGateway.Scanner
import TronGateway.Cursor
set_option autoImplicit false

/-!
# The runner

The runner takes a scanner through the heights one by one. It starts at the stored cursor, else at a
configured height, else at the greatest final height. At each beat it asks for the greatest final
height and fetches what lies before it; a block that fails is fetched again, a report is delivered
before the cursor moves on, and the cursor is stored behind each block. The scanner counts as
healthy while it is close to the final height.

The runner never ends by itself, so that it is given by its steps: each step is a program, and its
result is the state to go on from.
-/

namespace TronGateway.Runner

inductive Question where
  | store (call : StoreCall)
  | height
  | fetch (height : Int64)
  | setHealthy (healthy : Bool)
  | deliver (report : BlockReport)
  | wait (pause : Pause)
  | isStopped
  deriving DecidableEq

abbrev Question.Answer : Question → Type
  | store call => call.Reply
  | height => Except Error Int64
  | fetch _ => Except Error BlockReport
  | setHealthy _ => Unit
  | deliver _ => Except Error Unit
  | wait _ => Wake
  | isStopped => Bool

abbrev Act (α : Type) := Program Question.Answer α

def query (question : Question) : Act question.Answer := Program.query question

def ofStored {α : Type} (program : Program StoreCall.Reply α) : Act α :=
  program.relay fun call => query (.store call)

/-! ### Steps -/

structure Settings where
  chain : String
  /-- Not positive: start at the greatest final height. -/
  startHeight : Int64
  /-- The distance from the final height up to which the scanner is healthy. -/
  maxHealthyLag : Int64
  deriving DecidableEq, Repr

inductive State where
  | starting
  /-- The start height has to be asked for. -/
  | seeking
  /-- Everything before `cursor` is done; waits for the next beat. -/
  | waiting (cursor : Int64)
  /-- Fetches from `cursor` up to `final`. -/
  | scanning (cursor final : Int64)
  | stopped
  deriving DecidableEq, Repr

/-- Reads the cursor; one that cannot be read counts as none. -/
def start (settings : Settings) : Act State := do
  match ← ofStored (Cursor.read settings.chain).run with
  | .ok (some cursor) => return .waiting cursor
  | _ => return if 0 < settings.startHeight then .waiting settings.startHeight else .seeking

def seek : Act State := do
  match ← query .height with
  | .ok cursor => return .waiting cursor
  | .error _ =>
    match ← query (.wait .restart) with
    | .elapsed => return .seeking
    | .stopped => return .stopped

def measure (cursor : Int64) : Act State := do
  match ← query (.wait .beat) with
  | .stopped => return .stopped
  | .elapsed =>
    match ← query .height with
    | .ok final => return .scanning cursor final
    | .error _ =>
      query (.setHealthy false)
      return .waiting cursor

def deliver (report : BlockReport) : Act (Except Error Unit) :=
  if report.transfers.isEmpty then return .ok () else query (.deliver report)

/-- Moves the cursor behind a scanned block. A cursor that cannot be stored does not stop the
scan. -/
def advance (settings : Settings) (cursor final : Int64) : Act State := do
  let next ← Program.check (Checked.add cursor 1)
  let _ ← ofStored (Cursor.write settings.chain next).run
  let lag ← Program.check (Checked.sub final next)
  query (.setHealthy (lag ≤ settings.maxHealthyLag))
  return .scanning next final

def fetch (settings : Settings) (cursor final : Int64) : Act State := do
  match ← query (.fetch cursor) with
  | .ok report =>
    match ← deliver report with
    | .ok _ => advance settings cursor final
    | .error _ => return .stopped
  | .error _ =>
    query (.setHealthy false)
    match ← query (.wait .retry) with
    | .elapsed => return .scanning cursor final
    | .stopped => return .stopped

def step (settings : Settings) : State → Act State
  | .starting => start settings
  | .seeking => seek
  | .waiting cursor => measure cursor
  | .scanning cursor final => do
    if final < cursor then return .waiting cursor
    else if ← query .isStopped then return .stopped
    else fetch settings cursor final
  | .stopped => return .stopped

/-- Takes at most `fuel` steps, each a program. -/
def iterate {Asked World : Type} {Answer : Asked → Type}
    (answer : (question : Asked) → World → Option (Answer question) × World)
    (step : State → Program Answer State) : Nat → State → World → Outcome State × World
  | 0, state, world => (.finished state, world)
  | _ + 1, .stopped, world => (.finished .stopped, world)
  | fuel + 1, state, world =>
    match (step state).run answer world with
    | (.finished state, world) => iterate answer step fuel state world
    | (.overflowed overflow, world) => (.overflowed overflow, world)
    | (.stalled, world) => (.stalled, world)

def run {World : Type}
    (answer : (question : Question) → World → Option question.Answer × World)
    (settings : Settings) (fuel : Nat) (world : World) : Outcome State × World :=
  iterate answer (step settings) fuel .starting world

def onScanner (tokens : List Token) : (question : Question) → Activity question.Answer
  | .store call => Activity.query (.store call)
  | .height => Scanner.height.attempt
  | .fetch height => (Scanner.fetch tokens height).attempt
  | .setHealthy healthy => Activity.remember (.health healthy)
  | .deliver report => Activity.query (.deliver report)
  | .wait pause => Activity.query (.wait pause)
  | .isStopped => Activity.query .isStopped

def scanStep (settings : Settings) (tokens : List Token) (state : State) : Activity State :=
  (step settings state).relay (onScanner tokens)

end TronGateway.Runner
