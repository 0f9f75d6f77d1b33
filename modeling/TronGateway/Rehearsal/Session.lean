import TronGateway.Rehearsal.Tables
import TronGateway.Rehearsal.Desk
import TronGateway.Runner
import TronGateway.Gateway
set_option autoImplicit false

/-!
# Sessions

A session runs the gateway against tables of answers. Every call is logged before it is answered,
and time passes only where the gateway waits.
-/

namespace TronGateway.Rehearsal

open Json (ofText ofInt)

inductive RemoteSigner where
  /-- It signs with a key given as text. -/
  | withKey (key : String)
  | fixed (signature : RemoteSignature)
  | failing (failure : Error)

namespace RemoteSigner

def sign (hash : List UInt8) : RemoteSigner → Except Error RemoteSignature
  | withKey key => do
    let key ← Signer.localKey key
    let signature ← Signer.signLocally key hash
    return ⟨signature.take 64, (signature.drop 64).headD 0⟩
  | fixed signature => .ok signature
  | failing failure => .error failure

def readJson : Json.Reader RemoteSigner := fun depth json => do
  let members ← Json.readMembers ["key", "signature", "recovery", "blame", "error"] depth json
  let key ← members.optional "key" (Json.readNullable Json.readText) none
  let signature ← members.optional "signature" (Json.readNullable Json.readText) none
  let recovery ← members.optional "recovery" Json.readUInt32 0
  let blame ← members.optional "blame" (Json.readNullable Blame.readJson) none
  let failure ← members.optional "error" (Json.readNullable Tables.readError) none
  match key, signature, blame, failure with
  | some key, _, _, _ => some (withKey key)
  | _, some signature, _, _ =>
    (Hex.decode signature).toOption.map fun bytes => fixed ⟨bytes, recovery.toUInt8⟩
  | _, _, some blame, _ => some (failing (.keysignBlame blame))
  | _, _, _, some failure => some (failing failure)
  | _, _, _, _ => none

end RemoteSigner

def nodeArguments : NodeCall → List Json
  | .latestBlock => []
  | .block height => [ofInt height.toInt]
  | .transactionInfo id => [ofText id]
  | .balance address => [ofText address]
  | .account address => [ofText address]
  | .createTransaction owner recipient amount memo =>
    [ofText owner, ofText recipient, ofInt amount.toNat, ofText memo]
  | .triggerContract owner contract selector parameter feeLimit =>
    [ofText owner, ofText contract, ofText selector, ofText parameter, ofInt feeLimit.toNat]
  | .broadcast payload => [ofText payload]
  | .chainParameters => []
  | .estimateEnergy owner contract selector parameter =>
    [ofText owner, ofText contract, ofText selector, ofText parameter]
  | .contractCall contract data => [ofText contract, ofText data]

def bridgeArguments : BridgeCall → List Json
  | .vaults => []
  | .vaultKeys => []
  | .setting key => [ofText key]

def logLine (name : String) (arguments : List Json) : Json :=
  .array (ofText name :: arguments)

structure Session where
  tables : Tables
  desk : Desk
  remote : Option RemoteSigner
  log : List Json

namespace Session

def logged (session : Session) (name : String) (arguments : List Json) : Session :=
  { session with log := session.log ++ [logLine name arguments] }

def remoteSign (session : Session) (hash : List UInt8) : Except Error RemoteSignature :=
  match session.remote with
  | some signer => signer.sign hash
  | none => .error (.config "no signing service")

def reportBlame (session : Session) : Except Error String := do
  session.tables.failing Tables.blameName
  return "REPORTED"

def answerFar : (question : Question) → Session → Option question.Answer × Session
  | .node call, session =>
    (some (session.tables.answerNode call),
      session.logged (Tables.nodeName call) (nodeArguments call))
  | .bridge call, session =>
    (some (session.tables.answerBridge call),
      session.logged (Tables.bridgeName call) (bridgeArguments call))
  | .remoteSign hash _ _, session => (some (session.remoteSign hash), session)
  | .reportBlame blame height memo coins vault, session =>
    (some session.reportBlame, session.logged Tables.blameName
      [blame.toJson, ofInt height.toInt, ofText memo, Coin.listToJson coins, ofText vault])
  | _, session => (none, session)

def answer : (question : Question) → Session → Option question.Answer × Session :=
  Desk.answerIn desk (fun session desk => { session with desk }) answerFar

def run {α : Type} (activity : Activity α) (session : Session) : Outcome α × Session :=
  activity.run answer session

def perform {α : Type} (action : Action α) (session : Session) :
    Outcome (Except Error α) × Session :=
  session.run action.attempt

/-- A bound on the steps of a worker, which no session comes near. -/
def fuel : Nat := 1000000000000

def runChecks (tokens : List Token) (interval duration : Nat) (session : Session) :
    Outcome Unit × Session :=
  let (outcome, session) := Scanner.watchFor answer tokens fuel
    { session with desk := session.desk.startClock interval duration }
  (outcome, { session with desk := session.desk.finishClock })

structure RunnerRecord where
  reports : List BlockReport
  cursor : Option String

/-- Runs the runner of the scanner for a time, on a store of its own. -/
def runScanner (tokens : List Token) (settings : Runner.Settings) (interval duration capacity : Nat)
    (session : Session) : Outcome RunnerRecord × Session :=
  let kept := session.desk.store
  let desk := { session.desk with store := FaultyStore.empty, reports := Queue.empty capacity }
  let (outcome, session) := Runner.iterate answer (Runner.scanStep settings tokens) fuel .starting
    { session with desk := desk.startClock interval duration }
  let record : RunnerRecord :=
    ⟨session.desk.reports.items, session.desk.store.store.get? (Cursor.key settings.chain)⟩
  let session := { session with desk := { session.desk with store := kept }.finishClock }
  match outcome with
  | .finished _ => (.finished record, session)
  | .overflowed overflow => (.overflowed overflow, session)
  | .stalled => (.stalled, session)

end Session
end TronGateway.Rehearsal
