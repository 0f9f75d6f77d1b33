import TronGateway.Rehearsal.Queue
import TronGateway.Rehearsal.FaultyStore
import TronGateway.Rehearsal.Tables
import TronGateway.Runner
set_option autoImplicit false

/-!
# Scripts for a runner

A script says what a scanner answers to its runner, call by call, and records what the runner does.
An answer can come with the order to stop. The script ends with the heights: one more request for a
height, or one after the order to stop, ends the record.
-/

namespace TronGateway.Rehearsal

open Json (ofText ofInt)

/-- A scripted answer, and whether the order to stop comes with it. -/
structure Cue (α : Type) where
  answer : Except Error α
  stops : Bool

def Cue.readJson {α : Type} (reader : Json.Reader α) (absent : Option α) : Json.Reader (Cue α) :=
  fun depth json => do
    let members ← Json.readMembers ["ok", "err", "cancel"] depth json
    let value ← members.optional "ok" (Json.readNullable reader) absent
    let failure ← members.optional "err" (Json.readNullable Tables.readError) none
    let stops ← members.optional "cancel" Json.readBool false
    match failure, value with
    | some failure, _ => some ⟨.error failure, stops⟩
    | none, some value => some ⟨.ok value, stops⟩
    | none, none => none

structure Script where
  heights : List (Cue Int64)
  /-- The answers for the blocks of a height, as the names of the transfers in it. -/
  blocks : List (String × List (Cue (List String)))
  store : FaultyStore
  reports : Queue BlockReport
  stopped : Bool
  ended : Bool
  events : List Json

namespace Script

def recorded (script : Script) (name : String) (details : List Json) : Script :=
  if script.ended then script
  else { script with events := script.events ++ [.array (ofText name :: details)] }

def storeEvent (script : Script) : StoreCall → Script
  | .get key => script.recorded "store_get" [ofText key]
  | .put key value => script.recorded "store_put" [ofText key, ofText value]
  | .delete key => script.recorded "store_delete" [ofText key]

def height (script : Script) : Except Error Int64 × Script :=
  match script.heights, script.stopped with
  | cue :: rest, false =>
    let shown := match cue.answer with
      | .ok height => ofInt height.toInt
      | .error _ => ofText "err"
    (cue.answer, { script.recorded "get_height" [shown] with
      heights := rest, stopped := cue.stops })
  | _, _ => (.error .cancelled, { script with stopped := true, ended := true })

/-- The transfers of a scripted block, of which only the names are known. -/
def report (chain : String) (height : Int64) (names : List String) : BlockReport :=
  ⟨chain, names.map fun name => ⟨name, height, "", "", [], [], ""⟩, false, false⟩

def takeCue (key : String) :
    List (String × List (Cue (List String))) →
      Cue (List String) × List (String × List (Cue (List String)))
  | [] => (⟨.ok [], false⟩, [])
  | (other, cues) :: rest =>
    if other = key then
      match cues with
      | [] => (⟨.ok [], false⟩, (other, []) :: rest)
      | cue :: cues => (cue, (other, cues) :: rest)
    else
      let (cue, rest) := takeCue key rest
      (cue, (other, cues) :: rest)

def fetch (chain : String) (height : Int64) (script : Script) :
    Except Error BlockReport × Script :=
  let (cue, blocks) := takeCue (Decimal.ofInt height.toInt) script.blocks
  let shown := match cue.answer with
    | .ok _ => "ok"
    | .error _ => "err"
  (cue.answer.map (report chain height),
    { script.recorded "fetch_txs" [ofInt height.toInt, ofText shown] with
      blocks := blocks, stopped := script.stopped || cue.stops })

/-- The answer to a delivery; a queue that stays full is left by the order to stop. -/
def deliver (report : BlockReport) (script : Script) : Except Error Unit × Script :=
  match script.reports.push report with
  | .taken reports => (.ok (), { script with reports })
  | .closed => (.error .queueClosed, script)
  | .full => (.error .cancelled, { script with stopped := true })

def answer (chain : String) :
    (question : Runner.Question) → Script → Option question.Answer × Script
  | .store call, script =>
    let (reply, store) := FaultyStore.answer call script.store
    (some reply, { script.storeEvent call with store })
  | .height, script =>
    let (reply, script) := script.height
    (some reply, script)
  | .fetch height, script =>
    let (reply, script) := script.fetch chain height
    (some reply, script)
  | .setHealthy healthy, script => (some (), script.recorded "set_healthy" [.bool healthy])
  | .deliver report, script =>
    let (reply, script) := script.deliver report
    (some reply, script)
  | .wait _, script => (some (if script.stopped then .stopped else .elapsed), script)
  | .isStopped, script => (some script.stopped, script)

/-- A bound on the steps of a runner, which no script comes near. -/
def fuel : Nat := 1000000000000

def play (settings : Runner.Settings) (script : Script) : Outcome Runner.State × Script :=
  Runner.run (answer settings.chain) settings fuel script

end Script
end TronGateway.Rehearsal
