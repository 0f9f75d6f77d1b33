import TronGateway.Proofs.Program
import TronGateway.Proofs.Runner.Step
import TronGateway.Proofs.Store
set_option autoImplicit false

/-!
# Surroundings that keep a cursor

The surroundings of a runner may do as they like, but for the text under the key of the cursor: it
changes only where the runner writes it, and a read that is answered tells it. A write may fail, and
may then have been made or not. The events of a run say what the text can be at its end.
-/

namespace TronGateway

namespace Runner

def Question.Deletes : Question → Prop
  | .store (.delete _) => True
  | _ => False

abbrev Question.Spares (question : Question) : Prop :=
  ¬ question.Deletes

/-- Of all texts, the question reads or writes at most the cursor of the chain. -/
def Question.Minds (chain : String) : Question → Prop
  | .store (.get key) => key = Cursor.key chain
  | .store (.put key _) => key = Cursor.key chain
  | .store (.delete _) => False
  | _ => True

theorem Question.Minds.spares {chain : String} {question : Question}
    (minds : question.Minds chain) : question.Spares := by
  intro deletes
  cases question with
  | store call =>
      cases call with
      | delete key => exact minds
      | _ => cases deletes
  | _ => cases deletes

variable {settings : Settings}

theorem asks_start : (start settings).Asks (Question.Minds settings.chain) := by
  rw [start_eq]
  exact .ask _ _ rfl fun reply => .done _

theorem asks_seek : seek.Asks (Question.Minds settings.chain) := by
  refine .ask _ _ trivial fun reply => ?_
  cases reply with
  | ok cursor => exact .done _
  | error failure =>
      refine .ask _ _ trivial fun wake => ?_
      cases wake with
      | elapsed => exact .done _
      | stopped => exact .done _

theorem asks_measure (cursor : Int64) :
    (measure cursor).Asks (Question.Minds settings.chain) := by
  refine .ask _ _ trivial fun wake => ?_
  cases wake with
  | stopped => exact .done _
  | elapsed =>
      refine .ask _ _ trivial fun reply => ?_
      cases reply with
      | ok final => exact .done _
      | error failure => exact .ask _ _ trivial fun _ => .done _

theorem asks_deliver (report : BlockReport) :
    (deliver report).Asks (Question.Minds settings.chain) := by
  unfold deliver
  cases report.transfers.isEmpty with
  | true => exact .done _
  | false => exact .ask _ _ trivial fun reply => .done _

theorem asks_advance (cursor final : Int64) :
    (advance settings cursor final).Asks (Question.Minds settings.chain) := by
  refine Program.Asks.bind (.check _) fun next => ?_
  refine .ask _ _ rfl fun reply => ?_
  change (Program.bind (Program.check (Checked.sub final next)) _).Asks _
  exact (Program.Asks.check _).bind fun lag => .ask _ _ trivial fun _ => .done _

theorem asks_fetch (cursor final : Int64) :
    (fetch settings cursor final).Asks (Question.Minds settings.chain) := by
  refine .ask _ _ trivial fun reply => ?_
  cases reply with
  | ok report =>
      change (Program.bind (deliver report) _).Asks _
      refine (asks_deliver report).bind fun delivery => ?_
      cases delivery with
      | ok _ => exact asks_advance cursor final
      | error failure => exact .done _
  | error failure =>
      refine .ask _ _ trivial fun _ => .ask _ _ trivial fun wake => ?_
      cases wake with
      | elapsed => exact .done _
      | stopped => exact .done _

theorem asks_step (settings : Settings) (state : State) :
    (step settings state).Asks (Question.Minds settings.chain) := by
  cases state with
  | starting => exact asks_start
  | seeking => exact asks_seek
  | waiting cursor => exact asks_measure cursor
  | scanning cursor final =>
      unfold step
      dsimp only
      by_cases behind : final < cursor
      · rw [if_pos behind]
        exact .done _
      · rw [if_neg behind]
        refine .ask _ _ trivial fun told => ?_
        cases told with
        | true => exact .done _
        | false => exact asks_fetch cursor final
  | stopped => exact .done _

theorem iterate_keeps {World : Type}
    {answer : (question : Question) → World → Option question.Answer × World}
    {invariant : World → Prop}
    (kept : ∀ question world, question.Spares → invariant world →
      invariant (answer question world).2)
    (fuel : Nat) (state : State) {world : World} (held : invariant world) :
    invariant (iterate answer (step settings) fuel state world).2 := by
  induction fuel generalizing state world with
  | zero => exact held
  | succ fuel ih =>
      by_cases halted : state = .stopped
      · subst halted
        exact held
      · have spares := (asks_step settings state).mono fun _ => Question.Minds.spares
        have after := spares.keeps kept held
        rw [iterate.eq_3 _ _ _ _ _ halted]
        cases stepped : (step settings state).run answer world with
        | mk outcome between =>
            rw [stepped] at after
            cases outcome with
            | finished next => exact ih next after
            | overflowed overflow => exact after
            | stalled => exact after

theorem iterate_log {World : Type}
    (answer : (question : Question) → World → Option question.Answer × World) (fuel : Nat)
    (state : State) (world : World) (log : List Event) :
    ∃ rest, (iterate (Program.noting see answer) (step settings) fuel state (world, log)).2.2 =
      log ++ rest := by
  let invariant (state : World × List Event) : Prop := ∃ rest, state.2 = log ++ rest
  have held : invariant (world, log) := ⟨[], (List.append_nil log).symm⟩
  have kept : ∀ question state, question.Spares → invariant state →
      invariant (Program.noting see answer question state).2 := by
    rintro question state - ⟨rest, same⟩
    refine ⟨rest ++ (see question (answer question state.1).1).toList, ?_⟩
    rw [← List.append_assoc, ← same]
    rfl
  exact iterate_keeps kept fuel state held

/-! ### What the events say about a text -/

/-- What can stand under the key after the events: each write may have been made, and one that was
acknowledged has. -/
inductive Standing (key : String) (before : Option String) : List Event → Option String → Prop where
  | untouched : Standing key before [] before
  | made (text : String) (reply : Option (Except Error Unit)) {log : List Event}
    {entry : Option String} (earlier : Standing key before log entry) :
    Standing key before (log ++ [.put key text reply]) (some text)
  | lost (text : String) {reply : Option (Except Error Unit)} (refused : reply ≠ some (.ok ()))
    {log : List Event} {entry : Option String} (earlier : Standing key before log entry) :
    Standing key before (log ++ [.put key text reply]) entry
  | passed (event : Event) (other : ∀ text reply, event ≠ .put key text reply) {log : List Event}
    {entry : Option String} (earlier : Standing key before log entry) :
    Standing key before (log ++ [event]) entry

namespace Standing

variable {key : String} {before between after : Option String} {log more : List Event}

theorem append (first : Standing key before log between)
    (second : Standing key between more after) : Standing key before (log ++ more) after := by
  induction second with
  | untouched =>
      rw [List.append_nil]
      exact first
  | made text reply _ ih =>
      rw [← List.append_assoc]
      exact .made text reply ih
  | lost text refused _ ih =>
      rw [← List.append_assoc]
      exact .lost text refused ih
  | passed event other _ ih =>
      rw [← List.append_assoc]
      exact .passed event other ih

theorem origin (standing : Standing key before log after) :
    after = before ∨ ∃ text reply, .put key text reply ∈ log ∧ after = some text := by
  induction standing with
  | untouched => exact Or.inl rfl
  | made text reply _ _ =>
      exact Or.inr ⟨text, reply, List.mem_append_right _ (List.mem_singleton.mpr rfl), rfl⟩
  | lost _ _ _ ih =>
      rcases ih with same | ⟨text, reply, member, found⟩
      · exact Or.inl same
      · exact Or.inr ⟨text, reply, List.mem_append_left _ member, found⟩
  | passed _ _ _ ih =>
      rcases ih with same | ⟨text, reply, member, found⟩
      · exact Or.inl same
      · exact Or.inr ⟨text, reply, List.mem_append_left _ member, found⟩

end Standing

/-- Surroundings that keep the cursor of a chain. -/
structure Medium (chain : String) (World : Type) where
  answer : (question : Question) → World → Option question.Answer × World
  /-- The text under the key of the cursor. -/
  entry : World → Option String
  told : ∀ world text,
    (answer (.store (.get (Cursor.key chain))) world).1 = some (.ok text) → text = entry world
  written : ∀ text world,
    entry (answer (.store (.put (Cursor.key chain) text)) world).2 = some text ∨
      (answer (.store (.put (Cursor.key chain) text)) world).1 ≠ some (.ok ()) ∧
      entry (answer (.store (.put (Cursor.key chain) text)) world).2 = entry world
  kept : ∀ question world, question.Spares →
    (∀ text, question ≠ .store (.put (Cursor.key chain) text)) →
    entry (answer question world).2 = entry world

namespace Medium

variable {chain : String} {World : Type}

theorem standing_noting (medium : Medium chain World) {before : Option String} (question : Question)
    (state : World × List Event) (spares : question.Spares)
    (standing : Standing (Cursor.key chain) before state.2 (medium.entry state.1)) :
    Standing (Cursor.key chain) before (Program.noting see medium.answer question state).2.2
      (medium.entry (Program.noting see medium.answer question state).2.1) := by
  have passing (other : ∀ text, question ≠ .store (.put (Cursor.key chain) text))
      (noWrite : ∀ event ∈ see question (medium.answer question state.1).1,
        ∀ text reply, event ≠ .put (Cursor.key chain) text reply) :
      Standing (Cursor.key chain) before
        (state.2 ++ (see question (medium.answer question state.1).1).toList)
        (medium.entry (medium.answer question state.1).2) := by
    rw [medium.kept question state.1 spares other]
    cases seen : see question (medium.answer question state.1).1 with
    | none =>
        rw [Option.toList_none, List.append_nil]
        exact standing
    | some event => exact .passed event (noWrite event seen) standing
  have ofOther {event : Event}
      (different : ∀ text reply, event ≠ .put (Cursor.key chain) text reply) :
      ∀ found ∈ some event, ∀ text reply, found ≠ .put (Cursor.key chain) text reply := by
    intro found same
    cases same
    exact different
  -- Only a write under the key of the cursor can move the entry; the rest passes it by.
  cases question with
  | store call =>
      cases call with
      | get key =>
          exact passing (fun _ same => by cases same) (ofOther fun _ _ same => by cases same)
      | put key text =>
          by_cases own : key = Cursor.key chain
          · subst own
            rcases medium.written text state.1 with made | ⟨refused, same⟩
            · change Standing _ _ _ (medium.entry (medium.answer _ state.1).2)
              rw [made]
              exact .made text _ standing
            · change Standing _ _ _ (medium.entry (medium.answer _ state.1).2)
              rw [same]
              exact .lost text refused standing
          · exact passing (fun _ same => by cases same; exact own rfl)
              (ofOther fun _ _ same => by cases same; exact own rfl)
      | delete key => exact absurd trivial spares
  | height => exact passing (fun _ same => by cases same) (ofOther fun _ _ same => by cases same)
  | fetch height =>
      exact passing (fun _ same => by cases same) (ofOther fun _ _ same => by cases same)
  | deliver report =>
      exact passing (fun _ same => by cases same) (ofOther fun _ _ same => by cases same)
  | setHealthy healthy => exact passing (fun _ same => by cases same) (fun _ same => by cases same)
  | wait pause => exact passing (fun _ same => by cases same) (fun _ same => by cases same)
  | isStopped => exact passing (fun _ same => by cases same) (fun _ same => by cases same)

theorem standing_observe (medium : Medium chain World) (settings : Settings) (fuel : Nat)
    (world : World) :
    Standing (Cursor.key chain) (medium.entry world)
      (observe medium.answer settings fuel world).2.2
      (medium.entry (observe medium.answer settings fuel world).2.1) := by
  let invariant (state : World × List Event) : Prop :=
    Standing (Cursor.key chain) (medium.entry world) state.2 (medium.entry state.1)
  have held : invariant (world, []) := .untouched
  exact iterate_keeps medium.standing_noting fuel .starting held

end Medium

/-! ### A store that can fail -/

inductive Fate where
  | answered
  /-- The call fails; a write may have been made all the same. -/
  | failed (failure : Error) (made : Bool)
  /-- The run is cut off in the call. -/
  | cut (made : Bool)

namespace Fate

variable {store : Store} {call : StoreCall}

def left (store : Store) (call : StoreCall) : Fate → Store
  | answered => (store.answer call).2
  | failed _ made => if made then (store.answer call).2 else store
  | cut made => if made then (store.answer call).2 else store

def reply (store : Store) (call : StoreCall) : Fate → Option call.Reply
  | answered => some (.ok (store.answer call).1)
  | failed failure _ => some (.error failure)
  | cut _ => none

theorem left_cases (fate : Fate) : fate.left store call = (store.answer call).2 ∨
    (∀ value, fate.reply store call ≠ some (.ok value)) ∧ fate.left store call = store := by
  cases fate with
  | answered => exact Or.inl rfl
  | failed failure made =>
      cases made with
      | true => exact Or.inl rfl
      | false => exact Or.inr ⟨fun value => error_ne_ok failure value, rfl⟩
  | cut made =>
      cases made with
      | true => exact Or.inl rfl
      | false => exact Or.inr ⟨fun value => none_ne_ok value, rfl⟩

theorem reply_ok {fate : Fate} {value : call.Answer}
    (replied : fate.reply store call = some (.ok value)) : value = (store.answer call).1 := by
  cases fate with
  | answered =>
      cases replied
      rfl
  | failed failure made => cases replied
  | cut made => cases replied

end Fate

/-- A store of which any call can fail, in surroundings that do as they like. -/
def Medium.onStore {World : Type} (chain : String) (fate : StoreCall → World → Fate)
    (elsewhere : (question : Question) → World → Option question.Answer × World) :
    Medium chain (Store × World) where
  answer
    | .store call, (store, world) =>
      ((fate call world).reply store call, ((fate call world).left store call,
        (elsewhere (.store call) world).2))
    | question, (store, world) =>
      ((elsewhere question world).1, (store, (elsewhere question world).2))
  entry state := state.1.get? (Cursor.key chain)
  told := fun _ _ replied => Fate.reply_ok replied
  written := by
    rintro text ⟨store, world⟩
    rcases (fate (.put (Cursor.key chain) text) world).left_cases with made | ⟨refused, same⟩
    · refine Or.inl ?_
      dsimp only
      rw [made]
      exact store.get?_put _ _
    · refine Or.inr ⟨refused (), ?_⟩
      dsimp only
      rw [same]
  kept := by
    rintro question ⟨store, world⟩ spares other
    cases question with
    | store call =>
        rcases (fate call world).left_cases with made | ⟨-, same⟩
        · dsimp only
          rw [made]
          cases call with
          | get key => rfl
          | put key text =>
              refine store.get?_put_other ?_ text
              rintro rfl
              exact other text rfl
          | delete key => exact absurd trivial spares
        · dsimp only
          rw [same]
    | height => rfl
    | fetch height => rfl
    | setHealthy healthy => rfl
    | deliver report => rfl
    | wait pause => rfl
    | isStopped => rfl

end Runner
end TronGateway
