import TronGateway.Number.Checked
set_option autoImplicit false

/-!
# Programs that ask

A program is a finite tree: it ends with a value, ends in an overflow, or asks a question and goes
on with the answer. It holds no state and knows no clock; whoever runs it answers the questions from
a state of his own. One program can so be run against the network, against tables, or one question
at a time between the questions of other programs.
-/

namespace TronGateway

/-- A program with a result in `α` whose questions have the answers `Answer`. -/
inductive Program {Question : Type} (Answer : Question → Type) (α : Type) : Type where
  | done (value : α)
  | abort (overflow : Overflow)
  | ask (question : Question) (next : Answer question → Program Answer α)

/-- How a run ends: with a value, in an overflow, or waiting for an answer that never comes. -/
inductive Outcome (α : Type) where
  | finished (value : α)
  | overflowed (overflow : Overflow)
  | stalled
  deriving DecidableEq, Repr

namespace Program

variable {Question : Type} {Answer : Question → Type} {α β : Type}

/-- Runs a second program on the result of the first. -/
def bind (program : Program Answer α) (next : α → Program Answer β) : Program Answer β :=
  match program with
  | done value => next value
  | abort overflow => abort overflow
  | ask question answer => ask question fun reply => (answer reply).bind next

instance : Monad (Program Answer) where
  pure := done
  bind := bind

def query (question : Question) : Program Answer (Answer question) :=
  ask question done

def check : Except Overflow α → Program Answer α
  | .ok value => done value
  | .error overflow => abort overflow

/-- Puts questions of another kind in place of the questions, each answered by a program. -/
def relay {Other : Type} {OtherAnswer : Other → Type}
    (interpret : (question : Question) → Program OtherAnswer (Answer question)) :
    Program Answer α → Program OtherAnswer α
  | done value => done value
  | abort overflow => abort overflow
  | ask question next => (interpret question).bind fun reply => relay interpret (next reply)

@[simp] theorem done_bind (value : α) (next : α → Program Answer β) :
    (done value).bind next = next value := rfl

@[simp] theorem bind_done (program : Program Answer α) : program.bind done = program := by
  induction program with
  | done value => rfl
  | abort overflow => rfl
  | ask question reply ih => simp [bind, ih]

theorem bind_assoc {γ : Type} (program : Program Answer α) (first : α → Program Answer β)
    (second : β → Program Answer γ) :
    (program.bind first).bind second = program.bind fun value => (first value).bind second := by
  induction program with
  | done value => rfl
  | abort overflow => rfl
  | ask question reply ih => simp [bind, ih]

instance : LawfulMonad (Program Answer) :=
  LawfulMonad.mk' (Program Answer) bind_done (fun _ _ => rfl) bind_assoc

/-- Runs a program on a state from which its questions are answered. Where no answer comes, the run
stalls. -/
def run {State : Type} (answer : (question : Question) → State → Option (Answer question) × State) :
    Program Answer α → State → Outcome α × State
  | done value, state => (.finished value, state)
  | abort overflow, state => (.overflowed overflow, state)
  | ask question next, state =>
    match answer question state with
    | (none, state) => (.stalled, state)
    | (some reply, state) => run answer (next reply) state

/-- What follows the end of a first run. -/
def runNext {State : Type}
    (answer : (question : Question) → State → Option (Answer question) × State)
    (next : α → Program Answer β) : Outcome α × State → Outcome β × State
  | (.finished value, state) => (next value).run answer state
  | (.overflowed overflow, state) => (.overflowed overflow, state)
  | (.stalled, state) => (.stalled, state)

/-- A program in two parts runs the second part on the state that the first one left. -/
theorem run_bind {State : Type}
    (answer : (question : Question) → State → Option (Answer question) × State)
    (program : Program Answer α) (next : α → Program Answer β) (state : State) :
    (program.bind next).run answer state = runNext answer next (program.run answer state) := by
  induction program generalizing state with
  | done value => rfl
  | abort overflow => rfl
  | ask question reply ih =>
    cases h : answer question state with
    | mk found after =>
      cases found with
      | none => simp [bind, run, h, runNext]
      | some given => simp [bind, run, h, ih]

def runIn {Effect : Type → Type} [Monad Effect]
    (answer : (question : Question) → Effect (Answer question)) :
    Program Answer α → Effect (Outcome α)
  | done value => pure (.finished value)
  | abort overflow => pure (.overflowed overflow)
  | ask question next => do runIn answer (next (← answer question))

end Program
end TronGateway
