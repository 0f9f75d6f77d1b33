import TronGateway.Runner
set_option autoImplicit false

/-!
# What a run leaves behind

A run is observed through the questions that it asks: each of them leaves an event with its answer,
or without one where the run waits forever. What a program can leave behind does not depend on who
answers.
-/

namespace TronGateway

namespace Program

variable {Question : Type} {Answer : Question → Type} {Event α β World : Type}
  {see : (question : Question) → Option (Answer question) → Option Event}

/-- Answers a question and notes the event. -/
def noting (see : (question : Question) → Option (Answer question) → Option Event)
    (answer : (question : Question) → World → Option (Answer question) × World)
    (question : Question) (state : World × List Event) :
    Option (Answer question) × (World × List Event) :=
  ((answer question state.1).1, (answer question state.1).2,
    state.2 ++ (see question (answer question state.1).1).toList)

/-- The events and the outcome that a program can have. -/
inductive Leaves (see : (question : Question) → Option (Answer question) → Option Event) :
    Program Answer α → List Event → Outcome α → Prop where
  | done (value : α) : Leaves see (.done value) [] (.finished value)
  | abort (overflow : Overflow) : Leaves see (.abort overflow) [] (.overflowed overflow)
  | stall (question : Question) (next : Answer question → Program Answer α) :
    Leaves see (.ask question next) (see question none).toList .stalled
  | ask (question : Question) (next : Answer question → Program Answer α)
    (reply : Answer question) {events : List Event} {outcome : Outcome α}
    (rest : Leaves see (next reply) events outcome) :
    Leaves see (.ask question next) ((see question (some reply)).toList ++ events) outcome

/-- A noted run goes as the run does, and adds events that the program can leave, whoever
answers. -/
theorem run_noting
    (answer : (question : Question) → World → Option (Answer question) × World)
    (program : Program Answer α) (state : World × List Event) :
    ∃ events, Leaves see program events (program.run answer state.1).1 ∧
      program.run (noting see answer) state =
        ((program.run answer state.1).1, (program.run answer state.1).2, state.2 ++ events) := by
  induction program generalizing state with
  | done value => exact ⟨_, .done value, by rw [run, run, List.append_nil]⟩
  | abort overflow => exact ⟨_, .abort overflow, by rw [run, run, List.append_nil]⟩
  | ask question next ih =>
      rw [run, run]
      cases answered : answer question state.1 with
      | mk found after =>
          cases found with
          | none =>
              refine ⟨_, .stall question next, ?_⟩
              simp only [noting, answered]
          | some reply =>
              obtain ⟨events, leaves, ran⟩ := ih reply (noting see answer question state).2
              simp only [noting, answered] at leaves ran ⊢
              refine ⟨_, .ask question next reply leaves, ?_⟩
              rw [ran, List.append_assoc]

theorem leaves_done {value : α} {events : List Event} {outcome : Outcome α} :
    Leaves see (.done value) events outcome ↔ events = [] ∧ outcome = .finished value := by
  constructor
  · intro leaves
    cases leaves
    exact ⟨rfl, rfl⟩
  · rintro ⟨rfl, rfl⟩
    exact .done value

theorem leaves_abort {overflow : Overflow} {events : List Event} {outcome : Outcome α} :
    Leaves see (.abort overflow) events outcome ↔
      events = [] ∧ outcome = .overflowed overflow := by
  constructor
  · intro leaves
    cases leaves
    exact ⟨rfl, rfl⟩
  · rintro ⟨rfl, rfl⟩
    exact .abort overflow

theorem leaves_ask {question : Question} {next : Answer question → Program Answer α}
    {events : List Event} {outcome : Outcome α} :
    Leaves see (.ask question next) events outcome ↔
      events = (see question none).toList ∧ outcome = .stalled ∨
      ∃ reply rest, events = (see question (some reply)).toList ++ rest ∧
        Leaves see (next reply) rest outcome := by
  constructor
  · intro leaves
    cases leaves with
    | stall => exact Or.inl ⟨rfl, rfl⟩
    | ask _ _ reply rest => exact Or.inr ⟨reply, _, rfl, rest⟩
  · rintro (⟨rfl, rfl⟩ | ⟨reply, rest, rfl, leaves⟩)
    · exact .stall question next
    · exact .ask question next reply leaves

end Program

namespace Runner

inductive Event where
  | got (key : String) (reply : Option (Except Error (Option String)))
  | put (key text : String) (reply : Option (Except Error Unit))
  | measured (reply : Option (Except Error Int64))
  | fetched (height : Int64) (reply : Option (Except Error BlockReport))
  | delivered (report : BlockReport) (reply : Option (Except Error Unit))

/-- The event of a question; waits, stops and the state of health leave none. -/
def see : (question : Question) → Option question.Answer → Option Event
  | .store (.get key), reply => some (.got key reply)
  | .store (.put key text), reply => some (.put key text reply)
  | .height, reply => some (.measured reply)
  | .fetch height, reply => some (.fetched height reply)
  | .deliver report, reply => some (.delivered report reply)
  | _, _ => none

variable {World : Type}

/-- A run from the start, with what it leaves behind. -/
def observe (answer : (question : Question) → World → Option question.Answer × World)
    (settings : Settings) (fuel : Nat) (world : World) : Outcome State × (World × List Event) :=
  run (Program.noting see answer) settings fuel (world, [])

end Runner
end TronGateway
