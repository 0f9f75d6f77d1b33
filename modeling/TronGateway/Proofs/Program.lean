import TronGateway.Program
set_option autoImplicit false

/-!
# What a run asks and where it ends

The questions of a run, in order, and what is answered. A program in two parts asks those of its
first part and then those of its second one, from the state that the first part left. Some programs
ask only questions of certain kinds, so that what these keep holds wherever the run is.
-/

namespace TronGateway

theorem ok_bind {Failure α β : Type} (value : α) (next : α → Except Failure β) :
    (Except.ok value >>= next) = next value := rfl

theorem bind_eq_ok_iff {Failure α β : Type} {first : Except Failure α}
    {next : α → Except Failure β} {value : β} :
    (first >>= next) = .ok value ↔ ∃ between, first = .ok between ∧ next between = .ok value := by
  cases first with
  | error failure =>
      constructor
      · intro failed
        cases failed
      · rintro ⟨between, failed, -⟩
        cases failed
  | ok found =>
      constructor
      · intro done
        exact ⟨found, rfl, done⟩
      · rintro ⟨between, same, done⟩
        cases same
        exact done

theorem map_eq_ok_iff {Failure α β : Type} {first : Except Failure α} {f : α → β} {value : β} :
    first.map f = .ok value ↔ ∃ between, first = .ok between ∧ f between = value := by
  cases first with
  | error failure =>
      constructor
      · intro failed
        cases failed
      · rintro ⟨between, failed, -⟩
        cases failed
  | ok found =>
      constructor
      · intro done
        cases done
        exact ⟨found, rfl, rfl⟩
      · rintro ⟨between, same, rfl⟩
        cases same
        rfl

theorem eq_ok_of_toOption {Failure α : Type} {result : Except Failure α} {value : α}
    (found : result.toOption = some value) : result = .ok value := by
  cases result with
  | error failure => cases found
  | ok other =>
      cases found
      rfl

namespace Program

variable {Question : Type} {Answer : Question → Type} {α β State : Type}

/-- The questions that a run asks, the one included at which it stalls. -/
def asked (answer : (question : Question) → State → Option (Answer question) × State) :
    Program Answer α → State → List Question
  | done _, _ => []
  | abort _, _ => []
  | ask question next, state =>
    question ::
      match answer question state with
      | (none, _) => []
      | (some reply, after) => asked answer (next reply) after

structure Exchange (Answer : Question → Type) where
  question : Question
  reply : Option (Answer question)

/-- The questions of a run with their answers. -/
def exchanges (answer : (question : Question) → State → Option (Answer question) × State) :
    Program Answer α → State → List (Exchange Answer)
  | done _, _ => []
  | abort _, _ => []
  | ask question next, state =>
    ⟨question, (answer question state).1⟩ ::
      match answer question state with
      | (none, _) => []
      | (some reply, after) => exchanges answer (next reply) after

/-- The program, run from `state`, ends with `value` in `after`. -/
def Ends (answer : (question : Question) → State → Option (Answer question) × State)
    (program : Program Answer α) (state : State) (value : α) (after : State) : Prop :=
  program.run answer state = (.finished value, after)

variable {answer : (question : Question) → State → Option (Answer question) × State}
  {allowed : Question → Prop}

def askedNext (answer : (question : Question) → State → Option (Answer question) × State)
    (next : α → Program Answer β) : Outcome α × State → List Question
  | (.finished value, state) => (next value).asked answer state
  | _ => []

theorem asked_bind (program : Program Answer α) (next : α → Program Answer β) (state : State) :
    (program.bind next).asked answer state =
      program.asked answer state ++ askedNext answer next (program.run answer state) := by
  induction program generalizing state with
  | done value => rfl
  | abort overflow => rfl
  | ask question reply ih =>
      rw [bind, asked, asked, run]
      rcases answered : answer question state with ⟨none | given, after⟩
      · rfl
      · dsimp only
        rw [ih given after, List.cons_append]

theorem map_question_exchanges (program : Program Answer α) (state : State) :
    (program.exchanges answer state).map Exchange.question = program.asked answer state := by
  induction program generalizing state with
  | done value => rfl
  | abort overflow => rfl
  | ask question next ih =>
      rw [exchanges, asked, List.map_cons]
      rcases answer question state with ⟨none | reply, after⟩
      · rfl
      · exact congrArg _ (ih reply after)

def exchangesNext (answer : (question : Question) → State → Option (Answer question) × State)
    (next : α → Program Answer β) : Outcome α × State → List (Exchange Answer)
  | (.finished value, state) => (next value).exchanges answer state
  | _ => []

theorem exchanges_bind (program : Program Answer α) (next : α → Program Answer β)
    (state : State) :
    (program.bind next).exchanges answer state =
      program.exchanges answer state ++ exchangesNext answer next (program.run answer state) := by
  induction program generalizing state with
  | done value => rfl
  | abort overflow => rfl
  | ask question reply ih =>
      rw [bind, exchanges, exchanges, run]
      rcases answered : answer question state with ⟨none | given, after⟩
      · rfl
      · dsimp only
        rw [ih given after, List.cons_append]

theorem asked_query (question : Question) (state : State) :
    (query question : Program Answer _).asked answer state = [question] := by
  rw [query, asked]
  rcases answer question state with ⟨none | reply, after⟩
  · rfl
  · rfl

theorem mem_asked_bind {program : Program Answer α} {next : α → Program Answer β} {state : State}
    {question : Question} :
    question ∈ (program.bind next).asked answer state ↔
      question ∈ program.asked answer state ∨
        ∃ value between, program.Ends answer state value between ∧
          question ∈ (next value).asked answer between := by
  rw [asked_bind, List.mem_append]
  refine or_congr_right ?_
  unfold Ends
  rcases program.run answer state with ⟨value | overflow | _, between⟩
  · constructor
    · intro later
      exact ⟨value, between, rfl, later⟩
    · rintro ⟨_, _, same, later⟩
      cases same
      exact later
  · simp [askedNext]
  · simp [askedNext]

theorem mem_asked_ask {first question : Question} {next : Answer first → Program Answer α}
    {state : State} :
    question ∈ (ask first next).asked answer state ↔
      question = first ∨ ∃ reply after, answer first state = (some reply, after) ∧
        question ∈ (next reply).asked answer after := by
  rw [asked, List.mem_cons]
  refine or_congr_right ?_
  rcases answer first state with ⟨_ | reply, after⟩
  · constructor
    · intro later
      cases later
    · intro ⟨_, _, same, _⟩
      cases same
  · constructor
    · intro later
      exact ⟨reply, after, rfl, later⟩
    · intro ⟨_, _, same, later⟩
      cases same
      exact later

theorem ends_done {value found : α} {state after : State} :
    (done value : Program Answer α).Ends answer state found after ↔
      value = found ∧ state = after := by
  simp [Ends, run]

theorem ends_check {result : Except Overflow α} {found : α} {state after : State} :
    (check result : Program Answer α).Ends answer state found after ↔
      result = .ok found ∧ state = after := by
  cases result with
  | error overflow => simp [Ends, check, run]
  | ok value => simp [Ends, check, run]

theorem ends_query {question : Question} {reply : Answer question} {state after : State} :
    (query question : Program Answer _).Ends answer state reply after ↔
      answer question state = (some reply, after) := by
  unfold Ends query
  rw [run]
  rcases answer question state with ⟨_ | given, between⟩
  · simp
  · simp [run]

theorem ends_bind {program : Program Answer α} {next : α → Program Answer β}
    {state after : State} {value : β} :
    (program.bind next).Ends answer state value after ↔
      ∃ first between, program.Ends answer state first between ∧
        (next first).Ends answer between value after := by
  unfold Ends
  rw [run_bind]
  rcases program.run answer state with ⟨first | overflow | _, between⟩
  · constructor
    · intro ended
      exact ⟨first, between, rfl, ended⟩
    · rintro ⟨_, _, same, ended⟩
      cases same
      exact ended
  · simp [runNext]
  · simp [runNext]

theorem run_bind_of_ends {program : Program Answer α} {next : α → Program Answer β}
    {state between : State} {value : α} (ends : program.Ends answer state value between) :
    (program.bind next).run answer state = (next value).run answer between := by
  rw [run_bind, show program.run answer state = _ from ends]
  rfl

theorem run_bind_of_overflows {program : Program Answer α} {next : α → Program Answer β}
    {state after : State} {overflow : Overflow}
    (overflows : program.run answer state = (.overflowed overflow, after)) :
    (program.bind next).run answer state = (.overflowed overflow, after) := by
  rw [run_bind, overflows]
  rfl

/-- A program in two parts overflows where its first part does, or else its second one. -/
theorem overflows_bind {program : Program Answer α} {next : α → Program Answer β}
    {state after : State} {overflow : Overflow} :
    (program.bind next).run answer state = (.overflowed overflow, after) ↔
      program.run answer state = (.overflowed overflow, after) ∨
        ∃ value between, program.Ends answer state value between ∧
          (next value).run answer between = (.overflowed overflow, after) := by
  constructor
  · intro ran
    rw [run_bind] at ran
    rcases first : program.run answer state with ⟨value | found | _, between⟩
    · rw [first] at ran
      exact .inr ⟨value, between, first, ran⟩
    · rw [first] at ran
      cases ran
      exact .inl rfl
    · rw [first] at ran
      cases ran
  · rintro (ran | ⟨value, between, ended, ran⟩)
    · exact run_bind_of_overflows ran
    · rw [run_bind_of_ends ended]
      exact ran

theorem overflows_check {result : Except Overflow α} {state after : State} {overflow : Overflow} :
    (check result : Program Answer α).run answer state = (.overflowed overflow, after) ↔
      result = .error overflow ∧ state = after := by
  cases result with
  | error found => simp [check, run]
  | ok value => simp [check, run]

theorem ends_or_overflows
    (answered : ∀ question state, ∃ reply after, answer question state = (some reply, after))
    (program : Program Answer α) (state : State) :
    (∃ value after, program.Ends answer state value after) ∨
      ∃ overflow after, program.run answer state = (.overflowed overflow, after) := by
  induction program generalizing state with
  | done value => exact .inl ⟨value, state, rfl⟩
  | abort overflow => exact .inr ⟨overflow, state, rfl⟩
  | ask question next ih =>
      obtain ⟨reply, after, replied⟩ := answered question state
      unfold Ends
      rw [run, replied]
      exact ih reply after

/-! ### Programs that ask some questions only -/

/-- All questions that the program can come to are allowed. -/
inductive Asks (allowed : Question → Prop) : Program Answer α → Prop where
  | done (value : α) : Asks allowed (.done value)
  | abort (overflow : Overflow) : Asks allowed (.abort overflow)
  | ask (question : Question) (next : Answer question → Program Answer α)
    (permitted : allowed question) (rest : ∀ reply, Asks allowed (next reply)) :
    Asks allowed (.ask question next)

theorem Asks.check (computed : Except Overflow α) :
    Asks allowed (check computed : Program Answer α) := by
  cases computed with
  | ok value => exact .done value
  | error overflow => exact .abort overflow

theorem Asks.bind {program : Program Answer α} {next : α → Program Answer β}
    (asks : program.Asks allowed) (behind : ∀ value, (next value).Asks allowed) :
    (program.bind next).Asks allowed := by
  induction asks with
  | done value => exact behind value
  | abort overflow => exact .abort overflow
  | ask question _ permitted _ ih => exact .ask question _ permitted ih

theorem Asks.of_ask {question : Question} {next : Answer question → Program Answer α}
    (asks : (Program.ask question next).Asks allowed) :
    allowed question ∧ ∀ reply, (next reply).Asks allowed := by
  cases asks with
  | ask _ _ permitted rest => exact ⟨permitted, rest⟩

theorem Asks.mono {permitted : Question → Prop} {program : Program Answer α}
    (asks : program.Asks allowed) (more : ∀ question, allowed question → permitted question) :
    program.Asks permitted := by
  induction asks with
  | done value => exact .done value
  | abort overflow => exact .abort overflow
  | ask question next held _ ih => exact .ask question next (more question held) ih

/-- What every allowed question keeps holds after the run. -/
theorem Asks.keeps {answer : (question : Question) → State → Option (Answer question) × State}
    {invariant : State → Prop}
    (kept : ∀ question state, allowed question → invariant state →
      invariant (answer question state).2)
    {program : Program Answer α} (asks : program.Asks allowed) {state : State}
    (held : invariant state) : invariant (program.run answer state).2 := by
  induction asks generalizing state with
  | done value => exact held
  | abort overflow => exact held
  | ask question next permitted rest ih =>
      have after := kept question state permitted held
      rw [run]
      cases answered : answer question state with
      | mk found between =>
          rw [answered] at after
          cases found with
          | none => exact after
          | some reply => exact ih reply after

theorem Asks.asked {program : Program Answer α} (asks : program.Asks allowed) {state : State}
    {question : Question} (asked : question ∈ program.asked answer state) : allowed question := by
  induction asks generalizing state with
  | done value => cases asked
  | abort overflow => cases asked
  | ask first next permitted rest ih =>
      rw [Program.asked] at asked
      rcases List.mem_cons.mp asked with rfl | later
      · exact permitted
      · rcases answered : answer first state with ⟨_ | reply, after⟩
        · rw [answered] at later
          cases later
        · rw [answered] at later
          exact ih reply later

theorem Asks.exchanged {program : Program Answer α} (asks : program.Asks allowed) {state : State}
    {event : Exchange Answer} (member : event ∈ program.exchanges answer state) :
    allowed event.question := by
  have asked : event.question ∈ program.asked answer state := by
    rw [← map_question_exchanges]
    exact List.mem_map_of_mem member
  exact asks.asked asked

/-- Two runs that are given the same answers end alike. -/
theorem Asks.outcome_eq {Other : Type}
    {answer : (question : Question) → State → Option (Answer question) × State}
    {other : (question : Question) → Other → Option (Answer question) × Other}
    (same : ∀ question state place, allowed question →
      (answer question state).1 = (other question place).1)
    {program : Program Answer α} (asks : program.Asks allowed) (state : State) (place : Other) :
    (program.run answer state).1 = (program.run other place).1 := by
  induction asks generalizing state place with
  | done value => rfl
  | abort overflow => rfl
  | ask question next permitted rest ih =>
      have replies := same question state place permitted
      rw [run, run]
      rcases answered : answer question state with ⟨found, after⟩
      rcases matched : other question place with ⟨given, between⟩
      rw [answered, matched] at replies
      cases (replies : found = given)
      cases found with
      | none => rfl
      | some reply => exact ih reply after between

/-- What a run does not see of its state has no part in it. -/
theorem run_project {Other : Type} {project : State → Other}
    {answer : (question : Question) → State → Option (Answer question) × State}
    {other : (question : Question) → Other → Option (Answer question) × Other}
    (same : ∀ question state, other question (project state) =
      ((answer question state).1, project (answer question state).2))
    (program : Program Answer α) (state : State) :
    program.run other (project state) =
      ((program.run answer state).1, project (program.run answer state).2) := by
  induction program generalizing state with
  | done value => rfl
  | abort overflow => rfl
  | ask question next ih =>
      rw [run, run, same question state]
      rcases answer question state with ⟨_ | reply, after⟩
      · rfl
      · exact ih reply after

/-! ### Relays -/

section Relay

variable {Other : Type} {OtherAnswer : Other → Type}
  {interpret : (question : Question) → Program OtherAnswer (Answer question)}
  {given : (question : Other) → State → Option (OtherAnswer question) × State}

/-- Answers a question by a program. One that does not come to its end gives no answer. -/
def served (interpret : (question : Question) → Program OtherAnswer (Answer question))
    (given : (question : Other) → State → Option (OtherAnswer question) × State)
    (question : Question) (state : State) : Option (Answer question) × State :=
  match (interpret question).run given state with
  | (.finished reply, after) => (some reply, after)
  | (_, after) => (none, after)

theorem served_snd (question : Question) (state : State) :
    (served interpret given question state).2 = ((interpret question).run given state).2 := by
  rw [served]
  rcases (interpret question).run given state with ⟨reply | overflow | _, after⟩
  · rfl
  · rfl
  · rfl

variable (interpret given) in
theorem run_relay (program : Program Answer α) (state : State) :
    ((program.relay interpret).run given state).2 =
        (program.run (served interpret given) state).2 ∧
      ∀ value, ((program.relay interpret).run given state).1 = .finished value ↔
        (program.run (served interpret given) state).1 = .finished value := by
  induction program generalizing state with
  | done value => exact ⟨rfl, fun _ => Iff.rfl⟩
  | abort overflow => exact ⟨rfl, fun _ => Iff.rfl⟩
  | ask question next ih =>
      rw [relay, run_bind, run, served]
      rcases (interpret question).run given state with ⟨reply | overflow | _, after⟩
      · exact ih reply after
      · refine ⟨rfl, fun value => ⟨fun finished => ?_, fun finished => ?_⟩⟩ <;> cases finished
      · exact ⟨rfl, fun _ => Iff.rfl⟩

theorem Asks.relay {permitted : Other → Prop} {program : Program Answer α}
    (asks : program.Asks allowed)
    (interpreted : ∀ question, allowed question → (interpret question).Asks permitted) :
    (program.relay interpret).Asks permitted := by
  induction asks with
  | done value => exact .done value
  | abort overflow => exact .abort overflow
  | ask question next held _ ih => exact (interpreted question held).bind ih

end Relay

end Program
end TronGateway
