import TronGateway.Action
import TronGateway.Proofs.Program
set_option autoImplicit false

/-!
# Actions that come to an end

An action gives a value when it ends with it, neither failing nor overflowing nor waiting for an
answer that never comes. A sequence gives a value exactly when each of its parts does, the later
parts from where the earlier ones ended.
-/

namespace TronGateway.Action

variable {State : Type}
  {answer : (question : Question) → State → Option question.Answer × State} {α β : Type}

/-- The action, run from `state`, ends with `value` in `after`. -/
def Gives (answer : (question : Question) → State → Option question.Answer × State)
    (action : Action α) (state : State) (value : α) (after : State) : Prop :=
  action.run.run answer state = (.finished (.ok value), after)

theorem gives_bind {action : Action α} {next : α → Action β} {state after : State} {value : β} :
    Gives answer (action >>= next) state value after ↔
      ∃ first between, Gives answer action state first between ∧
        Gives answer (next first) between value after := by
  unfold Gives
  change ((action.run.bind (ExceptT.bindCont next)).run answer state = _) ↔ _
  rw [Program.run_bind]
  cases ran : action.run.run answer state with
  | mk outcome between =>
      cases outcome with
      | finished result =>
          cases result with
          | error failure =>
              constructor
              · intro failed
                cases failed
              · rintro ⟨first, middle, same, -⟩
                cases same
          | ok first =>
              constructor
              · intro gives
                exact ⟨first, between, rfl, gives⟩
              · rintro ⟨other, middle, same, gives⟩
                cases same
                exact gives
      | overflowed overflow =>
          constructor
          · intro failed
            cases failed
          · rintro ⟨first, middle, same, -⟩
            cases same
      | stalled =>
          constructor
          · intro failed
            cases failed
          · rintro ⟨first, middle, same, -⟩
            cases same

theorem gives_pure {value found : α} {state after : State} :
    Gives answer (pure value) state found after ↔ value = found ∧ state = after := by
  unfold Gives
  change ((Outcome.finished (Except.ok value), state) = _) ↔ _
  constructor
  · intro same
    cases same
    exact ⟨rfl, rfl⟩
  · rintro ⟨rfl, rfl⟩
    rfl

theorem not_gives_throw {failure : Error} {found : α} {state after : State} :
    ¬ Gives answer (throw failure) state found after := by
  intro gives
  cases gives

theorem gives_lift {result : Except Error α} {found : α} {state after : State} :
    Gives answer (liftM result) state found after ↔ result = .ok found ∧ state = after := by
  cases result with
  | error failure =>
      constructor
      · intro gives
        cases gives
      · rintro ⟨same, -⟩
        cases same
  | ok value =>
      constructor
      · intro gives
        cases gives
        exact ⟨rfl, rfl⟩
      · rintro ⟨same, rfl⟩
        cases same
        rfl

theorem gives_check {result : Except Overflow α} {found : α} {state after : State} :
    Gives answer (check result) state found after ↔ result = .ok found ∧ state = after := by
  cases result with
  | error overflow =>
      constructor
      · intro gives
        cases gives
      · rintro ⟨same, -⟩
        cases same
  | ok value =>
      constructor
      · intro gives
        cases gives
        exact ⟨rfl, rfl⟩
      · rintro ⟨same, rfl⟩
        cases same
        rfl

theorem gives_lift_bind {result : Except Error α} {next : α → Action β} {state after : State}
    {found : β} :
    Gives answer ((liftM result : Action α) >>= next) state found after ↔
      ∃ value, result = .ok value ∧ Gives answer (next value) state found after := by
  rw [gives_bind]
  constructor
  · rintro ⟨value, between, gives, later⟩
    obtain ⟨known, rfl⟩ := gives_lift.mp gives
    exact ⟨value, known, later⟩
  · rintro ⟨value, known, later⟩
    exact ⟨value, state, gives_lift.mpr ⟨known, rfl⟩, later⟩

theorem gives_check_bind {result : Except Overflow α} {next : α → Action β} {state after : State}
    {found : β} :
    Gives answer (check result >>= next) state found after ↔
      ∃ value, result = .ok value ∧ Gives answer (next value) state found after := by
  rw [gives_bind]
  constructor
  · rintro ⟨value, between, gives, later⟩
    obtain ⟨known, rfl⟩ := gives_check.mp gives
    exact ⟨value, known, later⟩
  · rintro ⟨value, known, later⟩
    exact ⟨value, state, gives_check.mpr ⟨known, rfl⟩, later⟩

theorem run_ask (question : Question)
    (next : question.Answer → Program Question.Answer β) (state : State) :
    (Program.ask question next).run answer state =
      match (answer question state).1 with
      | none => (.stalled, (answer question state).2)
      | some reply => (next reply).run answer (answer question state).2 := by
  rw [Program.run]
  rcases answer question state with ⟨none | reply, between⟩
  · rfl
  · rfl

theorem gives_memory {found : Memory} {state after : State} :
    Gives answer memory state found after ↔ answer .memory state = (some found, after) := by
  unfold Gives
  change (Program.ask .memory fun reply => .done (Except.ok reply)).run answer state = _ ↔ _
  rw [run_ask]
  rcases answer .memory state with ⟨none | reply, between⟩
  · simp
  · simp [Program.run]

theorem gives_node {call : NodeCall} {found : call.Answer} {state after : State} :
    Gives answer (node call) state found after ↔
      answer (.node call) state = (some (.ok found), after) := by
  unfold Gives
  change (Program.ask (.node call) fun reply => .done reply).run answer state = _ ↔ _
  rw [run_ask]
  rcases answer (.node call) state with ⟨none | reply, between⟩
  · simp
  · simp [Program.run]

theorem gives_bridge {call : BridgeCall} {found : call.Answer} {state after : State} :
    Gives answer (bridge call) state found after ↔
      answer (.bridge call) state = (some (.ok found), after) := by
  unfold Gives
  change (Program.ask (.bridge call) fun reply => .done reply).run answer state = _ ↔ _
  rw [run_ask]
  rcases answer (.bridge call) state with ⟨none | reply, between⟩
  · simp
  · simp [Program.run]

theorem gives_activity {activity : Activity α} {found : α} {state after : State} :
    Gives answer (ExceptT.lift activity) state found after ↔
      activity.Ends answer state found after := by
  change Program.Ends answer (activity.bind fun value => .done (Except.ok value)) state _ after ↔ _
  rw [Program.ends_bind]
  constructor
  · rintro ⟨value, between, ended, done⟩
    obtain ⟨same, rfl⟩ := Program.ends_done.mp done
    cases same
    exact ended
  · intro ended
    exact ⟨found, after, ended, Program.ends_done.mpr ⟨rfl, rfl⟩⟩

/-! ### Actions that end without a value -/

/-- The action, run from `state`, ends in `after` without a value: it fails, overflows or waits for
an answer that never comes. -/
def Fails (answer : (question : Question) → State → Option question.Answer × State)
    (action : Action α) (state after : State) : Prop :=
  (∀ value, (action.run.run answer state).1 ≠ .finished (.ok value)) ∧
    (action.run.run answer state).2 = after

theorem gives_or_fails (answer : (question : Question) → State → Option question.Answer × State)
    (action : Action α) (state : State) :
    (∃ value after, Gives answer action state value after) ∨
      ∃ after, Fails answer action state after := by
  unfold Gives Fails
  rcases action.run.run answer state with ⟨(failure | value) | overflow | _, after⟩
  · exact .inr ⟨after, nofun, rfl⟩
  · exact .inl ⟨value, after, rfl⟩
  · exact .inr ⟨after, nofun, rfl⟩
  · exact .inr ⟨after, nofun, rfl⟩

theorem Gives.unique {action : Action α} {state after last : State} {value found : α}
    (gives : Gives answer action state value after) (also : Gives answer action state found last) :
    value = found ∧ after = last := by
  unfold Gives at gives also
  rw [gives] at also
  cases also
  exact ⟨rfl, rfl⟩

theorem fails_bind {action : Action α} {next : α → Action β} {state after : State} :
    Fails answer (action >>= next) state after ↔
      Fails answer action state after ∨
        ∃ value between, Gives answer action state value between ∧
          Fails answer (next value) between after := by
  unfold Fails Gives
  change (∀ value, ((action.run.bind (ExceptT.bindCont next)).run answer state).1 ≠ _) ∧
    ((action.run.bind (ExceptT.bindCont next)).run answer state).2 = after ↔ _
  rw [Program.run_bind]
  rcases action.run.run answer state with ⟨(failure | value) | overflow | _, between⟩
  · simp [Program.runNext, ExceptT.bindCont, Program.run, pure]
  · constructor
    · intro fails
      exact .inr ⟨value, between, rfl, fails⟩
    · rintro (⟨never, -⟩ | ⟨found, middle, same, fails⟩)
      · exact absurd rfl (never value)
      · cases same
        exact fails
  · simp [Program.runNext]
  · simp [Program.runNext]

theorem run_bind_of_gives {action : Action α} {next : α → Action β} {state between : State}
    {value : α} (gives : Gives answer action state value between) :
    (action >>= next).run.run answer state = (next value).run.run answer between :=
  Program.run_bind_of_ends gives

theorem run_bind_of_error {action : Action α} {next : α → Action β} {state after : State}
    {failure : Error}
    (failed : action.run.run answer state = (.finished (.error failure), after)) :
    (action >>= next).run.run answer state = (.finished (.error failure), after) :=
  Program.run_bind_of_ends failed

theorem run_bind_of_overflows {action : Action α} {next : α → Action β} {state after : State}
    {overflow : Overflow}
    (overflows : action.run.run answer state = (.overflowed overflow, after)) :
    (action >>= next).run.run answer state = (.overflowed overflow, after) :=
  Program.run_bind_of_overflows overflows

theorem overflows_bind {action : Action α} {next : α → Action β} {state after : State}
    {overflow : Overflow} :
    (action >>= next).run.run answer state = (.overflowed overflow, after) ↔
      action.run.run answer state = (.overflowed overflow, after) ∨
        ∃ value between, Gives answer action state value between ∧
          (next value).run.run answer between = (.overflowed overflow, after) := by
  change (action.run.bind (ExceptT.bindCont next)).run answer state = _ ↔ _
  rw [Program.overflows_bind]
  refine or_congr_right ⟨?_, ?_⟩
  · rintro ⟨result, between, ended, ran⟩
    cases result with
    | error failure => cases ran
    | ok value => exact ⟨value, between, ended, ran⟩
  · rintro ⟨value, between, gives, ran⟩
    exact ⟨.ok value, between, gives, ran⟩

theorem overflows_check {result : Except Overflow α} {state after : State} {overflow : Overflow} :
    (check result).run.run answer state = (.overflowed overflow, after) ↔
      result = .error overflow ∧ state = after := by
  cases result with
  | error found =>
      constructor
      · intro ran
        cases ran
        exact ⟨rfl, rfl⟩
      · rintro ⟨same, rfl⟩
        cases same
        rfl
  | ok value =>
      constructor
      · intro ran
        cases ran
      · rintro ⟨same, -⟩
        cases same

theorem overflows_activity {activity : Activity α} {state after : State} {overflow : Overflow} :
    (ExceptT.lift activity : Action α).run.run answer state = (.overflowed overflow, after) ↔
      activity.run answer state = (.overflowed overflow, after) := by
  change (activity.bind fun value => .done (Except.ok value)).run answer state = _ ↔ _
  rw [Program.overflows_bind, or_iff_left]
  rintro ⟨value, between, -, ran⟩
  cases ran

/-- From wherever it is run, the action gives a value or fails with an error. -/
def Concludes (answer : (question : Question) → State → Option question.Answer × State)
    (action : Action α) : Prop :=
  ∀ state, ∃ result after, action.attempt.Ends answer state result after

theorem concludes_pure (value : α) : Concludes answer (pure value : Action α) :=
  fun state => ⟨.ok value, state, rfl⟩

theorem concludes_throw (failure : Error) : Concludes answer (throw failure : Action α) :=
  fun state => ⟨.error failure, state, rfl⟩

theorem concludes_lift (result : Except Error α) :
    Concludes answer (liftM result : Action α) := by
  intro state
  cases result with
  | error failure => exact ⟨.error failure, state, rfl⟩
  | ok value => exact ⟨.ok value, state, rfl⟩

theorem concludes_node {call : NodeCall}
    (answered : ∀ state, ∃ reply after, answer (.node call) state = (some reply, after)) :
    Concludes answer (node call) := by
  intro state
  obtain ⟨reply, after, replied⟩ := answered state
  exact ⟨reply, after, Program.ends_query.mpr replied⟩

theorem concludes_bridge {call : BridgeCall}
    (answered : ∀ state, ∃ reply after, answer (.bridge call) state = (some reply, after)) :
    Concludes answer (bridge call) := by
  intro state
  obtain ⟨reply, after, replied⟩ := answered state
  exact ⟨reply, after, Program.ends_query.mpr replied⟩

theorem concludes_query {question : Question}
    (answered : ∀ state, ∃ reply after, answer question state = (some reply, after)) :
    Concludes answer (ExceptT.lift (Activity.query question)) := by
  intro state
  obtain ⟨reply, after, replied⟩ := answered state
  exact ⟨.ok reply, after, gives_activity.mpr (Program.ends_query.mpr replied)⟩

theorem concludes_bind {action : Action α} {next : α → Action β}
    (first : Concludes answer action) (behind : ∀ value, Concludes answer (next value)) :
    Concludes answer (action >>= next) := by
  intro state
  obtain ⟨result, between, ended⟩ := first state
  cases result with
  | error failure =>
      exact ⟨.error failure, between, Program.ends_bind.mpr ⟨.error failure, between, ended, rfl⟩⟩
  | ok value =>
      obtain ⟨found, after, rest⟩ := behind value between
      exact ⟨found, after, Program.ends_bind.mpr ⟨.ok value, between, ended, rest⟩⟩

theorem Concludes.not_overflows {action : Action α} (concludes : Concludes answer action)
    {state after : State} {overflow : Overflow} :
    action.run.run answer state ≠ (.overflowed overflow, after) := by
  intro ran
  obtain ⟨result, last, ended⟩ := concludes state
  unfold Program.Ends attempt at ended
  rw [ended] at ran
  cases ran

/-- Behind a part that concludes, only the rest can overflow. -/
theorem Concludes.overflows_bind {action : Action α} (concludes : Concludes answer action)
    {next : α → Action β} {state after : State} {overflow : Overflow} :
    (action >>= next).run.run answer state = (.overflowed overflow, after) ↔
      ∃ value between, Gives answer action state value between ∧
        (next value).run.run answer between = (.overflowed overflow, after) := by
  rw [Action.overflows_bind, or_iff_right concludes.not_overflows]

/-! ### What actions ask -/

theorem mem_asked_bind {action : Action α} {next : α → Action β} {state : State}
    {question : Question} :
    question ∈ (action >>= next).run.asked answer state ↔
      question ∈ action.run.asked answer state ∨
        ∃ value between, Gives answer action state value between ∧
          question ∈ (next value).run.asked answer between := by
  change question ∈ (action.run.bind (ExceptT.bindCont next)).asked answer state ↔ _
  rw [Program.mem_asked_bind]
  refine or_congr_right ⟨?_, ?_⟩
  · rintro ⟨result, between, ended, later⟩
    cases result with
    | error failure => cases later
    | ok value => exact ⟨value, between, ended, later⟩
  · rintro ⟨value, between, gives, later⟩
    exact ⟨.ok value, between, gives, later⟩

theorem mem_asked_activity {activity : Activity α} {state : State} {question : Question} :
    question ∈ (ExceptT.lift activity : Action α).run.asked answer state ↔
      question ∈ activity.asked answer state := by
  change question ∈ (activity.bind fun value => .done (Except.ok value)).asked answer state ↔ _
  rw [Program.mem_asked_bind, or_iff_left]
  rintro ⟨value, between, -, later⟩
  cases later

theorem mem_asked_lift_bind {result : Except Error α} {next : α → Action β} {state : State}
    {question : Question} :
    question ∈ ((liftM result : Action α) >>= next).run.asked answer state ↔
      ∃ value, result = .ok value ∧ question ∈ (next value).run.asked answer state := by
  have silent : (liftM result : Action α).run.asked answer state = [] := by
    cases result with
    | error failure => rfl
    | ok value => rfl
  rw [mem_asked_bind, silent, or_iff_right List.not_mem_nil]
  constructor
  · rintro ⟨value, between, gives, asked⟩
    obtain ⟨known, rfl⟩ := gives_lift.mp gives
    exact ⟨value, known, asked⟩
  · rintro ⟨value, known, asked⟩
    exact ⟨value, state, gives_lift.mpr ⟨known, rfl⟩, asked⟩

theorem mem_asked_check_bind {result : Except Overflow α} {next : α → Action β} {state : State}
    {question : Question} :
    question ∈ (check result >>= next).run.asked answer state ↔
      ∃ value, result = .ok value ∧ question ∈ (next value).run.asked answer state := by
  have silent : (check result).run.asked answer state = [] := by
    cases result with
    | error overflow => rfl
    | ok value => rfl
  rw [mem_asked_bind, silent, or_iff_right List.not_mem_nil]
  constructor
  · rintro ⟨value, between, gives, asked⟩
    obtain ⟨known, rfl⟩ := gives_check.mp gives
    exact ⟨value, known, asked⟩
  · rintro ⟨value, known, asked⟩
    exact ⟨value, state, gives_check.mpr ⟨known, rfl⟩, asked⟩

theorem asked_node (call : NodeCall) (state : State) :
    (node call).run.asked answer state = [Question.node call] :=
  Program.asked_query (Question.node call) state

variable {allowed : Question → Prop}

theorem asks_bind {action : Action α} {next : α → Action β} (asks : action.run.Asks allowed)
    (behind : ∀ value, (next value).run.Asks allowed) : (action >>= next).run.Asks allowed := by
  change (action.run.bind (ExceptT.bindCont next)).Asks allowed
  refine asks.bind fun result => ?_
  cases result with
  | error failure => exact .done _
  | ok value => exact behind value

theorem asks_pure (value : α) : (pure value : Action α).run.Asks allowed := .done _

theorem asks_throw (failure : Error) : (throw failure : Action α).run.Asks allowed := .done _

theorem asks_lift (result : Except Error α) : (liftM result : Action α).run.Asks allowed := by
  cases result with
  | error failure => exact .done _
  | ok value => exact .done _

theorem asks_check (result : Except Overflow α) : (check result).run.Asks allowed := by
  cases result with
  | error overflow => exact .abort _
  | ok value => exact .done _

theorem asks_activity {activity : Activity α} (asks : activity.Asks allowed) :
    (ExceptT.lift activity : Action α).run.Asks allowed :=
  asks.bind fun _ => .done _

theorem asks_memory (permitted : allowed .memory) : memory.run.Asks allowed :=
  .ask _ _ permitted fun _ => .done _

theorem asks_node {call : NodeCall} (permitted : allowed (.node call)) :
    (node call).run.Asks allowed := .ask _ _ permitted fun _ => .done _

theorem asks_bridge {call : BridgeCall} (permitted : allowed (.bridge call)) :
    (bridge call).run.Asks allowed := .ask _ _ permitted fun _ => .done _

end TronGateway.Action
