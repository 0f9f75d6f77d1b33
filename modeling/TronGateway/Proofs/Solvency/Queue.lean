import TronGateway.Rehearsal.Queue
import TronGateway.Proofs.Solvency
import TronGateway.Proofs.World
set_option autoImplicit false

/-!
# Statements on their way into a queue

A statement is offered once. While nobody takes anything out, the queue takes the statements until
its capacity is reached and none after that, so that it is the first ones that arrive.
-/

namespace TronGateway

open Rehearsal (Queue)

namespace Rehearsal.Queue

variable {α : Type}

/-- The queue behind an item that was offered to it; one that is not taken is lost. -/
def behind (queue : Queue α) (item : α) : Queue α :=
  match queue.push item with
  | .taken after => after
  | _ => queue

def offer (queue : Queue α) (item : α) : Offer :=
  match queue.push item with
  | .taken _ => .taken
  | .closed => .closed
  | .full => .timedOut

/-- The queue behind items that were offered to it in order. -/
def fill (queue : Queue α) (items : List α) : Queue α :=
  items.foldl behind queue

theorem behind_of_closed {queue : Queue α} (closed : queue.isOpen = false) (item : α) :
    queue.behind item = queue := by
  unfold behind push
  rw [closed]
  rfl

theorem behind_of_full {queue : Queue α} (full : ¬ queue.items.length < queue.capacity)
    (item : α) : queue.behind item = queue := by
  unfold behind push
  rw [if_neg full]
  cases queue.isOpen with
  | true => rfl
  | false => rfl

theorem behind_of_room {queue : Queue α} (isOpen : queue.isOpen = true)
    (room : queue.items.length < queue.capacity) (item : α) :
    queue.behind item = { queue with items := queue.items ++ [item] } := by
  unfold behind push
  rw [isOpen, if_pos room]
  rfl

theorem fill_of_closed {queue : Queue α} (closed : queue.isOpen = false) (items : List α) :
    queue.fill items = queue := by
  induction items with
  | nil => rfl
  | cons item rest ih =>
      change (queue.behind item).fill rest = queue
      rw [behind_of_closed closed]
      exact ih

theorem fill_of_full {queue : Queue α} (full : ¬ queue.items.length < queue.capacity)
    (items : List α) : queue.fill items = queue := by
  induction items with
  | nil => rfl
  | cons item rest ih =>
      change (queue.behind item).fill rest = queue
      rw [behind_of_full full]
      exact ih

/-- The first of the items arrive, as many as there is room for. -/
theorem fill_of_open {queue : Queue α} (isOpen : queue.isOpen = true) (items : List α) :
    queue.fill items =
      { queue with
        items := queue.items ++ items.take (queue.capacity - queue.items.length) } := by
  induction items generalizing queue with
  | nil => rw [List.take_nil, List.append_nil]; rfl
  | cons item rest ih =>
      by_cases room : queue.items.length < queue.capacity
      · change (queue.behind item).fill rest = _
        have filled := @ih { queue with items := queue.items ++ [item] } isOpen
        rw [behind_of_room isOpen room, filled]
        -- The item is the first to arrive, and the others have one place less.
        have left : queue.capacity - queue.items.length =
            queue.capacity - (queue.items.length + 1) + 1 := by omega
        simp only [List.length_append, List.length_singleton, left, List.take_succ_cons,
          List.append_assoc, List.singleton_append]
      · have none : queue.capacity - queue.items.length = 0 := by omega
        rw [fill_of_full room, none, List.take_zero, List.append_nil]

end Rehearsal.Queue

def Question.offer? : Question → Option Solvency
  | .offerSolvency report => some report
  | _ => none

variable {Rest State α β : Type}

/-- The statements that a run offers, in order. -/
def offers (answer : (question : Question) → State → Option question.Answer × State)
    (activity : Activity α) (state : State) : List Solvency :=
  (activity.asked answer state).filterMap Question.offer?

section Offers

variable {answer : (question : Question) → State → Option question.Answer × State}
  {allowed : Question → Prop}

theorem offers_of_asks {activity : Activity α} (asks : activity.Asks allowed)
    (silent : ∀ question, allowed question → question.offer? = none) (state : State) :
    offers answer activity state = [] :=
  List.filterMap_eq_nil_iff.mpr fun _ asked => silent _ (asks.asked asked)

theorem offers_bind_of_ends {activity : Activity α} {next : α → Activity β} {state between : State}
    {value : α} (ends : activity.Ends answer state value between) :
    offers answer (activity.bind next) state =
      offers answer activity state ++ offers answer (next value) between := by
  unfold offers
  rw [Program.asked_bind, show activity.run answer state = _ from ends, List.filterMap_append]
  rfl

theorem offers_behind {action : Action α} {next : α → Action β} {state between : State}
    {value : α} (gives : Action.Gives answer action state value between)
    (quiet : offers answer action.run state = []) :
    offers answer (action >>= next).run state = offers answer (next value).run between := by
  refine (offers_bind_of_ends gives).trans ?_
  rw [quiet, List.nil_append]
  rfl

end Offers

/-- Offers go into a queue that nobody drains; how everything else answers is left open. -/
def onQueue (others : (question : Question) → Rest → Option question.Answer × Rest) :
    (question : Question) → Rest × Queue Solvency → Option question.Answer × (Rest × Queue Solvency)
  | .offerSolvency report, (rest, queue) =>
    (some (queue.offer report), ((others (.offerSolvency report) rest).2, queue.behind report))
  | question, (rest, queue) => ((others question rest).1, ((others question rest).2, queue))

variable (others : (question : Question) → Rest → Option question.Answer × Rest)

abbrev World.queue (world : World (Rest × Queue Solvency)) : Queue Solvency := world.rest.2

theorem World.answer_offer (world : World (Rest × Queue Solvency)) (report : Solvency) :
    ∃ reply after, World.answer (onQueue others) (.offerSolvency report) world =
        (some reply, after) ∧ after.memory = world.memory ∧
      after.queue = world.queue.behind report := by
  have offered : onQueue others (.offerSolvency report) world.rest =
      (some (world.queue.offer report),
        ((others (.offerSolvency report) world.rest.1).2, world.queue.behind report)) := rfl
  rw [World.answer, offered]
  cases world.queue.offer report with
  | taken => exact ⟨_, _, rfl, rfl, rfl⟩
  | closed => exact ⟨_, _, rfl, rfl, rfl⟩
  | timedOut => exact ⟨_, _, rfl, rfl, rfl⟩

structure World.Untouched (world after : World (Rest × Queue Solvency)) : Prop where
  memory : after.memory = world.memory
  queue : after.queue = world.queue

def IsInquiry : Question → Prop
  | .node _ => True
  | .bridge _ => True
  | _ => False

theorem World.Untouched.answered {question : Question} {world after : World (Rest × Queue Solvency)}
    (inquiry : IsInquiry question) (untouched : World.Untouched world after) :
    World.Untouched world (World.answer (onQueue others) question after).2 := by
  obtain ⟨memory, queue⟩ := untouched
  cases question with
  | node call => exact ⟨memory, queue⟩
  | bridge call => exact ⟨memory, queue⟩
  | _ => cases inquiry

theorem World.untouched_of_asks {activity : Activity α}
    {world after : World (Rest × Queue Solvency)} {value : α} (asks : activity.Asks IsInquiry)
    (ends : activity.Ends (World.answer (onQueue others)) world value after) :
    World.Untouched world after := by
  have kept : World.Untouched world (activity.run (World.answer (onQueue others)) world).2 :=
    asks.keeps (fun _ _ inquiry untouched => untouched.answered others inquiry) ⟨rfl, rfl⟩
  rw [show activity.run _ world = _ from ends] at kept
  exact kept

theorem ends_offerAll (reports : List Solvency) (world : World (Rest × Queue Solvency)) :
    ∃ after, (SolvencyCheck.offerAll reports).Ends (World.answer (onQueue others)) world () after ∧
      after.memory = world.memory ∧ after.queue = world.queue.fill reports ∧
      offers (World.answer (onQueue others)) (SolvencyCheck.offerAll reports) world = reports := by
  induction reports generalizing world with
  | nil => exact ⟨world, rfl, rfl, rfl, rfl⟩
  | cons report rest ih =>
      obtain ⟨reply, between, answered, memory, queue⟩ := World.answer_offer others world report
      obtain ⟨after, ends, kept, filled, offered⟩ := ih between
      have first : (Activity.query (.offerSolvency report)).Ends (World.answer (onQueue others))
          world reply between := Program.ends_query.mpr answered
      refine ⟨after, Program.ends_bind.mpr ⟨reply, between, first, ends⟩, kept.trans memory, ?_, ?_⟩
      · rw [filled, queue]
        rfl
      · have alone : offers (World.answer (onQueue others))
            (Activity.query (.offerSolvency report)) world = [report] := by
          unfold offers Activity.query
          rw [Program.asked_query]
          rfl
        refine (offers_bind_of_ends first).trans ?_
        rw [alone, offered]
        rfl

/-! ### Looking at solvency -/

namespace Scanner

variable {others} {tokens : List Token} {height : Int64}
  {world told inspected : World (Rest × Queue Solvency)} {vaults : List Vault}
  {seen : List (Vault × Sight)}

theorem asks_inspectAll_inquiry (tokens : List Token) (fee : Amount) (vaults : List Vault) :
    (inspectAll tokens fee vaults).Asks IsInquiry := by
  apply (asks_inspectAll vaults).mono
  intro question call
  cases question with
  | node call => trivial
  | _ => cases call

theorem offer?_of_inquiry {question : Question} (inquiry : IsInquiry question) :
    question.offer? = none := by
  cases question with
  | offerSolvency report => cases inquiry
  | _ => rfl

theorem untouched_bridge {call : BridgeCall} {reply : Option (Except Error call.Answer)}
    (answered : World.answer (onQueue others) (.bridge call) world = (reply, told)) :
    World.Untouched world told := by
  have same : World.Untouched world world := ⟨rfl, rfl⟩
  have isInquiry : IsInquiry (.bridge call) := trivial
  have untouched := same.answered others isInquiry
  rw [answered] at untouched
  exact untouched

/-- What is to be said of the vaults is offered, and the queue gets the first of it. -/
theorem gives_reportVaults (memory : Memory)
    (listed : World.answer (onQueue others) (.bridge .vaults) world = (some (.ok vaults), told))
    (same : seen.map Prod.fst = vaults)
    (looks : LooksAll (World.answer (onQueue others)) tokens (feeOf memory) seen told inspected) :
    ∃ after, Action.Gives (World.answer (onQueue others)) (reportVaults tokens memory height) world
        () after ∧
      after.queue =
        world.queue.fill (SolvencyCheck.reports height (findings seen) memory.healthy) ∧
      offers (World.answer (onQueue others)) (reportVaults tokens memory height).run world =
        SolvencyCheck.reports height (findings seen) memory.healthy := by
  have inspects : (inspectAll tokens (feeOf memory) vaults).Ends (World.answer (onQueue others))
      told (findings seen) inspected := ends_inspectAll.mpr ⟨seen, same, looks, rfl⟩
  have looked := World.untouched_of_asks others (asks_inspectAll_inquiry _ _ _) inspects
  have lists := Action.gives_bridge.mpr listed
  have untouched := untouched_bridge listed
  obtain ⟨after, ends, -, filled, offered⟩ := ends_offerAll others
    (SolvencyCheck.reports height (findings seen) memory.healthy) inspected
  have found := Action.gives_activity.mpr inspects
  refine ⟨after, ?_, ?_, ?_⟩
  · refine Action.gives_bind.mpr ⟨_, _, lists, ?_⟩
    exact Action.gives_bind.mpr ⟨_, _, found, Action.gives_activity.mpr ends⟩
  · rw [filled, looked.queue, untouched.queue]
  · have quietList :
        offers (World.answer (onQueue others)) (Action.bridge .vaults).run world = [] :=
      offers_of_asks (Action.asks_bridge trivial) (fun _ => offer?_of_inquiry) world
    have quietLook : offers (World.answer (onQueue others))
        (ExceptT.lift (inspectAll tokens (feeOf memory) vaults) : Action _).run told = [] :=
      offers_of_asks (Action.asks_activity (asks_inspectAll_inquiry _ _ _))
        (fun _ => offer?_of_inquiry) told
    -- Listing the vaults and looking at them offers nothing.
    refine (offers_behind lists quietList).trans ?_
    refine (offers_behind found quietLook).trans ?_
    refine (offers_bind_of_ends ends).trans ?_
    rw [offered]
    exact List.append_nil _

theorem run_reportSolvency (tokens : List Token)
    (respond : (question : Question) → Rest → Option question.Answer × Rest)
    (due : SolvencyCheck.isDue height = true) (world : World Rest) :
    (reportSolvency tokens height).run.run (World.answer respond) world =
      match isSilent world.memory height with
      | .error overflow => (.overflowed overflow, world)
      | .ok true => (.finished (.ok ()), world)
      | .ok false =>
        (reportVaults tokens world.memory height).run.run (World.answer respond) world := by
  have remembers : Action.Gives (World.answer respond) Action.memory world world.memory world :=
    Action.gives_memory.mpr rfl
  unfold reportSolvency
  rw [if_pos due]
  refine (Program.run_bind_of_ends remembers).trans ?_
  change (Action.check (isSilent world.memory height) >>= fun silent =>
    if silent then pure () else reportVaults tokens world.memory height : Action Unit).run.run _
      world = _
  rcases isSilent world.memory height with overflow | _ | _
  · rfl
  · rfl
  · rfl

/-- At a height at which it is due, and unless the scanner stays silent, what is to be said of the
vaults is offered. -/
theorem gives_reportSolvency (due : SolvencyCheck.isDue height = true)
    (audible : isSilent world.memory height = .ok false)
    (listed : World.answer (onQueue others) (.bridge .vaults) world = (some (.ok vaults), told))
    (same : seen.map Prod.fst = vaults)
    (looks : LooksAll (World.answer (onQueue others)) tokens (feeOf world.memory) seen told
      inspected) :
    ∃ after, Action.Gives (World.answer (onQueue others)) (reportSolvency tokens height) world
        () after ∧
      after.queue =
        world.queue.fill (SolvencyCheck.reports height (findings seen) world.memory.healthy) ∧
      offers (World.answer (onQueue others)) (reportSolvency tokens height).run world =
        SolvencyCheck.reports height (findings seen) world.memory.healthy := by
  have remembers : Action.Gives (World.answer (onQueue others)) Action.memory world world.memory
      world := Action.gives_memory.mpr rfl
  have silent : (Action.check (isSilent world.memory height)) = Action.check (.ok false) :=
    congrArg Action.check audible
  obtain ⟨after, gives, filled, offered⟩ := gives_reportVaults world.memory listed same looks
  unfold reportSolvency
  rw [if_pos due]
  refine ⟨after, Action.gives_bind.mpr ⟨_, _, remembers, ?_⟩, filled, ?_⟩
  · rw [silent]
    exact gives
  · refine (offers_behind remembers rfl).trans ?_
    rw [silent]
    exact offered

end Scanner
end TronGateway
