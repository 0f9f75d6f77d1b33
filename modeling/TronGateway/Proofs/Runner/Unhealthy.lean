import TronGateway.Proofs.Runner.History
import TronGateway.Proofs.Runner.Medium
import TronGateway.Proofs.Scanner.Questions
set_option autoImplicit false

/-!
# A runner over an unhealthy scanner

An unhealthy scanner is silent at the height right behind the last one that it scanned. Within a run
that is the height that the runner fetches next, so that nothing is reported behind the first height
that a run completes. Up to there the last scanned height is one of an earlier run, or zero, and the
scanner may report although it is unhealthy.
-/

namespace TronGateway.Runner

variable {Rest : Type} {respond : (question : TronGateway.Question) → Rest →
    Option question.Answer × Rest} {tokens : List Token} {settings : Settings}

section Relay

variable {Asked World : Type} {Answer : Asked → Type}
  {interpret : (question : Question) → Program Answer question.Answer}
  {given : (question : Asked) → World → Option (Answer question) × World}

variable (interpret given) in
theorem iterate_relay (step : State → Act State) (fuel : Nat) (state : State) (world : World) :
    (iterate given (fun state => (step state).relay interpret) fuel state world).2 =
      (iterate (Program.served interpret given) step fuel state world).2 := by
  induction fuel generalizing state world with
  | zero => rfl
  | succ fuel ih =>
      by_cases halted : state = .stopped
      · subst halted
        rfl
      · have relayed := Program.run_relay interpret given (step state) world
        rw [iterate.eq_3 _ _ _ _ _ halted, iterate.eq_3 _ _ _ _ _ halted]
        rcases first : ((step state).relay interpret).run given world with ⟨outcome, after⟩
        rcases second : (step state).run (Program.served interpret given) world with
          ⟨other, between⟩
        rw [first, second] at relayed
        obtain ⟨rfl, values⟩ : after = between ∧
          ∀ value, outcome = .finished value ↔ other = .finished value := relayed
        -- A relayed step that overflows is served as one that stalls, but both end the run here.
        cases outcome with
        | finished next =>
            rw [(values next).mp rfl]
            exact ih next after
        | overflowed overflow =>
            cases other with
            | finished next => cases (values next).mpr rfl
            | overflowed _ => rfl
            | stalled => rfl
        | stalled =>
            cases other with
            | finished next => cases (values next).mpr rfl
            | overflowed _ => rfl
            | stalled => rfl

theorem iterate_project {Seen : Type} {project : World → Seen}
    {answer : (question : Question) → World → Option question.Answer × World}
    {other : (question : Question) → Seen → Option question.Answer × Seen}
    (same : ∀ question world, other question (project world) =
      ((answer question world).1, project (answer question world).2))
    (step : State → Act State) (fuel : Nat) (state : State) (world : World) :
    (iterate other step fuel state (project world)).2 =
      project (iterate answer step fuel state world).2 := by
  induction fuel generalizing state world with
  | zero => rfl
  | succ fuel ih =>
      by_cases halted : state = .stopped
      · subst halted
        rfl
      · rw [iterate.eq_3 _ _ _ _ _ halted, iterate.eq_3 _ _ _ _ _ halted,
          Program.run_project same]
        rcases (step state).run answer world with ⟨next | overflow | _, between⟩
        · exact ih next between
        · rfl
        · rfl

end Relay

/-! ### Fetches with their surroundings -/

/-- A fetch of the runner, with the surroundings in which it was made and what came of it. -/
structure FetchCall (Rest : Type) where
  height : Int64
  world : World Rest
  reply : Option (Except Error BlockReport)

namespace FetchCall

def Succeeds (call : FetchCall Rest) : Prop :=
  ∃ report, call.reply = some (.ok report)

/-- While the block is fetched, the statement is offered to the protocol chain. -/
def Offers (respond : (question : TronGateway.Question) → Rest → Option question.Answer × Rest)
    (tokens : List Token) (call : FetchCall Rest) (report : Solvency) : Prop :=
  .offerSolvency report ∈
    (Scanner.fetch tokens call.height).run.asked (World.answer respond) call.world

end FetchCall

/-- Answers the runner by the scanner. -/
abbrev onWorld (respond : (question : TronGateway.Question) → Rest → Option question.Answer × Rest)
    (tokens : List Token) :
    (question : Question) → World Rest → Option question.Answer × World Rest :=
  Program.served (onScanner tokens) (World.answer respond)

def FetchCall.made
    (respond : (question : TronGateway.Question) → Rest → Option question.Answer × Rest)
    (tokens : List Token) (height : Int64) (world : World Rest) : FetchCall Rest :=
  ⟨height, world, (onWorld respond tokens (.fetch height) world).1⟩

def keepingCalls
    (respond : (question : TronGateway.Question) → Rest → Option question.Answer × Rest)
    (tokens : List Token) : (question : Question) → World Rest × List (FetchCall Rest) →
      Option question.Answer × (World Rest × List (FetchCall Rest))
  | .fetch height, (world, calls) =>
    ((onWorld respond tokens (.fetch height) world).1,
      (onWorld respond tokens (.fetch height) world).2,
      calls ++ [FetchCall.made respond tokens height world])
  | question, (world, calls) =>
    ((onWorld respond tokens question world).1, (onWorld respond tokens question world).2, calls)

/-- The fetches of a run of the runner over the scanner, in order. -/
def calls (respond : (question : TronGateway.Question) → Rest → Option question.Answer × Rest)
    (tokens : List Token) (settings : Settings) (fuel : Nat) (world : World Rest) :
    List (FetchCall Rest) :=
  (run (keepingCalls respond tokens) settings fuel (world, [])).2.2

theorem run_keepingCalls
    (respond : (question : TronGateway.Question) → Rest → Option question.Answer × Rest)
    (tokens : List Token) (settings : Settings) (fuel : Nat) (world : World Rest) :
    (iterate (World.answer respond) (scanStep settings tokens) fuel .starting world).2 =
      (run (keepingCalls respond tokens) settings fuel (world, [])).2.1 := by
  have same : ∀ (question : Question) (state : World Rest × List (FetchCall Rest)),
      onWorld respond tokens question state.1 =
        ((keepingCalls respond tokens question state).1,
          (keepingCalls respond tokens question state).2.1) := by
    intro question state
    cases question with
    | _ => rfl
  have relayed := iterate_relay (onScanner tokens) (World.answer respond) (step settings) fuel
    .starting world
  exact relayed.trans (iterate_project same (step settings) fuel .starting (world, []))

/-! ### The last scanned height -/

/-- The last height that was fetched with success, else the one before. -/
def lastCompleted : Int64 → List (Int64 × Option (Except Error BlockReport)) → Int64
  | before, [] => before
  | _, (height, some (.ok _)) :: rest => lastCompleted height rest
  | before, _ :: rest => lastCompleted before rest

theorem lastCompleted_append (before : Int64)
    (first second : List (Int64 × Option (Except Error BlockReport))) :
    lastCompleted before (first ++ second) = lastCompleted (lastCompleted before first) second := by
  induction first generalizing before with
  | nil => rfl
  | cons fetch rest ih =>
      rcases fetch with ⟨height, _ | failure | report⟩
      · exact ih before
      · exact ih before
      · exact ih height

theorem lastCompleted_of_none {before : Int64}
    {fetches : List (Int64 × Option (Except Error BlockReport))}
    (none : ∀ height report, (height, some (.ok report)) ∉ fetches) :
    lastCompleted before fetches = before := by
  induction fetches with
  | nil => rfl
  | cons fetch rest ih =>
      have later := ih fun height report member =>
        none height report (List.mem_cons_of_mem _ member)
      rcases fetch with ⟨height, _ | failure | report⟩
      · exact later
      · exact later
      · exact absurd List.mem_cons_self (none height report)

theorem position_eq {start : Int} {before : Int64}
    {fetches : List (Int64 × Option (Except Error BlockReport))} (inOrder : InOrder start fetches)
    (behind : start = before.toInt + 1) :
    position start fetches = (lastCompleted before fetches).toInt + 1 := by
  induction fetches generalizing start before with
  | nil => exact behind
  | cons fetch rest ih =>
      rcases fetch with ⟨height, _ | failure | report⟩
      · exact ih inOrder.2 behind
      · exact ih inOrder.2 behind
      · exact ih inOrder.2 (congrArg (· + 1) inOrder.1.symm)

/-- As soon as a height has been completed, the one to fetch is right behind the last of them. -/
theorem position_of_completed {start : Int} {before height : Int64} {report : BlockReport}
    {fetches : List (Int64 × Option (Except Error BlockReport))} (inOrder : InOrder start fetches)
    (member : (height, some (.ok report)) ∈ fetches) :
    position start fetches = (lastCompleted before fetches).toInt + 1 := by
  induction fetches with
  | nil => cases member
  | cons fetch rest ih =>
      rcases fetch with ⟨first, _ | failure | found⟩
      · exact ih inOrder.2 ((List.mem_cons.mp member).resolve_left nofun)
      · exact ih inOrder.2 ((List.mem_cons.mp member).resolve_left nofun)
      · have behind : start + 1 = first.toInt + 1 := congrArg (· + 1) inOrder.1.symm
        exact @position_eq (start + 1) first rest inOrder.2 behind

theorem inOrder_at {start : Int} {first second : List (Int64 × Option (Except Error BlockReport))}
    {fetch : Int64 × Option (Except Error BlockReport)}
    (inOrder : InOrder start (first ++ fetch :: second)) :
    InOrder start first ∧ fetch.1.toInt = position start first := by
  induction first generalizing start with
  | nil =>
      rcases fetch with ⟨height, _ | failure | report⟩
      · exact ⟨trivial, inOrder.1⟩
      · exact ⟨trivial, inOrder.1⟩
      · exact ⟨trivial, inOrder.1⟩
  | cons earlier rest ih =>
      rcases earlier with ⟨height, _ | failure | report⟩
      · exact ⟨⟨inOrder.1, (ih inOrder.2).1⟩, (ih inOrder.2).2⟩
      · exact ⟨⟨inOrder.1, (ih inOrder.2).1⟩, (ih inOrder.2).2⟩
      · exact ⟨⟨inOrder.1, (ih inOrder.2).1⟩, (ih inOrder.2).2⟩

def FetchCall.fetch (call : FetchCall Rest) : Int64 × Option (Except Error BlockReport) :=
  (call.height, call.reply)

/-- The last scanned height is the last one that was fetched with success, now and at each fetch. -/
structure Tracks (before : Int64) (state : (World Rest × List (FetchCall Rest)) × List Event) :
    Prop where
  noted : fetches state.2 = state.1.2.map FetchCall.fetch
  now : state.1.1.memory.previousHeight = lastCompleted before (state.1.2.map FetchCall.fetch)
  atFetch : ∀ earlier call later, state.1.2 = earlier ++ call :: later →
    call.world.memory.previousHeight = lastCompleted before (earlier.map FetchCall.fetch)

/-- The question does not tell the scanner that a height has been scanned. -/
def KeepsHeight (question : TronGateway.Question) : Prop :=
  ∀ height, question ≠ .remember (.scanned height)

theorem previousHeight_answer {question : TronGateway.Question} (keeps : KeepsHeight question)
    (world : World Rest) :
    (World.answer respond question world).2.memory.previousHeight =
      world.memory.previousHeight := by
  rcases World.memory_answer question world with same | ⟨change, rfl, changed⟩
  · rw [same]
  · rw [changed]
    cases change with
    | scanned height => exact absurd rfl (keeps height)
    | _ => rfl

theorem asks_onScanner {question : Question} (other : ∀ height, question ≠ .fetch height) :
    (onScanner tokens question).Asks KeepsHeight := by
  cases question with
  | height => exact Scanner.height_asks nofun
  | fetch height => exact absurd rfl (other height)
  | _ => exact .ask _ _ nofun fun _ => .done _

theorem previousHeight_onWorld {question : Question} (other : ∀ height, question ≠ .fetch height)
    (world : World Rest) :
    (onWorld respond tokens question world).2.memory.previousHeight =
      world.memory.previousHeight := by
  have kept : ∀ question state, KeepsHeight question →
      state.memory.previousHeight = world.memory.previousHeight →
      (World.answer respond question state).2.memory.previousHeight =
        world.memory.previousHeight :=
    fun _ state keeps same => (previousHeight_answer keeps state).trans same
  have asks : (onScanner tokens question).Asks KeepsHeight := asks_onScanner other
  rw [Program.served_snd]
  exact asks.keeps kept rfl

theorem previousHeight_fetch (height : Int64) (world : World Rest) :
    (onWorld respond tokens (.fetch height) world).2.memory.previousHeight =
      lastCompleted world.memory.previousHeight
        [(height, (onWorld respond tokens (.fetch height) world).1)] := by
  obtain ⟨outcome, after, ran, -, remembered⟩ :=
    Scanner.fetch_remembers respond tokens height world
  change (onScanner tokens (.fetch height)).run _ _ = _ at ran
  unfold onWorld Program.served
  rw [ran]
  rcases remembered with ⟨⟨report, rfl⟩, moved⟩ | ⟨failed, same⟩
  · exact moved
  · rcases outcome with ⟨failure | report⟩ | overflow | _
    · exact same
    · exact absurd rfl (failed report)
    · exact same
    · exact same

theorem Tracks.other {before : Int64} {world : World Rest} {calls : List (FetchCall Rest)}
    {log events : List Event} (tracks : Tracks before ((world, calls), log)) {question : Question}
    (other : ∀ height, question ≠ .fetch height) (unseen : fetches events = []) :
    Tracks before (((onWorld respond tokens question world).2, calls), log ++ events) where
  noted := by
    rw [fetches_append, unseen, List.append_nil]
    exact tracks.noted
  now := (previousHeight_onWorld other world).trans tracks.now
  atFetch := tracks.atFetch

theorem Tracks.fetched {before : Int64} {world : World Rest} {calls : List (FetchCall Rest)}
    {log : List Event} (tracks : Tracks before ((world, calls), log)) (height : Int64) :
    Tracks before (Program.noting see (keepingCalls respond tokens) (.fetch height)
      ((world, calls), log)).2 where
  noted := by
    change fetches (log ++ [.fetched height (onWorld respond tokens (.fetch height) world).1]) =
      (calls ++ [FetchCall.made respond tokens height world]).map FetchCall.fetch
    rw [fetches_append, tracks.noted, List.map_append]
    rfl
  now := by
    change (onWorld respond tokens (.fetch height) world).2.memory.previousHeight =
      lastCompleted before
        ((calls ++ [FetchCall.made respond tokens height world]).map FetchCall.fetch)
    have known : world.memory.previousHeight = lastCompleted before (calls.map FetchCall.fetch) :=
      tracks.now
    rw [List.map_append, lastCompleted_append, ← known]
    exact previousHeight_fetch height world
  atFetch := by
    intro earlier call later same
    change calls ++ [FetchCall.made respond tokens height world] = _ at same
    -- Either the split is at the new fetch, or it is one of the fetches before.
    rcases List.eq_nil_or_concat later with rfl | ⟨more, final, rfl⟩
    · obtain ⟨rfl, single⟩ := List.append_inj' same rfl
      cases single
      exact tracks.now
    · rw [List.concat_eq_append, ← List.cons_append, ← List.append_assoc] at same
      exact tracks.atFetch earlier call more (List.append_inj' same rfl).1

theorem Tracks.noting {before : Int64} (question : Question)
    (state : (World Rest × List (FetchCall Rest)) × List Event) (tracks : Tracks before state) :
    Tracks before (Program.noting see (keepingCalls respond tokens) question state).2 := by
  obtain ⟨⟨world, calls⟩, log⟩ := state
  cases question with
  | fetch height => exact tracks.fetched height
  | store call =>
      cases call with
      | _ => exact tracks.other nofun rfl
  | _ => exact tracks.other nofun rfl

theorem previousHeight_behind_completed {before : Int64} {start : Int}
    {state : (World Rest × List (FetchCall Rest)) × List Event} (tracks : Tracks before state)
    (inOrder : InOrder start (fetches state.2)) {earlier later : List (FetchCall Rest)}
    {call : FetchCall Rest} (same : state.1.2 = earlier ++ call :: later)
    (completed : ∃ first ∈ earlier, first.Succeeds) :
    call.world.memory.previousHeight.toInt + 1 = call.height.toInt := by
  obtain ⟨first, member, report, succeeded⟩ := completed
  rw [tracks.noted, same, List.map_append, List.map_cons] at inOrder
  obtain ⟨before, position⟩ := inOrder_at inOrder
  have found : (first.height, some (.ok report)) ∈ earlier.map FetchCall.fetch := by
    rw [← succeeded]
    exact List.mem_map.mpr ⟨first, member, rfl⟩
  rw [tracks.atFetch earlier call later same]
  exact (position_of_completed before found).symm.trans position.symm

/-- In a run, the last scanned height is at each fetch the last one that was fetched with success,
and so the one before the height to fetch as soon as there is one. -/
theorem previousHeight_at_call
    (respond : (question : TronGateway.Question) → Rest → Option question.Answer × Rest)
    (tokens : List Token) (settings : Settings) (fuel : Nat) (world : World Rest)
    {earlier later : List (FetchCall Rest)} {call : FetchCall Rest}
    (same : calls respond tokens settings fuel world = earlier ++ call :: later) :
    ((∃ first ∈ earlier, first.Succeeds) →
      call.world.memory.previousHeight.toInt + 1 = call.height.toInt) ∧
    ((∀ first ∈ earlier, ¬ first.Succeeds) →
      call.world.memory.previousHeight = world.memory.previousHeight) := by
  have nothing : Holds settings .starting [] := rfl
  obtain ⟨log, sound, ran⟩ := nothing.iterate (keepingCalls respond tokens) fuel (world, [])
  have start : Tracks world.memory.previousHeight ((world, []), []) := by
    refine ⟨rfl, rfl, ?_⟩
    intro earlier call later same
    exact absurd same (by simp)
  have tracks : Tracks world.memory.previousHeight
      (iterate (Program.noting see (keepingCalls respond tokens)) (step settings) fuel .starting
        ((world, []), [])).2 :=
    iterate_keeps (fun question state _ tracks => Tracks.noting question state tracks) fuel
      .starting start
  rw [ran] at tracks
  -- A run that has no start yet has fetched nothing; behind a start the fetches are in order.
  have ordered : ∃ first, InOrder first (fetches ([] ++ log)) := by
    rcases sound with idle | ⟨first, scans⟩
    · have none : fetches ([] ++ log) = [] :=
        List.filterMap_eq_nil_iff.mpr fun event member => (idle.quiet event member).1
      rw [none]
      exact ⟨0, trivial⟩
    · exact ⟨first.toInt, scans.inOrder⟩
  obtain ⟨first, inOrder⟩ := ordered
  refine ⟨fun completed => previousHeight_behind_completed tracks inOrder same completed, ?_⟩
  intro none
  rw [tracks.atFetch earlier call later same]
  refine lastCompleted_of_none ?_
  intro height report member
  obtain ⟨other, present, found⟩ := List.mem_map.mp member
  exact none other present ⟨report, congrArg Prod.snd found⟩

/-! ### Silence -/

/-- In a run of the runner over the scanner, from any start and whatever fails, a fetch that is made
while the scanner is unhealthy reports nothing about solvency once the run has completed a height.
Before that the last scanned height is the one that the scanner had when the run began, and the
fetch reports only where solvency is due and that height is not the one before. -/
theorem unhealthy_fetch_is_silent_behind_completed_height
    (respond : (question : TronGateway.Question) → Rest → Option question.Answer × Rest)
    (tokens : List Token) (settings : Settings) (fuel : Nat) (world : World Rest) :
    (iterate (World.answer respond) (scanStep settings tokens) fuel .starting world).2 =
        (run (keepingCalls respond tokens) settings fuel (world, [])).2.1 ∧
      ∀ earlier call later,
        calls respond tokens settings fuel world = earlier ++ call :: later →
        call.world.memory.healthy = false →
        ((∃ first ∈ earlier, first.Succeeds) → ∀ report, ¬ call.Offers respond tokens report) ∧
        ((∀ first ∈ earlier, ¬ first.Succeeds) →
          call.world.memory.previousHeight = world.memory.previousHeight ∧
          ∀ report, call.Offers respond tokens report → 10 ∣ call.height.toInt ∧
            world.memory.previousHeight.toInt + 1 ≠ call.height.toInt) := by
  refine ⟨run_keepingCalls respond tokens settings fuel world, ?_⟩
  intro earlier call later same unhealthy
  obtain ⟨behind, before⟩ := previousHeight_at_call respond tokens settings fuel world same
  have below := call.height.toInt_lt
  have audible : ∀ report, call.Offers respond tokens report →
      10 ∣ call.height.toInt ∧
        call.world.memory.previousHeight.toInt + 1 ≠ call.height.toInt := by
    intro report offers
    obtain ⟨due, heard⟩ := Scanner.of_offered_by_fetch offers
    refine ⟨due, fun next => ?_⟩
    rw [Scanner.isSilent_of_unhealthy unhealthy, if_pos (by omega), decide_eq_true next] at heard
    cases heard
  constructor
  · intro completed report offers
    exact (audible report offers).2 (behind completed)
  · intro none
    refine ⟨before none, fun report offers => ?_⟩
    rw [← before none]
    exact audible report offers

/-! A node that does not tell its height at first, and is far ahead then. -/

def lateNode : Bool → (call : NodeCall) → Except Error call.Answer
  | false, .latestBlock => .error .settings
  | true, .latestBlock => .ok ⟨"", some ⟨219, 0, "", "", "", ""⟩, []⟩
  | _, .block _ => .ok ⟨"", none, []⟩
  | _, .balance _ => .ok 10
  | _, _ => .error .settings

def lateRest : (question : TronGateway.Question) → Bool → Option question.Answer × Bool
  | .node .latestBlock, told => (some (lateNode told .latestBlock), true)
  | .node call, told => (some (lateNode told call), told)
  | .bridge .vaults, told => (some (.ok [Scanner.coveredVault]), told)
  | .store (.get _), told => (some (.ok none), told)
  | .store (.put _ _), told => (some (.ok ()), told)
  | .offerSolvency _, told => (some .taken, told)
  | .wait _, told => (some .elapsed, told)
  | .isStopped, told => (some false, told)
  | _, told => (none, told)

theorem unhealthy_fetch_is_silent_behind_99 :
    ∃ first last, calls lateRest [] ⟨"TRON", 99, 30⟩ 5 (.opening false) = [first, last] ∧
      first.Succeeds ∧ last.height = 100 ∧ last.world.memory.healthy = false ∧
      ∀ report, ¬ last.Offers lateRest [] report := by
  have silent := (unhealthy_fetch_is_silent_behind_completed_height lateRest [] ⟨"TRON", 99, 30⟩ 5
    (.opening false)).2
  refine ⟨_, _, rfl, ⟨_, rfl⟩, rfl, rfl, ?_⟩
  exact (silent [_] _ [] rfl rfl).1 ⟨_, List.mem_singleton.mpr rfl, _, rfl⟩

theorem iterate_succ_of_ends {World : Type}
    {answer : (question : Question) → World → Option question.Answer × World}
    {step : State → Act State} {state next : State} {world after : World}
    (ends : (step state).Ends answer world next after) (going : state ≠ .stopped) (fuel : Nat) :
    iterate answer step (fuel + 1) state world = iterate answer step fuel next after := by
  rw [iterate.eq_3 _ _ _ _ _ going, show (step state).run answer world = _ from ends]

theorem iterate_one {World : Type}
    {answer : (question : Question) → World → Option question.Answer × World}
    (step : State → Act State) {state : State} (going : state ≠ .stopped) (world : World) :
    (iterate answer step 1 state world).2 = ((step state).run answer world).2 := by
  rw [iterate.eq_3 _ _ _ _ _ going]
  rcases (step state).run answer world with ⟨next | overflow | _, last⟩
  · rfl
  · rfl
  · rfl

theorem mem_calls_of_scanning {cursor final : Int64} {world after : World Rest}
    (ahead : cursor ≤ final) (going : onWorld respond tokens .isStopped world = (some false, after))
    (calls : List (FetchCall Rest)) :
    FetchCall.made respond tokens cursor after ∈
      (iterate (keepingCalls respond tokens) (step settings) 1 (.scanning cursor final)
        (world, calls)).2.2 := by
  have kept : ∀ question (state : World Rest × List (FetchCall Rest)),
      question.Minds settings.chain →
      FetchCall.made respond tokens cursor after ∈ state.2 →
      FetchCall.made respond tokens cursor after ∈
        (keepingCalls respond tokens question state).2.2 := by
    intro question state _ member
    cases question with
    | fetch height => exact List.mem_append_left _ member
    | _ => exact member
  have stopped : keepingCalls respond tokens .isStopped (world, calls) =
      (some false, (after, calls)) := by
    change ((onWorld respond tokens .isStopped world).1, _) = _
    rw [going]
  have stepped : step settings (.scanning cursor final) =
      .ask .isStopped fun told => if told then .done .stopped else fetch settings cursor final := by
    unfold step
    dsimp only
    rw [if_neg (Int64.not_lt.mpr ahead)]
    rfl
  obtain ⟨next, asked⟩ : ∃ next, fetch settings cursor final = .ask (.fetch cursor) next :=
    ⟨_, rfl⟩
  have asks : (fetch settings cursor final).Asks (Question.Minds settings.chain) :=
    asks_fetch cursor final
  rw [asked] at asks
  have noted : FetchCall.made respond tokens cursor after ∈
      (keepingCalls respond tokens (.fetch cursor) (after, calls)).2.2 :=
    List.mem_append_right _ List.mem_cons_self
  have going : State.scanning cursor final ≠ .stopped := nofun
  rw [iterate_one _ going, stepped, Program.run, stopped, asked]
  dsimp only
  rw [if_neg Bool.false_ne_true, Program.run]
  rcases fetched : keepingCalls respond tokens (.fetch cursor) (after, calls) with
    ⟨_ | reply, between⟩
  · rw [fetched] at noted
    exact noted
  · rw [fetched] at noted
    exact (asks.of_ask.2 reply).keeps kept noted

theorem mem_calls_of_ran {cursor final : Int64} {world between after : World Rest}
    {noted : List (FetchCall Rest)} {fuel : Nat} (ahead : cursor ≤ final)
    (going : onWorld respond tokens .isStopped between = (some false, after))
    (ran : run (keepingCalls respond tokens) settings fuel (world, []) =
      iterate (keepingCalls respond tokens) (step settings) 1 (.scanning cursor final)
        (between, noted)) :
    FetchCall.made respond tokens cursor after ∈ calls respond tokens settings fuel world := by
  unfold calls
  rw [ran]
  exact mem_calls_of_scanning ahead going noted

def lateWorld : World Bool := ⟨⟨[], 0, none, false, 0⟩, [], [], true⟩

def lateReport : Solvency :=
  ⟨20, "TRON", Scanner.coveredVault.pubKey, [Coin.ofTrx (Amount.ofSun (Amount.ofUInt64 10))], true⟩

theorem offered_lateWorld :
    .offerSolvency lateReport ∈
      (Scanner.reportSolvency [] 20).run.asked (World.answer lateRest) lateWorld := by
  have looks : Scanner.Looks (World.answer lateRest) [] (Scanner.feeOf lateWorld.memory)
      Scanner.coveredVault lateWorld (.read lateReport.coins true) lateWorld :=
    .read (KeyText.address_of_parse Scanner.parse_coveredVault) rfl rfl
  exact Scanner.offered_iff.mpr ⟨rfl, _, _, _, _, [(Scanner.coveredVault, .read _ true)], _, rfl,
    rfl, rfl, rfl, ⟨_, looks, rfl⟩, List.mem_cons_self⟩

/-- The first height that a run completes may be reported although the scanner is unhealthy. -/
theorem first_fetch_reports_although_unhealthy :
    ∃ call ∈ calls lateRest [] ⟨"TRON", 20, 30⟩ 4 (.opening false),
      call.world.memory.healthy = false ∧ ∃ report, call.Offers lateRest [] report := by
  have started : (step ⟨"TRON", 20, 30⟩ .starting).Ends (keepingCalls lateRest [])
      (.opening false, []) (.waiting 20) (.opening false, []) := rfl
  have failed : (step ⟨"TRON", 20, 30⟩ (.waiting 20)).Ends (keepingCalls lateRest [])
      (.opening false, []) (.waiting 20) (lateWorld, []) := rfl
  have measured : (step ⟨"TRON", 20, 30⟩ (.waiting 20)).Ends (keepingCalls lateRest [])
      (lateWorld, []) (.scanning 20 200) (lateWorld, []) := rfl
  have ran : run (keepingCalls lateRest []) ⟨"TRON", 20, 30⟩ 4 (.opening false, []) =
      iterate (keepingCalls lateRest []) (step ⟨"TRON", 20, 30⟩) 1 (.scanning 20 200)
        (lateWorld, []) :=
    calc iterate _ _ (3 + 1) _ _
      _ = iterate _ _ (2 + 1) _ _ := iterate_succ_of_ends started nofun 3
      _ = iterate _ _ (1 + 1) _ _ := iterate_succ_of_ends failed nofun 2
      _ = _ := iterate_succ_of_ends measured nofun 1
  refine ⟨.made lateRest [] 20 lateWorld, ?_, rfl, lateReport, ?_⟩
  · exact mem_calls_of_ran (by decide) rfl ran
  · exact Scanner.offered_by_fetch_iff.mpr
      ⟨_, lateWorld, _, lateWorld, rfl, rfl, offered_lateWorld⟩

end TronGateway.Runner
