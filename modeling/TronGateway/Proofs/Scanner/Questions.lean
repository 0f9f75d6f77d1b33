import TronGateway.Proofs.Scanner
set_option autoImplicit false

/-!
# What a scan asks and remembers

A scan collects transfers, keeps a candidate and refreshes the fee; then it looks at solvency; and
only when it has come through all of that does it remember the height. Until then the health of the
scanner and the last scanned height stay what they were. A scan never uses the store.
-/

namespace TronGateway.Scanner

variable {tokens : List Token} {height : Int64}

def IsPreparing : Question → Prop
  | .node _ => True
  | .bridge _ => True
  | .memory => True
  | .publishFee _ => True
  | .remember (.candidate _) => True
  | .remember (.fee _) => True
  | .remember (.refAddress _) => True
  | _ => False

theorem asks_transfers (txs : List Transaction) :
    (Ingest.transfers tokens height txs).Asks IsPreparing := by
  induction txs with
  | nil => exact .done _
  | cons tx rest ih =>
      have one : (Ingest.transfer tokens tx height).run.Asks IsPreparing := by
        rcases Ingest.transfer_cases tokens tx height with
          ⟨payment, memo, -, run⟩ | ⟨-, result, run, -⟩
        · rw [run]
          exact .ask _ _ trivial fun _ => .done _
        · rw [run]
          exact .done _
      refine one.bind fun found => ih.bind fun others => ?_
      rcases found with failure | _ | transfer
      · exact .done _
      · exact .done _
      · exact .done _

theorem asks_publish (height fee : Int64) : (Fee.publish height fee).run.Asks IsPreparing := by
  unfold Fee.publish
  by_cases positive : 0 < fee
  · rw [if_pos positive]
    apply Action.asks_bind (Action.asks_check _)
    intro message
    apply Action.asks_bind (.ask _ _ trivial fun _ => .done _)
    intro done
    exact .ask _ _ trivial fun _ => .done _
  · rw [if_neg positive]
    exact Action.asks_pure _

theorem asks_refreshFee (tokens : List Token) (height : Int64) :
    (refreshFee tokens height).Asks IsPreparing := by
  have price : (Fee.price tokens).run.Asks IsPreparing := by
    apply (Fee.asks_price tokens).mono
    intro question pricing
    cases question with
    | remember change =>
        cases change with
        | refAddress address => trivial
        | _ => cases pricing
    | node call => trivial
    | bridge call => trivial
    | memory => trivial
    | _ => cases pricing
  have update : (Fee.update tokens height).run.Asks IsPreparing := by
    rw [Fee.update_eq]
    exact Action.asks_bind price fun fee => asks_publish height fee
  unfold refreshFee
  by_cases due : height % feeInterval = 0
  · rw [if_pos due]
    exact update.bind fun _ => .done _
  · rw [if_neg due]
    exact .done _

theorem asks_keepCandidate (block : Block) (height : Int64) :
    (keepCandidate block height).Asks IsPreparing := by
  unfold keepCandidate
  by_cases due : height % candidateInterval = 0
  · rw [if_pos due]
    exact .ask _ _ trivial fun _ => .done _
  · rw [if_neg due]
    exact .done _

def prepare (tokens : List Token) (height : Int64) (block : Block) : Activity (List Transfer) := do
  let transfers ← Ingest.transfers tokens height block.transactions
  keepCandidate block height
  refreshFee tokens height
  return transfers

theorem asks_prepare (block : Block) : (prepare tokens height block).Asks IsPreparing := by
  refine (asks_transfers _).bind fun transfers => ?_
  refine (asks_keepCandidate block height).bind fun _ => ?_
  exact (asks_refreshFee tokens height).bind fun _ => .done _

/-- The part of a scan before the height is remembered. -/
def survey (tokens : List Token) (height : Int64) (block : Block) : Activity (List Transfer) := do
  let transfers ← prepare tokens height block
  let _ ← (reportSolvency tokens height).attempt
  return transfers

theorem run_fetch (tokens : List Token) (height : Int64) :
    (fetch tokens height).run = .ask (.node (.block height)) fun reply =>
      match reply with
      | .error failure => .done (.error failure)
      | .ok block => (survey tokens height block).bind fun transfers =>
        .ask (.remember (.scanned height)) fun _ =>
          .done (.ok ⟨chainName, transfers, false, false⟩) := by
  have scanned (block : Block) : scan tokens height block =
      (survey tokens height block).bind fun transfers =>
        (Activity.remember (.scanned height)).bind fun _ =>
          .done ⟨chainName, transfers, false, false⟩ := by
    change scan tokens height block = survey tokens height block >>= fun transfers =>
      Activity.remember (.scanned height) >>= fun _ => pure _
    unfold scan survey prepare
    simp only [bind_assoc, pure_bind]
  refine congrArg (Program.ask _) (funext fun reply => ?_)
  cases reply with
  | error failure => rfl
  | ok block =>
      change (scan tokens height block).bind (fun report => .done (Except.ok report)) = _
      rw [scanned, Program.bind_assoc]
      rfl

def IsSurveying (question : Question) : Prop :=
  IsPreparing question ∨ IsReporting question

theorem asks_survey (block : Block) : (survey tokens height block).Asks IsSurveying := by
  have prepares : (prepare tokens height block).Asks IsSurveying :=
    (asks_prepare block).mono fun _ preparing => .inl preparing
  have reports : (reportSolvency tokens height).run.Asks IsSurveying :=
    (asks_reportSolvency tokens height).mono fun _ reporting => .inr reporting
  exact prepares.bind fun transfers => reports.bind fun _ => .done _

/-! ### Health and the last scanned height -/

section Health

variable {Rest : Type} {respond : (question : Question) → Rest → Option question.Answer × Rest}
  {world after : World Rest}

structure SameHealth (world after : World Rest) : Prop where
  healthy : after.memory.healthy = world.memory.healthy
  previousHeight : after.memory.previousHeight = world.memory.previousHeight

theorem SameHealth.answered {question : Question} (same : SameHealth world after)
    (surveying : IsSurveying question) :
    SameHealth world (World.answer respond question after).2 := by
  obtain ⟨healthy, previousHeight⟩ := same
  rcases World.memory_answer question after with unchanged | ⟨change, rfl, changed⟩
  · rw [← unchanged] at healthy previousHeight
    exact ⟨healthy, previousHeight⟩
  · cases change with
    | health healthy => exact surveying.elim False.elim False.elim
    | scanned height => exact surveying.elim False.elim False.elim
    | _ => exact ⟨healthy, previousHeight⟩

theorem SameHealth.run {α : Type} {activity : Activity α} (same : SameHealth world after)
    (asks : activity.Asks IsSurveying) :
    SameHealth world (activity.run (World.answer respond) after).2 :=
  asks.keeps (fun _ _ surveying same => same.answered surveying) same

/-- The last scanned height moves to the height of a fetch that succeeds, and only then. -/
theorem fetch_remembers (respond : (question : Question) → Rest → Option question.Answer × Rest)
    (tokens : List Token) (height : Int64) (world : World Rest) :
    ∃ outcome after, (fetch tokens height).run.run (World.answer respond) world =
        (outcome, after) ∧ after.memory.healthy = world.memory.healthy ∧
      ((∃ report, outcome = .finished (.ok report)) ∧ after.memory.previousHeight = height ∨
        (∀ report, outcome ≠ .finished (.ok report)) ∧
          after.memory.previousHeight = world.memory.previousHeight) := by
  have asked : World.answer respond (.node (.block height)) world =
      ((respond (.node (.block height)) world.rest).1,
        { world with rest := (respond (.node (.block height)) world.rest).2 }) := rfl
  rw [run_fetch, Action.run_ask, asked]
  rcases respond (.node (.block height)) world.rest with ⟨_ | failure | block, rest⟩
  · exact ⟨_, _, rfl, rfl, .inr ⟨nofun, rfl⟩⟩
  · exact ⟨_, _, rfl, rfl, .inr ⟨nofun, rfl⟩⟩
  · have start : SameHealth world { world with rest } := ⟨rfl, rfl⟩
    have same : SameHealth world
        ((survey tokens height block).run (World.answer respond) { world with rest }).2 :=
      start.run (asks_survey block)
    dsimp only
    rw [Program.run_bind]
    rcases ran : (survey tokens height block).run (World.answer respond) { world with rest } with
      ⟨transfers | overflow | _, between⟩
    · rw [ran] at same
      exact ⟨_, _, rfl, same.healthy, .inl ⟨⟨_, rfl⟩, rfl⟩⟩
    · rw [ran] at same
      exact ⟨_, _, rfl, same.healthy, .inr ⟨nofun, same.previousHeight⟩⟩
    · rw [ran] at same
      exact ⟨_, _, rfl, same.healthy, .inr ⟨nofun, same.previousHeight⟩⟩

end Health

section Offers

variable {State : Type} {answer : (question : Question) → State → Option question.Answer × State}
  {state : State}

theorem offered_by_fetch_iff {report : Solvency} :
    .offerSolvency report ∈ (fetch tokens height).run.asked answer state ↔
      ∃ block got transfers prepared,
        answer (.node (.block height)) state = (some (.ok block), got) ∧
        (prepare tokens height block).Ends answer got transfers prepared ∧
        .offerSolvency report ∈ (reportSolvency tokens height).run.asked answer prepared := by
  have offersNothing (block : Block) (got : State) :
      ¬ .offerSolvency report ∈ (prepare tokens height block).asked answer got :=
    fun asked => (asks_prepare block).asked asked
  rw [run_fetch, Program.mem_asked_ask, or_iff_right nofun]
  constructor
  · intro ⟨reply, got, answered, later⟩
    cases reply with
    | error failure => cases later
    | ok block =>
        rcases Program.mem_asked_bind.mp later with surveyed | ⟨_, _, _, remembered⟩
        · rcases Program.mem_asked_bind.mp surveyed with prepared | ⟨transfers, state, ends, behind⟩
          · exact absurd prepared (offersNothing block got)
          · rcases Program.mem_asked_bind.mp behind with offered | ⟨_, _, _, done⟩
            · exact ⟨block, got, transfers, state, answered, ends, offered⟩
            · cases done
        · rcases Program.mem_asked_ask.mp remembered with same | ⟨_, _, _, done⟩
          · cases same
          · cases done
  · intro ⟨block, got, transfers, prepared, answered, ends, offered⟩
    refine ⟨.ok block, got, answered, Program.mem_asked_bind.mpr (.inl ?_)⟩
    refine Program.mem_asked_bind.mpr (.inr ⟨transfers, prepared, ends, ?_⟩)
    exact Program.mem_asked_bind.mpr (.inl offered)

/-- What a fetch offers, it offers at a height at which solvency is due and at which the scanner was
not silent when the fetch began. -/
theorem of_offered_by_fetch {Rest : Type}
    {respond : (question : Question) → Rest → Option question.Answer × Rest} {world : World Rest}
    {report : Solvency}
    (offered : .offerSolvency report ∈
      (fetch tokens height).run.asked (World.answer respond) world) :
    10 ∣ height.toInt ∧ isSilent world.memory height = .ok false := by
  obtain ⟨block, got, transfers, prepared, answered, ends, offered⟩ :=
    offered_by_fetch_iff.mp offered
  obtain ⟨due, memory, known, vaults, listed, seen, inspected, remembered, audible, -⟩ :=
    offered_iff.mp offered
  have started : SameHealth world got := by
    have first : SameHealth world (World.answer respond (.node (.block height)) world).2 :=
      ⟨rfl, rfl⟩
    rw [answered] at first
    exact first
  -- The rule is applied behind the preparation, to what was true when the fetch began.
  have asks : (prepare tokens height block).Asks IsSurveying :=
    (asks_prepare block).mono fun _ preparing => .inl preparing
  have same : SameHealth world
      ((prepare tokens height block).run (World.answer respond) got).2 := started.run asks
  rw [show (prepare tokens height block).run _ _ = _ from ends] at same
  refine ⟨mod_eq_zero_iff_dvd.mp (of_decide_eq_true due), ?_⟩
  cases remembered
  unfold isSilent at audible ⊢
  rw [← same.healthy, ← same.previousHeight]
  exact audible

end Offers

end TronGateway.Scanner
