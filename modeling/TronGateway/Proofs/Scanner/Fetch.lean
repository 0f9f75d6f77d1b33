import TronGateway.Proofs.Coin.Range
import TronGateway.Proofs.Fee.Range
import TronGateway.Proofs.Solvency.Insolvent
set_option autoImplicit false

/-!
# What a fetched block comes to

Without the block nothing happens. With it the report is that of its transactions one by one, unless
the scan overflows. A scan overflows for one of four reasons only: there is no height behind the
last scanned one, a vault has more TRX than an amount holds, a partial result of the fee has no
place, or the coins of an account or a vault are more than an amount holds.
-/

namespace TronGateway

open Checked (overflow?)
open Coin (unitsOf)

namespace Fee

theorem of_firstFunded?_error {vaults : List Vault} {asset : Asset} {overflow : Overflow}
    (failed : firstFunded? asset vaults = .error overflow) :
    overflow = .add ∧ ∃ earlier vault later, vaults = earlier ++ vault :: later ∧
      (∀ other ∈ earlier, unitsOf other.coins asset = 0) ∧
      2 ^ 128 ≤ unitsOf vault.coins asset := by
  induction vaults with
  | nil => cases failed
  | cons vault rest ih =>
      rw [firstFunded?, Coin.hasFunds_eq] at failed
      by_cases fits : unitsOf vault.coins asset < 2 ^ 128
      · rw [if_pos fits, ok_bind] at failed
        by_cases funded : 0 < unitsOf vault.coins asset
        · rw [if_pos (decide_eq_true funded)] at failed
          cases failed
        · rw [if_neg (mt of_decide_eq_true funded)] at failed
          obtain ⟨add, earlier, crowded, later, rfl, unfunded, large⟩ := ih failed
          refine ⟨add, vault :: earlier, crowded, later, rfl, ?_, large⟩
          exact List.forall_mem_cons.mpr ⟨Nat.eq_zero_of_not_pos funded, unfunded⟩
      · rw [if_neg fits] at failed
        cases failed
        exact ⟨rfl, [], vault, rest, rfl, List.forall_mem_nil _, Nat.le_of_not_lt fits⟩

section Answered

variable {State : Type} {answer : (question : Question) → State → Option question.Answer × State}
  {tokens : List Token} {state after : State} {overflow : Overflow}

theorem of_overflows_refAddress
    (answered : ∀ question state, ∃ reply after, answer question state = (some reply, after))
    (ran : refAddress.run.run answer state = (.overflowed overflow, after)) :
    ∃ memory known vaults listed, answer .memory state = (some memory, known) ∧
      memory.refAddress = none ∧ answer (.bridge .vaults) known = (some (.ok vaults), listed) ∧
      firstFunded? Asset.trx vaults = .error overflow := by
  have remembers : Action.Concludes answer Action.memory :=
    Action.concludes_query (answered .memory)
  have lists := Action.concludes_bridge (answered (.bridge .vaults))
  have keeps (address : String) :
      Action.Concludes answer (Action.remember (.refAddress address)) :=
    Action.concludes_query (answered (.remember (.refAddress address)))
  unfold refAddress at ran
  obtain ⟨memory, known, remembered, ran⟩ := remembers.overflows_bind.mp ran
  cases unknown : memory.refAddress with
  | some address =>
      rw [unknown] at ran
      cases ran
  | none =>
      rw [unknown] at ran
      obtain ⟨vaults, listed, found, ran⟩ := lists.overflows_bind.mp ran
      refine ⟨memory, known, vaults, listed, Action.gives_memory.mp remembered, unknown,
        Action.gives_bridge.mp found, ?_⟩
      rcases Action.overflows_bind.mp ran with failed | ⟨funded, between, -, ran⟩
      · exact (Action.overflows_check.mp failed).1
      · cases funded with
        | none => cases ran
        | some vault =>
            have reads : Action.Concludes answer (liftM (KeyText.address vault.pubKey)) :=
              Action.concludes_lift _
            obtain ⟨address, last, -, ran⟩ := reads.overflows_bind.mp ran
            obtain ⟨done, later, -, ran⟩ := (keeps address).overflows_bind.mp ran
            cases ran

theorem concludes_estimates
    (answered : ∀ question state, ∃ reply after, answer question state = (some reply, after))
    (address parameter : String) (tokens : List Token) :
    Action.Concludes answer (estimates address parameter tokens) := by
  induction tokens with
  | nil => exact Action.concludes_pure _
  | cons token rest ih =>
      apply Action.concludes_bind (Action.concludes_node (answered _))
      intro energy
      apply Action.concludes_bind ih
      intro others
      exact Action.concludes_pure _

/-- Behind the reference address nothing overflows before all is told. -/
theorem tells_of_overflows_price
    (answered : ∀ question state, ∃ reply after, answer question state = (some reply, after))
    (ran : (price tokens).run.run answer state = (.overflowed overflow, after)) :
    refAddress.run.run answer state = (.overflowed overflow, after) ∨
      ∃ parameters estimates told, Tells answer tokens state parameters estimates told := by
  have priced := Action.concludes_node (answered (.node .chainParameters))
  unfold price at ran
  refine (Action.overflows_bind.mp ran).imp_right ?_
  rintro ⟨address, known, addressed, ran⟩
  obtain ⟨parameters, between, asked, ran⟩ := priced.overflows_bind.mp ran
  rw [Action.gives_node] at asked
  cases tokens with
  | nil =>
      exact ⟨parameters, [], between, address, known, between, addressed, asked,
        .inl ⟨rfl, rfl, rfl⟩⟩
  | cons token rest =>
      change ((liftM (Abi.encodeTransfer address Amount.zero) >>= fun call =>
        estimates address (Hex.encode (call.drop 4)) (token :: rest) >>= fun found =>
          Action.check (maxEnergy found)) >>= fun spent =>
            Action.check (compute parameters true spent) : Action Int64).run.run answer _ = _ at ran
      have encodes : Action.Concludes answer (liftM (Abi.encodeTransfer address Amount.zero)) :=
        Action.concludes_lift _
      rw [bind_assoc] at ran
      obtain ⟨call, last, encoded, ran⟩ := encodes.overflows_bind.mp ran
      obtain ⟨made, rfl⟩ := Action.gives_lift.mp encoded
      have estimating := concludes_estimates answered address (Hex.encode (call.drop 4))
        (token :: rest)
      rw [bind_assoc] at ran
      obtain ⟨found, told, estimated, -⟩ := estimating.overflows_bind.mp ran
      exact ⟨parameters, found, told, address, known, _, addressed, asked,
        .inr ⟨nofun, call, made, gives_estimates.mp estimated⟩⟩

end Answered

variable {Rest : Type} {respond : (question : Question) → Rest → Option question.Answer × Rest}
  {tokens : List Token} {height : Int64} {world after : World Rest} {overflow : Overflow}

theorem not_overflows_conclude (quoted : Option Quote) :
    conclude respond world quoted ≠ (.overflowed overflow, after) := by
  cases quoted with
  | none => nofun
  | some quote =>
      unfold conclude
      dsimp only
      rcases respond (.publishFee quote.message) world.rest with ⟨_ | failure | _, rest⟩
      · nofun
      · nofun
      · nofun

theorem of_overflows_update
    (answered : ∀ question world, ∃ reply after,
      World.answer respond question world = (some reply, after))
    (ran : (update tokens height).run.run (World.answer respond) world =
      (.overflowed overflow, after)) :
    refAddress.run.run (World.answer respond) world = (.overflowed overflow, after) ∨
      ∃ parameters estimates told,
        Tells (World.answer respond) tokens world parameters estimates told ∧
        overflow? (stages parameters tokens estimates) = some overflow := by
  have told : refAddress.run.run (World.answer respond) world = (.overflowed overflow, after) ∨
      ∃ parameters estimates told,
        Tells (World.answer respond) tokens world parameters estimates told := by
    rw [update_eq] at ran
    rcases Action.overflows_bind.mp ran with priced | ⟨fee, between, gives, -⟩
    · exact tells_of_overflows_price answered priced
    · obtain ⟨parameters, found, tells, -⟩ := of_gives_price gives
      exact .inr ⟨parameters, found, between, tells⟩
  refine told.imp_right ?_
  rintro ⟨parameters, estimates, told, tells⟩
  refine ⟨parameters, estimates, told, tells, ?_⟩
  cases first : overflow? (stages parameters tokens estimates) with
  | none =>
      obtain ⟨quoted, -, concluded⟩ := run_update_of_fits height tells first
      rw [concluded] at ran
      exact absurd ran (not_overflows_conclude quoted)
  | some found =>
      rw [run_update_of_overflows height tells first] at ran
      cases ran
      rfl

end Fee

namespace Scanner

/-! ### What a look at solvency overflows at -/

section Looking

variable {State : Type} {answer : (question : Question) → State → Option question.Answer × State}
  {tokens : List Token} {fee : Amount} {state after : State} {overflow : Overflow}

theorem of_overflows_inspect
    (answered : ∀ call state, ∃ reply after, answer (.node call) state = (some reply, after))
    {vault : Vault}
    (ran : (inspect tokens fee vault).run answer state = (.overflowed overflow, after)) :
    ∃ address coins between, KeyText.address vault.pubKey = .ok address ∧
      Action.Gives answer (accountCoins tokens address) state coins between ∧
      SolvencyCheck.isSolvent coins vault fee = .error overflow := by
  unfold inspect at ran
  cases key : KeyText.address vault.pubKey with
  | error failure =>
      rw [key] at ran
      cases ran
  | ok address =>
      rw [key] at ran
      rcases Program.overflows_bind.mp ran with account | ⟨result, between, ended, ran⟩
      · exact absurd account (concludes_accountCoins answered tokens address).not_overflows
      · cases result with
        | error failure => cases ran
        | ok coins =>
            rcases Program.overflows_bind.mp ran with failed | ⟨solvent, last, -, ran⟩
            · exact ⟨address, coins, between, rfl, ended, (Program.overflows_check.mp failed).1⟩
            · cases ran

theorem of_overflows_inspectAll
    (answered : ∀ call state, ∃ reply after, answer (.node call) state = (some reply, after))
    {vaults : List Vault}
    (ran : (inspectAll tokens fee vaults).run answer state = (.overflowed overflow, after)) :
    ∃ vault ∈ vaults, ∃ address coins before between, KeyText.address vault.pubKey = .ok address ∧
      Action.Gives answer (accountCoins tokens address) before coins between ∧
      SolvencyCheck.isSolvent coins vault fee = .error overflow := by
  induction vaults generalizing state with
  | nil => cases ran
  | cons vault rest ih =>
      rcases Program.overflows_bind.mp ran with one | ⟨finding, between, -, ran⟩
      · obtain ⟨address, coins, between, key, account, failed⟩ := of_overflows_inspect answered one
        exact ⟨vault, List.mem_cons_self, address, coins, state, between, key, account, failed⟩
      · rcases Program.overflows_bind.mp ran with others | ⟨findings, last, -, ran⟩
        · obtain ⟨found, member, overflows⟩ := ih others
          exact ⟨found, List.mem_cons_of_mem _ member, overflows⟩
        · cases ran

theorem not_overflows_offerAll (reports : List Solvency) :
    (SolvencyCheck.offerAll reports).run answer state ≠ (.overflowed overflow, after) := by
  induction reports generalizing state with
  | nil => nofun
  | cons report rest ih =>
      change (Program.ask (.offerSolvency report) fun _ => SolvencyCheck.offerAll rest).run
        answer state ≠ _
      rw [Action.run_ask]
      rcases answer (.offerSolvency report) state with ⟨_ | offer, between⟩
      · nofun
      · exact ih

end Looking

theorem of_isSilent_error {memory : Memory} {height : Int64} {overflow : Overflow}
    (failed : isSilent memory height = .error overflow) :
    overflow = .add ∧ memory.healthy = false ∧ memory.previousHeight = Int64.maxValue := by
  cases health : memory.healthy with
  | true =>
      rw [isSilent_of_healthy health] at failed
      cases failed
  | false =>
      rw [isSilent_of_unhealthy health] at failed
      by_cases fits : memory.previousHeight.toInt + 1 < 2 ^ 63
      · rw [if_pos fits] at failed
        cases failed
      · have high := memory.previousHeight.toInt_lt
        have highest : memory.previousHeight.toInt = 2 ^ 63 - 1 := by omega
        rw [if_neg fits] at failed
        cases failed
        exact ⟨rfl, rfl, Int64.toInt_inj.mp highest⟩

theorem audible_of_isSilent {memory : Memory} {height : Int64}
    (heard : isSilent memory height = .ok false) :
    memory.healthy = true ∨ memory.previousHeight.toInt + 1 ≠ height.toInt := by
  cases health : memory.healthy with
  | true => exact .inl rfl
  | false =>
      rw [isSilent_of_unhealthy health] at heard
      by_cases fits : memory.previousHeight.toInt + 1 < 2 ^ 63
      · rw [if_pos fits] at heard
        exact .inr (of_decide_eq_false (Except.ok.inj heard))
      · rw [if_neg fits] at heard
        cases heard

variable {Rest : Type} {surroundings : Surroundings Rest} {tokens : List Token} {height : Int64}
  {block : Block} {world after : World Rest} {overflow : Overflow}

/-- The node tells the same of an account whenever it is asked. -/
theorem gives_accountCoins {address : String} {coins : List Coin} {between : World Rest}
    (account : Action.Gives surroundings.answer (accountCoins tokens address) world coins between)
    (other : World Rest) :
    Action.Gives surroundings.answer (accountCoins tokens address) other coins other := by
  have asks := asks_accountCoins address tokens
  have alike : ∀ question (first second : World Rest), IsNodeCall question →
      (surroundings.answer question first).1 = (surroundings.answer question second).1 := by
    intro question first second isCall
    cases question with
    | node call => rfl
    | _ => cases isCall
  have stays : ∀ question (state : World Rest), IsNodeCall question → state = other →
      (surroundings.answer question state).2 = other := by
    intro question state isCall same
    cases question with
    | node call => exact same
    | _ => cases isCall
  have kept := asks.keeps stays rfl
  have outcome := asks.outcome_eq alike world other
  unfold Action.Gives at account
  rw [account] at outcome
  exact Prod.ext outcome.symm kept

theorem of_overflows_reportSolvency
    (ran : (reportSolvency tokens height).run.run surroundings.answer world =
      (.overflowed overflow, after)) :
    10 ∣ height.toInt ∧ (isSilent world.memory height = .error overflow ∨
      isSilent world.memory height = .ok false ∧ ∃ vaults listed,
        surroundings.answer (.bridge .vaults) world = (some (.ok vaults), listed) ∧
        ∃ vault ∈ vaults, ∃ address coins before between,
          KeyText.address vault.pubKey = .ok address ∧
          Action.Gives surroundings.answer (accountCoins tokens address) before coins between ∧
          SolvencyCheck.isSolvent coins vault (feeOf world.memory) = .error overflow) := by
  have remembers : Action.Concludes surroundings.answer Action.memory :=
    Action.concludes_query (surroundings.answered .memory)
  have lists := Action.concludes_bridge (surroundings.answered (.bridge .vaults))
  unfold reportSolvency at ran
  by_cases due : SolvencyCheck.isDue height = true
  · rw [if_pos due] at ran
    refine ⟨mod_eq_zero_iff_dvd.mp (of_decide_eq_true due), ?_⟩
    obtain ⟨memory, known, remembered, ran⟩ := remembers.overflows_bind.mp ran
    cases Action.gives_memory.mp remembered
    rcases Action.overflows_bind.mp ran with failed | ⟨silent, last, quiet, ran⟩
    · exact .inl (Action.overflows_check.mp failed).1
    · obtain ⟨heard, rfl⟩ := Action.gives_check.mp quiet
      cases silent with
      | true => cases ran
      | false =>
          obtain ⟨vaults, listed, answered, ran⟩ := lists.overflows_bind.mp ran
          refine .inr ⟨heard, vaults, listed, Action.gives_bridge.mp answered, ?_⟩
          rcases Action.overflows_bind.mp ran with looking | ⟨found, seen, -, ran⟩
          · exact of_overflows_inspectAll (fun call => surroundings.answered (.node call))
              (Action.overflows_activity.mp looking)
          · exact absurd (Action.overflows_activity.mp ran) (not_overflows_offerAll _)
  · rw [if_neg due] at ran
    cases ran

/-! ### Blocks -/

/-- The world in which a scan looks at solvency. -/
def refreshed (surroundings : Surroundings Rest) (tokens : List Token) (height : Int64)
    (block : Block) (world : World Rest) : World Rest :=
  ((refreshFee tokens height).run surroundings.answer (Fee.atRefresh world block height)).2

/-- What a scan can overflow at: the height behind the last scanned one while the scanner is
unhealthy; the TRX of a vault, on the way to the reference address; a partial result of the fee; or,
at a look at solvency, the coins of an asset that a vault owes, in the vault or in its account. -/
inductive Excess (surroundings : Surroundings Rest) (tokens : List Token) (height : Int64)
    (block : Block) (world : World Rest) : Overflow → Prop where
  | nextHeight (due : 10 ∣ height.toInt) (unhealthy : world.memory.healthy = false)
      (highest : world.memory.previousHeight = Int64.maxValue) :
      Excess surroundings tokens height block world .add
  | funds {vaults earlier later : List Vault} {vault : Vault} {listed : World Rest}
      (due : 30 ∣ height.toInt) (unknown : world.memory.refAddress = none)
      (answered : surroundings.answer (.bridge .vaults) (Fee.atRefresh world block height) =
        (some (.ok vaults), listed))
      (split : vaults = earlier ++ vault :: later)
      (unfunded : ∀ other ∈ earlier, unitsOf other.coins Asset.trx = 0)
      (large : 2 ^ 128 ≤ unitsOf vault.coins Asset.trx) :
      Excess surroundings tokens height block world .add
  | fee {parameters : ChainParameters} {estimates : List Int64} {told : World Rest}
      {overflow : Overflow} (due : 30 ∣ height.toInt)
      (tells : Fee.Tells surroundings.answer tokens (Fee.atRefresh world block height) parameters
        estimates told)
      (first : overflow? (Fee.stages parameters tokens estimates) = some overflow) :
      Excess surroundings tokens height block world overflow
  | coins {vaults : List Vault} {vault : Vault} {listed : World Rest} {address : String}
      {coins : List Coin} {asset : Asset} (due : 10 ∣ height.toInt)
      (audible : world.memory.healthy = true ∨
        world.memory.previousHeight.toInt + 1 ≠ height.toInt)
      (answered : surroundings.answer (.bridge .vaults)
        (refreshed surroundings tokens height block world) = (some (.ok vaults), listed))
      (member : vault ∈ vaults) (key : KeyText.address vault.pubKey = .ok address)
      (account : Action.Gives surroundings.answer (accountCoins tokens address) world coins world)
      (owed : SolvencyCheck.Owes vault asset)
      (large : ¬ SolvencyCheck.IsSummed coins vault asset) :
      Excess surroundings tokens height block world .add

theorem excess_of_refreshFee
    (ran : (refreshFee tokens height).run surroundings.answer (Fee.atRefresh world block height) =
      (.overflowed overflow, after)) :
    Excess surroundings tokens height block world overflow := by
  unfold refreshFee at ran
  by_cases due : height % feeInterval = 0
  · have divided : 30 ∣ height.toInt := mod_eq_zero_iff_dvd.mp due
    rw [if_pos due] at ran
    rcases Program.overflows_bind.mp ran with refresh | ⟨result, between, -, ran⟩
    · rcases Fee.of_overflows_update surroundings.answered refresh with
        search | ⟨parameters, estimates, told, tells, first⟩
      · obtain ⟨memory, known, vaults, listed, remembered, unknown, answered, failed⟩ :=
          Fee.of_overflows_refAddress surroundings.answered search
        obtain ⟨rfl, earlier, vault, later, split, unfunded, large⟩ :=
          Fee.of_firstFunded?_error failed
        cases remembered
        exact .funds divided unknown answered split unfunded large
      · exact .fee divided tells first
    · cases ran
  · rw [if_neg due] at ran
    cases ran

theorem excess_of_reportSolvency
    (refresh : Refreshed height (Fee.atRefresh world block height)
      (refreshed surroundings tokens height block world))
    (ran : (reportSolvency tokens height).run.run surroundings.answer
      (refreshed surroundings tokens height block world) = (.overflowed overflow, after)) :
    Excess surroundings tokens height block world overflow := by
  have healthy : (refreshed surroundings tokens height block world).memory.healthy =
      world.memory.healthy := refresh.healthy
  have previous : (refreshed surroundings tokens height block world).memory.previousHeight =
      world.memory.previousHeight := refresh.previousHeight
  obtain ⟨due, failed | ⟨heard, vaults, listed, answered, vault, member, address, coins, before,
    between, key, account, failed⟩⟩ := of_overflows_reportSolvency ran
  · obtain ⟨rfl, unhealthy, highest⟩ := of_isSilent_error failed
    rw [healthy] at unhealthy
    rw [previous] at highest
    exact .nextHeight due unhealthy highest
  · have audible := audible_of_isSilent heard
    rw [healthy, previous] at audible
    obtain ⟨rfl, asset, listed, large⟩ := SolvencyCheck.of_coversAll_error failed
    exact .coins due audible answered member key (gives_accountCoins account world)
      (SolvencyCheck.mem_owedAssets_iff.mp listed) large

theorem excess_of_scan
    (ran : (scan tokens height block).run surroundings.answer world =
      (.overflowed overflow, after)) :
    Excess surroundings tokens height block world overflow := by
  rw [run_scan] at ran
  rcases Program.overflows_bind.mp ran with refresh | ⟨done, between, ended, ran⟩
  · exact excess_of_refreshFee refresh
  · have behind : refreshed surroundings tokens height block world = between :=
      congrArg Prod.snd ended
    obtain ⟨_, same, refresh⟩ | ⟨found, last, overflowed⟩ :=
      refreshFee_ends_or_overflows surroundings tokens height (Fee.atRefresh world block height)
    · cases ended.symm.trans same
      rw [← behind] at refresh
      rcases Program.overflows_bind.mp ran with looking | ⟨result, last, -, ran⟩
      · rw [← behind] at looking
        exact excess_of_reportSolvency refresh looking
      · cases ran
    · cases ended.symm.trans overflowed

/-- When the node has no block, its error is the result and nothing changes. Otherwise the result is
the report of the transactions one by one, whatever else goes wrong, and the memory and the queues
gain what the height is for, unless the scan overflows at something that is too large. What is
reported of a transaction depends on no other one, on no block and on nothing that is remembered. -/
theorem fetch_reports_each_transaction (surroundings : Surroundings Rest) (tokens : List Token)
    (height : Int64) (world : World Rest) :
    (∀ tx other, Ingest.emitted surroundings tokens height world tx =
      Ingest.emitted surroundings tokens height other tx) ∧
    match surroundings.node (.block height) with
    | .error failure =>
      (fetch tokens height).run.run surroundings.answer world =
        (.finished (.error failure), world)
    | .ok block =>
      (∃ overflow after, Excess surroundings tokens height block world overflow ∧
          (fetch tokens height).run.run surroundings.answer world =
            (.overflowed overflow, after)) ∨
        ∃ after,
          (fetch tokens height).run.run surroundings.answer world =
            (.finished (.ok ⟨"TRON", block.transactions.flatMap
              (Ingest.emitted surroundings tokens height world), false, false⟩), after) ∧
          Scanned height block world after := by
  refine ⟨fun tx => Ingest.emitted_eq tx world, ?_⟩
  have asked := surroundings.answer_node (.block height) world
  unfold fetch
  cases listed : surroundings.node (.block height) with
  | error failure =>
      rw [listed] at asked
      apply Action.run_bind_of_error
      change (Program.ask (.node (.block height)) Program.done).run surroundings.answer world = _
      rw [Action.run_ask, asked]
      rfl
  | ok block =>
      rw [listed] at asked
      dsimp only
      rw [Action.run_bind_of_gives (Action.gives_node.mpr asked)]
      rcases scan_ends_or_overflows surroundings tokens height block world with
        ⟨overflow, after, ran⟩ | ⟨after, ended, scanned⟩
      · exact .inl ⟨overflow, after, excess_of_scan ran, Program.run_bind_of_overflows ran⟩
      · exact .inr ⟨after, Program.run_bind_of_ends ended, scanned⟩

def behindHighest : World Unit := ⟨⟨[], 0, none, false, Int64.maxValue⟩, [], [], ()⟩

/-- Behind the highest block there is no next height, so that an unhealthy scanner overflows where
solvency is due. It has asked for neither the fee nor any coins then. -/
theorem fetch_overflows_behind_highest :
    (fetch [] Int64.maxValue).run.run emptyBlocks.answer (.opening ()) =
      (.finished (.ok ⟨"TRON", [], false, false⟩),
        { behindHighest with memory := behindHighest.memory.apply (.health true) }) ∧
    emptyBlocks.node (.block 10) = .ok ⟨"", none, []⟩ ∧
    (fetch [] 10).run.run emptyBlocks.answer behindHighest = (.overflowed .add, behindHighest) ∧
    (fetch [] 10).run.asked emptyBlocks.answer behindHighest = [.node (.block 10), .memory] :=
  ⟨rfl, rfl, rfl, rfl⟩

end Scanner
end TronGateway
