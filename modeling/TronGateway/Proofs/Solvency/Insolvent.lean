import TronGateway.Proofs.Number.Amount
import TronGateway.Proofs.Solvency.Queue
import TronGateway.Proofs.Solvency.Verdict
set_option autoImplicit false

/-!
# An insolvent vault is never hidden

Every vault whose account could be read and does not hold what the vault owes is reported, whatever
is the matter with the other vaults. What can hide it is a sum beyond the largest amount, or, while
the scanner is unhealthy, that there is no height behind the last scanned one.
-/

namespace TronGateway

open Rehearsal (Queue)

/-- The coins of every asset have a sum. -/
def Coin.Fits (coins : List Coin) : Prop :=
  ∀ asset, ∃ sum, Coin.total coins asset = .ok sum

theorem Coin.Fits.isBounded {coins : List Coin} (fits : Coin.Fits coins) :
    Coin.IsBounded coins := by
  intro asset
  obtain ⟨sum, total⟩ := fits asset
  rw [← Coin.total_eq_ok_iff.mp total]
  exact sum.bounded

namespace SolvencyCheck

theorem isSolvent_ok {account : List Coin} {vault : Vault} (fits : Coin.Fits account)
    (held : Coin.Fits vault.coins) (pending : Coin.Fits vault.pendingOutbound) (fee : Amount) :
    ∃ solvent, isSolvent account vault fee = .ok solvent :=
  ⟨_, isSolvent_eq account fee held.isBounded pending.isBounded fun asset _ =>
    fits.isBounded asset⟩

theorem reports_cases (height : Int64) (found : List Finding) (healthy : Bool) :
    (∀ finding ∈ found, finding.solvent = true) ∧
        reports height found healthy = found.map (Finding.toReport height) ∨
      reports height found healthy =
        (found.filter fun finding => !finding.solvent).map (Finding.toReport height) := by
  cases resumes : (!healthy && found.all Finding.solvent) with
  | true =>
      obtain ⟨unhealthy, all⟩ := (Bool.and_eq_true _ _).mp resumes
      refine .inl ⟨List.all_eq_true.mp all, ?_⟩
      unfold reports
      simp only [resumes, Bool.true_or, List.filter_true]
  | false =>
      refine .inr ?_
      unfold reports
      simp only [resumes, Bool.false_or]

theorem filter_insolvent_reports (height : Int64) (found : List Finding) (healthy : Bool) :
    (reports height found healthy).filter (fun report => !report.solvent) =
      (found.filter fun finding => !finding.solvent).map (Finding.toReport height) := by
  have commutes : ∀ some : List Finding,
      (some.map (Finding.toReport height)).filter (fun report => !report.solvent) =
        (some.filter fun finding => !finding.solvent).map (Finding.toReport height) :=
    fun some => List.filter_map
  rcases reports_cases height found healthy with ⟨-, all⟩ | insolvent
  · rw [all, commutes]
  · rw [insolvent, commutes, List.filter_filter]
    simp only [Bool.and_self]

theorem reports_alike (height : Int64) (found : List Finding) (healthy : Bool) :
    (∀ report ∈ reports height found healthy, report.solvent = true) ∨
      ∀ report ∈ reports height found healthy, report.solvent = false := by
  rcases reports_cases height found healthy with ⟨solvent, all⟩ | insolvent
  · left
    intro report member
    rw [all] at member
    obtain ⟨finding, found, rfl⟩ := List.mem_map.mp member
    exact solvent finding found
  · right
    intro report member
    rw [insolvent] at member
    obtain ⟨finding, found, rfl⟩ := List.mem_map.mp member
    exact (Bool.not_eq_true' _).mp (List.mem_filter.mp found).2

end SolvencyCheck

namespace Scanner

/-! ### Every vault is looked at -/

section Looking

variable {State : Type}
  {answer : (question : Question) → State → Option question.Answer × State}
  {tokens : List Token} {fee : Amount}

theorem concludes_tokenBalances
    (answered : ∀ call state, ∃ reply after, answer (.node call) state = (some reply, after))
    (address : String) (tokens : List Token) :
    Action.Concludes answer (tokenBalances address tokens) := by
  induction tokens with
  | nil => exact Action.concludes_pure _
  | cons token rest ih =>
      have asks (contract data : String) :
          Action.Concludes answer (Whitelist.callContract contract data) := by
        apply Action.concludes_bind (Action.concludes_node (answered _))
        intro reply
        rcases reply with ⟨_ | text, _ | failure⟩
        · exact Action.concludes_throw _
        · exact Action.concludes_throw _
        · exact Action.concludes_pure _
        · exact Action.concludes_throw _
      have one : Action.Concludes answer (tokenBalance address token) := by
        apply Action.concludes_bind (Action.concludes_lift _)
        intro call
        apply Action.concludes_bind (Action.concludes_lift _)
        intro contract
        apply Action.concludes_bind (asks _ _)
        intro text
        apply Action.concludes_bind (Action.concludes_lift _)
        intro amount
        exact Action.concludes_pure _
      apply Action.concludes_bind one
      intro coin
      apply Action.concludes_bind ih
      intro coins
      exact Action.concludes_pure _

theorem concludes_accountCoins
    (answered : ∀ call state, ∃ reply after, answer (.node call) state = (some reply, after))
    (tokens : List Token) (address : String) :
    Action.Concludes answer (accountCoins tokens address) := by
  apply Action.concludes_bind (Action.concludes_node (answered _))
  intro balance
  apply Action.concludes_bind (concludes_tokenBalances answered address tokens)
  intro coins
  exact Action.concludes_pure _

theorem looks_of_fits
    (answered : ∀ call state, ∃ reply after, answer (.node call) state = (some reply, after))
    (accounts : ∀ address state coins after,
      Action.Gives answer (accountCoins tokens address) state coins after → Coin.Fits coins)
    (fee : Amount) {vault : Vault} (held : Coin.Fits vault.coins)
    (pending : Coin.Fits vault.pendingOutbound)
    (state : State) : ∃ sight after, Looks answer tokens fee vault state sight after := by
  cases key : KeyText.address vault.pubKey with
  | error failure => exact ⟨.unread, state, .unreadableKey key⟩
  | ok address =>
      obtain ⟨result, after, ended⟩ := concludes_accountCoins answered tokens address state
      cases result with
      | error failure => exact ⟨.unread, after, .unreadableAccount key ended⟩
      | ok coins =>
          have fits := accounts address state coins after ended
          obtain ⟨solvent, verdict⟩ := SolvencyCheck.isSolvent_ok fits held pending fee
          exact ⟨.read coins solvent, after, .read key ended verdict⟩

theorem looksAll_of_fits
    (answered : ∀ call state, ∃ reply after, answer (.node call) state = (some reply, after))
    (accounts : ∀ address state coins after,
      Action.Gives answer (accountCoins tokens address) state coins after → Coin.Fits coins)
    (fee : Amount) {vaults : List Vault}
    (fits : ∀ vault ∈ vaults, Coin.Fits vault.coins ∧ Coin.Fits vault.pendingOutbound)
    (state : State) :
    ∃ seen after, seen.map Prod.fst = vaults ∧ LooksAll answer tokens fee seen state after := by
  induction vaults generalizing state with
  | nil => exact ⟨[], state, rfl, rfl⟩
  | cons vault rest ih =>
      obtain ⟨⟨held, pending⟩, others⟩ := List.forall_mem_cons.mp fits
      obtain ⟨sight, between, one⟩ := looks_of_fits answered accounts fee held pending state
      obtain ⟨seen, after, same, all⟩ := ih others between
      exact ⟨(vault, sight) :: seen, after, congrArg (vault :: ·) same, between, one, all⟩

def ofNode (node : (call : NodeCall) → Except Error call.Answer) :
    (question : Question) → Unit → Option question.Answer × Unit
  | .node call, _ => (some (node call), ())
  | _, _ => (none, ())

def sightOf (node : (call : NodeCall) → Except Error call.Answer) (tokens : List Token)
    (fee : Amount) (vault : Vault) : Sight :=
  match (inspect tokens fee vault).run (ofNode node) () with
  | (.finished (some finding), _) => .read finding.coins finding.solvent
  | _ => .unread

theorem Looks.sightOf_eq {node : (call : NodeCall) → Except Error call.Answer}
    (fixed : ∀ call state, (answer (.node call) state).1 = some (node call)) {vault : Vault}
    {sight : Sight} {state after : State}
    (looks : Looks answer tokens fee vault state sight after) :
    sight = sightOf node tokens fee vault := by
  have ended : (inspect tokens fee vault).Ends answer state (sight.finding? vault) after :=
    ends_inspect.mpr ⟨sight, looks, rfl⟩
  have alike : ∀ question state place, IsNodeCall question →
      (answer question state).1 = (ofNode node question place).1 := by
    intro question state place isCall
    cases question with
    | node call => exact fixed call state
    | _ => cases isCall
  -- Only the node is asked about a vault, so that both runs get the same replies.
  have asks : (inspect tokens fee vault).Asks IsNodeCall := asks_inspect vault
  have outcome := asks.outcome_eq alike state ()
  rw [show (inspect tokens fee vault).run answer state = _ from ended] at outcome
  unfold sightOf
  rcases ran : (inspect tokens fee vault).run (ofNode node) () with ⟨result, rest⟩
  rw [ran] at outcome
  cases (outcome : Outcome.finished (sight.finding? vault) = result)
  cases sight with
  | unread => rfl
  | read coins solvent => rfl

theorem LooksAll.seen_eq {node : (call : NodeCall) → Except Error call.Answer}
    (fixed : ∀ call state, (answer (.node call) state).1 = some (node call))
    {seen : List (Vault × Sight)} {state after : State}
    (looks : LooksAll answer tokens fee seen state after) :
    seen = (seen.map Prod.fst).map fun vault => (vault, sightOf node tokens fee vault) := by
  induction seen generalizing state with
  | nil => rfl
  | cons first rest ih =>
      obtain ⟨between, one, all⟩ := looks
      rw [List.map_cons, List.map_cons, ← ih all, ← one.sightOf_eq fixed]

end Looking

/-! ### What is reported of it -/

/-- The statement about a vault of which the account was read and does not hold what it owes. -/
def Sight.insolvency? (height : Int64) (vault : Vault) : Sight → Option Solvency
  | .read coins false => some ⟨height, "TRON", vault.pubKey, coins, false⟩
  | _ => none

theorem insolvent_findings (height : Int64) (seen : List (Vault × Sight)) :
    ((findings seen).filter fun finding => !finding.solvent).map
        (SolvencyCheck.Finding.toReport height) =
      seen.filterMap fun sight => sight.2.insolvency? height sight.1 := by
  unfold findings
  induction seen with
  | nil => rfl
  | cons first rest ih =>
      obtain ⟨vault, sight⟩ := first
      rcases sight with _ | ⟨coins, _ | _⟩
      · exact ih
      · exact congrArg (_ :: ·) ih
      · exact ih

variable {Rest : Type} {others : (question : Question) → Rest → Option question.Answer × Rest}
  {tokens : List Token} {height : Int64} {world told : World (Rest × Queue Solvency)}
  {vaults : List Vault}

/-- At a height at which solvency is due and the scanner is not silent, every vault is seen, the
statements of insolvency are those of the vaults that were read and found insolvent, in order and
with their own coins, no call states solvency and insolvency, and the queue gets the first
statements that it has room for. What is seen of a vault depends on no other vault, if the node
answers by the call alone. -/
theorem insolvent_vaults_are_offered (due : 10 ∣ height.toInt)
    (audible : world.memory.healthy = true ∨
      world.memory.previousHeight.toInt + 1 < 2 ^ 63 ∧
        world.memory.previousHeight.toInt + 1 ≠ height.toInt)
    (listed : World.answer (onQueue others) (.bridge .vaults) world = (some (.ok vaults), told))
    (answered : ∀ call rest, ∃ reply after, others (.node call) rest = (some reply, after))
    (fits : ∀ vault ∈ vaults, Coin.Fits vault.coins ∧ Coin.Fits vault.pendingOutbound)
    (accounts : ∀ address state coins after, Action.Gives (World.answer (onQueue others))
      (accountCoins tokens address) state coins after → Coin.Fits coins) :
    ∃ seen inspected after offered,
      seen.map Prod.fst = vaults ∧
      LooksAll (World.answer (onQueue others)) tokens (feeOf world.memory) seen told inspected ∧
      Action.Gives (World.answer (onQueue others)) (reportSolvency tokens height) world () after ∧
      offers (World.answer (onQueue others)) (reportSolvency tokens height).run world = offered ∧
      (offered.filter fun report => !report.solvent) =
        (seen.filterMap fun sight => sight.2.insolvency? height sight.1) ∧
      ((∀ report ∈ offered, report.solvent = true) ∨
        ∀ report ∈ offered, report.solvent = false) ∧
      (world.queue.isOpen = false → after.queue = world.queue) ∧
      (world.queue.isOpen = true → after.queue = { world.queue with
        items := world.queue.items ++
          offered.take (world.queue.capacity - world.queue.items.length) }) ∧
      ∀ node, (∀ call rest, (others (.node call) rest).1 = some (node call)) →
        seen = vaults.map fun vault => (vault, sightOf node tokens (feeOf world.memory) vault) := by
  have isDue : SolvencyCheck.isDue height = true :=
    decide_eq_true (mod_eq_zero_iff_dvd.mpr due)
  have heard : isSilent world.memory height = .ok false := by
    rcases audible with healthy | ⟨inRange, other⟩
    · exact isSilent_of_healthy healthy height
    · cases health : world.memory.healthy with
      | true => exact isSilent_of_healthy health height
      | false => rw [isSilent_of_unhealthy health, if_pos inRange, decide_eq_false other]
  have replies : ∀ call state, ∃ reply after,
      World.answer (onQueue others) (.node call) state = (some reply, after) := by
    intro call state
    obtain ⟨reply, rest, replied⟩ := answered call state.rest.1
    refine ⟨reply, { state with rest := (rest, state.queue) }, ?_⟩
    change ((others (.node call) state.rest.1).1, { state with
      rest := ((others (.node call) state.rest.1).2, state.queue) }) = _
    rw [replied]
  obtain ⟨seen, inspected, same, looks⟩ := looksAll_of_fits replies accounts (feeOf world.memory)
    fits told
  obtain ⟨after, gives, filled, offered⟩ := gives_reportSolvency isDue heard listed same looks
  refine ⟨seen, inspected, after, _, same, looks, gives, offered, ?_, ?_, ?_, ?_, ?_⟩
  · rw [SolvencyCheck.filter_insolvent_reports, insolvent_findings]
  · exact SolvencyCheck.reports_alike _ _ _
  · intro closed
    rw [filled, Queue.fill_of_closed closed]
  · intro isOpen
    rw [filled, Queue.fill_of_open isOpen]
  · intro node fixed
    rw [← same]
    refine looks.seen_eq ?_
    intro call state
    exact fixed call state.rest.1

/-! A vault that owes more than its account holds, beside one that cannot be read. -/

def shortVault : Vault := { coveredVault with coins := [Coin.ofTrx ⟨2000, by decide⟩] }

def tenSun : (call : NodeCall) → Except Error call.Answer
  | .balance _ => .ok 10
  | _ => .error .settings

def tenSunRest (vaults : List Vault) : (question : Question) → Unit → Option question.Answer × Unit
  | .node call, _ => (some (tenSun call), ())
  | .bridge .vaults, _ => (some (.ok vaults), ())
  | _, _ => (none, ())

abbrev tenSunAnswer (vaults : List Vault) : (question : Question) →
    World (Unit × Queue Solvency) → Option question.Answer × World (Unit × Queue Solvency) :=
  World.answer (onQueue (tenSunRest vaults))

def shortReport : Solvency :=
  ⟨10, "TRON", shortVault.pubKey, [Coin.ofTrx (Amount.ofSun (Amount.ofUInt64 10))], false⟩

def roomForOne (memory : Memory) : World (Unit × Queue Solvency) :=
  ⟨memory, [], [], (), Queue.empty 1⟩

theorem fits_singleton (coin : Coin) : Coin.Fits [coin] := by
  intro asset
  have bounded : Coin.IsBounded [coin] := by
    refine Coin.isBounded_of_le coin.amount.units ?_ ?_
    · exact List.forall_mem_singleton.mpr (Nat.le_refl _)
    · rw [List.length_singleton, Nat.one_mul]
      exact coin.amount.bounded
  obtain ⟨sum, total, -⟩ := Coin.exists_total (bounded asset)
  exact ⟨sum, total⟩

theorem looks_shortVault (vaults : List Vault) (memory : Memory) (free : memory.currentFee = 0) :
    Looks (tenSunAnswer vaults) [] (feeOf memory) shortVault
      (roomForOne memory) (.read shortReport.coins false) (roomForOne memory) := by
  unfold feeOf
  rw [free]
  exact .read (KeyText.address_of_parse parse_coveredVault) rfl rfl

theorem shortVault_is_offered :
    ∃ after,
      Action.Gives (tenSunAnswer [unreadVault, shortVault])
        (reportSolvency [] 10) (roomForOne .initial) () after ∧
      offers (tenSunAnswer [unreadVault, shortVault])
        (reportSolvency [] 10).run (roomForOne .initial) = [shortReport] ∧
      after.queue.items = [shortReport] := by
  have fits : ∀ vault ∈ [unreadVault, shortVault],
      Coin.Fits vault.coins ∧ Coin.Fits vault.pendingOutbound := by
    intro vault member
    have pending : Coin.Fits [] := fun asset => ⟨_, rfl⟩
    rcases List.mem_pair.mp member with rfl | rfl
    · exact ⟨fits_singleton _, pending⟩
    · exact ⟨fits_singleton _, pending⟩
  have accounts : ∀ address state coins after,
      Action.Gives (tenSunAnswer [unreadVault, shortVault])
        (accountCoins [] address) state coins after → Coin.Fits coins := by
    intro address state coins after gives
    cases gives
    exact fits_singleton _
  obtain ⟨seen, inspected, after, offered, -, -, gives, all, insolvent, alike, -, filled, seenOf⟩ :=
    @insolvent_vaults_are_offered Unit (tenSunRest [unreadVault, shortVault]) [] 10
      (roomForOne .initial) (roomForOne .initial) [unreadVault, shortVault] (by decide) (.inl rfl)
      rfl (fun call rest => ⟨_, _, rfl⟩) fits accounts
  have unread : ∃ failure, KeyText.address unreadVault.pubKey = .error failure := ⟨_, rfl⟩
  obtain ⟨failure, key⟩ := unread
  have fixed : ∀ call state, (tenSunAnswer [unreadVault, shortVault]
      (.node call) state).1 = some (tenSun call) := fun _ _ => rfl
  have passed : Looks (tenSunAnswer [unreadVault, shortVault]) [] (feeOf .initial) unreadVault
      (roomForOne .initial) .unread (roomForOne .initial) := .unreadableKey key
  have short := looks_shortVault [unreadVault, shortVault] .initial rfl
  have seen_eq : seen = [(unreadVault, .unread), (shortVault, .read shortReport.coins false)] := by
    rw [passed.sightOf_eq fixed, short.sightOf_eq fixed]
    exact seenOf tenSun fun _ _ => rfl
  rw [seen_eq] at insolvent
  have only : offered = [shortReport] := by
    have member : shortReport ∈ offered.filter fun report => !report.solvent := by
      rw [insolvent]
      exact List.mem_singleton.mpr rfl
    rcases alike with solvent | none
    · cases solvent _ (List.mem_of_mem_filter member)
    · refine Eq.trans ?_ insolvent
      refine (List.filter_eq_self.mpr ?_).symm
      intro report found
      rw [none report found]
      rfl
  refine ⟨after, gives, all.trans only, ?_⟩
  rw [filled rfl, only]
  rfl

/-- Behind the highest block there is no next height, so that an unhealthy scanner overflows before
it looks at any vault, and says nothing of one that is insolvent. -/
theorem shortVault_is_hidden_behind_highest :
    ∃ world : World (Unit × Queue Solvency),
      world.memory.healthy = false ∧ world.memory.previousHeight.toInt + 1 ≠ (10 : Int64).toInt ∧
      tenSunAnswer [shortVault] (.bridge .vaults) world =
        (some (.ok [shortVault]), world) ∧
      Looks (tenSunAnswer [shortVault]) [] (feeOf world.memory) shortVault
        world (.read shortReport.coins false) world ∧
      offers (tenSunAnswer [shortVault]) (reportSolvency [] 10).run world =
        [] ∧
      (reportSolvency [] 10).run.run (tenSunAnswer [shortVault]) world =
        (.overflowed .add, world) :=
  ⟨roomForOne ⟨[], 0, none, false, Int64.maxValue⟩, rfl, by decide, rfl,
    looks_shortVault [shortVault] _ rfl, rfl, rfl⟩

end Scanner
end TronGateway
