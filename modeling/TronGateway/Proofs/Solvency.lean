import TronGateway.Scanner
import TronGateway.Proofs.Action
import TronGateway.Proofs.Address
import TronGateway.Proofs.Number.Checked
set_option autoImplicit false

/-!
# When a vault is reported solvent

The scanner looks at the vaults one after the other and passes over those it cannot read. A vault is
offered as solvent only while the scanner is unhealthy and when every vault that could be read is
solvent. The vaults that could not be read do not count, so that a vault is offered as solvent
although nothing is known of another one.
-/

namespace TronGateway.Scanner

open SolvencyCheck (Finding)

theorem isSilent_of_healthy {memory : Memory} (healthy : memory.healthy = true) (height : Int64) :
    isSilent memory height = .ok false := by
  unfold isSilent
  rw [if_pos healthy]

/-- While it is unhealthy, the scanner says nothing at the height right behind the last scanned one,
and has no height to compare with behind the highest one. -/
theorem isSilent_of_unhealthy {memory : Memory} (unhealthy : memory.healthy = false)
    (height : Int64) :
    isSilent memory height =
      if memory.previousHeight.toInt + 1 < 2 ^ 63 then
        .ok (decide (memory.previousHeight.toInt + 1 = height.toInt))
      else .error .add := by
  have low := memory.previousHeight.le_toInt
  unfold isSilent
  rw [unhealthy, if_neg Bool.false_ne_true]
  change (Checked.signed .add (memory.previousHeight.toInt + 1)).map _ = _
  by_cases fits : memory.previousHeight.toInt + 1 < 2 ^ 63
  · rw [if_pos fits, Checked.signed_of_fits (by omega) fits]
    refine congrArg Except.ok (decide_eq_decide.mpr ?_)
    rw [← Int64.toInt_inj, Int64.toInt_ofInt_of_le (by omega) fits]
    exact eq_comm
  · rw [if_neg fits, Checked.signed_of_large (by omega)]
    rfl

/-- What came of looking at a vault: nothing, or the coins of its account and whether it is
solvent. -/
inductive Sight where
  | unread
  | read (coins : List Coin) (solvent : Bool)

def Sight.finding? (vault : Vault) : Sight → Option Finding
  | .unread => none
  | .read coins solvent => some ⟨vault.pubKey, coins, solvent⟩

variable {State : Type}

/-- Looking at a vault from `state` shows `sight` and ends in `after`. A vault stays unread when its
key stands for no address or a call about its account fails. -/
inductive Looks (answer : (question : Question) → State → Option question.Answer × State)
    (tokens : List Token) (fee : Amount) (vault : Vault) (state : State) :
    Sight → State → Prop where
  | unreadableKey {failure : Error} (key : KeyText.address vault.pubKey = .error failure) :
      Looks answer tokens fee vault state .unread state
  | unreadableAccount {address : String} {failure : Error} {after : State}
      (key : KeyText.address vault.pubKey = .ok address)
      (account : (accountCoins tokens address).attempt.Ends answer state (.error failure) after) :
      Looks answer tokens fee vault state .unread after
  | read {address : String} {coins : List Coin} {solvent : Bool} {after : State}
      (key : KeyText.address vault.pubKey = .ok address)
      (account : Action.Gives answer (accountCoins tokens address) state coins after)
      (verdict : SolvencyCheck.isSolvent coins vault fee = .ok solvent) :
      Looks answer tokens fee vault state (.read coins solvent) after

/-- Looking at vaults in order, each from where the one before ended. -/
def LooksAll (answer : (question : Question) → State → Option question.Answer × State)
    (tokens : List Token) (fee : Amount) : List (Vault × Sight) → State → State → Prop
  | [], state, after => state = after
  | (vault, sight) :: rest, state, after =>
    ∃ between, Looks answer tokens fee vault state sight between ∧
      LooksAll answer tokens fee rest between after

variable {answer : (question : Question) → State → Option question.Answer × State}
  {tokens : List Token} {fee : Amount} {state after : State}

theorem ends_inspect {vault : Vault} {finding : Option Finding} :
    (inspect tokens fee vault).Ends answer state finding after ↔
      ∃ sight, Looks answer tokens fee vault state sight after ∧
        sight.finding? vault = finding := by
  unfold inspect
  rcases key : KeyText.address vault.pubKey with failure | address
  · constructor
    · intro ended
      obtain ⟨same, rfl⟩ := Program.ends_done.mp ended
      exact ⟨.unread, .unreadableKey key, same⟩
    · rintro ⟨sight, looks, same⟩
      cases looks with
      | unreadableKey _ => exact Program.ends_done.mpr ⟨same, rfl⟩
      | unreadableAccount known _ => rw [key] at known; cases known
      | read known _ _ => rw [key] at known; cases known
  · constructor
    · intro ended
      obtain ⟨result, between, account, ended⟩ := Program.ends_bind.mp ended
      cases result with
      | error failure =>
          obtain ⟨same, rfl⟩ := Program.ends_done.mp ended
          exact ⟨.unread, .unreadableAccount key account, same⟩
      | ok coins =>
          obtain ⟨solvent, middle, checked, ended⟩ := Program.ends_bind.mp ended
          obtain ⟨verdict, rfl⟩ := Program.ends_check.mp checked
          obtain ⟨same, rfl⟩ := Program.ends_done.mp ended
          exact ⟨.read coins solvent, .read key account verdict, same⟩
    · rintro ⟨sight, looks, same⟩
      cases looks with
      | unreadableKey known => rw [key] at known; cases known
      | unreadableAccount known account =>
          rw [key] at known
          cases known
          exact Program.ends_bind.mpr ⟨_, _, account, Program.ends_done.mpr ⟨same, rfl⟩⟩
      | read known account verdict =>
          rw [key] at known
          cases known
          refine Program.ends_bind.mpr ⟨_, _, account, ?_⟩
          refine Program.ends_bind.mpr ⟨_, _, Program.ends_check.mpr ⟨verdict, rfl⟩, ?_⟩
          exact Program.ends_done.mpr ⟨same, rfl⟩

theorem ends_inspectAll {vaults : List Vault} {findings : List Finding} :
    (inspectAll tokens fee vaults).Ends answer state findings after ↔
      ∃ seen, seen.map Prod.fst = vaults ∧ LooksAll answer tokens fee seen state after ∧
        (seen.filterMap fun sight => sight.2.finding? sight.1) = findings := by
  induction vaults generalizing state findings with
  | nil =>
      constructor
      · intro ended
        obtain ⟨rfl, rfl⟩ := Program.ends_done.mp ended
        exact ⟨[], rfl, rfl, rfl⟩
      · rintro ⟨seen, vaults, looks, found⟩
        cases List.map_eq_nil_iff.mp vaults
        exact Program.ends_done.mpr ⟨found, looks⟩
  | cons vault rest ih =>
      constructor
      · intro ended
        obtain ⟨finding, between, one, ended⟩ := Program.ends_bind.mp ended
        obtain ⟨others, middle, all, ended⟩ := Program.ends_bind.mp ended
        obtain ⟨rfl, rfl⟩ := Program.ends_done.mp ended
        obtain ⟨sight, looks, rfl⟩ := ends_inspect.mp one
        obtain ⟨seen, rfl, looksAll, rfl⟩ := ih.mp all
        refine ⟨(vault, sight) :: seen, rfl, ⟨between, looks, looksAll⟩, ?_⟩
        rw [List.filterMap_cons]
        cases sight.finding? vault with
        | none => rfl
        | some finding => rfl
      · rintro ⟨seen, vaults, looks, rfl⟩
        obtain ⟨⟨first, sight⟩, others, rfl, rfl, rfl⟩ := List.map_eq_cons_iff.mp vaults
        obtain ⟨between, one, all⟩ := looks
        refine Program.ends_bind.mpr ⟨_, between, ends_inspect.mpr ⟨sight, one, rfl⟩,
          Program.ends_bind.mpr ⟨_, after, ih.mpr ⟨others, rfl, all, rfl⟩,
            Program.ends_done.mpr ⟨?_, rfl⟩⟩⟩
        rw [List.filterMap_cons]
        cases sight.finding? first with
        | none => rfl
        | some finding => rfl

/-! ### What looking asks -/

theorem height_asks {allowed : Question → Prop} (permitted : allowed (.node .latestBlock)) :
    Scanner.height.run.Asks allowed := by
  apply Action.asks_bind (Action.asks_node permitted)
  intro tip
  apply Action.asks_bind (Action.asks_check _)
  intro final
  exact Action.asks_pure _

def IsNodeCall : Question → Prop
  | .node _ => True
  | _ => False

theorem asks_tokenBalances (address : String) (tokens : List Token) :
    (tokenBalances address tokens).run.Asks IsNodeCall := by
  induction tokens with
  | nil => exact Action.asks_pure _
  | cons token rest ih =>
      have one : (tokenBalance address token).run.Asks IsNodeCall := by
        refine Action.asks_bind (Action.asks_lift _) fun call => ?_
        refine Action.asks_bind (Action.asks_lift _) fun contract => ?_
        refine Action.asks_bind (Action.asks_bind (Action.asks_node trivial) fun reply => ?_)
          fun text => Action.asks_bind (Action.asks_lift _) fun amount => Action.asks_pure _
        rcases reply with ⟨_ | text, _ | failure⟩
        · exact Action.asks_throw _
        · exact Action.asks_throw _
        · exact Action.asks_pure _
        · exact Action.asks_throw _
      exact Action.asks_bind one fun coin =>
        Action.asks_bind ih fun coins => Action.asks_pure _

theorem asks_accountCoins (address : String) (tokens : List Token) :
    (accountCoins tokens address).run.Asks IsNodeCall := by
  apply Action.asks_bind (Action.asks_node trivial)
  intro balance
  apply Action.asks_bind (asks_tokenBalances address tokens)
  intro coins
  exact Action.asks_pure _

theorem asks_inspect (vault : Vault) : (inspect tokens fee vault).Asks IsNodeCall := by
  unfold inspect
  cases KeyText.address vault.pubKey with
  | error failure => exact .done _
  | ok address =>
      refine Program.Asks.bind (asks_accountCoins address tokens) fun result => ?_
      cases result with
      | error failure => exact .done _
      | ok coins => exact (Program.Asks.check _).bind fun solvent => .done _

theorem asks_inspectAll (vaults : List Vault) :
    (inspectAll tokens fee vaults).Asks IsNodeCall := by
  induction vaults with
  | nil => exact .done _
  | cons vault rest ih =>
      exact (asks_inspect vault).bind fun finding => ih.bind fun findings => .done _

def IsReporting : Question → Prop
  | .node _ => True
  | .bridge _ => True
  | .memory => True
  | .offerSolvency _ => True
  | _ => False

theorem asks_offerAll (reports : List Solvency) :
    (SolvencyCheck.offerAll reports).Asks IsReporting := by
  induction reports with
  | nil => exact .done _
  | cons report rest ih => exact .ask _ _ trivial fun _ => ih

theorem asks_reportVaults (memory : Memory) (height : Int64) :
    (reportVaults tokens memory height).run.Asks IsReporting := by
  apply Action.asks_bind (.ask _ _ trivial fun _ => .done _)
  intro vaults
  apply Action.asks_bind
  · apply Action.asks_activity
    apply (asks_inspectAll vaults).mono
    intro question call
    cases question with
    | node call => trivial
    | _ => cases call
  · intro findings
    exact Action.asks_activity (asks_offerAll _)

theorem asks_reportSolvency (tokens : List Token) (height : Int64) :
    (reportSolvency tokens height).run.Asks IsReporting := by
  unfold reportSolvency
  split
  · apply Action.asks_bind (.ask _ _ trivial fun _ => .done _)
    intro memory
    apply Action.asks_bind (Action.asks_check _)
    intro silent
    cases silent with
    | true => exact Action.asks_pure _
    | false => exact asks_reportVaults memory height
  · exact Action.asks_pure _

theorem mem_of_asked_offerAll {reports : List Solvency} {report : Solvency}
    (offered : .offerSolvency report ∈ (SolvencyCheck.offerAll reports).asked answer state) :
    report ∈ reports := by
  induction reports generalizing state with
  | nil => cases offered
  | cons first rest ih =>
      rcases Program.mem_asked_bind.mp offered with asked | ⟨offer, between, -, later⟩
      · change _ ∈ (Program.query (.offerSolvency first)).asked answer state at asked
        rw [Program.asked_query, List.mem_singleton] at asked
        cases asked
        exact List.mem_cons_self
      · exact List.mem_cons_of_mem _ (ih later)

def feeOf (memory : Memory) : Amount := Amount.ofSun (Amount.ofUInt64 memory.currentFee)

def findings (seen : List (Vault × Sight)) : List Finding :=
  seen.filterMap fun sight => sight.2.finding? sight.1

/-- A report is offered exactly when it is among those of vaults that the scanner has looked at, at
a height at which that is due and the scanner does not stay silent. -/
theorem offered_iff {height : Int64} {report : Solvency} :
    .offerSolvency report ∈ (reportSolvency tokens height).run.asked answer state ↔
      SolvencyCheck.isDue height = true ∧ ∃ memory known vaults listed seen inspected,
        answer .memory state = (some memory, known) ∧ isSilent memory height = .ok false ∧
        answer (.bridge .vaults) known = (some (.ok vaults), listed) ∧ seen.map Prod.fst = vaults ∧
        LooksAll answer tokens (feeOf memory) seen listed inspected ∧
        .offerSolvency report ∈ (SolvencyCheck.offerAll
          (SolvencyCheck.reports height (findings seen) memory.healthy)).asked
            answer inspected := by
  unfold reportSolvency
  have memoryAsks : Action.memory.run.Asks fun question => question = .memory :=
    .ask _ _ rfl fun _ => .done _
  have vaultsAsk : (Action.bridge .vaults).run.Asks fun question => question = .bridge .vaults :=
    .ask _ _ rfl fun _ => .done _
  by_cases due : SolvencyCheck.isDue height = true
  · rw [if_pos due, and_iff_right due]
    constructor
    · intro offered
      -- No part before the last one offers anything, so the offer is made in the last one.
      rcases Action.mem_asked_bind.mp offered with asked | ⟨memory, known, remembered, offered⟩
      · cases memoryAsks.asked asked
      obtain ⟨silent, quiet, offered⟩ := Action.mem_asked_check_bind.mp offered
      cases silent with
      | true => cases offered
      | false =>
          rcases Action.mem_asked_bind.mp offered with asked | ⟨vaults, listed, answered, offered⟩
          · cases vaultsAsk.asked asked
          rcases Action.mem_asked_bind.mp offered with asked | ⟨found, inspected, looked, offered⟩
          · cases (asks_inspectAll vaults).asked (Action.mem_asked_activity.mp asked)
          obtain ⟨seen, same, looks, rfl⟩ := ends_inspectAll.mp (Action.gives_activity.mp looked)
          exact ⟨memory, known, vaults, listed, seen, inspected, Action.gives_memory.mp remembered,
            quiet, Action.gives_bridge.mp answered, same, looks,
            Action.mem_asked_activity.mp offered⟩
    · rintro ⟨memory, known, vaults, listed, seen, inspected, remembered, quiet, answered, same,
        looks, offered⟩
      refine Action.mem_asked_bind.mpr (.inr ⟨_, _, Action.gives_memory.mpr remembered, ?_⟩)
      refine Action.mem_asked_check_bind.mpr ⟨_, quiet, ?_⟩
      refine Action.mem_asked_bind.mpr (.inr ⟨_, _, Action.gives_bridge.mpr answered, ?_⟩)
      refine Action.mem_asked_bind.mpr (.inr ⟨_, _, Action.gives_activity.mpr
        (ends_inspectAll.mpr ⟨seen, same, looks, rfl⟩), ?_⟩)
      exact Action.mem_asked_activity.mpr offered
  · rw [if_neg due]
    constructor
    · intro offered
      cases offered
    · rintro ⟨late, -⟩
      exact absurd late due

/-! ### Solvent vaults -/

theorem LooksAll.verdict {seen : List (Vault × Sight)}
    (looks : LooksAll answer tokens fee seen state after) {vault : Vault} {coins : List Coin}
    {solvent : Bool} (member : (vault, Sight.read coins solvent) ∈ seen) :
    SolvencyCheck.isSolvent coins vault fee = .ok solvent := by
  induction seen generalizing state with
  | nil => cases member
  | cons first rest ih =>
      obtain ⟨between, one, all⟩ := looks
      rcases List.mem_cons.mp member with rfl | later
      · cases one with
        | read _ _ verdict => exact verdict
      · exact ih all later

theorem of_mem_findings {seen : List (Vault × Sight)} {finding : Finding} :
    finding ∈ findings seen ↔ ∃ vault coins solvent, (vault, Sight.read coins solvent) ∈ seen ∧
      finding = ⟨vault.pubKey, coins, solvent⟩ := by
  unfold findings
  rw [List.mem_filterMap]
  constructor
  · rintro ⟨⟨vault, sight⟩, member, found⟩
    cases sight with
    | unread => cases found
    | read coins solvent => exact ⟨vault, coins, solvent, member, (Option.some.inj found).symm⟩
  · rintro ⟨vault, coins, solvent, member, rfl⟩
    exact ⟨_, member, rfl⟩

theorem of_solvent_report {height : Int64} {found : List Finding} {healthy : Bool}
    {report : Solvency} (solvent : report.solvent = true)
    (member : report ∈ SolvencyCheck.reports height found healthy) :
    healthy = false ∧ (∀ finding ∈ found, finding.solvent = true) ∧
      ∃ finding ∈ found, finding.toReport height = report := by
  unfold SolvencyCheck.reports at member
  obtain ⟨finding, kept, rfl⟩ := List.mem_map.mp member
  obtain ⟨present, chosen⟩ := List.mem_filter.mp kept
  change finding.solvent = true at solvent
  rw [solvent] at chosen
  simp only [Bool.not_true, Bool.or_false, Bool.and_eq_true, Bool.not_eq_true', List.all_eq_true]
    at chosen
  exact ⟨chosen.1, chosen.2, finding, present, rfl⟩

/-- When a vault is offered as solvent, the scanner is unhealthy and each vault that the protocol
chain has listed is solvent by the coins that its account was found to hold, unless its key or its
account could not be read. If every vault could be read, every vault is solvent. -/
theorem every_read_vault_is_solvent {height : Int64} {report : Solvency}
    (solvent : report.solvent = true)
    (offered : .offerSolvency report ∈ (reportSolvency tokens height).run.asked answer state) :
    SolvencyCheck.isDue height = true ∧ ∃ memory known vaults listed seen inspected,
      answer .memory state = (some memory, known) ∧ memory.healthy = false ∧
      answer (.bridge .vaults) known = (some (.ok vaults), listed) ∧ seen.map Prod.fst = vaults ∧
      LooksAll answer tokens (feeOf memory) seen listed inspected ∧
      (∀ vault sight, (vault, sight) ∈ seen → sight = .unread ∨ ∃ coins, sight = .read coins true ∧
        SolvencyCheck.isSolvent coins vault (feeOf memory) = .ok true) ∧
      ∃ vault coins, (vault, .read coins true) ∈ seen ∧
        report = ⟨height, chainName, vault.pubKey, coins, true⟩ := by
  obtain ⟨due, memory, known, vaults, listed, seen, inspected, remembered, -, answered, same, looks,
    offered⟩ := offered_iff.mp offered
  obtain ⟨unhealthy, all, finding, found, rfl⟩ :=
    of_solvent_report solvent (mem_of_asked_offerAll offered)
  refine ⟨due, memory, known, vaults, listed, seen, inspected, remembered, unhealthy, answered,
    same, looks, ?_, ?_⟩
  · intro vault sight member
    cases sight with
    | unread => exact .inl rfl
    | read coins verdict =>
        have yes : verdict = true :=
          all _ (of_mem_findings.mpr ⟨vault, coins, verdict, member, rfl⟩)
        cases yes
        exact .inr ⟨coins, rfl, looks.verdict member⟩
  · obtain ⟨vault, coins, verdict, member, rfl⟩ := of_mem_findings.mp found
    cases solvent
    exact ⟨vault, coins, member, rfl⟩

/-! A halted chain with one vault that can be read. -/

def coveredVault : Vault where
  pubKey := Hex.encode (Curve.PublicKey.uncompressed Curve.generator)
  coins := [Coin.ofTrx ⟨500, by decide⟩]
  pendingOutbound := []
  status := "ActiveVault"

def unreadVault : Vault := { coveredVault with pubKey := "zz" }

def haltedMemory : Memory := ⟨[], 0, none, false, 0⟩

def haltedAnswer (vaults : List Vault) :
    (question : Question) → Memory → Option question.Answer × Memory
  | .memory, memory => (some memory, memory)
  | .bridge .vaults, memory => (some (.ok vaults), memory)
  | .node (.balance _), memory => (some (.ok 10), memory)
  | .offerSolvency _, memory => (some .taken, memory)
  | _, memory => (none, memory)

theorem parse_coveredVault : KeyText.parse coveredVault.pubKey = .ok Curve.generator := by
  unfold coveredVault
  rw [KeyText.parse_encode]
  rfl

theorem looks_coveredVault (vaults : List Vault) :
    Looks (haltedAnswer vaults) [] (feeOf haltedMemory) coveredVault haltedMemory
      (.read [Coin.ofTrx (Amount.ofSun (Amount.ofUInt64 10))] true) haltedMemory :=
  .read (KeyText.address_of_parse parse_coveredVault) rfl rfl

theorem every_read_vault_is_solvent_coveredVault :
    ∃ report : Solvency, report.solvent = true ∧
      .offerSolvency report ∈
        (reportSolvency [] 20).run.asked (haltedAnswer [coveredVault]) haltedMemory ∧
      SolvencyCheck.isDue 20 = true ∧ ∃ memory known vaults listed seen inspected,
        haltedAnswer [coveredVault] .memory haltedMemory = (some memory, known) ∧
        memory.healthy = false ∧
        haltedAnswer [coveredVault] (.bridge .vaults) known = (some (.ok vaults), listed) ∧
        seen.map Prod.fst = vaults ∧
        LooksAll (haltedAnswer [coveredVault]) [] (feeOf memory) seen listed inspected ∧
        (∀ vault sight, (vault, sight) ∈ seen → sight = .unread ∨
          ∃ coins, sight = .read coins true ∧
            SolvencyCheck.isSolvent coins vault (feeOf memory) = .ok true) ∧
        ∃ vault coins, (vault, .read coins true) ∈ seen ∧
          report = ⟨20, chainName, vault.pubKey, coins, true⟩ := by
  have offered : .offerSolvency
      ⟨20, chainName, coveredVault.pubKey, [Coin.ofTrx (Amount.ofSun (Amount.ofUInt64 10))], true⟩ ∈
        (reportSolvency [] 20).run.asked (haltedAnswer [coveredVault]) haltedMemory :=
    offered_iff.mpr ⟨rfl, _, _, _, _, [(coveredVault, .read _ true)], _, rfl, rfl, rfl, rfl,
      ⟨_, looks_coveredVault _, rfl⟩, List.mem_cons_self⟩
  exact ⟨_, rfl, offered, every_read_vault_is_solvent rfl offered⟩

/-- A vault is offered as solvent, so that the chain may resume, while another one that the protocol
chain has listed could not be read. -/
theorem coveredVault_is_solvent_beside_unreadVault :
    (∃ failure, KeyText.address unreadVault.pubKey = .error failure) ∧
      haltedAnswer [coveredVault, unreadVault] (.bridge .vaults) haltedMemory =
        (some (.ok [coveredVault, unreadVault]), haltedMemory) ∧
      ∃ report : Solvency, report.solvent = true ∧
        .offerSolvency report ∈ (reportSolvency [] 20).run.asked
          (haltedAnswer [coveredVault, unreadVault]) haltedMemory := by
  have unread : ∃ failure, KeyText.address unreadVault.pubKey = .error failure := ⟨_, rfl⟩
  obtain ⟨failure, key⟩ := unread
  refine ⟨⟨failure, key⟩, rfl, ⟨20, chainName, coveredVault.pubKey,
    [Coin.ofTrx (Amount.ofSun (Amount.ofUInt64 10))], true⟩, rfl, ?_⟩
  exact offered_iff.mpr ⟨rfl, _, _, _, _, [(coveredVault, .read _ true), (unreadVault, .unread)], _,
    rfl, rfl, rfl, rfl, ⟨_, looks_coveredVault _, _, .unreadableKey key, rfl⟩, List.mem_cons_self⟩

end TronGateway.Scanner
