import TronGateway.Proofs.Ingest
import TronGateway.Proofs.Solvency.Queue
import TronGateway.Runner
set_option autoImplicit false

/-!
# Solvency while the scanner is unhealthy

A stuck scanner looks at solvency again and again, for the last final height at which that is due,
so that the protocol chain can resume the chain. But it looks at it by the same rule as a scan, and
so is silent when that height is the one right behind the last scanned one.
-/

namespace TronGateway.Scanner

open Rehearsal (Queue)

section Height

variable {State : Type}
  {answer : (question : Question) → State → Option question.Answer × State}
  {tokens : List Token} {state after : State} {final : Int64}

theorem asks_height : height.run.Asks IsInquiry := height_asks trivial

theorem nonneg_of_gives_height (gives : Action.Gives answer height state final after) :
    0 ≤ final.toInt := by
  obtain ⟨tip, between, -, gives⟩ := Action.gives_bind.mp gives
  obtain ⟨behind, -, gives⟩ := Action.gives_check_bind.mp gives
  obtain ⟨rfl, -⟩ := Action.gives_pure.mp gives
  rw [Ingest.toInt_max_zero]
  exact Int.le_max_right _ _

theorem rounded_of_nonneg (nonneg : 0 ≤ final.toInt) :
    ∃ due, Checked.signed .subtract (final.toInt - final.toInt % SolvencyCheck.interval.toInt) =
        .ok due ∧ due.toInt = final.toInt - final.toInt % 10 ∧ SolvencyCheck.isDue due = true := by
  have below := final.toInt_lt
  have interval : SolvencyCheck.interval.toInt = 10 := rfl
  have low : -2 ^ 63 ≤ final.toInt - final.toInt % 10 := by omega
  have high : final.toInt - final.toInt % 10 < 2 ^ 63 := by omega
  have exact : (Int64.ofInt (final.toInt - final.toInt % 10)).toInt =
      final.toInt - final.toInt % 10 := Int64.toInt_ofInt_of_le low high
  refine ⟨Int64.ofInt (final.toInt - final.toInt % 10), ?_, exact, ?_⟩
  · rw [interval]
    exact Checked.signed_of_fits low high
  · refine decide_eq_true (mod_eq_zero_iff_dvd.mpr ?_)
    rw [exact, interval]
    omega

theorem run_recheck {memory : Memory} {known called : State} {setting due : Int64}
    (remembered : answer .memory state = (some memory, known)) (unhealthy : memory.healthy = false)
    (asked : answer (.bridge (.setting SolvencyCheck.stopKey)) known = (some (.ok setting), called))
    (allowed : setting ≤ 0) (measured : Action.Gives answer height called final after)
    (rounded : Checked.signed .subtract
      (final.toInt - final.toInt % SolvencyCheck.interval.toInt) = .ok due) :
    (recheck tokens).run answer state =
      ((reportSolvency tokens due).attempt.bind fun _ => .done ()).run answer after := by
  refine (Program.run_bind_of_ends (Program.ends_query.mpr remembered)).trans ?_
  rw [unhealthy, if_neg Bool.false_ne_true]
  refine (Program.run_bind_of_ends (Program.ends_query.mpr asked)).trans ?_
  dsimp only
  rw [if_neg (Int64.not_lt.mpr allowed)]
  refine (Program.run_bind_of_ends measured).trans ?_
  dsimp only
  rw [rounded]
  rfl

end Height

/-! ### What a round reports -/

def Sight.coins : Sight → List Coin
  | .unread => []
  | .read coins _ => coins

theorem reports_of_solvent {height : Int64} {seen : List (Vault × Sight)}
    (solvent : ∀ sight ∈ seen, ∃ coins, sight.2 = .read coins true) :
    SolvencyCheck.reports height (findings seen) false =
      seen.map fun sight => ⟨height, "TRON", sight.1.pubKey, sight.2.coins, true⟩ := by
  have found : findings seen =
      seen.map fun sight => ⟨sight.1.pubKey, sight.2.coins, true⟩ := by
    unfold findings
    induction seen with
    | nil => rfl
    | cons first rest ih =>
        obtain ⟨⟨coins, read⟩, others⟩ := List.forall_mem_cons.mp solvent
        rw [List.filterMap_cons, List.map_cons, ih others, read]
        rfl
  have all : (findings seen).all SolvencyCheck.Finding.solvent = true := by
    rw [found, List.all_map]
    exact List.all_eq_true.mpr fun _ _ => rfl
  unfold SolvencyCheck.reports
  simp only [all, Bool.not_false, Bool.true_and, Bool.true_or, List.filter_true]
  rw [found, List.map_map]
  rfl

variable {Rest : Type} {others : (question : Question) → Rest → Option question.Answer × Rest}
  {tokens : List Token} {world called told listed inspected : World (Rest × Queue Solvency)}
  {setting final : Int64} {vaults : List Vault} {seen : List (Vault × Sight)}

/-- A round of an unhealthy scanner that is not switched off, over vaults that are all solvent,
reports each of them at the final height rounded down, unless that height is the one right behind
the last scanned one, where nothing is reported, or there is none behind the last scanned one, where
the round overflows. -/
theorem recheck_reports_solvent_vaults (unhealthy : world.memory.healthy = false)
    (asked : World.answer (onQueue others) (.bridge (.setting "StopSolvencyCheck-TRON")) world =
      (some (.ok setting), called))
    (allowed : setting ≤ 0)
    (measured : Action.Gives (World.answer (onQueue others)) height called final told)
    (lists : World.answer (onQueue others) (.bridge .vaults) told = (some (.ok vaults), listed))
    (same : seen.map Prod.fst = vaults)
    (looks : LooksAll (World.answer (onQueue others)) tokens (feeOf world.memory) seen listed
      inspected)
    (solvent : ∀ sight ∈ seen, ∃ coins, sight.2 = .read coins true)
    (isOpen : world.queue.isOpen = true)
    (room : world.queue.items.length + vaults.length ≤ world.queue.capacity) :
    told.queue = world.queue ∧ ∃ due : Int64, due.toInt = final.toInt - final.toInt % 10 ∧
      (world.memory.previousHeight.toInt + 1 = 2 ^ 63 →
        (recheck tokens).run (World.answer (onQueue others)) world =
          (.overflowed .add, told)) ∧
      (world.memory.previousHeight.toInt + 1 = due.toInt →
        (recheck tokens).run (World.answer (onQueue others)) world = (.finished (), told)) ∧
      (world.memory.previousHeight.toInt + 1 < 2 ^ 63 →
        world.memory.previousHeight.toInt + 1 ≠ due.toInt →
        ∃ after, (recheck tokens).run (World.answer (onQueue others)) world =
            (.finished (), after) ∧
          after.queue = { world.queue with
            items := world.queue.items ++ seen.map fun sight =>
              ⟨due, "TRON", sight.1.pubKey, sight.2.coins, true⟩ }) := by
  have first := untouched_bridge asked
  have second := World.untouched_of_asks others asks_height measured
  have memory : told.memory = world.memory := second.memory.trans first.memory
  have queue : told.queue = world.queue := second.queue.trans first.queue
  have still : told.memory.healthy = false := by
    rw [memory]
    exact unhealthy
  obtain ⟨due, rounded, exact, isDue⟩ := rounded_of_nonneg (nonneg_of_gives_height measured)
  have round : (recheck tokens).run (World.answer (onQueue others)) world = _ :=
    run_recheck rfl unhealthy asked allowed measured rounded
  -- From here on it is the rule of a scan that decides, on the memory the round began with.
  have report := run_reportSolvency tokens (onQueue others) isDue told
  rw [isSilent_of_unhealthy still, memory] at report
  refine ⟨queue, due, exact, ?_, ?_, ?_⟩
  · intro last
    rw [if_neg (by omega)] at report
    exact round.trans (Program.run_bind_of_overflows report)
  · intro next
    have below := due.toInt_lt
    rw [if_pos (by omega), decide_eq_true next] at report
    exact round.trans (Program.run_bind_of_ends report)
  · intro inRange other
    have heard : isSilent told.memory due = .ok false := by
      rw [isSilent_of_unhealthy still, memory, if_pos inRange, decide_eq_false other]
    rw [← memory] at looks
    obtain ⟨after, gives, filled, -⟩ := gives_reportSolvency isDue heard lists same looks
    refine ⟨after, round.trans (Program.run_bind_of_ends gives), ?_⟩
    have length : seen.length = vaults.length := by
      rw [← same, List.length_map]
    rw [filled, queue, still, reports_of_solvent solvent, Queue.fill_of_open isOpen,
      List.take_of_length_le]
    rw [List.length_map]
    omega

/-! A chain on which block 99 was scanned and block 100, the last final one, cannot be got. -/

/-- A node that has block 99 and those from 101 up to 119 on, and at which every account holds ten
sun. -/
def stuckNode : (call : NodeCall) → Except Error call.Answer
  | .latestBlock => .ok ⟨"", some ⟨119, 0, "", "", "", ""⟩, []⟩
  | .block height => if height = 100 then .error .settings else .ok ⟨"", none, []⟩
  | .balance _ => .ok 10
  | _ => .error .settings

def stuckRest : (question : Question) → Unit → Option question.Answer × Unit
  | .node call, _ => (some (stuckNode call), ())
  | .bridge .vaults, _ => (some (.ok [coveredVault]), ())
  | .bridge (.setting _), _ => (some (.ok (-1)), ())
  | .store (.get _), _ => (some (.ok none), ())
  | .store (.put _ _), _ => (some (.ok ()), ())
  | .wait _, _ => (some .elapsed, ())
  | .isStopped, _ => (some false, ())
  | _, _ => (none, ())

abbrev stuckAnswer : (question : Question) →
    World (Unit × Queue Solvency) → Option question.Answer × World (Unit × Queue Solvency) :=
  World.answer (onQueue stuckRest)

def stuckBehind (height : Int64) : World (Unit × Queue Solvency) :=
  ⟨⟨[], 0, none, false, height⟩, [], [], (), Queue.empty 1⟩

theorem looks_stuckBehind (height : Int64) :
    Looks stuckAnswer [] (feeOf (stuckBehind height).memory) coveredVault (stuckBehind height)
      (.read [Coin.ofTrx (Amount.ofSun (Amount.ofUInt64 10))] true) (stuckBehind height) :=
  .read (KeyText.address_of_parse parse_coveredVault) rfl rfl

theorem stuckBehind_reports_coveredVault :
    ∃ after, (recheck []).run stuckAnswer (stuckBehind 80) = (.finished (), after) ∧
      after.queue.items = [⟨100, "TRON", coveredVault.pubKey,
        [Coin.ofTrx (Amount.ofSun (Amount.ofUInt64 10))], true⟩] := by
  let seen : List (Vault × Sight) :=
    [(coveredVault, .read [Coin.ofTrx (Amount.ofSun (Amount.ofUInt64 10))] true)]
  have solvent : ∀ sight ∈ seen, ∃ coins, sight.2 = .read coins true := by
    intro sight member
    rw [List.mem_singleton.mp member]
    exact ⟨_, rfl⟩
  obtain ⟨-, due, rounded, -, -, reports⟩ := @recheck_reports_solvent_vaults Unit stuckRest []
    (stuckBehind 80) (stuckBehind 80) (stuckBehind 80) (stuckBehind 80) (stuckBehind 80) (-1) 100
    [coveredVault] seen rfl rfl (by decide) rfl rfl rfl ⟨_, looks_stuckBehind 80, rfl⟩ solvent rfl
    (by decide)
  have known : due = 100 := Int64.toInt_inj.mp rounded
  subst known
  obtain ⟨after, ran, filled⟩ := reports (by decide) (by decide)
  exact ⟨after, ran, congrArg Queue.items filled⟩

/-- The scanner has come to be stuck behind height 99 by its runner. A round then is silent,
although the chain has not switched it off, the vault is solvent and the queue is empty. -/
theorem stuckBehind_is_silent :
    Runner.iterate stuckAnswer (Runner.scanStep ⟨"TRON", 99, 30⟩ []) 4 .starting
        (World.opening ((), Queue.empty 1)) =
      (.finished (.scanning 100 100), stuckBehind 99) ∧
    (stuckBehind 99).memory.healthy = false ∧
    stuckAnswer (.bridge (.setting "StopSolvencyCheck-TRON")) (stuckBehind 99) =
      (some (.ok (-1)), stuckBehind 99) ∧
    Action.Gives stuckAnswer height (stuckBehind 99) 100 (stuckBehind 99) ∧
    stuckAnswer (.bridge .vaults) (stuckBehind 99) =
      (some (.ok [coveredVault]), stuckBehind 99) ∧
    Looks stuckAnswer [] (feeOf (stuckBehind 99).memory) coveredVault (stuckBehind 99)
      (.read [Coin.ofTrx (Amount.ofSun (Amount.ofUInt64 10))] true) (stuckBehind 99) ∧
    (recheck []).run stuckAnswer (stuckBehind 99) = (.finished (), stuckBehind 99) ∧
    (stuckBehind 99).queue = Queue.empty 1 :=
  ⟨rfl, rfl, rfl, rfl, rfl, looks_stuckBehind 99, rfl, rfl⟩

end TronGateway.Scanner
