import TronGateway.Proofs.Fee
import TronGateway.Proofs.Ingest
import TronGateway.Proofs.RefBlock
import TronGateway.Proofs.Solvency
set_option autoImplicit false

/-!
# A block is scanned as a whole

Whatever goes wrong with one of the transactions of a block, the fee or a vault stays there: the
report of the block is that of its transactions one by one, and the memory and the queues change
only at the heights that are for it. What can stop a scan is an overflow.
-/

namespace TronGateway

/-- The node answers by the question alone; the other answers may depend on what was asked
before. -/
structure Surroundings (Rest : Type) where
  node : (call : NodeCall) → Except Error call.Answer
  others : (question : Question) → Rest → question.Answer × Rest

namespace Surroundings

variable {Rest : Type}

def respond (surroundings : Surroundings Rest) :
    (question : Question) → Rest → Option question.Answer × Rest
  | .node call, rest => (some (surroundings.node call), rest)
  | question, rest =>
    (some (surroundings.others question rest).1, (surroundings.others question rest).2)

abbrev answer (surroundings : Surroundings Rest) :
    (question : Question) → World Rest → Option question.Answer × World Rest :=
  World.answer surroundings.respond

theorem answered (surroundings : Surroundings Rest) (question : Question) (world : World Rest) :
    ∃ reply after, surroundings.answer question world = (some reply, after) := by
  refine World.answered ?_ question world
  intro question rest
  cases question with
  | _ => exact ⟨_, _, rfl⟩

theorem answer_node (surroundings : Surroundings Rest) (call : NodeCall) (world : World Rest) :
    surroundings.answer (.node call) world = (some (surroundings.node call), world) := rfl

end Surroundings

variable {Rest : Type} {surroundings : Surroundings Rest} {tokens : List Token} {height : Int64}
  {world after : World Rest}

namespace Ingest

/-- What is reported of one transaction alone. -/
def emitted (surroundings : Surroundings Rest) (tokens : List Token) (height : Int64)
    (world : World Rest) (tx : Transaction) : List Transfer :=
  match (transfer tokens tx height).run.run surroundings.answer world with
  | (.finished (.ok (some item)), _) => [item]
  | _ => []

theorem ends_transfer (surroundings : Surroundings Rest) (tokens : List Token) (height : Int64)
    (tx : Transaction) (world : World Rest) :
    ∃ result, (transfer tokens tx height).attempt.Ends surroundings.answer world result world := by
  unfold Action.attempt
  rw [run_transfer]
  rcases inbound tokens tx with failure | _ | ⟨payment, memo⟩
  · exact ⟨_, rfl⟩
  · exact ⟨_, rfl⟩
  · exact ⟨_, rfl⟩

/-- What is reported of a transaction does not depend on the memory, the queues or anything that
was asked before. -/
theorem emitted_eq (tx : Transaction) (world other : World Rest) :
    emitted surroundings tokens height world tx = emitted surroundings tokens height other tx := by
  unfold emitted
  rw [run_transfer]
  rcases inbound tokens tx with failure | _ | ⟨payment, memo⟩
  · rfl
  · rfl
  · rw [Action.run_ask, Action.run_ask, Surroundings.answer_node, Surroundings.answer_node]
    cases surroundings.node (.transactionInfo tx.id) with
    | error failure => rfl
    | ok info => rfl

theorem ends_transfers (txs : List Transaction) (world : World Rest) :
    (transfers tokens height txs).Ends surroundings.answer world
      (txs.flatMap (emitted surroundings tokens height world)) world := by
  induction txs with
  | nil => rfl
  | cons tx rest ih =>
      obtain ⟨result, ended⟩ := ends_transfer surroundings tokens height tx world
      unfold transfers
      refine Program.ends_bind.mpr ⟨result, world, ended, ?_⟩
      refine Program.ends_bind.mpr ⟨_, world, ih, ?_⟩
      have run : (transfer tokens tx height).run.run surroundings.answer world =
        (.finished result, world) := ended
      rw [List.flatMap_cons]
      unfold emitted
      rw [run]
      rcases result with failure | _ | item
      · rfl
      · rfl
      · rfl

end Ingest

namespace Scanner

def ringBehind (ring : List RefBlock) (block : Block) (height : Int64) : List RefBlock :=
  if height % candidateInterval = 0 then
    RefBlock.push ring ⟨block.timestamp, height, block.id⟩
  else ring

theorem ends_keepCandidate (block : Block) (world : World Rest) :
    (keepCandidate block height).Ends surroundings.answer world ()
      { world with
        memory := { world.memory with ring := ringBehind world.memory.ring block height } } := by
  unfold keepCandidate ringBehind
  by_cases due : height % candidateInterval = 0
  · rw [if_pos due, if_pos due]
    rfl
  · rw [if_neg due, if_neg due]
    rfl

theorem gains_ringBehind {ring : List RefBlock} {block : Block} (due : 25 ∣ height.toInt)
    (fresh : ∀ other ∈ ring, other.height ≠ height) :
    RefBlock.Gains ring ⟨block.timestamp, height, block.id⟩ (ringBehind ring block height) := by
  have divided : height % candidateInterval = 0 := mod_eq_zero_iff_dvd.mpr due
  unfold ringBehind
  rw [if_pos divided]
  exact RefBlock.gains_push fresh

theorem ringBehind_of_not {ring : List RefBlock} {block : Block}
    (other : ¬ (25 ∣ height.toInt ∧ ∀ other ∈ ring, other.height ≠ height)) :
    ringBehind ring block height = ring := by
  unfold ringBehind
  by_cases due : height % candidateInterval = 0
  · rw [if_pos due]
    have held : ∃ known ∈ ring, known.height = height := by
      by_contra none
      refine other ⟨mod_eq_zero_iff_dvd.mp due, ?_⟩
      intro known member same
      exact none ⟨known, member, same⟩
    obtain ⟨known, member, same⟩ := held
    exact RefBlock.push_of_known member same
  · rw [if_neg due]

/-! ### The fee -/

/-- At most one fee was published. -/
structure Refreshed (height : Int64) (world after : World Rest) : Prop where
  fees : ∃ published, after.fees = world.fees ++ published ∧ published.length ≤ 1 ∧
    (published ≠ [] → 30 ∣ height.toInt)
  reports : after.reports = world.reports
  ring : after.memory.ring = world.memory.ring
  healthy : after.memory.healthy = world.memory.healthy
  previousHeight : after.memory.previousHeight = world.memory.previousHeight

theorem Refreshed.of_refreshes (due : 30 ∣ height.toInt)
    (refreshes : Fee.Refreshes surroundings.respond tokens height world after) :
    Refreshed height world after := by
  cases refreshes with
  | failed _ unmoved =>
      refine ⟨⟨[], ?_, Nat.zero_le 1, nofun⟩, unmoved.reports, unmoved.ring, unmoved.healthy,
        unmoved.previousHeight⟩
      rw [unmoved.fees, List.append_nil]
  | kept _ _ _ _ unmoved =>
      refine ⟨⟨[], ?_, Nat.zero_le 1, nofun⟩, unmoved.reports, unmoved.ring, unmoved.healthy,
        unmoved.previousHeight⟩
      rw [unmoved.fees, List.append_nil]
  | published _ _ _ _ _ _ taken _ reports ring healthy previousHeight =>
      exact ⟨⟨_, taken, Nat.le_refl 1, fun _ => due⟩, reports, ring, healthy, previousHeight⟩

theorem attempt_ends_or_overflows {α : Type} (surroundings : Surroundings Rest) (action : Action α)
    (world : World Rest) :
    (∃ result after, action.attempt.Ends surroundings.answer world result after) ∨
      ∃ overflow after, action.attempt.run surroundings.answer world =
        (.overflowed overflow, after) :=
  Program.ends_or_overflows surroundings.answered _ _

theorem refreshFee_ends_or_overflows (surroundings : Surroundings Rest) (tokens : List Token)
    (height : Int64) (world : World Rest) :
    (∃ after, (refreshFee tokens height).Ends surroundings.answer world () after ∧
        Refreshed height world after) ∨
      ∃ overflow after, (refreshFee tokens height).run surroundings.answer world =
        (.overflowed overflow, after) := by
  unfold refreshFee
  by_cases due : height % feeInterval = 0
  · rw [if_pos due]
    have divided : 30 ∣ height.toInt := mod_eq_zero_iff_dvd.mp due
    have refreshes := Fee.refreshes surroundings.respond tokens height world
    rcases attempt_ends_or_overflows surroundings (Fee.update tokens height) world with
      ⟨result, after, ended⟩ | ⟨overflow, after, overflowed⟩
    · refine .inl ⟨after, ?_, ?_⟩
      · exact Program.ends_bind.mpr ⟨result, after, ended, rfl⟩
      · rw [show Fee.refresh _ _ _ world = after from congrArg Prod.snd ended] at refreshes
        exact .of_refreshes divided refreshes
    · exact .inr ⟨overflow, after, Program.run_bind_of_overflows overflowed⟩
  · rw [if_neg due]
    refine .inl ⟨world, rfl, ⟨[], ?_, Nat.zero_le 1, nofun⟩, rfl, rfl, rfl, rfl⟩
    rw [List.append_nil]

/-- Nothing but the queue of statements may have grown. -/
structure Reported (height : Int64) (world after : World Rest) : Prop where
  memory : after.memory = world.memory
  fees : after.fees = world.fees
  reports : ∃ pushed, after.reports = world.reports ++ pushed ∧ (pushed ≠ [] → 10 ∣ height.toInt)

theorem Reported.answered (surroundings : Surroundings Rest) (due : 10 ∣ height.toInt)
    (question : Question) (after : World Rest)
    (reporting : IsReporting question) (reported : Reported height world after) :
    Reported height world (surroundings.answer question after).2 := by
  obtain ⟨memory, fees, pushed, reports, -⟩ := reported
  cases question with
  | publishFee fee => cases reporting
  | remember change => cases reporting
  | offerSolvency report =>
      obtain ⟨reply, more, rest, answered⟩ :=
        World.answer_offerSolvency surroundings.respond after report
      rw [Surroundings.answer, answered]
      refine ⟨memory, fees, pushed ++ more, ?_, fun _ => due⟩
      rw [reports, List.append_assoc]
  | _ => exact ⟨memory, fees, pushed, reports, fun _ => due⟩

theorem reportSolvency_ends_or_overflows (surroundings : Surroundings Rest) (tokens : List Token)
    (height : Int64) (world : World Rest) :
    (∃ result after,
        (reportSolvency tokens height).attempt.Ends surroundings.answer world result after ∧
          Reported height world after) ∨
      ∃ overflow after, (reportSolvency tokens height).attempt.run surroundings.answer world =
        (.overflowed overflow, after) := by
  have start : Reported height world world := ⟨rfl, rfl, [], by rw [List.append_nil], nofun⟩
  by_cases due : SolvencyCheck.isDue height = true
  · have divided : 10 ∣ height.toInt := mod_eq_zero_iff_dvd.mp (of_decide_eq_true due)
    have kept := (asks_reportSolvency tokens height).keeps (Reported.answered surroundings divided)
      start
    rcases attempt_ends_or_overflows surroundings (reportSolvency tokens height) world with
      ⟨result, after, ended⟩ | ⟨overflow, after, ran⟩
    · refine .inl ⟨result, after, ended, ?_⟩
      unfold Program.Ends Action.attempt at ended
      rw [ended] at kept
      exact kept
    · exact .inr ⟨overflow, after, ran⟩
  · refine .inl ⟨.ok (), world, ?_, start⟩
    unfold reportSolvency
    rw [if_neg due]
    rfl

/-! ### Blocks -/

/-- What the scan of a block does to the memory and the queues. -/
structure Scanned (height : Int64) (block : Block) (world after : World Rest) : Prop where
  gained : 25 ∣ height.toInt → (∀ other ∈ world.memory.ring, other.height ≠ height) →
    RefBlock.Gains world.memory.ring ⟨block.timestamp, height, block.id⟩ after.memory.ring
  notGained : ¬ (25 ∣ height.toInt ∧ ∀ other ∈ world.memory.ring, other.height ≠ height) →
    after.memory.ring = world.memory.ring
  fees : ∃ published, after.fees = world.fees ++ published ∧ published.length ≤ 1 ∧
    (published ≠ [] → 30 ∣ height.toInt)
  reports : ∃ pushed, after.reports = world.reports ++ pushed ∧ (pushed ≠ [] → 10 ∣ height.toInt)
  healthy : after.memory.healthy = world.memory.healthy
  previousHeight : after.memory.previousHeight = height

def settle (tokens : List Token) (height : Int64) (transfers : List Transfer) :
    Activity BlockReport := do
  refreshFee tokens height
  let _ ← (reportSolvency tokens height).attempt
  Activity.remember (.scanned height)
  return ⟨chainName, transfers, false, false⟩

theorem run_scan (block : Block) (world : World Rest) :
    (scan tokens height block).run surroundings.answer world =
      (settle tokens height (block.transactions.flatMap
        (Ingest.emitted surroundings tokens height world))).run surroundings.answer
          { world with
            memory := { world.memory with ring := ringBehind world.memory.ring block height } } :=
  (Program.run_bind_of_ends (Ingest.ends_transfers block.transactions world)).trans
    (Program.run_bind_of_ends (ends_keepCandidate block world))

theorem settle_ends_or_overflows (surroundings : Surroundings Rest) (tokens : List Token)
    (height : Int64) (transfers : List Transfer) (world : World Rest) :
    (∃ overflow after, (settle tokens height transfers).run surroundings.answer world =
        (.overflowed overflow, after)) ∨
      ∃ between last,
        Refreshed height world between ∧ Reported height between last ∧
        (settle tokens height transfers).Ends surroundings.answer world
          ⟨chainName, transfers, false, false⟩
          { last with memory := { last.memory with previousHeight := height } } := by
  rcases refreshFee_ends_or_overflows surroundings tokens height world with
    ⟨between, refresh, refreshed⟩ | ⟨overflow, after, ran⟩
  · rcases reportSolvency_ends_or_overflows surroundings tokens height between with
      ⟨result, last, report, reported⟩ | ⟨overflow, after, ran⟩
    · refine .inr ⟨between, last, refreshed, reported, ?_⟩
      exact Program.ends_bind.mpr ⟨(), between, refresh,
        Program.ends_bind.mpr ⟨result, last, report, rfl⟩⟩
    · refine .inl ⟨overflow, after, ?_⟩
      exact (Program.run_bind_of_ends refresh).trans (Program.run_bind_of_overflows ran)
  · exact .inl ⟨overflow, after, Program.run_bind_of_overflows ran⟩

theorem scan_ends_or_overflows (surroundings : Surroundings Rest) (tokens : List Token)
    (height : Int64) (block : Block) (world : World Rest) :
    (∃ overflow after, (scan tokens height block).run surroundings.answer world =
        (.overflowed overflow, after)) ∨
      ∃ after, (scan tokens height block).Ends surroundings.answer world
          ⟨chainName, block.transactions.flatMap
            (Ingest.emitted surroundings tokens height world), false, false⟩ after ∧
        Scanned height block world after := by
  unfold Program.Ends
  rw [run_scan]
  refine (settle_ends_or_overflows _ _ _ _ _).imp_right ?_
  rintro ⟨between, last, refreshed, reported, ended⟩
  refine ⟨_, ended, ?_⟩
  have ring : last.memory.ring = ringBehind world.memory.ring block height := by
    rw [reported.memory]
    exact refreshed.ring
  obtain ⟨pushed, grown, due⟩ := reported.reports
  refine ⟨?_, ?_, ?_, ⟨pushed, ?_, due⟩, ?_, rfl⟩
  · intro divided fresh
    change RefBlock.Gains _ _ last.memory.ring
    rw [ring]
    exact gains_ringBehind divided fresh
  · intro other
    change last.memory.ring = _
    rw [ring]
    exact ringBehind_of_not other
  · change ∃ published, last.fees = _ ∧ _
    rw [reported.fees]
    exact refreshed.fees
  · change last.reports = _
    rw [grown, refreshed.reports]
  · change last.memory.healthy = _
    rw [reported.memory]
    exact refreshed.healthy

/-! A node that has an empty block at every height. -/

def emptyBlocks : Surroundings Unit where
  node
    | .block _ => .ok ⟨"", none, []⟩
    | _ => .error .settings
  others
    | .node _, rest => (.error .settings, rest)
    | .bridge _, rest => (.error .settings, rest)
    | .store _, rest => (.error .settings, rest)
    | .memory, rest => (.initial, rest)
    | .remember _, rest => ((), rest)
    | .publishFee _, rest => (.error .queueClosed, rest)
    | .offerSolvency _, rest => (.closed, rest)
    | .deliver _, rest => (.error .queueClosed, rest)
    | .remoteSign _ _ _, rest => (.error .settings, rest)
    | .reportBlame _ _ _ _ _, rest => (.error .settings, rest)
    | .wait _, rest => (.stopped, rest)
    | .isStopped, rest => (true, rest)

end Scanner
end TronGateway
