import TronGateway.Proofs.Abi
import TronGateway.Proofs.Fee
import TronGateway.Proofs.Scanner
set_option autoImplicit false

/-!
# The range of the fee

Each partial result on the way to a fee and to its rate is exact, or the refresh overflows there and
with it the scan. Which of both it is depends on nothing but what the refresh is told. A rate that
is published is always a hundred times the exact fee.
-/

namespace TronGateway.Fee

open Checked (Stage Settles overflow?)

/-- The energy that a refresh counts with, twice the largest estimate. -/
def energyOf (tokens : List Token) (estimates : List Int64) : Int :=
  if tokens.isEmpty then 0 else highest estimates * 2

def energyStages (tokens : List Token) (estimates : List Int64) : List Stage :=
  if tokens.isEmpty then [] else [.ofSigned .multiply (energyOf tokens estimates)]

def rateStages (sun : Int) : List Stage :=
  if 0 < sun then [.ofUnsigned .multiply (sun * 100)] else []

/-- The partial results of a refresh. -/
def stages (parameters : ChainParameters) (tokens : List Token) (estimates : List Int64) :
    List Stage :=
  let energy := energyOf tokens estimates
  energyStages tokens estimates ++
    (feeStages parameters (!tokens.isEmpty) energy ++
      rateStages (exactFee parameters (!tokens.isEmpty) energy))

/-- What a refresh publishes, and the fee that it remembers. -/
structure Quote where
  message : NetworkFee
  sun : UInt64

def quoteOf (height fee : Int64) : Except Overflow (Option Quote) :=
  if 0 < fee then
    (message height fee.toUInt64).map fun message => some ⟨message, fee.toUInt64⟩
  else .ok none

def spend (tokens : List Token) (estimates : List Int64) : Except Overflow Int64 :=
  if tokens.isEmpty then .ok 0 else maxEnergy estimates

def cost (parameters : ChainParameters) (tokens : List Token) (estimates : List Int64) :
    Except Overflow Int64 :=
  spend tokens estimates >>= compute parameters (!tokens.isEmpty)

def quote (height : Int64) (parameters : ChainParameters) (tokens : List Token)
    (estimates : List Int64) : Except Overflow (Option Quote) :=
  cost parameters tokens estimates >>= quoteOf height

/-- The quote of a fee that is so much over the integers. -/
def Quotes (height : Int64) (sun : Int) : Option Quote → Prop
  | none => sun ≤ 0
  | some quote => 0 < sun ∧ (quote.sun.toNat : Int) = sun ∧
      ∃ rate : UInt64, (rate.toNat : Int) = sun * 100 ∧ quote.message = ⟨"TRON", height, 1, rate⟩

theorem settles_quoteOf (height : Int64) {fee : Int64} {exact : Int}
    (isExact : fee.toInt = exact) :
    Settles (rateStages exact) (Quotes height exact) (quoteOf height fee) := by
  unfold rateStages quoteOf
  by_cases positive : 0 < exact
  · have more : 0 < fee := Int64.lt_iff_toInt_lt.mpr (isExact ▸ positive)
    have sun : (fee.toUInt64.toNat : Int) = exact := by
      rw [Int64.toNat_toUInt64_of_le (Int64.le_of_lt more), ← isExact]
      exact Int.toNat_of_nonneg (isExact ▸ Int.le_of_lt positive)
    rw [if_pos positive, if_pos more]
    exact (settles_message height _ exact sun).map fun message isMessage =>
      ⟨positive, sun, isMessage⟩
  · have notMore : ¬ 0 < fee := fun more => positive (isExact ▸ Int64.lt_iff_toInt_lt.mp more)
    rw [if_neg positive, if_neg notMore]
    exact Checked.settles_pure (Int.not_lt.mp positive)

theorem settles_spend (tokens : List Token) (estimates : List Int64) :
    Settles (energyStages tokens estimates)
      (fun energy : Int64 => energy.toInt = energyOf tokens estimates)
      (spend tokens estimates) := by
  cases tokens with
  | nil => exact Checked.settles_pure rfl
  | cons token rest => exact settles_maxEnergy estimates

theorem settles_quote (height : Int64) (parameters : ChainParameters) (tokens : List Token)
    (estimates : List Int64) :
    Settles (stages parameters tokens estimates)
      (Quotes height (exactFee parameters (!tokens.isEmpty) (energyOf tokens estimates)))
      (quote height parameters tokens estimates) := by
  unfold quote cost
  rw [bind_assoc]
  refine (settles_spend tokens estimates).bind fun energy isEnergy => ?_
  exact (settles_compute parameters _ isEnergy).bind fun fee isFee => settles_quoteOf height isFee

/-! ### A refresh that is told everything -/

section Told

variable {State : Type} {answer : (question : Question) → State → Option question.Answer × State}
  {tokens : List Token} {state told : State} {parameters : ChainParameters}
  {estimates : List Int64}

theorem run_price_of_tells (tells : Tells answer tokens state parameters estimates told) :
    (price tokens).run.run answer state =
      (Action.check (cost parameters tokens estimates)).run.run answer told := by
  obtain ⟨address, known, priced, addressed, asked, estimated⟩ := tells
  unfold price
  rw [Action.run_bind_of_gives addressed, Action.run_bind_of_gives (Action.gives_node.mpr asked)]
  rcases estimated with ⟨rfl, rfl, rfl⟩ | ⟨some, call, encoded, estimated⟩
  · rfl
  · obtain ⟨token, rest, rfl⟩ := List.exists_cons_of_ne_nil some
    change ((liftM (Abi.encodeTransfer address Amount.zero) >>= fun call =>
      Fee.estimates address (Hex.encode (call.drop 4)) (token :: rest) >>= fun found =>
        Action.check (maxEnergy found)) >>= fun spent =>
          Action.check (compute parameters true spent) : Action Int64).run.run answer priced = _
    rw [bind_assoc, Action.run_bind_of_gives (Action.gives_lift.mpr ⟨encoded, rfl⟩), bind_assoc,
      Action.run_bind_of_gives (gives_estimates.mpr estimated)]
    unfold cost spend
    rw [if_neg nofun]
    cases maxEnergy estimates with
    | error overflow => rfl
    | ok spent => rfl

def offer : Option Quote → Action Unit
  | none => pure ()
  | some quote => do
    ExceptT.mk (Activity.query (.publishFee quote.message))
    Action.remember (.fee quote.sun)

theorem run_update_of_tells (height : Int64)
    (tells : Tells answer tokens state parameters estimates told) :
    (update tokens height).run.run answer state =
      (Action.check (quote height parameters tokens estimates) >>= offer).run.run answer told := by
  rw [update_eq]
  have priced := run_price_of_tells tells
  unfold quote
  cases computed : cost parameters tokens estimates with
  | error overflow =>
      rw [computed] at priced
      exact Action.run_bind_of_overflows priced
  | ok fee =>
      rw [computed] at priced
      rw [Action.run_bind_of_gives priced, ok_bind]
      unfold publish quoteOf
      by_cases positive : 0 < fee
      · rw [if_pos positive, if_pos positive]
        dsimp only
        cases message height fee.toUInt64 with
        | error overflow => rfl
        | ok message => rfl
      · rw [if_neg positive, if_neg positive]
        rfl

end Told

variable {Rest : Type} {respond : (question : Question) → Rest → Option question.Answer × Rest}
  {tokens : List Token} {height : Int64} {world told : World Rest}
  {parameters : ChainParameters} {estimates : List Int64}

/-- How a refresh ends with a quote: the queue takes it and it is remembered, or nothing changes. -/
def conclude (respond : (question : Question) → Rest → Option question.Answer × Rest)
    (world : World Rest) : Option Quote → Outcome (Except Error Unit) × World Rest
  | none => (.finished (.ok ()), world)
  | some quote =>
    match respond (.publishFee quote.message) world.rest with
    | (some (.ok _), rest) =>
      (.finished (.ok ()), { world with
        memory := { world.memory with currentFee := quote.sun }
        fees := world.fees ++ [quote.message]
        rest })
    | (some (.error failure), rest) => (.finished (.error failure), { world with rest })
    | (none, rest) => (.stalled, { world with rest })

theorem run_offer (quoted : Option Quote) :
    (offer quoted).run.run (World.answer respond) world = conclude respond world quoted := by
  cases quoted with
  | none => rfl
  | some quote =>
      unfold conclude
      dsimp only
      change (Program.ask (.publishFee quote.message) _).run (World.answer respond) world = _
      rw [Action.run_ask, World.answer]
      rcases respond (.publishFee quote.message) world.rest with ⟨_ | failure | _, rest⟩
      · rfl
      · rfl
      · rfl

theorem run_update_of_overflows (height : Int64) {overflow : Overflow}
    (tells : Tells (World.answer respond) tokens world parameters estimates told)
    (first : overflow? (stages parameters tokens estimates) = some overflow) :
    (update tokens height).run.run (World.answer respond) world = (.overflowed overflow, told) := by
  have settles := settles_quote height parameters tokens estimates
  rw [run_update_of_tells height tells, settles.overflows overflow first]
  rfl

theorem run_update_of_fits (height : Int64)
    (tells : Tells (World.answer respond) tokens world parameters estimates told)
    (fits : overflow? (stages parameters tokens estimates) = none) :
    ∃ quoted,
      Quotes height (exactFee parameters (!tokens.isEmpty) (energyOf tokens estimates)) quoted ∧
      (update tokens height).run.run (World.answer respond) world =
        conclude respond told quoted := by
  have settles := settles_quote height parameters tokens estimates
  obtain ⟨quoted, made, quotes⟩ := settles.gives fits
  refine ⟨quoted, quotes, ?_⟩
  rw [run_update_of_tells height tells, made]
  exact run_offer quoted

theorem highest_nonneg (least : ∀ energy ∈ estimates, 0 ≤ energy.toInt) :
    0 ≤ highest estimates := by
  unfold highest
  cases most : (estimates.map Int64.toInt).max? with
  | none => exact Int.le_refl 0
  | some largest =>
      obtain ⟨estimated, -⟩ := List.max?_eq_some_iff.mp most
      obtain ⟨energy, among, rfl⟩ := List.mem_map.mp estimated
      exact least energy among

/-- Nothing that a node tells is negative. -/
structure IsNatural (parameters : ChainParameters) (estimates : List Int64) : Prop where
  bandwidthFee : 0 ≤ parameters.bandwidthFee.toInt
  energyFee : 0 ≤ parameters.energyFee.toInt
  memoFee : 0 ≤ parameters.memoFee.toInt
  estimates : ∀ energy ∈ estimates, 0 ≤ energy.toInt

theorem overflow?_stages_eq_none_iff (natural : IsNatural parameters estimates) :
    overflow? (stages parameters tokens estimates) = none ↔
      energyOf tokens estimates < 2 ^ 63 ∧
        exactFee parameters (!tokens.isEmpty) (energyOf tokens estimates) * 100 < 2 ^ 64 := by
  obtain ⟨bandwidth, energyFee, memo, least⟩ := natural
  have largest := highest_nonneg least
  have spent := Int.mul_nonneg (Int.mul_nonneg largest (by decide : (0 : Int) ≤ 2)) energyFee
  rw [Checked.overflow?_eq_none_iff]
  unfold stages energyStages feeStages rateStages exactFee energyOf Stage.ofSigned
    Stage.ofUnsigned
  cases tokens with
  | nil =>
      have positive : 0 < 284 * parameters.bandwidthFee.toInt + parameters.memoFee.toInt +
        1100000 := by omega
      simp only [List.isEmpty_nil, Bool.not_true, Bool.false_eq_true, if_true, if_false,
        if_pos positive, List.nil_append, List.cons_append, List.forall_mem_cons, Stage.Fits,
        List.not_mem_nil, false_implies, implies_true, and_true]
      omega
  | cons token rest =>
      have positive : 0 < 345 * parameters.bandwidthFee.toInt +
        highest estimates * 2 * parameters.energyFee.toInt + parameters.memoFee.toInt +
        1100000 := by omega
      simp only [List.isEmpty_cons, Bool.not_false, Bool.false_eq_true, if_true, if_false,
        if_pos positive, List.nil_append, List.cons_append, List.forall_mem_cons, Stage.Fits,
        List.not_mem_nil, false_implies, implies_true, and_true]
      generalize highest estimates * 2 * parameters.energyFee.toInt = product at spent ⊢
      omega

/-! ### A refresh is exact or overflows -/

theorem unmoved_of_tells
    (tells : Tells (World.answer respond) tokens world parameters estimates told) :
    Unmoved world told := by
  have quiet := unmoved_price respond tokens world
  rw [run_price_of_tells tells] at quiet
  cases computed : cost parameters tokens estimates with
  | error overflow =>
      rw [computed] at quiet
      exact quiet
  | ok fee =>
      rw [computed] at quiet
      exact quiet

theorem run_refreshFee_of_overflows {overflow : Overflow} {after : World Rest}
    (due : 30 ∣ height.toInt)
    (ran : (update tokens height).run.run (World.answer respond) world =
      (.overflowed overflow, after)) :
    (Scanner.refreshFee tokens height).run (World.answer respond) world =
      (.overflowed overflow, after) := by
  have isDue : height % Scanner.feeInterval = 0 := mod_eq_zero_iff_dvd.mpr due
  unfold Scanner.refreshFee
  rw [if_pos isDue]
  exact Program.run_bind_of_overflows ran

/-- The world at which the scan of a block refreshes the fee. -/
def atRefresh (world : World Rest) (block : Block) (height : Int64) : World Rest :=
  { world with
    memory := { world.memory with ring := Scanner.ringBehind world.memory.ring block height } }

/-- A scan that refreshes the fee overflows with the refresh, before it looks at solvency. -/
theorem run_fetch_of_overflows {surroundings : Surroundings Rest} {block : Block}
    {overflow : Overflow} {after : World Rest} (due : 30 ∣ height.toInt)
    (listed : surroundings.node (.block height) = .ok block)
    (ran : (update tokens height).run.run surroundings.answer (atRefresh world block height) =
      (.overflowed overflow, after)) :
    (Scanner.fetch tokens height).run.run surroundings.answer world =
      (.overflowed overflow, after) := by
  have asked := surroundings.answer_node (.block height) world
  rw [listed] at asked
  unfold Scanner.fetch
  rw [Action.run_bind_of_gives (Action.gives_node.mpr asked)]
  refine Program.run_bind_of_overflows ?_
  rw [Scanner.run_scan]
  exact Program.run_bind_of_overflows (run_refreshFee_of_overflows due ran)

theorem fails_of_untold
    (untold : ∀ parameters estimates told,
      ¬ Tells (World.answer respond) tokens world parameters estimates told) :
    Action.Fails (World.answer respond) (update tokens height) world
        (refresh respond tokens height world) ∧
      Unmoved world (refresh respond tokens height world) := by
  cases refreshes respond tokens height world with
  | failed fails unmoved => exact ⟨fails, unmoved⟩
  | kept gives tells => exact absurd tells (untold _ _ _)
  | published gives tells => exact absurd tells (untold _ _ _)

/-- Every partial result is exact, and the first one for which the machine has no place overflows.
A refresh that is told all it asks for overflows in the same way, changes nothing then and ends the
scan; else it ends with a quote of the exact fee, if that is positive, and the fee changes when the
queue has taken it. A refresh that is not told all fails and changes nothing. Where nothing that is
told is negative, it is enough that the energy and the rate have a place. -/
theorem refresh_is_exact_or_overflows
    (respond : (question : Question) → Rest → Option question.Answer × Rest)
    (tokens : List Token) (height : Int64) (world : World Rest) :
    (∀ estimates, Settles [.ofSigned .multiply (highest estimates * 2)]
      (fun energy : Int64 => energy.toInt = highest estimates * 2) (maxEnergy estimates)) ∧
    (∀ parameters hasTokens energy, Settles (feeStages parameters hasTokens energy.toInt)
      (fun fee : Int64 => fee.toInt = exactFee parameters hasTokens energy.toInt)
      (compute parameters hasTokens energy)) ∧
    (∀ sun, Settles [.ofUnsigned .multiply (sun.toNat * 100)]
      (fun fee => ∃ rate : UInt64, (rate.toNat : Int) = sun.toNat * 100 ∧
        fee = (⟨"TRON", height, 1, rate⟩ : NetworkFee)) (message height sun)) ∧
    (∀ parameters estimates told,
      Tells (World.answer respond) tokens world parameters estimates told →
      Unmoved world told ∧
      (∀ overflow, overflow? (stages parameters tokens estimates) = some overflow →
        (update tokens height).run.run (World.answer respond) world =
          (.overflowed overflow, told)) ∧
      (overflow? (stages parameters tokens estimates) = none →
        ∃ quoted,
          Quotes height (exactFee parameters (!tokens.isEmpty) (energyOf tokens estimates))
            quoted ∧
          (update tokens height).run.run (World.answer respond) world =
            conclude respond told quoted)) ∧
    ((∀ parameters estimates told,
        ¬ Tells (World.answer respond) tokens world parameters estimates told) →
      Action.Fails (World.answer respond) (update tokens height) world
        (refresh respond tokens height world) ∧
      Unmoved world (refresh respond tokens height world)) ∧
    (∀ (surroundings : Surroundings Rest) block parameters estimates told overflow,
      30 ∣ height.toInt → surroundings.node (.block height) = .ok block →
      Tells surroundings.answer tokens (atRefresh world block height) parameters estimates told →
      overflow? (stages parameters tokens estimates) = some overflow →
      (Scanner.fetch tokens height).run.run surroundings.answer world =
        (.overflowed overflow, told)) ∧
    ∀ parameters estimates, IsNatural parameters estimates →
      (overflow? (stages parameters tokens estimates) = none ↔
        energyOf tokens estimates < 2 ^ 63 ∧
          exactFee parameters (!tokens.isEmpty) (energyOf tokens estimates) * 100 < 2 ^ 64) := by
  refine ⟨settles_maxEnergy, fun parameters hasTokens energy => settles_compute parameters _ rfl,
    fun sun => settles_message height sun _ rfl, ?_, fails_of_untold, ?_,
    fun parameters estimates => overflow?_stages_eq_none_iff⟩
  · intro parameters estimates told tells
    exact ⟨unmoved_of_tells tells, fun overflow => run_update_of_overflows height tells,
      run_update_of_fits height tells⟩
  · intro surroundings block parameters estimates told overflow due listed tells first
    exact run_fetch_of_overflows due listed (run_update_of_overflows height tells first)

/-! A token of which a transfer takes much energy, while the reference address is known. -/

def payable : Token := ⟨"TR7NHqjeKQxGTCi8q8ZY4pL8otSzgjLj6t", "USDT", 6⟩

def payer : String := Address.base58OfPayload (0x41 :: List.replicate 20 7)

def estimating : (question : Question) → Unit → Option question.Answer × Unit
  | .node .chainParameters, rest => (some (.ok ⟨1000000, 210, 1000⟩), rest)
  | .node (.estimateEnergy _ _ _ _), rest => (some (.ok 130285), rest)
  | .publishFee _, rest => (some (.ok ()), rest)
  | _, rest => (none, rest)

def addressed : World Unit := ⟨⟨[], 5, some payer, true, 0⟩, [], [], ()⟩

theorem refresh_is_exact_or_overflows_payable :
    (update [payable] 30).run.run (World.answer estimating) addressed =
      (.finished (.ok ()),
        ⟨⟨[], 57164700, some payer, true, 0⟩, [⟨"TRON", 30, 1, 5716470000⟩], [], ()⟩) := by
  obtain ⟨-, -, -, told, -, -, natural⟩ :=
    refresh_is_exact_or_overflows estimating [payable] 30 addressed
  have known : Action.Gives (World.answer estimating) refAddress addressed payer addressed := rfl
  have call : Abi.encodeTransfer payer Amount.zero = .ok _ := Abi.encodeTransfer_base58 rfl _
  have tells : Tells (World.answer estimating) [payable] addressed ⟨1000000, 210, 1000⟩ [130285]
      addressed := by
    refine ⟨payer, addressed, addressed, known, rfl, .inr ⟨nofun, _, call, ?_⟩⟩
    exact .cons rfl (.nil addressed)
  have least : ∀ energy ∈ [(130285 : Int64)], 0 ≤ energy.toInt :=
    List.forall_mem_singleton.mpr (by decide)
  have fits := (natural ⟨1000000, 210, 1000⟩ [130285]
    ⟨by decide, by decide, by decide, least⟩).mpr (by decide)
  obtain ⟨-, -, concludes⟩ := told _ _ _ tells
  obtain ⟨quoted, quotes, ran⟩ := concludes fits
  have sum : exactFee ⟨1000000, 210, 1000⟩ true (energyOf [payable] [130285]) = 57164700 := by
    decide
  rcases quoted with _ | ⟨message, remembered⟩
  · exact absurd (show exactFee _ _ _ ≤ 0 from quotes) (by decide)
  · obtain ⟨-, sun, rate, hundredfold, rfl⟩ := quotes
    change (remembered.toNat : Int) = exactFee _ true _ at sun
    change (rate.toNat : Int) = exactFee _ true _ * 100 at hundredfold
    rw [sum] at sun hundredfold
    have isSun : remembered = 57164700 := UInt64.toNat_inj.mp (Int.ofNat_inj.mp sun)
    have isRate : rate = 5716470000 := UInt64.toNat_inj.mp (Int.ofNat_inj.mp hundredfold)
    rw [ran, isSun, isRate]
    rfl

/-! A node that takes nearly all there is for a byte. -/

def greedy : Surroundings Unit where
  node
    | .block _ => .ok ⟨"", none, []⟩
    | .chainParameters => .ok ⟨1000000, 210, Int64.maxValue⟩
    | _ => .error .settings
  others
    | .bridge .vaults, rest => (.ok [fundedVault], rest)
    | question, rest => Scanner.emptyBlocks.others question rest

/-- The first product of a fee overflows, and with it the scan of a block at which the fee is due.
No error is returned, nothing is published and the fee stays as it was. -/
theorem greedy_aborts_scan :
    ∃ after,
      compute ⟨1000000, 210, Int64.maxValue⟩ false 0 = .error .multiply ∧
      (update [] 30).run.run greedy.answer (.opening ()) = (.overflowed .multiply, after) ∧
      (Scanner.fetch [] 30).run.run greedy.answer (.opening ()) = (.overflowed .multiply, after) ∧
      after.fees = [] ∧ after.memory.currentFee = 0 := by
  have found : Action.Gives greedy.answer refAddress (.opening ()) _ _ :=
    gives_refAddress_fundedVault rfl rfl
  have tells : Tells greedy.answer [] (.opening ()) ⟨1000000, 210, Int64.maxValue⟩ [] _ :=
    ⟨_, _, _, found, rfl, .inl ⟨rfl, rfl, rfl⟩⟩
  have first : overflow? (stages ⟨1000000, 210, Int64.maxValue⟩ [] []) = some .multiply := by
    decide
  have ran := run_update_of_overflows 30 tells first
  exact ⟨_, rfl, ran, run_fetch_of_overflows (by decide) rfl ran, rfl, rfl⟩

end TronGateway.Fee
