import Mathlib.Data.List.Induction
import TronGateway.Fee
import TronGateway.Proofs.Address
import TronGateway.Proofs.Fee.Amount
import TronGateway.Proofs.World
set_option autoImplicit false

/-!
# The fee follows its publication

A refresh of the fee either leaves the fee and the queue as they are, or the queue has taken a new
fee and the scanner remembers it. So after any number of refreshes, whatever fails or overflows in
them, the remembered fee is that of the last message that the queue has taken.
-/

namespace TronGateway.Fee

/-- The fee in sun over the integers. With tokens it is that of the dearest of their estimates. -/
inductive Costs (parameters : ChainParameters) : List Token → List Int64 → Int → Prop where
  | withoutTokens :
      Costs parameters [] []
        (284 * parameters.bandwidthFee.toInt + parameters.memoFee.toInt + 1100000)
  | withTokens {token : Token} {rest : List Token} {estimates : List Int64} {highest : Int64}
      (estimated : highest ∈ estimates)
      (bounds : ∀ energy ∈ estimates, energy.toInt ≤ highest.toInt) :
      Costs parameters (token :: rest) estimates
        (345 * parameters.bandwidthFee.toInt + 2 * highest.toInt * parameters.energyFee.toInt +
          parameters.memoFee.toInt + 1100000)

theorem Costs.unique {parameters : ChainParameters} {tokens : List Token}
    {estimates : List Int64} {sun other : Int} (costs : Costs parameters tokens estimates sun)
    (also : Costs parameters tokens estimates other) : sun = other := by
  cases costs with
  | withoutTokens =>
      cases also with
      | withoutTokens => rfl
  | withTokens estimated bounds =>
      cases also with
      | withTokens reached limits =>
          have above := bounds _ reached
          have below := limits _ estimated
          have same := Int.le_antisymm below above
          rw [same]

theorem costs_of_compute_plain {parameters : ChainParameters} {fee : Int64}
    (computed : compute parameters false 0 = .ok fee) : Costs parameters [] [] fee.toInt := by
  rw [(settles_compute parameters false rfl).of_ok computed]
  exact .withoutTokens

theorem costs_of_compute_energy {parameters : ChainParameters} {token : Token}
    {rest : List Token} {estimates : List Int64} {energy fee : Int64} (some : estimates ≠ [])
    (doubled : maxEnergy estimates = .ok energy)
    (computed : compute parameters true energy = .ok fee) :
    Costs parameters (token :: rest) estimates fee.toInt := by
  have twice := (settles_maxEnergy estimates).of_ok doubled
  have largest := toInt_max? estimates
  cases most : estimates.max? with
  | none => exact absurd (List.max?_eq_none_iff.mp most) some
  | some highest =>
      obtain ⟨estimated, bounds⟩ := List.max?_eq_some_iff.mp most
      rw [most, Option.getD_some] at largest
      rw [← largest, Int.mul_comm] at twice
      rw [(settles_compute parameters true twice).of_ok computed]
      exact .withTokens estimated fun other member =>
        Int64.le_iff_toInt_le.mp (bounds other member)

/-! ### What the surroundings tell -/

section Asking

variable {State : Type}

/-- The node estimates the energy of a call of each token, in order. -/
inductive Estimates (answer : (question : Question) → State → Option question.Answer × State)
    (address parameter : String) : List Token → State → List Int64 → State → Prop where
  | nil (state : State) : Estimates answer address parameter [] state [] state
  | cons {token : Token} {rest : List Token} {state between after : State} {energy : Int64}
      {others : List Int64}
      (asked : answer (.node (.estimateEnergy address token.contract Abi.transferMethod parameter))
        state = (some (.ok energy), between))
      (behind : Estimates answer address parameter rest between others after) :
      Estimates answer address parameter (token :: rest) state (energy :: others) after

/-- The parameters of the chain and the estimates that a refresh gets. The estimates are those of
transfers of nothing, from the reference address to itself. -/
def Tells (answer : (question : Question) → State → Option question.Answer × State)
    (tokens : List Token) (state : State) (parameters : ChainParameters)
    (estimates : List Int64) (after : State) : Prop :=
  ∃ address known priced,
    Action.Gives answer refAddress state address known ∧
    answer (.node .chainParameters) known = (some (.ok parameters), priced) ∧
    ((tokens = [] ∧ estimates = [] ∧ priced = after) ∨
      tokens ≠ [] ∧ ∃ call, Abi.encodeTransfer address Amount.zero = .ok call ∧
        Estimates answer address (Hex.encode (call.drop 4)) tokens priced estimates after)

variable {answer : (question : Question) → State → Option question.Answer × State}
  {tokens : List Token} {state after : State}

theorem gives_estimates {address parameter : String} {found : List Int64} :
    Action.Gives answer (estimates address parameter tokens) state found after ↔
      Estimates answer address parameter tokens state found after := by
  induction tokens generalizing state found with
  | nil =>
      constructor
      · intro gives
        obtain ⟨rfl, rfl⟩ := Action.gives_pure.mp gives
        exact .nil state
      · intro estimated
        cases estimated with
        | nil => exact Action.gives_pure.mpr ⟨rfl, rfl⟩
  | cons token rest ih =>
      constructor
      · intro gives
        obtain ⟨energy, between, asked, gives⟩ := Action.gives_bind.mp gives
        obtain ⟨others, last, behind, gives⟩ := Action.gives_bind.mp gives
        obtain ⟨rfl, rfl⟩ := Action.gives_pure.mp gives
        exact .cons (Action.gives_node.mp asked) (ih.mp behind)
      · intro estimated
        cases estimated with
        | cons asked behind =>
            apply Action.gives_bind.mpr
            refine ⟨_, _, Action.gives_node.mpr asked, ?_⟩
            apply Action.gives_bind.mpr
            exact ⟨_, _, ih.mpr behind, Action.gives_pure.mpr ⟨rfl, rfl⟩⟩

theorem Estimates.length {address parameter : String} {found : List Int64}
    (estimated : Estimates answer address parameter tokens state found after) :
    found.length = tokens.length := by
  induction estimated with
  | nil => rfl
  | cons _ _ ih => rw [List.length_cons, List.length_cons, ih]

theorem Estimates.unique {address parameter : String} {found others : List Int64} {last : State}
    (estimated : Estimates answer address parameter tokens state found after)
    (also : Estimates answer address parameter tokens state others last) : found = others :=
  (Action.Gives.unique (gives_estimates.mpr estimated) (gives_estimates.mpr also)).1

theorem Tells.unique {parameters others : ChainParameters} {found different : List Int64}
    {last : State} (tells : Tells answer tokens state parameters found after)
    (also : Tells answer tokens state others different last) :
    parameters = others ∧ found = different := by
  obtain ⟨address, known, priced, addressed, asked, estimated⟩ := tells
  obtain ⟨place, middle, paid, placed, answered, guessed⟩ := also
  obtain ⟨rfl, rfl⟩ := addressed.unique placed
  rw [asked] at answered
  cases answered
  refine ⟨rfl, ?_⟩
  rcases estimated with ⟨nothing, rfl, -⟩ | ⟨something, call, encoded, estimated⟩
  · rcases guessed with ⟨-, rfl, -⟩ | ⟨something, -⟩
    · rfl
    · exact absurd nothing something
  · rcases guessed with ⟨nothing, -⟩ | ⟨-, other, alike, guessed⟩
    · exact absurd nothing something
    · rw [encoded] at alike
      cases alike
      exact estimated.unique guessed

def energy (tokens : List Token) (address : String) : Action Int64 :=
  if tokens.isEmpty then pure 0 else estimateMaxEnergy tokens address

def price (tokens : List Token) : Action Int64 := do
  let address ← refAddress
  let parameters ← Action.node .chainParameters
  let spent ← energy tokens address
  Action.check (compute parameters (!tokens.isEmpty) spent)

theorem update_eq (tokens : List Token) (height : Int64) :
    update tokens height = price tokens >>= publish height := by
  unfold update price energy
  cases tokens with
  | nil => simp only [List.isEmpty_nil, if_true, bind_assoc]
  | cons token rest =>
      simp only [List.isEmpty_cons, Bool.false_eq_true, if_false, bind_assoc]

theorem of_gives_price {fee : Int64}
    (gives : Action.Gives answer (price tokens) state fee after) :
    ∃ parameters found, Tells answer tokens state parameters found after ∧
      Costs parameters tokens found fee.toInt := by
  obtain ⟨address, known, addressed, gives⟩ := Action.gives_bind.mp gives
  obtain ⟨parameters, priced, asked, gives⟩ := Action.gives_bind.mp gives
  obtain ⟨spent, last, energetic, checked⟩ := Action.gives_bind.mp gives
  obtain ⟨computed, rfl⟩ := Action.gives_check.mp checked
  rw [Action.gives_node] at asked
  cases tokens with
  | nil =>
      obtain ⟨rfl, rfl⟩ := Action.gives_pure.mp energetic
      exact ⟨parameters, [], ⟨address, known, priced, addressed, asked, .inl ⟨rfl, rfl, rfl⟩⟩,
        costs_of_compute_plain computed⟩
  | cons token rest =>
      obtain ⟨call, encoded, gives⟩ := Action.gives_lift_bind.mp energetic
      obtain ⟨found, between, estimated, checked⟩ := Action.gives_bind.mp gives
      obtain ⟨doubled, rfl⟩ := Action.gives_check.mp checked
      rw [gives_estimates] at estimated
      have some : found ≠ [] := by
        intro none
        have length := estimated.length
        rw [none] at length
        cases length
      exact ⟨parameters, found,
        ⟨address, known, priced, addressed, asked, .inr ⟨nofun, call, encoded, estimated⟩⟩,
        costs_of_compute_energy some doubled computed⟩

/-- The question publishes nothing and remembers nothing but a reference address. -/
def IsReading : Question → Prop
  | .publishFee _ => False
  | .offerSolvency _ => False
  | .remember (.refAddress _) => True
  | .remember _ => False
  | _ => True

def IsPricing : Question → Prop
  | .node _ => True
  | .bridge _ => True
  | .memory => True
  | .remember (.refAddress _) => True
  | _ => False

theorem IsPricing.isReading {question : Question} (pricing : IsPricing question) :
    IsReading question := by
  cases question with
  | remember change =>
      cases change with
      | refAddress address => trivial
      | _ => cases pricing
  | publishFee fee => cases pricing
  | offerSolvency report => cases pricing
  | _ => trivial

theorem asks_refAddress : refAddress.run.Asks IsPricing := by
  unfold refAddress
  apply Action.asks_bind (.ask _ _ trivial fun _ => .done _)
  intro memory
  cases memory.refAddress with
  | some address => exact Action.asks_pure _
  | none =>
      apply Action.asks_bind (.ask _ _ trivial fun _ => .done _)
      intro vaults
      apply Action.asks_bind (Action.asks_check _)
      intro funded
      cases funded with
      | none => exact Action.asks_throw _
      | some vault =>
          apply Action.asks_bind (Action.asks_lift _)
          intro address
          apply Action.asks_bind (.ask _ _ trivial fun _ => .done _)
          intro done
          exact Action.asks_pure _

theorem asks_estimates (address parameter : String) (tokens : List Token) :
    (estimates address parameter tokens).run.Asks IsPricing := by
  induction tokens with
  | nil => exact Action.asks_pure _
  | cons token rest ih =>
      apply Action.asks_bind (Action.asks_node trivial)
      intro energy
      apply Action.asks_bind ih
      intro others
      exact Action.asks_pure _

theorem asks_price (tokens : List Token) : (price tokens).run.Asks IsPricing := by
  apply Action.asks_bind asks_refAddress
  intro address
  apply Action.asks_bind (Action.asks_node trivial)
  intro parameters
  apply Action.asks_bind
  · cases tokens with
    | nil => exact Action.asks_pure _
    | cons token rest =>
        apply Action.asks_bind (Action.asks_lift _)
        intro call
        apply Action.asks_bind (asks_estimates _ _ _)
        intro found
        exact Action.asks_check _
  · intro energy
    exact Action.asks_check _

end Asking

/-! ### One refresh -/

variable {Rest : Type}

/-- Neither the queues nor anything that is remembered has changed, but for the reference
address. -/
structure Unmoved (world after : World Rest) : Prop where
  fees : after.fees = world.fees
  reports : after.reports = world.reports
  ring : after.memory.ring = world.memory.ring
  currentFee : after.memory.currentFee = world.memory.currentFee
  healthy : after.memory.healthy = world.memory.healthy
  previousHeight : after.memory.previousHeight = world.memory.previousHeight

variable {respond : (question : Question) → Rest → Option question.Answer × Rest}
  {tokens : List Token} {height : Int64} {world after : World Rest}

theorem Unmoved.refl (world : World Rest) : Unmoved world world :=
  ⟨rfl, rfl, rfl, rfl, rfl, rfl⟩

theorem Unmoved.answered {question : Question} (unmoved : Unmoved world after)
    (reading : IsReading question) : Unmoved world (World.answer respond question after).2 := by
  obtain ⟨fees, reports, ring, currentFee, healthy, previousHeight⟩ := unmoved
  cases question with
  | publishFee fee => cases reading
  | offerSolvency report => cases reading
  | remember change =>
      cases change with
      | refAddress address => exact ⟨fees, reports, ring, currentFee, healthy, previousHeight⟩
      | candidate block => cases reading
      | fee sun => cases reading
      | health healthy => cases reading
      | scanned height => cases reading
  | _ => exact ⟨fees, reports, ring, currentFee, healthy, previousHeight⟩

theorem unmoved_price (respond : (question : Question) → Rest → Option question.Answer × Rest)
    (tokens : List Token) (world : World Rest) :
    Unmoved world ((price tokens).run.run (World.answer respond) world).2 :=
  (asks_price tokens).keeps (fun _ _ pricing unmoved => unmoved.answered pricing.isReading)
    (.refl world)

/-- What a refresh does. It fails and changes nothing, works out a fee that is not positive and
changes nothing, or publishes the fee that it works out and remembers it. -/
inductive Refreshes (respond : (question : Question) → Rest → Option question.Answer × Rest)
    (tokens : List Token) (height : Int64) (world after : World Rest) : Prop where
  | failed (fails : Action.Fails (World.answer respond) (update tokens height) world after)
      (unmoved : Unmoved world after)
  | kept {parameters : ChainParameters} {found : List Int64} {sun : Int} {told : World Rest}
      (gives : Action.Gives (World.answer respond) (update tokens height) world () after)
      (tells : Tells (World.answer respond) tokens world parameters found told)
      (costs : Costs parameters tokens found sun) (notPositive : sun ≤ 0)
      (unmoved : Unmoved world after)
  | published {parameters : ChainParameters} {found : List Int64} {sun : Int}
      {told : World Rest} {fee : NetworkFee}
      (gives : Action.Gives (World.answer respond) (update tokens height) world () after)
      (tells : Tells (World.answer respond) tokens world parameters found told)
      (costs : Costs parameters tokens found sun) (positive : 0 < sun)
      (message : fee.chain = "TRON" ∧ fee.height = height ∧ fee.size = 1)
      (rate : (fee.rate.toNat : Int) = 100 * sun)
      (taken : after.fees = world.fees ++ [fee])
      (currentFee : (after.memory.currentFee.toNat : Int) = sun)
      (reports : after.reports = world.reports)
      (ring : after.memory.ring = world.memory.ring)
      (healthy : after.memory.healthy = world.memory.healthy)
      (previousHeight : after.memory.previousHeight = world.memory.previousHeight)

theorem message_eq_ok {fee : NetworkFee} {sun : UInt64}
    (made : Fee.message height sun = .ok fee) :
    (fee.chain = "TRON" ∧ fee.height = height ∧ fee.size = 1) ∧
      fee.rate.toNat = 100 * sun.toNat := by
  obtain ⟨rate, hundredfold, rfl⟩ := (settles_message height sun _ rfl).of_ok made
  refine ⟨⟨rfl, rfl, rfl⟩, ?_⟩
  change rate.toNat = _
  omega

theorem run_publish {fee : Int64} {message : NetworkFee} (positive : 0 < fee)
    (made : Fee.message height fee.toUInt64 = .ok message) :
    (publish height fee).run = .ask (.publishFee message) fun reply =>
      match reply with
      | .error failure => .done (.error failure)
      | .ok _ => .ask (.remember (.fee fee.toUInt64)) fun _ => .done (.ok ()) := by
  unfold publish
  rw [if_pos positive]
  dsimp only
  rw [made]
  refine congrArg (Program.ask _) (funext fun reply => ?_)
  cases reply with
  | error failure => rfl
  | ok done => rfl

theorem publish_cases (respond : (question : Question) → Rest → Option question.Answer × Rest)
    (height fee : Int64) (world : World Rest) :
    (fee.toInt ≤ 0 ∧ Action.Gives (World.answer respond) (publish height fee) world () world) ∨
      (∃ after, Action.Fails (World.answer respond) (publish height fee) world after ∧
        Unmoved world after) ∨
      (0 < fee.toInt ∧ ∃ message rest, Fee.message height fee.toUInt64 = .ok message ∧
        Action.Gives (World.answer respond) (publish height fee) world ()
          { world with
            memory := { world.memory with currentFee := fee.toUInt64 }
            fees := world.fees ++ [message]
            rest }) := by
  by_cases positive : 0 < fee
  · refine .inr ?_
    cases made : Fee.message height fee.toUInt64 with
    | error overflow =>
        refine .inl ⟨world, ?_, .refl world⟩
        unfold publish
        rw [if_pos positive]
        dsimp only
        rw [made]
        exact ⟨nofun, rfl⟩
    | ok message =>
        unfold Action.Gives Action.Fails
        rw [run_publish positive made, Action.run_ask]
        rcases World.answer_publishFee respond world message with
          ⟨rest, taken⟩ | ⟨reply, rest, refused, answered⟩
        · rw [taken]
          exact .inr ⟨Int64.lt_iff_toInt_lt.mp positive, message, rest, rfl, rfl⟩
        · rw [answered]
          refine .inl ⟨{ world with rest }, ?_, rfl, rfl, rfl, rfl, rfl, rfl⟩
          rcases reply with _ | failure | _
          · exact ⟨nofun, rfl⟩
          · exact ⟨nofun, rfl⟩
          · exact absurd rfl refused
  · have least := mt Int64.lt_iff_toInt_lt.mpr positive
    have zero : (0 : Int64).toInt = 0 := rfl
    unfold publish
    rw [if_neg positive]
    exact .inl ⟨by omega, Action.gives_pure.mpr ⟨rfl, rfl⟩⟩

theorem Unmoved.trans {between : World Rest} (first : Unmoved world between)
    (second : Unmoved between after) : Unmoved world after where
  fees := second.fees.trans first.fees
  reports := second.reports.trans first.reports
  ring := second.ring.trans first.ring
  currentFee := second.currentFee.trans first.currentFee
  healthy := second.healthy.trans first.healthy
  previousHeight := second.previousHeight.trans first.previousHeight

/-- The world after a refresh, however the refresh ends. -/
def refresh (respond : (question : Question) → Rest → Option question.Answer × Rest)
    (tokens : List Token) (height : Int64) (world : World Rest) : World Rest :=
  ((update tokens height).run.run (World.answer respond) world).2

theorem refresh_of_gives
    (gives : Action.Gives (World.answer respond) (update tokens height) world () after) :
    refresh respond tokens height world = after :=
  congrArg Prod.snd gives

theorem refreshes (respond : (question : Question) → Rest → Option question.Answer × Rest)
    (tokens : List Token) (height : Int64) (world : World Rest) :
    Refreshes respond tokens height world (refresh respond tokens height world) := by
  have quiet := unmoved_price respond tokens world
  rcases Action.gives_or_fails (World.answer respond) (price tokens) world with
    ⟨fee, between, gives⟩ | ⟨between, fails⟩
  · rw [congrArg Prod.snd gives] at quiet
    obtain ⟨parameters, found, tells, costs⟩ := of_gives_price gives
    rcases publish_cases respond height fee between with
      ⟨notPositive, done⟩ | ⟨after, fails, unmoved⟩ | ⟨positive, message, rest, made, done⟩
    · have updated := Action.gives_bind.mpr ⟨fee, between, gives, done⟩
      rw [← update_eq] at updated
      rw [refresh_of_gives updated]
      exact .kept updated tells costs notPositive quiet
    · have failed : Action.Fails (World.answer respond) (update tokens height) world after := by
        rw [update_eq]
        exact Action.fails_bind.mpr (.inr ⟨fee, between, gives, fails⟩)
      rw [show refresh respond tokens height world = after from failed.2]
      exact .failed failed (quiet.trans unmoved)
    · have updated := Action.gives_bind.mpr ⟨fee, between, gives, done⟩
      rw [← update_eq] at updated
      obtain ⟨contents, rate⟩ := message_eq_ok made
      -- The fee is positive, so that it is the same number without a sign.
      have sun := Int64.toNat_toUInt64_of_le (Int64.le_iff_toInt_le.mpr (Int.le_of_lt positive))
      have exact : (fee.toUInt64.toNat : Int) = fee.toInt := by
        rw [sun]
        exact Int.toNat_of_nonneg (Int.le_of_lt positive)
      rw [refresh_of_gives updated]
      refine .published updated tells costs positive contents ?_ ?_ exact quiet.reports
        quiet.ring quiet.healthy quiet.previousHeight
      · omega
      · rw [quiet.fees]
  · rw [show _ = between from fails.2] at quiet
    have failed : Action.Fails (World.answer respond) (update tokens height) world between := by
      rw [update_eq]
      exact Action.fails_bind.mpr (.inl fails)
    rw [show refresh respond tokens height world = between from failed.2]
    exact .failed failed quiet

/-! ### Any number of refreshes -/

/-- The world after refreshes at heights, in order. -/
def refreshAll (respond : (question : Question) → Rest → Option question.Answer × Rest)
    (tokens : List Token) : List Int64 → World Rest → World Rest
  | [], world => world
  | height :: rest, world =>
    refreshAll respond tokens rest (refresh respond tokens height world)

/-- The fee in sun of the last message, or nothing. -/
def published (fees : List NetworkFee) : UInt64 :=
  match fees.getLast? with
  | none => 0
  | some fee => fee.rate / 100

/-- A refresh at the height of the message has worked out its rate and published it. -/
def IsEarned (respond : (question : Question) → Rest → Option question.Answer × Rest)
    (tokens : List Token) (heights : List Int64) (opening : World Rest) (fee : NetworkFee) : Prop :=
  ∃ before height behind parameters found sun told,
    heights = before ++ height :: behind ∧
    Tells (World.answer respond) tokens (refreshAll respond tokens before opening) parameters found
      told ∧
    Costs parameters tokens found sun ∧ 0 < sun ∧
    fee.chain = "TRON" ∧ fee.height = height ∧ fee.size = 1 ∧ (fee.rate.toNat : Int) = 100 * sun

theorem refreshAll_append (heights later : List Int64) (world : World Rest) :
    refreshAll respond tokens (heights ++ later) world =
      refreshAll respond tokens later (refreshAll respond tokens heights world) := by
  induction heights generalizing world with
  | nil => rfl
  | cons height rest ih => exact ih (refresh respond tokens height world)

theorem IsEarned.append {heights : List Int64} {opening : World Rest} {fee : NetworkFee}
    (earned : IsEarned respond tokens heights opening fee) (later : List Int64) :
    IsEarned respond tokens (heights ++ later) opening fee := by
  obtain ⟨before, height, behind, parameters, found, sun, told, rfl, rest⟩ := earned
  refine ⟨before, height, behind ++ later, parameters, found, sun, told, ?_, rest⟩
  rw [List.append_assoc, List.cons_append]

theorem published_append (fees : List NetworkFee) (fee : NetworkFee) :
    published (fees ++ [fee]) = fee.rate / 100 := by
  unfold published
  rw [List.getLast?_concat]

theorem eq_rate_div {sun rate : UInt64} {exact : Int}
    (hundredfold : (rate.toNat : Int) = 100 * exact) (same : (sun.toNat : Int) = exact) :
    sun = rate / 100 := by
  apply UInt64.toNat_inj.mp
  rw [UInt64.toNat_div]
  change sun.toNat = rate.toNat / 100
  omega

structure Follows (respond : (question : Question) → Rest → Option question.Answer × Rest)
    (tokens : List Token) (heights : List Int64) (opening world : World Rest) : Prop where
  currentFee : world.memory.currentFee = published world.fees
  earned : ∀ fee ∈ world.fees, IsEarned respond tokens heights opening fee

theorem Follows.of_unmoved {heights : List Int64} {opening : World Rest}
    (follows : Follows respond tokens heights opening world) (unmoved : Unmoved world after)
    (height : Int64) : Follows respond tokens (heights ++ [height]) opening after where
  currentFee := by
    rw [unmoved.currentFee, unmoved.fees]
    exact follows.currentFee
  earned := by
    rw [unmoved.fees]
    intro fee member
    exact (follows.earned fee member).append [height]

theorem follows_refreshAll (respond : (question : Question) → Rest → Option question.Answer × Rest)
    (tokens : List Token) (heights : List Int64) (rest : Rest) :
    Follows respond tokens heights (.opening rest)
      (refreshAll respond tokens heights (.opening rest)) := by
  -- From the last refresh backwards, so that what came before it is a run of its own.
  induction heights using List.reverseRecOn with
  | nil => exact ⟨rfl, List.forall_mem_nil _⟩
  | append_singleton heights height ih =>
      rw [refreshAll_append]
      change Follows _ _ _ _ (refresh _ _ height (refreshAll _ _ heights _))
      have step :=
        refreshes respond tokens height (refreshAll respond tokens heights (.opening rest))
      cases step with
      | failed fails unmoved => exact ih.of_unmoved unmoved height
      | kept gives tells costs notPositive unmoved => exact ih.of_unmoved unmoved height
      | published gives tells costs positive message rate taken currentFee _ _ _ _ =>
          refine ⟨?_, ?_⟩
          · rw [taken, published_append]
            exact eq_rate_div rate currentFee
          · rw [taken]
            intro fee member
            rcases List.mem_append.mp member with earlier | last
            · exact (ih.earned fee earlier).append [height]
            · cases List.mem_singleton.mp last
              exact ⟨heights, height, [], _, _, _, _, rfl, tells, costs, positive, message.1,
                message.2.1, message.2.2, rate⟩

theorem unmoved_of_no_fee {outcome : Outcome (Except Error Unit)}
    (ran : (update tokens height).run.run (World.answer respond) world = (outcome, after))
    (none : outcome ≠ .finished (.ok ()) ∨ ∃ parameters found sun told,
      Tells (World.answer respond) tokens world parameters found told ∧
        Costs parameters tokens found sun ∧ sun ≤ 0) : Unmoved world after := by
  have step := refreshes respond tokens height world
  rw [show refresh respond tokens height world = after from congrArg Prod.snd ran] at step
  cases step with
  | failed fails unmoved => exact unmoved
  | kept gives tells costs notPositive unmoved => exact unmoved
  | published gives tells costs positive _ _ _ _ _ _ _ _ =>
      rcases none with failed | ⟨parameters, found, sun, told, also, alike, notPositive⟩
      · unfold Action.Gives at gives
        rw [ran] at gives
        cases gives
        exact absurd rfl failed
      · obtain ⟨rfl, rfl⟩ := tells.unique also
        have same := costs.unique alike
        omega

/-- After any number of refreshes the remembered fee is nothing while the queue has taken no
message, and that of the last message otherwise; the rate of each message is a hundred times what a
transaction costs by what the refresh at its height was told. A further refresh that fails, that
overflows or that works out no positive fee changes neither the fee nor the queue. -/
theorem currentFee_follows_published
    (respond : (question : Question) → Rest → Option question.Answer × Rest)
    (tokens : List Token) (heights : List Int64) (rest : Rest) :
    let world := refreshAll respond tokens heights (.opening rest)
    world.memory.currentFee = published world.fees ∧
    (∀ fee ∈ world.fees, IsEarned respond tokens heights (.opening rest) fee) ∧
    ∀ height outcome after,
      (update tokens height).run.run (World.answer respond) world = (outcome, after) →
      (outcome ≠ .finished (.ok ()) ∨ ∃ parameters found sun told,
        Tells (World.answer respond) tokens world parameters found told ∧
          Costs parameters tokens found sun ∧ sun ≤ 0) →
      after.memory.currentFee = world.memory.currentFee ∧ after.fees = world.fees := by
  intro world
  obtain ⟨currentFee, earned⟩ :=
    follows_refreshAll respond tokens heights rest
  refine ⟨currentFee, earned, ?_⟩
  intro height outcome after ran none
  have unmoved := unmoved_of_no_fee ran none
  exact ⟨unmoved.currentFee, unmoved.fees⟩

/-! A queue that takes one message and is closed then. -/

def fundedVault : Vault where
  pubKey := Hex.encode (Curve.PublicKey.uncompressed Curve.generator)
  coins := [Coin.ofTrx ⟨2000000, by decide⟩]
  pendingOutbound := []
  status := "ActiveVault"

def fundedAddress : String :=
  Address.base58OfPayload
    (0x41 :: (Keccak256.digest (Curve.PublicKey.coordinates Curve.generator)).drop 12)

theorem gives_refAddress_fundedVault {later : Rest} (unknown : world.memory.refAddress = none)
    (listed : respond (.bridge .vaults) world.rest = (some (.ok [fundedVault]), later)) :
    Action.Gives (World.answer respond) refAddress world fundedAddress
      { world with
        memory := { world.memory with refAddress := some fundedAddress }
        rest := later } := by
  have remembered : Action.Gives (World.answer respond) Action.memory world world.memory world :=
    Action.gives_memory.mpr rfl
  have vaults : World.answer respond (.bridge .vaults) world =
      (some (.ok [fundedVault]), { world with rest := later }) := by
    change ((respond (.bridge .vaults) world.rest).1, { world with
      rest := (respond (.bridge .vaults) world.rest).2 }) = _
    rw [listed]
  have funded : firstFunded? Asset.trx [fundedVault] = .ok (some fundedVault) := rfl
  have parsed : KeyText.parse fundedVault.pubKey = .ok Curve.generator := by
    unfold fundedVault
    rw [KeyText.parse_encode]
    rfl
  have address : KeyText.address fundedVault.pubKey = .ok fundedAddress :=
    KeyText.address_of_parse parsed
  unfold refAddress
  refine Action.gives_bind.mpr ⟨world.memory, world, remembered, ?_⟩
  rw [unknown]
  refine Action.gives_bind.mpr ⟨_, _, Action.gives_bridge.mpr vaults, ?_⟩
  refine Action.gives_check_bind.mpr ⟨some fundedVault, funded, ?_⟩
  refine Action.gives_lift_bind.mpr ⟨fundedAddress, address, ?_⟩
  rfl

def closingRespond : (question : Question) → Bool → Option question.Answer × Bool
  | .bridge .vaults, isOpen => (some (.ok [fundedVault]), isOpen)
  | .node .chainParameters, isOpen => (some (.ok ⟨1000000, 210, 1000⟩), isOpen)
  | .publishFee _, true => (some (.ok ()), false)
  | .publishFee _, false => (some (.error .queueClosed), false)
  | _, isOpen => (none, isOpen)

theorem currentFee_follows_published_closingRespond :
    ∃ address, let world := refreshAll closingRespond [] [30] (.opening true)
      world = ⟨⟨[], 2384000, some address, true, 0⟩, [⟨"TRON", 30, 1, 238400000⟩], [], false⟩ ∧
      IsEarned closingRespond [] [30] (.opening true) ⟨"TRON", 30, 1, 238400000⟩ ∧
      ∃ after, (update [] 60).run.run (World.answer closingRespond) world =
          (.finished (.error .queueClosed), after) ∧
        after.memory.currentFee = world.memory.currentFee ∧ after.fees = world.fees := by
  have found : Action.Gives (World.answer closingRespond) refAddress (.opening true) fundedAddress
      ⟨⟨[], 0, some fundedAddress, true, 0⟩, [], [], true⟩ := gives_refAddress_fundedVault rfl rfl
  have updated : Action.Gives (World.answer closingRespond) (update [] 30) (.opening true) () _ :=
    Action.gives_bind.mpr ⟨_, _, found, rfl⟩
  have taken : refreshAll closingRespond [] [30] (.opening true) =
      ⟨⟨[], 2384000, some fundedAddress, true, 0⟩, [⟨"TRON", 30, 1, 238400000⟩], [], false⟩ :=
    refresh_of_gives updated
  obtain ⟨-, earned, unmoved⟩ := currentFee_follows_published closingRespond [] [30] true
  rw [taken] at earned unmoved ⊢
  have refused := unmoved 60 (.finished (.error .queueClosed)) _ rfl (.inl nofun)
  exact ⟨_, rfl, earned _ List.mem_cons_self, _, rfl, refused⟩

end TronGateway.Fee
