import TronGateway.Proofs.Abi
import TronGateway.Proofs.Number.Amount
import TronGateway.Proofs.Payment.Questions
set_option autoImplicit false

/-!
# How much the node is asked to pay

An order is worth something in the units of the protocol chain; the node is asked for that worth at
the precision of the asset. Rounding down can leave nothing, and what is more than the largest
amount of a token becomes the largest amount. An order is refused when it has not one coin that is
worth something, when its TRX do not fit the request, or when its token is not whitelisted.
-/

namespace TronGateway.Payment

variable {State : Type}
  {answer : (question : Question) → State → Option question.Answer × State}
  {payer : Payer} {tokens : List Token} {order : Order} {coin : Coin} {owner recipient : String}
  {state known : State} {now : Int64} {call : NodeCall}

/-- The amount `n` at a precision of `places` decimals that stands for a number of units. -/
structure Pays (units places n : Nat) : Prop where
  amount : n = min (units * 10 ^ places / 10 ^ 8) (2 ^ 128 - 1)
  positive : 0 < n ↔ 10 ^ 8 ≤ units * 10 ^ places
  exact : n = units * 10 ^ places / 10 ^ 8 ↔ units * 10 ^ places / 10 ^ 8 < 2 ^ 128

theorem pays_iff {units places n : Nat} :
    Pays units places n ↔ n = min (units * 10 ^ places / 10 ^ 8) (2 ^ 128 - 1) := by
  constructor
  · intro pays
    exact pays.amount
  · intro amount
    refine ⟨amount, ?_, ?_⟩
    · generalize units * 10 ^ places = worth at amount ⊢
      omega
    · generalize units * 10 ^ places = worth at amount ⊢
      omega

/-- The call asks the node to pay the amount `n` of an asset with `places` decimals. -/
inductive Requests (tokens : List Token) (order : Order) (coin : Coin) (owner recipient : String) :
    Nat → Nat → NodeCall → Prop where
  | trx {sun : UInt64} (gas : coin.asset = Asset.trx) :
      Requests tokens order coin owner recipient 6 sun.toNat
        (.createTransaction owner recipient sun order.memo)
  | token {token : Token} {word : List UInt8} {amount gas : Amount} {limit : UInt64}
      (other : coin.asset ≠ Asset.trx)
      (listed : Token.findByAsset? tokens coin.asset = some token)
      (placed : Abi.addressWord recipient = .ok word)
      (summed : Coin.total order.maxGas Asset.trx = .ok gas)
      (limited : limit.toNat = gas.units / 100) :
      Requests tokens order coin owner recipient token.decimals.toNat amount.units
        (.triggerContract owner token.contract "transfer(address,uint256)"
          (Hex.encode (word ++ Abi.amountWord amount)) limit)

theorem payable_eq_ok_iff {amount : Amount} {fault : String} {value : UInt64} :
    payable amount fault = .ok value ↔ value.toNat = amount.units := by
  unfold payable toUInt64?
  by_cases fits : amount.units < 0x10000000000000000
  · rw [if_pos fits]
    constructor
    · intro same
      cases same
      exact UInt64.toNat_ofNat_of_lt' fits
    · intro same
      rw [← same, UInt64.ofNat_toNat]
  · rw [if_neg fits]
    constructor
    · intro failed
      cases failed
    · intro same
      have small := value.toNat_lt
      omega

theorem payable_of_large {amount : Amount} {fault : String} (large : 2 ^ 64 ≤ amount.units) :
    payable amount fault = .error (.badOrder fault) := by
  have wide : ¬ amount.units < 0x10000000000000000 := Nat.not_lt.mpr large
  unfold payable toUInt64?
  rw [if_neg wide]

theorem units_toSun (amount : Amount) : amount.toSun.units = amount.units / 100 := by
  unfold Amount.toSun
  rw [Amount.units_rescale_down amount (by decide)]
  rfl

theorem payable_toSun_iff {amount : Amount} {fault : String} {sun : UInt64} :
    payable amount.toSun fault = .ok sun ↔ Pays amount.units 6 sun.toNat := by
  have units := amount.units_le
  rw [payable_eq_ok_iff, units_toSun, pays_iff]
  omega

theorem asked_buildTransfer_iff (gas : coin.asset = Asset.trx) :
    .node call ∈ (buildTransfer order coin owner recipient).run.asked answer state ↔
      ∃ places n, Requests tokens order coin owner recipient places n call ∧
        Pays coin.amount.units places n := by
  unfold buildTransfer
  rw [Action.mem_asked_lift_bind]
  constructor
  · rintro ⟨sun, fits, asked⟩
    rw [Action.asked_node, List.mem_singleton] at asked
    cases asked
    exact ⟨6, sun.toNat, .trx gas, payable_toSun_iff.mp fits⟩
  · rintro ⟨places, n, requests, pays⟩
    cases requests with
    | @trx sun _ =>
        refine ⟨sun, payable_toSun_iff.mpr pays, ?_⟩
        rw [Action.asked_node]
        exact List.mem_cons_self
    | token other _ _ _ _ => exact absurd gas other

theorem asked_buildTokenTransfer_iff (other : coin.asset ≠ Asset.trx) :
    .node call ∈ (buildTokenTransfer tokens order coin owner recipient).run.asked answer state ↔
      ∃ places n, Requests tokens order coin owner recipient places n call ∧
        Pays coin.amount.units places n := by
  -- The node is told the method by name, so that only the words behind its selector are sent.
  have dropped (rest : List UInt8) :
      (Abi.selector Abi.transferMethod ++ rest).drop Abi.selectorLength = rest :=
    List.drop_left' (Abi.length_selector _)
  unfold buildTokenTransfer
  constructor
  · intro asked
    cases listed : Token.findByAsset? tokens coin.asset with
    | none =>
        rw [listed] at asked
        cases asked
    | some token =>
        rw [listed] at asked
        dsimp only at asked
        obtain ⟨data, encoded, asked⟩ := Action.mem_asked_lift_bind.mp asked
        obtain ⟨gas, summed, asked⟩ := Action.mem_asked_check_bind.mp asked
        obtain ⟨limit, fits, asked⟩ := Action.mem_asked_lift_bind.mp asked
        rw [Action.asked_node, List.mem_singleton] at asked
        obtain ⟨word, placed, rfl⟩ := Abi.encodeTransfer_eq_ok_iff.mp encoded
        rw [dropped] at asked
        cases asked
        have amount := Amount.units_rescale coin.amount Amount.protocolDecimals token.decimals
        have limited := (payable_eq_ok_iff.mp fits).trans (units_toSun gas)
        exact ⟨token.decimals.toNat, _, .token other listed placed summed limited,
          pays_iff.mpr amount⟩
  · rintro ⟨places, n, requests, pays⟩
    cases requests with
    | trx gas => exact absurd gas other
    | @token token word amount gas limit _ listed placed summed limited =>
        have exact := pays.amount.trans (Amount.units_rescale coin.amount 8 token.decimals).symm
        cases Amount.eq_of_units exact
        have encoded : Abi.encodeTransfer recipient
            (coin.amount.rescale Amount.protocolDecimals token.decimals) = .ok _ :=
          Abi.encodeTransfer_eq_ok_iff.mpr ⟨word, placed, rfl⟩
        have fits : payable gas.toSun "max gas out of range" = .ok limit :=
          payable_eq_ok_iff.mpr (limited.trans (units_toSun gas).symm)
        rw [listed]
        refine Action.mem_asked_lift_bind.mpr ⟨_, encoded, ?_⟩
        refine Action.mem_asked_check_bind.mpr ⟨_, summed, ?_⟩
        refine Action.mem_asked_lift_bind.mpr ⟨_, fits, ?_⟩
        rw [Action.asked_node, dropped]
        exact List.mem_cons_self

theorem asked_build_iff :
    .node call ∈ (build tokens order coin owner recipient).run.asked answer state ↔
      ∃ places n, Requests tokens order coin owner recipient places n call ∧
        Pays coin.amount.units places n := by
  unfold build Asset.isGas
  by_cases gas : coin.asset = Asset.trx
  · rw [if_pos (decide_eq_true gas)]
    exact asked_buildTransfer_iff gas
  · rw [if_neg (mt of_decide_eq_true gas)]
    exact asked_buildTokenTransfer_iff gas

/-! ### Orders -/

/-- The order has one coin that is worth something, and the vault and the recipient can be read. -/
structure Parties (order : Order) (coin : Coin) (owner recipient : String) : Prop where
  single : order.coins = [coin]
  worth : coin.isEmpty = false
  vault : KeyText.address order.vault = .ok owner
  account : Address.toBase58 order.recipient = .ok recipient

/-- The order is not on record and there is a block to bind a transaction to. -/
structure Begins (answer : (question : Question) → State → Option question.Answer × State)
    (order : Order) (state : State) (memory : Memory) (known : State) : Prop where
  unrecorded : ∃ read, answer (.store (.get (PaymentRecord.orderKey order.fingerprint))) state =
      (some (.ok none), read) ∧
    answer .memory read = (some memory, known)
  candidates : memory.ring ≠ []

theorem onlyCoin_eq_ok_iff {coins : List Coin} :
    onlyCoin coins = .ok coin ↔ coins = [coin] ∧ coin.isEmpty = false := by
  unfold onlyCoin
  split
  · next single =>
      cases worth : single.isEmpty with
      | true =>
          constructor
          · intro failed
            cases failed
          · rintro ⟨same, worthy⟩
            cases same
            rw [worth] at worthy
            cases worthy
      | false =>
          constructor
          · intro same
            cases same
            exact ⟨rfl, worth⟩
          · rintro ⟨same, -⟩
            cases same
            rfl
  · next several =>
      constructor
      · intro failed
        cases failed
      · rintro ⟨rfl, -⟩
        exact absurd rfl (several coin)

theorem asked_signUnpaid_iff {ring : List RefBlock} :
    .node call ∈ (signUnpaid payer order ring now).run.asked answer state ↔
      ring ≠ [] ∧ ∃ coin owner recipient places n, Parties order coin owner recipient ∧
        Requests payer.tokens order coin owner recipient places n call ∧
        Pays coin.amount.units places n := by
  rw [signUnpaid_eq]
  cases ring with
  | nil =>
      constructor
      · intro asked
        cases asked
      · rintro ⟨some, -⟩
        exact absurd rfl some
  | cons first rest =>
      rw [if_neg (by exact Bool.false_ne_true)]
      constructor
      · intro asked
        obtain ⟨coin, coinKnown, asked⟩ := Action.mem_asked_lift_bind.mp asked
        obtain ⟨owner, vault, asked⟩ := Action.mem_asked_lift_bind.mp asked
        obtain ⟨recipient, account, asked⟩ := Action.mem_asked_lift_bind.mp asked
        obtain ⟨single, worth⟩ := onlyCoin_eq_ok_iff.mp coinKnown
        rcases Action.mem_asked_bind.mp asked with asked | ⟨shell, built, -, asked⟩
        · obtain ⟨places, n, requests, pays⟩ := asked_build_iff.mp asked
          exact ⟨nofun, coin, owner, recipient, places, n, ⟨single, worth, vault, account⟩,
            requests, pays⟩
        · cases (asks_finish payer order (first :: rest) now shell).asked asked
      · rintro ⟨-, coin, owner, recipient, places, n, parties, requests, pays⟩
        have coinKnown := onlyCoin_eq_ok_iff.mpr ⟨parties.single, parties.worth⟩
        refine Action.mem_asked_lift_bind.mpr ⟨_, coinKnown, ?_⟩
        refine Action.mem_asked_lift_bind.mpr ⟨_, parties.vault, ?_⟩
        refine Action.mem_asked_lift_bind.mpr ⟨_, parties.account, ?_⟩
        apply Action.mem_asked_bind.mpr
        exact .inl (asked_build_iff.mpr ⟨places, n, requests, pays⟩)

theorem run_begun {memory : Memory} (begins : Begins answer order state memory known) :
    (signOrder payer order now).run.run answer state =
      (do
        let tx ← signUnpaid payer order memory.ring now
        return tx.toText : Action String).run.run answer known := by
  obtain ⟨⟨read, unrecorded, remembered⟩, -⟩ := begins
  rw [run_signOrder, Action.run_ask, unrecorded]
  change (Program.ask .memory _).run answer read = _
  rw [Action.run_ask, remembered]
  rfl

/-- There is not one coin that is worth something, or the node cannot be asked for it: the TRX do
not fit the request or the token is not whitelisted. -/
inductive Unpayable (tokens : List Token) (order : Order) : Prop where
  | coins (none : ∀ coin, order.coins = [coin] → coin.isEmpty = true)
  | trx {coin : Coin} {owner recipient : String} (parties : Parties order coin owner recipient)
      (gas : coin.asset = Asset.trx) (large : 2 ^ 64 ≤ coin.amount.units * 10 ^ 6 / 10 ^ 8)
  | token {coin : Coin} {owner recipient : String} (parties : Parties order coin owner recipient)
      (other : coin.asset ≠ Asset.trx) (unlisted : Token.findByAsset? tokens coin.asset = none)

theorem onlyCoin_of_none {coins : List Coin}
    (none : ∀ coin, coins = [coin] → coin.isEmpty = true) :
    ∃ detail, onlyCoin coins = .error (.badOrder detail) := by
  unfold onlyCoin
  split
  · next single =>
      rw [if_pos (none single rfl)]
      exact ⟨_, rfl⟩
  · exact ⟨_, rfl⟩

theorem signUnpaid_of_parties {ring : List RefBlock} (now : Int64) (some : ring ≠ [])
    (parties : Parties order coin owner recipient) :
    signUnpaid payer order ring now =
      build payer.tokens order coin owner recipient >>= finish payer order ring now := by
  have coinKnown := onlyCoin_eq_ok_iff.mpr ⟨parties.single, parties.worth⟩
  have occupied : ring.isEmpty = false := List.isEmpty_eq_false_iff.mpr some
  rw [signUnpaid_eq, occupied, coinKnown, parties.vault, parties.account]
  rfl

theorem run_signUnpaid_of_build {ring : List RefBlock} {failure : Error} (some : ring ≠ [])
    (parties : Parties order coin owner recipient)
    (failed : (build payer.tokens order coin owner recipient).run = .done (.error failure)) :
    (signUnpaid payer order ring now).run = .done (.error failure) := by
  rw [signUnpaid_of_parties now some parties]
  change (build payer.tokens order coin owner recipient).run.bind _ = _
  rw [failed]
  rfl

theorem run_signUnpaid_of_unpayable {ring : List RefBlock} (now : Int64) (some : ring ≠ [])
    (unpayable : Unpayable payer.tokens order) :
    ∃ detail, (signUnpaid payer order ring now).run = .done (.error (.badOrder detail)) := by
  cases unpayable with
  | coins none =>
      obtain ⟨detail, failed⟩ := onlyCoin_of_none none
      have occupied : ring.isEmpty = false := List.isEmpty_eq_false_iff.mpr some
      rw [signUnpaid_eq, occupied, failed]
      exact ⟨detail, rfl⟩
  | @trx coin owner recipient parties gas large =>
      refine ⟨"amount " ++ coin.amount.toText ++ " out of range",
        run_signUnpaid_of_build some parties ?_⟩
      have isGas : coin.asset.isGas = true := decide_eq_true gas
      have wide : 2 ^ 64 ≤ coin.amount.toSun.units := by
        rw [units_toSun]
        omega
      unfold build buildTransfer
      rw [isGas, payable_of_large wide]
      rfl
  | @token coin owner recipient parties other unlisted =>
      refine ⟨coin.asset.toText ++ " is not a whitelisted token",
        run_signUnpaid_of_build some parties ?_⟩
      have notGas : coin.asset.isGas = false := decide_eq_false other
      unfold build buildTokenTransfer
      rw [notGas, unlisted]
      rfl

theorem run_signOrder_of_failure {memory : Memory} {failure : Error}
    (begins : Begins answer order state memory known)
    (failed : (signUnpaid payer order memory.ring now).run = .done (.error failure)) :
    (signOrder payer order now).run.run answer state = (.finished (.error failure), known) := by
  rw [run_begun begins]
  change ((signUnpaid payer order memory.ring now).run.bind _).run answer known = _
  rw [failed]
  rfl

theorem refused_of_unpayable {memory : Memory} (begins : Begins answer order state memory known)
    (unpayable : Unpayable payer.tokens order) :
    ∃ detail, (signOrder payer order now).run.run answer state =
      (.finished (.error (.badOrder detail)), known) := by
  obtain ⟨detail, failed⟩ := run_signUnpaid_of_unpayable now begins.candidates unpayable
  exact ⟨detail, run_signOrder_of_failure begins failed⟩

/-! ### Whole calls -/

theorem asked_afterRecord_iff {read : State} :
    .node call ∈ (afterRecord payer order now (.ok none)).asked answer read ↔
      ∃ memory known, answer .memory read = (some memory, known) ∧
        .node call ∈ (signUnpaid payer order memory.ring now).run.asked answer known := by
  constructor
  · intro asked
    rcases Action.mem_asked_bind.mp asked with asked | ⟨memory, known, remembered, asked⟩
    · have memoryAsks : Action.memory.run.Asks fun question => question = .memory :=
        Action.asks_memory rfl
      cases memoryAsks.asked asked
    · rcases Action.mem_asked_bind.mp asked with asked | ⟨tx, after, -, asked⟩
      · exact ⟨memory, known, Action.gives_memory.mp remembered, asked⟩
      · cases asked
  · rintro ⟨memory, known, remembered, asked⟩
    apply Action.mem_asked_bind.mpr
    refine .inr ⟨memory, known, Action.gives_memory.mpr remembered, ?_⟩
    apply Action.mem_asked_bind.mpr
    exact .inl asked

theorem node_ne_get (call : NodeCall) (key : String) :
    Question.node call ≠ .store (.get key) := by
  intro same
  cases same

theorem asked_begun {memory : Memory} (begins : Begins answer order state memory known) :
    .node call ∈ (signOrder payer order now).run.asked answer state ↔
      .node call ∈ (signUnpaid payer order memory.ring now).run.asked answer known := by
  obtain ⟨⟨read, unrecorded, remembered⟩, -⟩ := begins
  rw [run_signOrder, Program.asked, List.mem_cons, or_iff_right (node_ne_get _ _), unrecorded]
  change _ ∈ (afterRecord payer order now (.ok none)).asked answer read ↔ _
  rw [asked_afterRecord_iff, remembered]
  constructor
  · rintro ⟨found, after, same, asked⟩
    cases same
    exact asked
  · intro asked
    exact ⟨memory, known, rfl, asked⟩

theorem asked_signOrder_iff :
    .node call ∈ (signOrder payer order now).run.asked answer state ↔
      ∃ memory known coin owner recipient places n, Begins answer order state memory known ∧
        Parties order coin owner recipient ∧
        Requests payer.tokens order coin owner recipient places n call ∧
        Pays coin.amount.units places n := by
  constructor
  · intro asked
    rw [run_signOrder, Program.asked, List.mem_cons, or_iff_right (node_ne_get _ _)] at asked
    rcases recorded : answer (.store (.get (PaymentRecord.orderKey order.fingerprint))) state with
      ⟨_ | failure | _ | id, read⟩
    · rw [recorded] at asked
      cases asked
    · rw [recorded] at asked
      cases asked
    · rw [recorded] at asked
      obtain ⟨memory, known, remembered, asked⟩ := asked_afterRecord_iff.mp asked
      obtain ⟨some, coin, owner, recipient, places, n, parties, requests, pays⟩ :=
        asked_signUnpaid_iff.mp asked
      exact ⟨memory, known, coin, owner, recipient, places, n,
        ⟨⟨read, recorded, remembered⟩, some⟩, parties, requests, pays⟩
    · rw [recorded] at asked
      cases asked
  · rintro ⟨memory, known, coin, owner, recipient, places, n, begins, parties, requests, pays⟩
    refine (asked_begun begins).mpr (asked_signUnpaid_iff.mpr ?_)
    exact ⟨begins.candidates, coin, owner, recipient, places, n, parties, requests, pays⟩

theorem not_requested_of_unpayable {n places : Nat} (unpayable : Unpayable tokens order)
    (parties : Parties order coin owner recipient)
    (requests : Requests tokens order coin owner recipient places n call)
    (pays : Pays coin.amount.units places n) : False := by
  have only {other : Coin} {payee account : String} (others : Parties order other payee account) :
      other = coin := by
    have same := others.single.symm.trans parties.single
    cases same
    rfl
  cases unpayable with
  | coins none =>
      have empty := none coin parties.single
      rw [parties.worth] at empty
      cases empty
  | trx others gas large =>
      cases only others
      cases requests with
      | @trx sun _ =>
          have amount := pays.amount
          have small := sun.toNat_lt
          omega
      | token other _ _ _ _ => exact other gas
  | token others other unlisted =>
      cases only others
      cases requests with
      | trx gas => exact other gas
      | token _ listed _ _ _ =>
          rw [unlisted] at listed
          cases listed

/-- The node is asked to pay exactly for the orders that are not on record, whose parties can be
read and whose one coin is worth something, and then for the worth of the coin at the precision of
its asset: rounded down, and no more than the largest amount. That is positive when the coin is
worth at least one unit of that precision, and exact when it does not reach the largest amount. An
order that cannot be paid so is refused, and the node is not asked. -/
theorem signOrder_requests_bounded_floor
    (answer : (question : Question) → State → Option question.Answer × State) (payer : Payer)
    (order : Order) (now : Int64) (state : State) :
    (∀ call, .node call ∈ (signOrder payer order now).run.asked answer state ↔
      ∃ memory known coin owner recipient places n, Begins answer order state memory known ∧
        Parties order coin owner recipient ∧
        Requests payer.tokens order coin owner recipient places n call ∧
        Pays coin.amount.units places n) ∧
    ∀ memory known, Begins answer order state memory known → Unpayable payer.tokens order →
      (∃ detail, (signOrder payer order now).run.run answer state =
        (.finished (.error (.badOrder detail)), known)) ∧
      ∀ call, .node call ∉ (signOrder payer order now).run.asked answer state := by
  constructor
  · intro call
    exact asked_signOrder_iff
  · intro memory known begins unpayable
    constructor
    · exact refused_of_unpayable begins unpayable
    · intro call asked
      obtain ⟨_, _, coin, owner, recipient, places, n, -, parties, requests, pays⟩ :=
        asked_signOrder_iff.mp asked
      exact not_requested_of_unpayable unpayable parties requests pays

/-! An order that is worth less than one sun. -/

def dustOrder : Order where
  chain := chainName
  recipient := Hex.encode (0x41 :: List.replicate 20 0)
  vault := Hex.encode (Curve.PublicKey.uncompressed Curve.generator)
  coins := [Coin.ofTrx ⟨99, by decide⟩]
  memo := "OUT:1"
  maxGas := []
  gasRate := 1
  inHash := ""
  height := 1

def unpaidAnswer : (question : Question) → Memory → Option question.Answer × Memory
  | .store (.get _), memory => (some (.ok none), memory)
  | .memory, memory => (some memory, memory)
  | _, memory => (none, memory)

/-- The node is asked to pay nothing for an order that is not empty. -/
theorem signOrder_requests_nothing_for_dust :
    (∀ coin ∈ dustOrder.coins, coin.isEmpty = false) ∧
      ∃ owner recipient, .node (.createTransaction owner recipient 0 "OUT:1") ∈
        (signOrder ⟨[], ⟨none, false, false⟩⟩ dustOrder 1738705570000).run.asked unpaidAnswer
          ⟨[⟨1738705560000, 68975046, ""⟩], 0, none, true, 0⟩ := by
  have parsed : KeyText.parse dustOrder.vault = .ok Curve.generator := by
    unfold dustOrder
    rw [KeyText.parse_encode]
    rfl
  have account : Address.toBase58 dustOrder.recipient = .ok _ :=
    Address.toBase58_hex List.length_replicate
  have parties : Parties dustOrder (Coin.ofTrx ⟨99, by decide⟩) _ _ :=
    ⟨rfl, rfl, KeyText.address_of_parse parsed, account⟩
  have requests (owner recipient : String) : Requests [] dustOrder (Coin.ofTrx ⟨99, by decide⟩)
      owner recipient 6 (0 : UInt64).toNat (.createTransaction owner recipient 0 "OUT:1") :=
    .trx rfl
  have pays : Pays 99 6 (0 : UInt64).toNat := pays_iff.mpr (by decide)
  have begins : Begins unpaidAnswer dustOrder ⟨[⟨1738705560000, 68975046, ""⟩], 0, none, true, 0⟩
      ⟨[⟨1738705560000, 68975046, ""⟩], 0, none, true, 0⟩ _ := ⟨⟨_, rfl, rfl⟩, nofun⟩
  constructor
  · intro coin member
    cases List.mem_singleton.mp member
    rfl
  · exact ⟨_, _, asked_signOrder_iff.mpr
      ⟨_, _, _, _, _, _, _, begins, parties, requests _ _, pays⟩⟩

end TronGateway.Payment
