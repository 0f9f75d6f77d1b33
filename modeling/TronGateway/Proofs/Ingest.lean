import TronGateway.Ingest
import TronGateway.Proofs.Abi
import TronGateway.Proofs.Action
import TronGateway.Proofs.Number.Amount
import TronGateway.Proofs.Program
import TronGateway.Proofs.Text.Blank
set_option autoImplicit false

/-!
# Which transactions are inbound transfers

`IsInbound` says without an order of checks what makes a transaction an inbound transfer, and
`Reports` what is reported of it. A transaction is reported exactly when it is inbound and the node
tells its fee; the node is asked about inbound transactions only, and about each of them once.
-/

namespace TronGateway

namespace Ingest

/-- The contract moves TRX, as the payment says. -/
structure MovesTrx (contract : Contract) (payment : Payment) (value : TransferValue) : Prop where
  kind : contract.kind = "TransferContract"
  wellFormed : TransferValue.ofValue? contract.value = some value
  notNegative : 0 ≤ value.amount.toInt
  sender : Address.toBase58 value.owner = .ok payment.sender
  recipient : Address.toBase58 value.recipient = .ok payment.recipient
  asset : payment.coin.asset = Asset.trx
  decimals : payment.coin.decimals = 6
  units : (payment.coin.amount.units : Int) = 100 * value.amount.toInt

/-- The contract transfers an amount of a whitelisted token to an account, as the payment says. -/
structure MovesToken (tokens : List Token) (contract : Contract) (payment : Payment)
    (value : TriggerValue) (token : Token) (account : List UInt8) (amount : Amount) : Prop where
  kind : contract.kind = "TriggerSmartContract"
  wellFormed : TriggerValue.ofValue? contract.value = some value
  whitelisted : ∃ address, Address.toBase58 value.contract = .ok address ∧
    Token.findByContract? tokens address = some token
  callData : ∃ data, Hex.SpellsMarked value.data.toList data ∧
    Abi.IsTransferTo account amount data
  length : account.length = 20
  sender : Address.toBase58 value.owner = .ok payment.sender
  recipient : payment.recipient = Address.base58OfPayload (0x41 :: account)
  asset : payment.coin.asset = token.asset
  decimals : payment.coin.decimals = token.decimals
  units : payment.coin.amount.units =
    min (amount.units * 10 ^ 8 / 10 ^ token.decimals.toNat) (2 ^ 128 - 1)

def Moves (tokens : List Token) (contract : Contract) (payment : Payment) : Prop :=
  (∃ value, MovesTrx contract payment value) ∨
    ∃ value token account amount, MovesToken tokens contract payment value token account amount

/-- The transaction makes a payment, with a memo. -/
structure IsInbound (tokens : List Token) (tx : Transaction) (payment : Payment) (memo : String) :
    Prop where
  successful : tx.outcomes.head? = some (some "SUCCESS")
  single : ∃ contract, tx.raw.contracts = [contract] ∧ Moves tokens contract payment
  spelled : ∃ text, Hex.Spells tx.raw.data.toList (Utf8.encode text) ∧ Text.trim text = memo
  notBlank : memo ≠ ""

/-- The report of a payment with a memo by a transaction that cost a fee in sun. -/
structure Reports (tx : Transaction) (height : Int64) (payment : Payment) (memo : String)
    (fee : Int64) (item : Transfer) : Prop where
  tx : item.tx = tx.id
  height : item.height = height
  sender : item.sender = payment.sender
  recipient : item.recipient = payment.recipient
  coins : item.coins = [payment.coin]
  gas : ∃ gas : Amount, item.gas = [⟨Asset.trx, gas, 6⟩] ∧
    (gas.units : Int) = max (100 * max fee.toInt 0) 1
  memo : item.memo = memo

theorem toNat_toUInt64 {n : Int64} (notNegative : 0 ≤ n.toInt) :
    (n.toUInt64.toNat : Int) = n.toInt := by
  rw [Int64.toNat_toUInt64_of_le (Int64.le_iff_toInt_le.mpr notNegative)]
  exact Int.toNat_of_nonneg notNegative

theorem toInt_max_zero (n : Int64) : (max n 0).toInt = max n.toInt 0 := by
  have zero : (0 : Int64).toInt = 0 := rfl
  change (if n ≤ 0 then (0 : Int64) else n).toInt = _
  by_cases less : n ≤ 0
  · have below := Int64.le_iff_toInt_le.mp less
    rw [if_pos less]
    omega
  · have above := mt Int64.le_iff_toInt_le.mpr less
    rw [if_neg less]
    omega

theorem units_ofSun_of_not_negative {n : Int64} (notNegative : 0 ≤ n.toInt) :
    ((Amount.ofSun (Amount.ofUInt64 n.toUInt64)).units : Int) = 100 * n.toInt := by
  have same := toNat_toUInt64 notNegative
  rw [Amount.units_ofSun_ofUInt64]
  omega

theorem units_gas (fee : Int64) :
    ((gas fee).units : Int) = max (100 * max fee.toInt 0) 1 := by
  have clamped := toInt_max_zero fee
  have exact := units_ofSun_of_not_negative (n := max fee 0) (by omega)
  unfold gas
  dsimp only
  by_cases nothing : (Amount.ofSun (Amount.ofUInt64 (max fee 0).toUInt64)).units = 0
  · rw [if_pos nothing, Amount.units_saturate]
    omega
  · rw [if_neg nothing]
    omega

/-! ### Contracts -/

theorem coin_eq_iff {coin other : Coin} :
    coin = other ↔ coin.asset = other.asset ∧ coin.amount.units = other.amount.units ∧
      coin.decimals = other.decimals := by
  constructor
  · rintro rfl
    exact ⟨rfl, rfl, rfl⟩
  · rcases coin with ⟨asset, amount, decimals⟩
    rintro ⟨rfl, units, rfl⟩
    cases Amount.eq_of_units units
    rfl

theorem transferPayment_eq_ok_iff {txId : String} {contract : Contract} {payment : Payment}
    (kind : contract.kind = transferKind) :
    transferPayment txId contract.value = .ok payment ↔
      ∃ value, MovesTrx contract payment value := by
  unfold transferPayment
  constructor
  · intro read
    split at read
    · cases read
    · next value wellFormed =>
        split at read
        · cases read
        · next notNegative =>
            have least := mt Int64.lt_iff_toInt_lt.mpr notNegative
            have zero : (0 : Int64).toInt = 0 := rfl
            have fits : 0 ≤ value.amount.toInt := by omega
            obtain ⟨sender, owner, rest⟩ := bind_eq_ok_iff.mp read
            obtain ⟨recipient, target, done⟩ := bind_eq_ok_iff.mp rest
            cases done
            exact ⟨value, kind, wellFormed, fits, owner, target, rfl, rfl,
              units_ofSun_of_not_negative fits⟩
  · rintro ⟨value, moves⟩
    have zero : (0 : Int64).toInt = 0 := rfl
    have fits := moves.notNegative
    have notNegative : ¬ value.amount < 0 := by
      intro negative
      have below := Int64.lt_iff_toInt_lt.mp negative
      omega
    have units := units_ofSun_of_not_negative fits
    have coin : payment.coin = Coin.ofTrx (Amount.ofSun (Amount.ofUInt64 value.amount.toUInt64)) :=
      coin_eq_iff.mpr ⟨moves.asset, Int.ofNat_inj.mp (moves.units.trans units.symm),
        moves.decimals⟩
    rw [moves.wellFormed]
    dsimp only
    rw [if_neg notNegative, moves.sender, moves.recipient]
    change Except.ok (Payment.mk payment.sender payment.recipient _) = _
    rw [← coin]

theorem triggerPayment_eq_some_iff {tokens : List Token} {contract : Contract} {payment : Payment}
    (kind : contract.kind = triggerKind) :
    triggerPayment tokens contract.value = .ok (some payment) ↔
      ∃ value token account amount,
        MovesToken tokens contract payment value token account amount := by
  unfold triggerPayment
  constructor
  · intro read
    split at read
    · cases read
    · next value wellFormed =>
        obtain ⟨address, target, rest⟩ := bind_eq_ok_iff.mp read
        split at rest
        · cases rest
        · next token listed =>
            obtain ⟨call, called, rest⟩ := bind_eq_ok_iff.mp rest
            cases call with
            | none => cases rest
            | some call =>
                obtain ⟨sender, owner, done⟩ := bind_eq_ok_iff.mp rest
                cases done
                obtain ⟨account, data, length, spelled, transfer, recipient⟩ :=
                  Abi.decodeCallText_eq_some_iff.mp called
                exact ⟨value, token, account, call.amount, kind, wellFormed,
                  ⟨address, target, listed⟩, ⟨data, spelled, transfer⟩, length, owner, recipient,
                  rfl, rfl, Amount.units_rescale _ _ _⟩
  · rintro ⟨value, token, account, amount, moves⟩
    obtain ⟨address, target, listed⟩ := moves.whitelisted
    obtain ⟨data, spelled, transfer⟩ := moves.callData
    have called : Abi.decodeCallText value.data = .ok (some ⟨payment.recipient, amount⟩) :=
      Abi.decodeCallText_eq_some_iff.mpr
        ⟨account, data, moves.length, spelled, transfer, moves.recipient⟩
    have units : (tokenCoin token amount).amount.units =
        min (amount.units * 10 ^ 8 / 10 ^ token.decimals.toNat) (2 ^ 128 - 1) :=
      Amount.units_rescale _ _ _
    have coin : payment.coin = tokenCoin token amount :=
      coin_eq_iff.mpr ⟨moves.asset, moves.units.trans units.symm, moves.decimals⟩
    rw [moves.wellFormed]
    refine bind_eq_ok_iff.mpr ⟨address, target, ?_⟩
    rw [listed]
    refine bind_eq_ok_iff.mpr ⟨_, called, bind_eq_ok_iff.mpr ⟨_, moves.sender, ?_⟩⟩
    rw [← coin]
    rfl

theorem payment_eq_some_iff {tokens : List Token} {txId : String} {contract : Contract}
    {payment : Payment} :
    Ingest.payment tokens txId contract = .ok (some payment) ↔ Moves tokens contract payment := by
  unfold Ingest.payment Moves
  by_cases trx : contract.kind = transferKind
  · rw [if_pos trx, ← transferPayment_eq_ok_iff trx]
    -- A contract is of one kind, so only one of the two payments is possible.
    have other : contract.kind ≠ triggerKind := by
      rw [trx]
      decide
    cases transferPayment txId contract.value with
    | error failure =>
        constructor
        · intro read
          cases read
        · rintro (read | ⟨value, token, account, amount, moves⟩)
          · cases read
          · exact absurd moves.kind other
    | ok found =>
        constructor
        · intro read
          cases read
          exact .inl rfl
        · rintro (read | ⟨value, token, account, amount, moves⟩)
          · cases read
            rfl
          · exact absurd moves.kind other
  · rw [if_neg trx]
    have notTrx : ¬ ∃ value, MovesTrx contract payment value := by
      rintro ⟨value, moves⟩
      exact trx moves.kind
    rw [or_iff_right notTrx]
    by_cases trigger : contract.kind = triggerKind
    · rw [if_pos trigger, triggerPayment_eq_some_iff trigger]
    · rw [if_neg trigger]
      constructor
      · intro read
        cases read
      · rintro ⟨value, token, account, amount, moves⟩
        exact absurd moves.kind trigger

/-! ### Transactions -/

theorem effectiveContract?_eq_some_iff {tx : Transaction} {contract : Contract} :
    effectiveContract? tx = some contract ↔
      tx.outcomes.head? = some (some "SUCCESS") ∧ tx.raw.contracts = [contract] := by
  unfold effectiveContract?
  split
  · next single outcome rest contracts outcomes =>
      rw [contracts, outcomes]
      by_cases success : outcome = "SUCCESS"
      · simp [successOutcome, success]
      · simp [successOutcome, success]
  · next other =>
      constructor
      · intro found
        cases found
      · rintro ⟨head, contracts⟩
        obtain ⟨rest, outcomes⟩ := List.head?_eq_some_iff.mp head
        exact absurd outcomes (other contract "SUCCESS" rest contracts)

theorem memo_eq_ok_iff {tx : Transaction} {memo : String} :
    Ingest.memo tx = .ok memo ↔
      ∃ text, Hex.Spells tx.raw.data.toList (Utf8.encode text) ∧ Text.trim text = memo := by
  unfold Ingest.memo
  rw [bind_eq_ok_iff]
  constructor
  · rintro ⟨bytes, spelled, read⟩
    split at read
    · next text decoded =>
        cases read
        rw [Utf8.decode_eq_ok_iff] at decoded
        rw [Hex.read_eq_ok_iff, Hex.decode_eq_ok_iff, decoded] at spelled
        exact ⟨text, spelled, rfl⟩
    · cases read
  · rintro ⟨text, spelled, trimmed⟩
    refine ⟨Utf8.encode text, Hex.read_eq_ok_iff.mpr (Hex.decode_eq_ok_iff.mpr spelled), ?_⟩
    rw [Utf8.decode_eq_ok_iff.mpr rfl]
    change Except.ok (Text.trim text) = _
    rw [trimmed]

def inbound (tokens : List Token) (tx : Transaction) :
    Except Error (Option (Payment × String)) := do
  match effectiveContract? tx with
  | none => return none
  | some contract =>
    match ← payment tokens tx.id contract with
    | none => return none
    | some payment =>
      let memo ← memo tx
      if memo = "" then return none else return some (payment, memo)

theorem inbound_eq_some_iff {tokens : List Token} {tx : Transaction} {payment : Payment}
    {memo : String} :
    inbound tokens tx = .ok (some (payment, memo)) ↔ IsInbound tokens tx payment memo := by
  unfold inbound
  constructor
  · intro found
    split at found
    · cases found
    · next contract effective =>
        obtain ⟨successful, single⟩ := effectiveContract?_eq_some_iff.mp effective
        obtain ⟨pays, paid, rest⟩ := bind_eq_ok_iff.mp found
        cases pays with
        | none => cases rest
        | some pays =>
            obtain ⟨text, read, rest⟩ := bind_eq_ok_iff.mp rest
            split at rest
            · cases rest
            · next notBlank =>
                cases rest
                exact ⟨successful, ⟨contract, single, payment_eq_some_iff.mp paid⟩,
                  memo_eq_ok_iff.mp read, notBlank⟩
  · rintro ⟨successful, ⟨contract, single, moves⟩, spelled, notBlank⟩
    rw [effectiveContract?_eq_some_iff.mpr ⟨successful, single⟩]
    refine bind_eq_ok_iff.mpr ⟨_, payment_eq_some_iff.mpr moves, ?_⟩
    refine bind_eq_ok_iff.mpr ⟨_, memo_eq_ok_iff.mpr spelled, ?_⟩
    rw [if_neg notBlank]
    rfl

def report (tx : Transaction) (height : Int64) (payment : Payment) (memo : String) (fee : Int64) :
    Transfer :=
  ⟨tx.id, height, payment.sender, payment.recipient, [payment.coin], [Coin.ofTrx (gas fee)], memo⟩

theorem reports_iff {tx : Transaction} {height : Int64} {payment : Payment} {memo : String}
    {fee : Int64} {item : Transfer} :
    Reports tx height payment memo fee item ↔ report tx height payment memo fee = item := by
  have units := units_gas fee
  constructor
  · intro reports
    obtain ⟨paid, coins, exact⟩ := reports.gas
    have coin : Coin.ofTrx (gas fee) = ⟨Asset.trx, paid, 6⟩ :=
      coin_eq_iff.mpr ⟨rfl, Int.ofNat_inj.mp (units.trans exact.symm), rfl⟩
    unfold report
    rw [coin, ← coins, ← reports.tx, ← reports.height, ← reports.sender, ← reports.recipient,
      ← reports.coins, ← reports.memo]
  · rintro rfl
    exact ⟨rfl, rfl, rfl, rfl, rfl, ⟨gas fee, rfl, units⟩, rfl⟩

theorem liftM_ok {α : Type} (value : α) :
    (liftM (Except.ok value : Except Error α) : Action α) = pure value := rfl

theorem run_transfer (tokens : List Token) (tx : Transaction) (height : Int64) :
    (transfer tokens tx height).run =
      match inbound tokens tx with
      | .error failure => .done (.error failure)
      | .ok none => .done (.ok none)
      | .ok (some (payment, memo)) =>
        .ask (.node (.transactionInfo tx.id)) fun reply =>
          .done (reply.map fun info => some (report tx height payment memo info.fee)) := by
  unfold transfer inbound
  cases effectiveContract? tx with
  | none => rfl
  | some contract =>
      dsimp only
      cases payment tokens tx.id contract with
      | error failure => rfl
      | ok pays =>
          cases pays with
          | none => rfl
          | some pays =>
              cases memo tx with
              | error failure => rfl
              | ok text =>
                  simp only [liftM_ok, pure_bind, ok_bind]
                  by_cases blank : text = ""
                  · rw [if_pos blank, if_pos blank]
                    rfl
                  · rw [if_neg blank, if_neg blank]
                    refine congrArg (Program.ask _) (funext fun reply => ?_)
                    cases reply with
                    | error failure => rfl
                    | ok info => rfl

variable {State : Type}
  {answer : (question : Question) → State → Option question.Answer × State}

theorem transfer_cases (tokens : List Token) (tx : Transaction) (height : Int64) :
    (∃ payment memo, IsInbound tokens tx payment memo ∧
      (transfer tokens tx height).run = .ask (.node (.transactionInfo tx.id)) fun reply =>
        .done (reply.map fun info => some (report tx height payment memo info.fee))) ∨
    ((¬ ∃ payment memo, IsInbound tokens tx payment memo) ∧
      ∃ result, (transfer tokens tx height).run = .done result ∧
        ∀ item, result ≠ .ok (some item)) := by
  rw [run_transfer]
  rcases found : inbound tokens tx with failure | ⟨⟩ | ⟨payment, memo⟩
  · refine .inr ⟨?_, _, rfl, by simp⟩
    rintro ⟨payment, memo, inbound⟩
    rw [← inbound_eq_some_iff, found] at inbound
    cases inbound
  · refine .inr ⟨?_, _, rfl, by simp⟩
    rintro ⟨payment, memo, inbound⟩
    rw [← inbound_eq_some_iff, found] at inbound
    cases inbound
  · exact .inl ⟨payment, memo, inbound_eq_some_iff.mp found, rfl⟩

theorem IsInbound.unique {tokens : List Token} {tx : Transaction} {payment other : Payment}
    {memo text : String} (inbound : IsInbound tokens tx payment memo)
    (also : IsInbound tokens tx other text) : payment = other ∧ memo = text := by
  rw [← inbound_eq_some_iff] at inbound also
  rw [inbound] at also
  cases also
  exact ⟨rfl, rfl⟩

/-- The memo is what the data spell between the blanks around it, and it begins with no blank. -/
theorem IsInbound.memo_isTrimmed {tokens : List Token} {tx : Transaction} {payment : Payment}
    {memo : String} (inbound : IsInbound tokens tx payment memo) :
    (∃ text, Hex.Spells tx.raw.data.toList (Utf8.encode text) ∧
      Text.IsTrimmed text.toList memo.toList) ∧
      ∃ c ∈ memo.toList.head?, Text.isBlank c = false := by
  obtain ⟨text, spelled, trimmed⟩ := inbound.spelled
  have between : Text.IsTrimmed text.toList memo.toList := Text.trim_eq_iff.mp trimmed
  refine ⟨⟨text, spelled, between⟩, ?_⟩
  cases head : memo.toList.head? with
  | none =>
      have empty : memo = "" := String.toList_eq_nil_iff.mp (List.head?_eq_none_iff.mp head)
      exact absurd empty inbound.notBlank
  | some c => exact ⟨c, rfl, between.first c head⟩

theorem gives_transfer_iff {tokens : List Token} {tx : Transaction} {height : Int64}
    {state after : State} {item : Transfer} :
    Action.Gives answer (transfer tokens tx height) state (some item) after ↔
      ∃ payment memo info, IsInbound tokens tx payment memo ∧
        answer (.node (.transactionInfo tx.id)) state = (some (.ok info), after) ∧
        Reports tx height payment memo info.fee item := by
  unfold Action.Gives
  rcases transfer_cases tokens tx height with
    ⟨payment, memo, inbound, run⟩ | ⟨never, result, run, nothing⟩
  · rw [run, Action.run_ask]
    rcases answered : answer (.node (.transactionInfo tx.id)) state with
      ⟨none | failure | info, between⟩
    · simp
    · simp [Program.run, Except.map]
    · constructor
      · intro gives
        cases gives
        exact ⟨payment, memo, info, inbound, rfl, reports_iff.mpr rfl⟩
      · rintro ⟨other, text, told, also, same, reports⟩
        obtain ⟨rfl, rfl⟩ := inbound.unique also
        cases same
        rw [← reports_iff.mp reports]
        rfl
  · rw [run]
    constructor
    · intro gives
      cases gives
      exact absurd rfl (nothing item)
    · rintro ⟨payment, memo, info, inbound, -⟩
      exact absurd ⟨payment, memo, inbound⟩ never

end Ingest
end TronGateway
