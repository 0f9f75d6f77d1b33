import TronGateway.Proofs.Json.Size
import TronGateway.Proofs.Node.Reply
import TronGateway.Proofs.Number.Checked
import TronGateway.Proofs.Payment.Questions
import TronGateway.Proofs.RefBlock
import TronGateway.Proofs.Transaction.Rehash
set_option autoImplicit false

/-!
# What a signed payment is

The payload that pays an order is the transaction that the node built, bound to a block of the ring
as the memory held it when it was asked, stamped, and signed once by the vault. What happens to the
memory while the node and the signers are asked is without consequence.
-/

namespace TronGateway.Payment

variable {State : Type}
  {answer : (question : Question) → State → Option question.Answer × State}

theorem of_stamp {now value : Int64} (made : stamp now = .ok value) :
    value.toInt % 10000 = 0 ∧ now.toInt - 20000 < value.toInt ∧
      value.toInt ≤ now.toInt - 10000 := by
  unfold stamp at made
  cases rounding : Checked.sub now (Int64.ofInt (now.toInt % stampAccuracy.toInt)) with
  | error overflow =>
      rw [rounding] at made
      cases made
  | ok rounded =>
      rw [rounding] at made
      change Checked.sub rounded stampAccuracy = .ok value at made
      have step : stampAccuracy.toInt = 10000 := rfl
      have back := Checked.toInt_of_sub made
      have down := Checked.toInt_of_sub rounding
      rw [step] at back down
      rw [Int64.toInt_ofInt_of_le (by omega) (by omega)] at down
      omega

theorem of_rehash {tx after : Transaction} (done : tx.rehash = .ok after) :
    ∃ parts, tx.HasParts parts ∧ after = tx.withSigned (parts.renew tx.raw).encode := by
  unfold Transaction.rehash at done
  rcases Transaction.rehashInPlace_cases tx with ⟨parts, known, ran⟩ | ⟨-, failure, ran⟩
  · rw [ran] at done
    cases done
    exact ⟨parts, known, rfl⟩
  · rw [ran] at done
    cases done

/-! ### Binding -/

/-- The fields that `tx` shows are those of the shell, with a time, a block and a memo in them. -/
structure ShowsBinding (shell tx : Transaction) (block : RefBlock) (memo : String) : Prop where
  expiration : tx.raw.expiration.toInt = tx.raw.timestamp.toInt + 90000
  /-- Four lower-case digits. -/
  height : ∃ bytes, tx.raw.refBlockBytes = Hex.encode bytes ∧ bytes.length = 2 ∧
    (BigEndian.toNat bytes : Int) = block.height.toInt % 65536
  id_long : 32 ≤ Utf8.byteLength block.id
  id_part : Utf8.encode tx.raw.refBlockHash = ((Utf8.encode block.id).drop 16).take 16
  memo_hex : tx.raw.data = Hex.encode (Utf8.encode memo)
  visible : tx.visible = shell.visible
  outcomes : tx.outcomes = shell.outcomes
  contracts : tx.raw.contracts = shell.raw.contracts
  feeLimit : tx.raw.feeLimit = shell.raw.feeLimit

/-- The bytes that are signed are those of the shell, with the five fields that `tx` shows. -/
structure CarriesBinding (shell tx : Transaction) (bytes : List UInt8) : Prop where
  hex : tx.rawHex = Hex.encode bytes
  id : tx.id = Hex.encode (Sha256.digest bytes)
  fields : ∃ old stale height hash data, Hex.decode shell.rawHex = .ok old ∧
    Wire.SignedData.decode old = some stale ∧
    Hex.decode tx.raw.refBlockBytes = .ok height ∧
    Hex.decode tx.raw.refBlockHash = .ok hash ∧
    Hex.decode tx.raw.data = .ok data ∧
    Wire.SignedData.decode bytes = some { stale with
      timestamp := tx.raw.timestamp
      expiration := tx.raw.expiration
      refBlockBytes := height
      refBlockHash := hash
      data := data }

theorem ShowsBinding.withSignatures {shell tx : Transaction} {block : RefBlock} {memo : String}
    (shows : ShowsBinding shell tx block memo) (signatures : List String) :
    ShowsBinding shell { tx with signatures } block memo where
  expiration := shows.expiration
  height := shows.height
  id_long := shows.id_long
  id_part := shows.id_part
  memo_hex := shows.memo_hex
  visible := shows.visible
  outcomes := shows.outcomes
  contracts := shows.contracts
  feeLimit := shows.feeLimit

theorem CarriesBinding.withSignatures {shell tx : Transaction} {bytes : List UInt8}
    (carries : CarriesBinding shell tx bytes) (signatures : List String) :
    CarriesBinding shell { tx with signatures } bytes where
  hex := carries.hex
  id := carries.id
  fields := carries.fields

theorem of_bindTo {shell tx : Transaction} {block : RefBlock} {stamp : Int64} {memo : String}
    {state after : State}
    (gives : Action.Gives answer (bindTo shell block stamp memo) state tx after) :
    state = after ∧ tx.raw.timestamp = stamp ∧ tx.signatures = shell.signatures ∧
      ShowsBinding shell tx block memo ∧
      (Utf8.FitsMemory tx.rawHex → ∃ bytes, CarriesBinding shell tx bytes) := by
  unfold bindTo at gives
  obtain ⟨hash, found, gives⟩ := Action.gives_lift_bind.mp gives
  obtain ⟨expiration, exact, gives⟩ := Action.gives_check_bind.mp gives
  obtain ⟨rehashed, rfl⟩ := Action.gives_lift.mp gives
  obtain ⟨idPart, idLong⟩ := RefBlock.of_hashText found
  obtain ⟨parts, known, rfl⟩ := of_rehash rehashed
  refine ⟨rfl, rfl, rfl, ?_, ?_⟩
  · exact {
      expiration := Checked.toInt_of_add exact
      height := ⟨_, rfl, RefBlock.length_heightBytes _, RefBlock.toNat_heightBytes _⟩
      id_long := idLong
      id_part := idPart
      memo_hex := rfl
      visible := rfl
      outcomes := rfl
      contracts := rfl
      feeLimit := rfl }
  · intro held
    obtain ⟨old, read, parsed⟩ := known.stale
    have fits := Transaction.length_lt_of_fitsMemory held
    have decoded := Wire.SignedData.decode_encode (parts.renew _) fits
    exact ⟨_, {
      hex := rfl
      id := rfl
      fields := ⟨old, parts.stale, _, _, _, read, parsed, known.refBlockBytes,
        known.refBlockHash, known.data, decoded⟩ }⟩

theorem of_verify {hash signature : List UInt8} {vault : String}
    (verified : Signer.verify hash signature vault = .ok ()) :
    ∃ key, KeyText.parse vault = .ok key ∧ Signer.recover hash signature = .ok key := by
  unfold Signer.verify at verified
  cases expected : KeyText.parse vault with
  | error failure =>
      rw [expected] at verified
      cases verified
  | ok key =>
      cases recovered : Signer.recover hash signature with
      | error failure =>
          rw [expected, recovered] at verified
          cases verified
      | ok signer =>
          rw [expected, recovered] at verified
          change (if signer = key then Except.ok () else Except.error Error.signVerifyFailed) =
            .ok () at verified
          split at verified
          · next same =>
              rw [same]
              exact ⟨key, rfl, rfl⟩
          · cases verified

theorem length_of_recover {hash signature : List UInt8} {key : Curve.PublicKey}
    (recovered : Signer.recover hash signature = .ok key) : signature.length = 65 := by
  unfold Signer.recover at recovered
  split at recovered
  · cases recovered
  · next wanted => exact not_not.mp wanted

theorem of_confirmed {hash made signature : List UInt8} {vault : String} {state after : State}
    (gives : Action.Gives answer (do Signer.verify hash made vault; return made)
      state signature after) :
    signature.length = 65 ∧
      ∃ key, KeyText.parse vault = .ok key ∧ Signer.recover hash signature = .ok key := by
  obtain ⟨_, verified, gives⟩ := Action.gives_lift_bind.mp gives
  obtain ⟨rfl, rfl⟩ := Action.gives_pure.mp gives
  obtain ⟨key, parsed, recovered⟩ := of_verify verified
  exact ⟨length_of_recover recovered, key, parsed, recovered⟩

theorem of_sign {payer : Payer} {order : Order} {hash signature : List UInt8} {state after : State}
    (gives : Action.Gives answer (sign payer order hash) state signature after) :
    signature.length = 65 ∧
      ∃ key, KeyText.parse order.vault = .ok key ∧ Signer.recover hash signature = .ok key := by
  unfold sign at gives
  dsimp only at gives
  split at gives
  · obtain ⟨made, _, _, gives⟩ := Action.gives_bind.mp gives
    exact of_confirmed gives
  · split at gives
    · obtain ⟨made, _, _, gives⟩ := Action.gives_bind.mp gives
      exact of_confirmed gives
    · obtain ⟨made, _, thrown, -⟩ := Action.gives_bind.mp gives
      exact absurd thrown Action.not_gives_throw

/-- Every answer of the node is what some reply over HTTP carries, and its transactions hold no
binary numbers. -/
def NodeOverHttp
    (answer : (question : Question) → State → Option question.Answer × State) : Prop :=
  ∀ call state found after, answer (.node call) state = (some (.ok found), after) →
    call.FloatFree found ∧ ∃ service request reply, call.receive service request reply = .ok found

theorem of_buildTransfer {order : Order} {coin : Coin} {owner recipient : String}
    {state after : State} {shell : Transaction}
    (gives : Action.Gives answer (buildTransfer order coin owner recipient) state shell after) :
    ∃ sun, payable coin.amount.toSun ("amount " ++ coin.amount.toText ++ " out of range") =
        .ok sun ∧
      answer (.node (.createTransaction owner recipient sun order.memo)) state =
        (some (.ok shell), after) := by
  unfold buildTransfer at gives
  obtain ⟨sun, known, gives⟩ := Action.gives_lift_bind.mp gives
  exact ⟨sun, known, Action.gives_node.mp gives⟩

theorem of_buildTokenTransfer {tokens : List Token} {order : Order} {coin : Coin}
    {owner recipient : String} {state after : State} {shell : Transaction}
    (gives : Action.Gives answer (buildTokenTransfer tokens order coin owner recipient) state shell
      after) :
    ∃ token call limit, Token.findByAsset? tokens coin.asset = some token ∧
      Abi.encodeTransfer recipient
        (coin.amount.rescale Amount.protocolDecimals token.decimals) = .ok call ∧
      answer (.node (.triggerContract owner token.contract Abi.transferMethod
        (Hex.encode (call.drop Abi.selectorLength)) limit)) state = (some (.ok shell), after) := by
  unfold buildTokenTransfer at gives
  split at gives
  · exact absurd gives Action.not_gives_throw
  · next token listed =>
      obtain ⟨call, encoded, gives⟩ := Action.gives_lift_bind.mp gives
      obtain ⟨gas, -, gives⟩ := Action.gives_check_bind.mp gives
      obtain ⟨limit, -, gives⟩ := Action.gives_lift_bind.mp gives
      exact ⟨token, call, limit, listed, encoded, Action.gives_node.mp gives⟩

/-- What is built is what the node answers, and a text carries it exactly. -/
theorem isExact_of_build (node : NodeOverHttp answer) {tokens : List Token} {order : Order}
    {coin : Coin} {owner recipient : String} {state after : State} {shell : Transaction}
    (gives : Action.Gives answer (build tokens order coin owner recipient) state shell after) :
    shell.IsExact := by
  unfold build at gives
  split at gives
  · obtain ⟨sun, -, built⟩ := of_buildTransfer gives
    obtain ⟨free, service, request, reply, received⟩ := node _ _ _ _ built
    exact NodeCall.isExact_of_created received free
  · obtain ⟨token, call, limit, -, -, built⟩ := of_buildTokenTransfer gives
    obtain ⟨free, service, request, reply, received⟩ := node _ _ _ _ built
    exact NodeCall.isExact_of_triggered received free

/-! ### Whole payments -/

/-- The vault of an order has signed `bytes`, once, behind the signatures that were there. -/
def SignedOnce (order : Order) (shell tx : Transaction) (bytes : List UInt8) : Prop :=
  ∃ signature key, tx.signatures = shell.signatures ++ [Hex.encode signature] ∧
    Utf8.byteLength (Hex.encode signature) = 130 ∧ KeyText.parse order.vault = .ok key ∧
    Signer.recover (Sha256.digest bytes) signature = .ok key

/-- A transaction pays an order out of a shell that the node built. -/
structure IsPayment (order : Order) (now : Int64) (ring : List RefBlock) (shell tx : Transaction) :
    Prop where
  stamped : stamp now = .ok tx.raw.timestamp
  stamp_whole : tx.raw.timestamp.toInt % 10000 = 0
  stamp_recent : now.toInt - 20000 < tx.raw.timestamp.toInt ∧
    tx.raw.timestamp.toInt ≤ now.toInt - 10000
  shows : ∃ block, RefBlock.select ring tx.raw.timestamp = some block ∧
    ShowsBinding shell tx block order.memo
  carries : ∃ bytes, CarriesBinding shell tx bytes ∧ SignedOnce order shell tx bytes

theorem of_signUnpaid {payer : Payer} {order : Order} {ring : List RefBlock} {now : Int64}
    {state after : State} {tx : Transaction}
    (gives : Action.Gives answer (signUnpaid payer order ring now) state tx after) :
    ∃ coin owner recipient built shell, onlyCoin order.coins = .ok coin ∧
      KeyText.address order.vault = .ok owner ∧ Address.toBase58 order.recipient = .ok recipient ∧
      Action.Gives answer (build payer.tokens order coin owner recipient) state shell built ∧
      Action.Gives answer (finish payer order ring now shell) built tx after := by
  rw [signUnpaid_eq] at gives
  split at gives
  · exact absurd gives Action.not_gives_throw
  · obtain ⟨coin, coinKnown, gives⟩ := Action.gives_lift_bind.mp gives
    obtain ⟨owner, ownerKnown, gives⟩ := Action.gives_lift_bind.mp gives
    obtain ⟨recipient, recipientKnown, gives⟩ := Action.gives_lift_bind.mp gives
    obtain ⟨shell, built, building, gives⟩ := Action.gives_bind.mp gives
    exact ⟨coin, owner, recipient, built, shell, coinKnown, ownerKnown, recipientKnown, building,
      gives⟩

theorem of_finish {payer : Payer} {order : Order} {ring : List RefBlock} {now : Int64}
    {state after : State} {shell tx : Transaction}
    (gives : Action.Gives answer (finish payer order ring now shell) state tx after) :
    (∃ block, RefBlock.select ring tx.raw.timestamp = some block ∧
      ShowsBinding shell tx block order.memo) ∧
    (Utf8.FitsMemory tx.rawHex → IsPayment order now ring shell tx) := by
  unfold finish at gives
  obtain ⟨time, made, gives⟩ := Action.gives_check_bind.mp gives
  split at gives
  · exact absurd gives Action.not_gives_throw
  · next block selected =>
      obtain ⟨bound, _, binding, gives⟩ := Action.gives_bind.mp gives
      obtain ⟨hash, idRead, gives⟩ := Action.gives_lift_bind.mp gives
      obtain ⟨signature, _, signing, gives⟩ := Action.gives_bind.mp gives
      obtain ⟨rfl, rfl⟩ := Action.gives_pure.mp gives
      obtain ⟨-, stamped, same, shows, carried⟩ := of_bindTo binding
      have referred : ∃ block, RefBlock.select ring bound.raw.timestamp = some block ∧
          ShowsBinding shell { bound with
            signatures := bound.signatures ++ [Hex.encode signature] } block order.memo :=
        ⟨block, stamped ▸ selected, shows.withSignatures _⟩
      refine ⟨referred, ?_⟩
      intro held
      obtain ⟨bytes, carries⟩ := carried held
      obtain ⟨length, key, parsed, recovered⟩ := of_sign signing
      obtain ⟨whole, early, late⟩ := of_stamp made
      -- What was signed is the digest that the id spells.
      rw [carries.id, Hex.read_encode] at idRead
      cases idRead
      exact {
        stamped := stamped ▸ made
        stamp_whole := stamped ▸ whole
        stamp_recent := stamped ▸ ⟨early, late⟩
        shows := referred
        carries := ⟨bytes, carries.withSignatures _, signature, key, by rw [same],
          by rw [Hex.byteLength_encode, length], parsed, recovered⟩ }

theorem of_signOrder {payer : Payer} {order : Order} {now : Int64} {state after : State}
    {payload : String} (gives : Action.Gives answer (signOrder payer order now) state payload after)
    (unpaid : payload ≠ "") :
    ∃ asked known memory tx,
      Action.Gives answer (Action.ofStored (PaymentRecord.isPaid order.fingerprint))
        state false asked ∧
      answer .memory asked = (some memory, known) ∧
      Action.Gives answer (signUnpaid payer order memory.ring now) known tx after ∧
      payload = tx.toText := by
  unfold signOrder at gives
  obtain ⟨paid, asked, looked, gives⟩ := Action.gives_bind.mp gives
  cases paid with
  | true =>
      obtain ⟨same, -⟩ := Action.gives_pure.mp gives
      exact absurd same.symm unpaid
  | false =>
      obtain ⟨memory, known, remembered, gives⟩ := Action.gives_bind.mp gives
      obtain ⟨tx, _, signing, gives⟩ := Action.gives_bind.mp gives
      obtain ⟨rfl, rfl⟩ := Action.gives_pure.mp gives
      exact ⟨asked, known, memory, tx, looked, Action.gives_memory.mp remembered, signing, rfl⟩

theorem gives_signOrder {payer : Payer} {order : Order} {now : Int64} {memory : Memory}
    {tx : Transaction} {state asked known after : State}
    (looked : Action.Gives answer (Action.ofStored (PaymentRecord.isPaid order.fingerprint)) state
      false asked)
    (remembered : answer .memory asked = (some memory, known))
    (signed : Action.Gives answer (signUnpaid payer order memory.ring now) known tx after) :
    Action.Gives answer (signOrder payer order now) state tx.toText after := by
  have printed : Action.Gives answer (pure tx.toText) after tx.toText after :=
    Action.gives_pure.mpr ⟨rfl, rfl⟩
  unfold signOrder
  refine Action.gives_bind.mpr ⟨false, asked, looked, ?_⟩
  refine Action.gives_bind.mpr ⟨memory, known, Action.gives_memory.mpr remembered, ?_⟩
  exact Action.gives_bind.mpr ⟨tx, after, signed, printed⟩

theorem fitsMemory_rawHex {tx : Transaction} (held : Utf8.FitsMemory tx.toText) :
    Utf8.FitsMemory tx.rawHex := by
  have member : ("raw_data_hex", Json.ofText tx.rawHex) ∈ tx.entries := by
    unfold Transaction.entries
    apply List.mem_append_left
    apply List.mem_append_left
    apply List.mem_append_right
    exact List.mem_cons_of_mem _ (List.mem_cons_of_mem _ List.mem_cons_self)
  exact Nat.lt_of_le_of_lt (Json.byteLength_le_toText member) held

/-- A payload that pays an order is read back as a payment out of what the node built. The reference
is the choice from the ring that the memory held when it was asked, before the node and the signers
were asked for anything. -/
theorem signOrder_is_payment (node : NodeOverHttp answer) (payer : Payer) (order : Order)
    (now : Int64) (state after : State) (payload : String) (held : Utf8.FitsMemory payload)
    (gives : Action.Gives answer (signOrder payer order now) state payload after)
    (unpaid : payload ≠ "") :
    ∃ asked known memory coin owner recipient built shell tx,
      Action.Gives answer (Action.ofStored (PaymentRecord.isPaid order.fingerprint))
        state false asked ∧
      answer .memory asked = (some memory, known) ∧
      onlyCoin order.coins = .ok coin ∧ KeyText.address order.vault = .ok owner ∧
      Address.toBase58 order.recipient = .ok recipient ∧
      Action.Gives answer (build payer.tokens order coin owner recipient) known shell built ∧
      Transaction.parse payload = some tx ∧
      IsPayment order now memory.ring shell tx := by
  obtain ⟨asked, known, memory, tx, looked, remembered, signing, rfl⟩ := of_signOrder gives unpaid
  obtain ⟨coin, owner, recipient, built, shell, coinKnown, ownerKnown, recipientKnown, building,
    finishing⟩ := of_signUnpaid signing
  obtain ⟨⟨block, -, shows⟩, payment⟩ := of_finish finishing
  have exact : tx.IsExact := by
    intro contract member
    rw [shows.contracts] at member
    exact isExact_of_build node building contract member
  exact ⟨asked, known, memory, coin, owner, recipient, built, shell, tx, looked, remembered,
    coinKnown, ownerKnown, recipientKnown, building, Transaction.parse_toText exact,
    payment (fitsMemory_rawHex held)⟩

/-! A payment during which the scanner finds a further block. -/

def knownBlock : RefBlock where
  timestamp := 1738705560000
  height := 68975046
  id := Hex.encode [0, 0, 0, 0, 4, 0x1c, 0x79, 0xc6, 0xa3, 0xd2, 3, 4, 5, 6, 7, 8]

def builtShell : Transaction where
  visible := some true
  id := "00"
  raw := ⟨[⟨.object [("amount", .integer 5)], "T", transferKind, none⟩], "", "", 0, 3, "", none⟩
  rawHex := "7003"
  signatures := []
  outcomes := []

/-- The key that the signature of the payment is recovered to. -/
def knownVault : String :=
  Hex.encode [2, 24, 77, 109, 175, 255, 86, 64, 201, 31, 195, 178, 92, 165, 162, 220, 197, 164, 243,
    18, 145, 212, 11, 190, 148, 184, 130, 206, 213, 156, 94, 174, 159]

def knownOrder : Order where
  chain := chainName
  recipient := Hex.encode (0x41 :: List.replicate 20 0)
  vault := knownVault
  coins := [Coin.ofTrx ⟨5, by decide⟩]
  memo := "OUT:1"
  maxGas := []
  gasRate := 1
  inHash := ""
  height := 1

/-- Surroundings in which a block is found while the node builds. -/
def knownAnswer : (question : Question) → Memory → Option question.Answer × Memory
  | .store (.get _), memory => (some (.ok none), memory)
  | .memory, memory => (some memory, memory)
  | .node (.createTransaction _ _ _ _), memory =>
    (some (.ok builtShell), memory.apply (.candidate ⟨1738705562000, 68975047, ""⟩))
  | .remoteSign _ _ _, memory =>
    (some (.ok ⟨BigEndian.ofNat 32 Curve.generator.x ++ BigEndian.ofNat 32 1, 0⟩), memory)
  | _, memory => (none, memory)

theorem nodeOverHttp_knownAnswer : NodeOverHttp knownAnswer := by
  have free : builtShell.FloatFree := by
    intro contract member
    rw [List.mem_singleton.mp member]
    simp only [Value.FloatFree, Value.FloatFreeMembers, and_self]
  have exact : builtShell.IsExact := by
    intro contract member
    rw [List.mem_singleton.mp member]
    change Value.IsExact (121 + 1) (.object [("amount", .integer 5)])
    rw [Value.IsExact, Value.areExactMembers_iff, List.forall_mem_singleton]
    refine ⟨List.pairwise_singleton _ _, ?_⟩
    rw [Value.IsExact]
    decide
  intro call memory found after answered
  cases call with
  | createTransaction owner recipient amount memo =>
      cases answered
      exact ⟨free, ⟨"", "", ""⟩, ⟨.get, "", none⟩, _, NodeCall.receive_toText exact (by decide)
        (by decide) (by decide +kernel) owner recipient memo amount _ _⟩
  | _ => cases answered

def endsHeld : Outcome (Except Error Transaction) → Bool
  | .finished (.ok tx) => (Utf8.encodeChars (Json.render tx.toJson)).length < 2 ^ 64
  | _ => false

theorem gives_of_endsHeld {action : Action Transaction} {state : State}
    (ended : endsHeld (action.run.run answer state).1 = true) :
    ∃ tx after, Action.Gives answer action state tx after ∧
      (Utf8.encodeChars (Json.render tx.toJson)).length < 2 ^ 64 := by
  unfold Action.Gives
  generalize action.run.run answer state = ran at ended
  obtain ⟨outcome, after⟩ := ran
  cases outcome with
  | finished result =>
      cases result with
      | error failure => cases ended
      | ok tx => exact ⟨tx, after, rfl, of_decide_eq_true ended⟩
  | overflowed overflow => cases ended
  | stalled => cases ended

theorem toText_ne_empty (tx : Transaction) : tx.toText ≠ "" := by
  intro empty
  have chars := congrArg String.toList empty
  unfold Transaction.toText Json.toText at chars
  rw [String.toList_ofList, Transaction.toJson, Json.ofMembers, Json.render] at chars
  cases chars

theorem signOrder_knownOrder_is_payment :
    ∃ payload after,
      NodeOverHttp knownAnswer ∧ Utf8.FitsMemory payload ∧ payload ≠ "" ∧
      Action.Gives knownAnswer (signOrder ⟨[], ⟨none, true, false⟩⟩ knownOrder 1738705583123)
        ⟨[knownBlock], 0, none, true, 0⟩ payload after ∧
      ∃ asked known memory coin owner recipient built shell tx,
        Action.Gives knownAnswer (Action.ofStored (PaymentRecord.isPaid knownOrder.fingerprint))
          ⟨[knownBlock], 0, none, true, 0⟩ false asked ∧
        knownAnswer .memory asked = (some memory, known) ∧
        onlyCoin knownOrder.coins = .ok coin ∧ KeyText.address knownOrder.vault = .ok owner ∧
        Address.toBase58 knownOrder.recipient = .ok recipient ∧
        Action.Gives knownAnswer (build [] knownOrder coin owner recipient) known shell built ∧
        Transaction.parse payload = some tx ∧
        IsPayment knownOrder 1738705583123 memory.ring shell tx := by
  have ended : endsHeld ((signUnpaid ⟨[], ⟨none, true, false⟩⟩ knownOrder [knownBlock]
      1738705583123).run.run knownAnswer ⟨[knownBlock], 0, none, true, 0⟩).1 = true := by
    decide +kernel
  obtain ⟨tx, after, signed, held⟩ := gives_of_endsHeld ended
  have fits : Utf8.FitsMemory tx.toText := by
    unfold Utf8.FitsMemory Utf8.byteLength Utf8.encode Transaction.toText Json.toText
    rw [String.toList_ofList]
    exact held
  have unpaid : Action.Gives knownAnswer
      (Action.ofStored (PaymentRecord.isPaid knownOrder.fingerprint))
      ⟨[knownBlock], 0, none, true, 0⟩ false ⟨[knownBlock], 0, none, true, 0⟩ := rfl
  have gives : Action.Gives knownAnswer
      (signOrder ⟨[], ⟨none, true, false⟩⟩ knownOrder 1738705583123)
      ⟨[knownBlock], 0, none, true, 0⟩ tx.toText after := gives_signOrder unpaid rfl signed
  have paid := signOrder_is_payment nodeOverHttp_knownAnswer _ _ _ _ _ _ fits gives
    (toText_ne_empty tx)
  exact ⟨_, _, nodeOverHttp_knownAnswer, fits, toText_ne_empty tx, gives, paid⟩

end TronGateway.Payment
