import TronGateway.Proofs.Payment
import TronGateway.Proofs.Payment.Success
set_option autoImplicit false

/-!
# Contracts are carried over

The signed data of a payload holds the contracts of the data that the node built, neither more nor
fewer. Nothing looks at how many these are.
-/

namespace TronGateway

/-- The hexadecimal text is that of signed data with these contracts. -/
def Wire.CarriesContracts (hex : String) (contracts : List SignedContract) : Prop :=
  ∃ bytes data, Hex.decode hex = .ok bytes ∧ SignedData.decode bytes = some data ∧
    data.contracts = contracts

namespace NodeCall

variable {service : Service} {request : Http.Request} {reply : Http.Reply} {shell : Transaction}

theorem of_created {owner recipient memo : String} {amount : UInt64}
    (received : (createTransaction owner recipient amount memo).receive service request reply =
      .ok shell) : shell.id ≠ "" ∧ shell.rawHex ≠ "" := by
  obtain ⟨created, -, checked⟩ := bind_eq_ok_iff.mp received
  unfold checkCreated at checked
  split at checked
  · cases checked
  · split at checked
    · cases checked
    · next named =>
        cases checked
        exact not_or.mp named

theorem of_triggered {owner contract selector parameter : String} {feeLimit : UInt64}
    (received : (triggerContract owner contract selector parameter feeLimit).receive service
      request reply = .ok shell) : shell.id ≠ "" := by
  obtain ⟨triggered, -, checked⟩ := bind_eq_ok_iff.mp received
  unfold checkTriggered at checked
  split at checked
  · split at checked
    · split at checked
      · cases checked
      · next named =>
          cases checked
          exact named
    · cases checked
  · cases checked

end NodeCall

namespace Payment

variable {State : Type}
  {answer : (question : Question) → State → Option question.Answer × State}

/-- Every answer of the node is what some reply over HTTP carries. -/
def AnswersOverHttp
    (answer : (question : Question) → State → Option question.Answer × State) : Prop :=
  ∀ call state found after, answer (.node call) state = (some (.ok found), after) →
    ∃ service request reply, call.receive service request reply = .ok found

theorem of_build (node : AnswersOverHttp answer) {tokens : List Token} {order : Order}
    {coin : Coin} {owner recipient : String} {state after : State} {shell : Transaction}
    (gives : Action.Gives answer (build tokens order coin owner recipient) state shell after) :
    shell.id ≠ "" ∧ (coin.asset.isGas = true → shell.rawHex ≠ "") := by
  unfold build at gives
  split at gives
  · obtain ⟨sun, -, built⟩ := of_buildTransfer gives
    obtain ⟨service, request, reply, received⟩ := node _ _ _ _ built
    obtain ⟨named, signed⟩ := NodeCall.of_created received
    exact ⟨named, fun _ => signed⟩
  · next other =>
      obtain ⟨token, call, limit, -, -, built⟩ := of_buildTokenTransfer gives
      obtain ⟨service, request, reply, received⟩ := node _ _ _ _ built
      exact ⟨NodeCall.of_triggered received, fun gas => absurd gas other⟩

/-! ### Signing -/

theorem CarriesBinding.contracts {shell tx : Transaction} {bytes : List UInt8}
    (carries : CarriesBinding shell tx bytes) :
    ∃ contracts, Wire.CarriesContracts shell.rawHex contracts ∧
      Wire.CarriesContracts tx.rawHex contracts := by
  obtain ⟨old, stale, height, hash, data, read, parsed, -, -, -, signed⟩ := carries.fields
  have spelled : Hex.decode tx.rawHex = .ok bytes := by
    rw [carries.hex]
    exact Hex.decode_encode bytes
  exact ⟨stale.contracts, ⟨old, stale, read, parsed, rfl⟩, ⟨bytes, _, spelled, signed, rfl⟩⟩

/-- A payload that pays an order carries the contracts of the data that the node built for it. The
node has named what it built, and for the own coin it has given data to sign. -/
theorem signed_data_keeps_contracts (node : AnswersOverHttp answer) (payer : Payer) (order : Order)
    (now : Int64) (state after : State) (payload : String) (held : Utf8.FitsMemory payload)
    (gives : Action.Gives answer (signOrder payer order now) state payload after)
    (unpaid : payload ≠ "") :
    ∃ coin owner recipient known built shell tx,
      onlyCoin order.coins = .ok coin ∧
      Action.Gives answer (build payer.tokens order coin owner recipient) known shell built ∧
      shell.id ≠ "" ∧ (coin.asset.isGas = true → shell.rawHex ≠ "") ∧
      payload = tx.toText ∧ (shell.IsExact → Transaction.parse payload = some tx) ∧
      (shell.rawHex ≠ "" → ∃ contracts, Wire.CarriesContracts shell.rawHex contracts ∧
        Wire.CarriesContracts tx.rawHex contracts) := by
  obtain ⟨asked, known, memory, tx, -, -, signing, rfl⟩ := of_signOrder gives unpaid
  obtain ⟨coin, owner, recipient, built, shell, coinKnown, -, -, building, finishing⟩ :=
    of_signUnpaid signing
  obtain ⟨⟨block, -, shows⟩, payment⟩ := of_finish finishing
  obtain ⟨bytes, carries, -⟩ := (payment (fitsMemory_rawHex held)).carries
  obtain ⟨named, signed⟩ := of_build node building
  have read : shell.IsExact → Transaction.parse tx.toText = some tx := by
    intro exact
    refine Transaction.parse_toText fun contract member => ?_
    rw [shows.contracts] at member
    exact exact contract member
  exact ⟨coin, owner, recipient, known, built, shell, tx, coinKnown, building, named, signed, rfl,
    read, fun _ => carries.contracts⟩

/-! A node that answers every transfer with the same shell. -/

def shellAnswer (shell : Transaction) :
    (question : Question) → Memory → Option question.Answer × Memory
  | .store (.get _), memory => (some (.ok none), memory)
  | .memory, memory => (some memory, memory)
  | .node (.createTransaction _ _ _ _), memory => (some (.ok shell), memory)
  | .remoteSign hash _ _, memory => (some (.ok (sharedSignature hash)), memory)
  | _, memory => (none, memory)

theorem answersOverHttp_shellAnswer {shell : Transaction} (exact : shell.IsExact)
    (named : shell.id ≠ "") (signed : shell.rawHex ≠ "")
    (plain : shell.entries.all fun member =>
      (Value.ofJson? (Json.maxDepth - 1) member.2).isSome) :
    AnswersOverHttp (shellAnswer shell) := by
  intro call memory found after answered
  cases call with
  | createTransaction owner recipient amount memo =>
      cases answered
      exact ⟨⟨"", "", ""⟩, ⟨.get, "", none⟩, _, NodeCall.receive_toText exact named signed plain
        owner recipient memo amount _ _⟩
  | _ => cases answered

theorem gives_signOrder_shellAnswer {shell tx : Transaction}
    (signed : Action.Gives (shellAnswer shell)
      (signUnpaid sharedPayer sharedOrder [sharedBlock] firstNow) sharedMemory tx sharedMemory) :
    Action.Gives (shellAnswer shell) (signOrder sharedPayer sharedOrder firstNow) sharedMemory
      tx.toText sharedMemory := by
  have unpaid : Action.Gives (shellAnswer shell)
      (Action.ofStored (PaymentRecord.isPaid sharedOrder.fingerprint)) sharedMemory false
      sharedMemory := rfl
  have remembered : shellAnswer shell .memory sharedMemory = (some sharedMemory, sharedMemory) :=
    rfl
  exact gives_signOrder unpaid remembered signed

theorem isExact_of_sharedContracts {tx : Transaction}
    (same : tx.raw.contracts = sharedShell.raw.contracts) : tx.IsExact := by
  intro contract member
  rw [same] at member
  rw [List.mem_singleton.mp member]
  change Value.IsExact (121 + 1) (.object [("amount", .integer 6)])
  rw [Value.IsExact, Value.areExactMembers_iff, List.forall_mem_singleton]
  refine ⟨List.pairwise_singleton _ _, ?_⟩
  rw [Value.IsExact]
  decide

theorem fitsMemory_of_render {tx : Transaction}
    (short : (Utf8.encodeChars (Json.render tx.toJson)).length < 2 ^ 64) :
    Utf8.FitsMemory tx.toText := by
  unfold Utf8.FitsMemory Utf8.byteLength Utf8.encode Transaction.toText Json.toText
  rw [String.toList_ofList]
  exact short

theorem signed_data_keeps_contracts_sharedShell :
    AnswersOverHttp (shellAnswer sharedShell) ∧
      ∃ payload after coin owner recipient known built shell tx,
        Utf8.FitsMemory payload ∧ payload ≠ "" ∧
        Action.Gives (shellAnswer sharedShell) (signOrder sharedPayer sharedOrder firstNow)
          sharedMemory payload after ∧
        onlyCoin sharedOrder.coins = .ok coin ∧
        Action.Gives (shellAnswer sharedShell) (build sharedPayer.tokens sharedOrder coin owner
          recipient) known shell built ∧
        shell.id ≠ "" ∧ (coin.asset.isGas = true → shell.rawHex ≠ "") ∧
        payload = tx.toText ∧ (shell.IsExact → Transaction.parse payload = some tx) ∧
        (shell.rawHex ≠ "" → ∃ contracts, Wire.CarriesContracts shell.rawHex contracts ∧
          Wire.CarriesContracts tx.rawHex contracts) := by
  have node : AnswersOverHttp (shellAnswer sharedShell) :=
    answersOverHttp_shellAnswer (isExact_of_sharedContracts rfl) (by decide) (by decide +kernel)
      (by decide +kernel)
  have signed : Action.Gives (shellAnswer sharedShell)
      (signUnpaid sharedPayer sharedOrder [sharedBlock] firstNow) sharedMemory
      (sharedPayment firstTime (BigEndian.ofNat 32 firstHash)) sharedMemory :=
    gives_sharedPayment (fun _ _ _ _ => rfl) (fun _ _ _ => rfl) rfl rfl rfl digest_first
      recover_first
  have gives := gives_signOrder_shellAnswer signed
  have held : Utf8.FitsMemory
      (sharedPayment firstTime (BigEndian.ofNat 32 firstHash)).toText :=
    fitsMemory_of_render (by decide +kernel)
  have unpaid := toText_ne_empty (sharedPayment firstTime (BigEndian.ofNat 32 firstHash))
  obtain ⟨coin, owner, recipient, known, built, shell, tx, rest⟩ :=
    signed_data_keeps_contracts node _ _ _ _ _ _ held gives unpaid
  exact ⟨node, _, _, coin, owner, recipient, known, built, shell, tx, held, unpaid, gives, rest⟩

/-! A shell that has a name and data to sign, but no contract in them: a time alone. -/

def bareShell : Transaction :=
  { sharedShell with rawHex := "7003" }

def bareParts : Transaction.Parts :=
  { sharedParts with stale := { Wire.SignedData.empty with timestamp := 3 } }

def boundBareShell : Transaction :=
  boundTo bareShell sharedBlock (Hex.encode bareParts.refBlockHash) firstTime (firstTime + 90000)
    sharedOrder.memo

def bareBytes : List UInt8 :=
  (bareParts.renew boundBareShell.raw).encode

def barePayment : Transaction :=
  { boundBareShell.withSigned bareBytes with
    signatures := [Hex.encode ((sharedSignature (Sha256.digest bareBytes)).parts ++ [0])] }

theorem hasParts_boundBareShell : boundBareShell.HasParts bareParts where
  stale := ⟨[0x70, 3], eq_ok_of_toOption (by decide +kernel), by decide +kernel⟩
  refBlockBytes := Hex.decode_encode _
  refBlockHash := Hex.decode_encode _
  data := Hex.decode_encode _

theorem recover_bareBytes :
    (Curve.recover (Sha256.digest bareBytes)
      ((sharedSignature (Sha256.digest bareBytes)).parts ++ [0])).toOption = some sharedKey := by
  decide +kernel

theorem gives_barePayment :
    Action.Gives (shellAnswer bareShell)
      (signUnpaid sharedPayer sharedOrder [sharedBlock] firstNow) sharedMemory barePayment
      sharedMemory := by
  have owner := KeyText.address_of_parse parse_sharedVault
  have recipient : Address.toBase58 sharedOrder.recipient = .ok _ :=
    Address.toBase58_hex List.length_replicate
  have built (owner recipient : String) : Action.Gives (shellAnswer bareShell)
      (build sharedPayer.tokens sharedOrder (Coin.ofTrx ⟨600, by decide⟩) owner recipient)
      sharedMemory bareShell sharedMemory :=
    Action.gives_lift_bind.mpr ⟨_, rfl, Action.gives_node.mpr rfl⟩
  have binding : Action.Gives (shellAnswer bareShell)
      (bindTo bareShell sharedBlock firstTime sharedOrder.memo) sharedMemory
      (boundBareShell.withSigned bareBytes) sharedMemory :=
    gives_bindTo (eq_ok_of_toOption hashText_sharedBlock) rfl hasParts_boundBareShell
  have spelled : Hex.read (boundBareShell.withSigned bareBytes).id =
      .ok (Sha256.digest bareBytes) := Hex.read_encode _
  have verified := verify_eq_ok parse_sharedVault (recover_sharedSignature recover_bareBytes)
  have signing : Action.Gives (shellAnswer bareShell)
      (sign sharedPayer sharedOrder (Sha256.digest bareBytes)) sharedMemory _ sharedMemory :=
    gives_sign rfl rfl rfl (bytes_sharedSignature _) verified
  exact gives_signUnpaid rfl rfl owner recipient (built _ _) rfl rfl binding spelled signing

theorem bareShell_is_signed_without_contract :
    AnswersOverHttp (shellAnswer bareShell) ∧
      ∃ payload after tx, Utf8.FitsMemory payload ∧ payload ≠ "" ∧
        Action.Gives (shellAnswer bareShell) (signOrder sharedPayer sharedOrder firstNow)
          sharedMemory payload after ∧
        Transaction.parse payload = some tx ∧ Wire.CarriesContracts tx.rawHex [] := by
  have read : Transaction.parse barePayment.toText = some barePayment :=
    Transaction.parse_toText (isExact_of_sharedContracts rfl)
  have carries : Wire.CarriesContracts barePayment.rawHex [] :=
    ⟨bareBytes, _, Hex.decode_encode bareBytes,
      Wire.SignedData.decode_encode (bareParts.renew boundBareShell.raw) (by decide +kernel), rfl⟩
  exact ⟨answersOverHttp_shellAnswer (isExact_of_sharedContracts rfl) (by decide) (by decide)
      (by decide +kernel),
    _, _, barePayment, fitsMemory_of_render (by decide +kernel), toText_ne_empty barePayment,
    gives_signOrder_shellAnswer gives_barePayment, read, carries⟩

end Payment
end TronGateway
