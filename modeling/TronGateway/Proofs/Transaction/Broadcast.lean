import TronGateway.Proofs.Json.Untyped
import TronGateway.Proofs.Node.Reply
set_option autoImplicit false

/-!
# What the node receives

A signed transaction is handed on as a text. To be broadcast the text is read as an untyped value,
whose members are sorted, and that value is posted. The node reads from it the transaction that was
signed.
-/

namespace TronGateway

open Json (IsSettled Members readText readList readNullable)

namespace Contract

theorem readParameter_settled : IsSettled readParameter := by
  unfold readParameter
  simp only [Option.bind_eq_bind]
  apply Json.record_settled
  apply Members.stable_bind (Members.stable_optional _ Json.readValue_settled (by decide))
  intro value
  apply Members.stable_bind (Members.stable_optional _ Json.readText_settled (by decide))
  intro typeUrl
  exact Members.stable_pure (value, typeUrl)

theorem readJson_settled : IsSettled readJson := by
  unfold readJson
  simp only [Option.bind_eq_bind]
  apply Json.record_settled
  apply Members.stable_bind (Members.stable_required readParameter_settled (by decide))
  intro parameter
  apply Members.stable_bind (Members.stable_required Json.readText_settled (by decide))
  intro kind
  apply Members.stable_bind
    (Members.stable_optional _ (Json.readNullable_settled Json.readInt32_settled) (by decide))
  intro permissionId
  exact Members.stable_pure _

end Contract

theorem RawData.readJson_settled : IsSettled RawData.readJson := by
  unfold RawData.readJson
  simp only [Option.bind_eq_bind]
  apply Json.record_settled
  apply Members.stable_bind
    (Members.stable_optional _ (Json.readList_settled Contract.readJson_settled) (by decide))
  intro contracts
  apply Members.stable_bind (Members.stable_optional _ Json.readText_settled (by decide))
  intro refBlockBytes
  apply Members.stable_bind (Members.stable_optional _ Json.readText_settled (by decide))
  intro refBlockHash
  apply Members.stable_bind (Members.stable_optional _ Json.readInt64_settled (by decide))
  intro expiration
  apply Members.stable_bind (Members.stable_optional _ Json.readInt64_settled (by decide))
  intro timestamp
  apply Members.stable_bind (Members.stable_optional _ Json.readText_settled (by decide))
  intro data
  apply Members.stable_bind
    (Members.stable_optional _ (Json.readNullable_settled Json.readInt64_settled) (by decide))
  intro feeLimit
  exact Members.stable_pure _

namespace Transaction

theorem readOutcome_settled : IsSettled readOutcome := by
  unfold readOutcome
  simp only [Option.bind_eq_bind]
  apply Json.record_settled
  exact Members.stable_optional _ (Json.readNullable_settled Json.readText_settled) (by decide)

theorem ofMembers?_stable : Members.IsStable memberNames ofMembers? := by
  unfold ofMembers?
  simp only [Option.bind_eq_bind]
  apply Members.stable_bind
    (Members.stable_optional _ (Json.readNullable_settled Json.readBool_settled) (by decide))
  intro visible
  apply Members.stable_bind (Members.stable_optional _ Json.readText_settled (by decide))
  intro id
  apply Members.stable_bind (Members.stable_optional _ RawData.readJson_settled (by decide))
  intro raw
  apply Members.stable_bind (Members.stable_optional _ Json.readText_settled (by decide))
  intro rawHex
  apply Members.stable_bind
    (Members.stable_optional _ (Json.readList_settled Json.readText_settled) (by decide))
  intro signatures
  apply Members.stable_bind
    (Members.stable_optional _ (Json.readList_settled readOutcome_settled) (by decide))
  intro outcomes
  exact Members.stable_pure _

theorem readJson_settled : IsSettled readJson :=
  Json.record_settled ofMembers?_stable

/-- A text that is read as a transaction is read as the same one behind the pass, whoever wrote it
and in whatever order. -/
theorem parse_passed {text : String} {tx : Transaction} {body : Value}
    (passed : Json.decode Json.readValue text = some body) (free : body.FloatFree)
    (read : parse text = some tx) : parse body.toJson.toText = some tx := by
  obtain ⟨json, parsed, value⟩ := Option.bind_eq_some_iff.mp passed
  obtain ⟨again, parsedAgain, typed⟩ := Option.bind_eq_some_iff.mp read
  obtain rfl : json = again := Option.some.inj (parsed.symm.trans parsedAgain)
  have spelled := Value.isSpelled_toJson _ body (Value.isExact_of_ofJson? _ json body value free)
  unfold parse Json.decode
  rw [Json.parse_toText _ spelled, Option.bind_some]
  exact readJson_settled value free typed

end Transaction

/-! ### The text of a transaction is an untyped value -/

theorem plain_optionalMember {α : Type} {depth : Nat} {name : String} {write : α → Json}
    {value : Option α} (plain : ∀ inner, Json.IsPlain depth (write inner)) :
    ∀ member ∈ optionalMember name write value, Json.IsPlain depth member.2 := by
  intro member inside
  cases value with
  | none => cases inside
  | some inner =>
      rw [List.mem_singleton.mp inside]
      exact plain inner

theorem plain_defaultedMember {left : Prop} [Decidable left] {depth : Nat} {name : String}
    {json : Json} (plain : Json.IsPlain depth json) :
    ∀ member ∈ (if left then [] else [(name, json)]), Json.IsPlain depth member.2 := by
  intro member inside
  split at inside
  · cases inside
  · rw [List.mem_singleton.mp inside]
    exact plain

theorem plain_int32 (depth : Nat) (n : Int32) : Json.IsPlain depth (Json.ofInt n.toInt) := by
  have low := n.le_toInt
  have high := n.toInt_lt
  exact Json.plain_ofInt depth (by omega) (by omega)

theorem plain_int64 (depth : Nat) (n : Int64) : Json.IsPlain depth (Json.ofInt n.toInt) := by
  have low := n.le_toInt
  have high := n.toInt_lt
  exact Json.plain_ofInt depth (by omega) (by omega)

theorem Contract.plain_toJson {depth : Nat} {contract : Contract}
    (exact : contract.value.IsExact depth) : Json.IsPlain (depth + 2) contract.toJson := by
  apply Json.plain_ofMembers
  rw [List.forall_mem_append]
  refine ⟨?_, plain_optionalMember fun id => plain_int32 _ id⟩
  have parameter : Json.IsPlain (depth + 1) (Json.ofMembers [("value", contract.value.toJson),
      ("type_url", Json.ofText contract.typeUrl)]) := by
    apply Json.plain_ofMembers
    simp [Json.plain_toJson exact, Json.plain_ofText]
  simp [parameter, Json.plain_ofText]

theorem RawData.plain_toJson {depth : Nat} {raw : RawData}
    (exact : ∀ contract ∈ raw.contracts, contract.value.IsExact depth) :
    Json.IsPlain (depth + 4) raw.toJson := by
  have contracts : Json.IsPlain (depth + 3) (Json.ofList Contract.toJson raw.contracts) :=
    Json.plain_ofList fun contract member => Contract.plain_toJson (exact contract member)
  apply Json.plain_ofMembers
  rw [List.forall_mem_append, List.forall_mem_append]
  refine ⟨⟨?_, plain_defaultedMember (Json.plain_ofText _ raw.data)⟩,
    plain_optionalMember fun limit => plain_int64 _ limit⟩
  simp [contracts, Json.plain_ofText, plain_int64]

namespace Transaction

theorem plain_toJson {tx : Transaction} (exact : tx.IsExact) :
    Json.IsPlain Json.maxDepth tx.toJson := by
  have raw : Json.IsPlain (Json.maxDepth - 1) tx.raw.toJson := RawData.plain_toJson exact
  have signatures : Json.IsPlain (Json.maxDepth - 1) (Json.ofList Json.ofText tx.signatures) :=
    Json.plain_ofList fun signature _ => Json.plain_ofText _ signature
  have outcomes : Json.IsPlain (Json.maxDepth - 1) (Json.ofList outcomeToJson tx.outcomes) :=
    Json.plain_ofList fun outcome _ =>
      Json.plain_ofMembers (plain_optionalMember fun name => Json.plain_ofText _ name)
  change Json.IsPlain (Json.maxDepth - 1 + 1) (Json.ofMembers _)
  apply Json.plain_ofMembers
  rw [List.forall_mem_append, List.forall_mem_append, List.forall_mem_append]
  refine ⟨⟨⟨plain_optionalMember fun visible => Json.plain_bool _ visible, ?_⟩,
    plain_defaultedMember signatures⟩, plain_defaultedMember outcomes⟩
  simp [raw, Json.plain_ofText]

/--
A transaction without binary numbers that is not nested too deep is read back from its text. To be
broadcast the text is read as an untyped value, with the members of each object sorted; this value
is posted, and its text is read as the same transaction.
-/
theorem received_as_signed {tx : Transaction} (exact : tx.IsExact) :
    parse tx.toText = some tx ∧
    ∃ body, Json.decode Json.readValue tx.toText = some body ∧
      body.IsExact Json.maxDepth ∧
      (∀ service, (NodeCall.broadcast tx.toText).request service =
        .ok (Http.post service.node "/wallet/broadcasttransaction" body)) ∧
      parse body.toJson.toText = some tx := by
  obtain ⟨body, value, free⟩ := plain_toJson exact
  have decoded : Json.decode Json.readValue tx.toText = some body := by
    unfold Json.decode Transaction.toText
    rw [Json.parse_toText _ (isSpelled_toJson exact), Option.bind_some]
    exact value
  exact ⟨parse_toText exact, body, decoded, Value.isExact_of_ofJson? _ _ body value free,
    NodeCall.request_toText exact value, parse_passed decoded free (parse_toText exact)⟩

/-- A transaction with escaped and foreign characters, nested values and most parts left out. -/
def escapedTransaction : Transaction where
  visible := none
  id := "\"\x01\\é\n"
  raw := ⟨[⟨.object [("a", .array [.null, .integer (-9223372036854775808)]),
      ("é\"", .object [("n", .integer 18446744073709551615)])], "", transferKind, some (-1)⟩],
    "", "", -1, 0, "", none⟩
  rawHex := ""
  signatures := []
  outcomes := [none, some "\t"]

theorem received_as_signed_escaped :
    escapedTransaction.IsExact ∧
    ∃ body, Json.decode Json.readValue escapedTransaction.toText = some body ∧
      parse body.toJson.toText = some escapedTransaction := by
  have exact : escapedTransaction.IsExact := by
    intro contract member
    rw [List.mem_singleton.mp member, show Json.maxDepth - 5 = 120 + 2 from rfl, Value.IsExact]
    refine ⟨List.pairwise_pair.mpr (by decide), ?_⟩
    simp [Value.IsExact, Value.AreExact, Value.AreExactMembers, Value.Sorted]
  obtain ⟨-, body, decoded, -, -, received⟩ := received_as_signed exact
  exact ⟨exact, body, decoded, received⟩

end Transaction
end TronGateway
