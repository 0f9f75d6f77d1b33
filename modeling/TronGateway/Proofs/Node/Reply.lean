import TronGateway.Node.Service
import TronGateway.Proofs.Transaction.Text
set_option autoImplicit false

/-!
# Transactions out of replies

A transaction that the node builds arrives as JSON, so that the values of its contracts are sorted
and nested no deeper than the reader goes. Where they hold no binary numbers, a text carries them
exactly.
-/

namespace TronGateway

open Json (Members readMembers readList readNullable)

namespace Json

theorem depth_of_readMembers {names : List String} {depth : Nat} {json : Json} {members : Members}
    (read : readMembers names depth json = some members) : depth = members.depth + 1 := by
  cases depth with
  | zero => cases json <;> cases read
  | succ depth =>
      cases json with
      | object entries =>
          obtain ⟨known, -, rfl⟩ := Option.map_eq_some_iff.mp read
          rfl
      | array items =>
          rw [readMembers] at read
          split at read
          · cases read
            rfl
          · cases read
      | null => cases read
      | bool value => cases read
      | number numeral => cases read
      | text value => cases read

theorem Members.required_eq_some {α : Type} {members : Members} {name : String}
    {reader : Json.Reader α} {value : α} (read : members.required name reader = some value) :
    ∃ json, reader members.depth json = some value := by
  unfold Members.required at read
  split at read
  · exact ⟨_, read⟩
  · cases read

theorem Members.optional_eq_some {α : Type} {members : Members} {name : String}
    {reader : Json.Reader α} {absent value : α}
    (read : members.optional name reader absent = some value) :
    value = absent ∨ ∃ json, reader members.depth json = some value := by
  unfold Members.optional at read
  split at read
  · exact Or.inr ⟨_, read⟩
  · cases read
    exact Or.inl rfl

theorem readNullable_eq_some {α : Type} {reader : Json.Reader α} {depth : Nat} {json : Json}
    {value : α} (read : readNullable reader depth json = some (some value)) :
    reader depth json = some value := by
  unfold readNullable at read
  split at read
  · cases read
  · obtain ⟨inner, known, same⟩ := Option.map_eq_some_iff.mp read
    cases same
    exact known

theorem of_mem_readItems {α : Type} {reader : Json.Reader α} {depth : Nat} {items : List Json}
    {values : List α} (read : readItems reader depth items = some values) {value : α}
    (member : value ∈ values) : ∃ json, reader depth json = some value := by
  induction items generalizing values with
  | nil =>
      cases read
      cases member
  | cons item rest ih =>
      rw [readItems] at read
      split at read
      · next first others readFirst readRest =>
          cases read
          rcases List.mem_cons.mp member with rfl | later
          · exact ⟨item, readFirst⟩
          · exact ih readRest later
      · cases read

theorem of_mem_readList {α : Type} {reader : Json.Reader α} {depth : Nat} {json : Json}
    {values : List α} (read : readList reader (depth + 1) json = some values) {value : α}
    (member : value ∈ values) : ∃ item, reader depth item = some value := by
  cases json with
  | array items => exact of_mem_readItems read member
  | null => cases read
  | bool value => cases read
  | number numeral => cases read
  | text value => cases read
  | object members => cases read

end Json

/-! ### Transactions -/

namespace Contract

theorem isExact_of_readParameter {depth : Nat} {json : Json} {value : Value} {typeUrl : String}
    (read : readParameter (depth + 1) json = some (value, typeUrl)) (free : value.FloatFree) :
    value.IsExact depth := by
  unfold readParameter at read
  obtain ⟨⟨inner, entries⟩, known, read⟩ := Option.bind_eq_some_iff.mp read
  obtain ⟨found, readValue, read⟩ := Option.bind_eq_some_iff.mp read
  obtain ⟨_, -, same⟩ := Option.bind_eq_some_iff.mp read
  cases same
  cases Json.depth_of_readMembers known
  rcases Members.optional_eq_some readValue with rfl | ⟨item, readItem⟩
  · rw [Value.IsExact]
    trivial
  · exact Value.isExact_of_ofJson? _ item value readItem free

theorem isExact_of_readJson {depth : Nat} {json : Json} {contract : Contract}
    (read : readJson (depth + 2) json = some contract) (free : contract.value.FloatFree) :
    contract.value.IsExact depth := by
  unfold readJson at read
  obtain ⟨⟨inner, entries⟩, known, read⟩ := Option.bind_eq_some_iff.mp read
  obtain ⟨⟨value, typeUrl⟩, parameter, read⟩ := Option.bind_eq_some_iff.mp read
  obtain ⟨kind, -, read⟩ := Option.bind_eq_some_iff.mp read
  obtain ⟨permissionId, -, same⟩ := Option.bind_eq_some_iff.mp read
  cases same
  cases Json.depth_of_readMembers known
  obtain ⟨item, readItem⟩ := Members.required_eq_some parameter
  exact isExact_of_readParameter readItem free

end Contract

theorem RawData.isExact_of_readJson {depth : Nat} {json : Json} {raw : RawData}
    (read : RawData.readJson (depth + 4) json = some raw) :
    ∀ contract ∈ raw.contracts, contract.value.FloatFree → contract.value.IsExact depth := by
  unfold readJson at read
  obtain ⟨⟨inner, entries⟩, known, read⟩ := Option.bind_eq_some_iff.mp read
  obtain ⟨contracts, readContracts, read⟩ := Option.bind_eq_some_iff.mp read
  obtain ⟨refBlockBytes, -, read⟩ := Option.bind_eq_some_iff.mp read
  obtain ⟨refBlockHash, -, read⟩ := Option.bind_eq_some_iff.mp read
  obtain ⟨expiration, -, read⟩ := Option.bind_eq_some_iff.mp read
  obtain ⟨timestamp, -, read⟩ := Option.bind_eq_some_iff.mp read
  obtain ⟨data, -, read⟩ := Option.bind_eq_some_iff.mp read
  obtain ⟨feeLimit, -, same⟩ := Option.bind_eq_some_iff.mp read
  cases same
  cases Json.depth_of_readMembers known
  intro contract member free
  rcases Members.optional_eq_some readContracts with rfl | ⟨items, readItems⟩
  · cases member
  · obtain ⟨item, readItem⟩ := Json.of_mem_readList readItems member
    exact Contract.isExact_of_readJson readItem free

namespace Transaction

/-- No contract value holds a binary number. -/
def FloatFree (tx : Transaction) : Prop :=
  ∀ contract ∈ tx.raw.contracts, contract.value.FloatFree

theorem isExact_of_ofMembers? {depth : Nat} {entries : List (String × Json)} {tx : Transaction}
    (read : ofMembers? ⟨depth + 4, entries⟩ = some tx) :
    ∀ contract ∈ tx.raw.contracts, contract.value.FloatFree → contract.value.IsExact depth := by
  unfold ofMembers? at read
  obtain ⟨visible, -, read⟩ := Option.bind_eq_some_iff.mp read
  obtain ⟨id, -, read⟩ := Option.bind_eq_some_iff.mp read
  obtain ⟨raw, readRaw, read⟩ := Option.bind_eq_some_iff.mp read
  obtain ⟨rawHex, -, read⟩ := Option.bind_eq_some_iff.mp read
  obtain ⟨signatures, -, read⟩ := Option.bind_eq_some_iff.mp read
  obtain ⟨outcomes, -, same⟩ := Option.bind_eq_some_iff.mp read
  cases same
  rcases Members.optional_eq_some readRaw with rfl | ⟨json, readJson⟩
  · intro contract member
    cases member
  · exact RawData.isExact_of_readJson readJson

end Transaction

theorem CreateReply.isExact_of_readJson {json : Json} {reply : CreateReply}
    (read : CreateReply.readJson Json.maxDepth json = some reply)
    (free : reply.transaction.FloatFree) : reply.transaction.IsExact := by
  cases json with
  | object entries =>
      obtain ⟨outer, -, read⟩ := Option.bind_eq_some_iff.mp read
      obtain ⟨refusal, -, read⟩ := Option.bind_eq_some_iff.mp read
      obtain ⟨⟨inner, members⟩, known, read⟩ := Option.bind_eq_some_iff.mp read
      cases Json.depth_of_readMembers known
      obtain ⟨tx, readTx, read⟩ := Option.bind_eq_some_iff.mp read
      have same : reply.transaction = tx := by
        split at read
        · cases read
          rfl
        · cases read
      rw [same] at free ⊢
      intro contract member
      exact Transaction.isExact_of_ofMembers? readTx contract member (free contract member)
  | null => cases read
  | bool value => cases read
  | number numeral => cases read
  | text value => cases read
  | array items => cases read

theorem TriggerReply.isExact_of_readJson {json : Json} {reply : TriggerReply} {tx : Transaction}
    (read : TriggerReply.readJson Json.maxDepth json = some reply)
    (held : reply.transaction = some tx) (free : tx.FloatFree) : tx.IsExact := by
  unfold TriggerReply.readJson at read
  obtain ⟨⟨inner, entries⟩, known, read⟩ := Option.bind_eq_some_iff.mp read
  obtain ⟨outcome, -, read⟩ := Option.bind_eq_some_iff.mp read
  obtain ⟨transaction, readTx, same⟩ := Option.bind_eq_some_iff.mp read
  cases same
  cases held
  cases Json.depth_of_readMembers known
  rcases Members.optional_eq_some readTx with absent | ⟨json, readJson⟩
  · cases absent
  · obtain ⟨⟨innermost, members⟩, knownToo, readMembers⟩ :=
      Option.bind_eq_some_iff.mp (Json.readNullable_eq_some readJson)
    cases Json.depth_of_readMembers knownToo
    intro contract member
    -- This transaction stands one level deeper than one that arrives on its own.
    exact Value.IsExact.mono (Nat.le_succ _) _
      (Transaction.isExact_of_ofMembers? readMembers contract member (free contract member))

theorem Http.decode_of_receive {α : Type} {request : Http.Request} {reader : Json.Reader α}
    {reply : Http.Reply} {value : α} (received : Http.receive request reader reply = .ok value) :
    ∃ text, Json.decode reader text = some value := by
  unfold Http.receive at received
  split at received
  · cases received
  · split at received
    · split at received
      · next known =>
          cases received
          exact ⟨_, known⟩
      · cases received
    · cases received

namespace NodeCall

/-- The answer, where it is a transaction, holds no binary numbers. -/
def FloatFree : (call : NodeCall) → call.Answer → Prop
  | createTransaction _ _ _ _, shell => shell.FloatFree
  | triggerContract _ _ _ _ _, shell => shell.FloatFree
  | _, _ => True

theorem isExact_of_created {service : Service} {owner recipient memo : String} {amount : UInt64}
    {request : Http.Request} {reply : Http.Reply} {shell : Transaction}
    (received : (createTransaction owner recipient amount memo).receive service request reply =
      .ok shell) (free : shell.FloatFree) : shell.IsExact := by
  change (Http.receive request CreateReply.readJson reply).bind checkCreated = .ok shell at received
  cases inner : Http.receive request CreateReply.readJson reply with
  | error failure =>
      rw [inner] at received
      cases received
  | ok created =>
      obtain ⟨text, known⟩ := Http.decode_of_receive inner
      obtain ⟨json, -, read⟩ := Option.bind_eq_some_iff.mp known
      rw [inner] at received
      change checkCreated created = .ok shell at received
      unfold checkCreated at received
      split at received
      · cases received
      · split at received
        · cases received
        · cases received
          exact CreateReply.isExact_of_readJson read free

theorem isExact_of_triggered {service : Service} {owner contract selector parameter : String}
    {feeLimit : UInt64} {request : Http.Request} {reply : Http.Reply} {shell : Transaction}
    (received : (triggerContract owner contract selector parameter feeLimit).receive service
      request reply = .ok shell) (free : shell.FloatFree) : shell.IsExact := by
  change (Http.receive request TriggerReply.readJson reply).bind checkTriggered = .ok shell
    at received
  cases inner : Http.receive request TriggerReply.readJson reply with
  | error failure =>
      rw [inner] at received
      cases received
  | ok triggered =>
      obtain ⟨text, known⟩ := Http.decode_of_receive inner
      obtain ⟨json, -, read⟩ := Option.bind_eq_some_iff.mp known
      rw [inner] at received
      change checkTriggered triggered = .ok shell at received
      unfold checkTriggered at received
      split at received
      · split at received
        · next held =>
            split at received
            · cases received
            · cases received
              exact TriggerReply.isExact_of_readJson read held free
        · cases received
      · cases received

end NodeCall

/-! ### What a node may answer -/

/-- A transaction with an id and signed bytes is the reply to a request for a transfer. Every member
has to be a value even where it is read as something else. -/
theorem CreateReply.readJson_toJson {tx : Transaction} (exact : tx.IsExact)
    (plain : tx.entries.all fun member => (Value.ofJson? (Json.maxDepth - 1) member.2).isSome) :
    CreateReply.readJson Json.maxDepth tx.toJson = some ⟨none, tx⟩ := by
  have outer : readMembers ["Error"] Json.maxDepth tx.toJson = some ⟨Json.maxDepth - 1, []⟩ := by
    apply Json.readMembers_of_unknown
    intro member inside refused
    have known := tx.entries_names.subset (List.mem_map.mpr ⟨member, inside, rfl⟩)
    rw [List.mem_singleton.mp refused] at known
    exact absurd known (by decide)
  have values : (tx.entries.map fun member => (some member.1, member.2)).all
      (isPlainMember (Json.maxDepth - 1)) := by
    rw [List.all_map, List.all_eq_true]
    intro member inside
    have known := List.all_eq_true.mp plain member inside
    change (decide (member.1 = "Error") ||
      (Value.ofJson? (Json.maxDepth - 1) member.2).isSome) = true
    rw [known, Bool.or_true]
  change (readMembers ["Error"] Json.maxDepth tx.toJson).bind _ = _
  rw [outer, Option.bind_some]
  change (readMembers Transaction.memberNames Json.maxDepth tx.toJson).bind _ = _
  rw [tx.readMembers_toJson, Option.bind_some, Transaction.ofMembers?_entries exact]
  exact if_pos values

theorem Http.bodyText_toText (members : List (String × Json)) :
    Http.bodyText 200 (Json.ofMembers members).toText = (Json.ofMembers members).toText := by
  unfold Http.bodyText Json.toText
  rw [if_neg (by decide), String.toList_ofList, Json.ofMembers, Json.render]
  exact if_neg (by decide)

theorem Http.receive_answered {α : Type} {reader : Json.Reader α} {body : String} {value : α}
    (read : Json.decode reader (Http.bodyText 200 body) = some value) (request : Http.Request) :
    Http.receive request reader (.answered 200 body) = .ok value := by
  have settled : (Http.Reply.answered 200 body).settled = .answered 200 body := rfl
  have success : Http.isSuccess 200 = true := rfl
  unfold Http.receive
  rw [settled]
  simp only [success, if_true, read]

theorem NodeCall.request_toText {tx : Transaction} {body : Value} (exact : tx.IsExact)
    (read : Value.ofJson? Json.maxDepth tx.toJson = some body) (service : Service) :
    (broadcast tx.toText).request service =
      .ok (Http.post service.node "/wallet/broadcasttransaction" body) := by
  have decoded : Json.decode Json.readValue tx.toText = some body := by
    unfold Json.decode Transaction.toText
    rw [Json.parse_toText _ (Transaction.isSpelled_toJson exact), Option.bind_some]
    exact read
  simp only [request, decoded]

/-- A node may answer a request for a transfer by any such transaction. -/
theorem NodeCall.receive_toText {tx : Transaction} (exact : tx.IsExact) (named : tx.id ≠ "")
    (signed : tx.rawHex ≠ "")
    (plain : tx.entries.all fun member => (Value.ofJson? (Json.maxDepth - 1) member.2).isSome)
    (owner recipient memo : String) (amount : UInt64) (service : Service)
    (request : Http.Request) :
    (createTransaction owner recipient amount memo).receive service request
      (.answered 200 tx.toText) = .ok tx := by
  have body : Http.bodyText 200 tx.toText = tx.toText := Http.bodyText_toText tx.entries
  have decoded : Json.decode CreateReply.readJson (Http.bodyText 200 tx.toText) =
      some ⟨none, tx⟩ := by
    unfold Json.decode
    rw [body, Transaction.toText, Json.parse_toText _ (Transaction.isSpelled_toJson exact),
      Option.bind_some, CreateReply.readJson_toJson exact plain]
  have received := Http.receive_answered decoded request
  unfold receive
  rw [received]
  change checkCreated ⟨none, tx⟩ = _
  simp only [checkCreated, named, signed, or_self, if_false]

end TronGateway
