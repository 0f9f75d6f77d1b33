import TronGateway.Transaction.Basic
import TronGateway.Proofs.Json.Decode
set_option autoImplicit false

/-!
# Reading back the text of a transaction

A transaction is parsed from its own text when the values of its contracts are such that a text
carries them exactly. Absent members stand for the defaults that the writer leaves out.
-/

namespace TronGateway

open Json (Members ofText ofInt ofMembers readMembers readText readList readNullable)

theorem optionalMember_names {α : Type} (name : String) (write : α → Json) (value : Option α) :
    ((optionalMember name write value).map Prod.fst).Sublist [name] := by
  cases value with
  | none => exact List.nil_sublist _
  | some value => exact List.Sublist.refl _

theorem lookup_optionalMember {α : Type} (name : String) (write : α → Json) (value : Option α) :
    (optionalMember name write value).lookup name = value.map write := by
  cases value with
  | none => rfl
  | some value => exact List.lookup_cons_self

theorem lookup_optionalMember_of_ne {α : Type} {name sought : String} (other : sought ≠ name)
    (write : α → Json) (value : Option α) :
    (optionalMember name write value).lookup sought = none := by
  apply Json.lookup_eq_none
  intro inside
  exact other (List.mem_singleton.mp ((optionalMember_names name write value).subset inside))

theorem defaultedMember_names {left : Prop} [Decidable left] (name : String) (json : Json) :
    ((if left then [] else [(name, json)]).map Prod.fst).Sublist [name] := by
  split
  · exact List.nil_sublist _
  · exact List.Sublist.refl _

theorem lookup_defaultedMember {left : Prop} [Decidable left] (name : String) (json : Json) :
    (if left then [] else [(name, json)]).lookup name = if left then none else some json := by
  split
  · rfl
  · exact List.lookup_cons_self

theorem lookup_defaultedMember_of_ne {left : Prop} [Decidable left] {name sought : String}
    (other : sought ≠ name) (json : Json) :
    (if left then [] else [(name, json)]).lookup sought = none := by
  apply Json.lookup_eq_none
  intro inside
  exact other (List.mem_singleton.mp ((defaultedMember_names name json).subset inside))

namespace Contract

theorem readParameter_written {depth : Nat} {value : Value} (typeUrl : String)
    (exact : value.IsExact depth) :
    readParameter (depth + 1) (ofMembers [("value", value.toJson), ("type_url", ofText typeUrl)]) =
      some (value, typeUrl) := by
  have members : readMembers ["value", "type_url"] (depth + 1)
      (ofMembers [("value", value.toJson), ("type_url", ofText typeUrl)]) =
      some ⟨depth, [("value", value.toJson), ("type_url", ofText typeUrl)]⟩ :=
    Json.readMembers_ofMembers depth (by decide) (List.Sublist.refl _)
  have read : Json.readValue depth value.toJson = some value :=
    Value.ofJson?_toJson depth value exact
  unfold readParameter
  rw [members]
  simp only [Option.bind_eq_bind, Option.bind_some]
  rw [Members.optional_of_lookup value.toJson _ _ rfl,
    Members.optional_of_lookup (ofText typeUrl) _ _ rfl, read, Json.readText_ofText]
  rfl

def entries (contract : Contract) : List (String × Json) :=
  [("parameter", ofMembers [("value", contract.value.toJson),
      ("type_url", ofText contract.typeUrl)]), ("type", ofText contract.kind)] ++
    optionalMember "Permission_id" (fun id => ofInt (Int32.toInt id)) contract.permissionId

theorem entries_names (contract : Contract) :
    (contract.entries.map Prod.fst).Sublist ["parameter", "type", "Permission_id"] := by
  unfold entries
  rw [List.map_append]
  exact (List.Sublist.refl ["parameter", "type"]).append (optionalMember_names _ _ _)

theorem entries_permission (contract : Contract) :
    contract.entries.lookup "Permission_id" =
      contract.permissionId.map fun id => ofInt (Int32.toInt id) :=
  lookup_optionalMember "Permission_id" _ contract.permissionId

theorem readJson_toJson {depth : Nat} {contract : Contract}
    (exact : contract.value.IsExact depth) :
    readJson (depth + 2) contract.toJson = some contract := by
  have members : readMembers ["parameter", "type", "Permission_id"] (depth + 2) contract.toJson =
      some ⟨depth + 1, contract.entries⟩ :=
    Json.readMembers_ofMembers (depth + 1) (by decide) contract.entries_names
  unfold readJson
  rw [members]
  simp only [Option.bind_eq_bind, Option.bind_some]
  rw [Members.required_of_lookup (ofMembers [("value", contract.value.toJson),
      ("type_url", ofText contract.typeUrl)]) _ rfl, readParameter_written _ exact,
    Members.required_of_lookup (ofText contract.kind) _ rfl, Json.readText_ofText,
    Members.optional_of_map _ contract.entries_permission
      (fun id => by rw [Json.readNullable_ofInt, Json.readInt32_ofInt, Option.map_some])]
  rfl

end Contract

namespace RawData

def entries (raw : RawData) : List (String × Json) :=
  [("contract", Json.ofList Contract.toJson raw.contracts),
      ("ref_block_bytes", ofText raw.refBlockBytes), ("ref_block_hash", ofText raw.refBlockHash),
      ("expiration", ofInt raw.expiration.toInt), ("timestamp", ofInt raw.timestamp.toInt)] ++
    (if raw.data = "" then [] else [("data", ofText raw.data)]) ++
    optionalMember "fee_limit" (fun limit => ofInt (Int64.toInt limit)) raw.feeLimit

theorem entries_names (raw : RawData) :
    (raw.entries.map Prod.fst).Sublist ["contract", "ref_block_bytes", "ref_block_hash",
      "expiration", "timestamp", "data", "fee_limit"] := by
  unfold entries
  rw [List.map_append, List.map_append]
  exact ((List.Sublist.refl ["contract", "ref_block_bytes", "ref_block_hash", "expiration",
    "timestamp"]).append (defaultedMember_names "data" _)).append (optionalMember_names _ _ _)

theorem entries_data (raw : RawData) :
    raw.entries.lookup "data" = if raw.data = "" then none else some (ofText raw.data) := by
  unfold entries
  rw [List.lookup_append, List.lookup_append, lookup_defaultedMember,
    lookup_optionalMember_of_ne (by decide), Option.or_none]
  rfl

theorem entries_feeLimit (raw : RawData) :
    raw.entries.lookup "fee_limit" = raw.feeLimit.map fun limit => ofInt (Int64.toInt limit) := by
  unfold entries
  rw [List.lookup_append, List.lookup_append, lookup_defaultedMember_of_ne (by decide),
    lookup_optionalMember, Option.or_none]
  rfl

theorem readJson_toJson {depth : Nat} {raw : RawData}
    (exact : ∀ contract ∈ raw.contracts, contract.value.IsExact depth) :
    readJson (depth + 4) raw.toJson = some raw := by
  have members : readMembers ["contract", "ref_block_bytes", "ref_block_hash", "expiration",
      "timestamp", "data", "fee_limit"] (depth + 4) raw.toJson =
      some ⟨depth + 3, raw.entries⟩ :=
    Json.readMembers_ofMembers (depth + 3) (by decide) raw.entries_names
  have contracts : readList Contract.readJson (depth + 3)
      (Json.ofList Contract.toJson raw.contracts) = some raw.contracts :=
    Json.readList_ofList fun contract member => Contract.readJson_toJson (exact contract member)
  unfold readJson
  rw [members]
  simp only [Option.bind_eq_bind, Option.bind_some]
  rw [Members.optional_of_lookup (Json.ofList Contract.toJson raw.contracts) _ _ rfl, contracts,
    Members.optional_of_lookup (ofText raw.refBlockBytes) _ _ rfl, Json.readText_ofText,
    Members.optional_of_lookup (ofText raw.refBlockHash) _ _ rfl, Json.readText_ofText,
    Members.optional_of_lookup (ofInt raw.expiration.toInt) _ _ rfl, Json.readInt64_ofInt,
    Members.optional_of_lookup (ofInt raw.timestamp.toInt) _ _ rfl, Json.readInt64_ofInt,
    Members.optional_of_ite (raw.data = "") readText raw.entries_data id (Json.readText_ofText _ _),
    Members.optional_of_map _ raw.entries_feeLimit
      (fun limit => by rw [Json.readNullable_ofInt, Json.readInt64_ofInt, Option.map_some])]
  rfl

end RawData

namespace Transaction

/-- A transaction whose contract values a text carries exactly, behind the levels of nesting that
stand around them. -/
def IsExact (tx : Transaction) : Prop :=
  ∀ contract ∈ tx.raw.contracts, contract.value.IsExact (Json.maxDepth - 5)

theorem readOutcome_written (depth : Nat) (outcome : Option String) :
    readOutcome (depth + 1) (outcomeToJson outcome) = some outcome := by
  have members : readMembers ["contractRet"] (depth + 1) (outcomeToJson outcome) =
      some ⟨depth, optionalMember "contractRet" ofText outcome⟩ :=
    Json.readMembers_ofMembers depth (by decide) (optionalMember_names _ _ _)
  unfold readOutcome
  rw [members]
  simp only [Option.bind_eq_bind, Option.bind_some]
  exact Members.optional_of_map _ (lookup_optionalMember _ _ _) fun _ => rfl

def entries (tx : Transaction) : List (String × Json) :=
  optionalMember "visible" Json.bool tx.visible ++
    [("txID", ofText tx.id), ("raw_data", tx.raw.toJson), ("raw_data_hex", ofText tx.rawHex)] ++
    (if tx.signatures.isEmpty then [] else [("signature", Json.ofList ofText tx.signatures)]) ++
    (if tx.outcomes.isEmpty then [] else [("ret", Json.ofList outcomeToJson tx.outcomes)])

theorem entries_names (tx : Transaction) :
    (tx.entries.map Prod.fst).Sublist memberNames := by
  unfold entries
  rw [List.map_append, List.map_append, List.map_append]
  exact (((optionalMember_names "visible" _ _).append (List.Sublist.refl ["txID", "raw_data",
    "raw_data_hex"])).append (defaultedMember_names "signature" _)).append
      (defaultedMember_names "ret" _)

theorem entries_visible (tx : Transaction) :
    tx.entries.lookup "visible" = tx.visible.map Json.bool := by
  unfold entries
  rw [List.lookup_append, List.lookup_append, List.lookup_append, lookup_optionalMember,
    lookup_defaultedMember_of_ne (by decide), lookup_defaultedMember_of_ne (by decide)]
  cases tx.visible with
  | none => rfl
  | some visible => rfl

theorem entries_fixed (tx : Transaction) {name : String} {json : Json} (other : name ≠ "visible")
    (held : [("txID", ofText tx.id), ("raw_data", tx.raw.toJson),
      ("raw_data_hex", ofText tx.rawHex)].lookup name = some json) :
    tx.entries.lookup name = some json := by
  unfold entries
  rw [List.lookup_append, List.lookup_append, List.lookup_append, held,
    lookup_optionalMember_of_ne other]
  rfl

theorem entries_signatures (tx : Transaction) :
    tx.entries.lookup "signature" =
      if tx.signatures.isEmpty then none else some (Json.ofList ofText tx.signatures) := by
  unfold entries
  rw [List.lookup_append, List.lookup_append, List.lookup_append, lookup_defaultedMember,
    lookup_optionalMember_of_ne (by decide), lookup_defaultedMember_of_ne (by decide),
    Option.or_none]
  rfl

theorem entries_outcomes (tx : Transaction) :
    tx.entries.lookup "ret" =
      if tx.outcomes.isEmpty then none else some (Json.ofList outcomeToJson tx.outcomes) := by
  unfold entries
  rw [List.lookup_append, List.lookup_append, List.lookup_append, lookup_defaultedMember,
    lookup_optionalMember_of_ne (by decide), lookup_defaultedMember_of_ne (by decide)]
  rfl

theorem ofMembers?_entries {tx : Transaction} (exact : tx.IsExact) :
    ofMembers? ⟨Json.maxDepth - 1, tx.entries⟩ = some tx := by
  have raw : RawData.readJson (Json.maxDepth - 1) tx.raw.toJson = some tx.raw :=
    RawData.readJson_toJson exact
  have signatures : readList readText (Json.maxDepth - 1) (Json.ofList ofText tx.signatures) =
      some tx.signatures :=
    Json.readList_ofList fun content _ => Json.readText_ofText _ content
  have outcomes : readList readOutcome (Json.maxDepth - 1)
      (Json.ofList outcomeToJson tx.outcomes) = some tx.outcomes :=
    Json.readList_ofList fun outcome _ => readOutcome_written _ outcome
  have id := tx.entries_fixed (show "txID" ≠ "visible" by decide) rfl
  have inner := tx.entries_fixed (show "raw_data" ≠ "visible" by decide) rfl
  have hex := tx.entries_fixed (show "raw_data_hex" ≠ "visible" by decide) rfl
  unfold ofMembers?
  simp only [Option.bind_eq_bind]
  rw [Members.optional_of_map _ tx.entries_visible fun _ => rfl,
    Members.optional_of_lookup _ _ _ id, Json.readText_ofText,
    Members.optional_of_lookup _ _ _ inner, raw,
    Members.optional_of_lookup _ _ _ hex, Json.readText_ofText,
    Members.optional_of_ite _ _ tx.entries_signatures List.isEmpty_iff.mp signatures,
    Members.optional_of_ite _ _ tx.entries_outcomes List.isEmpty_iff.mp outcomes]
  rfl

theorem readMembers_toJson (tx : Transaction) :
    readMembers memberNames Json.maxDepth tx.toJson = some ⟨Json.maxDepth - 1, tx.entries⟩ :=
  Json.readMembers_ofMembers (Json.maxDepth - 1) (by decide) tx.entries_names

theorem readJson_toJson {tx : Transaction} (exact : tx.IsExact) :
    readJson Json.maxDepth tx.toJson = some tx := by
  unfold readJson
  rw [readMembers_toJson, Option.bind_some, ofMembers?_entries exact]

end Transaction

/-! ### Spelling -/

theorem isSpelled_optionalMember {α : Type} {name : String} {write : α → Json} {value : Option α}
    (known : ∀ inner, (write inner).IsSpelled) :
    ∀ member ∈ optionalMember name write value, member.2.IsSpelled := by
  intro member inside
  cases value with
  | none => cases inside
  | some inner =>
      rw [List.mem_singleton.mp inside]
      exact known inner

theorem isSpelled_defaultedMember {left : Prop} [Decidable left] {name : String} {json : Json}
    (known : json.IsSpelled) :
    ∀ member ∈ (if left then [] else [(name, json)]), member.2.IsSpelled := by
  intro member inside
  split at inside
  · cases inside
  · rw [List.mem_singleton.mp inside]
    exact known

theorem isSpelled_append {first second : List (String × Json)}
    (left : ∀ member ∈ first, member.2.IsSpelled) (right : ∀ member ∈ second, member.2.IsSpelled) :
    ∀ member ∈ first ++ second, member.2.IsSpelled := by
  intro member inside
  rcases List.mem_append.mp inside with before | behind
  · exact left member before
  · exact right member behind

theorem Contract.isSpelled_toJson {depth : Nat} {contract : Contract}
    (exact : contract.value.IsExact depth) : contract.toJson.IsSpelled := by
  have value := Value.isSpelled_toJson depth contract.value exact
  have parameter : (ofMembers [("value", contract.value.toJson),
      ("type_url", ofText contract.typeUrl)]).IsSpelled :=
    Json.isSpelled_ofMembers (by
      simp only [List.forall_mem_cons, value, Json.isSpelled_ofText, true_and]
      exact fun member inside => absurd inside List.not_mem_nil)
  apply Json.isSpelled_ofMembers
  apply isSpelled_append
  · simp only [List.forall_mem_cons, parameter, Json.isSpelled_ofText, true_and]
    exact fun member inside => absurd inside List.not_mem_nil
  · exact isSpelled_optionalMember fun id => Json.isSpelled_ofInt (Int32.toInt id)

theorem RawData.isSpelled_toJson {depth : Nat} {raw : RawData}
    (exact : ∀ contract ∈ raw.contracts, contract.value.IsExact depth) : raw.toJson.IsSpelled := by
  have contracts : (Json.ofList Contract.toJson raw.contracts).IsSpelled :=
    Json.isSpelled_ofList fun contract member => Contract.isSpelled_toJson (exact contract member)
  apply Json.isSpelled_ofMembers
  apply isSpelled_append
  · apply isSpelled_append
    · simp only [List.forall_mem_cons, contracts, Json.isSpelled_ofText, Json.isSpelled_ofInt,
        true_and]
      exact fun member inside => absurd inside List.not_mem_nil
    · exact isSpelled_defaultedMember (Json.isSpelled_ofText raw.data)
  · exact isSpelled_optionalMember fun limit => Json.isSpelled_ofInt (Int64.toInt limit)

namespace Transaction

theorem isSpelled_toJson {tx : Transaction} (exact : tx.IsExact) : tx.toJson.IsSpelled := by
  have raw := RawData.isSpelled_toJson exact
  have outcome (outcome : Option String) : (outcomeToJson outcome).IsSpelled :=
    Json.isSpelled_ofMembers (isSpelled_optionalMember Json.isSpelled_ofText)
  apply Json.isSpelled_ofMembers
  apply isSpelled_append
  · apply isSpelled_append
    · apply isSpelled_append
      · apply isSpelled_optionalMember
        intro visible
        rw [Json.IsSpelled]
        trivial
      · simp only [List.forall_mem_cons, raw, Json.isSpelled_ofText, true_and]
        exact fun member inside => absurd inside List.not_mem_nil
    · exact isSpelled_defaultedMember (Json.isSpelled_ofList fun _ _ => Json.isSpelled_ofText _)
  · exact isSpelled_defaultedMember (Json.isSpelled_ofList fun item _ => outcome item)

theorem parse_toText {tx : Transaction} (exact : tx.IsExact) : parse tx.toText = some tx := by
  unfold parse toText Json.decode
  rw [Json.parse_toText _ (isSpelled_toJson exact), Option.bind_some, readJson_toJson exact]

end Transaction
end TronGateway
