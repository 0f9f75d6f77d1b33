import TronGateway.Wire.Message
import TronGateway.Proofs.Wire.Field
import TronGateway.Proofs.Text.Utf8
set_option autoImplicit false

/-!
# Reading back written messages

The bytes of a message are read as that message: every number of nested messages, absent parts and
empty ones included. A part that is not written is the one that the message starts from.
-/

namespace TronGateway.Wire

section Absorbing

variable {α β : Type} {absorb : α → Field → Option α}

theorem absorbAll_append {start middle last : α} {first second : List Field}
    (before : absorbAll absorb start first = some middle)
    (behind : absorbAll absorb middle second = some last) :
    absorbAll absorb start (first ++ second) = some last := by
  induction first generalizing start with
  | nil =>
      cases before
      exact behind
  | cons field rest ih =>
      rw [absorbAll] at before
      rw [List.cons_append, absorbAll]
      cases taken : absorb start field with
      | none =>
          rw [taken] at before
          cases before
      | some next =>
          rw [taken] at before
          exact ih before

theorem absorbAll_singleton {message result : α} {field : Field}
    (taken : absorb message field = some result) :
    absorbAll absorb message [field] = some result := by
  rw [absorbAll, taken]
  rfl

theorem absorbAll_bytesField {message result : α} {tag : Nat} {content : List UInt8}
    (taken : absorb message ⟨tag, .bytes content⟩ = some result)
    (absent : content = [] → message = result) :
    absorbAll absorb message (bytesField tag content) = some result := by
  unfold bytesField
  split
  · rename_i empty
    rw [absent (List.isEmpty_iff.mp empty)]
    rfl
  · exact absorbAll_singleton taken

theorem absorbAll_intField {message result : α} {tag : Nat} {value : Int64}
    (taken : absorb message ⟨tag, .number value.toUInt64⟩ = some result)
    (absent : value = 0 → message = result) :
    absorbAll absorb message (intField tag value) = some result := by
  unfold intField
  split
  · rename_i zero
    rw [absent zero]
    rfl
  · exact absorbAll_singleton taken

theorem absorbAll_messageFields (absorb : α → Field → Option α) (collect : List β → α) (tag : Nat)
    (encode : β → List UInt8) (done items : List β)
    (taken : ∀ before, ∀ item ∈ items,
      absorb (collect before) (messageField tag (encode item)) =
        some (collect (before ++ [item]))) :
    absorbAll absorb (collect done) (items.map fun item => messageField tag (encode item)) =
      some (collect (done ++ items)) := by
  induction items generalizing done with
  | nil =>
      rw [List.append_nil]
      rfl
  | cons item rest ih =>
      have head := taken done item List.mem_cons_self
      have tail := ih (done ++ [item]) fun before other member =>
        taken before other (List.mem_cons_of_mem _ member)
      rw [List.append_assoc] at tail
      rw [List.map_cons, absorbAll, head]
      exact tail

end Absorbing

theorem intField_writable {tag : Nat} (value : Int64) (positive : 0 < tag) (small : tag < 2 ^ 29) :
    ∀ field ∈ intField tag value, field.IsWritable := by
  intro field member
  unfold intField at member
  split at member
  · cases member
  · rw [List.mem_singleton.mp member]
    exact ⟨positive, small, fun same => by cases same⟩

theorem messageField_writable {tag : Nat} (content : List UInt8) (positive : 0 < tag)
    (small : tag < 2 ^ 29) : (messageField tag content).IsWritable :=
  ⟨positive, small, fun same => by cases same⟩

theorem bytesField_writable {tag : Nat} (content : List UInt8) (positive : 0 < tag)
    (small : tag < 2 ^ 29) : ∀ field ∈ bytesField tag content, field.IsWritable := by
  intro field member
  unfold bytesField at member
  split at member
  · cases member
  · rw [List.mem_singleton.mp member]
    exact messageField_writable content positive small

theorem length_content_le {fields : List Field} {tag : Nat} {content : List UInt8}
    (member : messageField tag content ∈ fields) : content.length ≤ (write fields).length := by
  induction fields with
  | nil => cases member
  | cons field rest ih =>
      rw [write_cons, List.length_append]
      rcases List.mem_cons.mp member with same | later
      · rw [← same]
        change content.length ≤
          (key tag 2 ++ varint content.length ++ content).length + (write rest).length
        rw [List.length_append]
        omega
      · have inner := ih later
        omega

theorem toInt32_of_toInt64 (value : Int32) :
    value.toInt64.toUInt64.toUInt32.toInt32 = value := by
  apply Int32.toBitVec_inj.mp
  rw [UInt32.toBitVec_toInt32, UInt64.toBitVec_toUInt32, Int64.toBitVec_toUInt64,
    Int32.toBitVec_toInt64]
  ext index bound
  simp only [BitVec.getElem_setWidth, BitVec.getLsbD_signExtend]
  grind

theorem eq_zero_of_toInt64 {value : Int32} (zero : value.toInt64 = 0) : value = 0 := by
  have narrow := congrArg Int64.toInt32 zero
  rw [Int32.toInt32_toInt64] at narrow
  exact narrow

/-! ### Nested messages -/

namespace AccountId

theorem fields_writable (message : AccountId) :
    ∀ field ∈ message.fields, field.IsWritable := by
  unfold fields
  rw [List.forall_mem_append]
  exact ⟨bytesField_writable _ (by decide) (by decide),
    bytesField_writable _ (by decide) (by decide)⟩

theorem absorbAll_fields (message : AccountId) :
    absorbAll absorb empty message.fields = some message := by
  obtain ⟨name, address⟩ := message
  have named : absorbAll absorb empty (bytesField 1 name) = some ⟨name, []⟩ :=
    absorbAll_bytesField rfl (by rintro rfl; rfl)
  have addressed : absorbAll absorb ⟨name, []⟩ (bytesField 2 address) = some ⟨name, address⟩ :=
    absorbAll_bytesField rfl (by rintro rfl; rfl)
  exact absorbAll_append named addressed

theorem merge_encode (limit : Nat) (message : AccountId) (fits : message.encode.length < 2 ^ 64) :
    merge limit empty message.encode = some message := by
  unfold merge encode
  rw [parse_write limit _ message.fields_writable fits]
  exact message.absorbAll_fields

end AccountId

namespace Authority

theorem fields_writable (message : Authority) :
    ∀ field ∈ message.fields, field.IsWritable := by
  obtain ⟨account, permissionName⟩ := message
  unfold fields
  rw [List.forall_mem_append]
  refine ⟨?_, bytesField_writable _ (by decide) (by decide)⟩
  intro field member
  obtain ⟨value, -, same⟩ := Option.map_eq_some_iff.mp (Option.mem_toList.mp member)
  rw [← same]
  exact messageField_writable _ (by decide) (by decide)

theorem absorbAll_fields (limit : Nat) (message : Authority)
    (fits : message.encode.length < 2 ^ 64) :
    absorbAll (absorb limit) empty message.fields = some message := by
  obtain ⟨account, permissionName⟩ := message
  have owned : absorbAll (absorb limit) empty
      (account.map fun account => messageField 1 account.encode).toList =
        some ⟨account, []⟩ := by
    cases account with
    | none => rfl
    | some account =>
        have member : messageField 1 account.encode ∈
            fields ⟨some account, permissionName⟩ := by simp [fields]
        have inner := Nat.lt_of_le_of_lt (length_content_le member) fits
        apply absorbAll_singleton
        change (AccountId.merge (limit - 1) AccountId.empty account.encode).map _ = _
        rw [AccountId.merge_encode _ _ inner]
        rfl
  have named : absorbAll (absorb limit) ⟨account, []⟩ (bytesField 2 permissionName) =
      some ⟨account, permissionName⟩ :=
    absorbAll_bytesField rfl (by rintro rfl; rfl)
  exact absorbAll_append owned named

theorem merge_encode (limit : Nat) (message : Authority) (fits : message.encode.length < 2 ^ 64) :
    merge limit empty message.encode = some message := by
  have read := parse_write limit _ message.fields_writable fits
  unfold merge
  rw [encode, read]
  exact message.absorbAll_fields limit fits

end Authority

namespace TypedValue

theorem fields_writable (message : TypedValue) :
    ∀ field ∈ message.fields, field.IsWritable := by
  unfold fields
  rw [List.forall_mem_append]
  exact ⟨bytesField_writable _ (by decide) (by decide),
    bytesField_writable _ (by decide) (by decide)⟩

theorem absorbAll_fields (message : TypedValue) :
    absorbAll absorb empty message.fields = some message := by
  obtain ⟨typeUrl, value⟩ := message
  have typed : absorbAll absorb empty (bytesField 1 (Utf8.encode typeUrl)) =
      some ⟨typeUrl, []⟩ := by
    apply absorbAll_bytesField
    · change (Utf8.decode (Utf8.encode typeUrl)).toOption.map _ = _
      rw [Utf8.decode_encode]
      rfl
    · intro absent
      have same := Utf8.decode_encode typeUrl
      rw [absent] at same
      cases same
      rfl
  have valued : absorbAll absorb ⟨typeUrl, []⟩ (bytesField 2 value) = some ⟨typeUrl, value⟩ :=
    absorbAll_bytesField rfl (by rintro rfl; rfl)
  exact absorbAll_append typed valued

theorem merge_encode (limit : Nat) (message : TypedValue) (fits : message.encode.length < 2 ^ 64) :
    merge limit empty message.encode = some message := by
  unfold merge encode
  rw [parse_write limit _ message.fields_writable fits]
  exact message.absorbAll_fields

end TypedValue

namespace SignedContract

theorem fields_writable (message : SignedContract) :
    ∀ field ∈ message.fields, field.IsWritable := by
  obtain ⟨kind, parameter, provider, contractName, permissionId⟩ := message
  unfold fields
  simp only [List.forall_mem_append, and_assoc]
  refine ⟨?_, ?_, ?_, ?_, ?_⟩
  · exact intField_writable _ (by decide) (by decide)
  · intro field member
    obtain ⟨value, -, same⟩ := Option.map_eq_some_iff.mp (Option.mem_toList.mp member)
    rw [← same]
    exact messageField_writable _ (by decide) (by decide)
  · exact bytesField_writable _ (by decide) (by decide)
  · exact bytesField_writable _ (by decide) (by decide)
  · exact intField_writable _ (by decide) (by decide)

theorem absorbAll_fields (limit : Nat) (message : SignedContract)
    (fits : message.encode.length < 2 ^ 64) :
    absorbAll (absorb limit) empty message.fields = some message := by
  obtain ⟨kind, parameter, provider, contractName, permissionId⟩ := message
  have typed : absorbAll (absorb limit) empty (intField 1 kind.toInt64) =
      some ⟨kind, none, [], [], 0⟩ := by
    apply absorbAll_intField
    · change some (SignedContract.mk kind.toInt64.toUInt64.toUInt32.toInt32 none [] [] 0) = _
      rw [toInt32_of_toInt64]
    · intro zero
      rw [eq_zero_of_toInt64 zero]
      rfl
  have filled : absorbAll (absorb limit) ⟨kind, none, [], [], 0⟩
      (parameter.map fun parameter => messageField 2 parameter.encode).toList =
        some ⟨kind, parameter, [], [], 0⟩ := by
    cases parameter with
    | none => rfl
    | some parameter =>
        have member : messageField 2 parameter.encode ∈
            fields ⟨kind, some parameter, provider, contractName, permissionId⟩ := by simp [fields]
        have inner := Nat.lt_of_le_of_lt (length_content_le member) fits
        apply absorbAll_singleton
        change (TypedValue.merge (limit - 1) TypedValue.empty parameter.encode).map _ = _
        rw [TypedValue.merge_encode _ _ inner]
        rfl
  have provided : absorbAll (absorb limit) ⟨kind, parameter, [], [], 0⟩ (bytesField 3 provider) =
      some ⟨kind, parameter, provider, [], 0⟩ :=
    absorbAll_bytesField rfl (by rintro rfl; rfl)
  have named : absorbAll (absorb limit) ⟨kind, parameter, provider, [], 0⟩
      (bytesField 4 contractName) = some ⟨kind, parameter, provider, contractName, 0⟩ :=
    absorbAll_bytesField rfl (by rintro rfl; rfl)
  have permitted : absorbAll (absorb limit) ⟨kind, parameter, provider, contractName, 0⟩
      (intField 5 permissionId.toInt64) =
        some ⟨kind, parameter, provider, contractName, permissionId⟩ := by
    apply absorbAll_intField
    · change some (SignedContract.mk kind parameter provider contractName
        permissionId.toInt64.toUInt64.toUInt32.toInt32) = _
      rw [toInt32_of_toInt64]
    · intro zero
      rw [eq_zero_of_toInt64 zero]
  exact absorbAll_append (absorbAll_append (absorbAll_append (absorbAll_append typed filled)
    provided) named) permitted

theorem merge_encode (limit : Nat) (message : SignedContract)
    (fits : message.encode.length < 2 ^ 64) :
    merge limit empty message.encode = some message := by
  have read := parse_write limit _ message.fields_writable fits
  unfold merge
  rw [encode, read]
  exact message.absorbAll_fields limit fits

end SignedContract

namespace TransferContract

theorem fields_writable (message : TransferContract) :
    ∀ field ∈ message.fields, field.IsWritable := by
  unfold fields
  simp only [List.forall_mem_append]
  exact ⟨⟨bytesField_writable _ (by decide) (by decide),
    bytesField_writable _ (by decide) (by decide)⟩,
    intField_writable _ (by decide) (by decide)⟩

theorem absorbAll_fields (message : TransferContract) :
    absorbAll absorb empty message.fields = some message := by
  obtain ⟨owner, recipient, amount⟩ := message
  have owned : absorbAll absorb empty (bytesField 1 owner) = some ⟨owner, [], 0⟩ :=
    absorbAll_bytesField rfl (by rintro rfl; rfl)
  have received : absorbAll absorb ⟨owner, [], 0⟩ (bytesField 2 recipient) =
      some ⟨owner, recipient, 0⟩ :=
    absorbAll_bytesField rfl (by rintro rfl; rfl)
  have paid : absorbAll absorb ⟨owner, recipient, 0⟩ (intField 3 amount) =
      some ⟨owner, recipient, amount⟩ :=
    absorbAll_intField rfl (by rintro rfl; rfl)
  exact absorbAll_append (absorbAll_append owned received) paid

theorem decode_encode (message : TransferContract) (fits : message.encode.length < 2 ^ 64) :
    decode message.encode = some message := by
  unfold decode encode
  rw [parse_write maxDepth _ message.fields_writable fits]
  exact message.absorbAll_fields

end TransferContract

namespace TriggerContract

theorem fields_writable (message : TriggerContract) :
    ∀ field ∈ message.fields, field.IsWritable := by
  unfold fields
  simp only [List.forall_mem_append, and_assoc]
  refine ⟨?_, ?_, ?_, ?_, ?_, ?_⟩
  · exact bytesField_writable _ (by decide) (by decide)
  · exact bytesField_writable _ (by decide) (by decide)
  · exact intField_writable _ (by decide) (by decide)
  · exact bytesField_writable _ (by decide) (by decide)
  · exact intField_writable _ (by decide) (by decide)
  · exact intField_writable _ (by decide) (by decide)

theorem absorbAll_fields (message : TriggerContract) :
    absorbAll absorb empty message.fields = some message := by
  obtain ⟨owner, contract, callValue, data, callTokenValue, tokenId⟩ := message
  have owned : absorbAll absorb empty (bytesField 1 owner) = some ⟨owner, [], 0, [], 0, 0⟩ :=
    absorbAll_bytesField rfl (by rintro rfl; rfl)
  have called : absorbAll absorb ⟨owner, [], 0, [], 0, 0⟩ (bytesField 2 contract) =
      some ⟨owner, contract, 0, [], 0, 0⟩ :=
    absorbAll_bytesField rfl (by rintro rfl; rfl)
  have paid : absorbAll absorb ⟨owner, contract, 0, [], 0, 0⟩ (intField 3 callValue) =
      some ⟨owner, contract, callValue, [], 0, 0⟩ :=
    absorbAll_intField rfl (by rintro rfl; rfl)
  have given : absorbAll absorb ⟨owner, contract, callValue, [], 0, 0⟩ (bytesField 4 data) =
      some ⟨owner, contract, callValue, data, 0, 0⟩ :=
    absorbAll_bytesField rfl (by rintro rfl; rfl)
  have tokens : absorbAll absorb ⟨owner, contract, callValue, data, 0, 0⟩
      (intField 5 callTokenValue) = some ⟨owner, contract, callValue, data, callTokenValue, 0⟩ :=
    absorbAll_intField rfl (by rintro rfl; rfl)
  have named : absorbAll absorb ⟨owner, contract, callValue, data, callTokenValue, 0⟩
      (intField 6 tokenId) = some ⟨owner, contract, callValue, data, callTokenValue, tokenId⟩ :=
    absorbAll_intField rfl (by rintro rfl; rfl)
  exact absorbAll_append (absorbAll_append (absorbAll_append (absorbAll_append (absorbAll_append
    owned called) paid) given) tokens) named

theorem decode_encode (message : TriggerContract) (fits : message.encode.length < 2 ^ 64) :
    decode message.encode = some message := by
  unfold decode encode
  rw [parse_write maxDepth _ message.fields_writable fits]
  exact message.absorbAll_fields

end TriggerContract

/-! ### Signed data -/

namespace SignedData

theorem fields_writable (message : SignedData) :
    ∀ field ∈ message.fields, field.IsWritable := by
  unfold fields
  simp only [List.forall_mem_append, List.forall_mem_map, and_assoc]
  refine ⟨?_, ?_, ?_, ?_, ?_, ?_, ?_, ?_, ?_, ?_⟩
  · exact bytesField_writable _ (by decide) (by decide)
  · exact intField_writable _ (by decide) (by decide)
  · exact bytesField_writable _ (by decide) (by decide)
  · exact intField_writable _ (by decide) (by decide)
  · exact fun _ _ => messageField_writable _ (by decide) (by decide)
  · exact bytesField_writable _ (by decide) (by decide)
  · exact fun _ _ => messageField_writable _ (by decide) (by decide)
  · exact bytesField_writable _ (by decide) (by decide)
  · exact intField_writable _ (by decide) (by decide)
  · exact intField_writable _ (by decide) (by decide)

theorem length_authority_le {message : SignedData} {authority : Authority}
    (member : authority ∈ message.auths) : authority.encode.length ≤ message.encode.length := by
  have written : messageField 9 authority.encode ∈ message.fields := by
    simp only [fields, List.mem_append, List.mem_map]
    exact Or.inl (Or.inl (Or.inl (Or.inl (Or.inl (Or.inr ⟨authority, member, rfl⟩)))))
  exact length_content_le written

theorem length_contract_le {message : SignedData} {contract : SignedContract}
    (member : contract ∈ message.contracts) : contract.encode.length ≤ message.encode.length := by
  have written : messageField 11 contract.encode ∈ message.fields := by
    simp only [fields, List.mem_append, List.mem_map]
    exact Or.inl (Or.inl (Or.inl (Or.inr ⟨contract, member, rfl⟩)))
  exact length_content_le written

/-- The fields are taken in the order of their tags; each step fills in one part of the message. -/
theorem absorbAll_fields (limit : Nat) (message : SignedData)
    (fits : message.encode.length < 2 ^ 64) :
    absorbAll (absorb limit) empty message.fields = some message := by
  have authorityFits : ∀ authority ∈ message.auths, authority.encode.length < 2 ^ 64 :=
    fun _ member => Nat.lt_of_le_of_lt (length_authority_le member) fits
  have contractFits : ∀ contract ∈ message.contracts, contract.encode.length < 2 ^ 64 :=
    fun _ member => Nat.lt_of_le_of_lt (length_contract_le member) fits
  obtain ⟨refBlockBytes, refBlockNum, refBlockHash, expiration, auths, data, contracts, scripts,
    timestamp, feeLimit⟩ := message
  let step := absorb limit
  have blockBytes : absorbAll step empty (bytesField 1 refBlockBytes) =
      some ⟨refBlockBytes, 0, [], 0, [], [], [], [], 0, 0⟩ :=
    absorbAll_bytesField rfl (by rintro rfl; rfl)
  have blockNum : absorbAll step ⟨refBlockBytes, 0, [], 0, [], [], [], [], 0, 0⟩
      (intField 3 refBlockNum) =
        some ⟨refBlockBytes, refBlockNum, [], 0, [], [], [], [], 0, 0⟩ :=
    absorbAll_intField rfl (by rintro rfl; rfl)
  have blockHash : absorbAll step ⟨refBlockBytes, refBlockNum, [], 0, [], [], [], [], 0, 0⟩
      (bytesField 4 refBlockHash) =
        some ⟨refBlockBytes, refBlockNum, refBlockHash, 0, [], [], [], [], 0, 0⟩ :=
    absorbAll_bytesField rfl (by rintro rfl; rfl)
  have expires : absorbAll step ⟨refBlockBytes, refBlockNum, refBlockHash, 0, [], [], [], [], 0, 0⟩
      (intField 8 expiration) =
        some ⟨refBlockBytes, refBlockNum, refBlockHash, expiration, [], [], [], [], 0, 0⟩ :=
    absorbAll_intField rfl (by rintro rfl; rfl)
  have authorised := absorbAll_messageFields step
    (fun done => ⟨refBlockBytes, refBlockNum, refBlockHash, expiration, done, [], [], [], 0, 0⟩)
    9 Authority.encode [] auths (by
      intro before authority member
      change (Authority.merge (limit - 1) Authority.empty authority.encode).map _ = _
      rw [Authority.merge_encode _ _ (authorityFits authority member)]
      rfl)
  have noted : absorbAll step
      ⟨refBlockBytes, refBlockNum, refBlockHash, expiration, auths, [], [], [], 0, 0⟩
      (bytesField 10 data) =
        some ⟨refBlockBytes, refBlockNum, refBlockHash, expiration, auths, data, [], [], 0, 0⟩ :=
    absorbAll_bytesField rfl (by rintro rfl; rfl)
  have contracted := absorbAll_messageFields step
    (fun done => ⟨refBlockBytes, refBlockNum, refBlockHash, expiration, auths, data, done, [], 0,
      0⟩)
    11 SignedContract.encode [] contracts (by
      intro before contract member
      change (SignedContract.merge (limit - 1) SignedContract.empty contract.encode).map _ = _
      rw [SignedContract.merge_encode _ _ (contractFits contract member)]
      rfl)
  have scripted : absorbAll step
      ⟨refBlockBytes, refBlockNum, refBlockHash, expiration, auths, data, contracts, [], 0, 0⟩
      (bytesField 12 scripts) =
        some ⟨refBlockBytes, refBlockNum, refBlockHash, expiration, auths, data, contracts, scripts,
          0, 0⟩ :=
    absorbAll_bytesField rfl (by rintro rfl; rfl)
  have stamped : absorbAll step
      ⟨refBlockBytes, refBlockNum, refBlockHash, expiration, auths, data, contracts, scripts, 0, 0⟩
      (intField 14 timestamp) =
        some ⟨refBlockBytes, refBlockNum, refBlockHash, expiration, auths, data, contracts, scripts,
          timestamp, 0⟩ :=
    absorbAll_intField rfl (by rintro rfl; rfl)
  have limited : absorbAll step
      ⟨refBlockBytes, refBlockNum, refBlockHash, expiration, auths, data, contracts, scripts,
        timestamp, 0⟩ (intField 18 feeLimit) =
        some ⟨refBlockBytes, refBlockNum, refBlockHash, expiration, auths, data, contracts, scripts,
          timestamp, feeLimit⟩ :=
    absorbAll_intField rfl (by rintro rfl; rfl)
  exact absorbAll_append (absorbAll_append (absorbAll_append (absorbAll_append (absorbAll_append
    (absorbAll_append (absorbAll_append (absorbAll_append (absorbAll_append blockBytes blockNum)
    blockHash) expires) authorised) noted) contracted) scripted) stamped) limited

theorem decode_encode (message : SignedData) (fits : message.encode.length < 2 ^ 64) :
    decode message.encode = some message := by
  have read := parse_write maxDepth _ message.fields_writable fits
  unfold decode
  rw [encode, read]
  exact message.absorbAll_fields maxDepth fits

end SignedData
end TronGateway.Wire
