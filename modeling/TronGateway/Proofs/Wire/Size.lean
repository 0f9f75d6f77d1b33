import TronGateway.Proofs.Wire.Message
set_option autoImplicit false

/-!
# Sizes

The size of a message is computed from its parts, without writing it. As long as it can be counted
in 64 bits it is the number of bytes that are written.
-/

namespace TronGateway.Wire

theorem varintSize_le_iff {n groups : Nat} (positive : 0 < groups) :
    varintSize n ≤ groups ↔ n < 0x80 ^ groups := by
  have power : 0x80 ^ groups = 2 ^ (7 * groups) := by
    rw [Nat.pow_mul]
  unfold varintSize
  rw [power]
  by_cases zero : n = 0
  · subst zero
    simp only [Nat.log2_zero, Nat.zero_div, Nat.zero_add]
    exact ⟨fun _ => Nat.two_pow_pos _, fun _ => positive⟩
  · rw [← Nat.log2_lt zero]
    omega

theorem varintSize_pos (n : Nat) : 0 < varintSize n :=
  Nat.succ_pos _

theorem varintSize_of_small {n : Nat} (small : n < 0x80) : varintSize n = 1 :=
  Nat.le_antisymm ((varintSize_le_iff (by decide)).mpr small) (varintSize_pos n)

theorem lt_pow_varintSize (n : Nat) : n < 0x80 ^ varintSize n :=
  (varintSize_le_iff (varintSize_pos n)).mp (Nat.le_refl _)

theorem varintSize_mono {m n : Nat} (below : m ≤ n) : varintSize m ≤ varintSize n :=
  (varintSize_le_iff (varintSize_pos n)).mpr (Nat.lt_of_le_of_lt below (lt_pow_varintSize n))

theorem varintSize_group_le {low n : Nat} (small : low < 0x80) :
    varintSize (low + 0x80 * n) ≤ varintSize n + 1 := by
  have inner := lt_pow_varintSize n
  rw [varintSize_le_iff (Nat.succ_pos _), Nat.pow_succ]
  omega

theorem varintSize_of_large {n : Nat} (large : 0x80 ≤ n) :
    varintSize n = varintSize (n / 0x80) + 1 := by
  apply Nat.le_antisymm
  · have joined : n % 0x80 + 0x80 * (n / 0x80) = n := Nat.mod_add_div n 0x80
    have size := varintSize_group_le (n := n / 0x80) (Nat.mod_lt n (by decide))
    rwa [joined] at size
  · have two : ¬ varintSize n ≤ 1 := by
      rw [varintSize_le_iff (by decide)]
      omega
    obtain ⟨groups, size⟩ : ∃ groups, varintSize n = groups + 1 + 1 :=
      ⟨varintSize n - 2, by omega⟩
    have bound := lt_pow_varintSize n
    rw [size, Nat.pow_succ] at bound
    have inner : varintSize (n / 0x80) ≤ groups + 1 := by
      rw [varintSize_le_iff (Nat.succ_pos _)]
      omega
    omega

theorem length_varintUpTo {fuel n : Nat} (fits : n < 0x80 ^ (fuel + 1)) :
    (varintUpTo (fuel + 1) n).length = varintSize n := by
  induction fuel generalizing n with
  | zero =>
      have small : n < 0x80 := by omega
      rw [varintUpTo, if_pos small, varintSize_of_small small]
      rfl
  | succ fuel ih =>
      rw [varintUpTo]
      split
      · next small =>
          rw [varintSize_of_small small]
          rfl
      · next large =>
          rw [Nat.pow_succ] at fits
          rw [List.length_cons, ih (by omega), varintSize_of_large (Nat.le_of_not_lt large)]

theorem length_varint {n : Nat} (fits : n < 2 ^ 64) : (varint n).length = varintSize n :=
  length_varintUpTo (by omega)

def Field.size (field : Field) : Nat :=
  match field.payload with
  | .number value => varintSize (field.tag * 8) + varintSize value.toNat
  | .bytes content => delimitedSize field.tag content.length
  | .unused => 0

def sizes (fields : List Field) : Nat :=
  total (fields.map Field.size)

theorem sizes_nil : sizes [] = 0 := rfl

theorem sizes_cons (field : Field) (fields : List Field) :
    sizes (field :: fields) = field.size + sizes fields := rfl

theorem sizes_append (first second : List Field) :
    sizes (first ++ second) = sizes first + sizes second := by
  induction first with
  | nil => simp [sizes_nil]
  | cons field rest ih => simp [sizes_cons, ih, Nat.add_assoc]

theorem sizes_intField (tag : Nat) (value : Int64) :
    sizes (intField tag value) = intSize tag value := by
  unfold intField intSize
  split <;> rfl

theorem sizes_bytesField (tag : Nat) (content : List UInt8) :
    sizes (bytesField tag content) = bytesSize tag content := by
  unfold bytesField bytesSize
  split <;> rfl

theorem size_messageField (tag : Nat) (content : List UInt8) :
    (messageField tag content).size = delimitedSize tag content.length := rfl

theorem Field.length_write {field : Field} (writable : field.IsWritable)
    (fits : field.size < 2 ^ 64) : field.write.length = field.size := by
  obtain ⟨tag, payload⟩ := field
  have tagLt : tag < 2 ^ 29 := writable.tag_lt
  cases payload with
  | number value =>
      change (key tag 0 ++ varint value.toNat).length =
        varintSize (tag * 8) + varintSize value.toNat
      rw [List.length_append, key, length_varint (by omega), length_varint value.toNat_lt]
      rfl
  | bytes content =>
      have short : content.length < 2 ^ 64 := Nat.lt_of_le_of_lt (Nat.le_add_left _ _) fits
      change (key tag 2 ++ varint content.length ++ content).length =
        delimitedSize tag content.length
      rw [List.length_append, List.length_append, key, length_varint (by omega),
        length_varint short]
      rfl
  | unused => exact absurd rfl writable.payload_ne

/-- The number of bytes written is the computed size, when that can be counted. -/
theorem length_write {fields : List Field} {count : Nat}
    (writable : ∀ field ∈ fields, field.IsWritable) (computed : sizes fields = count)
    (fits : count < 2 ^ 64) : (write fields).length = count := by
  induction fields generalizing count with
  | nil => exact computed
  | cons field rest ih =>
      rw [sizes_cons] at computed
      rw [write_cons, List.length_append,
        Field.length_write (writable field List.mem_cons_self) (by omega),
        ih (fun other member => writable other (List.mem_cons_of_mem _ member)) rfl (by omega)]
      exact computed

theorem le_delimitedSize (tag count : Nat) : count ≤ delimitedSize tag count :=
  Nat.le_add_left _ _

theorem le_total {size : Nat} {counted : List Nat} (member : size ∈ counted) :
    size ≤ total counted := by
  induction counted with
  | nil => cases member
  | cons first rest ih =>
      change size ≤ first + total rest
      rcases List.mem_cons.mp member with same | later
      · omega
      · have inner := ih later
        omega

theorem sizes_messageFields {α : Type} {encode : α → List UInt8} {encodedLength : α → Nat}
    (tag : Nat) {items : List α}
    (lengths : ∀ item ∈ items, (encode item).length = encodedLength item) :
    sizes (items.map fun item => messageField tag (encode item)) =
      total (items.map fun item => delimitedSize tag (encodedLength item)) := by
  induction items with
  | nil => rfl
  | cons item rest ih =>
      have tail := ih fun other member => lengths other (List.mem_cons_of_mem _ member)
      rw [List.map_cons, sizes_cons, tail, size_messageField, lengths item List.mem_cons_self]
      rfl

/-! ### Messages -/

namespace AccountId

theorem length_encode {message : AccountId} (fits : message.encodedLength < 2 ^ 64) :
    message.encode.length = message.encodedLength := by
  apply length_write message.fields_writable _ fits
  simp only [fields, encodedLength, sizes_append, sizes_bytesField]

end AccountId

namespace Authority

theorem length_encode {message : Authority} (fits : message.encodedLength < 2 ^ 64) :
    message.encode.length = message.encodedLength := by
  apply length_write message.fields_writable _ fits
  obtain ⟨account, permissionName⟩ := message
  cases account with
  | none => simp [fields, encodedLength, sizes_bytesField]
  | some account =>
      have inner : account.encode.length = account.encodedLength := by
        have within := le_delimitedSize 1 account.encodedLength
        apply AccountId.length_encode
        simp only [encodedLength, Option.map_some, Option.getD_some] at fits
        omega
      simp [fields, encodedLength, sizes_cons, sizes_bytesField, size_messageField, inner]

end Authority

namespace TypedValue

theorem length_encode {message : TypedValue} (fits : message.encodedLength < 2 ^ 64) :
    message.encode.length = message.encodedLength := by
  apply length_write message.fields_writable _ fits
  simp only [fields, encodedLength, sizes_append, sizes_bytesField]

end TypedValue

namespace SignedContract

theorem length_encode {message : SignedContract} (fits : message.encodedLength < 2 ^ 64) :
    message.encode.length = message.encodedLength := by
  apply length_write message.fields_writable _ fits
  obtain ⟨kind, parameter, provider, contractName, permissionId⟩ := message
  cases parameter with
  | none =>
      simp [fields, encodedLength, sizes_append, sizes_bytesField, sizes_intField, Nat.add_assoc]
  | some parameter =>
      have inner : parameter.encode.length = parameter.encodedLength := by
        have within := le_delimitedSize 2 parameter.encodedLength
        apply TypedValue.length_encode
        simp only [encodedLength, Option.map_some, Option.getD_some] at fits
        omega
      simp [fields, encodedLength, sizes_append, sizes_cons, sizes_bytesField, sizes_intField,
        size_messageField, inner, Nat.add_assoc]

end SignedContract

namespace SignedData

theorem length_encode {message : SignedData} (fits : message.encodedLength < 2 ^ 64) :
    message.encode.length = message.encodedLength := by
  apply length_write message.fields_writable _ fits
  unfold encodedLength at fits
  have authorities : ∀ authority ∈ message.auths,
      authority.encode.length = authority.encodedLength := by
    intro authority member
    have within := le_delimitedSize 9 authority.encodedLength
    have counted := le_total (List.mem_map_of_mem member
      (f := fun authority : Authority => delimitedSize 9 authority.encodedLength))
    exact Authority.length_encode (by omega)
  have contracts : ∀ contract ∈ message.contracts,
      contract.encode.length = contract.encodedLength := by
    intro contract member
    have within := le_delimitedSize 11 contract.encodedLength
    have counted := le_total (List.mem_map_of_mem member
      (f := fun contract : SignedContract => delimitedSize 11 contract.encodedLength))
    exact SignedContract.length_encode (by omega)
  simp only [fields, encodedLength, sizes_append, sizes_bytesField, sizes_intField,
    sizes_messageFields 9 authorities, sizes_messageFields 11 contracts]

end SignedData

namespace TransferContract

theorem length_encode {message : TransferContract} (fits : message.encodedLength < 2 ^ 64) :
    message.encode.length = message.encodedLength := by
  apply length_write message.fields_writable _ fits
  simp only [fields, encodedLength, sizes_append, sizes_bytesField, sizes_intField]

end TransferContract

namespace TriggerContract

theorem length_encode {message : TriggerContract} (fits : message.encodedLength < 2 ^ 64) :
    message.encode.length = message.encodedLength := by
  apply length_write message.fields_writable _ fits
  simp only [fields, encodedLength, sizes_append, sizes_bytesField, sizes_intField]

end TriggerContract

end TronGateway.Wire
