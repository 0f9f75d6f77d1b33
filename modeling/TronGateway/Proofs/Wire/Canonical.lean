import TronGateway.Proofs.Wire.Size
import Mathlib.Tactic.SplitIfs
set_option autoImplicit false

/-!
# Canonical bytes

What is read from bytes may have been written in another order, with longer numbers and with fields
that a message does not have. Writing it again gives bytes that are read as the same message. These
are at most twice as long, so that they can be counted: only a number of 32 bits may take more bytes
than it was read from, and that happens when it is negative and took at least half of them.
-/

namespace TronGateway.Wire

theorem size_of_readGroups {fuel n : Nat} {bytes rest : List UInt8}
    (read : readGroups fuel bytes = some (n, rest)) :
    varintSize n + rest.length ≤ bytes.length := by
  induction fuel generalizing bytes n rest with
  | zero => cases read
  | succ fuel ih =>
      cases bytes with
      | nil => cases read
      | cons byte behind =>
          rw [readGroups] at read
          split at read
          · next last =>
              cases read
              rw [varintSize_of_small (UInt8.lt_iff_toNat_lt.mp last), List.length_cons]
              omega
          · obtain ⟨⟨higher, left⟩, inner, same⟩ := Option.map_eq_some_iff.mp read
            dsimp only at same
            cases same
            have size := ih inner
            have grown := varintSize_group_le (n := higher)
              (Nat.mod_lt byte.toNat (show 0 < 0x80 by decide))
            rw [List.length_cons]
            omega

theorem readVarint_eq_some_iff {bytes rest : List UInt8} {n : Nat} :
    readVarint bytes = some (n, rest) ↔ readGroups 10 bytes = some (n, rest) ∧ n < 2 ^ 64 := by
  unfold readVarint
  split
  · next none => simp [none]
  · next found left read =>
      rw [read]
      split
      · next small =>
          constructor
          · rintro ⟨⟩
            exact ⟨rfl, small⟩
          · rintro ⟨⟨⟩, -⟩
            rfl
      · next large =>
          constructor
          · intro failed
            cases failed
          · rintro ⟨⟨⟩, small⟩
            exact absurd small large

theorem size_of_readVarint {bytes rest : List UInt8} {n : Nat}
    (read : readVarint bytes = some (n, rest)) : varintSize n + rest.length ≤ bytes.length :=
  size_of_readGroups (readVarint_eq_some_iff.mp read).1

theorem size_of_readKey {bytes rest : List UInt8} {tag kind : Nat}
    (read : readKey bytes = some ((tag, kind), rest)) :
    varintSize (tag * 8 + kind) + rest.length ≤ bytes.length := by
  unfold readKey at read
  split at read
  · cases read
  · next n left number =>
      split at read
      · cases read
        have joined : n / 8 * 8 + n % 8 = n := Nat.div_add_mod' n 8
        rw [joined]
        exact size_of_readVarint number
      · cases read

theorem size_of_readBytes {bytes content rest : List UInt8}
    (read : readBytes bytes = some (content, rest)) :
    varintSize content.length + content.length + rest.length ≤ bytes.length := by
  unfold readBytes at read
  split at read
  · cases read
  · next count left number =>
      split at read
      · next within =>
          cases read
          have size := size_of_readVarint number
          rw [List.length_take, List.length_drop, Nat.min_eq_left within]
          omega
      · cases read

theorem length_of_advance {count : Nat} {bytes rest : List UInt8}
    (moved : advance count bytes = some rest) : rest.length ≤ bytes.length := by
  unfold advance at moved
  split at moved
  · cases moved
    rw [List.length_drop]
    exact Nat.sub_le _ _
  · cases moved

theorem length_of_skipGroup {fuel limit tag : Nat} {bytes rest : List UInt8}
    (skipped : skipGroup fuel limit tag bytes = some rest) : rest.length ≤ bytes.length := by
  induction fuel generalizing limit tag bytes rest with
  | zero => cases skipped
  | succ fuel ih =>
      rw [skipGroup] at skipped
      split at skipped
      · cases skipped
      · next inner kind behindKey keyRead =>
          have keyed := size_of_readKey keyRead
          split at skipped
          · split at skipped
            · cases skipped
              omega
            · cases skipped
          · split at skipped
            · cases skipped
            · dsimp only at skipped
              split at skipped
              · cases skipped
              · next left payload =>
                  have outer := ih skipped
                  suffices inside : left.length ≤ behindKey.length by omega
                  split_ifs at payload
                  · obtain ⟨⟨n, same⟩, read, rfl⟩ := Option.map_eq_some_iff.mp payload
                    have size := size_of_readVarint read
                    exact Nat.le_trans (Nat.le_add_left _ _) size
                  · exact length_of_advance payload
                  · obtain ⟨⟨content, same⟩, read, rfl⟩ := Option.map_eq_some_iff.mp payload
                    have size := size_of_readBytes read
                    exact Nat.le_trans (Nat.le_add_left _ _) size
                  · exact ih payload
                  · exact length_of_advance payload

theorem size_of_readPayload {limit tag kind : Nat} {payload : Payload} {bytes rest : List UInt8}
    (read : readPayload limit tag kind bytes = some (payload, rest)) :
    Field.size ⟨tag, payload⟩ + rest.length ≤ varintSize (tag * 8 + kind) + bytes.length := by
  have unused {left : List UInt8} (shorter : left.length ≤ bytes.length) :
      Field.size ⟨tag, .unused⟩ + left.length ≤ varintSize (tag * 8 + kind) + bytes.length :=
    Nat.le_trans (Nat.le_of_eq (Nat.zero_add _)) (Nat.le_trans shorter (Nat.le_add_left _ _))
  unfold readPayload at read
  split_ifs at read with number wide delimited group narrow
  · subst number
    obtain ⟨⟨n, left⟩, found, same⟩ := Option.map_eq_some_iff.mp read
    cases same
    obtain ⟨-, small⟩ := readVarint_eq_some_iff.mp found
    have size := size_of_readVarint found
    change varintSize (tag * 8) + varintSize (UInt64.ofNat n).toNat + left.length ≤
      varintSize (tag * 8) + bytes.length
    rw [UInt64.toNat_ofNat_of_lt' small]
    omega
  · obtain ⟨left, moved, same⟩ := Option.map_eq_some_iff.mp read
    cases same
    exact unused (length_of_advance moved)
  · subst delimited
    obtain ⟨⟨content, left⟩, found, same⟩ := Option.map_eq_some_iff.mp read
    cases same
    have size := size_of_readBytes found
    change delimitedSize tag content.length + left.length ≤ _
    unfold delimitedSize
    omega
  · obtain ⟨left, skipped, same⟩ := Option.map_eq_some_iff.mp read
    cases same
    exact unused (length_of_skipGroup skipped)
  · obtain ⟨left, moved, same⟩ := Option.map_eq_some_iff.mp read
    cases same
    exact unused (length_of_advance moved)

theorem sizes_of_readFields {limit fuel : Nat} {bytes : List UInt8} {fields : List Field}
    (read : readFields limit fuel bytes = some fields) : sizes fields ≤ bytes.length := by
  induction fuel generalizing bytes fields with
  | zero =>
      cases bytes with
      | nil =>
          cases read
          exact Nat.zero_le _
      | cons byte behind => cases read
  | succ fuel ih =>
      cases bytes with
      | nil =>
          cases read
          exact Nat.zero_le _
      | cons byte behind =>
          rw [readFields] at read
          split at read
          · cases read
          · next tag kind behindKey keyRead =>
              split at read
              · cases read
              · next payload left payloadRead =>
                  obtain ⟨others, tail, rfl⟩ := Option.map_eq_some_iff.mp read
                  have keyed := size_of_readKey keyRead
                  have head := size_of_readPayload payloadRead
                  have later := ih tail
                  rw [sizes_cons]
                  omega

theorem sizes_of_parse {limit : Nat} {bytes : List UInt8} {fields : List Field}
    (read : parse limit bytes = some fields) : sizes fields ≤ bytes.length :=
  sizes_of_readFields read

/-! ### What is taken is no longer than twice the field -/

theorem size_number (tag : Nat) (value : UInt64) :
    Field.size ⟨tag, .number value⟩ = varintSize (tag * 8) + varintSize value.toNat := rfl

theorem size_bytes (tag : Nat) (content : List UInt8) :
    Field.size ⟨tag, .bytes content⟩ = delimitedSize tag content.length := rfl

theorem bytesSize_le (tag : Nat) (content : List UInt8) :
    bytesSize tag content ≤ Field.size ⟨tag, .bytes content⟩ := by
  unfold bytesSize
  split
  · exact Nat.zero_le _
  · exact Nat.le_refl _

theorem intSize_le (tag : Nat) (value : UInt64) :
    intSize tag value.toInt64 ≤ Field.size ⟨tag, .number value⟩ := by
  unfold intSize
  split
  · exact Nat.zero_le _
  · rw [UInt64.toUInt64_toInt64]
    exact Nat.le_refl _

theorem toNat_toInt32 (value : UInt64) :
    value.toUInt32.toInt32.toInt64.toUInt64.toNat =
      value.toNat % 2 ^ 32 + if 2 ^ 31 ≤ value.toNat % 2 ^ 32 then 2 ^ 64 - 2 ^ 32 else 0 := by
  have narrow : (value.toBitVec.setWidth 32).toNat = value.toNat % 2 ^ 32 := by
    rw [BitVec.toNat_setWidth]
    rfl
  change value.toUInt32.toInt32.toInt64.toUInt64.toBitVec.toNat = _
  rw [Int64.toBitVec_toUInt64, Int32.toBitVec_toInt64, UInt32.toBitVec_toInt32,
    UInt64.toBitVec_toUInt32, BitVec.toNat_signExtend, BitVec.msb_eq_decide, narrow,
    BitVec.toNat_setWidth, narrow, Nat.mod_eq_of_lt (a := value.toNat % 2 ^ 32) (by omega)]
  simp only [decide_eq_true_eq, Nat.add_one_sub_one]

/-- A number that is negative with 32 bits was read from at least five of the ten groups that it
takes when it is written. -/
theorem varintSize_toInt32_le (value : UInt64) :
    varintSize value.toUInt32.toInt32.toInt64.toUInt64.toNat ≤ 2 * varintSize value.toNat := by
  have low : value.toNat % 2 ^ 32 ≤ value.toNat := Nat.mod_le _ _
  rw [toNat_toInt32]
  split
  · next negative =>
      have many : ¬ varintSize value.toNat ≤ 4 := by
        rw [varintSize_le_iff (by decide)]
        omega
      have few : varintSize (value.toNat % 2 ^ 32 + (2 ^ 64 - 2 ^ 32)) ≤ 10 := by
        rw [varintSize_le_iff (by decide)]
        omega
      omega
  · have size := varintSize_mono low
    rw [Nat.add_zero]
    omega

theorem intSize_toInt32_le (tag : Nat) (value : UInt64) :
    intSize tag value.toUInt32.toInt32.toInt64 ≤ 2 * Field.size ⟨tag, .number value⟩ := by
  have number := varintSize_toInt32_le value
  rw [size_number]
  unfold intSize
  split
  · exact Nat.zero_le _
  · omega

theorem varintSize_double_le (n : Nat) : varintSize (2 * n) ≤ varintSize n + 1 := by
  have inner := lt_pow_varintSize n
  rw [varintSize_le_iff (Nat.succ_pos _), Nat.pow_succ]
  omega

theorem varintSize_add_le (m n : Nat) : varintSize (m + n) ≤ varintSize m + varintSize n := by
  have left := lt_pow_varintSize m
  have right := lt_pow_varintSize n
  rw [varintSize_le_iff (Nat.add_pos_left (varintSize_pos m) _), Nat.pow_add]
  calc m + n < m + n + 1 := Nat.lt_succ_self _
    _ ≤ (m + 1) * (n + 1) := by
      rw [Nat.add_mul, Nat.mul_add, Nat.one_mul, Nat.mul_one]
      omega
    _ ≤ 0x80 ^ varintSize m * 0x80 ^ varintSize n := Nat.mul_le_mul left right

/-- A message that takes in the content of a field grows with its key and length by no more than
twice the field. -/
theorem delimitedSize_grown {tag before after : Nat} {content : List UInt8}
    (grown : after ≤ before + 2 * content.length) :
    delimitedSize tag after ≤ delimitedSize tag before + 2 * Field.size ⟨tag, .bytes content⟩ := by
  have wider := varintSize_mono grown
  have apart := varintSize_add_le before (2 * content.length)
  have double := varintSize_double_le content.length
  have positive := varintSize_pos content.length
  rw [size_bytes]
  unfold delimitedSize
  omega

theorem delimitedSize_merged {α : Type} (tag : Nat) (encodedLength : α → Nat)
    (previous : Option α) {start : α} {after : Nat} {content : List UInt8}
    (fresh : encodedLength start = 0)
    (grown : after ≤ encodedLength (previous.getD start) + 2 * content.length) :
    delimitedSize tag after ≤
      (previous.map fun message => delimitedSize tag (encodedLength message)).getD 0 +
        2 * Field.size ⟨tag, .bytes content⟩ := by
  cases previous with
  | some message => exact delimitedSize_grown grown
  | none =>
      rw [Option.getD_none, fresh, Nat.zero_add] at grown
      have wider := varintSize_mono grown
      have double := varintSize_double_le content.length
      have positive := varintSize_pos (tag * 8 + 2)
      rw [Option.map_none, Option.getD_none, size_bytes]
      unfold delimitedSize
      omega

theorem readContent?_eq_some_iff {payload : Payload} {content : List UInt8} :
    readContent? payload = some content ↔ payload = .bytes content := by
  cases payload <;> simp [readContent?]

section Growing

variable {α : Type} {encodedLength : α → Nat} {message next : α} {tag : Nat} {payload : Payload}

theorem grown_of_content {build : List UInt8 → α}
    (taken : (readContent? payload).map build = some next)
    (size : ∀ content,
      encodedLength (build content) ≤ encodedLength message + bytesSize tag content) :
    encodedLength next ≤ encodedLength message + 2 * Field.size ⟨tag, payload⟩ := by
  obtain ⟨content, read, rfl⟩ := Option.map_eq_some_iff.mp taken
  obtain rfl := readContent?_eq_some_iff.mp read
  have part := bytesSize_le tag content
  have whole := size content
  omega

theorem grown_of_int64 {build : Int64 → α}
    (taken : (readInt64? payload).map build = some next)
    (size : ∀ value, encodedLength (build value) ≤ encodedLength message + intSize tag value) :
    encodedLength next ≤ encodedLength message + 2 * Field.size ⟨tag, payload⟩ := by
  obtain ⟨value, read, rfl⟩ := Option.map_eq_some_iff.mp taken
  cases payload with
  | number number =>
      cases read
      have part := intSize_le tag number
      have whole := size number.toInt64
      omega
  | bytes content => cases read
  | unused => cases read

theorem grown_of_int32 {build : Int32 → α}
    (taken : (readInt32? payload).map build = some next)
    (size : ∀ value,
      encodedLength (build value) ≤ encodedLength message + intSize tag value.toInt64) :
    encodedLength next ≤ encodedLength message + 2 * Field.size ⟨tag, payload⟩ := by
  obtain ⟨value, read, rfl⟩ := Option.map_eq_some_iff.mp taken
  cases payload with
  | number number =>
      cases read
      have part := intSize_toInt32_le tag number
      have whole := size number.toUInt32.toInt32
      omega
  | bytes content => cases read
  | unused => cases read

variable {absorb : α → Field → Option α}

theorem grown_of_absorbAll
    (step : ∀ {message next : α} {field : Field}, absorb message field = some next →
      encodedLength next ≤ encodedLength message + 2 * field.size)
    {fields : List Field} (taken : absorbAll absorb message fields = some next) :
    encodedLength next ≤ encodedLength message + 2 * sizes fields := by
  induction fields generalizing message with
  | nil =>
      cases taken
      exact Nat.le_add_right _ _
  | cons field rest ih =>
      rw [absorbAll] at taken
      split at taken
      · cases taken
      · next first =>
          have head := step first
          have tail := ih taken
          rw [sizes_cons]
          omega

theorem grown_of_merge
    (step : ∀ {message next : α} {field : Field}, absorb message field = some next →
      encodedLength next ≤ encodedLength message + 2 * field.size)
    {limit : Nat} {bytes : List UInt8}
    (merged : (parse limit bytes).bind (absorbAll absorb message) = some next) :
    encodedLength next ≤ encodedLength message + 2 * bytes.length := by
  obtain ⟨fields, read, taken⟩ := Option.bind_eq_some_iff.mp merged
  have counted := sizes_of_parse read
  have grown := grown_of_absorbAll step taken
  omega

end Growing

/-! ### Messages -/

namespace AccountId

theorem encodedLength_absorb {message next : AccountId} {field : Field}
    (taken : absorb message field = some next) :
    next.encodedLength ≤ message.encodedLength + 2 * field.size := by
  obtain ⟨tag, payload⟩ := field
  unfold absorb at taken
  dsimp only at taken
  split at taken
  · exact grown_of_content taken fun name => by simp only [encodedLength]; omega
  · exact grown_of_content taken fun address => by simp only [encodedLength]; omega
  · cases taken
    exact Nat.le_add_right _ _

end AccountId

namespace Authority

theorem encodedLength_absorb {limit : Nat} {message next : Authority} {field : Field}
    (taken : absorb limit message field = some next) :
    next.encodedLength ≤ message.encodedLength + 2 * field.size := by
  obtain ⟨tag, payload⟩ := field
  unfold absorb at taken
  dsimp only at taken
  split at taken
  · split at taken
    · cases taken
    · next content read =>
        obtain rfl := readContent?_eq_some_iff.mp read
        obtain ⟨account, inner, rfl⟩ := Option.map_eq_some_iff.mp taken
        have grown := grown_of_merge AccountId.encodedLength_absorb inner
        have part := delimitedSize_merged 1 AccountId.encodedLength message.account rfl grown
        simp only [encodedLength, Option.map_some, Option.getD_some]
        omega
  · exact grown_of_content taken fun permissionName => by simp only [encodedLength]; omega
  · cases taken
    exact Nat.le_add_right _ _

end Authority

namespace TypedValue

theorem encodedLength_absorb {message next : TypedValue} {field : Field}
    (taken : absorb message field = some next) :
    next.encodedLength ≤ message.encodedLength + 2 * field.size := by
  obtain ⟨tag, payload⟩ := field
  unfold absorb at taken
  dsimp only at taken
  split at taken
  · split at taken
    · cases taken
    · next content read =>
        obtain rfl := readContent?_eq_some_iff.mp read
        obtain ⟨typeUrl, text, rfl⟩ := Option.map_eq_some_iff.mp taken
        obtain rfl : content = Utf8.encode typeUrl := by
          cases read : Utf8.decode content with
          | error fault =>
              rw [read] at text
              cases text
          | ok found =>
              rw [read] at text
              cases text
              exact Utf8.decode_eq_ok_iff.mp read
        have part := bytesSize_le 1 (Utf8.encode typeUrl)
        simp only [encodedLength]
        omega
  · exact grown_of_content taken fun value => by simp only [encodedLength]; omega
  · cases taken
    exact Nat.le_add_right _ _

end TypedValue

namespace SignedContract

theorem encodedLength_absorb {limit : Nat} {message next : SignedContract} {field : Field}
    (taken : absorb limit message field = some next) :
    next.encodedLength ≤ message.encodedLength + 2 * field.size := by
  obtain ⟨tag, payload⟩ := field
  unfold absorb at taken
  dsimp only at taken
  split at taken
  · exact grown_of_int32 taken fun kind => by simp only [encodedLength]; omega
  · split at taken
    · cases taken
    · next content read =>
        obtain rfl := readContent?_eq_some_iff.mp read
        obtain ⟨parameter, inner, rfl⟩ := Option.map_eq_some_iff.mp taken
        have grown := grown_of_merge TypedValue.encodedLength_absorb inner
        have part := delimitedSize_merged 2 TypedValue.encodedLength message.parameter rfl grown
        simp only [encodedLength, Option.map_some, Option.getD_some]
        omega
  · exact grown_of_content taken fun provider => by simp only [encodedLength]; omega
  · exact grown_of_content taken fun contractName => by simp only [encodedLength]; omega
  · exact grown_of_int32 taken fun permissionId => by simp only [encodedLength]; omega
  · cases taken
    exact Nat.le_add_right _ _

end SignedContract

namespace SignedData

theorem total_concat (counted : List Nat) (size : Nat) :
    total (counted ++ [size]) = total counted + size := by
  induction counted with
  | nil => exact Nat.add_comm size 0
  | cons first rest ih =>
      change first + total (rest ++ [size]) = first + total rest + size
      rw [ih, Nat.add_assoc]

theorem encodedLength_absorb {limit : Nat} {message next : SignedData} {field : Field}
    (taken : absorb limit message field = some next) :
    next.encodedLength ≤ message.encodedLength + 2 * field.size := by
  obtain ⟨tag, payload⟩ := field
  unfold absorb at taken
  dsimp only at taken
  split at taken
  · exact grown_of_content taken fun refBlockBytes => by simp only [encodedLength]; omega
  · exact grown_of_int64 taken fun refBlockNum => by simp only [encodedLength]; omega
  · exact grown_of_content taken fun refBlockHash => by simp only [encodedLength]; omega
  · exact grown_of_int64 taken fun expiration => by simp only [encodedLength]; omega
  · split at taken
    · cases taken
    · next content read =>
        obtain rfl := readContent?_eq_some_iff.mp read
        obtain ⟨authority, inner, rfl⟩ := Option.map_eq_some_iff.mp taken
        have grown := grown_of_merge Authority.encodedLength_absorb inner
        have part := delimitedSize_merged 9 Authority.encodedLength none rfl grown
        simp only [Option.map_none, Option.getD_none] at part
        simp only [encodedLength, List.map_append, List.map_cons, List.map_nil, total_concat]
        omega
  · exact grown_of_content taken fun data => by simp only [encodedLength]; omega
  · split at taken
    · cases taken
    · next content read =>
        obtain rfl := readContent?_eq_some_iff.mp read
        obtain ⟨contract, inner, rfl⟩ := Option.map_eq_some_iff.mp taken
        have grown := grown_of_merge SignedContract.encodedLength_absorb inner
        have part := delimitedSize_merged 11 SignedContract.encodedLength none rfl grown
        simp only [Option.map_none, Option.getD_none] at part
        simp only [encodedLength, List.map_append, List.map_cons, List.map_nil, total_concat]
        omega
  · exact grown_of_content taken fun scripts => by simp only [encodedLength]; omega
  · exact grown_of_int64 taken fun timestamp => by simp only [encodedLength]; omega
  · exact grown_of_int64 taken fun feeLimit => by simp only [encodedLength]; omega
  · cases taken
    exact Nat.le_add_right _ _

end SignedData

namespace TransferContract

theorem encodedLength_absorb {message next : TransferContract} {field : Field}
    (taken : absorb message field = some next) :
    next.encodedLength ≤ message.encodedLength + 2 * field.size := by
  obtain ⟨tag, payload⟩ := field
  unfold absorb at taken
  dsimp only at taken
  split at taken
  · exact grown_of_content taken fun owner => by simp only [encodedLength]; omega
  · exact grown_of_content taken fun recipient => by simp only [encodedLength]; omega
  · exact grown_of_int64 taken fun amount => by simp only [encodedLength]; omega
  · cases taken
    exact Nat.le_add_right _ _

end TransferContract

namespace TriggerContract

theorem encodedLength_absorb {message next : TriggerContract} {field : Field}
    (taken : absorb message field = some next) :
    next.encodedLength ≤ message.encodedLength + 2 * field.size := by
  obtain ⟨tag, payload⟩ := field
  unfold absorb at taken
  dsimp only at taken
  split at taken
  · exact grown_of_content taken fun owner => by simp only [encodedLength]; omega
  · exact grown_of_content taken fun contract => by simp only [encodedLength]; omega
  · exact grown_of_int64 taken fun callValue => by simp only [encodedLength]; omega
  · exact grown_of_content taken fun data => by simp only [encodedLength]; omega
  · exact grown_of_int64 taken fun callTokenValue => by simp only [encodedLength]; omega
  · exact grown_of_int64 taken fun tokenId => by simp only [encodedLength]; omega
  · cases taken
    exact Nat.le_add_right _ _

end TriggerContract

/-! ### Codecs -/

/--
Nothing is lost between messages and bytes. A message whose size can be counted in 64 bits is
written with that size and read back. Bytes that a slice can hold, once they are read as a message,
have a canonical form that is read as the same message and written as itself.
-/
structure IsLossless {α : Type} (encode : α → List UInt8) (encodedLength : α → Nat)
    (decode : List UInt8 → Option α) : Prop where
  length_encode : ∀ message, encodedLength message < 2 ^ 64 →
    (encode message).length = encodedLength message
  decode_encode : ∀ message, encodedLength message < 2 ^ 64 →
    decode (encode message) = some message
  canonical : ∀ bytes message, bytes.length < 2 ^ 63 → decode bytes = some message →
    decode (encode message) = some message ∧
      (decode (encode message)).map encode = some (encode message)

/-- A codec is lossless when messages are read back and a message that takes in a field grows by at
most twice its size. -/
theorem isLossless_of_absorb {α : Type} {encode : α → List UInt8} {encodedLength : α → Nat}
    {absorb : α → Field → Option α} {limit : Nat} {start : α} (fresh : encodedLength start = 0)
    (step : ∀ {message next : α} {field : Field}, absorb message field = some next →
      encodedLength next ≤ encodedLength message + 2 * field.size)
    (counted : ∀ {message : α}, encodedLength message < 2 ^ 64 →
      (encode message).length = encodedLength message)
    (readBack : ∀ message, (encode message).length < 2 ^ 64 →
      (parse limit (encode message)).bind (absorbAll absorb start) = some message) :
    IsLossless encode encodedLength
      fun bytes => (parse limit bytes).bind (absorbAll absorb start) := by
  have whole : ∀ message, encodedLength message < 2 ^ 64 →
      (parse limit (encode message)).bind (absorbAll absorb start) = some message := by
    intro message fits
    apply readBack
    rw [counted fits]
    exact fits
  refine ⟨fun _ => counted, whole, fun bytes message short read => ?_⟩
  have grown := grown_of_merge step read
  have same := whole message (by omega)
  refine ⟨same, ?_⟩
  rw [same, Option.map_some]

/-- The bytes of the three messages, in both directions. -/
theorem messages_lossless :
    IsLossless SignedData.encode SignedData.encodedLength SignedData.decode ∧
    IsLossless TransferContract.encode TransferContract.encodedLength TransferContract.decode ∧
    IsLossless TriggerContract.encode TriggerContract.encodedLength TriggerContract.decode :=
  ⟨isLossless_of_absorb rfl SignedData.encodedLength_absorb SignedData.length_encode
      SignedData.decode_encode,
    isLossless_of_absorb rfl TransferContract.encodedLength_absorb TransferContract.length_encode
      TransferContract.decode_encode,
    isLossless_of_absorb rfl TriggerContract.encodedLength_absorb TriggerContract.length_encode
      TriggerContract.decode_encode⟩

def sparseData : SignedData :=
  { SignedData.empty with
    refBlockNum := -1
    auths := [⟨some ⟨[], []⟩, [0x61]⟩, ⟨none, []⟩]
    contracts := [⟨-2147483648, none, [], [], -1⟩, ⟨31, some ⟨"é", []⟩, [], [], 0⟩] }

/-- A transfer with its fields in reverse order, an unknown field between them and a length that is
written with two groups. -/
def overlongTransfer : List UInt8 :=
  [0x18, 0x05, 0x7a, 0x01, 0xff, 0x0a, 0x81, 0x00, 0x41]

theorem messages_lossless_sparse :
    SignedData.decode (SignedData.encode sparseData) = some sparseData ∧
      TransferContract.decode overlongTransfer = some ⟨[0x41], [], 5⟩ ∧
      TransferContract.decode (TransferContract.encode ⟨[0x41], [], 5⟩) = some ⟨[0x41], [], 5⟩ ∧
      TransferContract.encode ⟨[0x41], [], 5⟩ ≠ overlongTransfer := by
  have read : TransferContract.decode overlongTransfer = some ⟨[0x41], [], 5⟩ := by decide +kernel
  refine ⟨messages_lossless.1.decode_encode sparseData (by decide +kernel), read,
    (messages_lossless.2.1.canonical overlongTransfer _ (by decide) read).1, by decide +kernel⟩

end TronGateway.Wire
