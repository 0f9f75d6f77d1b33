import TronGateway.Wire.Field
import TronGateway.Proofs.Number.Bytes
set_option autoImplicit false

/-!
# Reading back written fields

What the writer gives for a sequence of fields is parsed as that sequence. The condition is that the
bytes can be counted: a length is written as a number of 64 bits.
-/

namespace TronGateway.Wire

theorem readGroups_last (fuel n : Nat) (rest : List UInt8) (last : n < 0x80) :
    readGroups (fuel + 1) (varintUpTo (fuel + 1) n ++ rest) = some (n, rest) := by
  have small : n < 256 := by omega
  have below : UInt8.ofNat n < 0x80 := (byte_lt_iff small _).mpr last
  rw [varintUpTo, if_pos last, List.cons_append, List.nil_append, readGroups, if_pos below,
    toNat_byte small]

theorem readGroups_varintUpTo (fuel n : Nat) (rest : List UInt8) (fits : n < 0x80 ^ (fuel + 1)) :
    readGroups (fuel + 1) (varintUpTo (fuel + 1) n ++ rest) = some (n, rest) := by
  induction fuel generalizing n with
  | zero => exact readGroups_last 0 n rest (by omega)
  | succ fuel ih =>
      by_cases last : n < 0x80
      · exact readGroups_last (fuel + 1) n rest last
      · have small : 0x80 + n % 0x80 < 256 := by omega
        have above : ¬ UInt8.ofNat (0x80 + n % 0x80) < 0x80 := by
          rw [byte_lt_iff small]
          exact Nat.not_lt_of_le (Nat.le_add_right _ _)
        have higher : n / 0x80 < 0x80 ^ (fuel + 1) := by
          rw [Nat.pow_succ] at fits
          omega
        have value : (0x80 + n % 0x80) % 0x80 + 0x80 * (n / 0x80) = n := by omega
        rw [varintUpTo, if_neg last, List.cons_append, readGroups, if_neg above, ih _ higher,
          toNat_byte small, Option.map_some, value]

theorem readVarint_varint (n : Nat) (rest : List UInt8) (fits : n < 2 ^ 64) :
    readVarint (varint n ++ rest) = some (n, rest) := by
  have groups : readGroups 10 (varint n ++ rest) = some (n, rest) :=
    readGroups_varintUpTo 9 n rest (by omega)
  unfold readVarint
  rw [groups]
  exact if_pos fits

theorem varint_ne_nil (n : Nat) : varint n ≠ [] := by
  unfold varint varintUpTo
  split <;> exact List.cons_ne_nil _ _

theorem readKey_key (tag kind : Nat) (rest : List UInt8) (positive : 0 < tag)
    (small : tag < 2 ^ 29) (kindSmall : kind < 8) :
    readKey (key tag kind ++ rest) = some ((tag, kind), rest) := by
  unfold readKey key
  rw [readVarint_varint _ _ (by omega)]
  have bounds : tag * 8 + kind < 0x100000000 ∧ 8 ≤ tag * 8 + kind := by omega
  have tagEq : (tag * 8 + kind) / 8 = tag := by omega
  have kindEq : (tag * 8 + kind) % 8 = kind := by omega
  simp only [if_pos bounds, tagEq, kindEq]

theorem readBytes_delimited (content rest : List UInt8) (fits : content.length < 2 ^ 64) :
    readBytes (varint content.length ++ content ++ rest) = some (content, rest) := by
  unfold readBytes
  rw [List.append_assoc, readVarint_varint _ _ fits]
  have within : content.length ≤ (content ++ rest).length := by
    rw [List.length_append]
    omega
  simp only [if_pos within, List.take_left', List.drop_left']

/-- A field as the writer takes it: with a tag that a key can hold, and with a number or bytes. -/
structure Field.IsWritable (field : Field) : Prop where
  tag_pos : 0 < field.tag
  tag_lt : field.tag < 2 ^ 29
  payload_ne : field.payload ≠ .unused

theorem Field.write_ne_nil (field : Field) (writable : field.IsWritable) : field.write ≠ [] := by
  obtain ⟨tag, payload⟩ := field
  have keyed (kind : Nat) (behind : List UInt8) : key tag kind ++ behind ≠ [] := by
    intro empty
    exact varint_ne_nil _ (List.append_eq_nil_iff.mp empty).1
  cases payload with
  | number value => exact keyed 0 _
  | bytes content =>
      change key tag 2 ++ varint content.length ++ content ≠ []
      rw [List.append_assoc]
      exact keyed 2 _
  | unused => exact absurd rfl writable.payload_ne

theorem Field.read_write (field : Field) (limit : Nat) (rest : List UInt8)
    (writable : field.IsWritable) (fits : field.write.length < 2 ^ 64) :
    ∃ kind behind, readKey (field.write ++ rest) = some ((field.tag, kind), behind) ∧
      readPayload limit field.tag kind behind = some (field.payload, rest) := by
  obtain ⟨tag, payload⟩ := field
  have tagPos := writable.tag_pos
  have tagLt := writable.tag_lt
  cases payload with
  | number value =>
      refine ⟨0, varint value.toNat ++ rest, ?_, ?_⟩
      · unfold Field.write
        rw [List.append_assoc]
        exact readKey_key tag 0 _ tagPos tagLt (by decide)
      · unfold readPayload
        rw [if_pos rfl, readVarint_varint _ _ value.toNat_lt, Option.map_some, UInt64.ofNat_toNat]
  | bytes content =>
      refine ⟨2, varint content.length ++ content ++ rest, ?_, ?_⟩
      · unfold Field.write
        rw [List.append_assoc, List.append_assoc, List.append_assoc]
        exact readKey_key tag 2 _ tagPos tagLt (by decide)
      · have short : content.length < 2 ^ 64 := by
          unfold Field.write at fits
          rw [List.length_append] at fits
          omega
        unfold readPayload
        rw [if_neg (by decide), if_neg (by decide), if_pos rfl, readBytes_delimited _ _ short,
          Option.map_some]
  | unused => exact absurd rfl writable.payload_ne

theorem write_cons (field : Field) (fields : List Field) :
    write (field :: fields) = field.write ++ write fields := rfl

theorem readFields_write (limit : Nat) (fields : List Field) (fuel : Nat)
    (writable : ∀ field ∈ fields, field.IsWritable) (enough : (write fields).length ≤ fuel)
    (fits : (write fields).length < 2 ^ 64) :
    readFields limit fuel (write fields) = some fields := by
  induction fields generalizing fuel with
  | nil => cases fuel <;> rfl
  | cons field rest ih =>
      have headWritable := writable field List.mem_cons_self
      rw [write_cons, List.length_append] at enough fits
      obtain ⟨kind, behind, keyRead, payloadRead⟩ :=
        field.read_write limit (write rest) headWritable (by omega)
      have nonempty := field.write_ne_nil headWritable
      have positive := List.length_pos_iff.mpr nonempty
      cases written : field.write with
      | nil => exact absurd written nonempty
      | cons byte bytes =>
          rw [written] at keyRead enough
          rw [List.length_cons] at enough
          cases fuel with
          | zero => omega
          | succ fuel =>
              have tail := ih fuel
                (fun other member => writable other (List.mem_cons_of_mem _ member))
                (by omega) (by omega)
              rw [write_cons, written, List.cons_append, readFields, ← List.cons_append, keyRead]
              simp only [payloadRead, tail, Option.map_some]

theorem parse_write (limit : Nat) (fields : List Field)
    (writable : ∀ field ∈ fields, field.IsWritable) (fits : (write fields).length < 2 ^ 64) :
    parse limit (write fields) = some fields :=
  readFields_write limit fields _ writable (Nat.le_refl _) fits

end TronGateway.Wire
