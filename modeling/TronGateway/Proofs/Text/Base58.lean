import TronGateway.Text.Base58
import TronGateway.Proofs.Number.Radix
import TronGateway.Proofs.Text.Utf8
set_option autoImplicit false

/-!
# Reading back base58 text

A text is read as bytes exactly when it is the text of those bytes: both are digits of one number,
behind as many zeros. The bytes of an address have 34 characters.
-/

namespace TronGateway.Base58

variable {bytes : List UInt8}

theorem toNat_digitChar : ∀ value < 58, (digitChar value).toNat < 0x80 := by
  decide

theorem value?_digitChar : ∀ value < 58,
    value? (UInt8.ofNat (digitChar value).toNat) = some value := by
  decide +kernel

theorem lt_of_value? {byte : UInt8} {value : Nat} (digit : value? byte = some value) :
    value < 58 :=
  (List.findIdx?_eq_some_iff_getElem.mp digit).1

theorem toNat_of_value? {byte : UInt8} {value : Nat} (digit : value? byte = some value) :
    (digitChar value).toNat = byte.toNat := by
  obtain ⟨inside, found, -⟩ := List.findIdx?_eq_some_iff_getElem.mp digit
  unfold digitChar
  rw [List.getD_eq_getElem?_getD, List.getElem?_eq_getElem inside, Option.getD_some]
  exact of_decide_eq_true found

theorem value?_iff {c : Char} (ascii : c.toNat < 0x80) {value : Nat} :
    value? (UInt8.ofNat c.toNat) = some value ↔ value < 58 ∧ c = digitChar value := by
  constructor
  · intro read
    have same := toNat_of_value? read
    rw [toNat_byte (by omega)] at same
    exact ⟨lt_of_value? read, (Char.toNat_inj.mp same).symm⟩
  · intro digit
    obtain ⟨small, rfl⟩ := digit
    exact value?_digitChar value small

def AreDigits (chars : List Char) (values : List Nat) : Prop :=
  (∀ value ∈ values, value < 58) ∧ chars = values.map digitChar

theorem areDigits_nil_iff {values : List Nat} : AreDigits [] values ↔ values = [] := by
  constructor
  · rintro ⟨-, same⟩
    exact List.map_eq_nil_iff.mp same.symm
  · rintro rfl
    exact ⟨List.forall_mem_nil _, rfl⟩

theorem areDigits_cons_iff {c : Char} {rest : List Char} {values : List Nat} :
    AreDigits (c :: rest) values ↔
      ∃ value others, values = value :: others ∧ (value < 58 ∧ c = digitChar value) ∧
        AreDigits rest others := by
  constructor
  · rintro ⟨small, same⟩
    cases values with
    | nil => cases same
    | cons value others =>
        obtain ⟨digit, smaller⟩ := List.forall_mem_cons.mp small
        obtain ⟨first, behind⟩ := List.cons.inj same
        exact ⟨value, others, rfl, ⟨digit, first⟩, smaller, behind⟩
  · rintro ⟨value, others, rfl, ⟨digit, first⟩, smaller, behind⟩
    refine ⟨List.forall_mem_cons.mpr ⟨digit, smaller⟩, ?_⟩
    rw [first, behind, List.map_cons]

theorem AreDigits.ascii {chars : List Char} {values : List Nat} (digits : AreDigits chars values) :
    ∀ c ∈ chars, c.toNat < 0x80 := by
  obtain ⟨small, rfl⟩ := digits
  intro c member
  obtain ⟨value, inside, rfl⟩ := List.mem_map.mp member
  exact toNat_digitChar value (small value inside)

theorem digitValues_cons_eq_ok_iff {index : Nat} {byte : UInt8} {rest : List UInt8}
    {values : List Nat} :
    digitValues index (byte :: rest) = .ok values ↔
      byte < 0x80 ∧ ∃ value others, values = value :: others ∧ value? byte = some value ∧
        digitValues (index + 1) rest = .ok others := by
  rw [digitValues]
  by_cases high : 0x80 ≤ byte
  · rw [if_pos high]
    constructor
    · intro failed
      cases failed
    · rintro ⟨low, -⟩
      exact absurd low (UInt8.not_lt.mpr high)
  · rw [if_neg high, and_iff_right (UInt8.not_le.mp high)]
    cases value? byte with
    | none => simp
    | some value =>
        cases digitValues (index + 1) rest with
        | error fault => simp [Except.map]
        | ok others => simp [Except.map, eq_comm]

theorem digitValues_encodeChars_iff {chars : List Char} {index : Nat} {values : List Nat} :
    digitValues index (Utf8.encodeChars chars) = .ok values ↔ AreDigits chars values := by
  induction chars generalizing index values with
  | nil =>
      change Except.ok [] = Except.ok values ↔ _
      rw [areDigits_nil_iff, Except.ok.injEq, eq_comm]
  | cons c rest ih =>
      rw [Utf8.encodeChars_cons]
      by_cases ascii : c.toNat < 0x80
      · have low : UInt8.ofNat c.toNat < 0x80 := (byte_lt_iff (by omega) _).mpr ascii
        rw [Utf8.encodeChar_of_ascii ascii, List.singleton_append, digitValues_cons_eq_ok_iff,
          areDigits_cons_iff, and_iff_right low]
        simp only [value?_iff ascii, ih]
      · obtain ⟨lead, second, others, encoded, above⟩ :=
          Utf8.encodeChar_of_high (Nat.le_of_not_lt ascii)
        have high : (0x80 : UInt8) ≤ lead := UInt8.le_iff_toNat_le.mpr above
        rw [encoded, List.cons_append, digitValues_cons_eq_ok_iff]
        constructor
        · rintro ⟨low, -⟩
          exact absurd low (UInt8.not_lt.mpr high)
        · intro digits
          exact absurd (digits.ascii c List.mem_cons_self) ascii

def digitsOf (bytes : List UInt8) : List Nat :=
  Radix.rebase 256 58 (bytes.map UInt8.toNat)

theorem byteValues_lt (bytes : List UInt8) : ∀ d ∈ bytes.map UInt8.toNat, d < 256 := by
  intro d member
  obtain ⟨byte, -, rfl⟩ := List.mem_map.mp member
  exact byte.toNat_lt

theorem zeros_byteValues (bytes : List UInt8) :
    Radix.zeros (bytes.map UInt8.toNat) = (bytes.takeWhile (· == 0)).length := by
  have same : ((fun value : Nat => value == 0) ∘ UInt8.toNat) = (· == 0) := by
    funext byte
    rw [Function.comp_apply, Bool.eq_iff_iff, beq_iff_eq, beq_iff_eq, ← UInt8.toNat_inj]
    rfl
  unfold Radix.zeros
  rw [List.takeWhile_map, List.length_map, same]

theorem encodeChars_eq (bytes : List UInt8) :
    encodeChars bytes = (digitsOf bytes).map digitChar := by
  unfold digitsOf Radix.rebase encodeChars
  rw [zeros_byteValues, List.map_append, List.map_replicate]
  rfl

theorem areDigits_encodeChars (bytes : List UInt8) :
    AreDigits (encodeChars bytes) (digitsOf bytes) :=
  ⟨fun _ member => Radix.rebase_lt (by decide) member, encodeChars_eq bytes⟩

theorem bytesOfDigits_eq (values : List Nat) :
    bytesOfDigits values = (Radix.rebase 58 256 values).map UInt8.ofNat := by
  unfold Radix.rebase bytesOfDigits
  rw [List.map_append, List.map_replicate]
  rfl

theorem bytesOfDigits_digitsOf (bytes : List UInt8) : bytesOfDigits (digitsOf bytes) = bytes := by
  have same : UInt8.ofNat ∘ UInt8.toNat = id := by
    funext byte
    exact UInt8.ofNat_toNat
  unfold digitsOf
  rw [bytesOfDigits_eq, Radix.rebase_rebase (by decide) (by decide) (byteValues_lt bytes),
    List.map_map, same, List.map_id]

theorem digitsOf_bytesOfDigits {values : List Nat} (small : ∀ value ∈ values, value < 58) :
    digitsOf (bytesOfDigits values) = values := by
  have same : (bytesOfDigits values).map UInt8.toNat = Radix.rebase 58 256 values := by
    have each : ∀ value ∈ Radix.rebase 58 256 values,
        (UInt8.toNat ∘ UInt8.ofNat) value = id value := by
      intro value member
      exact toNat_byte (Radix.rebase_lt (by decide) member)
    rw [bytesOfDigits_eq, List.map_map, List.map_congr_left each, List.map_id]
  unfold digitsOf
  rw [same, Radix.rebase_rebase (by decide) (by decide) small]

theorem decode_eq_ok_iff {text : String} : decode text = .ok bytes ↔ text = encode bytes := by
  unfold decode Utf8.encode
  constructor
  · intro read
    cases values : digitValues 0 (Utf8.encodeChars text.toList) with
    | error fault =>
        rw [values] at read
        cases read
    | ok found =>
        rw [values] at read
        cases read
        obtain ⟨small, same⟩ := digitValues_encodeChars_iff.mp values
        unfold encode
        rw [encodeChars_eq, digitsOf_bytesOfDigits small, ← same, String.ofList_toList]
  · rintro rfl
    unfold encode
    rw [String.toList_ofList, digitValues_encodeChars_iff.mpr (areDigits_encodeChars bytes)]
    change Except.ok (bytesOfDigits (digitsOf bytes)) = _
    rw [bytesOfDigits_digitsOf]

/-! ### Lengths -/

theorem byteLength_encode (bytes : List UInt8) :
    Utf8.byteLength (encode bytes) = (digitsOf bytes).length := by
  unfold Utf8.byteLength Utf8.encode encode
  rw [String.toList_ofList, Utf8.length_encodeChars_of_ascii (areDigits_encodeChars bytes).ascii,
    encodeChars_eq, List.length_map]

theorem length_digitsOf (bytes : List UInt8) :
    (digitsOf bytes).length = Radix.zeros (bytes.map UInt8.toNat) +
      (Radix.digits 58 (Radix.value 256 (bytes.map UInt8.toNat))).length :=
  Radix.length_rebase _ _ _

/-- A zero in front costs one character. The bytes behind cost as many more than they are as their
number does. -/
theorem byteLength_encode_le {bytes : List UInt8} {extra : Nat}
    (wide : ∀ count ≤ bytes.length, 256 ^ count ≤ 58 ^ (count + extra)) :
    Utf8.byteLength (encode bytes) ≤ bytes.length + extra := by
  obtain ⟨enough, small⟩ := Radix.value_lt_of_zeros (by decide) (byteValues_lt bytes)
  rw [List.length_map] at enough small
  have bounded := Nat.lt_of_lt_of_le small (wide _ (Nat.sub_le bytes.length _))
  have digits := (Radix.length_digits_le_iff (by decide) _ _).mpr bounded
  rw [byteLength_encode, length_digitsOf]
  omega

theorem length_le_byteLength_encode (bytes : List UInt8) :
    bytes.length ≤ Utf8.byteLength (encode bytes) := by
  rw [byteLength_encode, length_digitsOf]
  generalize front : Radix.zeros (bytes.map UInt8.toNat) = zeros
  rcases Nat.lt_or_ge zeros bytes.length with more | fewer
  · obtain ⟨count, behind⟩ := Nat.exists_eq_add_of_lt more
    have least : 256 ^ count ≤ Radix.value 256 (bytes.map UInt8.toNat) := by
      apply Radix.le_value_of_zeros (by decide) (byteValues_lt bytes)
      rw [List.length_map, front, behind, Nat.add_assoc]
    have narrow : 58 ^ count ≤ 256 ^ count := Nat.pow_le_pow_left (by decide) count
    have digits : (Radix.digits 58 (Radix.value 256 (bytes.map UInt8.toNat))).length ≤ count ↔
        Radix.value 256 (bytes.map UInt8.toNat) < 58 ^ count :=
      Radix.length_digits_le_iff (by decide) _ count
    omega
  · exact Nat.le_trans fewer (Nat.le_add_right _ _)

theorem byteLength_encode_cons_iff {version : UInt8} {rest : List UInt8} (nonzero : version ≠ 0) :
    Utf8.byteLength (encode (version :: rest)) = 34 ↔
      58 ^ 33 ≤ version.toNat * 256 ^ rest.length + Radix.value 256 (rest.map UInt8.toNat) ∧
      version.toNat * 256 ^ rest.length + Radix.value 256 (rest.map UInt8.toNat) < 58 ^ 34 := by
  have number : Radix.value 256 ((version :: rest).map UInt8.toNat) =
      version.toNat * 256 ^ rest.length + Radix.value 256 (rest.map UInt8.toNat) := by
    rw [List.map_cons, Radix.value_cons, List.length_map]
  have head : ((version :: rest).map UInt8.toNat).head? ≠ some 0 := by
    intro same
    exact nonzero (UInt8.toNat_inj.mp (Option.some.inj same))
  rw [byteLength_encode, length_digitsOf, Radix.zeros_of_head head, Nat.zero_add,
    Radix.length_digits_eq_iff (by decide), number]

/-- Bytes that have 34 characters and no zero in front are 25, with the first of them in a range. -/
theorem of_byteLength_encode {version : UInt8} {rest : List UInt8} (nonzero : version ≠ 0)
    (length : Utf8.byteLength (encode (version :: rest)) = 34) :
    rest.length = 24 ∧ 2 ≤ version.toNat ∧ version.toNat ≤ 144 := by
  have positive : 0 < version.toNat := by
    apply Nat.pos_of_ne_zero
    intro zero
    exact nonzero (UInt8.toNat_inj.mp zero)
  have small := Radix.value_lt (by decide) (byteValues_lt rest)
  have below := version.toNat_lt
  rw [List.length_map] at small
  obtain ⟨least, most⟩ := (byteLength_encode_cons_iff nonzero).mp length
  have same : rest.length = 24 := by
    rcases Nat.lt_trichotomy rest.length 24 with fewer | same | more
    · have bound : 256 ^ (rest.length + 1) ≤ 256 ^ 24 := Nat.pow_le_pow_right (by decide) fewer
      have filled : version.toNat * 256 ^ rest.length ≤ 255 * 256 ^ rest.length :=
        Nat.mul_le_mul_right _ (by omega)
      rw [Nat.pow_succ] at bound
      omega
    · exact same
    · have bound : 256 ^ 25 ≤ 256 ^ rest.length := Nat.pow_le_pow_right (by decide) more
      have filled : 1 * 256 ^ rest.length ≤ version.toNat * 256 ^ rest.length :=
        Nat.mul_le_mul_right _ positive
      omega
  rw [same] at least most small
  exact ⟨same, by omega, by omega⟩

/-- What begins with the version byte of the main network has 34 characters exactly when it is 25
bytes. -/
theorem byteLength_encode_eq_iff {rest : List UInt8} :
    Utf8.byteLength (encode (0x41 :: rest)) = 34 ↔ rest.length = 24 := by
  have nonzero : (0x41 : UInt8) ≠ 0 := by decide
  constructor
  · intro length
    exact (of_byteLength_encode nonzero length).1
  · intro length
    have small := Radix.value_lt (by decide) (byteValues_lt rest)
    rw [List.length_map, length] at small
    rw [byteLength_encode_cons_iff nonzero, length]
    change 58 ^ 33 ≤ 65 * 256 ^ 24 + _ ∧ 65 * 256 ^ 24 + _ < 58 ^ 34
    omega

theorem length_of_byteLength_encode {bytes : List UInt8}
    (length : Utf8.byteLength (encode bytes) = 34) :
    25 ≤ bytes.length ∧ bytes.length ≤ 34 ∧ (bytes.head? ≠ some 0 → bytes.length = 25) := by
  have wide : ∀ count ≤ 24, 256 ^ count ≤ 58 ^ (count + 9) := by decide
  refine ⟨?_, ?_, ?_⟩
  · apply Nat.lt_of_not_le
    intro few
    have most : Utf8.byteLength (encode bytes) ≤ bytes.length + 9 :=
      byteLength_encode_le fun count inside => wide count (Nat.le_trans inside few)
    omega
  · rw [← length]
    exact length_le_byteLength_encode bytes
  · intro head
    cases bytes with
    | nil => cases length
    | cons version rest =>
        have nonzero : version ≠ 0 := fun zero => head (congrArg some zero)
        rw [List.length_cons, (of_byteLength_encode nonzero length).1]

end TronGateway.Base58
