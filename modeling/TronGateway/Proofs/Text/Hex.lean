import TronGateway.Error
import TronGateway.Proofs.Text.Utf8
set_option autoImplicit false

/-!
# Reading back hexadecimal text

The text of bytes is read as those bytes, and has two lower-case digits for each of them. A text is
read as bytes exactly when it spells them, in digits of either case and, where marks are allowed,
behind any number of `0x`.
-/

namespace TronGateway.Hex

theorem encodeChar_digitChar {value : Nat} (digit : value < 16) :
    Utf8.encodeChar (digitChar value) = [UInt8.ofNat (digitChar value).toNat] := by
  revert value
  decide

theorem value?_digitChar {value : Nat} (digit : value < 16) :
    value? (UInt8.ofNat (digitChar value).toNat) = some value := by
  revert value
  decide

theorem encodeChars_encodeByte (byte : UInt8) :
    Utf8.encodeChars (encodeByte byte) =
      [UInt8.ofNat (digitChar (byte.toNat / 16)).toNat,
        UInt8.ofNat (digitChar (byte.toNat % 16)).toNat] := by
  have small := byte.toNat_lt
  change Utf8.encodeChar _ ++ (Utf8.encodeChar _ ++ []) = _
  rw [encodeChar_digitChar (by omega), encodeChar_digitChar (by omega)]
  rfl

theorem utf8_encode (bytes : List UInt8) :
    Utf8.encode (encode bytes) =
      bytes.flatMap fun byte =>
        [UInt8.ofNat (digitChar (byte.toNat / 16)).toNat,
          UInt8.ofNat (digitChar (byte.toNat % 16)).toNat] := by
  unfold Utf8.encode encode encodeChars
  rw [String.toList_ofList, Utf8.encodeChars, List.flatMap_assoc]
  congr 1
  funext byte
  exact encodeChars_encodeByte byte

theorem encode_append (front behind : List UInt8) :
    encode (front ++ behind) = encode front ++ encode behind := by
  unfold encode encodeChars
  rw [List.flatMap_append, String.ofList_append]

theorem byteLength_encode (bytes : List UInt8) :
    Utf8.byteLength (encode bytes) = 2 * bytes.length := by
  unfold Utf8.byteLength
  rw [utf8_encode]
  induction bytes with
  | nil => rfl
  | cons byte rest ih =>
      rw [List.flatMap_cons, List.length_append, ih]
      simp only [List.length_cons, List.length_nil]
      omega

theorem decodePairs_digits (bytes : List UInt8) (index : Nat) :
    decodePairs index (bytes.flatMap fun byte =>
      [UInt8.ofNat (digitChar (byte.toNat / 16)).toNat,
        UInt8.ofNat (digitChar (byte.toNat % 16)).toNat]) = .ok bytes := by
  induction bytes generalizing index with
  | nil => rfl
  | cons byte rest ih =>
      have small := byte.toNat_lt
      have value : UInt8.ofNat (byte.toNat / 16 * 16 + byte.toNat % 16) = byte := by
        rw [Nat.div_add_mod', UInt8.ofNat_toNat]
      rw [List.flatMap_cons, List.cons_append, List.cons_append, List.nil_append, decodePairs,
        value?_digitChar (by omega), value?_digitChar (by omega), ih]
      change Except.ok (_ :: rest) = _
      rw [value]

@[simp] theorem decode_encode (bytes : List UInt8) : decode (encode bytes) = .ok bytes := by
  have even : (Utf8.encode (encode bytes)).length % 2 ≠ 1 := by
    have length := byteLength_encode bytes
    unfold Utf8.byteLength at length
    omega
  unfold decode
  rw [if_neg even, utf8_encode, decodePairs_digits]

theorem encode_inj {first second : List UInt8} :
    encode first = encode second ↔ first = second := by
  constructor
  · intro same
    have decoded := congrArg decode same
    rw [decode_encode, decode_encode] at decoded
    exact Except.ok.inj decoded
  · intro same
    rw [same]

theorem read_eq_ok_iff {text : String} {bytes : List UInt8} :
    read text = .ok bytes ↔ decode text = .ok bytes := by
  unfold read
  cases decode text with
  | error fault =>
      constructor
      · intro same
        cases same
      · intro same
        cases same
  | ok found =>
      constructor
      · intro same
        cases same
        rfl
      · intro same
        cases same
        rfl

@[simp] theorem read_encode (bytes : List UInt8) : read (encode bytes) = .ok bytes :=
  read_eq_ok_iff.mpr (decode_encode bytes)

/-! ### What is read is spelled -/

/-- The characters spell the bytes, with digits of either case. -/
def Spells (chars : List Char) (bytes : List UInt8) : Prop :=
  chars.map Char.toLower = encodeChars bytes

theorem lt_of_value? {byte : UInt8} {value : Nat} (digit : value? byte = some value) :
    value < 16 := by
  unfold value? at digit
  grind

theorem value?_ascii : ∀ code < 0x80, ∀ value < 16,
    value? (UInt8.ofNat code) = some value ↔ (Char.ofNat code).toLower = digitChar value := by
  decide +kernel

theorem toNat_digitChar : ∀ value < 16, (digitChar value).toNat < 0x80 := by
  decide

theorem toLower_of_high {c : Char} (high : 0x80 ≤ c.toNat) : c.toLower = c := by
  unfold Char.toLower
  rw [dif_neg]
  rintro ⟨-, low⟩
  have small : c.toNat ≤ 90 := UInt32.le_iff_toNat_le.mp low
  omega

theorem value?_of_high {byte : UInt8} (high : 0x80 ≤ byte.toNat) : value? byte = none := by
  unfold value?
  rw [if_neg (by omega), if_neg (by omega), if_neg (by omega)]

theorem toLower_ne_digitChar {c : Char} (high : 0x80 ≤ c.toNat) {value : Nat}
    (digit : value < 16) : c.toLower ≠ digitChar value := by
  intro same
  have small := toNat_digitChar value digit
  rw [← same, toLower_of_high high] at small
  omega

theorem value?_iff_toLower {c : Char} (ascii : c.toNat < 0x80) {value : Nat} :
    value? (UInt8.ofNat c.toNat) = some value ↔ value < 16 ∧ c.toLower = digitChar value := by
  constructor
  · intro read
    have digit := lt_of_value? read
    refine ⟨digit, ?_⟩
    rw [← Char.ofNat_toNat c]
    exact (value?_ascii _ ascii value digit).mp read
  · rintro ⟨digit, same⟩
    rw [← Char.ofNat_toNat c] at same
    exact (value?_ascii _ ascii value digit).mpr same

theorem decodePairs_cons_cons_eq_ok_iff {index : Nat} {high low : UInt8} {rest bytes : List UInt8} :
    decodePairs index (high :: low :: rest) = .ok bytes ↔
      ∃ highValue lowValue others, value? high = some highValue ∧ value? low = some lowValue ∧
        decodePairs (index + 2) rest = .ok others ∧
        bytes = UInt8.ofNat (highValue * 16 + lowValue) :: others := by
  rw [decodePairs]
  cases value? high with
  | none => simp
  | some highValue =>
      cases value? low with
      | none => simp
      | some lowValue =>
          cases decodePairs (index + 2) rest with
          | error fault => simp [Except.map]
          | ok others => simp [Except.map, eq_comm]

theorem spells_cons_cons_iff {high low : Char} {rest : List Char} {bytes : List UInt8} :
    Spells (high :: low :: rest) bytes ↔
      ∃ highValue lowValue others, (highValue < 16 ∧ high.toLower = digitChar highValue) ∧
        (lowValue < 16 ∧ low.toLower = digitChar lowValue) ∧ Spells rest others ∧
        bytes = UInt8.ofNat (highValue * 16 + lowValue) :: others := by
  unfold Spells
  constructor
  · intro same
    cases bytes with
    | nil => cases same
    | cons byte others =>
        have small := byte.toNat_lt
        have apart : encodeChars (byte :: others) = digitChar (byte.toNat / 16) ::
            digitChar (byte.toNat % 16) :: encodeChars others := rfl
        rw [apart, List.map_cons, List.map_cons, List.cons.injEq, List.cons.injEq] at same
        obtain ⟨sameHigh, sameLow, sameRest⟩ := same
        refine ⟨byte.toNat / 16, byte.toNat % 16, others, ⟨by omega, sameHigh⟩,
          ⟨by omega, sameLow⟩, sameRest, ?_⟩
        rw [Nat.div_add_mod', UInt8.ofNat_toNat]
  · rintro ⟨highValue, lowValue, others, ⟨highDigit, sameHigh⟩, ⟨lowDigit, sameLow⟩, same, rfl⟩
    have joined : (UInt8.ofNat (highValue * 16 + lowValue)).toNat = highValue * 16 + lowValue :=
      toNat_byte (by omega)
    have apart (byte : UInt8) : encodeChars (byte :: others) = digitChar (byte.toNat / 16) ::
        digitChar (byte.toNat % 16) :: encodeChars others := rfl
    rw [List.map_cons, List.map_cons, sameHigh, sameLow, same, apart, joined,
      show (highValue * 16 + lowValue) / 16 = highValue by omega,
      show (highValue * 16 + lowValue) % 16 = lowValue by omega]

theorem digit_of_mem_encodeChars {c : Char} {bytes : List UInt8} (member : c ∈ encodeChars bytes) :
    ∃ value < 16, c = digitChar value := by
  unfold encodeChars at member
  obtain ⟨byte, -, inside⟩ := List.mem_flatMap.mp member
  have small := byte.toNat_lt
  simp only [encodeByte, List.mem_cons, List.not_mem_nil, or_false] at inside
  rcases inside with rfl | rfl
  · exact ⟨byte.toNat / 16, by omega, rfl⟩
  · exact ⟨byte.toNat % 16, by omega, rfl⟩

theorem allDigits_encode (bytes : List UInt8) : allDigits (encode bytes) = true := by
  have plain : ∀ value < 16, (('0' ≤ digitChar value && digitChar value ≤ '9') ||
      ('a' ≤ digitChar value && digitChar value ≤ 'f') ||
      ('A' ≤ digitChar value && digitChar value ≤ 'F')) = true := by
    decide
  unfold allDigits encode
  rw [String.toList_ofList, List.all_eq_true]
  intro c member
  obtain ⟨value, digit, rfl⟩ := digit_of_mem_encodeChars member
  exact plain value digit

theorem allDigits_ascii : ∀ code < 0x80,
    allDigits (String.singleton (Char.ofNat code).toLower) =
      allDigits (String.singleton (Char.ofNat code)) := by
  decide

theorem allDigits_toLower (text : String) :
    allDigits (String.ofList (text.toList.map Char.toLower)) = allDigits text := by
  unfold allDigits
  rw [String.toList_ofList, List.all_map]
  refine List.all_congr rfl fun c => ?_
  by_cases ascii : c.toNat < 0x80
  · have same := allDigits_ascii c.toNat ascii
    simpa [allDigits, Char.ofNat_toNat] using same
  · rw [Function.comp_apply, toLower_of_high (Nat.le_of_not_lt ascii)]

theorem Spells.ascii {chars : List Char} {bytes : List UInt8} (spells : Spells chars bytes) :
    ∀ c ∈ chars, c.toNat < 0x80 := by
  intro c member
  have lowered : c.toLower ∈ encodeChars bytes := by
    rw [← spells]
    exact List.mem_map_of_mem member
  obtain ⟨value, digit, same⟩ := digit_of_mem_encodeChars lowered
  refine Nat.lt_of_not_le fun high => ?_
  exact toLower_ne_digitChar high digit same

theorem length_encodeChars (bytes : List UInt8) :
    (encodeChars bytes).length = 2 * bytes.length := by
  induction bytes with
  | nil => rfl
  | cons byte rest ih =>
      change (encodeByte byte ++ encodeChars rest).length = _
      rw [List.length_append, ih, List.length_cons]
      simp only [encodeByte, List.length_cons, List.length_nil]
      omega

theorem Spells.length {chars : List Char} {bytes : List UInt8} (spells : Spells chars bytes) :
    (Utf8.encodeChars chars).length = 2 * bytes.length := by
  rw [Utf8.length_encodeChars_of_ascii spells.ascii, ← length_encodeChars, ← spells,
    List.length_map]

theorem decodePairs_ne_ok_of_high {c : Char} (high : 0x80 ≤ c.toNat) (index : Nat)
    (rest bytes : List UInt8) : decodePairs index (Utf8.encodeChar c ++ rest) ≠ .ok bytes := by
  intro read
  obtain ⟨lead, second, others, encoded, above⟩ := Utf8.encodeChar_of_high high
  rw [encoded, List.cons_append, List.cons_append, decodePairs_cons_cons_eq_ok_iff] at read
  obtain ⟨value, -, -, digit, -⟩ := read
  rw [value?_of_high above] at digit
  cases digit

theorem decodePairs_encodeChars_iff (index : Nat) :
    (chars : List Char) → (bytes : List UInt8) → (Utf8.encodeChars chars).length % 2 = 0 →
      (decodePairs index (Utf8.encodeChars chars) = .ok bytes ↔ Spells chars bytes)
  | [], bytes, _ => by
      change Except.ok [] = Except.ok bytes ↔ [] = encodeChars bytes
      cases bytes with
      | nil => exact ⟨fun _ => rfl, fun _ => rfl⟩
      | cons byte others =>
          constructor
          · intro same
            cases same
          · intro same
            cases same
  | [c], bytes, even => by
      by_cases ascii : c.toNat < 0x80
      · rw [Utf8.encodeChars_cons, Utf8.encodeChar_of_ascii ascii] at even
        cases even
      · refine ⟨fun read => ?_, fun spells => absurd (spells.ascii c List.mem_cons_self) ascii⟩
        rw [Utf8.encodeChars_cons] at read
        exact absurd read (decodePairs_ne_ok_of_high (Nat.le_of_not_lt ascii) _ _ _)
  | high :: low :: rest, bytes, even => by
      rw [Utf8.encodeChars_cons]
      -- Two bytes are read at a time. They are two characters only when both are ASCII, and a
      -- wider character holds no digit.
      by_cases highAscii : high.toNat < 0x80
      · rw [Utf8.encodeChars_cons, Utf8.encodeChar_of_ascii highAscii]
        by_cases lowAscii : low.toNat < 0x80
        · rw [Utf8.encodeChars_cons, Utf8.encodeChars_cons, Utf8.encodeChar_of_ascii highAscii,
            Utf8.encodeChar_of_ascii lowAscii] at even
          have evenRest : (Utf8.encodeChars rest).length % 2 = 0 := by
            simp only [List.length_append, List.length_cons, List.length_nil] at even
            omega
          rw [Utf8.encodeChar_of_ascii lowAscii, List.singleton_append, List.singleton_append,
            decodePairs_cons_cons_eq_ok_iff, spells_cons_cons_iff]
          simp only [value?_iff_toLower highAscii, value?_iff_toLower lowAscii,
            decodePairs_encodeChars_iff (index + 2) rest _ evenRest]
        · obtain ⟨lead, second, others, encoded, above⟩ :=
            Utf8.encodeChar_of_high (Nat.le_of_not_lt lowAscii)
          rw [encoded, List.singleton_append, List.cons_append, decodePairs_cons_cons_eq_ok_iff,
            spells_cons_cons_iff]
          constructor
          · rintro ⟨-, value, -, -, digit, -⟩
            rw [value?_of_high above] at digit
            cases digit
          · rintro ⟨-, value, -, -, ⟨digit, same⟩, -⟩
            exact absurd same (toLower_ne_digitChar (Nat.le_of_not_lt lowAscii) digit)
      · have highByte := Nat.le_of_not_lt highAscii
        exact ⟨fun read => absurd read (decodePairs_ne_ok_of_high highByte _ _ _),
          fun spells => absurd (spells.ascii high List.mem_cons_self) highAscii⟩

theorem decode_eq_ok_iff {text : String} {bytes : List UInt8} :
    decode text = .ok bytes ↔ Spells text.toList bytes := by
  unfold decode Utf8.encode
  dsimp only
  split
  · next odd =>
      constructor
      · intro read
        cases read
      · intro spells
        have even := spells.length
        omega
  · next even => exact decodePairs_encodeChars_iff 0 _ _ (by omega)

/-! ### Marks -/

theorem withoutMarks_split (chars : List Char) :
    ∃ marks, chars = (List.replicate marks ['0', 'x']).flatten ++ withoutMarks chars := by
  fun_induction withoutMarks chars with
  | case1 rest ih =>
      obtain ⟨marks, split⟩ := ih
      refine ⟨marks + 1, ?_⟩
      rw [List.replicate_succ, List.flatten_cons, List.append_assoc, ← split]
      rfl
  | case2 chars _ => exact ⟨0, rfl⟩

theorem withoutMarks_marked (marks : Nat) (chars : List Char) :
    withoutMarks ((List.replicate marks ['0', 'x']).flatten ++ chars) = withoutMarks chars := by
  induction marks with
  | zero => rfl
  | succ marks ih =>
      rw [List.replicate_succ, List.flatten_cons, List.append_assoc, ← ih]
      rfl

theorem mark_ne_digitChar : ∀ value < 16, 'x'.toLower ≠ digitChar value := by
  decide

/-- What spells bytes has no mark in front, since the letter of the mark is no digit. -/
theorem Spells.withoutMarks_eq {chars : List Char} {bytes : List UInt8}
    (spells : Spells chars bytes) : withoutMarks chars = chars := by
  fun_cases withoutMarks chars with
  | case1 rest =>
      obtain ⟨_, value, _, _, ⟨digit, same⟩, _⟩ := spells_cons_cons_iff.mp spells
      exact absurd same (mark_ne_digitChar value digit)
  | case2 chars _ => rfl

/-- The characters spell the bytes, behind any number of marks. -/
def SpellsMarked (chars : List Char) (bytes : List UInt8) : Prop :=
  ∃ marks digits, chars = (List.replicate marks ['0', 'x']).flatten ++ digits ∧
    Spells digits bytes

theorem decodeMarked_eq_ok_iff {text : String} {bytes : List UInt8} :
    decodeMarked text = .ok bytes ↔ SpellsMarked text.toList bytes := by
  unfold decodeMarked
  rw [decode_eq_ok_iff, String.toList_ofList]
  constructor
  · intro spells
    obtain ⟨marks, split⟩ := withoutMarks_split text.toList
    exact ⟨marks, _, split, spells⟩
  · rintro ⟨marks, digits, split, spells⟩
    rw [split, withoutMarks_marked, spells.withoutMarks_eq]
    exact spells

theorem readMarked_eq_ok_iff {text : String} {bytes : List UInt8} :
    readMarked text = .ok bytes ↔ SpellsMarked text.toList bytes := by
  rw [← decodeMarked_eq_ok_iff]
  unfold readMarked
  cases decodeMarked text with
  | error fault => simp [Except.mapError]
  | ok found => simp [Except.mapError]

end TronGateway.Hex
