import TronGateway.Text.Utf8
import TronGateway.Proofs.Number.Bytes
set_option autoImplicit false

/-!
# Reading back what UTF-8 writes

The reader takes the bytes of every character for that character, wherever they stand, so that no
text is changed or refused by a pass through its bytes. It takes no other bytes: those that it reads
are the ones that the text is written with.
-/

namespace TronGateway.Utf8

theorem isContinuation_byte (n : Nat) :
    isContinuation (UInt8.ofNat (0x80 + n % 0x40)) = true := by
  unfold isContinuation
  rw [byte_between_iff (by omega)]
  change 0x80 ≤ 0x80 + n % 0x40 ∧ 0x80 + n % 0x40 ≤ 0xBF
  omega

/-- Overlong forms and surrogates are refused by the second byte, which no character meets. -/
theorem isSecondOfThree_byte (code : Nat) (low : 0x800 ≤ code) (high : code < 0x10000)
    (scalar : code < 0xD800 ∨ 0xDFFF < code) :
    isSecondOfThree (UInt8.ofNat (0xE0 + code / 0x1000))
      (UInt8.ofNat (0x80 + code / 0x40 % 0x40)) = true := by
  unfold isSecondOfThree
  split
  · rename_i atLow
    have lead : 0xE0 + code / 0x1000 = 0xE0 := (byte_eq_iff (by omega) _).mp atLow
    rw [byte_between_iff (by omega)]
    change 0xA0 ≤ 0x80 + code / 0x40 % 0x40 ∧ 0x80 + code / 0x40 % 0x40 ≤ 0xBF
    omega
  · split
    · rename_i atSurrogates
      have lead : 0xE0 + code / 0x1000 = 0xED := (byte_eq_iff (by omega) _).mp atSurrogates
      rw [byte_between_iff (by omega)]
      change 0x80 ≤ 0x80 + code / 0x40 % 0x40 ∧ 0x80 + code / 0x40 % 0x40 ≤ 0x9F
      omega
    · exact isContinuation_byte _

theorem isSecondOfFour_byte (code : Nat) (low : 0x10000 ≤ code) (high : code < 0x110000) :
    isSecondOfFour (UInt8.ofNat (0xF0 + code / 0x40000))
      (UInt8.ofNat (0x80 + code / 0x1000 % 0x40)) = true := by
  unfold isSecondOfFour
  split
  · rename_i atLow
    have lead : 0xF0 + code / 0x40000 = 0xF0 := (byte_eq_iff (by omega) _).mp atLow
    rw [byte_between_iff (by omega)]
    change 0x90 ≤ 0x80 + code / 0x1000 % 0x40 ∧ 0x80 + code / 0x1000 % 0x40 ≤ 0xBF
    omega
  · split
    · rename_i atHigh
      have lead : 0xF0 + code / 0x40000 = 0xF4 := (byte_eq_iff (by omega) _).mp atHigh
      rw [byte_between_iff (by omega)]
      change 0x80 ≤ 0x80 + code / 0x1000 % 0x40 ∧ 0x80 + code / 0x1000 % 0x40 ≤ 0x8F
      omega
    · exact isContinuation_byte _

/-! ### Lead bytes -/

theorem above_ascii {n : Nat} (small : n < 256) (high : 0x80 ≤ n) : ¬ UInt8.ofNat n < 0x80 := by
  intro below
  exact Nat.not_lt_of_le high ((byte_lt_iff small _).mp below)

theorem lead_outside {n : Nat} (small : n < 256) (low high : UInt8)
    (outside : n < low.toNat ∨ high.toNat < n) :
    ¬ (decide (low ≤ UInt8.ofNat n) && decide (UInt8.ofNat n ≤ high)) = true := by
  rw [byte_between_iff small]
  omega

theorem decodeFrom_one (code : Nat) (rest : List UInt8) (index : Nat) (high : code < 0x80) :
    decodeFrom index (UInt8.ofNat code :: rest) = keep code (decodeFrom (index + 1) rest) := by
  have small : code < 256 := by omega
  have lead : UInt8.ofNat code < 0x80 := (byte_lt_iff small _).mpr high
  rw [decodeFrom.eq_def]
  simp only [if_pos lead, toNat_byte small]

theorem decodeFrom_two (code : Nat) (rest : List UInt8) (index : Nat) (low : 0x80 ≤ code)
    (high : code < 0x800) :
    decodeFrom index
        (UInt8.ofNat (0xC0 + code / 0x40) :: UInt8.ofNat (0x80 + code % 0x40) :: rest) =
      keep code (decodeFrom (index + 2) rest) := by
  have small : 0xC0 + code / 0x40 < 256 := by omega
  have lead := above_ascii small (by omega)
  have leadOfTwo := (byte_between_iff small 0xC2 0xDF).mpr
    ⟨by change 0xC2 ≤ _; omega, by change _ ≤ 0xDF; omega⟩
  have value : (UInt8.ofNat (0xC0 + code / 0x40)).toNat % 0x20 * 0x40 +
      (UInt8.ofNat (0x80 + code % 0x40)).toNat % 0x40 = code := by
    rw [toNat_byte small, toNat_byte (by omega)]
    omega
  rw [decodeFrom.eq_def]
  simp only [if_neg lead, if_pos leadOfTwo, isContinuation_byte, if_true, value]

theorem decodeFrom_three (code : Nat) (rest : List UInt8) (index : Nat) (low : 0x800 ≤ code)
    (high : code < 0x10000) (scalar : code < 0xD800 ∨ 0xDFFF < code) :
    decodeFrom index
        (UInt8.ofNat (0xE0 + code / 0x1000) :: UInt8.ofNat (0x80 + code / 0x40 % 0x40) ::
          UInt8.ofNat (0x80 + code % 0x40) :: rest) =
      keep code (decodeFrom (index + 3) rest) := by
  have small : 0xE0 + code / 0x1000 < 256 := by omega
  have lead := above_ascii small (by omega)
  have leadOfTwo := lead_outside small 0xC2 0xDF (Or.inr (by change 0xDF < _; omega))
  have leadOfThree := (byte_between_iff small 0xE0 0xEF).mpr
    ⟨by change 0xE0 ≤ _; omega, by change _ ≤ 0xEF; omega⟩
  have second := isSecondOfThree_byte code low high scalar
  have value : (UInt8.ofNat (0xE0 + code / 0x1000)).toNat % 0x10 * 0x1000 +
      (UInt8.ofNat (0x80 + code / 0x40 % 0x40)).toNat % 0x40 * 0x40 +
      (UInt8.ofNat (0x80 + code % 0x40)).toNat % 0x40 = code := by
    rw [toNat_byte small, toNat_byte (by omega), toNat_byte (by omega)]
    omega
  rw [decodeFrom.eq_def]
  simp only [if_neg lead, if_neg leadOfTwo, if_pos leadOfThree, second, isContinuation_byte,
    if_true, value]

theorem decodeFrom_four (code : Nat) (rest : List UInt8) (index : Nat) (low : 0x10000 ≤ code)
    (high : code < 0x110000) :
    decodeFrom index
        (UInt8.ofNat (0xF0 + code / 0x40000) :: UInt8.ofNat (0x80 + code / 0x1000 % 0x40) ::
          UInt8.ofNat (0x80 + code / 0x40 % 0x40) :: UInt8.ofNat (0x80 + code % 0x40) :: rest) =
      keep code (decodeFrom (index + 4) rest) := by
  have small : 0xF0 + code / 0x40000 < 256 := by omega
  have lead := above_ascii small (by omega)
  have leadOfTwo := lead_outside small 0xC2 0xDF (Or.inr (by change 0xDF < _; omega))
  have leadOfThree := lead_outside small 0xE0 0xEF (Or.inr (by change 0xEF < _; omega))
  have leadOfFour := (byte_between_iff small 0xF0 0xF4).mpr
    ⟨by change 0xF0 ≤ _; omega, by change _ ≤ 0xF4; omega⟩
  have second := isSecondOfFour_byte code low high
  have value : (UInt8.ofNat (0xF0 + code / 0x40000)).toNat % 8 * 0x40000 +
      (UInt8.ofNat (0x80 + code / 0x1000 % 0x40)).toNat % 0x40 * 0x1000 +
      (UInt8.ofNat (0x80 + code / 0x40 % 0x40)).toNat % 0x40 * 0x40 +
      (UInt8.ofNat (0x80 + code % 0x40)).toNat % 0x40 = code := by
    rw [toNat_byte small, toNat_byte (by omega), toNat_byte (by omega), toNat_byte (by omega)]
    omega
  rw [decodeFrom.eq_def]
  simp only [if_neg lead, if_neg leadOfTwo, if_neg leadOfThree, if_pos leadOfFour, second,
    isContinuation_byte, if_true, value]

theorem toNat_scalar (c : Char) : c.toNat < 0xD800 ∨ 0xDFFF < c.toNat ∧ c.toNat < 0x110000 :=
  c.valid

theorem decodeFrom_encodeChar (c : Char) (rest : List UInt8) (index : Nat) :
    decodeFrom index (encodeChar c ++ rest) =
      keep c.toNat (decodeFrom (index + (encodeChar c).length) rest) := by
  have scalar := toNat_scalar c
  unfold encodeChar
  generalize c.toNat = code at scalar
  by_cases one : code < 0x80
  · rw [if_pos one]
    exact decodeFrom_one code rest index one
  · by_cases two : code < 0x800
    · rw [if_neg one, if_pos two]
      exact decodeFrom_two code rest index (by omega) two
    · by_cases three : code < 0x10000
      · rw [if_neg one, if_neg two, if_pos three]
        exact decodeFrom_three code rest index (by omega) three (by omega)
      · rw [if_neg one, if_neg two, if_neg three]
        exact decodeFrom_four code rest index (by omega) (by omega)

theorem decodeFrom_encodeChars (chars : List Char) (index : Nat) :
    decodeFrom index (encodeChars chars) = .ok chars := by
  induction chars generalizing index with
  | nil => rfl
  | cons c rest ih =>
      have same : encodeChars (c :: rest) = encodeChar c ++ encodeChars rest := rfl
      rw [same, decodeFrom_encodeChar, ih]
      change Except.ok (Char.ofNat c.toNat :: rest) = _
      rw [Char.ofNat_toNat]

theorem decode_encode (text : String) : decode (encode text) = .ok text := by
  unfold decode encode
  rw [decodeFrom_encodeChars]
  change Except.ok (String.ofList text.toList) = _
  rw [String.ofList_toList]

theorem encodeChars_cons (c : Char) (rest : List Char) :
    encodeChars (c :: rest) = encodeChar c ++ encodeChars rest := rfl

theorem encodeChar_of_ascii {c : Char} (ascii : c.toNat < 0x80) :
    encodeChar c = [UInt8.ofNat c.toNat] := by
  unfold encodeChar
  rw [if_pos ascii]

/-- A character of more than one byte starts with one that is no ASCII character. -/
theorem encodeChar_of_high {c : Char} (high : 0x80 ≤ c.toNat) :
    ∃ lead second rest, encodeChar c = lead :: second :: rest ∧ 0x80 ≤ lead.toNat := by
  have scalar := toNat_scalar c
  have above {n : Nat} (low : 0x80 ≤ n) (small : n < 256) : 0x80 ≤ (UInt8.ofNat n).toNat := by
    rw [toNat_byte small]
    exact low
  unfold encodeChar
  rw [if_neg (by omega)]
  split
  · exact ⟨_, _, [], rfl, above (by omega) (by omega)⟩
  · split
    · exact ⟨_, _, _, rfl, above (by omega) (by omega)⟩
    · exact ⟨_, _, _, rfl, above (by omega) (by omega)⟩

theorem length_encodeChars_append (first second : List Char) :
    (encodeChars (first ++ second)).length =
      (encodeChars first).length + (encodeChars second).length := by
  unfold encodeChars
  rw [List.flatMap_append, List.length_append]

theorem length_encodeChars_cons (c : Char) (rest : List Char) :
    (encodeChars (c :: rest)).length = (encodeChar c).length + (encodeChars rest).length := by
  rw [encodeChars_cons, List.length_append]

theorem length_encodeChar_pos (c : Char) : 0 < (encodeChar c).length := by
  rcases Nat.lt_or_ge c.toNat 0x80 with ascii | high
  · rw [encodeChar_of_ascii ascii]
    exact Nat.one_pos
  · obtain ⟨lead, second, rest, encoded, -⟩ := encodeChar_of_high high
    rw [encoded]
    exact Nat.succ_pos _

theorem length_encodeChars_eq_zero_iff {chars : List Char} :
    (encodeChars chars).length = 0 ↔ chars = [] := by
  cases chars with
  | nil => exact iff_of_true rfl rfl
  | cons c rest =>
      have positive := length_encodeChar_pos c
      rw [length_encodeChars_cons]
      exact iff_of_false (by omega) (List.cons_ne_nil c rest)

theorem length_encodeChars_of_ascii {chars : List Char} (ascii : ∀ c ∈ chars, c.toNat < 0x80) :
    (encodeChars chars).length = chars.length := by
  induction chars with
  | nil => rfl
  | cons c rest ih =>
      rw [encodeChars_cons, encodeChar_of_ascii (ascii c List.mem_cons_self),
        List.singleton_append, List.length_cons, List.length_cons,
        ih fun other member => ascii other (List.mem_cons_of_mem _ member)]

/-! ### What is read is what is written -/

theorem toNat_ofNat_scalar {code : Nat}
    (scalar : code < 0xD800 ∨ 0xDFFF < code ∧ code < 0x110000) :
    (Char.ofNat code).toNat = code := by
  rw [Char.ofNat, dif_pos scalar]
  rfl

theorem byte_range_iff {low high byte : UInt8} :
    (decide (low ≤ byte) && decide (byte ≤ high)) = true ↔
      low.toNat ≤ byte.toNat ∧ byte.toNat ≤ high.toNat := by
  rw [Bool.and_eq_true, decide_eq_true_eq, decide_eq_true_eq, UInt8.le_iff_toNat_le,
    UInt8.le_iff_toNat_le]

theorem isContinuation_iff {byte : UInt8} :
    isContinuation byte = true ↔ 0x80 ≤ byte.toNat ∧ byte.toNat ≤ 0xBF :=
  byte_range_iff

theorem isSecondOfThree_iff {lead second : UInt8} :
    isSecondOfThree lead second = true ↔
      0x80 ≤ second.toNat ∧ second.toNat ≤ 0xBF ∧ (lead.toNat = 0xE0 → 0xA0 ≤ second.toNat) ∧
        (lead.toNat = 0xED → second.toNat ≤ 0x9F) := by
  have atLow : lead = 0xE0 ↔ lead.toNat = 0xE0 := UInt8.toNat_inj.symm
  have atSurrogates : lead = 0xED ↔ lead.toNat = 0xED := UInt8.toNat_inj.symm
  unfold isSecondOfThree
  simp only [atLow, atSurrogates]
  split
  · rw [byte_range_iff]
    change 0xA0 ≤ second.toNat ∧ second.toNat ≤ 0xBF ↔ _
    omega
  · split
    · rw [byte_range_iff]
      change 0x80 ≤ second.toNat ∧ second.toNat ≤ 0x9F ↔ _
      omega
    · rw [isContinuation_iff]
      omega

theorem isSecondOfFour_iff {lead second : UInt8} :
    isSecondOfFour lead second = true ↔
      0x80 ≤ second.toNat ∧ second.toNat ≤ 0xBF ∧ (lead.toNat = 0xF0 → 0x90 ≤ second.toNat) ∧
        (lead.toNat = 0xF4 → second.toNat ≤ 0x8F) := by
  have atLow : lead = 0xF0 ↔ lead.toNat = 0xF0 := UInt8.toNat_inj.symm
  have atHigh : lead = 0xF4 ↔ lead.toNat = 0xF4 := UInt8.toNat_inj.symm
  unfold isSecondOfFour
  simp only [atLow, atHigh]
  split
  · rw [byte_range_iff]
    change 0x90 ≤ second.toNat ∧ second.toNat ≤ 0xBF ↔ _
    omega
  · split
    · rw [byte_range_iff]
      change 0x80 ≤ second.toNat ∧ second.toNat ≤ 0x8F ↔ _
      omega
    · rw [isContinuation_iff]
      omega

theorem byte_of_toNat {n : Nat} (byte : UInt8) (same : n = byte.toNat) :
    UInt8.ofNat n = byte := by
  rw [same, UInt8.ofNat_toNat]

theorem encodeChar_one {lead : UInt8} (ascii : lead < 0x80) :
    encodeChar (Char.ofNat lead.toNat) = [lead] := by
  have high : lead.toNat < 0x80 := UInt8.lt_iff_toNat_lt.mp ascii
  unfold encodeChar
  rw [toNat_ofNat_scalar (by omega), if_pos high, byte_of_toNat lead rfl]

theorem encodeChar_two {lead second : UInt8}
    (leadOfTwo : (decide (0xC2 ≤ lead) && decide (lead ≤ 0xDF)) = true)
    (continues : isContinuation second = true) :
    encodeChar (Char.ofNat (lead.toNat % 0x20 * 0x40 + second.toNat % 0x40)) = [lead, second] := by
  obtain ⟨low, high⟩ : 0xC2 ≤ lead.toNat ∧ lead.toNat ≤ 0xDF := byte_range_iff.mp leadOfTwo
  obtain ⟨from80, toBF⟩ := isContinuation_iff.mp continues
  unfold encodeChar
  rw [toNat_ofNat_scalar (by omega), if_neg (by omega), if_pos (by omega),
    byte_of_toNat lead (by omega), byte_of_toNat second (by omega)]

theorem encodeChar_three {lead second third : UInt8}
    (leadOfThree : (decide (0xE0 ≤ lead) && decide (lead ≤ 0xEF)) = true)
    (allowed : isSecondOfThree lead second = true) (continues : isContinuation third = true) :
    encodeChar (Char.ofNat (lead.toNat % 0x10 * 0x1000 + second.toNat % 0x40 * 0x40 +
      third.toNat % 0x40)) = [lead, second, third] := by
  obtain ⟨low, high⟩ : 0xE0 ≤ lead.toNat ∧ lead.toNat ≤ 0xEF := byte_range_iff.mp leadOfThree
  obtain ⟨secondLow, secondHigh, atLow, atSurrogates⟩ := isSecondOfThree_iff.mp allowed
  obtain ⟨thirdLow, thirdHigh⟩ := isContinuation_iff.mp continues
  unfold encodeChar
  rw [toNat_ofNat_scalar (by omega), if_neg (by omega), if_neg (by omega), if_pos (by omega),
    byte_of_toNat lead (by omega), byte_of_toNat second (by omega),
    byte_of_toNat third (by omega)]

theorem encodeChar_four {lead second third fourth : UInt8}
    (leadOfFour : (decide (0xF0 ≤ lead) && decide (lead ≤ 0xF4)) = true)
    (allowed : isSecondOfFour lead second = true) (continues : isContinuation third = true)
    (ends : isContinuation fourth = true) :
    encodeChar (Char.ofNat (lead.toNat % 8 * 0x40000 + second.toNat % 0x40 * 0x1000 +
      third.toNat % 0x40 * 0x40 + fourth.toNat % 0x40)) = [lead, second, third, fourth] := by
  obtain ⟨low, high⟩ : 0xF0 ≤ lead.toNat ∧ lead.toNat ≤ 0xF4 := byte_range_iff.mp leadOfFour
  obtain ⟨secondLow, secondHigh, atLow, atHigh⟩ := isSecondOfFour_iff.mp allowed
  obtain ⟨thirdLow, thirdHigh⟩ := isContinuation_iff.mp continues
  obtain ⟨fourthLow, fourthHigh⟩ := isContinuation_iff.mp ends
  unfold encodeChar
  rw [toNat_ofNat_scalar (by omega), if_neg (by omega), if_neg (by omega), if_neg (by omega),
    byte_of_toNat lead (by omega), byte_of_toNat second (by omega),
    byte_of_toNat third (by omega), byte_of_toNat fourth (by omega)]

theorem of_keep {code : Nat} {rest : Except Fault (List Char)} {chars : List Char}
    (kept : keep code rest = .ok chars) :
    ∃ others, rest = .ok others ∧ chars = Char.ofNat code :: others := by
  cases rest with
  | error fault => cases kept
  | ok others =>
      cases kept
      exact ⟨others, rfl, rfl⟩

theorem eq_encodeChars_of_decodeFrom {index : Nat} {bytes : List UInt8} {chars : List Char}
    (read : decodeFrom index bytes = .ok chars) : bytes = encodeChars chars := by
  fun_induction decodeFrom index bytes generalizing chars with
  | case1 =>
      cases read
      rfl
  | case2 index lead tail ascii ih =>
      obtain ⟨others, readOthers, rfl⟩ := of_keep read
      rw [encodeChars_cons, encodeChar_one ascii, ← ih readOthers]
      rfl
  | case4 index lead _ leadOfTwo second tail continues ih =>
      obtain ⟨others, readOthers, rfl⟩ := of_keep read
      rw [encodeChars_cons, encodeChar_two leadOfTwo continues, ← ih readOthers]
      rfl
  | case8 index lead _ _ leadOfThree second allowed third tail continues ih =>
      obtain ⟨others, readOthers, rfl⟩ := of_keep read
      rw [encodeChars_cons, encodeChar_three leadOfThree allowed continues, ← ih readOthers]
      rfl
  | case14 index lead _ _ _ leadOfFour second allowed third continues fourth tail ends ih =>
      obtain ⟨others, readOthers, rfl⟩ := of_keep read
      rw [encodeChars_cons, encodeChar_four leadOfFour allowed continues ends, ← ih readOthers]
      rfl
  | _ => cases read

theorem decode_eq_ok_iff {bytes : List UInt8} {text : String} :
    decode bytes = .ok text ↔ bytes = encode text := by
  constructor
  · intro read
    unfold decode at read
    cases chars : decodeFrom 0 bytes with
    | error fault =>
        rw [chars] at read
        cases read
    | ok found =>
        rw [chars] at read
        cases read
        unfold encode
        rw [String.toList_ofList]
        exact eq_encodeChars_of_decodeFrom chars
  · rintro rfl
    exact decode_encode text

end TronGateway.Utf8
