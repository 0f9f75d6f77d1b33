import Mathlib
import TronGateway.Text.Bech32
import TronGateway.Proofs.Text.Utf8
set_option autoImplicit false

/-!
# Reading back bech32 text

A text is read as a readable part and values exactly when it is the readable part, the separator and
the digits of the values and of their checksum, written in letters of one case. So a text and the
same text in the other case are read alike.
-/

namespace TronGateway.Bech32

/-- The characters can follow letters of the case. -/
def LetterCase.Admits : LetterCase → List Char → Prop
  | .unknown, chars => (∀ c ∈ chars, ¬ c.isUpper) ∨ ∀ c ∈ chars, ¬ c.isLower
  | .lower, chars => ∀ c ∈ chars, ¬ c.isUpper
  | .upper, chars => ∀ c ∈ chars, ¬ c.isLower

theorem LetterCase.admits_nil (case : LetterCase) : case.Admits [] := by
  cases case with
  | unknown => exact .inl nofun
  | lower => exact nofun
  | upper => exact nofun

theorem LetterCase.admits_cons_iff {case : LetterCase} {c : Char} {rest : List Char} :
    case.Admits (c :: rest) ↔ ∃ next, case.extend? c = some next ∧ next.Admits rest := by
  by_cases lower : c.isLower
  · have notUpper := Char.not_isUpper_of_isLower lower
    cases case <;> simp [Admits, extend?, lower, notUpper]
  · by_cases upper : c.isUpper
    · cases case <;> simp [Admits, extend?, lower, upper]
    · cases case <;> simp [Admits, extend?, lower, upper]

theorem toNat_of_isUpper {c : Char} (upper : c.isUpper) : 65 ≤ c.toNat ∧ c.toNat ≤ 90 := by
  simpa [Char.isUpper, UInt32.le_iff_toNat_le, ← Char.toNat_val] using upper

def digit (value : Nat) : Char := alphabet.getD value '1'

/-- The characters are the digits of the values, in either case. -/
def Spells (chars : List Char) (values : List Nat) : Prop :=
  chars.map Char.toLower = values.map digit ∧ ∀ value ∈ values, value < 32

theorem value?_eq_some_iff {c : Char} {value : Nat} :
    value? c = some value ↔ c.toLower = digit value ∧ value < 32 := by
  have found : ∀ value < 32, alphabet.findIdx? (· == digit value) = some value := by decide
  unfold value?
  constructor
  · intro known
    obtain ⟨inside, same, -⟩ := List.findIdx?_eq_some_iff_getElem.mp known
    refine ⟨?_, inside⟩
    rw [← eq_of_beq same, digit, List.getD_eq_getElem _ _ inside]
  · rintro ⟨same, small⟩
    rw [same]
    exact found value small

theorem digit_ascii : ∀ value < 32, (digit value).toNat < 0x80 ∧ digit value ≠ '1' := by
  decide

theorem ascii_of_value? {c : Char} {value : Nat} (known : value? c = some value) :
    c.toNat < 0x80 := by
  obtain ⟨same, small⟩ := value?_eq_some_iff.mp known
  by_cases upper : c.isUpper
  · have range := toNat_of_isUpper upper
    omega
  · rw [Char.toLower_eq_of_not_isUpper upper] at same
    rw [same]
    exact (digit_ascii value small).1

theorem spells_cons_iff {c : Char} {rest : List Char} {values : List Nat} :
    Spells (c :: rest) values ↔
      ∃ value others, values = value :: others ∧ value? c = some value ∧ Spells rest others := by
  unfold Spells
  cases values with
  | nil => simp
  | cons value others =>
      simp only [List.map_cons, List.cons.injEq, List.forall_mem_cons, value?_eq_some_iff]
      constructor
      · rintro ⟨⟨same, sameRest⟩, small, smallRest⟩
        exact ⟨value, others, ⟨rfl, rfl⟩, ⟨same, small⟩, sameRest, smallRest⟩
      · rintro ⟨_, _, ⟨rfl, rfl⟩, ⟨same, small⟩, sameRest, smallRest⟩
        exact ⟨⟨same, sameRest⟩, small, smallRest⟩

theorem dataValues_eq_ok_iff {case : LetterCase} {chars : List Char} {values : List Nat} :
    dataValues case chars = .ok values ↔ case.Admits chars ∧ Spells chars values := by
  induction chars generalizing case values with
  | nil =>
      rw [dataValues]
      cases values with
      | nil => simp [Spells, LetterCase.admits_nil]
      | cons value others => simp [Spells]
  | cons c rest ih =>
      rw [dataValues, LetterCase.admits_cons_iff, spells_cons_iff]
      cases known : value? c with
      | none =>
          constructor
          · intro read
            split at read
            · cases read
            · cases extended : case.extend? c with
              | none => rw [extended] at read; cases read
              | some next => rw [extended] at read; cases read
          · rintro ⟨-, _, _, -, impossible, -⟩
            cases impossible
      | some value =>
          rw [if_neg (Nat.not_le_of_lt (ascii_of_value? known))]
          cases extended : case.extend? c with
          | none => simp
          | some next =>
              constructor
              · intro read
                dsimp only at read
                cases inner : dataValues next rest with
                | error fault =>
                    rw [inner] at read
                    cases read
                | ok others =>
                    rw [inner] at read
                    cases read
                    obtain ⟨admits, spells⟩ := ih.mp inner
                    exact ⟨⟨next, rfl, admits⟩, value, others, rfl, rfl, spells⟩
              · rintro ⟨⟨_, ⟨⟩, admits⟩, _, others, rfl, ⟨⟩, spells⟩
                dsimp only
                rw [ih.mpr ⟨admits, spells⟩]
                rfl

/-! ### The readable part -/

/-- The characters that may stand in a readable part. -/
def IsPrintable (c : Char) : Prop := 33 ≤ c.toNat ∧ c.toNat ≤ 126

theorem isPrintable_toLower_iff {c : Char} : IsPrintable c.toLower ↔ IsPrintable c := by
  unfold IsPrintable
  by_cases upper : c.isUpper
  · have range := toNat_of_isUpper upper
    have valid : (c.toNat + 32).isValidChar := by
      unfold Nat.isValidChar
      omega
    rw [Char.toLower_eq_of_isUpper upper, Char.toNat_ofNat, if_pos valid]
    omega
  · rw [Char.toLower_eq_of_not_isUpper upper]

theorem checkReadable_of_printable {c : Char} (printable : IsPrintable c) (case : LetterCase)
    (rest : List Char) :
    checkReadable case (Utf8.encodeChars (c :: rest)) = match case.extend? c with
      | none => .error .mixedCase
      | some next => checkReadable next (Utf8.encodeChars rest) := by
  obtain ⟨low, high⟩ := printable
  have small : c.toNat < 256 := by omega
  have inside : ¬ (UInt8.ofNat c.toNat < 33 ∨ 126 < UInt8.ofNat c.toNat) := by
    rw [UInt8.lt_iff_toNat_lt, UInt8.lt_iff_toNat_lt, toNat_byte small]
    change ¬ (c.toNat < 33 ∨ 126 < c.toNat)
    omega
  have same : Char.ofNat (UInt8.ofNat c.toNat).toNat = c := by
    rw [toNat_byte small, Char.ofNat_toNat]
  rw [Utf8.encodeChars_cons, Utf8.encodeChar_of_ascii (by omega), List.singleton_append,
    checkReadable, if_neg inside]
  exact congrArg (fun letter => match case.extend? letter with
    | none => Except.error Fault.mixedCase
    | some next => checkReadable next (Utf8.encodeChars rest)) same

theorem checkReadable_of_unprintable {c : Char} (unprintable : ¬ IsPrintable c)
    (case next : LetterCase) (rest : List Char) :
    checkReadable case (Utf8.encodeChars (c :: rest)) ≠ .ok next := by
  unfold IsPrintable at unprintable
  rw [Utf8.encodeChars_cons]
  by_cases ascii : c.toNat < 0x80
  · have outside : UInt8.ofNat c.toNat < 33 ∨ 126 < UInt8.ofNat c.toNat := by
      rw [UInt8.lt_iff_toNat_lt, UInt8.lt_iff_toNat_lt, toNat_byte (by omega)]
      change c.toNat < 33 ∨ 126 < c.toNat
      omega
    rw [Utf8.encodeChar_of_ascii ascii, List.singleton_append, checkReadable, if_pos outside]
    exact nofun
  · obtain ⟨lead, second, others, encoded, above⟩ :=
      Utf8.encodeChar_of_high (Nat.le_of_not_lt ascii)
    have outside : lead < 33 ∨ 126 < lead :=
      .inr (UInt8.lt_iff_toNat_lt.mpr (Nat.lt_of_lt_of_le (by decide) above))
    rw [encoded, List.cons_append, checkReadable, if_pos outside]
    exact nofun

/-- A readable part is taken where its characters are printable and all letters, those behind it
included, are of one case. -/
theorem checkReadable_admits_iff {case : LetterCase} {head tail : List Char} :
    (∃ next, checkReadable case (Utf8.encodeChars head) = .ok next ∧ next.Admits tail) ↔
      (∀ c ∈ head, IsPrintable c) ∧ case.Admits (head ++ tail) := by
  induction head generalizing case with
  | nil =>
      constructor
      · rintro ⟨next, read, admits⟩
        cases read
        exact ⟨nofun, admits⟩
      · rintro ⟨-, admits⟩
        exact ⟨case, rfl, admits⟩
  | cons c rest ih =>
      rw [List.forall_mem_cons, List.cons_append, LetterCase.admits_cons_iff]
      by_cases printable : IsPrintable c
      · rw [checkReadable_of_printable printable]
        cases case.extend? c with
        | none => simp
        | some next => simp [ih, printable]
      · constructor
        · rintro ⟨next, read, -⟩
          exact absurd read (checkReadable_of_unprintable printable case next rest)
        · rintro ⟨⟨here, -⟩, -⟩
          exact absurd here printable

theorem splitLast_eq (chars : List Char) :
    splitLast chars = match chars.reverse.dropWhile (· != '1') with
      | [] => none
      | _ :: head => some (head.reverse, (chars.reverse.takeWhile (· != '1')).reverse) := by
  have behind : (chars.reverse.takeWhile (· != '1') ++ chars.reverse.dropWhile (· != '1')).drop
      (chars.reverse.takeWhile (· != '1')).length = chars.reverse.dropWhile (· != '1') :=
    List.drop_left
  rw [List.takeWhile_append_dropWhile] at behind
  exact congrArg (fun found => match found with
    | [] => none
    | _ :: head => some (head.reverse, (chars.reverse.takeWhile (· != '1')).reverse)) behind

theorem splitLast_eq_some_iff {chars head tail : List Char} :
    splitLast chars = some (head, tail) ↔ chars = head ++ '1' :: tail ∧ '1' ∉ tail := by
  rw [splitLast_eq]
  constructor
  · intro found
    have whole : chars.reverse.takeWhile (· != '1') ++ chars.reverse.dropWhile (· != '1') =
        chars.reverse := List.takeWhile_append_dropWhile
    have stops := List.head?_dropWhile_not (· != '1') chars.reverse
    split at found
    · cases found
    · next first rest shape =>
        cases found
        rw [shape] at whole stops
        have separator : first = '1' := by simpa using stops
        refine ⟨?_, ?_⟩
        · have turned := congrArg List.reverse whole
          rw [separator, List.reverse_reverse] at turned
          simpa using turned.symm
        · intro member
          have other := List.mem_takeWhile_imp (List.mem_reverse.mp member)
          simp at other
  · rintro ⟨rfl, absent⟩
    have passes : ∀ c ∈ tail.reverse, (c != '1') = true := by
      intro c member
      rw [bne_iff_ne]
      rintro rfl
      exact absent (List.mem_reverse.mp member)
    have backwards : (head ++ '1' :: tail).reverse = tail.reverse ++ '1' :: head.reverse := by simp
    rw [backwards, List.dropWhile_append_of_pos passes, List.takeWhile_append_of_pos passes]
    simp

/-! ### Texts -/

/-- The characters are the readable part, the separator and the digits of the values and of the six
values of their checksum, in letters of one case. The readable part is given in lower case. -/
structure IsWritten (chars readable : List Char) (values checksum : List Nat) : Prop where
  oneCase : LetterCase.unknown.Admits chars
  letters : chars.map Char.toLower = readable ++ '1' :: (values ++ checksum).map digit
  small : ∀ value ∈ values ++ checksum, value < 32
  printable : ∀ c ∈ readable, IsPrintable c
  nonempty : readable ≠ []
  short : readable.length ≤ 83
  six : checksum.length = 6
  checked : checksumHolds (Utf8.encodeChars readable) (values ++ checksum) = true

theorem decode_eq_ok_iff_stages {text : String} {readable : String} {values : List Nat} :
    decode text = .ok (readable, values) ↔
      ∃ head tail case found, splitLast text.toList = some (head, tail) ∧
        ¬ ((Utf8.encodeChars head).isEmpty ∨ 83 < (Utf8.encodeChars head).length) ∧
        checkReadable .unknown (Utf8.encodeChars head) = .ok case ∧
        dataValues case tail = .ok found ∧ 6 ≤ found.length ∧
        checksumHolds (Utf8.encodeChars (head.map Char.toLower)) found = true ∧
        readable = String.ofList (head.map Char.toLower) ∧
        values = found.take (found.length - 6) := by
  unfold decode
  constructor
  · intro read
    split at read
    · cases read
    · next head tail split =>
        dsimp only at read
        split at read
        · cases read
        · next fits =>
            split at read
            · cases read
            · next case readableCase =>
                split at read
                · cases read
                · next found data =>
                    split at read
                    · cases read
                    · next enough =>
                        split at read
                        · next holds =>
                            cases read
                            exact ⟨head, tail, case, found, split, fits, readableCase, data,
                              Nat.le_of_not_lt enough, holds, rfl, rfl⟩
                        · cases read
  · rintro ⟨head, tail, case, found, split, fits, readableCase, data, enough, holds, rfl, rfl⟩
    rw [split]
    dsimp only
    rw [if_neg fits, readableCase]
    dsimp only
    rw [data]
    dsimp only
    rw [if_neg (Nat.not_lt_of_le enough), if_pos holds]

theorem toLower_eq_separator_iff {c : Char} : c.toLower = '1' ↔ c = '1' := by
  by_cases upper : c.isUpper
  · have notLower : c.toLower ≠ '1' := by
      intro lowered
      have letter := Char.isAlpha_toLower_eq_isAlpha c
      rw [lowered, Char.isAlpha, Char.isAlpha, upper, Bool.true_or] at letter
      revert letter
      decide
    have other : c ≠ '1' := by
      rintro rfl
      revert upper
      decide
    exact ⟨fun same => absurd same notLower, fun same => absurd same other⟩
  · rw [Char.toLower_eq_of_not_isUpper upper]

theorem LetterCase.admits_separator_iff {case : LetterCase} {front behind : List Char} :
    case.Admits (front ++ '1' :: behind) ↔ case.Admits (front ++ behind) := by
  have plain : ¬ '1'.isUpper ∧ ¬ '1'.isLower := by decide
  cases case <;>
    simp only [Admits, List.forall_mem_append, List.forall_mem_cons, plain, Bool.false_eq_true,
      not_false_eq_true, true_and]

theorem isPrintable_map_toLower_iff {chars : List Char} :
    (∀ c ∈ chars.map Char.toLower, IsPrintable c) ↔ ∀ c ∈ chars, IsPrintable c := by
  rw [List.forall_mem_map]
  simp only [isPrintable_toLower_iff]

theorem length_encodeChars_of_printable {chars : List Char}
    (printable : ∀ c ∈ chars, IsPrintable c) : (Utf8.encodeChars chars).length = chars.length := by
  refine Utf8.length_encodeChars_of_ascii fun c member => ?_
  have high := (printable c member).2
  omega

theorem length_encodeChars_le_iff {chars : List Char} (printable : ∀ c ∈ chars, IsPrintable c) :
    (¬ ((Utf8.encodeChars chars).isEmpty ∨ 83 < (Utf8.encodeChars chars).length)) ↔
      chars ≠ [] ∧ chars.length ≤ 83 := by
  rw [List.isEmpty_iff, ← List.length_eq_zero_iff, length_encodeChars_of_printable printable,
    not_or, Nat.not_lt, List.length_eq_zero_iff]

theorem decode_eq_ok_iff {text readable : String} {values : List Nat} :
    decode text = .ok (readable, values) ↔
      ∃ checksum, IsWritten text.toList readable.toList values checksum := by
  rw [decode_eq_ok_iff_stages]
  constructor
  · rintro ⟨head, tail, case, found, split, fits, taken, data, enough, holds, rfl, rfl⟩
    obtain ⟨parts, -⟩ := splitLast_eq_some_iff.mp split
    obtain ⟨admits, letters, small⟩ := dataValues_eq_ok_iff.mp data
    obtain ⟨printable, oneCase⟩ := checkReadable_admits_iff.mp ⟨case, taken, admits⟩
    obtain ⟨nonempty, short⟩ := (length_encodeChars_le_iff printable).mp fits
    have whole := List.take_append_drop (found.length - 6) found
    refine ⟨found.drop (found.length - 6), ?_⟩
    rw [String.toList_ofList]
    exact {
      oneCase := by
        rw [parts, LetterCase.admits_separator_iff]
        exact oneCase
      letters := by
        rw [whole, parts, List.map_append, List.map_cons, letters]
        rfl
      small := by
        rw [whole]
        exact small
      printable := isPrintable_map_toLower_iff.mpr printable
      nonempty := List.map_eq_nil_iff.not.mpr nonempty
      short := by
        rw [List.length_map]
        exact short
      six := by
        rw [List.length_drop]
        omega
      checked := by
        rw [whole]
        exact holds }
  · rintro ⟨checksum, written⟩
    obtain ⟨head, behind, parts, lowered, letters⟩ := List.map_eq_append_iff.mp written.letters
    obtain ⟨separator, tail, rfl, one, spelled⟩ := List.map_eq_cons_iff.mp letters
    rw [toLower_eq_separator_iff.mp one] at parts
    have printable : ∀ c ∈ head, IsPrintable c := by
      rw [← isPrintable_map_toLower_iff, lowered]
      exact written.printable
    have absent : '1' ∉ tail := by
      intro member
      have digits : '1' ∈ (values ++ checksum).map digit := by
        rw [← spelled]
        exact List.mem_map.mpr ⟨'1', member, rfl⟩
      obtain ⟨value, inside, same⟩ := List.mem_map.mp digits
      exact (digit_ascii value (written.small value inside)).2 same
    have oneCase : LetterCase.unknown.Admits (head ++ tail) := by
      rw [← LetterCase.admits_separator_iff, ← parts]
      exact written.oneCase
    obtain ⟨case, taken, admits⟩ := checkReadable_admits_iff.mpr ⟨printable, oneCase⟩
    have fits : head ≠ [] ∧ head.length ≤ 83 := by
      have length : (head.map Char.toLower).length = head.length := List.length_map _
      rw [lowered] at length
      refine ⟨?_, length ▸ written.short⟩
      rintro rfl
      exact written.nonempty (List.length_eq_zero_iff.mp length)
    have length : (values ++ checksum).length = values.length + 6 := by
      rw [List.length_append, written.six]
    refine ⟨head, tail, case, values ++ checksum, splitLast_eq_some_iff.mpr ⟨parts, absent⟩,
      (length_encodeChars_le_iff printable).mpr fits, taken,
      dataValues_eq_ok_iff.mpr ⟨admits, spelled, written.small⟩, ?_, ?_, ?_, ?_⟩
    · omega
    · rw [lowered]
      exact written.checked
    · rw [lowered, String.ofList_toList]
    · rw [length, Nat.add_sub_cancel, List.take_left]

/-- What is written in letters of one case is written in those of the other. -/
theorem IsWritten.recase {chars others readable : List Char} {values checksum : List Nat}
    (written : IsWritten chars readable values checksum)
    (same : chars.map Char.toLower = others.map Char.toLower)
    (oneCase : LetterCase.unknown.Admits others) : IsWritten others readable values checksum :=
  { written with oneCase, letters := same.symm.trans written.letters }

end TronGateway.Bech32
