import TronGateway.Json.Printer
import TronGateway.Json.Reader
import Mathlib.Data.List.Basic
set_option autoImplicit false

/-!
# Reading back the text inside quotation marks

Escaped characters are read as the characters that were escaped, and the codes of characters join to
those characters.
-/

namespace TronGateway.Json.Reader

open TronGateway.Json (escapeChar renderText)

theorem hexValue?_digitChar {value : Nat} (digit : value < 16) :
    hexValue? (Hex.digitChar value) = some value := by
  revert value
  decide

theorem codes_closing (rest : List Char) : codes ('"' :: rest) = some ([], rest) := by
  rw [codes.eq_def]
  exact if_pos rfl

theorem codes_letter {mark : Char} {code : Nat} (known : escaped? mark = some code)
    (rest : List Char) : codes ('\\' :: mark :: rest) = prepend code (codes rest) := by
  have letter : mark ≠ 'u' := by
    intro same
    have unknown : escaped? 'u' = none := rfl
    rw [same, unknown] at known
    cases known
  rw [codes.eq_def]
  simp only [if_neg (show '\\' ≠ '"' by decide), if_true, if_neg letter, known]

theorem codes_plain {c : Char} (mark : c ≠ '"') (slash : c ≠ '\\') (printed : ¬ c.toNat < 0x20)
    (rest : List Char) : codes (c :: rest) = prepend c.toNat (codes rest) := by
  rw [codes.eq_def]
  simp only [if_neg mark, if_neg slash, if_neg printed]

theorem codes_control {c : Char} (control : c.toNat < 0x20) (rest : List Char) :
    codes ('\\' :: 'u' :: '0' :: '0' :: Hex.digitChar (c.toNat / 16) ::
      Hex.digitChar (c.toNat % 16) :: rest) = prepend c.toNat (codes rest) := by
  have high : hexValue? (Hex.digitChar (c.toNat / 16)) = some (c.toNat / 16) :=
    hexValue?_digitChar (by omega)
  have low : hexValue? (Hex.digitChar (c.toNat % 16)) = some (c.toNat % 16) :=
    hexValue?_digitChar (by omega)
  have zero : hexValue? '0' = some 0 := rfl
  have value : 0 * 0x1000 + 0 * 0x100 + c.toNat / 16 * 0x10 + c.toNat % 16 = c.toNat := by omega
  rw [codes.eq_def]
  simp only [if_neg (show '\\' ≠ '"' by decide), if_true, codeUnit?, high, low, zero, value]

theorem codes_escapeChar (c : Char) (rest : List Char) :
    codes (escapeChar c ++ rest) = prepend c.toNat (codes rest) := by
  unfold escapeChar
  by_cases mark : c = '"'
  · rw [if_pos mark, mark]
    exact codes_letter rfl rest
  rw [if_neg mark]
  by_cases slash : c = '\\'
  · rw [if_pos slash, slash]
    exact codes_letter rfl rest
  rw [if_neg slash]
  by_cases back : c = '\x08'
  · rw [if_pos back, back]
    exact codes_letter rfl rest
  rw [if_neg back]
  by_cases tab : c = '\t'
  · rw [if_pos tab, tab]
    exact codes_letter rfl rest
  rw [if_neg tab]
  by_cases line : c = '\n'
  · rw [if_pos line, line]
    exact codes_letter rfl rest
  rw [if_neg line]
  by_cases page : c = '\x0c'
  · rw [if_pos page, page]
    exact codes_letter rfl rest
  rw [if_neg page]
  by_cases carriage : c = '\r'
  · rw [if_pos carriage, carriage]
    exact codes_letter rfl rest
  rw [if_neg carriage]
  by_cases control : c.toNat < 0x20
  · rw [if_pos control]
    exact codes_control control rest
  · rw [if_neg control]
    exact codes_plain mark slash control rest

theorem codes_escaped (chars rest : List Char) :
    codes (chars.flatMap escapeChar ++ '"' :: rest) = some (chars.map Char.toNat, rest) := by
  induction chars with
  | nil => exact codes_closing rest
  | cons c chars ih =>
      rw [List.flatMap_cons, List.append_assoc, codes_escapeChar, ih]
      rfl

theorem toNat_not_surrogate (c : Char) : ¬ (0xD800 ≤ c.toNat ∧ c.toNat ≤ 0xDFFF) := by
  have valid := c.valid
  unfold UInt32.isValidChar Nat.isValidChar at valid
  change ¬ (0xD800 ≤ c.val.toNat ∧ c.val.toNat ≤ 0xDFFF)
  omega

theorem assemble_toNat (chars : List Char) : assemble (chars.map Char.toNat) = some chars := by
  induction chars with
  | nil => rfl
  | cons c rest ih =>
      have proper := toNat_not_surrogate c
      rw [List.map_cons, assemble.eq_def]
      simp only [if_neg (show ¬ (0xD800 ≤ c.toNat ∧ c.toNat ≤ 0xDBFF) by omega),
        if_neg (show ¬ (0xDC00 ≤ c.toNat ∧ c.toNat ≤ 0xDFFF) by omega), ih, Option.map_some,
        Char.ofNat_toNat]

/-- A text is read from what is written behind its opening mark. -/
theorem textBody_rendered (text : String) (rest : List Char) :
    textBody (text.toList.flatMap escapeChar ++ '"' :: rest) = some (some text, rest) := by
  unfold textBody
  rw [codes_escaped, Option.map_some, assemble_toNat, Option.map_some, String.ofList_toList]

end TronGateway.Json.Reader
