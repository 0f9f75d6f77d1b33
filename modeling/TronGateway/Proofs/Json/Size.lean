import TronGateway.Json.Printer
import TronGateway.Proofs.Text.Utf8
set_option autoImplicit false

/-!
# The size of a written tree

A text inside an object takes no more bytes than the whole object does when it is written.
-/

namespace TronGateway.Json

theorem escapeChar_of_high {c : Char} (high : 0x80 ≤ c.toNat) : escapeChar c = [c] := by
  have other {mark : Char} (low : mark.toNat < 0x80) : c ≠ mark := by
    intro same
    rw [same] at high
    omega
  unfold escapeChar
  rw [if_neg (other (by decide)), if_neg (other (by decide)), if_neg (other (by decide)),
    if_neg (other (by decide)), if_neg (other (by decide)), if_neg (other (by decide)),
    if_neg (other (by decide)), if_neg (by omega)]

theorem escapeChar_eq_cons (c : Char) : ∃ first rest, escapeChar c = first :: rest := by
  unfold escapeChar
  repeat' split
  all_goals exact ⟨_, _, rfl⟩

theorem length_encodeChar_le (c : Char) :
    (Utf8.encodeChar c).length ≤ (Utf8.encodeChars (escapeChar c)).length := by
  by_cases low : c.toNat < 0x80
  · have single : (Utf8.encodeChar c).length = 1 := by
      unfold Utf8.encodeChar
      rw [if_pos low]
      rfl
    obtain ⟨first, rest, same⟩ := escapeChar_eq_cons c
    have positive := Utf8.length_encodeChar_pos first
    rw [same, Utf8.length_encodeChars_cons, single]
    omega
  · rw [escapeChar_of_high (by omega), Utf8.length_encodeChars_cons]
    exact Nat.le_add_right _ _

theorem byteLength_le_renderText (content : String) :
    Utf8.byteLength content ≤ (Utf8.encodeChars (renderText content.toList)).length := by
  have escaped (chars : List Char) : (Utf8.encodeChars chars).length ≤
      (Utf8.encodeChars (chars.flatMap escapeChar)).length := by
    induction chars with
    | nil => exact Nat.le_refl _
    | cons c rest ih =>
        have first := length_encodeChar_le c
        rw [List.flatMap_cons, Utf8.length_encodeChars_append, Utf8.length_encodeChars_cons]
        omega
  have inner := escaped content.toList
  unfold renderText Utf8.byteLength Utf8.encode
  rw [Utf8.length_encodeChars_cons, Utf8.length_encodeChars_append]
  omega

theorem length_render_le_renderMembers {members : List (Option String × Json)}
    {key : Option String} {item : Json} (member : (key, item) ∈ members) :
    (Utf8.encodeChars (render item)).length ≤
      (Utf8.encodeChars (renderMembers members)).length := by
  induction members with
  | nil => cases member
  | cons first rest ih =>
      obtain ⟨firstKey, firstItem⟩ := first
      cases rest with
      | nil =>
          cases List.mem_singleton.mp member
          rw [renderMembers, Utf8.length_encodeChars_append, Utf8.length_encodeChars_cons,
            Utf8.length_encodeChars_append]
          omega
      | cons next rest =>
          rw [renderMembers.eq_3 _ _ _ (by simp), Utf8.length_encodeChars_append,
            Utf8.length_encodeChars_cons, Utf8.length_encodeChars_append, Utf8.length_encodeChars_cons]
          rcases List.mem_cons.mp member with same | later
          · cases same
            omega
          · have behind := ih later
            omega

/-- A text under some name fits where the object does. -/
theorem byteLength_le_toText {members : List (String × Json)} {name content : String}
    (member : (name, ofText content) ∈ members) :
    Utf8.byteLength content ≤ Utf8.byteLength (ofMembers members).toText := by
  have text := byteLength_le_renderText content
  have inside : (some name, ofText content) ∈
      members.map fun member => (some member.1, member.2) :=
    List.mem_map.mpr ⟨(name, ofText content), member, rfl⟩
  have whole := length_render_le_renderMembers inside
  rw [ofText, render, Option.getD_some] at whole
  unfold toText
  rw [Utf8.byteLength.eq_def (String.ofList _), Utf8.encode, String.toList_ofList, ofMembers,
    render, Utf8.length_encodeChars_cons]
  omega

end TronGateway.Json
