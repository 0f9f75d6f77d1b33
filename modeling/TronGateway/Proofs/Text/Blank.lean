import Mathlib.Data.List.DropRight
import TronGateway.Text.Blank
set_option autoImplicit false

/-!
# Text between blanks

A text is trimmed to the one part of it that has nothing but blanks around it and none at its own
ends.
-/

namespace TronGateway.Text

/-- The characters have nothing but blanks around `inner`, which has none at its ends. -/
structure IsTrimmed (chars inner : List Char) : Prop where
  framed : ∃ front back, chars = front ++ (inner ++ back) ∧ (∀ c ∈ front, isBlank c = true) ∧
    ∀ c ∈ back, isBlank c = true
  first : ∀ c ∈ inner.head?, isBlank c = false
  last : ∀ c ∈ inner.getLast?, isBlank c = false

variable {chars inner back : List Char}

theorem trimChars_eq (chars : List Char) :
    trimChars chars = (chars.dropWhile isBlank).rdropWhile isBlank := rfl

theorem dropWhile_of_first (first : ∀ c ∈ inner.head?, isBlank c = false) :
    inner.dropWhile isBlank = inner := by
  cases inner with
  | nil => rfl
  | cons c rest =>
      have notBlank := first c rfl
      rw [List.dropWhile_cons_of_neg (by rw [notBlank]; exact Bool.false_ne_true)]

theorem rdropWhile_append_of_last (last : ∀ c ∈ inner.getLast?, isBlank c = false)
    (blank : ∀ c ∈ back, isBlank c = true) :
    (inner ++ back).rdropWhile isBlank = inner := by
  induction back using List.reverseRecOn with
  | nil =>
      rw [List.append_nil, List.rdropWhile_eq_self_iff]
      intro some
      rw [last _ (List.getLast?_eq_some_getLast some)]
      exact Bool.false_ne_true
  | append_singleton rest c ih =>
      have cut : isBlank c = true := blank c (List.mem_append_right _ List.mem_cons_self)
      rw [← List.append_assoc, List.rdropWhile_concat_pos _ _ _ cut]
      exact ih fun c member => blank c (List.mem_append_left _ member)

theorem trimChars_of_isTrimmed (trimmed : IsTrimmed chars inner) : trimChars chars = inner := by
  obtain ⟨⟨front, back, rfl, blankFront, blankBack⟩, first, last⟩ := trimmed
  rw [trimChars_eq, List.dropWhile_append_of_pos blankFront]
  cases inner with
  | nil =>
      rw [List.nil_append, List.dropWhile_eq_nil_iff.mpr blankBack]
      rfl
  | cons c rest =>
      have whole : ∀ other ∈ (c :: rest ++ back).head?, isBlank other = false := first
      rw [dropWhile_of_first whole]
      exact rdropWhile_append_of_last last blankBack

theorem isTrimmed_trimChars (chars : List Char) : IsTrimmed chars (trimChars chars) := by
  rw [trimChars_eq]
  have split : (chars.dropWhile isBlank).rdropWhile isBlank ++
      (chars.dropWhile isBlank).rtakeWhile isBlank = chars.dropWhile isBlank :=
    List.rdropWhile_append_rtakeWhile
  refine ⟨⟨chars.takeWhile isBlank, (chars.dropWhile isBlank).rtakeWhile isBlank, ?_, ?_, ?_⟩,
    ?_, ?_⟩
  · rw [split, List.takeWhile_append_dropWhile]
  · exact fun c member => List.mem_takeWhile_imp member
  · exact fun c member => List.mem_rtakeWhile_imp member
  · intro c head
    obtain ⟨rest, starts⟩ := List.head?_eq_some_iff.mp head
    -- What is cut off at the end leaves the first character where it is.
    have whole : (chars.dropWhile isBlank).head? = some c := by
      rw [← split, starts]
      rfl
    have notBlank := List.head?_dropWhile_not isBlank chars
    rw [whole] at notBlank
    exact notBlank
  · intro c last
    obtain ⟨some, rfl⟩ := List.mem_getLast?_eq_getLast last
    exact Bool.eq_false_iff.mpr (List.rdropWhile_last_not isBlank _ some)

theorem trim_eq_iff {text inner : String} :
    trim text = inner ↔ IsTrimmed text.toList inner.toList := by
  unfold trim
  constructor
  · rintro rfl
    rw [String.toList_ofList]
    exact isTrimmed_trimChars _
  · intro trimmed
    rw [trimChars_of_isTrimmed trimmed, String.ofList_toList]

/-- Nothing is left of a text exactly when all of it is blank. -/
theorem trim_eq_empty_iff {text : String} :
    trim text = "" ↔ ∀ c ∈ text.toList, isBlank c = true := by
  rw [trim_eq_iff]
  constructor
  · rintro ⟨⟨front, back, same, blankFront, blankBack⟩, -, -⟩ c member
    rw [same] at member
    rcases List.mem_append.mp member with early | late
    · exact blankFront c early
    · exact blankBack c late
  · intro blank
    exact ⟨⟨text.toList, [], (List.append_nil _).symm, blank, List.forall_mem_nil _⟩, nofun, nofun⟩

end TronGateway.Text
