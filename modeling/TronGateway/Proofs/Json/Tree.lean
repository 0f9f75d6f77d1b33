import TronGateway.Proofs.Json.Text
set_option autoImplicit false

/-!
# Reading back trees

A tree that the grammar can spell is read from its compact text. The induction is on the tree; the
fuel of the reader has to reach the length of the text, which is what `Json.parse` gives it.
-/

namespace TronGateway

/-- A numeral that the grammar can spell. -/
structure Numeral.IsSpelled (numeral : Numeral) : Prop where
  whole_ne : numeral.whole ≠ []
  whole_digits : ∀ c ∈ numeral.whole, Json.Reader.isDigit c = true
  whole_zero : numeral.whole.head? = some '0' → numeral.whole.length ≤ 1
  fraction_digits : ∀ c ∈ numeral.fraction, Json.Reader.isDigit c = true
  exponent_digits : ∀ negative digits, numeral.exponent = some (negative, digits) →
    digits ≠ [] ∧ ∀ c ∈ digits, Json.Reader.isDigit c = true

namespace Json

mutual

/-- A tree that the grammar can spell: with spelled numerals, and with a value for each text. -/
def IsSpelled : Json → Prop
  | .null => True
  | .bool _ => True
  | .number numeral => numeral.IsSpelled
  | .text value => value.isSome
  | .array items => AreSpelled items
  | .object members => AreSpelledMembers members

def AreSpelled : List Json → Prop
  | [] => True
  | item :: rest => IsSpelled item ∧ AreSpelled rest

def AreSpelledMembers : List (Option String × Json) → Prop
  | [] => True
  | (key, item) :: rest => key.isSome ∧ IsSpelled item ∧ AreSpelledMembers rest

end

namespace Reader

def EndsDigits (rest : List Char) : Prop :=
  ∀ c, rest.head? = some c → isDigit c = false

def EndsNumber (rest : List Char) : Prop :=
  ∀ c, rest.head? = some c → isDigit c = false ∧ c ≠ '.' ∧ c ≠ 'e' ∧ c ≠ 'E'

theorem endsNumber_nil : EndsNumber [] := by
  intro c head
  cases head

theorem endsNumber_cons {c : Char} (rest : List Char) (digit : isDigit c = false) (point : c ≠ '.')
    (lower : c ≠ 'e') (upper : c ≠ 'E') : EndsNumber (c :: rest) := by
  intro d head
  cases head
  exact ⟨digit, point, lower, upper⟩

theorem EndsNumber.endsDigits {rest : List Char} (ends : EndsNumber rest) : EndsDigits rest :=
  fun c head => (ends c head).1

theorem endsDigits_cons {c : Char} (rest : List Char) (digit : isDigit c = false) :
    EndsDigits (c :: rest) := by
  intro d head
  cases head
  exact digit

theorem digits_append {read rest : List Char} (some : read ≠ [])
    (known : ∀ c ∈ read, isDigit c = true) (ends : EndsDigits rest) :
    digits (read ++ rest) = .some (read, rest) := by
  have taken : rest.takeWhile isDigit = [] := by
    cases rest with
    | nil => rfl
    | cons c rest => rw [List.takeWhile_cons_of_neg (by rw [ends c rfl]; decide)]
  have dropped : rest.dropWhile isDigit = rest := by
    cases rest with
    | nil => rfl
    | cons c rest => rw [List.dropWhile_cons_of_neg (by rw [ends c rfl]; decide)]
  unfold digits
  rw [List.takeWhile_append_of_pos known, List.dropWhile_append_of_pos known, taken, dropped,
    List.append_nil]
  cases read with
  | nil => exact absurd rfl some
  | cons c read => rfl

theorem wholeDigits_append {numeral : Numeral} (spelled : numeral.IsSpelled) {rest : List Char}
    (ends : EndsDigits rest) :
    wholeDigits (numeral.whole ++ rest) = some (numeral.whole, rest) := by
  have alone : ¬ (numeral.whole.head? = some '0' ∧ 1 < numeral.whole.length) := by
    intro both
    have short := spelled.whole_zero both.1
    omega
  unfold wholeDigits
  rw [digits_append spelled.whole_ne spelled.whole_digits ends]
  exact if_neg alone

theorem fractionDigits_append {fraction rest : List Char}
    (known : ∀ c ∈ fraction, isDigit c = true) (ends : EndsDigits rest)
    (point : rest.head? ≠ some '.') :
    fractionDigits ((if fraction.isEmpty then [] else '.' :: fraction) ++ rest) =
      some (fraction, rest) := by
  cases fraction with
  | nil =>
      change fractionDigits rest = _
      cases rest with
      | nil => rfl
      | cons c rest =>
          have other : c ≠ '.' := fun same => point (congrArg some same)
          exact if_neg other
  | cons c fraction =>
      change digits (c :: fraction ++ rest) = _
      exact digits_append (List.cons_ne_nil c fraction) known ends

theorem exponent_written (negative : Bool) {power rest : List Char} (some : power ≠ [])
    (known : ∀ c ∈ power, isDigit c = true) (ends : EndsDigits rest) :
    exponent ('e' :: (if negative then '-' else '+') :: (power ++ rest)) =
      .some (.some (negative, power), rest) := by
  cases negative with
  | false =>
      change (digits (power ++ rest)).map _ = _
      rw [digits_append some known ends]
      rfl
  | true =>
      change (digits (power ++ rest)).map _ = _
      rw [digits_append some known ends]
      rfl

theorem exponent_absent {rest : List Char} (ends : EndsNumber rest) :
    exponent rest = some (none, rest) := by
  cases rest with
  | nil => rfl
  | cons c rest =>
      obtain ⟨-, -, lower, upper⟩ := ends c rfl
      exact if_neg (not_or.mpr ⟨lower, upper⟩)

def exponentChars : Option (Bool × List Char) → List Char
  | none => []
  | some (negative, power) => 'e' :: (if negative then '-' else '+') :: power

theorem exponent_append {numeral : Numeral} (spelled : numeral.IsSpelled) {rest : List Char}
    (ends : EndsNumber rest) :
    exponent (exponentChars numeral.exponent ++ rest) = some (numeral.exponent, rest) := by
  cases same : numeral.exponent with
  | none => exact exponent_absent ends
  | some power =>
      obtain ⟨negative, power⟩ := power
      obtain ⟨some, digits⟩ := spelled.exponent_digits negative power same
      exact exponent_written negative some digits ends.endsDigits

theorem head?_exponentChars (power : Option (Bool × List Char)) {rest : List Char}
    (ends : EndsNumber rest) :
    ∀ c, (exponentChars power ++ rest).head? = some c → isDigit c = false ∧ c ≠ '.' := by
  intro c head
  cases power with
  | none => exact ⟨(ends c head).1, (ends c head).2.1⟩
  | some power =>
      cases head
      exact ⟨rfl, by decide⟩

theorem endsDigits_fraction (fraction : List Char) {rest : List Char} (ends : EndsDigits rest) :
    EndsDigits ((if fraction.isEmpty then [] else '.' :: fraction) ++ rest) := by
  cases fraction with
  | nil => exact ends
  | cons c fraction => exact endsDigits_cons _ rfl

theorem unsignedNumeral_append {numeral : Numeral} (spelled : numeral.IsSpelled)
    {rest : List Char} (ends : EndsNumber rest) :
    unsignedNumeral numeral.negative (numeral.whole ++
      ((if numeral.fraction.isEmpty then [] else '.' :: numeral.fraction) ++
        (exponentChars numeral.exponent ++ rest))) = some (numeral, rest) := by
  have behind := head?_exponentChars numeral.exponent ends
  have fractionEnds : EndsDigits (exponentChars numeral.exponent ++ rest) :=
    fun c head => (behind c head).1
  have point : (exponentChars numeral.exponent ++ rest).head? ≠ some '.' :=
    fun head => (behind '.' head).2 rfl
  unfold unsignedNumeral
  rw [wholeDigits_append spelled (endsDigits_fraction _ fractionEnds)]
  simp only [fractionDigits_append spelled.fraction_digits fractionEnds point,
    exponent_append spelled ends]

theorem renderNumeral_append (numeral : Numeral) (rest : List Char) :
    renderNumeral numeral ++ rest = (if numeral.negative then ['-'] else []) ++ (numeral.whole ++
      ((if numeral.fraction.isEmpty then [] else '.' :: numeral.fraction) ++
        (exponentChars numeral.exponent ++ rest))) := by
  obtain ⟨negative, whole, fraction, power⟩ := numeral
  cases power with
  | none => simp only [renderNumeral, exponentChars, List.append_assoc]
  | some power => simp only [renderNumeral, exponentChars, List.append_assoc]

/-! ### What a tree starts with -/

theorem skip_cons {c : Char} (rest : List Char) (printed : isBlank c = false) :
    skip (c :: rest) = c :: rest := by
  unfold skip
  rw [List.dropWhile_cons_of_neg (by rw [printed]; decide)]

theorem ne_of_isDigit {c : Char} (other : Char) (digit : isDigit c = true)
    (none : isDigit other = false) : c ≠ other := by
  intro same
  rw [same, none] at digit
  cases digit

theorem isBlank_of_isDigit {c : Char} (digit : isDigit c = true) : isBlank c = false := by
  have space : c ≠ ' ' := ne_of_isDigit _ digit rfl
  have line : c ≠ '\n' := ne_of_isDigit _ digit rfl
  have tab : c ≠ '\t' := ne_of_isDigit _ digit rfl
  have carriage : c ≠ '\r' := ne_of_isDigit _ digit rfl
  simp only [isBlank, space, line, tab, carriage, decide_false, Bool.or_false]

/-- The first character of a tree: no blank, and not the bracket that closes an array. -/
def StartsTree (chars : List Char) : Prop :=
  ∃ c rest, chars = c :: rest ∧ isBlank c = false ∧ c ≠ ']'

theorem StartsTree.append {chars : List Char} (starts : StartsTree chars) (behind : List Char) :
    StartsTree (chars ++ behind) := by
  obtain ⟨c, rest, same, printed, bracket⟩ := starts
  exact ⟨c, rest ++ behind, by rw [same, List.cons_append], printed, bracket⟩

theorem StartsTree.length_pos {chars : List Char} (starts : StartsTree chars) :
    0 < chars.length := by
  obtain ⟨c, rest, same, -, -⟩ := starts
  rw [same]
  exact Nat.succ_pos _

theorem startsTree_renderNumeral {numeral : Numeral} (spelled : numeral.IsSpelled) :
    StartsTree (renderNumeral numeral) := by
  rw [← List.append_nil (renderNumeral numeral), renderNumeral_append]
  cases numeral.negative with
  | true => exact ⟨'-', _, rfl, rfl, by decide⟩
  | false =>
      obtain ⟨c, rest, same⟩ := List.exists_cons_of_ne_nil spelled.whole_ne
      have digit : isDigit c = true := by
        apply spelled.whole_digits
        rw [same]
        exact List.mem_cons_self
      rw [same]
      exact ⟨c, _, rfl, isBlank_of_isDigit digit, ne_of_isDigit _ digit rfl⟩

theorem startsTree_render (json : Json) (spelled : json.IsSpelled) :
    StartsTree (render json) := by
  cases json with
  | null => exact ⟨'n', _, render.eq_1, rfl, by decide⟩
  | bool value =>
      cases value with
      | true => exact ⟨'t', _, render.eq_2, rfl, by decide⟩
      | false => exact ⟨'f', _, render.eq_3, rfl, by decide⟩
  | number numeral =>
      rw [IsSpelled] at spelled
      rw [render]
      exact startsTree_renderNumeral spelled
  | text value =>
      rw [render]
      exact ⟨'"', _, rfl, rfl, by decide⟩
  | array items =>
      rw [render]
      exact ⟨'[', _, rfl, rfl, by decide⟩
  | object members =>
      rw [render]
      exact ⟨'\x7b', _, rfl, rfl, by decide⟩

theorem startsTree_renderItems (item : Json) (others : List Json)
    (spelled : AreSpelled (item :: others)) : StartsTree (renderItems (item :: others)) := by
  rw [AreSpelled] at spelled
  have starts := startsTree_render item spelled.1
  cases others with
  | nil => exact starts.append _
  | cons next others => exact starts.append _

theorem renderItems_cons_cons (item next : Json) (others : List Json) :
    renderItems (item :: next :: others) = render item ++ ',' :: renderItems (next :: others) := by
  rw [renderItems]
  exact List.cons_ne_nil next others

theorem renderMembers_singleton (name : String) (item : Json) :
    renderMembers [(some name, item)] =
      '"' :: (name.toList.flatMap escapeChar ++ '"' :: ':' :: (render item ++ ['\x7d'])) := by
  rw [renderMembers]
  simp only [renderText, Option.getD_some, List.cons_append, List.append_assoc, List.nil_append]

theorem renderMembers_cons_cons (name : String) (item : Json) (next : Option String × Json)
    (others : List (Option String × Json)) :
    renderMembers ((some name, item) :: next :: others) =
      '"' :: (name.toList.flatMap escapeChar ++
        '"' :: ':' :: (render item ++ ',' :: renderMembers (next :: others))) := by
  rw [renderMembers]
  · simp only [renderText, Option.getD_some, List.cons_append, List.append_assoc, List.nil_append]
  · exact List.cons_ne_nil next others

theorem renderMembers_eq_cons (key : Option String) (item : Json)
    (others : List (Option String × Json)) :
    ∃ behind, renderMembers ((key, item) :: others) = '"' :: behind := by
  cases others with
  | nil => exact ⟨_, renderMembers.eq_2 key item⟩
  | cons next others => exact ⟨_, renderMembers.eq_3 key item (next :: others) (by simp)⟩

theorem value_digit {c : Char} (fuel : Nat) (rest : List Char) (digit : isDigit c = true) :
    value (fuel + 1) (c :: rest) =
      (unsignedNumeral false (c :: rest)).map fun result => (.number result.1, result.2) := by
  rw [value, skip_cons rest (isBlank_of_isDigit digit)]
  simp only [if_neg (ne_of_isDigit '"' digit rfl),
    if_neg (ne_of_isDigit '[' digit rfl),
    if_neg (ne_of_isDigit '\x7b' digit rfl),
    if_neg (ne_of_isDigit 'n' digit rfl),
    if_neg (ne_of_isDigit 't' digit rfl),
    if_neg (ne_of_isDigit 'f' digit rfl),
    if_neg (ne_of_isDigit '-' digit rfl)]

theorem value_minus (fuel : Nat) (rest : List Char) :
    value (fuel + 1) ('-' :: rest) =
      (unsignedNumeral true rest).map fun result => (.number result.1, result.2) := by
  rw [value, skip_cons rest rfl]
  rfl

theorem value_mark (fuel : Nat) (rest : List Char) :
    value (fuel + 1) ('"' :: rest) =
      (textBody rest).map fun result => (.text result.1, result.2) := by
  rw [value, skip_cons rest rfl]
  rfl

theorem value_bracket (fuel : Nat) {chars : List Char} (starts : StartsTree chars) :
    value (fuel + 1) ('[' :: chars) =
      (items fuel chars).map fun result => (.array result.1, result.2) := by
  obtain ⟨c, rest, same, printed, bracket⟩ := starts
  rw [value, skip_cons chars rfl, same]
  simp only [skip_cons rest printed, if_neg bracket]
  rfl

theorem value_brace (fuel : Nat) (rest : List Char) :
    value (fuel + 1) ('\x7b' :: '"' :: rest) =
      (members fuel ('"' :: rest)).map fun result => (.object result.1, result.2) := by
  rw [value, skip_cons _ rfl]
  simp only [skip_cons (c := '"') rest rfl]
  rfl

theorem value_renderNumeral {numeral : Numeral} (spelled : numeral.IsSpelled) (fuel : Nat)
    {rest : List Char} (ends : EndsNumber rest) :
    value (fuel + 1) (renderNumeral numeral ++ rest) = some (.number numeral, rest) := by
  have read := unsignedNumeral_append spelled ends
  rw [renderNumeral_append]
  cases sign : numeral.negative with
  | true =>
      rw [sign] at read
      rw [if_pos rfl, List.cons_append, List.nil_append, value_minus, read]
      rfl
  | false =>
      rw [sign] at read
      obtain ⟨c, whole, same⟩ := List.exists_cons_of_ne_nil spelled.whole_ne
      have digit : isDigit c = true := by
        apply spelled.whole_digits
        rw [same]
        exact List.mem_cons_self
      rw [if_neg Bool.false_ne_true, List.nil_append, same, List.cons_append,
        value_digit fuel _ digit, ← List.cons_append, ← same, read]
      rfl

theorem items_last {fuel : Nat} {chars rest : List Char} {item : Json}
    (read : value fuel chars = some (item, ']' :: rest)) :
    items (fuel + 1) chars = some ([item], rest) := by
  rw [items, read]
  simp only [skip_cons (c := ']') rest rfl]
  rfl

theorem items_more {fuel : Nat} {chars rest : List Char} {item : Json}
    (read : value fuel chars = some (item, ',' :: rest)) :
    items (fuel + 1) chars =
      (items fuel rest).map fun result => (item :: result.1, result.2) := by
  rw [items, read]
  simp only [skip_cons (c := ',') rest rfl]
  rfl

theorem members_last {fuel : Nat} {chars behind rest : List Char} {key : Option String}
    {item : Json} (name : textBody chars = some (key, ':' :: behind))
    (read : value fuel behind = some (item, '\x7d' :: rest)) :
    members (fuel + 1) ('"' :: chars) = some ([(key, item)], rest) := by
  rw [members, skip_cons chars rfl]
  simp only [if_true, name, skip_cons (c := ':') behind rfl, read,
    skip_cons (c := '\x7d') rest rfl]
  rfl

theorem members_more {fuel : Nat} {chars behind rest : List Char} {key : Option String}
    {item : Json} (name : textBody chars = some (key, ':' :: behind))
    (read : value fuel behind = some (item, ',' :: rest)) :
    members (fuel + 1) ('"' :: chars) =
      (members fuel rest).map fun result => ((key, item) :: result.1, result.2) := by
  rw [members, skip_cons chars rfl]
  simp only [if_true, name, skip_cons (c := ':') behind rfl, read, skip_cons (c := ',') rest rfl]

/-! ### Trees -/

mutual

/-- A tree is read from its text, whatever follows that is not part of a number. -/
theorem value_render (fuel : Nat) (json : Json) (spelled : json.IsSpelled) (rest : List Char)
    (fits : (render json).length ≤ fuel) (ends : EndsNumber rest) :
    value fuel (render json ++ rest) = some (json, rest) := by
  have positive := (startsTree_render json spelled).length_pos
  -- Every call of the reader takes a character, so that fuel for the text is fuel for the tree.
  match fuel with
  | 0 => omega
  | fuel + 1 =>
    match json with
    | .null =>
        rw [render, List.cons_append, value, skip_cons _ rfl]
        rfl
    | .bool true =>
        rw [render, List.cons_append, value, skip_cons _ rfl]
        rfl
    | .bool false =>
        rw [render, List.cons_append, value, skip_cons _ rfl]
        rfl
    | .number numeral =>
        rw [IsSpelled] at spelled
        rw [render]
        exact value_renderNumeral spelled fuel ends
    | .text none =>
        rw [IsSpelled] at spelled
        cases spelled
    | .text (some content) =>
        rw [render, renderText, List.cons_append, value_mark, List.append_assoc]
        change (textBody (content.toList.flatMap escapeChar ++ '"' :: rest)).map _ = _
        rw [textBody_rendered]
        rfl
    | .array [] =>
        rw [render, renderItems, value, List.cons_append, skip_cons _ rfl]
        rfl
    | .array (item :: others) =>
        rw [IsSpelled] at spelled
        rw [render, List.length_cons] at fits
        have starts := startsTree_renderItems item others spelled
        rw [render, List.cons_append, value_bracket fuel (starts.append rest),
          items_render fuel item others spelled rest (by omega)]
        rfl
    | .object [] =>
        rw [render, renderMembers, value, List.cons_append, skip_cons _ rfl]
        rfl
    | .object ((key, item) :: others) =>
        rw [IsSpelled] at spelled
        rw [render, List.length_cons] at fits
        obtain ⟨behind, same⟩ := renderMembers_eq_cons key item others
        have read := members_render fuel key item others spelled rest (by omega)
        rw [same, List.cons_append] at read
        rw [render, same, List.cons_append, List.cons_append, value_brace, read]
        rfl

theorem items_render (fuel : Nat) (item : Json) (others : List Json)
    (spelled : AreSpelled (item :: others)) (rest : List Char)
    (fits : (renderItems (item :: others)).length ≤ fuel) :
    items fuel (renderItems (item :: others) ++ rest) = some (item :: others, rest) := by
  have positive := (startsTree_renderItems item others spelled).length_pos
  rw [AreSpelled] at spelled
  match fuel, others with
  | 0, _ => omega
  | fuel + 1, [] =>
      rw [renderItems, List.length_append, List.length_singleton] at fits
      have read := value_render fuel item spelled.1 (']' :: rest) (by omega)
        (endsNumber_cons rest rfl (by decide) (by decide) (by decide))
      rw [renderItems, List.append_assoc]
      exact items_last read
  | fuel + 1, next :: others =>
      have itemPositive := (startsTree_render item spelled.1).length_pos
      rw [renderItems_cons_cons, List.length_append, List.length_cons] at fits
      have read := value_render fuel item spelled.1 (',' :: (renderItems (next :: others) ++ rest))
        (by omega) (endsNumber_cons _ rfl (by decide) (by decide) (by decide))
      have behind := items_render fuel next others spelled.2 rest (by omega)
      rw [renderItems_cons_cons, List.append_assoc, List.cons_append, items_more read, behind]
      rfl

theorem members_render (fuel : Nat) (key : Option String) (item : Json)
    (others : List (Option String × Json)) (spelled : AreSpelledMembers ((key, item) :: others))
    (rest : List Char) (fits : (renderMembers ((key, item) :: others)).length ≤ fuel) :
    members fuel (renderMembers ((key, item) :: others) ++ rest) =
      some ((key, item) :: others, rest) := by
  rw [AreSpelledMembers] at spelled
  obtain ⟨named, spelled, spelledOthers⟩ := spelled
  obtain ⟨name, rfl⟩ := Option.isSome_iff_exists.mp named
  match fuel, others with
  | 0, others =>
      obtain ⟨behind, same⟩ := renderMembers_eq_cons (some name) item others
      rw [same] at fits
      exact absurd fits (Nat.not_succ_le_zero _)
  | fuel + 1, [] =>
      rw [renderMembers_singleton] at fits ⊢
      simp only [List.length_append, List.length_cons] at fits
      have read := value_render fuel item spelled ('\x7d' :: rest) (by omega)
        (endsNumber_cons rest rfl (by decide) (by decide) (by decide))
      simp only [List.cons_append, List.append_assoc, List.nil_append]
      exact members_last (textBody_rendered name _) read
  | fuel + 1, (nextKey, next) :: others =>
      rw [renderMembers_cons_cons] at fits ⊢
      simp only [List.length_append, List.length_cons] at fits
      have read := value_render fuel item spelled
        (',' :: (renderMembers ((nextKey, next) :: others) ++ rest)) (by omega)
        (endsNumber_cons _ rfl (by decide) (by decide) (by decide))
      have behind := members_render fuel nextKey next others spelledOthers rest (by omega)
      simp only [List.cons_append, List.append_assoc]
      rw [members_more (textBody_rendered name _) read, behind]
      rfl

end

end Reader

theorem parse_toText (json : Json) (spelled : json.IsSpelled) :
    parse json.toText = some json := by
  have read := Reader.value_render (2 * (render json).length + 2) json spelled [] (by omega)
    Reader.endsNumber_nil
  rw [List.append_nil] at read
  unfold parse toText
  rw [String.toList_ofList]
  simp only [read]
  rfl

end Json
end TronGateway
