import TronGateway.Json.Value
import TronGateway.Proofs.Json.Tree
import TronGateway.Proofs.Number.Decimal
import Mathlib.Data.String.Basic
set_option autoImplicit false

/-!
# Values that a text carries exactly

A value without binary numbers, as a reader gives it, is written so that it is read back unchanged:
its integers have 64 bits, its members are sorted by name, and it is nested no deeper than the
reader goes. Binary numbers are left out: their shortest digits need not read back as the same
number.
-/

namespace TronGateway

namespace Numeral

theorem isSpelled_ofInt (n : Int) : (ofInt n).IsSpelled where
  whole_ne := Decimal.natChars_ne_nil n.natAbs
  whole_digits := by
    intro c member
    obtain ⟨low, high⟩ := Decimal.between_of_mem_natChars member
    unfold Json.Reader.isDigit
    rw [Bool.and_eq_true, decide_eq_true_eq, decide_eq_true_eq]
    exact ⟨low, high⟩
  whole_zero := by
    intro zero
    have none : n.natAbs = 0 := Decimal.head?_natChars zero
    change (Decimal.natChars n.natAbs).length ≤ 1
    rw [none, Decimal.natChars_zero]
    exact Nat.le_refl 1
  fraction_digits := by
    intro c member
    cases member
  exponent_digits := by
    intro negative digits same
    cases same

@[simp] theorem toInt?_ofInt (n : Int) : (ofInt n).toInt? = some n := by
  have value := Decimal.foldl_natChars n.natAbs
  unfold toInt? ofInt
  simp only [List.isEmpty_nil, Option.isNone_none, and_self, if_true, value]
  by_cases negative : n < 0
  · have size : n.natAbs ≠ 0 := by omega
    have same : -Int.ofNat n.natAbs = n := by
      rw [Int.ofNat_eq_natCast]
      omega
    simp only [negative, decide_true, if_true, if_neg size, same]
  · have same : Int.ofNat n.natAbs = n := by
      rw [Int.ofNat_eq_natCast]
      omega
    simp only [negative, decide_false, Bool.false_eq_true, if_false, same]

end Numeral

namespace Value

/-! ### Exact values -/

/-- The names of members are sorted, each once. -/
def Sorted (members : List (String × Value)) : Prop :=
  members.Pairwise fun first second => first.1 < second.1

mutual

/-- A value without binary numbers. -/
def FloatFree : Value → Prop
  | .null => True
  | .bool _ => True
  | .integer _ => True
  | .float _ => False
  | .text _ => True
  | .array items => FloatFreeItems items
  | .object members => FloatFreeMembers members

def FloatFreeItems : List Value → Prop
  | [] => True
  | item :: rest => FloatFree item ∧ FloatFreeItems rest

def FloatFreeMembers : List (String × Value) → Prop
  | [] => True
  | (_, item) :: rest => FloatFree item ∧ FloatFreeMembers rest

end

mutual

/-- A value that a text of at most `depth` nested arrays and objects carries exactly. -/
def IsExact (depth : Nat) : Value → Prop
  | .null => True
  | .bool _ => True
  | .integer n => -0x8000000000000000 ≤ n ∧ n < 0x10000000000000000
  | .float _ => False
  | .text _ => True
  | .array items =>
    match depth with
    | 0 => False
    | depth + 1 => AreExact depth items
  | .object members =>
    match depth with
    | 0 => False
    | depth + 1 => Sorted members ∧ AreExactMembers depth members

def AreExact (depth : Nat) : List Value → Prop
  | [] => True
  | item :: rest => IsExact depth item ∧ AreExact depth rest

def AreExactMembers (depth : Nat) : List (String × Value) → Prop
  | [] => True
  | (_, item) :: rest => IsExact depth item ∧ AreExactMembers depth rest

end

theorem insertMember_last {key : String} {item : Value} {members : List (String × Value)}
    (before : ∀ member ∈ members, member.1 < key) :
    insertMember key item members = members ++ [(key, item)] := by
  induction members with
  | nil => rfl
  | cons member rest ih =>
      obtain ⟨other, kept⟩ := member
      have smaller : other < key := before (other, kept) List.mem_cons_self
      rw [insertMember, if_neg (ne_of_gt smaller), if_neg (lt_asymm smaller),
        ih fun member known => before member (List.mem_cons_of_mem _ known)]
      rfl

theorem mem_insertMember {key : String} {item : Value} {members : List (String × Value)}
    {member : String × Value} (known : member ∈ insertMember key item members) :
    member = (key, item) ∨ member ∈ members := by
  induction members with
  | nil => exact Or.inl (List.mem_singleton.mp known)
  | cons first rest ih =>
      obtain ⟨other, kept⟩ := first
      rw [insertMember] at known
      split at known
      · rcases List.mem_cons.mp known with same | inside
        · exact Or.inl same
        · exact Or.inr (List.mem_cons_of_mem _ inside)
      · split at known
        · exact List.mem_cons.mp known
        · rcases List.mem_cons.mp known with same | inside
          · exact Or.inr (List.mem_cons.mpr (Or.inl same))
          · exact (ih inside).imp_right (List.mem_cons_of_mem _)

theorem Sorted.insertMember {members : List (String × Value)} (sorted : Sorted members)
    (key : String) (item : Value) : Sorted (insertMember key item members) := by
  induction members with
  | nil => exact List.pairwise_singleton _ _
  | cons first rest ih =>
      obtain ⟨other, kept⟩ := first
      obtain ⟨least, sortedRest⟩ := List.pairwise_cons.mp sorted
      rw [Value.insertMember]
      split
      · next same =>
          rw [same]
          exact List.pairwise_cons.mpr ⟨least, sortedRest⟩
      · next different =>
          split
          · next smaller =>
              refine List.pairwise_cons.mpr ⟨?_, sorted⟩
              intro member known
              rcases List.mem_cons.mp known with same | inside
              · rw [same]
                exact smaller
              · exact lt_trans smaller (least member inside)
          · next larger =>
              refine List.pairwise_cons.mpr ⟨?_, ih sortedRest⟩
              intro member known
              rcases mem_insertMember known with same | inside
              · rw [same]
                exact lt_of_le_of_ne (not_lt.mp larger) (Ne.symm different)
              · exact least member inside

theorem Sorted.before_last {found rest : List (String × Value)} {key : String} {item : Value}
    (sorted : Sorted (found ++ (key, item) :: rest)) : ∀ member ∈ found, member.1 < key := by
  intro member known
  exact (List.pairwise_append.mp sorted).2.2 member known (key, item) List.mem_cons_self

/-! ### Reading back -/

theorem toValue?_ofInt {n : Int} (low : -0x8000000000000000 ≤ n) (high : n < 0x10000000000000000) :
    (Numeral.ofInt n).toValue? = some (.integer n) := by
  unfold Numeral.toValue?
  rw [Numeral.toInt?_ofInt]
  exact if_pos ⟨low, high⟩

mutual

theorem ofJson?_toJson (depth : Nat) : (value : Value) → value.IsExact depth →
    ofJson? depth value.toJson = some value
  | .null, _ => by rw [toJson, ofJson?]
  | .bool value, _ => by rw [toJson, ofJson?]
  | .integer n, exact => by
      rw [IsExact] at exact
      rw [toJson, Json.ofInt, ofJson?, toValue?_ofInt exact.1 exact.2]
  | .float value, exact => by
      rw [IsExact] at exact
      exact exact.elim
  | .text content, _ => by
      rw [toJson, Json.ofText, ofJson?]
      rfl
  | .array items, exact => by
      cases depth with
      | zero =>
          rw [IsExact] at exact
          exact exact.elim
      | succ depth =>
          rw [IsExact] at exact
          rw [toJson, ofJson?]
          simp only [ofItems?_toJson depth items exact, Option.map_some]
  | .object members, exact => by
      cases depth with
      | zero =>
          rw [IsExact] at exact
          exact exact.elim
      | succ depth =>
          rw [IsExact] at exact
          rw [toJson, ofJson?]
          simp only [ofMembers?_toJson depth [] members exact.1 exact.2, Option.map_some,
            List.nil_append]

theorem ofItems?_toJson (depth : Nat) : (items : List Value) → AreExact depth items →
    ofItems? depth (itemsToJson items) = some items
  | [], _ => by rw [itemsToJson, ofItems?]
  | item :: rest, exact => by
      rw [AreExact] at exact
      rw [itemsToJson, ofItems?, ofJson?_toJson depth item exact.1,
        ofItems?_toJson depth rest exact.2]

theorem ofMembers?_toJson (depth : Nat) (found : List (String × Value)) :
    (members : List (String × Value)) → Sorted (found ++ members) →
      AreExactMembers depth members →
      ofMembers? depth found (membersToJson members) = some (found ++ members)
  | [], _, _ => by rw [membersToJson, ofMembers?, List.append_nil]
  | (key, item) :: rest, sorted, exact => by
      rw [AreExactMembers] at exact
      have read := ofJson?_toJson depth item exact.1
      have same : found ++ (key, item) :: rest = (found ++ [(key, item)]) ++ rest := by
        rw [List.append_assoc]
        rfl
      rw [membersToJson, ofMembers?.eq_def, same]
      simp only [read, insertMember_last sorted.before_last]
      exact ofMembers?_toJson depth (found ++ [(key, item)]) rest (same ▸ sorted) exact.2

end

mutual

theorem isSpelled_toJson (depth : Nat) : (value : Value) → value.IsExact depth →
    value.toJson.IsSpelled
  | .null, _ => by
      rw [toJson, Json.IsSpelled]
      trivial
  | .bool value, _ => by
      rw [toJson, Json.IsSpelled]
      trivial
  | .integer n, _ => by
      rw [toJson, Json.ofInt, Json.IsSpelled]
      exact Numeral.isSpelled_ofInt n
  | .float value, exact => by
      rw [IsExact] at exact
      exact exact.elim
  | .text content, _ => by
      rw [toJson, Json.ofText, Json.IsSpelled]
      rfl
  | .array items, exact => by
      cases depth with
      | zero =>
          rw [IsExact] at exact
          exact exact.elim
      | succ depth =>
          rw [IsExact] at exact
          rw [toJson, Json.IsSpelled]
          exact areSpelled_toJson depth items exact
  | .object members, exact => by
      cases depth with
      | zero =>
          rw [IsExact] at exact
          exact exact.elim
      | succ depth =>
          rw [IsExact] at exact
          rw [toJson, Json.IsSpelled]
          exact areSpelledMembers_toJson depth members exact.2

theorem areSpelled_toJson (depth : Nat) : (items : List Value) → AreExact depth items →
    Json.AreSpelled (itemsToJson items)
  | [], _ => by
      rw [itemsToJson, Json.AreSpelled]
      trivial
  | item :: rest, exact => by
      rw [AreExact] at exact
      rw [itemsToJson, Json.AreSpelled]
      exact ⟨isSpelled_toJson depth item exact.1, areSpelled_toJson depth rest exact.2⟩

theorem areSpelledMembers_toJson (depth : Nat) : (members : List (String × Value)) →
    AreExactMembers depth members → Json.AreSpelledMembers (membersToJson members)
  | [], _ => by
      rw [membersToJson, Json.AreSpelledMembers]
      trivial
  | (key, item) :: rest, exact => by
      rw [AreExactMembers] at exact
      rw [membersToJson, Json.AreSpelledMembers]
      exact ⟨rfl, isSpelled_toJson depth item exact.1,
        areSpelledMembers_toJson depth rest exact.2⟩

end

theorem floatFreeMembers_iff {members : List (String × Value)} :
    FloatFreeMembers members ↔ ∀ member ∈ members, member.2.FloatFree := by
  induction members with
  | nil => simp [FloatFreeMembers]
  | cons member rest ih =>
      obtain ⟨key, item⟩ := member
      rw [FloatFreeMembers, ih, List.forall_mem_cons]

theorem areExactMembers_iff {depth : Nat} {members : List (String × Value)} :
    AreExactMembers depth members ↔ ∀ member ∈ members, member.2.IsExact depth := by
  induction members with
  | nil => simp [AreExactMembers]
  | cons member rest ih =>
      obtain ⟨key, item⟩ := member
      rw [AreExactMembers, ih, List.forall_mem_cons]

theorem isExact_of_toValue? (depth : Nat) {numeral : Numeral} {value : Value}
    (read : numeral.toValue? = some value) (free : value.FloatFree) : value.IsExact depth := by
  unfold Numeral.toValue? at read
  split at read
  · next n _ =>
      split at read
      · next bounds =>
          cases read
          rw [IsExact]
          exact bounds
      · obtain ⟨binary, -, rfl⟩ := Option.map_eq_some_iff.mp read
        rw [FloatFree] at free
        exact free.elim
  · obtain ⟨binary, -, rfl⟩ := Option.map_eq_some_iff.mp read
    rw [FloatFree] at free
    exact free.elim

mutual

theorem isExact_of_ofJson? (depth : Nat) : (json : Json) → (value : Value) →
    ofJson? depth json = some value → value.FloatFree → value.IsExact depth
  | .null, value, read, _ => by
      rw [ofJson?] at read
      cases read
      rw [IsExact]
      trivial
  | .bool _, value, read, _ => by
      rw [ofJson?] at read
      cases read
      rw [IsExact]
      trivial
  | .number numeral, value, read, free => by
      rw [ofJson?] at read
      exact isExact_of_toValue? depth read free
  | .text none, value, read, _ => by
      rw [ofJson?] at read
      cases read
  | .text (some content), value, read, _ => by
      rw [ofJson?] at read
      cases read
      rw [IsExact]
      trivial
  | .array items, value, read, free => by
      cases depth with
      | zero =>
          rw [ofJson?] at read
          cases read
      | succ depth =>
          rw [ofJson?] at read
          obtain ⟨values, readItems, rfl⟩ := Option.map_eq_some_iff.mp read
          rw [FloatFree] at free
          rw [IsExact]
          exact areExact_of_ofItems? depth items values readItems free
  | .object members, value, read, free => by
      cases depth with
      | zero =>
          rw [ofJson?] at read
          cases read
      | succ depth =>
          rw [ofJson?] at read
          obtain ⟨values, readMembers, rfl⟩ := Option.map_eq_some_iff.mp read
          obtain ⟨sorted, exact⟩ := of_ofMembers? depth members [] values readMembers
            List.Pairwise.nil (fun member known => absurd known List.not_mem_nil)
          rw [FloatFree, floatFreeMembers_iff] at free
          rw [IsExact, areExactMembers_iff]
          exact ⟨sorted, fun member known => exact member known (free member known)⟩

theorem areExact_of_ofItems? (depth : Nat) : (items : List Json) → (values : List Value) →
    ofItems? depth items = some values → FloatFreeItems values → AreExact depth values
  | [], values, read, _ => by
      rw [ofItems?] at read
      cases read
      rw [AreExact]
      trivial
  | item :: rest, values, read, free => by
      rw [ofItems?] at read
      split at read
      · next value others readItem readRest =>
          cases read
          rw [FloatFreeItems] at free
          rw [AreExact]
          exact ⟨isExact_of_ofJson? depth item value readItem free.1,
            areExact_of_ofItems? depth rest others readRest free.2⟩
      · cases read

/-- Members that are read stay sorted. A value that a later one of the same name replaces may hold
anything, so the values are looked at one by one. -/
theorem of_ofMembers? (depth : Nat) : (members : List (Option String × Json)) →
    (found values : List (String × Value)) → ofMembers? depth found members = some values →
    Sorted found → (∀ member ∈ found, member.2.FloatFree → member.2.IsExact depth) →
    Sorted values ∧ ∀ member ∈ values, member.2.FloatFree → member.2.IsExact depth
  | [], found, values, read, sorted, exact => by
      rw [ofMembers?] at read
      cases read
      exact ⟨sorted, exact⟩
  | (key, item) :: rest, found, values, read, sorted, exact => by
      rw [ofMembers?.eq_def] at read
      simp only at read
      split at read
      · next name value readItem =>
          refine of_ofMembers? depth rest (insertMember name value found) values read
            (sorted.insertMember name value) ?_
          intro member known
          rcases mem_insertMember known with same | before
          · rw [same]
            exact isExact_of_ofJson? depth item value readItem
          · exact exact member before
      · cases read

end

mutual

theorem IsExact.mono {depth more : Nat} (deeper : depth ≤ more) : (value : Value) →
    value.IsExact depth → value.IsExact more
  | .null, exact => by
      rw [IsExact]
      trivial
  | .bool _, exact => by
      rw [IsExact]
      trivial
  | .integer n, exact => by
      rw [IsExact] at exact ⊢
      exact exact
  | .float value, exact => by
      rw [IsExact] at exact
      exact exact.elim
  | .text _, exact => by
      rw [IsExact]
      trivial
  | .array items, exact => by
      cases depth with
      | zero =>
          rw [IsExact] at exact
          exact exact.elim
      | succ depth =>
          obtain ⟨more, rfl⟩ : ∃ less, more = less + 1 := ⟨more - 1, by omega⟩
          rw [IsExact] at exact ⊢
          exact AreExact.mono (Nat.le_of_succ_le_succ deeper) items exact
  | .object members, exact => by
      cases depth with
      | zero =>
          rw [IsExact] at exact
          exact exact.elim
      | succ depth =>
          obtain ⟨more, rfl⟩ : ∃ less, more = less + 1 := ⟨more - 1, by omega⟩
          rw [IsExact] at exact ⊢
          exact ⟨exact.1, AreExactMembers.mono (Nat.le_of_succ_le_succ deeper) members exact.2⟩

theorem AreExact.mono {depth more : Nat} (deeper : depth ≤ more) : (items : List Value) →
    AreExact depth items → AreExact more items
  | [], _ => by
      rw [AreExact]
      trivial
  | item :: rest, exact => by
      rw [AreExact] at exact ⊢
      exact ⟨IsExact.mono deeper item exact.1, AreExact.mono deeper rest exact.2⟩

theorem AreExactMembers.mono {depth more : Nat} (deeper : depth ≤ more) :
    (members : List (String × Value)) → AreExactMembers depth members →
    AreExactMembers more members
  | [], _ => by
      rw [AreExactMembers]
      trivial
  | (key, item) :: rest, exact => by
      rw [AreExactMembers] at exact ⊢
      exact ⟨IsExact.mono deeper item exact.1, AreExactMembers.mono deeper rest exact.2⟩

end

end Value
end TronGateway
