import TronGateway.Proofs.Json.Decode
set_option autoImplicit false

/-!
# Passing through an untyped value

A tree that is read without types and written again has the members of each object sorted by name.
A typed reader takes the same from it as from the first tree, because it looks members up by name
and refuses a repeated one. This holds where the value has no binary numbers, whose digits may not
be those of the first tree.
-/

namespace TronGateway

namespace Value

theorem lookup_insertMember_self (key : String) (item : Value) (members : List (String × Value)) :
    (insertMember key item members).lookup key = some item := by
  induction members with
  | nil => exact List.lookup_cons_self
  | cons member rest ih =>
      obtain ⟨other, kept⟩ := member
      rw [insertMember]
      split
      · exact List.lookup_cons_self
      · next different =>
          split
          · exact List.lookup_cons_self
          · rw [List.lookup_cons, beq_eq_false_iff_ne.mpr different]
            exact ih

theorem lookup_insertMember_of_ne {key sought : String} (other : sought ≠ key) (item : Value)
    (members : List (String × Value)) :
    (insertMember key item members).lookup sought = members.lookup sought := by
  have passed := beq_eq_false_iff_ne.mpr other
  induction members with
  | nil => rw [insertMember, List.lookup_cons, passed]
  | cons member rest ih =>
      obtain ⟨name, kept⟩ := member
      rw [insertMember]
      split
      · next same =>
          rw [← same, List.lookup_cons, List.lookup_cons, passed]
      · split
        · rw [List.lookup_cons, passed]
        · rw [List.lookup_cons, List.lookup_cons, ih]

def trees (members : List (String × Value)) : List (String × Json) :=
  members.map fun member => (member.1, member.2.toJson)

theorem toJson_object (members : List (String × Value)) :
    (Value.object members).toJson = Json.ofMembers (trees members) := by
  rw [toJson]
  congr 1
  induction members with
  | nil =>
      rw [membersToJson]
      rfl
  | cons member rest ih =>
      rw [membersToJson, ih]
      rfl

theorem lookup_trees (name : String) (members : List (String × Value)) :
    (trees members).lookup name = (members.lookup name).map toJson := by
  unfold trees
  induction members with
  | nil => rfl
  | cons member rest ih =>
      obtain ⟨other, item⟩ := member
      rw [List.map_cons, List.lookup_cons, List.lookup_cons, ih]
      cases name == other with
      | true => rfl
      | false => rfl

theorem Sorted.nodup_trees {members : List (String × Value)} (sorted : Sorted members) :
    ((trees members).map Prod.fst).Nodup := by
  unfold trees
  rw [List.map_map]
  apply List.pairwise_map.mpr
  exact sorted.imp fun smaller => ne_of_lt smaller

theorem FloatFreeMembers.lookup {members : List (String × Value)} (free : FloatFreeMembers members)
    {name : String} {item : Value} (held : members.lookup name = some item) : item.FloatFree := by
  obtain ⟨front, behind, same, -⟩ := List.lookup_eq_some_iff.mp held
  apply floatFreeMembers_iff.mp free (name, item)
  rw [same]
  exact List.mem_append_right front List.mem_cons_self

theorem FloatFree.of_array {items : List Value} (free : (Value.array items).FloatFree) :
    FloatFreeItems items := by
  rwa [FloatFree] at free

theorem FloatFree.of_object {members : List (String × Value)}
    (free : (Value.object members).FloatFree) : FloatFreeMembers members := by
  rwa [FloatFree] at free

mutual

theorem floatFree_of_isExact {depth : Nat} : (value : Value) → value.IsExact depth →
    value.FloatFree
  | .null, _ => by
      rw [FloatFree]
      trivial
  | .bool _, _ => by
      rw [FloatFree]
      trivial
  | .integer _, _ => by
      rw [FloatFree]
      trivial
  | .float _, exact => by
      rw [IsExact] at exact
      exact exact.elim
  | .text _, _ => by
      rw [FloatFree]
      trivial
  | .array items, exact => by
      rw [FloatFree]
      cases depth with
      | zero =>
          rw [IsExact] at exact
          exact exact.elim
      | succ depth =>
          rw [IsExact] at exact
          exact floatFreeItems_of_areExact items exact
  | .object members, exact => by
      rw [FloatFree]
      cases depth with
      | zero =>
          rw [IsExact] at exact
          exact exact.elim
      | succ depth =>
          rw [IsExact] at exact
          exact floatFreeMembers_of_areExactMembers members exact.2

theorem floatFreeItems_of_areExact {depth : Nat} : (items : List Value) →
    AreExact depth items → FloatFreeItems items
  | [], _ => by
      rw [FloatFreeItems]
      trivial
  | item :: rest, exact => by
      rw [AreExact] at exact
      rw [FloatFreeItems]
      exact ⟨floatFree_of_isExact item exact.1, floatFreeItems_of_areExact rest exact.2⟩

theorem floatFreeMembers_of_areExactMembers {depth : Nat} : (members : List (String × Value)) →
    AreExactMembers depth members → FloatFreeMembers members
  | [], _ => by
      rw [FloatFreeMembers]
      trivial
  | (_, item) :: rest, exact => by
      rw [AreExactMembers] at exact
      rw [FloatFreeMembers]
      exact ⟨floatFree_of_isExact item exact.1,
        floatFreeMembers_of_areExactMembers rest exact.2⟩

end

theorem eq_null_of_ofJson? {depth : Nat} {json : Json} (passed : ofJson? depth json = some .null) :
    json = .null := by
  cases json with
  | null => rfl
  | bool content =>
      rw [ofJson?] at passed
      cases passed
  | number numeral =>
      rw [ofJson?, Numeral.toValue?] at passed
      split at passed
      · split at passed
        · cases passed
        · obtain ⟨binary, -, same⟩ := Option.map_eq_some_iff.mp passed
          cases same
      · obtain ⟨binary, -, same⟩ := Option.map_eq_some_iff.mp passed
        cases same
  | text content =>
      rw [ofJson?] at passed
      obtain ⟨held, -, same⟩ := Option.map_eq_some_iff.mp passed
      cases same
  | array items =>
      cases depth with
      | zero =>
          rw [ofJson?] at passed
          cases passed
      | succ depth =>
          rw [ofJson?] at passed
          obtain ⟨held, -, same⟩ := Option.map_eq_some_iff.mp passed
          cases same
  | object members =>
      cases depth with
      | zero =>
          rw [ofJson?] at passed
          cases passed
      | succ depth =>
          rw [ofJson?] at passed
          obtain ⟨held, -, same⟩ := Option.map_eq_some_iff.mp passed
          cases same

theorem toJson_ne_null {value : Value} (present : value ≠ .null) : value.toJson ≠ .null := by
  cases value <;> simp_all [toJson, Json.ofInt, Json.ofText]

end Value

namespace Json

/-! ### Trees that pass -/

/-- The tree is read as an untyped value, and that has no binary numbers. -/
def IsPlain (depth : Nat) (json : Json) : Prop :=
  ∃ value, Value.ofJson? depth json = some value ∧ value.FloatFree

theorem plain_bool (depth : Nat) (content : Bool) : IsPlain depth (.bool content) :=
  ⟨.bool content, by rw [Value.ofJson?], by rw [Value.FloatFree]; trivial⟩

theorem plain_ofText (depth : Nat) (content : String) : IsPlain depth (ofText content) :=
  ⟨.text content, by rw [ofText, Value.ofJson?]; rfl, by rw [Value.FloatFree]; trivial⟩

theorem plain_ofInt {n : Int} (depth : Nat) (low : -0x8000000000000000 ≤ n)
    (high : n < 0x10000000000000000) : IsPlain depth (ofInt n) :=
  ⟨.integer n, by rw [ofInt, Value.ofJson?, Value.toValue?_ofInt low high],
    by rw [Value.FloatFree]; trivial⟩

theorem plain_toJson {depth : Nat} {value : Value} (exact : value.IsExact depth) :
    IsPlain depth value.toJson :=
  ⟨value, Value.ofJson?_toJson depth value exact, Value.floatFree_of_isExact value exact⟩

theorem plain_ofList {α : Type} {depth : Nat} {write : α → Json} {items : List α}
    (plain : ∀ item ∈ items, IsPlain depth (write item)) :
    IsPlain (depth + 1) (ofList write items) := by
  suffices passed : ∃ values, Value.ofItems? depth (items.map write) = some values ∧
      Value.FloatFreeItems values by
    obtain ⟨values, read, free⟩ := passed
    refine ⟨.array values, ?_, by rwa [Value.FloatFree]⟩
    rw [ofList, Value.ofJson?, read, Option.map_some]
  induction items with
  | nil => exact ⟨[], by rw [List.map_nil, Value.ofItems?], by rw [Value.FloatFreeItems]; trivial⟩
  | cons item rest ih =>
      obtain ⟨value, read, free⟩ := plain item List.mem_cons_self
      obtain ⟨values, readRest, freeRest⟩ :=
        ih fun other member => plain other (List.mem_cons_of_mem item member)
      refine ⟨value :: values, ?_, ?_⟩
      · rw [List.map_cons, Value.ofItems?, read, readRest]
      · rw [Value.FloatFreeItems]
        exact ⟨free, freeRest⟩

theorem plain_ofMembers {depth : Nat} {members : List (String × Json)}
    (plain : ∀ member ∈ members, IsPlain depth member.2) :
    IsPlain (depth + 1) (ofMembers members) := by
  suffices passed : ∀ found, Value.FloatFreeMembers found →
      ∃ values, Value.ofMembers? depth found
        (members.map fun member => (some member.1, member.2)) = some values ∧
        Value.FloatFreeMembers values by
    obtain ⟨values, read, free⟩ := passed [] (by rw [Value.FloatFreeMembers]; trivial)
    refine ⟨.object values, ?_, by rwa [Value.FloatFree]⟩
    rw [ofMembers, Value.ofJson?, read, Option.map_some]
  induction members with
  | nil =>
      intro found free
      exact ⟨found, by rw [List.map_nil, Value.ofMembers?], free⟩
  | cons member rest ih =>
      intro found free
      obtain ⟨name, item⟩ := member
      obtain ⟨value, read, freeValue⟩ := plain (name, item) List.mem_cons_self
      have kept : Value.FloatFreeMembers (Value.insertMember name value found) := by
        rw [Value.floatFreeMembers_iff] at free ⊢
        intro member known
        rcases Value.mem_insertMember known with same | before
        · rw [same]
          exact freeValue
        · exact free member before
      obtain ⟨values, readRest, freeRest⟩ :=
        ih (fun other member => plain other (List.mem_cons_of_mem _ member)) _ kept
      refine ⟨values, ?_, freeRest⟩
      rw [List.map_cons, Value.ofMembers?.eq_def]
      dsimp only at read ⊢
      rw [read]
      exact readRest

/-! ### Readers that a pass does not disturb -/

/-- The reader takes from the tree of an untyped value what it took from the tree that the value was
read from. -/
def IsSettled {α : Type} (reader : Json.Reader α) : Prop :=
  ∀ ⦃depth : Nat⦄ ⦃json : Json⦄ ⦃value : Value⦄ ⦃found : α⦄,
    Value.ofJson? depth json = some value → value.FloatFree →
      reader depth json = some found → reader depth value.toJson = some found

theorem readText_settled : IsSettled readText := by
  intro depth json value found passed free read
  cases json with
  | text content =>
      rw [Value.ofJson?] at passed
      change content = some found at read
      rw [read] at passed
      cases passed
      rw [Value.toJson]
      rfl
  | _ => cases read

theorem readBool_settled : IsSettled readBool := by
  intro depth json value found passed free read
  cases json with
  | bool content =>
      rw [Value.ofJson?] at passed
      cases passed
      rw [Value.toJson]
      exact read
  | _ => cases read

theorem readBetween_settled {low high : Int} (above : -0x8000000000000000 ≤ low)
    (below : high < 0x10000000000000000) : IsSettled (readBetween low high) := by
  intro depth json value found passed free read
  cases json with
  | number numeral =>
      unfold readBetween at read
      dsimp only at read
      split at read
      · next n integer =>
          split at read
          · next between =>
              cases read
              have bounds : -0x8000000000000000 ≤ found ∧ found < 0x10000000000000000 := by omega
              rw [Value.ofJson?, Numeral.toValue?, integer] at passed
              dsimp only at passed
              rw [if_pos bounds] at passed
              cases passed
              rw [Value.toJson]
              exact readBetween_ofInt depth between.1 between.2
          · cases read
      · cases read
  | _ => cases read

theorem IsSettled.map {α β : Type} {reader : Json.Reader α} (settled : IsSettled reader)
    (convert : α → β) : IsSettled fun depth json => (reader depth json).map convert := by
  intro depth json value found passed free read
  obtain ⟨inner, taken, rfl⟩ := Option.map_eq_some_iff.mp read
  dsimp only
  rw [settled passed free taken, Option.map_some]

theorem readInt64_settled : IsSettled readInt64 :=
  (readBetween_settled (by decide) (by decide)).map Int64.ofInt

theorem readInt32_settled : IsSettled readInt32 :=
  (readBetween_settled (by decide) (by decide)).map Int32.ofInt

theorem readValue_settled : IsSettled readValue := by
  intro depth json value found passed free read
  obtain rfl : value = found := Option.some.inj (passed.symm.trans read)
  exact Value.ofJson?_toJson depth value (Value.isExact_of_ofJson? depth json value passed free)

theorem readNullable_of_ne_null {α : Type} (reader : Json.Reader α) (depth : Nat) {json : Json}
    (present : json ≠ .null) :
    readNullable reader depth json = (reader depth json).map some := by
  cases json with
  | null => exact absurd rfl present
  | _ => rfl

/-- Only null becomes null, so that the pass does not change what is absent. -/
theorem readNullable_settled {α : Type} {reader : Json.Reader α} (settled : IsSettled reader) :
    IsSettled (readNullable reader) := by
  intro depth json value found passed free read
  by_cases absent : json = .null
  · subst absent
    rw [Value.ofJson?] at passed
    cases passed
    rw [Value.toJson]
    exact read
  · have present : value ≠ .null := by
      rintro rfl
      exact absent (Value.eq_null_of_ofJson? passed)
    rw [readNullable_of_ne_null reader depth absent] at read
    rw [readNullable_of_ne_null reader depth (Value.toJson_ne_null present)]
    exact settled.map some passed free read

theorem readItems_settled {α : Type} {reader : Json.Reader α} (settled : IsSettled reader)
    {depth : Nat} {items : List Json} {values : List Value} {found : List α}
    (passed : Value.ofItems? depth items = some values) (free : Value.FloatFreeItems values)
    (read : readItems reader depth items = some found) :
    readItems reader depth (Value.itemsToJson values) = some found := by
  induction items generalizing values found with
  | nil =>
      rw [Value.ofItems?] at passed
      cases passed
      rw [Value.itemsToJson]
      exact read
  | cons item rest ih =>
      rw [Value.ofItems?] at passed
      rw [readItems] at read
      split at passed
      · next value others passedItem passedRest =>
          cases passed
          split at read
          · next taken behind readItem readRest =>
              cases read
              rw [Value.FloatFreeItems] at free
              rw [Value.itemsToJson, readItems, settled passedItem free.1 readItem,
                ih passedRest free.2 readRest]
          · cases read
      · cases passed

theorem readList_settled {α : Type} {reader : Json.Reader α} (settled : IsSettled reader) :
    IsSettled (readList reader) := by
  intro depth json value found passed free read
  cases depth with
  | zero => cases read
  | succ depth =>
      cases json with
      | array items =>
          rw [Value.ofJson?] at passed
          obtain ⟨values, passedItems, rfl⟩ := Option.map_eq_some_iff.mp passed
          rw [Value.toJson]
          exact readItems_settled settled passedItems free.of_array read
      | _ => cases read

/-- The second member is what a pass makes of the first. -/
inductive Passes (depth : Nat) : Option Json → Option Json → Prop where
  | absent : Passes depth none none
  | held {json : Json} {value : Value} (read : Value.ofJson? depth json = some value)
      (free : value.FloatFree) : Passes depth (some json) (some value.toJson)

/-- The second members are, under each of the names, what a pass makes of the first. -/
structure Members.Mirrors (names : List String) (first second : Members) : Prop where
  depth : second.depth = first.depth
  entries : ∀ name ∈ names,
    Passes first.depth (first.entries.lookup name) (second.entries.lookup name)

/-- A known name is not repeated, so the last member of that name is the one that the typed reader
finds. -/
theorem lookup_ofMembers? {names : List String} {depth : Nat}
    {members : List (Option String × Json)} {found entries : List (String × Json)}
    {kept values : List (String × Value)}
    (known : knownMembers names found members = some entries)
    (passed : Value.ofMembers? depth kept members = some values)
    (same : ∀ name ∈ names,
      (found.lookup name).map (Value.ofJson? depth) = (kept.lookup name).map some) :
    ∀ name ∈ names,
      (entries.lookup name).map (Value.ofJson? depth) = (values.lookup name).map some := by
  induction members generalizing found kept with
  | nil =>
      rw [Value.ofMembers?] at passed
      cases passed
      cases known
      exact same
  | cons member rest ih =>
      obtain ⟨key, item⟩ := member
      rw [Value.ofMembers?.eq_def] at passed
      rw [knownMembers.eq_def] at known
      simp only at passed known
      split at passed
      · next name value passedItem =>
          simp only at known
          split at known
          · split at known
            · cases known
            · next fresh =>
                have absent : found.lookup name = none := by
                  rwa [Bool.not_eq_true, Option.isSome_eq_false_iff, Option.isNone_iff_eq_none]
                    at fresh
                apply ih known passed
                intro sought member
                by_cases here : sought = name
                · subst here
                  rw [List.lookup_append, absent, Value.lookup_insertMember_self, Option.none_or,
                    List.lookup_cons_self, Option.map_some, passedItem, Option.map_some]
                · rw [List.lookup_append, List.lookup_cons, beq_eq_false_iff_ne.mpr here,
                    Value.lookup_insertMember_of_ne here, List.lookup_nil, Option.or_none]
                  exact same sought member
          · next unknown =>
              apply ih known passed
              intro sought member
              have other : sought ≠ name := by
                rintro rfl
                exact unknown (List.contains_iff_mem.mpr member)
              rw [Value.lookup_insertMember_of_ne other]
              exact same sought member
      · cases passed

theorem passes_of_map {depth : Nat} {json : Option Json} {value : Option Value}
    (same : json.map (Value.ofJson? depth) = value.map some)
    (free : ∀ held, value = some held → held.FloatFree) :
    Passes depth json (value.map Value.toJson) := by
  cases json with
  | none =>
      cases value with
      | none => exact .absent
      | some value => cases same
  | some json =>
      cases value with
      | none => cases same
      | some value => exact .held (Option.some.inj same) (free value rfl)

theorem passes_zip (names : List String) {depth : Nat} {items : List Json} {values : List Value}
    (passed : Value.ofItems? depth items = some values) (free : Value.FloatFreeItems values)
    (name : String) :
    Passes depth ((names.zip items).lookup name)
      ((names.zip (Value.itemsToJson values)).lookup name) := by
  induction names generalizing items values with
  | nil => exact .absent
  | cons first names ih =>
      cases items with
      | nil =>
          rw [Value.ofItems?] at passed
          cases passed
          rw [Value.itemsToJson]
          exact .absent
      | cons item rest =>
          rw [Value.ofItems?] at passed
          split at passed
          · next value others passedItem passedRest =>
              cases passed
              rw [Value.FloatFreeItems] at free
              rw [Value.itemsToJson, List.zip_cons_cons, List.zip_cons_cons, List.lookup_cons,
                List.lookup_cons]
              cases name == first with
              | true => exact .held passedItem free.1
              | false => exact ih passedRest free.2
          · cases passed

theorem length_itemsToJson {depth : Nat} {items : List Json} {values : List Value}
    (passed : Value.ofItems? depth items = some values) :
    (Value.itemsToJson values).length = items.length := by
  induction items generalizing values with
  | nil =>
      rw [Value.ofItems?] at passed
      cases passed
      rw [Value.itemsToJson]
  | cons item rest ih =>
      rw [Value.ofItems?] at passed
      split at passed
      · next value others passedItem passedRest =>
          cases passed
          rw [Value.itemsToJson, List.length_cons, List.length_cons, ih passedRest]
      · cases passed

theorem readMembers_passed {names : List String} {depth : Nat} {json : Json} {value : Value}
    {members : Members} (passed : Value.ofJson? depth json = some value) (free : value.FloatFree)
    (read : readMembers names depth json = some members) :
    ∃ again, readMembers names depth value.toJson = some again ∧
      Members.Mirrors names members again := by
  cases depth with
  | zero => cases read
  | succ depth =>
      cases json with
      | object fields =>
          rw [Value.ofJson?] at passed
          obtain ⟨values, passedMembers, rfl⟩ := Option.map_eq_some_iff.mp passed
          obtain ⟨entries, known, rfl⟩ := Option.map_eq_some_iff.mp read
          have same := lookup_ofMembers? known passedMembers fun _ _ => rfl
          have sorted := (Value.of_ofMembers? depth fields [] values passedMembers
            List.Pairwise.nil (fun member known => absurd known List.not_mem_nil)).1
          have distinct : (([] ++ named names (Value.trees values)).map Prod.fst).Nodup :=
            sorted.nodup_trees.sublist (List.Sublist.map _ List.filter_sublist)
          refine ⟨⟨depth, named names (Value.trees values)⟩, ?_, rfl, fun name known => ?_⟩
          · rw [Value.toJson_object]
            change (knownMembers names [] _).map _ = _
            rw [knownMembers_map distinct]
            rfl
          · dsimp only
            rw [lookup_named known, Value.lookup_trees]
            exact passes_of_map (same name known) fun held => free.of_object.lookup
      | array items =>
          rw [Value.ofJson?] at passed
          obtain ⟨values, passedItems, rfl⟩ := Option.map_eq_some_iff.mp passed
          rw [readMembers] at read
          split at read
          · next few =>
              cases read
              refine ⟨⟨depth, names.zip (Value.itemsToJson values)⟩, ?_, rfl,
                fun name _ => passes_zip names passedItems free.of_array name⟩
              rw [Value.toJson, readMembers, if_pos]
              rw [length_itemsToJson passedItems]
              exact few
          · cases read
      | _ => cases read

/-! ### Records -/

/-- What is made of members is made of those behind the pass. -/
def Members.IsStable {α : Type} (names : List String) (build : Members → Option α) : Prop :=
  ∀ ⦃first second : Members⦄ ⦃found : α⦄,
    Members.Mirrors names first second → build first = some found → build second = some found

section Stable

variable {α β : Type} {names : List String} {reader : Json.Reader α}

theorem Members.stable_pure (value : α) : IsStable names fun _ => some value :=
  fun _ _ _ _ built => built

theorem Members.stable_bind {first : Members → Option α} {rest : α → Members → Option β}
    (start : IsStable names first) (behind : ∀ value, IsStable names (rest value)) :
    IsStable names fun members => (first members).bind fun value => rest value members := by
  intro before after found mirrors built
  obtain ⟨value, known, continued⟩ := Option.bind_eq_some_iff.mp built
  dsimp only
  rw [start mirrors known, Option.bind_some]
  exact behind value mirrors continued

theorem Members.stable_optional {name : String} (absent : α) (settled : IsSettled reader)
    (known : name ∈ names) :
    IsStable names fun members => members.optional name reader absent := by
  intro before after found mirrors built
  have entry := mirrors.entries name known
  unfold Members.optional at built ⊢
  dsimp only at built ⊢
  rw [mirrors.depth]
  generalize before.entries.lookup name = held at entry built
  generalize after.entries.lookup name = again at entry
  cases entry with
  | absent => exact built
  | held read free => exact settled read free built

theorem Members.stable_required {name : String} (settled : IsSettled reader)
    (known : name ∈ names) : IsStable names fun members => members.required name reader := by
  intro before after found mirrors built
  have entry := mirrors.entries name known
  unfold Members.required at built ⊢
  dsimp only at built ⊢
  rw [mirrors.depth]
  generalize before.entries.lookup name = held at entry built
  generalize after.entries.lookup name = again at entry
  cases entry with
  | absent => cases built
  | held read free => exact settled read free built

theorem record_settled {build : Members → Option α} (stable : Members.IsStable names build) :
    IsSettled fun depth json => (readMembers names depth json).bind build := by
  intro depth json value found passed free read
  obtain ⟨members, known, built⟩ := Option.bind_eq_some_iff.mp read
  obtain ⟨again, knownAgain, mirrors⟩ := readMembers_passed passed free known
  dsimp only
  rw [knownAgain, Option.bind_some]
  exact stable mirrors built

end Stable

end Json
end TronGateway
