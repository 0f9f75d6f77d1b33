import TronGateway.Json.Decode
import TronGateway.Proofs.Json.Value
set_option autoImplicit false

/-!
# Reading back records

A record whose members are written under known names, each once, is read as those members, and each
reader of a single value reads what is written for it.
-/

namespace TronGateway.Json

@[simp] theorem readText_ofText (depth : Nat) (content : String) :
    readText depth (ofText content) = some content :=
  rfl

@[simp] theorem readBool_bool (depth : Nat) (value : Bool) :
    readBool depth (.bool value) = some value :=
  rfl

theorem readBetween_ofInt {low high n : Int} (depth : Nat) (above : low ≤ n) (below : n ≤ high) :
    readBetween low high depth (ofInt n) = some n := by
  unfold readBetween ofInt
  simp only [Numeral.toInt?_ofInt, if_pos (And.intro above below)]

@[simp] theorem readInt64_ofInt (depth : Nat) (n : Int64) :
    readInt64 depth (ofInt n.toInt) = some n := by
  have above := n.le_toInt
  have below := n.toInt_lt
  unfold readInt64
  rw [readBetween_ofInt depth (by omega) (by omega), Option.map_some, Int64.ofInt_toInt]

@[simp] theorem readInt32_ofInt (depth : Nat) (n : Int32) :
    readInt32 depth (ofInt n.toInt) = some n := by
  have above := n.le_toInt
  have below := n.toInt_lt
  unfold readInt32
  rw [readBetween_ofInt depth (by omega) (by omega), Option.map_some, Int32.ofInt_toInt]

@[simp] theorem readUInt64_ofInt (depth : Nat) (n : UInt64) :
    readUInt64 depth (ofInt n.toNat) = some n := by
  have below := n.toNat_lt
  unfold readUInt64
  rw [readBetween_ofInt depth (by omega) (by omega), Option.map_some, Int.toNat_natCast,
    UInt64.ofNat_toNat]

@[simp] theorem readUInt32_ofInt (depth : Nat) (n : UInt32) :
    readUInt32 depth (ofInt n.toNat) = some n := by
  have below := n.toNat_lt
  unfold readUInt32
  rw [readBetween_ofInt depth (by omega) (by omega), Option.map_some, Int.toNat_natCast,
    UInt32.ofNat_toNat]

@[simp] theorem readNullable_ofText {α : Type} (reader : Json.Reader α) (depth : Nat)
    (content : String) :
    readNullable reader depth (ofText content) = (reader depth (ofText content)).map some :=
  rfl

@[simp] theorem readNullable_bool {α : Type} (reader : Json.Reader α) (depth : Nat)
    (value : Bool) :
    readNullable reader depth (.bool value) = (reader depth (.bool value)).map some :=
  rfl

@[simp] theorem readNullable_ofInt {α : Type} (reader : Json.Reader α) (depth : Nat) (n : Int) :
    readNullable reader depth (ofInt n) = (reader depth (ofInt n)).map some :=
  rfl

theorem readItems_map {α : Type} {reader : Json.Reader α} {write : α → Json} {depth : Nat}
    {items : List α} (known : ∀ item ∈ items, reader depth (write item) = some item) :
    readItems reader depth (items.map write) = some items := by
  induction items with
  | nil => rfl
  | cons item rest ih =>
      rw [List.map_cons, readItems, known item List.mem_cons_self,
        ih fun other member => known other (List.mem_cons_of_mem item member)]

theorem readList_ofList {α : Type} {reader : Json.Reader α} {write : α → Json} {depth : Nat}
    {items : List α} (known : ∀ item ∈ items, reader depth (write item) = some item) :
    readList reader (depth + 1) (ofList write items) = some items :=
  readItems_map known

/-! ### Records -/

theorem lookup_eq_none {members : List (String × Json)} {name : String}
    (absent : name ∉ members.map Prod.fst) : members.lookup name = none := by
  rw [List.lookup_eq_none_iff]
  intro member known
  simp only [bne_iff_ne]
  intro same
  exact absent (List.mem_map.mpr ⟨member, known, same.symm⟩)

def named {α : Type} (names : List String) (members : List (String × α)) : List (String × α) :=
  members.filter fun member => names.contains member.1

theorem named_cons_of_mem {α : Type} {names : List String} {member : String × α}
    {rest : List (String × α)} (known : member.1 ∈ names) :
    named names (member :: rest) = member :: named names rest :=
  List.filter_cons_of_pos (List.contains_iff_mem.mpr known)

theorem named_cons_of_not_mem {α : Type} {names : List String} {member : String × α}
    {rest : List (String × α)} (unknown : member.1 ∉ names) :
    named names (member :: rest) = named names rest :=
  List.filter_cons_of_neg fun known => unknown (List.contains_iff_mem.mp known)

theorem lookup_named {α : Type} {names : List String} {name : String} (known : name ∈ names)
    (members : List (String × α)) : (named names members).lookup name = members.lookup name := by
  induction members with
  | nil => rfl
  | cons member rest ih =>
      obtain ⟨other, item⟩ := member
      by_cases inside : other ∈ names
      · rw [named_cons_of_mem inside, List.lookup_cons, List.lookup_cons, ih]
      · have different : (name == other) = false := by
          rw [beq_eq_false_iff_ne]
          intro same
          exact inside (same ▸ known)
        rw [named_cons_of_not_mem inside, List.lookup_cons, different, ih]

theorem knownMembers_map {names : List String} {found members : List (String × Json)}
    (distinct : ((found ++ named names members).map Prod.fst).Nodup) :
    knownMembers names found (members.map fun member => (some member.1, member.2)) =
      some (found ++ named names members) := by
  induction members generalizing found with
  | nil =>
      change some found = some (found ++ [])
      rw [List.append_nil]
  | cons member rest ih =>
      obtain ⟨name, item⟩ := member
      rw [List.map_cons, knownMembers]
      by_cases known : name ∈ names
      · have same : found ++ (name, item) :: named names rest =
            (found ++ [(name, item)]) ++ named names rest := by
          rw [List.append_assoc]
          rfl
        rw [named_cons_of_mem known] at distinct ⊢
        have fresh : name ∉ found.map Prod.fst := by
          intro before
          rw [List.map_append, List.nodup_append] at distinct
          exact distinct.2.2 name before name List.mem_cons_self rfl
        simp only [List.contains_iff_mem.mpr known, if_true, lookup_eq_none fresh,
          Option.isSome_none, Bool.false_eq_true, if_false]
        rw [same] at distinct ⊢
        exact ih distinct
      · rw [named_cons_of_not_mem known] at distinct ⊢
        simp only [List.contains_iff_mem, known, if_false]
        exact ih distinct

/-- Members under some of the known names, in the order of the names, are read back. -/
theorem readMembers_ofMembers {names : List String} {members : List (String × Json)} (depth : Nat)
    (distinct : names.Nodup) (known : (members.map Prod.fst).Sublist names) :
    readMembers names (depth + 1) (ofMembers members) = some ⟨depth, members⟩ := by
  have all : named names members = members := by
    apply List.filter_eq_self.mpr
    intro member inside
    exact List.contains_iff_mem.mpr (known.subset (List.mem_map.mpr ⟨member, inside, rfl⟩))
  have fresh : (([] ++ named names members).map Prod.fst).Nodup := by
    rw [all]
    exact distinct.sublist known
  change (knownMembers names [] _).map _ = _
  rw [knownMembers_map fresh, all]
  rfl

theorem readMembers_of_unknown {names : List String} {members : List (String × Json)} (depth : Nat)
    (unknown : ∀ member ∈ members, member.1 ∉ names) :
    readMembers names (depth + 1) (ofMembers members) = some ⟨depth, []⟩ := by
  have none : named names members = [] := by
    apply List.filter_eq_nil_iff.mpr
    intro member inside known
    exact unknown member inside (List.contains_iff_mem.mp known)
  have fresh : (([] ++ named names members).map Prod.fst).Nodup := by
    rw [none]
    exact List.nodup_nil
  change (knownMembers names [] _).map _ = _
  rw [knownMembers_map fresh, none]
  rfl

theorem isSpelled_ofText (content : String) : (ofText content).IsSpelled := by
  rw [ofText, IsSpelled]
  rfl

theorem isSpelled_bool (value : Bool) : (bool value).IsSpelled := by
  rw [IsSpelled]
  trivial

theorem isSpelled_ofInt (n : Int) : (ofInt n).IsSpelled := by
  rw [ofInt, IsSpelled]
  exact Numeral.isSpelled_ofInt n

theorem isSpelled_ofList {α : Type} {write : α → Json} {items : List α}
    (known : ∀ item ∈ items, (write item).IsSpelled) : (ofList write items).IsSpelled := by
  rw [ofList, IsSpelled]
  induction items with
  | nil =>
      rw [List.map_nil, AreSpelled]
      trivial
  | cons item rest ih =>
      rw [List.map_cons, AreSpelled]
      exact ⟨known item List.mem_cons_self,
        ih fun other member => known other (List.mem_cons_of_mem item member)⟩

theorem isSpelled_ofMembers {members : List (String × Json)}
    (known : ∀ member ∈ members, member.2.IsSpelled) : (ofMembers members).IsSpelled := by
  rw [ofMembers, IsSpelled]
  induction members with
  | nil =>
      rw [List.map_nil, AreSpelledMembers]
      trivial
  | cons member rest ih =>
      rw [List.map_cons, AreSpelledMembers]
      exact ⟨rfl, known member List.mem_cons_self,
        ih fun other inside => known other (List.mem_cons_of_mem member inside)⟩

theorem Members.required_of_lookup {α : Type} {members : Members} {name : String} (json : Json)
    (reader : Json.Reader α) (held : members.entries.lookup name = some json) :
    members.required name reader = reader members.depth json := by
  unfold Members.required
  rw [held]

theorem Members.optional_of_lookup {α : Type} {members : Members} {name : String} (json : Json)
    (reader : Json.Reader α) (absent : α) (held : members.entries.lookup name = some json) :
    members.optional name reader absent = reader members.depth json := by
  unfold Members.optional
  rw [held]

/-- A member that is written when there is a value is read back as the value or its absence. -/
theorem Members.optional_of_map {α : Type} {members : Members} {name : String} {write : α → Json}
    {value : Option α} (reader : Json.Reader (Option α))
    (held : members.entries.lookup name = value.map write)
    (known : ∀ inner, reader members.depth (write inner) = some (some inner)) :
    members.optional name reader none = some value := by
  unfold Members.optional
  rw [held]
  cases value with
  | none => rfl
  | some inner => exact known inner

theorem Members.optional_of_ite {α : Type} {members : Members} {name : String} {value absent : α}
    {json : Json} (left : Prop) [Decidable left] (reader : Json.Reader α)
    (held : members.entries.lookup name = if left then none else some json)
    (default : left → value = absent) (known : reader members.depth json = some value) :
    members.optional name reader absent = some value := by
  unfold Members.optional
  rw [held]
  by_cases out : left
  · rw [if_pos out, default out]
  · rw [if_neg out]
    exact known

end TronGateway.Json
