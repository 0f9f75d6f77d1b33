import Mathlib.Data.Finset.Sort
import TronGateway.Memory
import TronGateway.Proofs.RefBlock
set_option autoImplicit false

/-!
# The ten highest blocks

Blocks are pushed in any order of height and as often as they are found. The ring then holds the ten
highest of all heights, in ascending order and each as it was pushed first. A height that has been
driven out, or was too low from the start, finds the ring full of higher ones whenever it comes
again, so that it never returns.
-/

namespace TronGateway.RefBlock

variable {blocks ring after : List RefBlock} {block : RefBlock}

/-- The ring after blocks have been pushed one after the other. -/
def pushAll (blocks : List RefBlock) : List RefBlock :=
  blocks.foldl push []

/-- The block that was pushed first among those of a height. -/
def first? (blocks : List RefBlock) (height : Int64) : Option RefBlock :=
  blocks.find? fun block => block.height = height

def heightsOf (blocks : List RefBlock) : List Int :=
  blocks.map fun block => block.height.toInt

/-- The heights of the blocks, each of them once and in ascending order. -/
def heights (blocks : List RefBlock) : List Int :=
  (heightsOf blocks).toFinset.sort

/-- The ten highest of the heights, or all of them when there are fewer. -/
def highest (blocks : List RefBlock) : List Int :=
  (heights blocks).drop ((heights blocks).length - 10)

theorem mem_heights {height : Int} : height ∈ heights blocks ↔ height ∈ heightsOf blocks := by
  unfold heights
  rw [Finset.mem_sort, List.mem_toFinset]

theorem pairwise_heights (blocks : List RefBlock) : (heights blocks).Pairwise (· < ·) :=
  (Finset.sortedLT_sort _).pairwise

theorem of_first? {height : Int64} (found : first? blocks height = some block) :
    block ∈ blocks ∧ block.height = height := by
  unfold first? at found
  have fits := List.find?_some found
  exact ⟨List.mem_of_find?_eq_some found, of_decide_eq_true fits⟩

theorem first?_eq_none_iff {height : Int64} :
    first? blocks height = none ↔ ∀ block ∈ blocks, block.height ≠ height := by
  unfold first?
  rw [List.find?_eq_none]
  simp only [decide_eq_true_eq, ne_eq]

theorem first?_concat (blocks : List RefBlock) (block : RefBlock) (height : Int64) :
    first? (blocks ++ [block]) height =
      (first? blocks height).or (if block.height = height then some block else none) := by
  unfold first?
  rw [List.find?_append, List.find?_singleton]
  by_cases same : block.height = height
  · rw [decide_eq_true same, if_pos same]
    rfl
  · rw [decide_eq_false same, if_neg same]
    rfl

def Ascending (ring : List RefBlock) : Prop :=
  ring.Pairwise fun lower higher => lower.height.toInt < higher.height.toInt

/-- The ring is the top of what has been pushed. -/
structure IsTop (blocks ring : List RefBlock) : Prop where
  ascending : Ascending ring
  capped : ring.length ≤ 10
  first : ∀ kept ∈ ring, first? blocks kept.height = some kept
  /-- A height that is missing lies below a ring that is full. -/
  above : ∀ block ∈ blocks, (∀ kept ∈ ring, kept.height ≠ block.height) →
    ring.length = 10 ∧ ∀ kept ∈ ring, block.height.toInt < kept.height.toInt

theorem isTop_nil : IsTop [] [] where
  ascending := List.Pairwise.nil
  capped := Nat.zero_le _
  first := nofun
  above := nofun

theorem ascending_grown {lower higher : List RefBlock} (ascending : Ascending (lower ++ higher))
    (under : ∀ other ∈ lower, other.height.toInt < block.height.toInt)
    (above : ∀ other ∈ higher.head?, block.height.toInt < other.height.toInt) :
    Ascending (lower ++ block :: higher) := by
  obtain ⟨lowerAscending, higherAscending, across⟩ := List.pairwise_append.mp ascending
  have beyond : ∀ other ∈ higher, block.height.toInt < other.height.toInt := by
    intro other member
    cases higher with
    | nil => cases member
    | cons next rest =>
        have start := above next rfl
        rcases List.mem_cons.mp member with rfl | later
        · exact start
        · exact Int.lt_trans start (List.rel_of_pairwise_cons higherAscending later)
  refine List.pairwise_append.mpr
    ⟨lowerAscending, List.pairwise_cons.mpr ⟨beyond, higherAscending⟩, ?_⟩
  intro first firstMember second secondMember
  rcases List.mem_cons.mp secondMember with rfl | later
  · exact under first firstMember
  · exact across first firstMember second later

namespace IsTop

theorem of_known (top : IsTop blocks ring) {other : RefBlock} (known : other ∈ ring)
    (same : other.height = block.height) : IsTop (blocks ++ [block]) ring where
  ascending := top.ascending
  capped := top.capped
  first kept member := by rw [first?_concat, top.first kept member, Option.some_or]
  above := by
    intro missing member absent
    rcases List.mem_append.mp member with earlier | last
    · exact top.above missing earlier absent
    · cases List.mem_singleton.mp last
      exact absurd same (absent other known)

/-- A block that stays in the ring is the first one of its height: another one would have found
room as well. -/
theorem unseen (top : IsTop blocks ring) (fresh : ∀ other ∈ ring, other.height ≠ block.height)
    (stays : ring.length < 10 ∨ ∃ other ∈ ring, other.height.toInt < block.height.toInt) :
    first? blocks block.height = none := by
  rw [first?_eq_none_iff]
  intro earlier member same
  rw [← same] at fresh stays
  obtain ⟨full, beyond⟩ := top.above earlier member fresh
  rcases stays with room | ⟨other, kept, under⟩
  · omega
  · have := beyond other kept
    omega

theorem first_grown (top : IsTop blocks ring) (unseen : first? blocks block.height = none) :
    ∀ kept, kept = block ∨ kept ∈ ring → first? (blocks ++ [block]) kept.height = some kept := by
  rintro kept (rfl | member)
  · rw [first?_concat, unseen, if_pos rfl, Option.none_or]
  · rw [first?_concat, top.first kept member, Option.some_or]

theorem of_room (top : IsTop blocks ring) (room : ring.length < 10)
    (fresh : ∀ other ∈ ring, other.height ≠ block.height) {lower higher : List RefBlock}
    (split : ring = lower ++ higher) (ascending : Ascending (lower ++ block :: higher)) :
    IsTop (blocks ++ [block]) (lower ++ block :: higher) where
  ascending := ascending
  capped := by
    rw [split, List.length_append] at room
    rw [List.length_append, List.length_cons]
    omega
  first kept member := by
    apply top.first_grown (top.unseen fresh (.inl room))
    rw [split]
    exact List.mem_cons.mp (List.perm_middle.mem_iff.mp member)
  above := by
    intro missing member absent
    rcases List.mem_append.mp member with earlier | last
    · have gone : ∀ kept ∈ ring, kept.height ≠ missing.height := by
        intro kept stayed
        rw [split] at stayed
        exact absent kept (List.perm_middle.mem_iff.mpr (List.mem_cons_of_mem _ stayed))
      have full := (top.above missing earlier gone).1
      omega
    · cases List.mem_singleton.mp last
      exact absurd rfl (absent block (List.mem_append_right _ List.mem_cons_self))

theorem of_low (top : IsTop blocks ring) (full : ring.length = 10)
    (low : ∀ kept ∈ ring, block.height.toInt < kept.height.toInt) :
    IsTop (blocks ++ [block]) ring where
  ascending := top.ascending
  capped := top.capped
  first kept member := by rw [first?_concat, top.first kept member, Option.some_or]
  above := by
    intro missing member absent
    rcases List.mem_append.mp member with earlier | last
    · exact top.above missing earlier absent
    · cases List.mem_singleton.mp last
      exact ⟨full, low⟩

theorem of_driven {lowest : RefBlock} {lower higher : List RefBlock}
    (top : IsTop blocks (lowest :: (lower ++ higher)))
    (full : (lowest :: (lower ++ higher)).length = 10)
    (fresh : ∀ other ∈ lowest :: (lower ++ higher), other.height ≠ block.height)
    (ascending : Ascending (lowest :: (lower ++ block :: higher))) :
    IsTop (blocks ++ [block]) (lower ++ block :: higher) := by
  have rises : ∀ kept ∈ lower ++ block :: higher,
      lowest.height.toInt < kept.height.toInt :=
    fun kept member => List.rel_of_pairwise_cons ascending member
  have enters := rises block (List.mem_append_right _ List.mem_cons_self)
  have length : (lower ++ block :: higher).length = 10 := by
    rw [List.length_cons, List.length_append] at full
    rw [List.length_append, List.length_cons]
    omega
  exact {
    ascending := (List.pairwise_cons.mp ascending).2
    capped := Nat.le_of_eq length
    first := by
      intro kept member
      apply top.first_grown (top.unseen fresh (.inr ⟨lowest, List.mem_cons_self, enters⟩))
      rcases List.mem_cons.mp (List.perm_middle.mem_iff.mp member) with same | stayed
      · exact .inl same
      · exact .inr (List.mem_cons_of_mem _ stayed)
    above := by
      intro missing member absent
      refine ⟨length, ?_⟩
      rcases List.mem_append.mp member with earlier | last
      · by_cases driven : lowest.height = missing.height
        · rw [← driven]
          exact rises
        · have gone : ∀ kept ∈ lowest :: (lower ++ higher), kept.height ≠ missing.height := by
            intro kept stayed
            rcases List.mem_cons.mp stayed with rfl | behind
            · exact driven
            · exact absent kept (List.perm_middle.mem_iff.mpr (List.mem_cons_of_mem _ behind))
          have below := (top.above missing earlier gone).2 lowest List.mem_cons_self
          exact fun kept member => Int.lt_trans below (rises kept member)
      · cases List.mem_singleton.mp last
        exact absurd rfl (absent block (List.mem_append_right _ List.mem_cons_self)) }

theorem of_gains (top : IsTop blocks ring)
    (fresh : ∀ other ∈ ring, other.height ≠ block.height) (gains : Gains ring block after) :
    IsTop (blocks ++ [block]) after := by
  obtain ⟨lower, higher, rfl, under, above, rfl⟩ := gains
  have ascending := ascending_grown top.ascending under above
  by_cases room : (lower ++ higher).length < 10
  · have none : (lower ++ higher).length + 1 - 10 = 0 := by omega
    rw [none, List.drop_zero]
    exact top.of_room room fresh rfl ascending
  · have full : (lower ++ higher).length = 10 := Nat.le_antisymm top.capped (by omega)
    rw [full]
    cases lower with
    | nil => exact top.of_low full fun kept member => List.rel_of_pairwise_cons ascending member
    | cons lowest lower => exact top.of_driven full fresh ascending

theorem push (top : IsTop blocks ring) (block : RefBlock) :
    IsTop (blocks ++ [block]) (push ring block) := by
  by_cases known : ∃ other ∈ ring, other.height = block.height
  · obtain ⟨other, member, same⟩ := known
    rw [push_of_known member same]
    exact top.of_known member same
  · have fresh : ∀ other ∈ ring, other.height ≠ block.height :=
      fun other member same => known ⟨other, member, same⟩
    exact top.of_gains fresh (gains_push fresh)

end IsTop

theorem pushAll_concat (blocks : List RefBlock) (block : RefBlock) :
    pushAll (blocks ++ [block]) = push (pushAll blocks) block :=
  List.foldl_concat ..

theorem isTop_pushAll (blocks : List RefBlock) : IsTop blocks (pushAll blocks) := by
  induction blocks using List.reverseRecOn with
  | nil => exact isTop_nil
  | append_singleton blocks block ih =>
      rw [pushAll_concat]
      exact ih.push block

/-! ### What the top is -/

namespace IsTop

theorem full_above (top : IsTop blocks ring) {height : Int} (pushed : height ∈ heightsOf blocks)
    (missing : height ∉ heightsOf ring) :
    ring.length = 10 ∧ ∀ other ∈ heightsOf ring, height < other := by
  obtain ⟨block, member, rfl⟩ := List.mem_map.mp pushed
  have absent : ∀ other ∈ ring, other.height ≠ block.height := by
    intro other stayed same
    exact missing (List.mem_map.mpr ⟨other, stayed, congrArg Int64.toInt same⟩)
  obtain ⟨full, beyond⟩ := top.above block member absent
  exact ⟨full, List.forall_mem_map.mpr beyond⟩

theorem subset_heights (top : IsTop blocks ring) {height : Int} (kept : height ∈ heightsOf ring) :
    height ∈ heights blocks := by
  obtain ⟨block, inRing, rfl⟩ := List.mem_map.mp kept
  exact mem_heights.mpr (List.mem_map_of_mem (of_first? (top.first block inRing)).1)

theorem heights_eq (top : IsTop blocks ring) :
    heights blocks = (heights blocks).filter (· ∉ heightsOf ring) ++ heightsOf ring := by
  have ascending : (heightsOf ring).Pairwise (· < ·) := List.pairwise_map.mpr top.ascending
  have joined : ((heights blocks).filter (· ∉ heightsOf ring) ++ heightsOf ring).Pairwise
      (· < ·) := by
    refine List.pairwise_append.mpr ⟨(pairwise_heights blocks).filter _, ascending, ?_⟩
    intro height member other kept
    obtain ⟨pushed, missing⟩ := List.mem_filter.mp member
    exact (top.full_above (mem_heights.mp pushed) (of_decide_eq_true missing)).2 other kept
  refine (pairwise_heights blocks).eq_of_mem_iff joined fun height => ?_
  rw [List.mem_append, List.mem_filter, decide_eq_true_eq]
  constructor
  · intro pushed
    by_cases kept : height ∈ heightsOf ring
    · exact .inr kept
    · exact .inl ⟨pushed, kept⟩
  · rintro (⟨pushed, -⟩ | kept)
    · exact pushed
    · exact top.subset_heights kept

theorem heightsOf_eq (top : IsTop blocks ring) : heightsOf ring = highest blocks := by
  have split := top.heights_eq
  have length : (heightsOf ring).length = ring.length := List.length_map _
  have capped := top.capped
  unfold highest
  cases gone : (heights blocks).filter (· ∉ heightsOf ring) with
  | nil =>
      rw [gone, List.nil_append] at split
      have none : ring.length - 10 = 0 := by omega
      rw [split, length, none, List.drop_zero]
  | cons lowest others =>
      -- Something is missing, so that the ring is full.
      obtain ⟨pushed, missing⟩ := List.mem_filter.mp (gone ▸ List.mem_cons_self)
      have full := (top.full_above (mem_heights.mp pushed) (of_decide_eq_true missing)).1
      rw [gone] at split
      rw [split, List.length_append, length, full, Nat.add_sub_cancel, List.drop_left]

theorem map_some (top : IsTop blocks ring) :
    ring.map some = (ring.map RefBlock.height).map (first? blocks) := by
  rw [List.map_map]
  exact List.map_congr_left fun kept member => (top.first kept member).symm

end IsTop

def AgreeOnHeights (blocks : List RefBlock) : Prop :=
  ∀ block ∈ blocks, ∀ other ∈ blocks, block.height = other.height → block = other

theorem heights_congr {others : List RefBlock} (same : ∀ block, block ∈ others ↔ block ∈ blocks) :
    heights others = heights blocks := by
  refine (pairwise_heights others).eq_of_mem_iff (pairwise_heights blocks) fun height => ?_
  rw [mem_heights, mem_heights]
  unfold heightsOf
  simp only [List.mem_map, same]

theorem first?_congr {others : List RefBlock} (agree : AgreeOnHeights blocks)
    (same : ∀ block, block ∈ others ↔ block ∈ blocks) : first? others = first? blocks := by
  funext height
  cases found : first? others height with
  | none =>
      have missing : ∀ block ∈ blocks, block.height ≠ height :=
        fun block member => first?_eq_none_iff.mp found block ((same block).mpr member)
      exact (first?_eq_none_iff.mpr missing).symm
  | some block =>
      obtain ⟨member, rfl⟩ := of_first? found
      cases seen : first? blocks block.height with
      | none => exact absurd rfl (first?_eq_none_iff.mp seen block ((same block).mp member))
      | some other =>
          obtain ⟨otherMember, sameHeight⟩ := of_first? seen
          rw [agree other otherMember block ((same block).mp member) sameHeight]

/-- The blocks alone decide the ring, if a height always comes with one block. -/
theorem pushAll_congr {others : List RefBlock} (agree : AgreeOnHeights blocks)
    (same : ∀ block, block ∈ others ↔ block ∈ blocks) : pushAll others = pushAll blocks := by
  have top := isTop_pushAll blocks
  have otherTop := isTop_pushAll others
  have values : heightsOf (pushAll others) = heightsOf (pushAll blocks) := by
    rw [top.heightsOf_eq, otherTop.heightsOf_eq]
    unfold highest
    rw [heights_congr same]
  have injective : Function.Injective (List.map Int64.toInt) :=
    List.map_injective_iff.mpr fun _ _ => Int64.toInt_inj.mp
  have places : (pushAll others).map RefBlock.height = (pushAll blocks).map RefBlock.height := by
    apply injective
    rw [List.map_map, List.map_map]
    exact values
  apply List.map_injective_iff.mpr (Option.some_injective RefBlock)
  rw [top.map_some, otherTop.map_some, places, first?_congr agree same]

/-! ### The ring of the scanner -/

def candidate? : Change → Option RefBlock
  | .candidate block => some block
  | _ => none

/-- The ring in the memory is made of pushes, whatever else is remembered in between. -/
theorem ring_applyAll (changes : List Change) :
    (changes.foldl Memory.apply .initial).ring = pushAll (changes.filterMap candidate?) := by
  induction changes using List.reverseRecOn with
  | nil => rfl
  | append_singleton changes change ih =>
      rw [List.foldl_concat, List.filterMap_append]
      cases change with
      | candidate block =>
          change push (changes.foldl Memory.apply .initial).ring block = pushAll (_ ++ [block])
          rw [pushAll_concat, ih]
      | _ =>
          rw [← List.append_nil (changes.filterMap candidate?)] at ih
          exact ih

/-- After any pushes the ring is in ascending order, and it holds the ten highest of all heights, or
all of them when there are fewer, and each with the block that was pushed first. So neither the
order of the pushes nor their repetition matters, if a height always comes with one block. The ring
that the scanner remembers is of that kind at any time. -/
theorem pushAll_is_top (blocks : List RefBlock) :
    Ascending (pushAll blocks) ∧ (pushAll blocks).length ≤ 10 ∧
    heightsOf (pushAll blocks) = highest blocks ∧
    (∀ kept ∈ pushAll blocks, first? blocks kept.height = some kept) ∧
    (AgreeOnHeights blocks → ∀ others, (∀ block, block ∈ others ↔ block ∈ blocks) →
      pushAll others = pushAll blocks) ∧
    ∀ changes : List Change, changes.filterMap candidate? = blocks →
      (changes.foldl Memory.apply .initial).ring = pushAll blocks := by
  have top := isTop_pushAll blocks
  refine ⟨top.ascending, top.capped, top.heightsOf_eq, top.first,
    fun agree others same => pushAll_congr agree same, ?_⟩
  rintro changes rfl
  exact ring_applyAll changes

/-! Two blocks in either order, one of them again, and a height that was driven out. -/

def lowBlock : RefBlock where
  timestamp := 1738705485000
  height := 68975025
  id := "41c79b1"

def highBlock : RefBlock where
  timestamp := 1738705560000
  height := 68975050
  id := "41c79ca"

theorem pushAll_is_top_backwards :
    AgreeOnHeights [lowBlock, highBlock] ∧
      pushAll [highBlock, lowBlock, highBlock] = pushAll [lowBlock, highBlock] := by
  have agree : AgreeOnHeights [lowBlock, highBlock] := by
    unfold AgreeOnHeights
    decide
  have same (block : RefBlock) :
      block ∈ [highBlock, lowBlock, highBlock] ↔ block ∈ [lowBlock, highBlock] := by
    simp only [List.mem_cons, List.not_mem_nil, or_false]
    exact or_iff_right_of_imp .inr
  obtain ⟨-, -, -, -, alike, -⟩ := pushAll_is_top [lowBlock, highBlock]
  exact ⟨agree, alike agree _ same⟩

example : heightsOf (pushAll ([20, 10, 30, 40, 50, 60, 70, 80, 90, 100, 110, 10, 110].map
    fun height => ⟨0, height, ""⟩)) = [20, 30, 40, 50, 60, 70, 80, 90, 100, 110] := by
  decide

end TronGateway.RefBlock
