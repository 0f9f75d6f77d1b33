import Mathlib.Data.List.DropRight
import TronGateway.Proofs.RefBlock.Ring
set_option autoImplicit false

/-!
# The choice of a reference block

Of the ring, the blocks up to the last one that is older than the transaction count. The choice is
the second last of them, or the first block when there are fewer than two. A later transaction has
no fewer blocks that count, so that the choice only moves forward. Where the timestamps do not
decrease, the blocks that count are the older ones, and the newest of them stands behind the choice.
-/

namespace TronGateway.RefBlock

variable {ring : List RefBlock} {stamp later : Int64}

def isOlder (stamp : Int64) (block : RefBlock) : Bool := block.timestamp < stamp

/-- The ring up to its last block that is older than `stamp`. -/
def counting (ring : List RefBlock) (stamp : Int64) : List RefBlock :=
  ring.rdropWhile fun block => !isOlder stamp block

def beyond (ring : List RefBlock) (stamp : Int64) : List RefBlock :=
  ring.rtakeWhile fun block => !isOlder stamp block

/-- The position of the choice in the ring. -/
def place (ring : List RefBlock) (stamp : Int64) : Nat :=
  (counting ring stamp).length - 2

/-- The timestamps of the ring do not decrease. -/
def Chronological (ring : List RefBlock) : Prop :=
  ring.Pairwise fun lower higher => lower.timestamp.toInt ≤ higher.timestamp.toInt

theorem isOlder_iff {block : RefBlock} :
    isOlder stamp block = true ↔ block.timestamp.toInt < stamp.toInt := by
  unfold isOlder
  rw [decide_eq_true_iff, Int64.lt_iff_toInt_lt]

theorem counting_isPrefix (ring : List RefBlock) (stamp : Int64) : counting ring stamp <+: ring :=
  List.rdropWhile_prefix _ ring

theorem counting_append_beyond (ring : List RefBlock) (stamp : Int64) :
    counting ring stamp ++ beyond ring stamp = ring :=
  List.rdropWhile_append_rtakeWhile

theorem counting_concat (ring : List RefBlock) (block : RefBlock) (stamp : Int64) :
    counting (ring ++ [block]) stamp =
      if isOlder stamp block then ring ++ [block] else counting ring stamp := by
  unfold counting
  rw [List.rdropWhile_concat]
  cases isOlder stamp block <;> rfl

theorem isOlder_mono (grows : stamp ≤ later) {block : RefBlock} (older : isOlder stamp block) :
    isOlder later block := by
  rw [Int64.le_iff_toInt_le] at grows
  rw [isOlder_iff] at older ⊢
  omega

theorem length_counting_mono (grows : stamp ≤ later) (ring : List RefBlock) :
    (counting ring stamp).length ≤ (counting ring later).length := by
  induction ring using List.reverseRecOn with
  | nil => simp only [counting, List.rdropWhile_nil, Nat.le_refl]
  | append_singleton rest block ih =>
      rw [counting_concat, counting_concat]
      by_cases older : isOlder stamp block
      · rw [if_pos older, if_pos (isOlder_mono grows older)]
      · rw [if_neg older]
        by_cases olderLater : isOlder later block
        · have within := (counting_isPrefix rest stamp).length_le
          rw [if_pos olderLater, List.length_append]
          omega
        · rw [if_neg olderLater]
          exact ih

theorem lastIndex?_concat (condition : RefBlock → Bool) (index : Nat) (found : Option Nat)
    (ring : List RefBlock) (block : RefBlock) :
    lastIndex? condition index found (ring ++ [block]) =
      if condition block then some (index + ring.length)
      else lastIndex? condition index found ring := by
  induction ring generalizing index found with
  | nil => rfl
  | cons first rest ih =>
      rw [List.cons_append, lastIndex?, lastIndex?, ih, List.length_cons]
      simp only [Nat.add_assoc, Nat.add_comm 1]

theorem lastIndex?_eq (ring : List RefBlock) (stamp : Int64) :
    lastIndex? (isOlder stamp) 0 none ring =
      if counting ring stamp = [] then none else some ((counting ring stamp).length - 1) := by
  induction ring using List.reverseRecOn with
  | nil => rfl
  | append_singleton rest block ih =>
      rw [lastIndex?_concat, counting_concat]
      by_cases older : isOlder stamp block
      · have some_block : rest ++ [block] ≠ [] := List.concat_ne_nil block rest
        rw [if_pos older, if_pos older, if_neg some_block, List.length_append, Nat.zero_add]
        rfl
      · rw [if_neg older, if_neg older, ih]

theorem select_eq (ring : List RefBlock) (stamp : Int64) :
    select ring stamp = ring[place ring stamp]? := by
  have last : lastIndex? (fun block => block.timestamp < stamp) 0 none ring = _ :=
    lastIndex?_eq ring stamp
  unfold select place
  by_cases none_older : counting ring stamp = []
  · rw [if_pos none_older] at last
    rw [last, none_older, List.head?_eq_getElem?]
    rfl
  · rw [if_neg none_older] at last
    rw [last]
    rfl

theorem place_lt (filled : ring ≠ []) (stamp : Int64) : place ring stamp < ring.length := by
  have within := (counting_isPrefix ring stamp).length_le
  have positive := List.length_pos_iff.mpr filled
  unfold place
  omega

theorem place_mono (grows : stamp ≤ later) (ring : List RefBlock) :
    place ring stamp ≤ place ring later :=
  Nat.sub_le_sub_right (length_counting_mono grows ring) 2

theorem select_eq_none_iff (ring : List RefBlock) (stamp : Int64) :
    select ring stamp = none ↔ ring = [] := by
  rw [select_eq, List.getElem?_eq_none_iff]
  constructor
  · intro outside
    by_contra filled
    have inside := place_lt filled stamp
    omega
  · intro empty
    rw [empty]
    exact Nat.zero_le _

theorem mem_of_select {block : RefBlock} (selected : select ring stamp = some block) :
    block ∈ ring := by
  rw [select_eq] at selected
  exact List.mem_of_getElem? selected

theorem height_mono (ascending : Ascending ring) (grows : stamp ≤ later)
    {block other : RefBlock} (selected : select ring stamp = some block)
    (selectedLater : select ring later = some other) :
    block.height.toInt ≤ other.height.toInt := by
  rw [select_eq] at selected selectedLater
  obtain ⟨inside, rfl⟩ := List.getElem?_eq_some_iff.mp selected
  obtain ⟨insideLater, rfl⟩ := List.getElem?_eq_some_iff.mp selectedLater
  rcases Nat.lt_or_eq_of_le (place_mono grows ring) with ahead | same
  · exact Int.le_of_lt (List.pairwise_iff_getElem.mp ascending _ _ inside insideLater ahead)
  · simp only [same, Int.le_refl]

/-! ### Timestamps that do not decrease -/

theorem not_isOlder_beyond {block : RefBlock} (member : block ∈ beyond ring stamp) :
    ¬ isOlder stamp block := by
  have behind := List.mem_rtakeWhile_imp member
  simp only [Bool.not_eq_eq_eq_not, Bool.not_true] at behind
  simp only [behind, Bool.false_eq_true, not_false_eq_true]

theorem countP_beyond (ring : List RefBlock) (stamp : Int64) :
    (beyond ring stamp).countP (isOlder stamp) = 0 :=
  List.countP_eq_zero.mpr fun _ member => not_isOlder_beyond member

theorem isOlder_counting (chronological : Chronological ring) {block : RefBlock}
    (member : block ∈ counting ring stamp) : isOlder stamp block := by
  have filled : counting ring stamp ≠ [] := List.ne_nil_of_mem member
  have lastOlder : ¬ (!isOlder stamp ((counting ring stamp).getLast filled)) :=
    List.rdropWhile_last_not _ _ filled
  rw [Bool.not_eq_true, Bool.not_eq_false', isOlder_iff] at lastOlder
  have sorted : Chronological (counting ring stamp) :=
    chronological.sublist (counting_isPrefix ring stamp).sublist
  have before := sorted.rel_getLast_of_rel_getLast_getLast member (Int.le_refl _)
  rw [isOlder_iff]
  omega

theorem length_counting (chronological : Chronological ring) :
    (counting ring stamp).length = ring.countP (isOlder stamp) := by
  have older : ∀ block ∈ counting ring stamp, isOlder stamp block :=
    fun block => isOlder_counting chronological
  have each := List.countP_eq_length.mpr older
  calc (counting ring stamp).length
      = (counting ring stamp).countP (isOlder stamp) := each.symm
    _ = (counting ring stamp ++ beyond ring stamp).countP (isOlder stamp) := by
        rw [List.countP_append, countP_beyond, Nat.add_zero]
    _ = ring.countP (isOlder stamp) := by rw [counting_append_beyond]

theorem place_lt_counting (someOlder : ∃ block ∈ ring, isOlder stamp block) :
    place ring stamp < (counting ring stamp).length := by
  have filled : counting ring stamp ≠ [] := by
    intro none_counts
    obtain ⟨block, member, older⟩ := someOlder
    have newer := List.rdropWhile_eq_nil_iff.mp none_counts block member
    rw [older] at newer
    cases newer
  have positive := List.length_pos_iff.mpr filled
  unfold place
  omega

/-- Of the older blocks the choice is the second last one, or the only one. -/
theorem exists_split (chronological : Chronological ring)
    (someOlder : ∃ block ∈ ring, isOlder stamp block) :
    ∃ before block after, ring = before ++ block :: after ∧
      before.length = place ring stamp ∧ select ring stamp = some block ∧ isOlder stamp block ∧
      after.countP (isOlder stamp) = if 2 ≤ ring.countP (isOlder stamp) then 1 else 0 := by
  have inside := place_lt_counting someOlder
  have parts := counting_append_beyond ring stamp
  have older : ∀ block ∈ counting ring stamp, isOlder stamp block :=
    fun block => isOlder_counting chronological
  rw [← length_counting chronological]
  generalize counted : counting ring stamp = front at inside parts older ⊢
  have split : front = front.take (place ring stamp) ++
      front[place ring stamp] :: front.drop (place ring stamp + 1) := by
    rw [← List.drop_eq_getElem_cons, List.take_append_drop]
  have whole : ring = front.take (place ring stamp) ++
      front[place ring stamp] :: (front.drop (place ring stamp + 1) ++ beyond ring stamp) := by
    rw [← List.cons_append, ← List.append_assoc, ← split, parts]
  have selected : select ring stamp = some front[place ring stamp] := by
    rw [select_eq, ← List.getElem?_eq_getElem inside, ← List.getElem?_append_left inside, parts]
  have newer : ∀ block ∈ front.drop (place ring stamp + 1), isOlder stamp block :=
    fun block member => older block (List.mem_of_mem_drop member)
  refine ⟨_, _, _, whole, List.length_take_of_le (Nat.le_of_lt inside), selected,
    older _ (List.getElem_mem inside), ?_⟩
  rw [List.countP_append, countP_beyond, List.countP_eq_length.mpr newer, List.length_drop]
  unfold place
  rw [counted]
  split <;> omega

/-- The choice is none exactly when there are no blocks, else the block at its position in the
ring. The position does not move back as the stamp grows, so that in a ring sorted by height a
transaction of a later stamp is bound to no lower block. Where the timestamps do not decrease and
some block is older, so is the choice, with exactly one older block behind it when there are two,
and none when it is the only one. -/
theorem select_is_second_last_older (ring : List RefBlock) (stamp : Int64) :
    (select ring stamp = none ↔ ring = []) ∧
    (∀ block, select ring stamp = some block → block ∈ ring) ∧
    select ring stamp = ring[place ring stamp]? ∧
    (∀ later, stamp ≤ later → place ring stamp ≤ place ring later ∧
      (Ascending ring → ∀ block other, select ring stamp = some block →
        select ring later = some other → block.height.toInt ≤ other.height.toInt)) ∧
    (Chronological ring → (∃ block ∈ ring, isOlder stamp block) →
      ∃ before block after, ring = before ++ block :: after ∧
        before.length = place ring stamp ∧ select ring stamp = some block ∧ isOlder stamp block ∧
        after.countP (isOlder stamp) = if 2 ≤ ring.countP (isOlder stamp) then 1 else 0) := by
  refine ⟨select_eq_none_iff ring stamp, fun block => mem_of_select, select_eq ring stamp, ?_,
    exists_split⟩
  intro later grows
  exact ⟨place_mono grows ring, fun ascending block other => height_mono ascending grows⟩

/-! Three blocks at the stamp of the third one, which is not older, and just behind it. -/

def stampedBlocks : List RefBlock :=
  [⟨1000, 25, "19"⟩, ⟨2000, 50, "32"⟩, ⟨3000, 75, "4b"⟩]

theorem select_is_second_last_older_atStamp :
    Chronological stampedBlocks ∧ Ascending stampedBlocks ∧
      place stampedBlocks 3000 ≤ place stampedBlocks 3001 ∧
      ∃ before block after, stampedBlocks = before ++ block :: after ∧
        before.length = place stampedBlocks 3000 ∧
        select stampedBlocks 3000 = some block ∧ isOlder 3000 block ∧
        after.countP (isOlder 3000) = 1 := by
  have chronological : Chronological stampedBlocks := by
    unfold Chronological
    decide
  have ascending : Ascending stampedBlocks := by
    unfold Ascending
    decide
  obtain ⟨-, -, -, forward, behind⟩ := select_is_second_last_older stampedBlocks 3000
  exact ⟨chronological, ascending, (forward 3001 (by decide)).1,
    behind chronological ⟨_, List.mem_cons_self, by decide⟩⟩

example : place stampedBlocks 1000 = 0 ∧ place stampedBlocks 3000 = 0 ∧
    place stampedBlocks 3001 = 1 := by
  decide

end TronGateway.RefBlock
