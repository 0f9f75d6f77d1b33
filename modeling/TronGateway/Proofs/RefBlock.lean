import TronGateway.RefBlock
import TronGateway.Proofs.Number.Bytes
import TronGateway.Proofs.Text.Hex
set_option autoImplicit false

/-!
# Reference blocks

What a reference names: the height modulo 2^16 in two bytes, and bytes 16 to 32 of the block id. And
what the ring of candidates gains by a further block: the block at its place by height, at the
expense of the lowest one when the ring is full, unless a block of that height is there already.
-/

namespace TronGateway.RefBlock

theorem toNat_heightBytes (height : Int64) :
    (BigEndian.toNat (heightBytes height) : Int) = height.toInt % 65536 := by
  have small : (height.toInt % 65536).toNat % 256 ^ 2 = (height.toInt % 65536).toNat := by omega
  unfold heightBytes
  rw [BigEndian.toNat_ofNat, small]
  omega

theorem length_heightBytes (height : Int64) : (heightBytes height).length = 2 := by
  rfl

theorem splitBytes?_zero_iff {chars front behind : List Char} :
    splitBytes? 0 chars = some (front, behind) ↔
      chars = front ++ behind ∧ (Utf8.encodeChars front).length = 0 := by
  rw [splitBytes?, Option.some.injEq, Prod.mk.injEq, Utf8.length_encodeChars_eq_zero_iff]
  constructor
  · rintro ⟨rfl, rfl⟩
    exact ⟨rfl, rfl⟩
  · rintro ⟨rfl, rfl⟩
    exact ⟨rfl, rfl⟩

theorem splitBytes?_eq_some_iff {count : Nat} {chars front behind : List Char} :
    splitBytes? count chars = some (front, behind) ↔
      chars = front ++ behind ∧ (Utf8.encodeChars front).length = count := by
  induction chars generalizing count front with
  | nil =>
      cases count with
      | zero => exact splitBytes?_zero_iff
      | succ count =>
          rw [splitBytes?]
          constructor
          · intro failed
            cases failed
          · rintro ⟨same, length⟩
            obtain ⟨rfl, -⟩ := List.append_eq_nil_iff.mp same.symm
            cases length
  | cons c rest ih =>
      cases count with
      | zero => exact splitBytes?_zero_iff
      | succ count =>
          rw [splitBytes?]
          constructor
          · intro split
            by_cases whole : (Utf8.encodeChar c).length ≤ count + 1
            · rw [if_pos whole] at split
              obtain ⟨⟨taken, left⟩, inner, same⟩ := Option.map_eq_some_iff.mp split
              cases same
              obtain ⟨rfl, length⟩ := ih.mp inner
              refine ⟨rfl, ?_⟩
              rw [Utf8.length_encodeChars_cons, length]
              exact Nat.add_sub_of_le whole
            · rw [if_neg whole] at split
              cases split
          · rintro ⟨same, length⟩
            cases front with
            | nil => cases length
            | cons d others =>
                obtain ⟨rfl, joined⟩ := List.cons.inj same
                rw [Utf8.length_encodeChars_cons] at length
                -- A place behind the first character is counted from there on.
                have inner := ih.mpr ⟨joined, Nat.eq_sub_of_add_eq' length⟩
                rw [if_pos (Nat.le.intro length), inner]
                rfl

/-- The reference is made of bytes 16 to 32 of the id, which has at least so many. -/
theorem of_hashText {id hash : String} (found : hashText id = .ok hash) :
    Utf8.encode hash = ((Utf8.encode id).drop hashStart).take (hashEnd - hashStart) ∧
      hashEnd ≤ (Utf8.encode id).length := by
  unfold hashText at found
  split at found
  · next chars left known =>
      cases found
      obtain ⟨⟨front, behind⟩, first, second⟩ := Option.bind_eq_some_iff.mp known
      obtain ⟨joined, frontLength⟩ := splitBytes?_eq_some_iff.mp first
      obtain ⟨joinedToo, length⟩ := splitBytes?_eq_some_iff.mp second
      dsimp only at joinedToo
      have bytes : Utf8.encode id =
          Utf8.encodeChars front ++ (Utf8.encodeChars chars ++ Utf8.encodeChars left) := by
        unfold Utf8.encode
        rw [joined, joinedToo]
        unfold Utf8.encodeChars
        rw [List.flatMap_append, List.flatMap_append]
      rw [bytes]
      refine ⟨?_, ?_⟩
      · unfold Utf8.encode
        rw [String.toList_ofList, ← length, ← frontLength, List.drop_left, List.take_left]
      · rw [List.length_append, List.length_append, frontLength, length]
        unfold hashEnd hashStart
        omega
  · cases found

/-- The ring with a further block between the lower and the higher ones, and without the lowest ones
when there are more than ten. -/
def Gains (ring : List RefBlock) (block : RefBlock) (after : List RefBlock) : Prop :=
  ∃ lower higher, ring = lower ++ higher ∧
    (∀ other ∈ lower, other.height.toInt < block.height.toInt) ∧
    (∀ other ∈ higher.head?, block.height.toInt < other.height.toInt) ∧
    after = (lower ++ block :: higher).drop (ring.length + 1 - 10)

theorem insert_eq (block : RefBlock) (ring : List RefBlock) :
    ∃ lower higher, ring = lower ++ higher ∧ insert block ring = lower ++ block :: higher ∧
      (∀ other ∈ lower, other.height.toInt ≤ block.height.toInt) ∧
      ∀ other ∈ higher.head?, block.height.toInt < other.height.toInt := by
  induction ring with
  | nil => exact ⟨[], [], rfl, rfl, nofun, nofun⟩
  | cons first rest ih =>
      rw [insert]
      by_cases below : block.height < first.height
      · rw [if_pos below]
        refine ⟨[], first :: rest, rfl, rfl, nofun, ?_⟩
        intro other head
        cases head
        exact Int64.lt_iff_toInt_lt.mp below
      · rw [if_neg below]
        obtain ⟨lower, higher, rfl, inserted, under, above⟩ := ih
        refine ⟨first :: lower, higher, rfl, by rw [inserted, List.cons_append], ?_, above⟩
        have reached := mt Int64.lt_iff_toInt_lt.mpr below
        exact List.forall_mem_cons.mpr ⟨by omega, under⟩

theorem gains_push {ring : List RefBlock} {block : RefBlock}
    (fresh : ∀ other ∈ ring, other.height ≠ block.height) : Gains ring block (push ring block) := by
  obtain ⟨lower, higher, split, inserted, under, above⟩ := insert_eq block ring
  refine ⟨lower, higher, split, ?_, above, ?_⟩
  · intro other member
    have different : other.height.toInt ≠ block.height.toInt := by
      intro same
      refine fresh other ?_ (Int64.toInt_inj.mp same)
      rw [split]
      exact List.mem_append_left _ member
    have reached := under other member
    omega
  · have unknown : (ring.any fun other => other.height = block.height) = false := by
      rw [List.any_eq_false]
      intro other member
      rw [decide_eq_true_eq]
      exact fresh other member
    have length : (lower ++ block :: higher).length = ring.length + 1 := by
      rw [split, List.length_append, List.length_append, List.length_cons, Nat.add_assoc]
    unfold push
    rw [unknown]
    dsimp only
    rw [if_neg Bool.false_ne_true, inserted, length]
    rfl

theorem push_of_known {ring : List RefBlock} {block other : RefBlock} (known : other ∈ ring)
    (same : other.height = block.height) : push ring block = ring := by
  unfold push
  rw [if_pos]
  rw [List.any_eq_true]
  exact ⟨other, known, decide_eq_true same⟩

end TronGateway.RefBlock
