import TronGateway.Proofs.RefBlock
set_option autoImplicit false

/-!
# Slices that can fail

A slice of bytes or of a text is named by a place, counted in bytes. One that is not there is no
error that a caller handles: it ends the program at once. Each slice is given here with that ending
and with the condition under which it is there.
-/

namespace TronGateway

namespace Slice

/-- Why there is no slice. -/
inductive Fault where
  /-- A longer part was taken off a shorter whole. -/
  | negativeOffset
  | pastEnd
  /-- The place is inside a character of the text or behind its end. -/
  | noBoundary
  /-- The bytes to copy are not as many as the place for them has. -/
  | otherLength
  deriving DecidableEq, Repr

def offset (whole part : Nat) : Except Fault Nat :=
  if part ≤ whole then .ok (whole - part) else .error .negativeOffset

/-- The bytes in front of a place, and those from it on. -/
def split (place : Nat) (bytes : List UInt8) : Except Fault (List UInt8 × List UInt8) :=
  if place ≤ bytes.length then .ok (bytes.splitAt place) else .error .pastEnd

/-- The bytes with all of them from a place on replaced by a source of the same length. -/
def overwrite (place : Nat) (source bytes : List UInt8) : Except Fault (List UInt8) :=
  match split place bytes with
  | .error fault => .error fault
  | .ok (kept, slot) =>
    if slot.length = source.length then .ok (kept ++ source) else .error .otherLength

def copyFront (count : Nat) (bytes : List UInt8) : Except Fault (List UInt8) :=
  match split count bytes with
  | .error fault => .error fault
  | .ok (front, _) => overwrite 0 front (List.replicate count 0)

def textFrom (place : Nat) (text : String) : Except Fault String :=
  match RefBlock.splitBytes? place text.toList with
  | some (_, behind) => .ok (String.ofList behind)
  | none => .error .noBoundary

variable {place : Nat} {bytes source : List UInt8}

theorem offset_eq_ok_iff {whole part : Nat} :
    offset whole part = .ok place ↔ place + part = whole := by
  unfold offset
  by_cases fits : part ≤ whole
  · rw [if_pos fits, Except.ok.injEq]
    omega
  · rw [if_neg fits]
    constructor
    · intro failed
      cases failed
    · intro same
      exact absurd (same ▸ Nat.le_add_left part place) fits

theorem split_eq_ok_iff {front behind : List UInt8} :
    split place bytes = .ok (front, behind) ↔ bytes = front ++ behind ∧ front.length = place := by
  unfold split
  constructor
  · intro found
    split at found
    · next inside =>
        rw [List.splitAt_eq] at found
        cases found
        exact ⟨(List.take_append_drop place bytes).symm, List.length_take_of_le inside⟩
    · cases found
  · rintro ⟨rfl, rfl⟩
    have inside : front.length ≤ (front ++ behind).length := by
      rw [List.length_append]
      exact Nat.le_add_right _ _
    rw [if_pos inside, List.splitAt_eq, List.take_left, List.drop_left]

theorem split_of_le (inside : place ≤ bytes.length) :
    split place bytes = .ok (bytes.take place, bytes.drop place) :=
  split_eq_ok_iff.mpr ⟨(List.take_append_drop place bytes).symm, List.length_take_of_le inside⟩

theorem overwrite_eq_ok_iff {written : List UInt8} :
    overwrite place source bytes = .ok written ↔
      place + source.length = bytes.length ∧ written = bytes.take place ++ source := by
  unfold overwrite
  constructor
  · intro done
    split at done
    · cases done
    · next kept slot found =>
        obtain ⟨rfl, rfl⟩ := split_eq_ok_iff.mp found
        split at done
        · next same =>
            cases done
            rw [List.length_append, same, List.take_left]
            exact ⟨rfl, rfl⟩
        · cases done
  · rintro ⟨reaches, rfl⟩
    have inside : place ≤ bytes.length := by omega
    have slot : (bytes.drop place).length = source.length := by
      rw [List.length_drop]
      omega
    rw [split_of_le inside]
    exact if_pos slot

theorem copyFront_of_le {count : Nat} (inside : count ≤ bytes.length) :
    copyFront count bytes = .ok (bytes.take count) := by
  have filled : 0 + (bytes.take count).length = (List.replicate count (0 : UInt8)).length := by
    rw [List.length_take_of_le inside, List.length_replicate, Nat.zero_add]
  unfold copyFront
  rw [split_of_le inside]
  exact overwrite_eq_ok_iff.mpr ⟨filled, rfl⟩

theorem textFrom_append {front : String} (length : Utf8.byteLength front = place)
    (behind : String) : textFrom place (front ++ behind) = .ok behind := by
  unfold textFrom
  rw [String.toList_append, RefBlock.splitBytes?_eq_some_iff.mpr ⟨rfl, length⟩]
  exact congrArg Except.ok String.ofList_toList

example : textFrom 2 "41é" = .ok "é" ∧ textFrom 3 "41é" = .error .noBoundary ∧
    textFrom 5 "41é" = .error .noBoundary := by
  decide +kernel

end Slice

/-- What a computation comes to that cuts slices on its way: a result, in which an error may stand,
or the fault of the first slice that is not there. -/
abbrev Slicing (α : Type) := ExceptT Error (Except Slice.Fault) α

namespace Slicing

variable {α β : Type}

def slice (part : Except Slice.Fault α) : Slicing α := ExceptT.lift part

def result (computed : Except Error α) : Slicing α := ExceptT.mk (.ok computed)

theorem slice_ok_bind (part : α) (next : α → Slicing β) : slice (.ok part) >>= next = next part := rfl

theorem result_ok_bind (value : α) (next : α → Slicing β) :
    result (.ok value) >>= next = next value := rfl

theorem result_error_bind (failure : Error) (next : α → Slicing β) :
    result (.error failure) >>= next = result (.error failure) := rfl

end Slicing
end TronGateway
