import TronGateway.Proofs.Number.Checked
import TronGateway.Proofs.Program
set_option autoImplicit false

/-!
# Chains of checked operations

A chain of checked operations gives the exact result when each partial result has a place in the
machine, and the overflow of the first one that has none otherwise. A chain can overflow on its way
to a result that has a place.
-/

namespace TronGateway.Checked

/-- A partial result over the integers, and the integers that the machine has a place for there:
those from `least` on that are below `limit`. -/
structure Stage where
  operation : Overflow
  exact : Int
  least : Int
  limit : Int
  deriving DecidableEq

namespace Stage

def ofSigned (operation : Overflow) (exact : Int) : Stage := ⟨operation, exact, -2 ^ 63, 2 ^ 63⟩

def ofUnsigned (operation : Overflow) (exact : Int) : Stage := ⟨operation, exact, 0, 2 ^ 64⟩

def Fits (stage : Stage) : Prop := stage.least ≤ stage.exact ∧ stage.exact < stage.limit

instance decidableFits (stage : Stage) : Decidable stage.Fits :=
  inferInstanceAs (Decidable (_ ∧ _))

theorem fits_ofUnsigned_natCast {operation : Overflow} {n : Nat} :
    (ofUnsigned operation n).Fits ↔ n < 0x10000000000000000 := by
  unfold ofUnsigned Fits
  dsimp only
  omega

end Stage

/-- The overflow of the first partial result that has no place. -/
def overflow? : List Stage → Option Overflow
  | [] => none
  | stage :: rest => if stage.Fits then overflow? rest else some stage.operation

theorem overflow?_eq_none_iff {stages : List Stage} :
    overflow? stages = none ↔ ∀ stage ∈ stages, stage.Fits := by
  induction stages with
  | nil => exact iff_of_true rfl (List.forall_mem_nil _)
  | cons stage rest ih =>
      rw [overflow?, List.forall_mem_cons, ← ih]
      by_cases fits : stage.Fits
      · rw [if_pos fits, and_iff_right fits]
      · rw [if_neg fits]
        exact iff_of_false nofun fun all => fits all.1

theorem overflow?_append (stages others : List Stage) :
    overflow? (stages ++ others) = (overflow? stages).or (overflow? others) := by
  induction stages with
  | nil => rfl
  | cons stage rest ih =>
      rw [List.cons_append, overflow?, overflow?, ih]
      by_cases fits : stage.Fits
      · rw [if_pos fits, if_pos fits]
      · rw [if_neg fits, if_neg fits]
        rfl

variable {α β : Type} {stages others : List Stage} {IsResult : α → Prop} {IsFinal : β → Prop}

/-- The computation overflows at the first partial result that has no place, and gives a result
when there is none. -/
structure Settles (stages : List Stage) (IsResult : α → Prop) (computed : Except Overflow α) :
    Prop where
  overflows : ∀ overflow, overflow? stages = some overflow → computed = .error overflow
  gives : overflow? stages = none → ∃ value, computed = .ok value ∧ IsResult value

theorem settles_pure {value : α} (result : IsResult value) : Settles [] IsResult (.ok value) where
  overflows := nofun
  gives _ := ⟨value, rfl, result⟩

theorem Settles.bind {computed : Except Overflow α} {next : α → Except Overflow β}
    (settles : Settles stages IsResult computed)
    (behind : ∀ value, IsResult value → Settles others IsFinal (next value)) :
    Settles (stages ++ others) IsFinal (computed >>= next) := by
  cases first : overflow? stages with
  | some overflow =>
      rw [settles.overflows overflow first]
      constructor
      · intro found overflows
        rw [overflow?_append, first] at overflows
        cases overflows
        rfl
      · intro none
        rw [overflow?_append, first] at none
        cases none
  | none =>
      obtain ⟨value, rfl, result⟩ := settles.gives first
      obtain ⟨overflows, gives⟩ := behind value result
      rw [ok_bind]
      constructor
      · intro found
        rw [overflow?_append, first, Option.none_or]
        exact overflows found
      · rw [overflow?_append, first, Option.none_or]
        exact gives

theorem Settles.map {computed : Except Overflow α} {f : α → β}
    (settles : Settles stages IsResult computed)
    (final : ∀ value, IsResult value → IsFinal (f value)) :
    Settles stages IsFinal (computed.map f) where
  overflows := by
    intro overflow first
    rw [settles.overflows overflow first]
    rfl
  gives := by
    intro none
    obtain ⟨value, rfl, result⟩ := settles.gives none
    exact ⟨f value, rfl, final value result⟩

theorem Settles.of_ok {computed : Except Overflow α} {value : α}
    (settles : Settles stages IsResult computed) (given : computed = .ok value) :
    IsResult value := by
  subst given
  cases first : overflow? stages with
  | some overflow => cases settles.overflows overflow first
  | none =>
      obtain ⟨found, same, result⟩ := settles.gives first
      cases same
      exact result

variable {stage : Stage} {computed : Except Overflow α}

theorem settles_of_fits {value : α} (fits : stage.Fits) (given : computed = .ok value)
    (result : IsResult value) : Settles [stage] IsResult computed where
  overflows := by
    intro overflow first
    rw [overflow?, if_pos fits] at first
    cases first
  gives _ := ⟨value, given, result⟩

theorem settles_of_outside (outside : ¬ stage.Fits) (failed : computed = .error stage.operation) :
    Settles [stage] IsResult computed where
  overflows := by
    intro overflow first
    rw [overflow?, if_neg outside] at first
    cases first
    exact failed
  gives := by
    intro none
    rw [overflow?, if_neg outside] at none
    cases none

theorem settles_signed (operation : Overflow) (exact : Int) :
    Settles [.ofSigned operation exact] (fun value : Int64 => value.toInt = exact)
      (signed operation exact) := by
  by_cases fits : (Stage.ofSigned operation exact).Fits
  · exact settles_of_fits fits (signed_of_fits fits.1 fits.2)
      (Int64.toInt_ofInt_of_le fits.1 fits.2)
  · refine settles_of_outside fits ?_
    have outside : ¬ fitsInt64 exact = true := mt fitsInt64_iff.mp fits
    unfold signed toInt64?
    rw [if_neg outside]
    rfl

theorem settles_add {left right : Int64} (first second : Int) (isFirst : left.toInt = first)
    (isSecond : right.toInt = second) :
    Settles [.ofSigned .add (first + second)] (fun sum : Int64 => sum.toInt = first + second)
      (add left right) := by
  unfold add
  rw [isFirst, isSecond]
  exact settles_signed .add _

theorem settles_mul {left right : Int64} (first second : Int) (isFirst : left.toInt = first)
    (isSecond : right.toInt = second) :
    Settles [.ofSigned .multiply (first * second)]
      (fun product : Int64 => product.toInt = first * second) (mul left right) := by
  unfold mul
  rw [isFirst, isSecond]
  exact settles_signed .multiply _

theorem mulUnsigned_of_fits {left right : UInt64}
    (fits : left.toNat * right.toNat < 0x10000000000000000) :
    mulUnsigned left right = .ok (UInt64.ofNat (left.toNat * right.toNat)) := by
  unfold mulUnsigned toUInt64?
  rw [if_pos fits]

theorem mulUnsigned_of_large {left right : UInt64}
    (large : ¬ left.toNat * right.toNat < 0x10000000000000000) :
    mulUnsigned left right = .error .multiply := by
  unfold mulUnsigned toUInt64?
  rw [if_neg large]

theorem settles_mulUnsigned {left right : UInt64} (first second : Int)
    (isFirst : (left.toNat : Int) = first) (isSecond : (right.toNat : Int) = second) :
    Settles [.ofUnsigned .multiply (first * second)]
      (fun product : UInt64 => (product.toNat : Int) = first * second)
      (mulUnsigned left right) := by
  have exact : ((left.toNat * right.toNat : Nat) : Int) = first * second := by
    rw [Int.natCast_mul, isFirst, isSecond]
  have place : (Stage.ofUnsigned .multiply (first * second)).Fits ↔ _ :=
    exact ▸ Stage.fits_ofUnsigned_natCast
  by_cases fits : (Stage.ofUnsigned .multiply (first * second)).Fits
  · refine settles_of_fits fits (mulUnsigned_of_fits (place.mp fits)) ?_
    rw [UInt64.toNat_ofNat_of_lt' (place.mp fits), exact]
  · exact settles_of_outside fits (mulUnsigned_of_large (mt place.mpr fits))

end TronGateway.Checked
