import Mathlib.Data.Nat.Digits.Lemmas
import TronGateway.Number.Radix
set_option autoImplicit false

/-!
# Digits and the numbers they stand for

Digits below a base are those of their number, behind as many zeros as they have in front. So digits
that are rewritten in another base, with the zeros in front kept, come back unchanged.
-/

namespace TronGateway.Radix

variable {base n : Nat} {ds : List Nat}

theorem value_eq_ofDigits (base : Nat) (ds : List Nat) :
    value base ds = Nat.ofDigits base ds.reverse := by
  rw [Nat.ofDigits_eq_foldr, List.foldr_reverse]
  unfold value valueFrom
  congr 1
  funext value digit
  rw [Nat.cast_id, Nat.mul_comm, Nat.add_comm]

theorem digitsUpTo_eq (large : 1 < base) {fuel : Nat} (enough : n ≤ fuel) :
    digitsUpTo base fuel n = (Nat.digits base n).reverse := by
  induction fuel generalizing n with
  | zero =>
      cases Nat.le_zero.mp enough
      rw [Nat.digits_zero]
      rfl
  | succ fuel ih =>
      rw [digitsUpTo]
      rcases Nat.eq_zero_or_pos n with rfl | positive
      · rw [if_pos rfl, Nat.digits_zero]
        rfl
      · have less : n / base < n := Nat.div_lt_self positive large
        rw [if_neg (Nat.ne_of_gt positive), ih (by omega), Nat.digits_def' large positive,
          List.reverse_cons]

theorem digits_eq (large : 1 < base) (n : Nat) : digits base n = (Nat.digits base n).reverse :=
  digitsUpTo_eq large (Nat.le_refl n)

theorem value_digits (large : 1 < base) (n : Nat) : value base (digits base n) = n := by
  rw [value_eq_ofDigits, digits_eq large, List.reverse_reverse, Nat.ofDigits_digits]

theorem digits_lt (large : 1 < base) {d : Nat} (member : d ∈ digits base n) : d < base := by
  rw [digits_eq large, List.mem_reverse] at member
  exact Nat.digits_lt_base large member

theorem length_digits_le_iff (large : 1 < base) (n count : Nat) :
    (digits base n).length ≤ count ↔ n < base ^ count := by
  rw [digits_eq large, List.length_reverse, Nat.digits_length_le_iff large]

theorem length_digits_eq_iff (large : 1 < base) {count : Nat} :
    (digits base n).length = count + 1 ↔ base ^ count ≤ n ∧ n < base ^ (count + 1) := by
  have most := length_digits_le_iff large n (count + 1)
  have fewer := length_digits_le_iff large n count
  omega

theorem head?_digits_ne_zero (large : 1 < base) (n : Nat) : (digits base n).head? ≠ some 0 := by
  rw [digits_eq large, List.head?_reverse]
  intro last
  obtain ⟨nonempty, zero⟩ := List.mem_getLast?_eq_getLast (Option.mem_def.mpr last)
  rcases Nat.eq_zero_or_pos n with rfl | positive
  · exact nonempty (Nat.digits_zero base)
  · exact Nat.getLast_digit_ne_zero base (Nat.ne_of_gt positive) zero.symm

theorem digits_value (large : 1 < base) (small : ∀ d ∈ ds, d < base) (head : ds.head? ≠ some 0) :
    digits base (value base ds) = ds := by
  have inRange : ∀ d ∈ ds.reverse, d < base := by
    intro d member
    exact small d (List.mem_reverse.mp member)
  have last (nonempty : ds.reverse ≠ []) : ds.reverse.getLast nonempty ≠ 0 := by
    intro zero
    apply head
    rw [← List.getLast?_reverse, List.getLast?_eq_some_getLast nonempty, zero]
  rw [digits_eq large, value_eq_ofDigits, Nat.digits_ofDigits base large _ inRange last,
    List.reverse_reverse]

theorem value_lt (large : 1 < base) (small : ∀ d ∈ ds, d < base) :
    value base ds < base ^ ds.length := by
  rw [value_eq_ofDigits, ← List.length_reverse]
  apply Nat.ofDigits_lt_base_pow_length large
  intro d member
  exact small d (List.mem_reverse.mp member)

theorem value_cons (base d : Nat) (ds : List Nat) :
    value base (d :: ds) = d * base ^ ds.length + value base ds := by
  rw [value_eq_ofDigits, value_eq_ofDigits, List.reverse_cons, Nat.ofDigits_append,
    Nat.ofDigits_singleton, List.length_reverse, Nat.add_comm, Nat.mul_comm]

def zeros (ds : List Nat) : Nat := (ds.takeWhile (· == 0)).length

@[simp] theorem zeros_cons_zero (ds : List Nat) : zeros (0 :: ds) = zeros ds + 1 := rfl

theorem zeros_of_head (head : ds.head? ≠ some 0) : zeros ds = 0 := by
  cases ds with
  | nil => rfl
  | cons d rest =>
      have other : ¬ (d == 0) = true := fun same => head (congrArg some (beq_iff_eq.mp same))
      unfold zeros
      rw [List.takeWhile_cons, if_neg other, List.length_nil]

theorem zeros_replicate_append (count : Nat) (head : ds.head? ≠ some 0) :
    zeros (List.replicate count 0 ++ ds) = count := by
  induction count with
  | zero => exact zeros_of_head head
  | succ count ih => rw [List.replicate_succ, List.cons_append, zeros_cons_zero, ih]

theorem value_replicate_append (base count : Nat) (ds : List Nat) :
    value base (List.replicate count 0 ++ ds) = value base ds := by
  rw [value_eq_ofDigits, value_eq_ofDigits, List.reverse_append, List.reverse_replicate,
    Nat.ofDigits_append_replicate_zero]

theorem exists_zeros_append (ds : List Nat) :
    ∃ rest, ds = List.replicate (zeros ds) 0 ++ rest ∧ rest.head? ≠ some 0 := by
  induction ds with
  | nil => exact ⟨[], rfl, nofun⟩
  | cons d rest ih =>
      by_cases zero : d = 0
      · obtain ⟨tail, split, head⟩ := ih
        subst zero
        refine ⟨tail, ?_, head⟩
        rw [zeros_cons_zero, List.replicate_succ, List.cons_append, ← split]
      · have head : (d :: rest).head? ≠ some 0 := fun same => zero (Option.some.inj same)
        refine ⟨d :: rest, ?_, head⟩
        rw [zeros_of_head head, List.replicate_zero, List.nil_append]

theorem exists_behind_zeros (small : ∀ d ∈ ds, d < base) :
    ∃ rest, ds = List.replicate (zeros ds) 0 ++ rest ∧ rest.head? ≠ some 0 ∧
      (∀ d ∈ rest, d < base) ∧ value base ds = value base rest ∧
      ds.length = zeros ds + rest.length := by
  obtain ⟨rest, split, head⟩ := exists_zeros_append ds
  generalize zeros ds = count at split ⊢
  subst split
  refine ⟨rest, rfl, head, ?_, value_replicate_append base count rest, ?_⟩
  · intro d member
    exact small d (List.mem_append_right _ member)
  · rw [List.length_append, List.length_replicate]

/-- The digits of the same number in another base, behind as many zeros. -/
def rebase (source target : Nat) (ds : List Nat) : List Nat :=
  List.replicate (zeros ds) 0 ++ digits target (value source ds)

variable {source target : Nat}

theorem zeros_rebase (large : 1 < target) (ds : List Nat) :
    zeros (rebase source target ds) = zeros ds :=
  zeros_replicate_append _ (head?_digits_ne_zero large _)

theorem value_rebase (large : 1 < target) (ds : List Nat) :
    value target (rebase source target ds) = value source ds := by
  unfold rebase
  rw [value_replicate_append, value_digits large]

theorem rebase_lt (large : 1 < target) {d : Nat} (member : d ∈ rebase source target ds) :
    d < target := by
  rcases List.mem_append.mp member with zero | digit
  · rw [List.eq_of_mem_replicate zero]
    exact Nat.zero_lt_of_lt large
  · exact digits_lt large digit

theorem rebase_self (large : 1 < base) (small : ∀ d ∈ ds, d < base) : rebase base base ds = ds := by
  obtain ⟨rest, split, head, smaller, number, -⟩ := exists_behind_zeros small
  unfold rebase
  rw [number, digits_value large smaller head]
  exact split.symm

theorem rebase_rebase (sourceLarge : 1 < source) (targetLarge : 1 < target)
    (small : ∀ d ∈ ds, d < source) : rebase target source (rebase source target ds) = ds := by
  change List.replicate (zeros (rebase source target ds)) 0 ++
    digits source (value target (rebase source target ds)) = ds
  rw [zeros_rebase targetLarge, value_rebase targetLarge]
  exact rebase_self sourceLarge small

theorem length_rebase (source target : Nat) (ds : List Nat) :
    (rebase source target ds).length = zeros ds + (digits target (value source ds)).length := by
  unfold rebase
  rw [List.length_append, List.length_replicate]

theorem value_lt_of_zeros (large : 1 < base) (small : ∀ d ∈ ds, d < base) :
    zeros ds ≤ ds.length ∧ value base ds < base ^ (ds.length - zeros ds) := by
  obtain ⟨rest, -, -, smaller, number, length⟩ := exists_behind_zeros small
  refine ⟨by omega, ?_⟩
  rw [length, Nat.add_sub_cancel_left, number]
  exact value_lt large smaller

/-- The first digit behind the zeros is not zero, which bounds the number from below. -/
theorem le_value_of_zeros (large : 1 < base) (small : ∀ d ∈ ds, d < base) {count : Nat}
    (behind : ds.length = zeros ds + (count + 1)) : base ^ count ≤ value base ds := by
  obtain ⟨rest, -, head, smaller, number, length⟩ := exists_behind_zeros small
  have digits := congrArg List.length (digits_value large smaller head)
  rw [number]
  exact ((length_digits_eq_iff large).mp (by omega)).1

end TronGateway.Radix
