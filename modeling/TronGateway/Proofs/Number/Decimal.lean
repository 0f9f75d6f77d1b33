import TronGateway.Number.Decimal
import Mathlib.Data.List.Basic
set_option autoImplicit false

/-!
# Reading back decimal text

The digits of a number stand for that number, and every integer of 64 bits is read from its own
text.
-/

namespace TronGateway.Decimal

theorem natChars_ne_nil (n : Nat) : natChars n ≠ [] :=
  Nat.toDigits_ne_nil

theorem between_of_mem_natChars {n : Nat} {c : Char} (member : c ∈ natChars n) :
    '0' ≤ c ∧ c ≤ '9' := by
  have digit := Nat.isDigit_of_mem_toDigits (by decide) (by decide) member
  unfold Char.isDigit at digit
  rw [Bool.and_eq_true, decide_eq_true_eq, decide_eq_true_eq] at digit
  exact digit

theorem foldl_natChars (n : Nat) :
    (natChars n).foldl (fun size c => size * 10 + (c.toNat - 48)) 0 = n := by
  have value : Nat.ofDigitChars 10 (natChars n) 0 = n := Nat.ofDigitChars_ten_toDigits
  rw [Nat.ofDigitChars_eq_foldl] at value
  have step : (fun size (c : Char) => size * 10 + (c.toNat - 48)) =
      fun size c => 10 * size + (c.toNat - '0'.toNat) := by
    funext size c
    rw [Nat.mul_comm]
    rfl
  rw [step]
  exact value

theorem natChars_injective {n m : Nat} (same : natChars n = natChars m) : n = m := by
  rw [← foldl_natChars n, ← foldl_natChars m, same]

theorem notMem_natChars {c : Char} (noDigit : ¬ ('0' ≤ c ∧ c ≤ '9')) (n : Nat) :
    c ∉ natChars n := fun member => noDigit (between_of_mem_natChars member)

theorem digitChar_eq_zero {n : Nat} (digit : n < 10) (zero : Nat.digitChar n = '0') : n = 0 := by
  revert n
  decide

theorem head?_natChars {n : Nat} (zero : (natChars n).head? = some '0') : n = 0 := by
  unfold natChars at zero
  induction n using Nat.strongRecOn with
  | ind n ih =>
      rw [Nat.toDigits_eq_if (by decide)] at zero
      by_cases small : n < 10
      · rw [if_pos small, List.head?_cons, Option.some_inj] at zero
        exact digitChar_eq_zero small zero
      · rw [if_neg small, List.head?_append_of_ne_nil _ Nat.toDigits_ne_nil] at zero
        have none := ih (n / 10) (by omega) zero
        omega

theorem natChars_zero : natChars 0 = ['0'] :=
  Nat.toDigits_zero 10

theorem digit?_eq {c : Char} (digit : '0' ≤ c ∧ c ≤ '9') : digit? c = some (c.toNat - 48) :=
  if_pos digit

theorem le_foldl_digits (value : Nat) (chars : List Char) :
    value ≤ chars.foldl (fun size c => size * 10 + (c.toNat - 48)) value := by
  induction chars generalizing value with
  | nil => exact Nat.le_refl value
  | cons c rest ih =>
      have grown : value ≤ value * 10 + (c.toNat - 48) := by omega
      exact Nat.le_trans grown (ih _)

/-- Digits are read to the end while their number stays in its bound. -/
theorem readUp_eq (high value : Nat) (chars : List Char)
    (digits : ∀ c ∈ chars, '0' ≤ c ∧ c ≤ '9')
    (fits : chars.foldl (fun size c => size * 10 + (c.toNat - 48)) value ≤ high) :
    readUp high value chars =
      .ok (chars.foldl (fun size c => size * 10 + (c.toNat - 48)) value) := by
  induction chars generalizing value with
  | nil => rfl
  | cons c rest ih =>
      have below := Nat.le_trans (le_foldl_digits (value * 10 + (c.toNat - 48)) rest) fits
      rw [readUp, digit?_eq (digits c List.mem_cons_self)]
      simp only [if_pos below]
      exact ih _ (fun d member => digits d (List.mem_cons_of_mem c member)) fits

theorem readDown_eq (depth value : Nat) (chars : List Char)
    (digits : ∀ c ∈ chars, '0' ≤ c ∧ c ≤ '9')
    (fits : chars.foldl (fun size c => size * 10 + (c.toNat - 48)) value ≤ depth) :
    readDown depth value chars =
      .ok (chars.foldl (fun size c => size * 10 + (c.toNat - 48)) value) := by
  induction chars generalizing value with
  | nil => rfl
  | cons c rest ih =>
      have below := Nat.le_trans (le_foldl_digits (value * 10 + (c.toNat - 48)) rest) fits
      rw [readDown, digit?_eq (digits c List.mem_cons_self)]
      simp only [if_pos below]
      exact ih _ (fun d member => digits d (List.mem_cons_of_mem c member)) fits

theorem readUp_natChars {high n : Nat} (fits : n ≤ high) :
    readUp high 0 (natChars n) = .ok n := by
  have value := foldl_natChars n
  rw [readUp_eq high 0 _ (fun c member => between_of_mem_natChars member) (by omega), value]

theorem readDown_natChars {depth n : Nat} (fits : n ≤ depth) :
    readDown depth 0 (natChars n) = .ok n := by
  have value := foldl_natChars n
  rw [readDown_eq depth 0 _ (fun c member => between_of_mem_natChars member) (by omega), value]

theorem readNat_natChars {high n : Nat} (fits : n ≤ high) :
    readNat high (natChars n) = .ok n := by
  have read := readUp_natChars fits
  have plus : '+' ∉ natChars n := notMem_natChars (by decide) n
  unfold readNat
  split
  · next same => exact absurd same (natChars_ne_nil n)
  · next same => exact absurd (same ▸ List.mem_cons_self) plus
  · next same => exact absurd (same ▸ List.mem_cons_self) plus
  · exact read

theorem readInt_of_digit (depth high : Nat) {c : Char} (rest : List Char)
    (digit : '0' ≤ c ∧ c ≤ '9') :
    readInt depth high (c :: rest) = (readUp high 0 (c :: rest)).map Int.ofNat := by
  have plus : c ≠ '+' := by
    intro same
    rw [same] at digit
    exact absurd digit.1 (by decide)
  have minus : c ≠ '-' := by
    intro same
    rw [same] at digit
    exact absurd digit.1 (by decide)
  unfold readInt
  split
  · contradiction
  · next same => exact absurd (List.cons.inj same).1 plus
  · next same => exact absurd (List.cons.inj same).1 minus
  · next same => exact absurd (List.cons.inj same).1 plus
  · next same => exact absurd (List.cons.inj same).1 minus
  · rfl

theorem readInt_minus (depth high : Nat) (digits : List Char) (some : digits ≠ []) :
    readInt depth high ('-' :: digits) =
      (readDown depth 0 digits).map fun size => -Int.ofNat size := by
  cases digits with
  | nil => exact absurd rfl some
  | cons c rest => rfl

theorem readInt_intChars {depth high : Nat} {n : Int} (above : -(depth : Int) ≤ n)
    (below : n ≤ high) : readInt depth high (intChars n) = .ok n := by
  cases n with
  | ofNat n =>
      have fits : n ≤ high := Int.ofNat_le.mp below
      obtain ⟨c, rest, same⟩ := List.exists_cons_of_ne_nil (natChars_ne_nil n)
      have digit : c ∈ natChars n := by
        rw [same]
        exact List.mem_cons_self
      change readInt depth high (natChars n) = _
      rw [same, readInt_of_digit depth high rest (between_of_mem_natChars digit), ← same,
        readUp_natChars fits]
      rfl
  | negSucc n =>
      have fits : n + 1 ≤ depth := by omega
      change readInt depth high ('-' :: natChars (n + 1)) = _
      rw [readInt_minus depth high _ (natChars_ne_nil (n + 1)), readDown_natChars fits]
      rfl

theorem readInt64_ofInt (n : Int64) : readInt64 (ofInt n.toInt) = .ok n := by
  have above := n.le_toInt
  have below := n.toInt_lt
  unfold readInt64 ofInt
  rw [String.toList_ofList, readInt_intChars (by omega) (by omega)]
  change Except.ok (Int64.ofInt n.toInt) = _
  rw [Int64.ofInt_toInt]

end TronGateway.Decimal
