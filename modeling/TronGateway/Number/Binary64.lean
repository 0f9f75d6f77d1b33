set_option autoImplicit false

/-!
# Binary floating point of 64 bits

Finite binary numbers with 53 significant bits, exact in natural-number arithmetic: rounding a
quotient to the nearest one (a tie goes to the even significand), products and quotients, and the
shortest decimal digits that round back to a number.
-/

namespace TronGateway

/-- The number `significand * 2 ^ exponent` with a sign. Numbers made by `Binary64.round?` have the
least admitted exponent or a significand of exactly 53 bits. -/
structure Binary64 where
  negative : Bool
  significand : Nat
  exponent : Int
  deriving DecidableEq, Repr

namespace Binary64

def minExponent : Int := -1074

def maxExponent : Int := 971

def zero (negative : Bool) : Binary64 := ⟨negative, 0, minExponent⟩

def scaled (numerator denominator : Nat) (exponent : Int) : Nat × Nat :=
  if exponent < 0 then (numerator, denominator * Nat.pow 2 exponent.natAbs)
  else (numerator * Nat.pow 2 exponent.natAbs, denominator)

/-- The nearest natural number to a quotient, the even one of two. -/
def nearest (numerator denominator : Nat) : Nat :=
  let whole := numerator / denominator
  let twice := 2 * (numerator % denominator)
  if twice < denominator then whole
  else if denominator < twice then whole + 1
  else whole + whole % 2

/-- The nearest binary number to a quotient, or none when that is beyond the largest. -/
def round? (negative : Bool) (numerator denominator : Nat) : Option Binary64 :=
  if numerator = 0 then some (zero negative)
  else
    let guess : Int := (numerator.log2 : Int) - (denominator.log2 : Int) - 53
    let low := max minExponent guess
    let (n, d) := scaled numerator denominator (-low)
    let exponent := if n / d < 0x20000000000000 then low else low + 1
    let (n, d) := scaled numerator denominator (-exponent)
    let significand := nearest n d
    let (significand, exponent) :=
      if significand = 0x20000000000000 then (0x10000000000000, exponent + 1)
      else (significand, exponent)
    if maxExponent < exponent then none else some ⟨negative, significand, exponent⟩

def size (value : Binary64) : Nat × Nat :=
  scaled value.significand 1 value.exponent

def mul? (left right : Binary64) : Option Binary64 :=
  let (n, d) := left.size
  let (n', d') := right.size
  round? left.negative (n * n') (d * d')

def div? (left right : Binary64) : Option Binary64 :=
  let (n, d) := left.size
  let (n', d') := right.size
  round? left.negative (n * d') (d * n')

def powerOfTen? (exponent : Nat) : Option Binary64 :=
  round? false (Nat.pow 10 exponent) 1

def decimalExponentFrom (numerator denominator : Nat) : Nat → Int → Int
  | 0, k => k
  | fuel + 1, k =>
    let (n, d) :=
      if k < 0 then (numerator * Nat.pow 10 k.natAbs, denominator)
      else (numerator, denominator * Nat.pow 10 k.natAbs)
    if d ≤ n then k else decimalExponentFrom numerator denominator fuel (k - 1)

/-- The place of the first digit: `10 ^ k ≤ size < 10 ^ (k + 1)`. -/
def decimalExponent (value : Binary64) : Int :=
  let (n, d) := value.size
  decimalExponentFrom n d 800 (if d ≤ n then (n / d).log2 * 31 / 100 + 2 else 0)

def bounds (value : Binary64) : Nat × Nat × Nat :=
  let m := value.significand
  let narrow := m = 0x10000000000000 && minExponent < value.exponent
  let low := if narrow then 4 * m - 1 else 4 * m - 2
  let (lowN, d) := scaled low 1 (value.exponent - 2)
  let (highN, _) := scaled (4 * m + 2) 1 (value.exponent - 2)
  (lowN, highN, d)

def holds (value : Binary64) (digits : Nat) (exponent : Int) : Bool :=
  let (low, high, d) := value.bounds
  let (n, e) :=
    if exponent < 0 then (digits, Nat.pow 10 exponent.natAbs)
    else (digits * Nat.pow 10 exponent.natAbs, 1)
  if value.significand % 2 = 0 then low * e ≤ n * d && n * d ≤ high * e
  else low * e < n * d && n * d < high * e

/-- Of the two neighbours on the grid of `10 ^ exponent` the one that rounds back, the nearer of
two. -/
def onGrid? (value : Binary64) (exponent : Int) : Option Nat :=
  let (n, d) := value.size
  let (n, d) :=
    if exponent < 0 then (n * Nat.pow 10 exponent.natAbs, d)
    else (n, d * Nat.pow 10 exponent.natAbs)
  let low := n / d
  match holds value low exponent, holds value (low + 1) exponent with
  | true, true => some (nearest n d)
  | true, false => some low
  | false, true => some (low + 1)
  | false, false => none

/-- The first grid with a hit, from `count` digits up. -/
def shortestFrom (value : Binary64) (place : Int) : Nat → Nat → Nat × Int
  | 0, _ => (0, 0)
  | fuel + 1, count =>
    let exponent := place - count
    match onGrid? value exponent with
    | some digits => (digits, exponent)
    | none => shortestFrom value place fuel (count + 1)

/-- The fewest decimal digits that round back to the number, as digits and their exponent. The
first grid can give ten of its steps, which is one of the next coarser grid. -/
def shortest (value : Binary64) : Nat × Int :=
  if value.significand = 0 then (0, 0)
  else
    match shortestFrom value value.decimalExponent 18 0 with
    | (10, exponent) => (1, exponent + 1)
    | found => found

end Binary64
end TronGateway
