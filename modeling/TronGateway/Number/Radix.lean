set_option autoImplicit false

/-!
# Digits in any base

Natural numbers as digit lists, the most significant digit first and without leading zeros, and the
number that a digit list stands for.
-/

namespace TronGateway.Radix

/-- The number that digits stand for, after `value` has been read. -/
def valueFrom (base value : Nat) (digits : List Nat) : Nat :=
  digits.foldl (fun value digit => value * base + digit) value

def value (base : Nat) (digits : List Nat) : Nat :=
  valueFrom base 0 digits

/-- The last `fuel` digits of a number; all of them when `fuel` exceeds their count. -/
def digitsUpTo (base : Nat) : Nat → Nat → List Nat
  | 0, _ => []
  | fuel + 1, n =>
    if n = 0 then [] else digitsUpTo base fuel (n / base) ++ [n % base]

def digits (base n : Nat) : List Nat :=
  digitsUpTo base n n

end TronGateway.Radix
