set_option autoImplicit false

/-!
# Checked machine arithmetic

Sums, differences and products of 64-bit integers that name the operation when the result leaves
the range. An overflow is not an error that a caller handles: it ends the activity that met it.
-/

namespace TronGateway

/-- The operation whose result left the range of its type. -/
inductive Overflow where
  | add
  | subtract
  | multiply
  deriving DecidableEq, Repr

def Overflow.message : Overflow → String
  | .add => "attempt to add with overflow"
  | .subtract => "attempt to subtract with overflow"
  | .multiply => "attempt to multiply with overflow"

def fitsInt64 (n : Int) : Bool :=
  -9223372036854775808 ≤ n && n ≤ 9223372036854775807

def toInt64? (n : Int) : Option Int64 :=
  if fitsInt64 n then some (Int64.ofInt n) else none

def toUInt64? (n : Nat) : Option UInt64 :=
  if n < 0x10000000000000000 then some (UInt64.ofNat n) else none

def toUInt32? (n : Nat) : Option UInt32 :=
  if n < 0x100000000 then some (UInt32.ofNat n) else none

namespace Checked

/-- The signed number `n`, or the overflow of the operation that gave it. -/
def signed (operation : Overflow) (n : Int) : Except Overflow Int64 :=
  match toInt64? n with
  | some value => .ok value
  | none => .error operation

def add (left right : Int64) : Except Overflow Int64 :=
  signed .add (left.toInt + right.toInt)

def sub (left right : Int64) : Except Overflow Int64 :=
  signed .subtract (left.toInt - right.toInt)

def mul (left right : Int64) : Except Overflow Int64 :=
  signed .multiply (left.toInt * right.toInt)

def mulUnsigned (left right : UInt64) : Except Overflow UInt64 :=
  match toUInt64? (left.toNat * right.toNat) with
  | some value => .ok value
  | none => .error .multiply

end Checked
end TronGateway
