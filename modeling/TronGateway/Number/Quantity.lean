import TronGateway.Number.Binary64
import TronGateway.Number.Decimal
set_option autoImplicit false

/-!
# Quantities

A quantity is a binary number, an infinity, or no number at all. It is shown with the fewest digits
that read back, always positional, and counts as the nearest integer.
-/

namespace TronGateway

/-- A binary number or one of the values beyond them. -/
inductive Quantity where
  | finite (value : Binary64)
  | infinite (negative : Bool)
  | undefined
  deriving DecidableEq, Repr

namespace Quantity

def positional (digits : List Char) (place : Int) : List Char :=
  if place ≤ 0 then '0' :: '.' :: (List.replicate place.natAbs '0' ++ digits)
  else if digits.length ≤ place.toNat then
    digits ++ List.replicate (place.toNat - digits.length) '0'
  else digits.take place.toNat ++ '.' :: digits.drop place.toNat

def sizeChars (value : Binary64) : List Char :=
  let (number, exponent) := value.shortest
  if number = 0 then ['0']
  else
    let digits := Decimal.natChars number
    positional digits (digits.length + exponent)

def toText : Quantity → String
  | finite value => String.ofList ((if value.negative then ['-'] else []) ++ sizeChars value)
  | infinite negative => if negative then "-inf" else "inf"
  | undefined => "NaN"

/-- The nearest integer to a binary number; a half is rounded away from zero. -/
def roundFinite (value : Binary64) : Int :=
  let (numerator, denominator) := value.size
  let size : Int := ((2 * numerator + denominator) / (2 * denominator) : Nat)
  if value.negative then -size else size

/-- The nearest integer between two bounds; no number counts as zero. -/
def round (low high : Int) : Quantity → Int
  | finite value => max low (min high (roundFinite value))
  | infinite negative => if negative then low else high
  | undefined => 0

/-- Powers of ten beyond this one leave the range of binary numbers in either direction. -/
def placeLimit : Int := 400

/-- The binary number nearest to `digits * 10 ^ exponent`, or none when that is too large. -/
def ofDecimal? (negative : Bool) (digits : List Char) (exponent : Int) : Option Binary64 :=
  let digits := digits.dropWhile (· = '0')
  let number := digits.foldl (fun number c => number * 10 + (c.toNat - 48)) 0
  let place : Int := digits.length + exponent
  if number = 0 ∨ place < -placeLimit then some (Binary64.zero negative)
  else if placeLimit < place then none
  else if 0 ≤ exponent then Binary64.round? negative (number * Nat.pow 10 exponent.toNat) 1
  else Binary64.round? negative number (Nat.pow 10 exponent.natAbs)

end Quantity
end TronGateway
