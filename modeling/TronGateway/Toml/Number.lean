import TronGateway.Number.Checked
import TronGateway.Number.Quantity
import TronGateway.Toml.Token
set_option autoImplicit false

/-!
# Numbers of a configuration file

Integers in four bases and decimal numbers with a fraction and an exponent. Digits may stand in
groups with one underscore between two groups. A decimal number starts with a zero only when that is
its whole integral part.
-/

namespace TronGateway.Toml.Number

/-- Groups of characters with one underscore between two groups; `fresh` tells that a group has to
start. -/
def isGrouped (fresh : Bool) : List Char → Bool
  | [] => !fresh
  | c :: rest => if c = '_' then !fresh && isGrouped true rest else isGrouped false rest

def digits? (isDigit : Char → Bool) (leadingZeros : Bool) (chars : List Char) :
    Option (List Char × List Char) :=
  let run := chars.takeWhile fun c => isDigit c || c = '_'
  let digits := run.filter fun c => c ≠ '_'
  if !isGrouped true run then none
  else if !leadingZeros && digits.head? = some '0' && 1 < digits.length then none
  else some (digits, chars.drop run.length)

def isDecimal (c : Char) : Bool := '0' ≤ c && c ≤ '9'

def minus : List Char → Bool × List Char
  | '-' :: rest => (true, rest)
  | chars => (false, chars)

def valueOf (base : Nat) (digits : List Char) : Nat :=
  digits.foldl (fun value c => value * base + (Token.hexValue? c).getD 0) 0

def isDigitOf (base : Nat) (c : Char) : Bool :=
  match Token.hexValue? c with
  | some digit => digit < base
  | none => false

/-- An integer in a base other than ten, which takes no sign. -/
def inBase? (base : Nat) (chars : List Char) : Option Int64 :=
  match digits? (isDigitOf base) true chars with
  | some (digits, []) => toInt64? (valueOf base digits)
  | _ => none

def integer? (chars : List Char) : Option Int64 :=
  let (negative, rest) := minus chars
  match digits? isDecimal false rest with
  | some (digits, []) =>
    let size : Int := valueOf 10 digits
    toInt64? (if negative then -size else size)
  | _ => none

/-- What stands behind the digits of a number: nothing, a whole exponent, or the mark of an exponent
whose digits follow a plus. -/
inductive Tail where
  | closed
  | power (negative : Bool) (digits : List Char)
  | openPower
  deriving DecidableEq

def tail? : List Char → Option Tail
  | [] => some .closed
  | c :: rest =>
    if c = 'e' ∨ c = 'E' then
      if rest.isEmpty then some .openPower
      else
        let (negative, rest) := minus rest
        match digits? isDecimal true rest with
        | some (digits, []) => some (.power negative digits)
        | _ => none
    else none

structure Mantissa where
  negative : Bool
  whole : List Char
  fraction : List Char
  deriving DecidableEq

def Mantissa.scaled? (mantissa : Mantissa) (negative : Bool) (digits : List Char) :
    Option Binary64 :=
  let size : Int := valueOf 10 digits
  Quantity.ofDecimal? mantissa.negative (mantissa.whole ++ mantissa.fraction)
    ((if negative then -size else size) - mantissa.fraction.length)

def plain? (chars : List Char) : Option (Mantissa × Tail) :=
  let (negative, rest) := minus chars
  (digits? isDecimal false rest).bind fun (whole, rest) =>
    (tail? rest).map fun tail => (⟨negative, whole, []⟩, tail)

def pointed? (before behind : List Char) : Option (Mantissa × Tail) :=
  let (negative, rest) := minus before
  match digits? isDecimal false rest with
  | some (whole, []) =>
    (digits? isDecimal true behind).bind fun (fraction, rest) =>
      (tail? rest).map fun tail => (⟨negative, whole, fraction⟩, tail)
  | _ => none

def power? (chars : List Char) : Option (List Char) :=
  match digits? isDecimal true chars with
  | some (digits, []) => some digits
  | _ => none

end TronGateway.Toml.Number
