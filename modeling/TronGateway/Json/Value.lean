import TronGateway.Json.Syntax
import TronGateway.Number.Binary64
set_option autoImplicit false

/-!
# JSON values

The value of a JSON text, without the accidents of its spelling: members sorted by name, the last of
repeated ones kept, integers of 64 bits exact and all other numbers binary. A value is written back
with the fewest digits for binary numbers.
-/

namespace TronGateway

inductive Value where
  | null
  | bool (value : Bool)
  | integer (value : Int)
  | float (value : Binary64)
  | text (value : String)
  | array (items : List Value)
  | object (members : List (String × Value))

namespace Numeral

/-- Adds digits to a number while it stays below 2^64: the number, how many digits were added, and
the digits left over. -/
def accumulate (number : Nat) : List Char → Nat × Nat × List Char
  | [] => (number, 0, [])
  | c :: rest =>
    let next := number * 10 + (c.toNat - 48)
    if next < 0x10000000000000000 then
      let (number, count, left) := accumulate next rest
      (number, count + 1, left)
    else (number, 0, c :: rest)

/-- Scales a binary number by a power of ten in steps that a binary number can hold. -/
def scaleByTen : Nat → Binary64 → Int → Option Binary64
  | 0, value, _ => some value
  | fuel + 1, value, exponent =>
    if exponent.natAbs ≤ 308 then
      (Binary64.powerOfTen? exponent.natAbs).bind fun power =>
        if 0 ≤ exponent then value.mul? power else value.div? power
    else if value.significand = 0 then some value
    else if 0 ≤ exponent then none
    else
      ((Binary64.powerOfTen? 308).bind value.div?).bind fun value =>
        scaleByTen fuel value (exponent + 308)

def writtenExponent? (digits : List Char) : Option Nat :=
  let size := (digits.foldl (fun size c => size * 10 + (c.toNat - 48)) 0)
  if size < 0x80000000 then some size else none

def clampExponent (exponent : Int) : Int :=
  max (-0x80000000) (min (0x80000000 - 1) exponent)

/-- The binary number of a numeral: its first digits below 2^64, rounded, and scaled by a power of
ten with one more rounding. None when that is beyond the largest binary number. -/
def toBinary? (numeral : Numeral) : Option Binary64 :=
  let (number, _, wholeLeft) := accumulate 0 numeral.whole
  let (number, count, _) := accumulate number numeral.fraction
  let start : Int := (wholeLeft.length : Int) - (count : Int)
  let exponent? : Option (Option Int) :=
    match numeral.exponent with
    | none => some (some start)
    | some (negative, digits) =>
      match writtenExponent? digits with
      | some size => some (some (clampExponent (if negative then start - size else start + size)))
      | none => if number ≠ 0 ∧ !negative then none else some none
  match exponent? with
  | none => none
  | some none => some (Binary64.zero numeral.negative)
  | some (some exponent) =>
    ((Binary64.round? numeral.negative number 1).bind fun value => scaleByTen 12 value exponent)

/-- The integer of a numeral without point and exponent; minus zero is none. -/
def toInt? (numeral : Numeral) : Option Int :=
  if numeral.fraction.isEmpty ∧ numeral.exponent.isNone then
    let size := numeral.whole.foldl (fun size c => size * 10 + (c.toNat - 48)) 0
    if numeral.negative then (if size = 0 then none else some (-Int.ofNat size))
    else some (Int.ofNat size)
  else none

/-- The value of a numeral: an integer where it is one of 64 bits, else a binary number. -/
def toValue? (numeral : Numeral) : Option Value :=
  match numeral.toInt? with
  | some n =>
    if -0x8000000000000000 ≤ n ∧ n < 0x10000000000000000 then some (.integer n)
    else numeral.toBinary?.map .float
  | none => numeral.toBinary?.map .float

/-- The numeral of a binary number: positional when its first digit stands at a place from -5 to 15,
else with one digit before the point and an exponent. -/
def ofBinary (value : Binary64) : Numeral :=
  let (number, exponent) := value.shortest
  if number = 0 then ⟨value.negative, ['0'], ['0'], none⟩
  else
    let digits := Decimal.natChars number
    let place : Int := (digits.length : Int) - 1 + exponent
    if 0 ≤ place ∧ place ≤ 15 then
      let wholeLength := place.toNat + 1
      let whole := (digits.take wholeLength) ++ List.replicate (wholeLength - digits.length) '0'
      let fraction := digits.drop wholeLength
      ⟨value.negative, whole, if fraction.isEmpty then ['0'] else fraction, none⟩
    else if -5 ≤ place ∧ place < 0 then
      ⟨value.negative, ['0'], List.replicate (place.natAbs - 1) '0' ++ digits, none⟩
    else
      ⟨value.negative, digits.take 1, digits.drop 1,
        some (place < 0, Decimal.natChars place.natAbs)⟩

end Numeral

namespace Value

def insertMember (key : String) (item : Value) : List (String × Value) → List (String × Value)
  | [] => [(key, item)]
  | (other, kept) :: rest =>
    if key = other then (key, item) :: rest
    else if key < other then (key, item) :: (other, kept) :: rest
    else (other, kept) :: insertMember key item rest

mutual

/-- The value of a tree of at most `depth` nested arrays and objects. -/
def ofJson? (depth : Nat) : Json → Option Value
  | .null => some .null
  | .bool value => some (.bool value)
  | .number numeral => numeral.toValue?
  | .text value => value.map .text
  | .array items =>
    match depth with
    | 0 => none
    | depth + 1 => (ofItems? depth items).map .array
  | .object members =>
    match depth with
    | 0 => none
    | depth + 1 => (ofMembers? depth [] members).map .object

def ofItems? (depth : Nat) : List Json → Option (List Value)
  | [] => some []
  | item :: rest =>
    match ofJson? depth item, ofItems? depth rest with
    | some item, some rest => some (item :: rest)
    | _, _ => none

def ofMembers? (depth : Nat) (found : List (String × Value)) :
    List (Option String × Json) → Option (List (String × Value))
  | [] => some found
  | (key, item) :: rest =>
    match key, ofJson? depth item with
    | some key, some item => ofMembers? depth (insertMember key item found) rest
    | _, _ => none

end

mutual

def toJson : Value → Json
  | .null => .null
  | .bool value => .bool value
  | .integer value => .ofInt value
  | .float value => .number (Numeral.ofBinary value)
  | .text value => .ofText value
  | .array items => .array (itemsToJson items)
  | .object members => .object (membersToJson members)

def itemsToJson : List Value → List Json
  | [] => []
  | item :: rest => toJson item :: itemsToJson rest

def membersToJson : List (String × Value) → List (Option String × Json)
  | [] => []
  | (key, item) :: rest => (some key, toJson item) :: membersToJson rest

end

end Value
end TronGateway
