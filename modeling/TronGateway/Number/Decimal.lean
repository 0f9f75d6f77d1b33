set_option autoImplicit false

/-!
# Decimal text of integers

Integers as decimal digits, and decimal digits read back inside given bounds. A reader takes one
sign in front; a minus is a sign only where the bounds admit negative numbers. It looks at the
digits from left to right and refuses at the first character that is no digit or that takes the
number out of the bounds.
-/

namespace TronGateway.Decimal

def natChars (n : Nat) : List Char :=
  Nat.toDigits 10 n

def intChars : Int → List Char
  | .ofNat n => natChars n
  | .negSucc n => '-' :: natChars (n + 1)

def ofNat (n : Nat) : String :=
  String.ofList (natChars n)

def ofInt (n : Int) : String :=
  String.ofList (intChars n)

/-- Why a text is no integer of the wanted range. -/
inductive Fault where
  | empty
  | invalidDigit
  | tooLarge
  | tooSmall
  deriving DecidableEq, Repr

def Fault.message : Fault → String
  | .empty => "cannot parse integer from empty string"
  | .invalidDigit => "invalid digit found in string"
  | .tooLarge => "number too large to fit in target type"
  | .tooSmall => "number too small to fit in target type"

def digit? (c : Char) : Option Nat :=
  if '0' ≤ c ∧ c ≤ '9' then some (c.toNat - 48) else none

def readUp (high : Nat) : Nat → List Char → Except Fault Nat
  | value, [] => .ok value
  | value, c :: rest =>
    match digit? c with
    | none => .error .invalidDigit
    | some digit =>
      let next := value * 10 + digit
      if next ≤ high then readUp high next rest else .error .tooLarge

/-- Reads the digits behind a minus; `depth` is the size of the least number admitted. -/
def readDown (depth : Nat) : Nat → List Char → Except Fault Nat
  | value, [] => .ok value
  | value, c :: rest =>
    match digit? c with
    | none => .error .invalidDigit
    | some digit =>
      let next := value * 10 + digit
      if next ≤ depth then readDown depth next rest else .error .tooSmall

def readNat (high : Nat) (chars : List Char) : Except Fault Nat :=
  match chars with
  | [] => .error .empty
  | ['+'] => .error .invalidDigit
  | '+' :: digits => readUp high 0 digits
  | digits => readUp high 0 digits

def readInt (depth high : Nat) (chars : List Char) : Except Fault Int :=
  match chars with
  | [] => .error .empty
  | ['+'] => .error .invalidDigit
  | ['-'] => .error .invalidDigit
  | '+' :: digits => (readUp high 0 digits).map Int.ofNat
  | '-' :: digits => (readDown depth 0 digits).map fun size => -Int.ofNat size
  | digits => (readUp high 0 digits).map Int.ofNat

def readInt64 (text : String) : Except Fault Int64 :=
  (readInt 0x8000000000000000 (0x8000000000000000 - 1) text.toList).map Int64.ofInt

def readUInt64 (text : String) : Except Fault UInt64 :=
  (readNat (0x10000000000000000 - 1) text.toList).map UInt64.ofNat

end TronGateway.Decimal
