import TronGateway.Number.Decimal
import TronGateway.Text.Utf8
import TronGateway.Text.Quoted
set_option autoImplicit false

/-!
# Hexadecimal text

Bytes as pairs of hexadecimal digits. Writing uses lower-case digits; reading takes both cases and
works on the bytes of the text, so that the place of a bad character is a byte index.
-/

namespace TronGateway.Hex

def digitChar (value : Nat) : Char :=
  if value < 10 then Char.ofNat (48 + value) else Char.ofNat (87 + value)

def encodeByte (byte : UInt8) : List Char :=
  [digitChar (byte.toNat / 16), digitChar (byte.toNat % 16)]

def encodeChars (bytes : List UInt8) : List Char :=
  bytes.flatMap encodeByte

def encode (bytes : List UInt8) : String :=
  String.ofList (encodeChars bytes)

inductive Fault where
  | oddLength
  /-- The byte at `index` is no digit. -/
  | invalidDigit (byte : UInt8) (index : Nat)
  deriving DecidableEq, Repr

/-- The wording of a fault; the byte is shown as the character of the same number. -/
def Fault.message : Fault → String
  | .oddLength => "Odd number of digits"
  | .invalidDigit byte index =>
    "Invalid character " ++ Text.quotedSingle (Char.ofNat byte.toNat) ++ " at position " ++
      Decimal.ofNat index

def value? (byte : UInt8) : Option Nat :=
  let code := byte.toNat
  if 48 ≤ code ∧ code ≤ 57 then some (code - 48)
  else if 97 ≤ code ∧ code ≤ 102 then some (code - 87)
  else if 65 ≤ code ∧ code ≤ 70 then some (code - 55)
  else none

def decodePairs (index : Nat) : List UInt8 → Except Fault (List UInt8)
  | high :: low :: rest =>
    match value? high with
    | none => .error (.invalidDigit high index)
    | some highValue =>
      match value? low with
      | none => .error (.invalidDigit low (index + 1))
      | some lowValue =>
        (decodePairs (index + 2) rest).map (UInt8.ofNat (highValue * 16 + lowValue) :: ·)
  | _ => .ok []

/-- The bytes of a hexadecimal text; an odd length is refused before any digit is looked at. -/
def decode (text : String) : Except Fault (List UInt8) :=
  let bytes := Utf8.encode text
  if bytes.length % 2 = 1 then .error .oddLength else decodePairs 0 bytes

def allDigits (text : String) : Bool :=
  text.toList.all fun c => ('0' ≤ c && c ≤ '9') || ('a' ≤ c && c ≤ 'f') || ('A' ≤ c && c ≤ 'F')

def withoutMarks : List Char → List Char
  | '0' :: 'x' :: rest => withoutMarks rest
  | chars => chars

/-- The bytes of a hexadecimal text in front of which any number of `0x` may stand. -/
def decodeMarked (text : String) : Except Fault (List UInt8) :=
  decode (String.ofList (withoutMarks text.toList))

end TronGateway.Hex
