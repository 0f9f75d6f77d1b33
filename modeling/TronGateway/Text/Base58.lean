import TronGateway.Number.Decimal
import TronGateway.Number.Radix
import TronGateway.Text.Utf8
import TronGateway.Text.Quoted
set_option autoImplicit false

/-!
# Base58 text

Bytes as digits in base 58 over an alphabet without `0`, `O`, `I` and `l`. A leading zero byte is
written as a leading `1`, so that the length of the byte string survives.
-/

namespace TronGateway.Base58

def alphabet : List Char :=
  "123456789ABCDEFGHJKLMNPQRSTUVWXYZabcdefghijkmnopqrstuvwxyz".toList

def digitChar (value : Nat) : Char :=
  alphabet.getD value '1'

def value? (byte : UInt8) : Option Nat :=
  alphabet.findIdx? fun c => c.toNat = byte.toNat

def encodeChars (bytes : List UInt8) : List Char :=
  let zeros := (bytes.takeWhile (· == 0)).length
  let number := Radix.value 256 (bytes.map UInt8.toNat)
  List.replicate zeros '1' ++ (Radix.digits 58 number).map digitChar

def encode (bytes : List UInt8) : String :=
  String.ofList (encodeChars bytes)

inductive Fault where
  | notAscii (index : Nat)
  | invalidDigit (byte : UInt8) (index : Nat)
  deriving DecidableEq, Repr

def Fault.message : Fault → String
  | .notAscii index =>
    "provided string contained non-ascii character starting at byte " ++ Decimal.ofNat index
  | .invalidDigit byte index =>
    "provided string contained invalid character " ++
      Text.quotedSingle (Char.ofNat byte.toNat) ++ " at byte " ++ Decimal.ofNat index

/-- The digit values of the bytes of a text of which the first stands at `index`. -/
def digitValues (index : Nat) : List UInt8 → Except Fault (List Nat)
  | [] => .ok []
  | byte :: rest =>
    if 0x80 ≤ byte then .error (.notAscii index)
    else
      match value? byte with
      | none => .error (.invalidDigit byte index)
      | some value => (digitValues (index + 1) rest).map (value :: ·)

def bytesOfDigits (values : List Nat) : List UInt8 :=
  let zeros := (values.takeWhile (· == 0)).length
  let number := Radix.value 58 values
  List.replicate zeros 0 ++ (Radix.digits 256 number).map UInt8.ofNat

def decode (text : String) : Except Fault (List UInt8) :=
  (digitValues 0 (Utf8.encode text)).map bytesOfDigits

end TronGateway.Base58
