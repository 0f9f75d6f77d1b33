import TronGateway.Address
import TronGateway.Text.Bech32
import TronGateway.Text.Uppercase
set_option autoImplicit false

/-!
# Public keys as text

A vault key arrives as hexadecimal digits or in the bech32 form of the protocol chain, whose
readable part ends in `pub` and whose bytes start with a marker for the curve.
-/

namespace TronGateway.KeyText

def curveMarker : List UInt8 := [0xeb, 0x5a, 0xe9, 0x87, 0x21]

def behind? {α : Type} [DecidableEq α] : List α → List α → Option (List α)
  | [], rest => some rest
  | _ :: _, [] => none
  | a :: front, b :: rest => if a = b then behind? front rest else none

def bytesOfBech32 (text : String) : Except Error (List UInt8) :=
  match Bech32.decode text with
  | .error fault => .error (.decode (text ++ ": " ++ fault.message))
  | .ok (readable, values) =>
    if (behind? "bup".toList readable.toList.reverse).isNone then
      .error (.decode (text ++ ": not a public key prefix (" ++ readable ++ ")"))
    else
      match Bech32.bytes values with
      | .error fault => .error (.decode (text ++ ": " ++ fault.message))
      | .ok bytes =>
        match behind? curveMarker bytes with
        | some key => .ok key
        | none => .error (.decode (text ++ ": not a secp256k1 key"))

def bytes (text : String) : Except Error (List UInt8) :=
  if Hex.allDigits text then Hex.read text else bytesOfBech32 text

def parse (text : String) : Except Error Curve.PublicKey :=
  match bytes text with
  | .error failure => .error failure
  | .ok encoded => (Curve.PublicKey.ofBytes encoded).mapError Error.ofCurve

/-- The address of the key that a text stands for. -/
def address (text : String) : Except Error String :=
  match parse text with
  | .error failure => .error failure
  | .ok key => Address.ofKey key

/-- Two texts stand for the same key: they agree up to the case of letters, or both can be read and
give one key. -/
def same (left right : String) : Bool :=
  if Text.sameIgnoringAsciiCase left right then true
  else
    match parse left, parse right with
    | .ok leftKey, .ok rightKey => leftKey = rightKey
    | _, _ => false

end TronGateway.KeyText
