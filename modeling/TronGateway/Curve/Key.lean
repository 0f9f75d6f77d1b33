import TronGateway.Curve.Point
import TronGateway.Number.BigEndian
set_option autoImplicit false

/-!
# Keys

Public keys as encoded points, and secret keys.
-/

namespace TronGateway.Curve

inductive Fault where
  | publicKey
  | secretKey
  | hashLength
  | signature
  | recoveryId
  deriving DecidableEq, Repr

def Fault.message : Fault → String
  | .publicKey => "secp: malformed public key"
  | .secretKey => "secp: malformed or out-of-range secret key"
  | .hashLength => "secp: message was not 32 bytes (do you need to hash?)"
  | .signature => "secp: malformed signature"
  | .recoveryId => "secp: bad recovery id"

abbrev PublicKey := Point

namespace PublicKey

/-- Reads the encodings with a tag: 33 bytes with tag 2 or 3 (parity of the ordinate), or 65 bytes
with tag 4, or with tag 6 or 7 when it matches the parity. -/
def ofBytes (bytes : List UInt8) : Except Fault PublicKey :=
  match bytes with
  | [] => .error .publicKey
  | tag :: body =>
    if body.length = 32 ∧ (tag = 2 ∨ tag = 3) then
      let x := BigEndian.toNat body
      if x < fieldPrime then
        match lift? x (tag = 3) with
        | some point => .ok point
        | none => .error .publicKey
      else .error .publicKey
    else if body.length = 64 ∧ (tag = 4 ∨ tag = 6 ∨ tag = 7) then
      let x := BigEndian.toNat (body.take 32)
      let y := BigEndian.toNat (body.drop 32)
      let parityAgrees := tag = 4 ∨ (tag = 7 ↔ y % 2 = 1)
      if x < fieldPrime ∧ y < fieldPrime ∧ parityAgrees ∧ onCurve x y then .ok ⟨x, y⟩
      else .error .publicKey
    else .error .publicKey

def compressed (key : PublicKey) : List UInt8 :=
  (if key.y % 2 = 1 then 3 else 2) :: BigEndian.ofNat 32 key.x

def coordinates (key : PublicKey) : List UInt8 :=
  BigEndian.ofNat 32 key.x ++ BigEndian.ofNat 32 key.y

def uncompressed (key : PublicKey) : List UInt8 :=
  4 :: key.coordinates

end PublicKey

/-- A secret key is a number between zero and the order, both excluded. -/
structure SecretKey where
  scalar : Nat
  positive : 0 < scalar
  bounded : scalar < order

namespace SecretKey

def ofBytes (bytes : List UInt8) : Except Fault SecretKey :=
  if bytes.length = 32 then
    let scalar := BigEndian.toNat bytes
    if valid : 0 < scalar ∧ scalar < order then .ok ⟨scalar, valid.1, valid.2⟩
    else .error .secretKey
  else .error .secretKey

def bytes (key : SecretKey) : List UInt8 :=
  BigEndian.ofNat 32 key.scalar

/-- The public key of a secret key. A multiple of the generator by such a scalar is never the
neutral element, for which the generator itself stands here. -/
def publicKey (key : SecretKey) : PublicKey :=
  (generator.multiply? key.scalar).getD generator

end SecretKey
end TronGateway.Curve
