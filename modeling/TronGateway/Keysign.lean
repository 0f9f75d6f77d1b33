import TronGateway.Error
set_option autoImplicit false

/-!
# Threshold signatures

What the threshold signing service is asked for and what it answers.
-/

namespace TronGateway

inductive SignAlgorithm where
  | secp256k1
  | ed25519
  deriving DecidableEq, Repr

def SignAlgorithm.name : SignAlgorithm → String
  | .secp256k1 => "Secp256K1"
  | .ed25519 => "Ed25519"

def SignAlgorithm.ofName? (name : String) : Option SignAlgorithm :=
  if name = SignAlgorithm.secp256k1.name then some .secp256k1
  else if name = SignAlgorithm.ed25519.name then some .ed25519
  else none

/-- A signature of the signing service: the bytes of `r` and `s`, and the recovery number. -/
structure RemoteSignature where
  parts : List UInt8
  recovery : UInt8
  deriving DecidableEq, Repr

def RemoteSignature.bytes (signature : RemoteSignature) : Except Error (List UInt8) :=
  if signature.parts.length = 64 then .ok (signature.parts ++ [signature.recovery])
  else
    .error (.crypto
      ("remote signature is " ++ Decimal.ofNat signature.parts.length ++ " bytes, want 64"))

end TronGateway
