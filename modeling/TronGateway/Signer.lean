import TronGateway.Action
import TronGateway.KeyText
import TronGateway.Curve.Signature
set_option autoImplicit false

/-!
# Signers

A signature is 65 bytes from which the signer can be recovered. The gateway signs with a key of its
own or asks the threshold signing service.
-/

namespace TronGateway.Signer

open Curve (SecretKey PublicKey)

def localKey (text : String) : Except Error SecretKey := do
  let bytes ← Hex.readMarked text
  (SecretKey.ofBytes bytes).mapError Error.ofCurve

def publicText (key : SecretKey) : String :=
  Hex.encode key.publicKey.compressed

def signLocally (key : SecretKey) (hash : List UInt8) : Except Error (List UInt8) :=
  (Curve.sign key hash).mapError Error.ofCurve

def recover (hash signature : List UInt8) : Except Error PublicKey :=
  if signature.length ≠ Curve.signatureLength then
    .error (.crypto ("signature is " ++ Decimal.ofNat signature.length ++ " bytes, want " ++
      Decimal.ofNat Curve.signatureLength))
  else (Curve.recover hash signature).mapError Error.ofCurve

def verify (hash signature : List UInt8) (key : String) : Except Error Unit := do
  let expected ← KeyText.parse key
  match recover hash signature with
  | .error _ => throw .signVerifyFailed
  | .ok signer => if signer = expected then return () else throw .signVerifyFailed

def remoteBytes (reply : Except Error RemoteSignature) : Except Error (List UInt8) := do
  (← reply).bytes

/-- Who can sign for the vaults, and whether blames can be reported. -/
structure Signers where
  localKey : Option SecretKey
  remote : Bool
  reporter : Bool

/-- The local key, when the vault is its own. -/
def Signers.ownKey? (signers : Signers) (vault : String) : Option SecretKey :=
  signers.localKey.filter fun key => KeyText.same (publicText key) vault

end TronGateway.Signer
