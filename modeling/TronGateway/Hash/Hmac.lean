import TronGateway.Hash.Sha256
set_option autoImplicit false

/-!
# HMAC with SHA-256

The keyed hash for keys of at most one block; the keys of this library have 32 bytes.
-/

namespace TronGateway.Hmac

def maskedKey (mask : UInt8) (key : List UInt8) : List UInt8 :=
  (key ++ List.replicate (64 - key.length) 0).map (· ^^^ mask)

def sign (key message : List UInt8) : List UInt8 :=
  Sha256.digest (maskedKey 0x5c key ++ Sha256.digest (maskedKey 0x36 key ++ message))

end TronGateway.Hmac
