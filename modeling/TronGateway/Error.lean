import TronGateway.Text.Hex
import TronGateway.Curve.Key
set_option autoImplicit false

/-!
# Errors

What can go wrong in the gateway, by the party that has to act on it, and the wording of each error.
-/

namespace TronGateway

/-- The nodes held responsible for a failed threshold signature. -/
structure Blame where
  reason : String
  nodes : List String
  deriving DecidableEq, Repr

def Blame.message (blame : Blame) : String :=
  blame.reason ++ " (blamed: " ++ ",".intercalate blame.nodes ++ ")"

inductive Error where
  /-- A request got no usable reply. -/
  | transport (detail : String)
  /-- Data has not the form that it must have. -/
  | decode (detail : String)
  /-- A reply lacks what was asked for, or refuses it. -/
  | parameter (detail : String)
  | invalidAddress (detail : String)
  /-- No block is known to bind a transaction to. -/
  | noRefBlock
  /-- The order cannot be paid out. -/
  | badOrder (detail : String)
  | signVerifyFailed
  /-- The threshold signature failed and nodes are held responsible. -/
  | keysignBlame (blame : Blame)
  | cancelled
  /-- The node took the transaction and rejected it. -/
  | broadcast (detail : String)
  | crypto (detail : String)
  | config (detail : String)
  | settings
  | database (detail : String)
  | send (detail : String)
  | join
  deriving DecidableEq, Repr

namespace Error

def message : Error → String
  | transport detail => "Transport error: " ++ detail
  | decode detail => "Decode error: " ++ detail
  | parameter detail => "Parameter error: " ++ detail
  | invalidAddress detail => "Invalid address: " ++ detail
  | noRefBlock => "no reference block available"
  | badOrder detail => "Bad outbound order: " ++ detail
  | signVerifyFailed => "signature verification failed"
  | keysignBlame blame => "Keysign failed: " ++ blame.message
  | cancelled => "cancelled"
  | broadcast detail => "Broadcast rejected: " ++ detail
  | crypto detail => "Crypto error: " ++ detail
  | config detail => "Configuration error: " ++ detail
  | settings => "Configuration error"
  | database detail => "Database error: " ++ detail
  | send detail => "Channel send error: " ++ detail
  | join => "Task join error"

def ofHex (fault : Hex.Fault) : Error :=
  decode ("hex decode error: " ++ fault.message)

def ofUtf8 (fault : Utf8.Fault) : Error :=
  decode fault.message

def ofCurve (fault : Curve.Fault) : Error :=
  crypto ("secp256k1 error: " ++ fault.message)

def json : Error :=
  decode "JSON parse error"

def protobuf : Error :=
  decode "protobuf decode error"

def io (detail : String) : Error :=
  database ("IO error: " ++ detail)

def queueClosed : Error :=
  send "Channel send failed: channel closed"

end Error

def Hex.read (text : String) : Except Error (List UInt8) :=
  (Hex.decode text).mapError Error.ofHex

/-- Hexadecimal text as bytes, behind any number of `0x`. -/
def Hex.readMarked (text : String) : Except Error (List UInt8) :=
  (Hex.decodeMarked text).mapError Error.ofHex

end TronGateway
