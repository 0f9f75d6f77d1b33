import TronGateway.Error
import TronGateway.Text.Base58
import TronGateway.Hash.Sha256
import TronGateway.Hash.Keccak256
set_option autoImplicit false

/-!
# Addresses

A TRON address is a version byte, 0x41 on the main network, and the 20 bytes of an account. It has
three spellings: base58 with a checksum (34 characters), hexadecimal behind `41` (42 characters)
and, for contracts, hexadecimal behind `0x` (42 characters). The functions here tell the spellings
apart by their length in bytes.
-/

namespace TronGateway.Address

def versionHex : String := "41"

def base58Length : Nat := 34

def hexLength : Nat := 42

def checksumLength : Nat := 4

/-- The first four bytes of the twofold SHA-256 hash. -/
def checksum (payload : List UInt8) : List UInt8 :=
  (Sha256.digest (Sha256.digest payload)).take checksumLength

def base58ToHex (address : String) : Except Error String :=
  match Base58.decode address with
  | .error fault => .error (.invalidAddress (address ++ ": " ++ fault.message))
  | .ok decoded =>
    if decoded.length ≤ checksumLength then .error (.invalidAddress (address ++ ": too short"))
    else
      let payload := decoded.take (decoded.length - checksumLength)
      let check := decoded.drop (decoded.length - checksumLength)
      if checksum payload = check then .ok (Hex.encode payload)
      else .error (.invalidAddress (address ++ ": bad checksum"))

def base58OfPayload (payload : List UInt8) : String :=
  Base58.encode (payload ++ checksum payload)

/-- A hexadecimal spelling with `0x` in front replaced by the version byte. -/
def normalizeHex (address : String) : String :=
  match address.toList with
  | '0' :: 'x' :: rest => versionHex ++ String.ofList rest
  | _ => address

def hexToBase58 (address : String) : Except Error String :=
  match Hex.decode (normalizeHex address) with
  | .error fault => .error (.invalidAddress (address ++ ": " ++ fault.message))
  | .ok payload => .ok (base58OfPayload payload)

/-- The other spelling: base58 becomes hexadecimal and hexadecimal becomes base58. -/
def convert (address : String) : Except Error String :=
  let length := Utf8.byteLength address
  if length = base58Length then base58ToHex address
  else if length = hexLength then hexToBase58 address
  else .error (.invalidAddress (address ++ " (length " ++ Decimal.ofNat length ++ ")"))

/-- The base58 spelling; one that is base58 already is checked and kept. -/
def toBase58 (address : String) : Except Error String :=
  if Utf8.byteLength address = base58Length then (base58ToHex address).map fun _ => address
  else convert address

def toHex (address : String) : Except Error String :=
  if Utf8.byteLength address = hexLength then
    match convert address with
    | .error failure => .error failure
    | .ok base58 => convert base58
  else convert address

/-- The hexadecimal spelling with the version byte replaced by `0x`. -/
def toContractHex (address : String) : Except Error String :=
  (toHex address).map fun hex => "0x" ++ String.ofList (hex.toList.drop 2)

def ofAccount (account : List UInt8) : Except Error String :=
  if account.length = 20 then convert (versionHex ++ Hex.encode account)
  else .error (.invalidAddress ("expected 20 bytes, got " ++ Decimal.ofNat account.length))

/-- The address of a public key: the last 20 bytes of the Keccak-256 hash of its coordinates. -/
def ofKey (key : Curve.PublicKey) : Except Error String :=
  ofAccount ((Keccak256.digest key.coordinates).drop 12)

end TronGateway.Address
