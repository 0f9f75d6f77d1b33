import TronGateway.Transaction.Basic
import TronGateway.Wire.Message
import TronGateway.Order
set_option autoImplicit false

/-!
# Rehashing

After the visible fields of a transaction have been changed, the signed bytes and the hash have to
follow: five fields are written into the bytes, every other field stays as it is. All that can fail
comes before the first change.
-/

namespace TronGateway.Transaction

/-- An edit of a transaction in place, which may fail on the way. -/
abbrev Edit (α : Type) := ExceptT Error (StateM Transaction) α

/-- Brings the signed bytes and the hash of a transaction in line with its visible fields. -/
def rehashInPlace : Edit Unit := do
  let tx ← get
  let bytes ← Hex.read tx.rawHex
  let some stale := Wire.SignedData.decode bytes | throw .protobuf
  let refBlockBytes ← Hex.read tx.raw.refBlockBytes
  let refBlockHash ← Hex.read tx.raw.refBlockHash
  let data ← Hex.read tx.raw.data
  let encoded := Wire.SignedData.encode { stale with
    timestamp := tx.raw.timestamp
    expiration := tx.raw.expiration
    refBlockBytes := refBlockBytes
    refBlockHash := refBlockHash
    data := data }
  modify fun tx => { tx with rawHex := Hex.encode encoded }
  modify fun tx => { tx with id := sha256Hex encoded }

def rehash (tx : Transaction) : Except Error Transaction :=
  match rehashInPlace.run.run tx with
  | (.ok (), after) => .ok after
  | (.error failure, _) => .error failure

end TronGateway.Transaction
