import TronGateway.Transaction.Rehash
import TronGateway.Proofs.Text.Hex
import TronGateway.Proofs.Wire.Message
set_option autoImplicit false

/-!
# What rehashing changes

A transaction whose texts can all be read comes out with signed bytes that differ from the old ones
in five fields, and with their hash; it is then left alone by a further pass. When one of its texts
cannot be read, nothing of it changes.
-/

namespace TronGateway.Transaction

/-- What the texts of a transaction stand for. -/
structure Parts where
  /-- The signed data before the change. -/
  stale : Wire.SignedData
  refBlockBytes : List UInt8
  refBlockHash : List UInt8
  data : List UInt8

/-- The texts of the transaction can be read and have these parts. -/
structure HasParts (tx : Transaction) (parts : Parts) : Prop where
  stale : ∃ bytes, Hex.decode tx.rawHex = .ok bytes ∧
    Wire.SignedData.decode bytes = some parts.stale
  refBlockBytes : Hex.decode tx.raw.refBlockBytes = .ok parts.refBlockBytes
  refBlockHash : Hex.decode tx.raw.refBlockHash = .ok parts.refBlockHash
  data : Hex.decode tx.raw.data = .ok parts.data

/-- The signed data with the time, the reference and the memo of the visible fields. -/
def Parts.renew (parts : Parts) (raw : RawData) : Wire.SignedData :=
  { parts.stale with
    timestamp := raw.timestamp
    expiration := raw.expiration
    refBlockBytes := parts.refBlockBytes
    refBlockHash := parts.refBlockHash
    data := parts.data }

def withSigned (tx : Transaction) (bytes : List UInt8) : Transaction :=
  { tx with rawHex := Hex.encode bytes, id := Hex.encode (Sha256.digest bytes) }

@[simp] theorem withSigned_raw (tx : Transaction) (bytes : List UInt8) :
    (tx.withSigned bytes).raw = tx.raw := rfl

@[simp] theorem withSigned_withSigned (tx : Transaction) (first second : List UInt8) :
    (tx.withSigned first).withSigned second = tx.withSigned second := by
  simp only [withSigned]

theorem Parts.renew_renew (parts : Parts) (raw : RawData) :
    Parts.renew { parts with stale := parts.renew raw } raw = parts.renew raw := by
  simp only [renew]

private theorem run_get_bind {α : Type} (next : Transaction → Edit α) (tx : Transaction) :
    ((get : Edit Transaction) >>= next).run.run tx = (next tx).run.run tx := rfl

private theorem run_lift_bind {α β : Type} (result : Except Error α) (next : α → Edit β)
    (tx : Transaction) :
    ((liftM result : Edit α) >>= next).run.run tx =
      match result with
      | .ok value => (next value).run.run tx
      | .error failure => (.error failure, tx) := by
  cases result <;> rfl

private theorem absurd_read {text : String} {bytes : List UInt8} {failure : Error}
    (failed : Hex.read text = .error failure) (decoded : Hex.decode text = .ok bytes) : False := by
  rw [Hex.read_eq_ok_iff.mpr decoded] at failed
  cases failed

theorem rehashInPlace_cases (tx : Transaction) :
    (∃ parts, tx.HasParts parts ∧
      rehashInPlace.run.run tx = (.ok (), tx.withSigned (parts.renew tx.raw).encode)) ∨
    (¬ ∃ parts, tx.HasParts parts) ∧
      ∃ failure, rehashInPlace.run.run tx = (.error failure, tx) := by
  unfold rehashInPlace
  rw [run_get_bind, run_lift_bind]
  cases rawRead : Hex.read tx.rawHex with
  | error failure =>
      refine Or.inr ⟨?_, failure, rfl⟩
      rintro ⟨parts, known⟩
      obtain ⟨bytes, decoded, -⟩ := known.stale
      exact absurd_read rawRead decoded
  | ok bytes =>
      cases parsed : Wire.SignedData.decode bytes with
      | none =>
          refine Or.inr ⟨?_, Error.protobuf, by simp only [parsed]; rfl⟩
          rintro ⟨parts, known⟩
          obtain ⟨others, decoded, parsedToo⟩ := known.stale
          rw [Hex.read_eq_ok_iff.mpr decoded] at rawRead
          cases rawRead
          rw [parsed] at parsedToo
          cases parsedToo
      | some stale =>
          simp only [parsed]
          rw [run_lift_bind]
          cases blockBytesRead : Hex.read tx.raw.refBlockBytes with
          | error failure =>
              refine Or.inr ⟨?_, failure, rfl⟩
              rintro ⟨parts, known⟩
              exact absurd_read blockBytesRead known.refBlockBytes
          | ok refBlockBytes =>
              dsimp only
              rw [run_lift_bind]
              cases blockHashRead : Hex.read tx.raw.refBlockHash with
              | error failure =>
                  refine Or.inr ⟨?_, failure, rfl⟩
                  rintro ⟨parts, known⟩
                  exact absurd_read blockHashRead known.refBlockHash
              | ok refBlockHash =>
                  dsimp only
                  rw [run_lift_bind]
                  cases dataRead : Hex.read tx.raw.data with
                  | error failure =>
                      refine Or.inr ⟨?_, failure, rfl⟩
                      rintro ⟨parts, known⟩
                      exact absurd_read dataRead known.data
                  | ok data =>
                      have stalePart : ∃ bytes, Hex.decode tx.rawHex = .ok bytes ∧
                          Wire.SignedData.decode bytes = some stale :=
                        ⟨bytes, Hex.read_eq_ok_iff.mp rawRead, parsed⟩
                      exact Or.inl ⟨⟨stale, refBlockBytes, refBlockHash, data⟩,
                        ⟨stalePart, Hex.read_eq_ok_iff.mp blockBytesRead,
                          Hex.read_eq_ok_iff.mp blockHashRead, Hex.read_eq_ok_iff.mp dataRead⟩, rfl⟩

/-! ### A further pass -/

theorem length_lt_of_fitsMemory {bytes : List UInt8} (held : Utf8.FitsMemory (Hex.encode bytes)) :
    bytes.length < 2 ^ 64 := by
  unfold Utf8.FitsMemory at held
  rw [Hex.byteLength_encode] at held
  omega

/-- The parts of a transaction that has been brought in line are its old ones, except that the
signed data are not stale any more. -/
theorem HasParts.withSigned {tx : Transaction} {parts : Parts} (known : tx.HasParts parts)
    (fits : (parts.renew tx.raw).encode.length < 2 ^ 64) :
    (tx.withSigned (parts.renew tx.raw).encode).HasParts
      { parts with stale := parts.renew tx.raw } where
  stale := ⟨_, Hex.decode_encode _, Wire.SignedData.decode_encode _ fits⟩
  refBlockBytes := known.refBlockBytes
  refBlockHash := known.refBlockHash
  data := known.data

theorem HasParts.unique {tx : Transaction} {first second : Parts} (left : tx.HasParts first)
    (right : tx.HasParts second) : first = second := by
  obtain ⟨⟨bytes, decoded, parsed⟩, blockBytes, blockHash, data⟩ := left
  obtain ⟨⟨others, decodedToo, parsedToo⟩, blockBytesToo, blockHashToo, dataToo⟩ := right
  cases decoded.symm.trans decodedToo
  cases first
  cases second
  cases parsed.symm.trans parsedToo
  cases blockBytes.symm.trans blockBytesToo
  cases blockHash.symm.trans blockHashToo
  cases data.symm.trans dataToo
  rfl

theorem rehashInPlace_of_hasParts {tx : Transaction} {parts : Parts} (known : tx.HasParts parts) :
    rehashInPlace.run.run tx = (.ok (), tx.withSigned (parts.renew tx.raw).encode) := by
  rcases rehashInPlace_cases tx with ⟨found, knownToo, ran⟩ | ⟨unknown, -⟩
  · rw [known.unique knownToo]
    exact ran
  · exact absurd ⟨parts, known⟩ unknown

theorem rehashInPlace_withSigned {tx : Transaction} {parts : Parts} (known : tx.HasParts parts)
    (fits : (parts.renew tx.raw).encode.length < 2 ^ 64) :
    rehashInPlace.run.run (tx.withSigned (parts.renew tx.raw).encode) =
      (.ok (), tx.withSigned (parts.renew tx.raw).encode) := by
  have again := rehashInPlace_of_hasParts (known.withSigned fits)
  rw [withSigned_raw, Parts.renew_renew, withSigned_withSigned] at again
  exact again

/-- A pass over a transaction fails and changes nothing, exactly when one of its texts cannot be
read. Otherwise the signed bytes afterwards are read as the signed data before, with the time, the
reference and the memo of the visible fields in them and all else as it was; the hash is that of the
bytes, no other part of the transaction has changed, and a further pass changes nothing. -/
theorem rehashInPlace_writes_five_fields_or_nothing (tx after : Transaction)
    (result : Except Error Unit) (ran : rehashInPlace.run.run tx = (result, after))
    (held : Utf8.FitsMemory after.rawHex) :
    match result with
    | .error _ => after = tx ∧ ¬ ∃ parts, tx.HasParts parts
    | .ok () =>
      ∃ parts bytes, tx.HasParts parts ∧
        after = { tx with rawHex := Hex.encode bytes, id := Hex.encode (Sha256.digest bytes) } ∧
        Wire.SignedData.decode bytes = some { parts.stale with
          timestamp := tx.raw.timestamp
          expiration := tx.raw.expiration
          refBlockBytes := parts.refBlockBytes
          refBlockHash := parts.refBlockHash
          data := parts.data } ∧
        rehashInPlace.run.run after = (.ok (), after) := by
  rcases rehashInPlace_cases tx with ⟨parts, known, written⟩ | ⟨unknown, failure, failed⟩
  · cases written.symm.trans ran
    have fits := length_lt_of_fitsMemory held
    exact ⟨parts, (parts.renew tx.raw).encode, known, rfl, Wire.SignedData.decode_encode _ fits,
      rehashInPlace_withSigned known fits⟩
  · cases failed.symm.trans ran
    exact ⟨rfl, unknown⟩

/-! A transaction whose signed bytes are not in the order of their tags, hold a field that nobody
knows and a message without content. -/

def staleData : Wire.SignedData where
  refBlockBytes := [0x95, 0xa2]
  refBlockNum := -1
  refBlockHash := []
  expiration := 0
  auths := [⟨some ⟨[], []⟩, [0x61]⟩]
  data := []
  contracts := [⟨1, some ⟨"T", [9]⟩, [], [], 2⟩]
  scripts := []
  timestamp := 3
  feeLimit := 5

def staleBytes : List UInt8 :=
  [0x90, 0x01, 0x05, 0x18, 0xff, 0xff, 0xff, 0xff, 0xff, 0xff, 0xff, 0xff, 0xff, 0x01, 0x78, 0x07,
    0x5a, 0x0c, 0x08, 0x01, 0x12, 0x06, 0x0a, 0x01, 0x54, 0x12, 0x01, 0x09, 0x28, 0x02, 0x4a, 0x07,
    0x0a, 0x02, 0x0a, 0x00, 0x12, 0x01, 0x61, 0x70, 0x03, 0x0a, 0x02, 0x95, 0xa2]

/-- A transaction with such bytes and other visible fields. -/
def staleTransaction : Transaction where
  visible := some true
  id := "60dc"
  raw := ⟨[], "3746", "a3D2", 1738705623000, 1738705563000, "2b3a", none⟩
  rawHex := Hex.encode staleBytes
  signatures := ["00"]
  outcomes := [none]

theorem staleTransaction_hasParts :
    staleTransaction.HasParts ⟨staleData, [0x37, 0x46], [0xa3, 0xd2], [0x2b, 0x3a]⟩ where
  stale := ⟨staleBytes, Hex.decode_encode _, by decide +kernel⟩
  refBlockBytes := rfl
  refBlockHash := rfl
  data := rfl

theorem rehashInPlace_staleTransaction :
    ∃ after, rehashInPlace.run.run staleTransaction = (.ok (), after) ∧
      Utf8.FitsMemory after.rawHex ∧
      ∃ parts bytes, staleTransaction.HasParts parts ∧
        after = { staleTransaction with
          rawHex := Hex.encode bytes, id := Hex.encode (Sha256.digest bytes) } ∧
        Wire.SignedData.decode bytes = some { parts.stale with
          timestamp := staleTransaction.raw.timestamp
          expiration := staleTransaction.raw.expiration
          refBlockBytes := parts.refBlockBytes
          refBlockHash := parts.refBlockHash
          data := parts.data } ∧
        rehashInPlace.run.run after = (.ok (), after) := by
  have ran := rehashInPlace_of_hasParts staleTransaction_hasParts
  generalize written : (Parts.renew _ _).encode = bytes at ran
  have held : Utf8.FitsMemory (staleTransaction.withSigned bytes).rawHex := by
    unfold Utf8.FitsMemory withSigned
    rw [Hex.byteLength_encode, ← written]
    decide +kernel
  have spec := rehashInPlace_writes_five_fields_or_nothing _ _ _ ran held
  exact ⟨_, ran, held, spec⟩

end TronGateway.Transaction
