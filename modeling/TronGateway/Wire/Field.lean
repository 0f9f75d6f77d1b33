set_option autoImplicit false

/-!
# The protobuf wire format

A message is a sequence of fields, each a key (tag and kind of payload) and a payload. The reader
takes every kind of payload; the writer needs numbers and byte strings only. Fixed-width numbers and
groups are read over: no message of this library has one.
-/

namespace TronGateway.Wire

inductive Payload where
  | number (value : UInt64)
  | bytes (content : List UInt8)
  /-- A fixed-width number or a group. -/
  | unused
  deriving DecidableEq, Repr

structure Field where
  tag : Nat
  payload : Payload
  deriving DecidableEq, Repr

/-- A number in groups of seven bits, the lowest first; every byte but the last has its top bit
set. `fuel` bounds the number of groups. -/
def varintUpTo : Nat → Nat → List UInt8
  | 0, _ => []
  | fuel + 1, n =>
    if n < 0x80 then [UInt8.ofNat n]
    else UInt8.ofNat (0x80 + n % 0x80) :: varintUpTo fuel (n / 0x80)

def varint (n : Nat) : List UInt8 :=
  varintUpTo 10 n

def varintSize (n : Nat) : Nat :=
  n.log2 / 7 + 1

def readGroups : Nat → List UInt8 → Option (Nat × List UInt8)
  | 0, _ => none
  | _ + 1, [] => none
  | fuel + 1, byte :: rest =>
    if byte < 0x80 then some (byte.toNat, rest)
    else (readGroups fuel rest).map fun result => (byte.toNat % 0x80 + 0x80 * result.1, result.2)

/-- Reads a number of at most 64 bits in at most ten groups. -/
def readVarint (bytes : List UInt8) : Option (Nat × List UInt8) :=
  match readGroups 10 bytes with
  | none => none
  | some (n, rest) => if n < 0x10000000000000000 then some (n, rest) else none

def key (tag kind : Nat) : List UInt8 :=
  varint (tag * 8 + kind)

/-- Reads a key of at most 32 bits; the tag zero is not used. -/
def readKey (bytes : List UInt8) : Option ((Nat × Nat) × List UInt8) :=
  match readVarint bytes with
  | none => none
  | some (n, rest) => if n < 0x100000000 ∧ 8 ≤ n then some ((n / 8, n % 8), rest) else none

def advance (count : Nat) (bytes : List UInt8) : Option (List UInt8) :=
  if count ≤ bytes.length then some (bytes.drop count) else none

def readBytes (bytes : List UInt8) : Option (List UInt8 × List UInt8) :=
  match readVarint bytes with
  | none => none
  | some (count, rest) =>
    if count ≤ rest.length then some (rest.take count, rest.drop count) else none

/-- The bytes behind the end of the group `tag`, whose fields may nest to a depth below `limit`. -/
def skipGroup : Nat → Nat → Nat → List UInt8 → Option (List UInt8)
  | 0, _, _, _ => none
  | fuel + 1, limit, tag, bytes =>
    match readKey bytes with
    | none => none
    | some ((inner, kind), rest) =>
      if kind = 4 then if inner = tag then some rest else none
      else if limit = 0 then none
      else
        let behind :=
          if kind = 0 then (readVarint rest).map (·.2)
          else if kind = 1 then advance 8 rest
          else if kind = 2 then (readBytes rest).map (·.2)
          else if kind = 3 then skipGroup fuel (limit - 1) inner rest
          else if kind = 5 then advance 4 rest
          else none
        match behind with
        | none => none
        | some rest => skipGroup fuel limit tag rest

def readPayload (limit tag kind : Nat) (bytes : List UInt8) : Option (Payload × List UInt8) :=
  if kind = 0 then
    (readVarint bytes).map fun result => (.number (UInt64.ofNat result.1), result.2)
  else if kind = 1 then (advance 8 bytes).map fun rest => (.unused, rest)
  else if kind = 2 then (readBytes bytes).map fun result => (.bytes result.1, result.2)
  else if kind = 3 then
    (skipGroup (bytes.length + 1) (limit - 1) tag bytes).map fun rest => (.unused, rest)
  else if kind = 5 then (advance 4 bytes).map fun rest => (.unused, rest)
  else none

def readFields (limit : Nat) : Nat → List UInt8 → Option (List Field)
  | _, [] => some []
  | 0, _ :: _ => none
  | fuel + 1, byte :: bytes =>
    match readKey (byte :: bytes) with
    | none => none
    | some ((tag, kind), rest) =>
      match readPayload limit tag kind rest with
      | none => none
      | some (payload, rest) => (readFields limit fuel rest).map (⟨tag, payload⟩ :: ·)

/-- The fields of a message in which groups may nest to a depth of `limit`. -/
def parse (limit : Nat) (bytes : List UInt8) : Option (List Field) :=
  readFields limit bytes.length bytes

def maxDepth : Nat := 100

def Field.write (field : Field) : List UInt8 :=
  match field.payload with
  | .number value => key field.tag 0 ++ varint value.toNat
  | .bytes content => key field.tag 2 ++ varint content.length ++ content
  | .unused => []

def write (fields : List Field) : List UInt8 :=
  fields.flatMap Field.write

/-! A number zero and an empty byte string are not written. A message inside a message is written
whenever it is there, also when it is empty. -/

def intField (tag : Nat) (value : Int64) : List Field :=
  if value = 0 then [] else [⟨tag, .number value.toUInt64⟩]

def bytesField (tag : Nat) (content : List UInt8) : List Field :=
  if content.isEmpty then [] else [⟨tag, .bytes content⟩]

def messageField (tag : Nat) (content : List UInt8) : Field :=
  ⟨tag, .bytes content⟩

def intSize (tag : Nat) (value : Int64) : Nat :=
  if value = 0 then 0 else varintSize (tag * 8) + varintSize value.toUInt64.toNat

def delimitedSize (tag count : Nat) : Nat :=
  varintSize (tag * 8 + 2) + varintSize count + count

def total (sizes : List Nat) : Nat :=
  sizes.foldr (fun size rest => size + rest) 0

def bytesSize (tag : Nat) (content : List UInt8) : Nat :=
  if content.isEmpty then 0 else delimitedSize tag content.length

end TronGateway.Wire
