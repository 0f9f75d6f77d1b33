import TronGateway.Wire.Field
import TronGateway.Text.Utf8
set_option autoImplicit false

/-!
# The signed messages

The protobuf messages of the bytes that are hashed and signed, and of the two contracts that the
gateway has built. Of a number or byte string that occurs repeatedly the last one counts; a message
that occurs repeatedly is merged where there is one of it and collected where there are many. Fields
that a message does not have are dropped.
-/

namespace TronGateway.Wire

def absorbAll {α : Type} (absorb : α → Field → Option α) : α → List Field → Option α
  | message, [] => some message
  | message, field :: rest =>
    match absorb message field with
    | none => none
    | some message => absorbAll absorb message rest

def readInt64? : Payload → Option Int64
  | .number value => some value.toInt64
  | _ => none

/-- A signed number of 32 bits, the low half of what is written. -/
def readInt32? : Payload → Option Int32
  | .number value => some value.toUInt32.toInt32
  | _ => none

def readContent? : Payload → Option (List UInt8)
  | .bytes content => some content
  | _ => none

structure AccountId where
  name : List UInt8
  address : List UInt8
  deriving DecidableEq, Repr

namespace AccountId

def empty : AccountId := ⟨[], []⟩

def fields (message : AccountId) : List Field :=
  bytesField 1 message.name ++ bytesField 2 message.address

def encode (message : AccountId) : List UInt8 := write message.fields

def encodedLength (message : AccountId) : Nat :=
  bytesSize 1 message.name + bytesSize 2 message.address

def absorb (message : AccountId) (field : Field) : Option AccountId :=
  match field.tag with
  | 1 => (readContent? field.payload).map fun name => { message with name }
  | 2 => (readContent? field.payload).map fun address => { message with address }
  | _ => some message

def merge (limit : Nat) (message : AccountId) (bytes : List UInt8) : Option AccountId :=
  (parse limit bytes).bind (absorbAll absorb message)

end AccountId

structure Authority where
  account : Option AccountId
  permissionName : List UInt8
  deriving DecidableEq, Repr

namespace Authority

def empty : Authority := ⟨none, []⟩

def fields (message : Authority) : List Field :=
  (message.account.map fun account => messageField 1 account.encode).toList ++
    bytesField 2 message.permissionName

def encode (message : Authority) : List UInt8 := write message.fields

def encodedLength (message : Authority) : Nat :=
  (message.account.map fun account => delimitedSize 1 account.encodedLength).getD 0 +
    bytesSize 2 message.permissionName

def absorb (limit : Nat) (message : Authority) (field : Field) : Option Authority :=
  match field.tag with
  | 1 =>
    match readContent? field.payload with
    | none => none
    | some bytes =>
      (AccountId.merge (limit - 1) (message.account.getD AccountId.empty) bytes).map fun account =>
        { message with account := some account }
  | 2 => (readContent? field.payload).map fun permissionName => { message with permissionName }
  | _ => some message

def merge (limit : Nat) (message : Authority) (bytes : List UInt8) : Option Authority :=
  (parse limit bytes).bind (absorbAll (absorb limit) message)

end Authority

/-! ### Contracts -/

/-- A value of a named type, kept as its bytes. -/
structure TypedValue where
  typeUrl : String
  value : List UInt8
  deriving DecidableEq, Repr

namespace TypedValue

def empty : TypedValue := ⟨"", []⟩

def fields (message : TypedValue) : List Field :=
  bytesField 1 (Utf8.encode message.typeUrl) ++ bytesField 2 message.value

def encode (message : TypedValue) : List UInt8 := write message.fields

def encodedLength (message : TypedValue) : Nat :=
  bytesSize 1 (Utf8.encode message.typeUrl) + bytesSize 2 message.value

/-- Takes one field; the name of the type is text. -/
def absorb (message : TypedValue) (field : Field) : Option TypedValue :=
  match field.tag with
  | 1 =>
    match readContent? field.payload with
    | none => none
    | some bytes => (Utf8.decode bytes).toOption.map fun typeUrl => { message with typeUrl }
  | 2 => (readContent? field.payload).map fun value => { message with value }
  | _ => some message

def merge (limit : Nat) (message : TypedValue) (bytes : List UInt8) : Option TypedValue :=
  (parse limit bytes).bind (absorbAll absorb message)

end TypedValue

structure SignedContract where
  kind : Int32
  parameter : Option TypedValue
  provider : List UInt8
  contractName : List UInt8
  permissionId : Int32
  deriving DecidableEq, Repr

namespace SignedContract

def empty : SignedContract := ⟨0, none, [], [], 0⟩

/-- The fields to write; a number of 32 bits is written with 64. -/
def fields (message : SignedContract) : List Field :=
  intField 1 message.kind.toInt64 ++
    (message.parameter.map fun parameter => messageField 2 parameter.encode).toList ++
    bytesField 3 message.provider ++ bytesField 4 message.contractName ++
    intField 5 message.permissionId.toInt64

def encode (message : SignedContract) : List UInt8 := write message.fields

def encodedLength (message : SignedContract) : Nat :=
  intSize 1 message.kind.toInt64 +
    (message.parameter.map fun parameter => delimitedSize 2 parameter.encodedLength).getD 0 +
    bytesSize 3 message.provider + bytesSize 4 message.contractName +
    intSize 5 message.permissionId.toInt64

def absorb (limit : Nat) (message : SignedContract) (field : Field) : Option SignedContract :=
  match field.tag with
  | 1 => (readInt32? field.payload).map fun kind => { message with kind }
  | 2 =>
    match readContent? field.payload with
    | none => none
    | some bytes =>
      (TypedValue.merge (limit - 1) (message.parameter.getD TypedValue.empty) bytes).map
        fun parameter => { message with parameter := some parameter }
  | 3 => (readContent? field.payload).map fun provider => { message with provider }
  | 4 => (readContent? field.payload).map fun contractName => { message with contractName }
  | 5 => (readInt32? field.payload).map fun permissionId => { message with permissionId }
  | _ => some message

def merge (limit : Nat) (message : SignedContract) (bytes : List UInt8) : Option SignedContract :=
  (parse limit bytes).bind (absorbAll (absorb limit) message)

end SignedContract

structure TransferContract where
  owner : List UInt8
  recipient : List UInt8
  amount : Int64
  deriving DecidableEq, Repr

namespace TransferContract

def empty : TransferContract := ⟨[], [], 0⟩

def fields (message : TransferContract) : List Field :=
  bytesField 1 message.owner ++ bytesField 2 message.recipient ++ intField 3 message.amount

def encode (message : TransferContract) : List UInt8 := write message.fields

def encodedLength (message : TransferContract) : Nat :=
  bytesSize 1 message.owner + bytesSize 2 message.recipient + intSize 3 message.amount

def absorb (message : TransferContract) (field : Field) : Option TransferContract :=
  match field.tag with
  | 1 => (readContent? field.payload).map fun owner => { message with owner }
  | 2 => (readContent? field.payload).map fun recipient => { message with recipient }
  | 3 => (readInt64? field.payload).map fun amount => { message with amount }
  | _ => some message

def decode (bytes : List UInt8) : Option TransferContract :=
  (parse maxDepth bytes).bind (absorbAll absorb empty)

end TransferContract

structure TriggerContract where
  owner : List UInt8
  contract : List UInt8
  callValue : Int64
  data : List UInt8
  callTokenValue : Int64
  tokenId : Int64
  deriving DecidableEq, Repr

namespace TriggerContract

def empty : TriggerContract := ⟨[], [], 0, [], 0, 0⟩

def fields (message : TriggerContract) : List Field :=
  bytesField 1 message.owner ++ bytesField 2 message.contract ++ intField 3 message.callValue ++
    bytesField 4 message.data ++ intField 5 message.callTokenValue ++ intField 6 message.tokenId

def encode (message : TriggerContract) : List UInt8 := write message.fields

def encodedLength (message : TriggerContract) : Nat :=
  bytesSize 1 message.owner + bytesSize 2 message.contract + intSize 3 message.callValue +
    bytesSize 4 message.data + intSize 5 message.callTokenValue + intSize 6 message.tokenId

def absorb (message : TriggerContract) (field : Field) : Option TriggerContract :=
  match field.tag with
  | 1 => (readContent? field.payload).map fun owner => { message with owner }
  | 2 => (readContent? field.payload).map fun contract => { message with contract }
  | 3 => (readInt64? field.payload).map fun callValue => { message with callValue }
  | 4 => (readContent? field.payload).map fun data => { message with data }
  | 5 => (readInt64? field.payload).map fun callTokenValue => { message with callTokenValue }
  | 6 => (readInt64? field.payload).map fun tokenId => { message with tokenId }
  | _ => some message

def decode (bytes : List UInt8) : Option TriggerContract :=
  (parse maxDepth bytes).bind (absorbAll absorb empty)

end TriggerContract

/-! ### Signed data -/

/-- The message whose bytes are hashed and signed. -/
structure SignedData where
  refBlockBytes : List UInt8
  refBlockNum : Int64
  refBlockHash : List UInt8
  expiration : Int64
  auths : List Authority
  data : List UInt8
  contracts : List SignedContract
  scripts : List UInt8
  timestamp : Int64
  feeLimit : Int64
  deriving DecidableEq, Repr

namespace SignedData

def empty : SignedData := ⟨[], 0, [], 0, [], [], [], [], 0, 0⟩

def fields (message : SignedData) : List Field :=
  bytesField 1 message.refBlockBytes ++ intField 3 message.refBlockNum ++
    bytesField 4 message.refBlockHash ++ intField 8 message.expiration ++
    (message.auths.map fun authority => messageField 9 authority.encode) ++
    bytesField 10 message.data ++
    (message.contracts.map fun contract => messageField 11 contract.encode) ++
    bytesField 12 message.scripts ++ intField 14 message.timestamp ++ intField 18 message.feeLimit

def encode (message : SignedData) : List UInt8 := write message.fields

def encodedLength (message : SignedData) : Nat :=
  bytesSize 1 message.refBlockBytes + intSize 3 message.refBlockNum +
    bytesSize 4 message.refBlockHash + intSize 8 message.expiration +
    total (message.auths.map fun authority => delimitedSize 9 authority.encodedLength) +
    bytesSize 10 message.data +
    total (message.contracts.map fun contract => delimitedSize 11 contract.encodedLength) +
    bytesSize 12 message.scripts + intSize 14 message.timestamp + intSize 18 message.feeLimit

def absorb (limit : Nat) (message : SignedData) (field : Field) : Option SignedData :=
  match field.tag with
  | 1 => (readContent? field.payload).map fun refBlockBytes => { message with refBlockBytes }
  | 3 => (readInt64? field.payload).map fun refBlockNum => { message with refBlockNum }
  | 4 => (readContent? field.payload).map fun refBlockHash => { message with refBlockHash }
  | 8 => (readInt64? field.payload).map fun expiration => { message with expiration }
  | 9 =>
    match readContent? field.payload with
    | none => none
    | some bytes =>
      (Authority.merge (limit - 1) Authority.empty bytes).map fun authority =>
        { message with auths := message.auths ++ [authority] }
  | 10 => (readContent? field.payload).map fun data => { message with data }
  | 11 =>
    match readContent? field.payload with
    | none => none
    | some bytes =>
      (SignedContract.merge (limit - 1) SignedContract.empty bytes).map fun contract =>
        { message with contracts := message.contracts ++ [contract] }
  | 12 => (readContent? field.payload).map fun scripts => { message with scripts }
  | 14 => (readInt64? field.payload).map fun timestamp => { message with timestamp }
  | 18 => (readInt64? field.payload).map fun feeLimit => { message with feeLimit }
  | _ => some message

def decode (bytes : List UInt8) : Option SignedData :=
  (parse maxDepth bytes).bind (absorbAll (absorb maxDepth) empty)

end SignedData
end TronGateway.Wire
