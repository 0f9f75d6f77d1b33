import TronGateway.Address
import TronGateway.Number.Amount
import TronGateway.Number.BigEndian
set_option autoImplicit false

/-!
# Contract calls

The part of the contract call format that token contracts need: four bytes that select a method,
then words of 32 bytes. Numbers are big-endian and must be amounts; an address stands in the last
20 bytes of its word.
-/

namespace TronGateway.Abi

def transferMethod : String := "transfer(address,uint256)"

def balanceMethod : String := "balanceOf(address)"

def symbolMethod : String := "symbol()"

def decimalsMethod : String := "decimals()"

def wordLength : Nat := 32

def selectorLength : Nat := 4

def selector (method : String) : List UInt8 :=
  (Keccak256.digest (Utf8.encode method)).take selectorLength

def addressWord (address : String) : Except Error (List UInt8) :=
  match Address.toContractHex address with
  | .error failure => .error failure
  | .ok contractHex =>
    match Hex.read (String.ofList (contractHex.toList.drop 2)) with
    | .error failure => .error failure
    | .ok account => .ok (List.replicate (wordLength - account.length) 0 ++ account)

def amountWord (amount : Amount) : List UInt8 :=
  BigEndian.ofNat wordLength amount.units

def encodeTransfer (recipient : String) (amount : Amount) : Except Error (List UInt8) :=
  (addressWord recipient).map fun word => selector transferMethod ++ word ++ amountWord amount

def encodeBalanceOf (owner : String) : Except Error (List UInt8) :=
  (addressWord owner).map fun word => selector balanceMethod ++ word

structure TransferCall where
  recipient : String
  amount : Amount
  deriving DecidableEq

def decodeAmount (word : List UInt8) : Except Error Amount :=
  if word.length ≠ wordLength then
    .error (.decode ("expected 32-byte word, got " ++ Decimal.ofNat word.length))
  else
    match Amount.ofNat? (BigEndian.toNat word) with
    | some amount => .ok amount
    | none => .error (.decode "uint256 value exceeds 128 bits")

def decodeCall (data : List UInt8) : Except Error (Option TransferCall) :=
  if data.length < selectorLength then
    .error (.decode ("call data too short: " ++ Decimal.ofNat data.length ++ " bytes"))
  else if data.take selectorLength ≠ selector transferMethod then .ok none
  else
    let arguments := data.drop selectorLength
    if arguments.length < 2 * wordLength then
      .error (.decode
        ("transfer arguments too short: " ++ Decimal.ofNat arguments.length ++ " bytes"))
    else
      match Address.ofAccount ((arguments.take wordLength).drop 12) with
      | .error failure => .error failure
      | .ok recipient =>
        match decodeAmount ((arguments.drop wordLength).take wordLength) with
        | .error failure => .error failure
        | .ok amount => .ok (some ⟨recipient, amount⟩)

def decodeCallText (text : String) : Except Error (Option TransferCall) :=
  match Hex.readMarked text with
  | .error failure => .error failure
  | .ok data => decodeCall data

/-- The amount that a method answered; no bytes stand for zero. -/
def decodeAmountAnswer (text : String) : Except Error Amount :=
  match Hex.readMarked text with
  | .error failure => .error failure
  | .ok bytes =>
    if bytes.isEmpty then .ok Amount.zero
    else if bytes.length < wordLength then .error (.decode ("short uint256 result: " ++ text))
    else decodeAmount (bytes.take wordLength)

/-- A place or a length inside an answer, which has 64 bits. -/
def decodePlace (word : List UInt8) : Except Error UInt64 :=
  match decodeAmount word with
  | .error failure => .error failure
  | .ok amount =>
    match toUInt64? amount.units with
    | some place => .ok place
    | none => .error (.decode ("ABI offset " ++ amount.toText ++ " out of range"))

/-- A part of an answer: it starts before it stops, and stops inside the answer. -/
structure Span (bytes : List UInt8) where
  start : UInt64
  stop : UInt64
  ordered : start.toNat ≤ stop.toNat
  inside : stop.toNat ≤ bytes.length

namespace Span

variable {bytes : List UInt8}

/-- The `length` bytes from `start`, when their end has 64 bits and is inside the answer. -/
def ofLength? (bytes : List UInt8) (start length : UInt64) : Option (Span bytes) :=
  let stop := start.toNat + length.toNat
  if within : stop < UInt64.size ∧ stop ≤ bytes.length then
    some ⟨start, .ofNatLT stop within.1, Nat.le_add_right _ _, within.2⟩
  else none

def content (span : Span bytes) : List UInt8 :=
  (bytes.drop span.start.toNat).take (span.stop.toNat - span.start.toNat)

end Span

def readText (bytes : List UInt8) : Except Error String :=
  (Utf8.decode bytes).mapError Error.ofUtf8

/-- The text of an answer that gives its place, at which stand its length and its bytes. -/
def decodePlacedText (bytes : List UInt8) : Except Error String :=
  match decodePlace (bytes.take wordLength) with
  | .error failure => .error failure
  | .ok place =>
    match Span.ofLength? bytes place 32 with
    | none => .error (.decode "string offset out of range")
    | some lengthWord =>
      match decodePlace lengthWord.content with
      | .error failure => .error failure
      | .ok length =>
        match Span.ofLength? bytes lengthWord.stop length with
        | none => .error (.decode "string length out of range")
        | some text => readText text.content

/-- The text that a method answered; an answer of one word holds it up to the first zero byte. -/
def decodeTextAnswer (text : String) : Except Error String :=
  match Hex.readMarked text with
  | .error failure => .error failure
  | .ok bytes =>
    if bytes.length = wordLength then readText (bytes.takeWhile (· ≠ 0))
    else if bytes.length < 2 * wordLength then .error (.decode ("short string result: " ++ text))
    else decodePlacedText bytes

end TronGateway.Abi
