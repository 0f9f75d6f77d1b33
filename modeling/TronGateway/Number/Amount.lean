import TronGateway.Number.Checked
import TronGateway.Number.Decimal
set_option autoImplicit false

/-!
# Amounts

Amounts of an asset are natural numbers below 2^128. They are summed with an overflow check and
rescaled between decimal precisions: to fewer decimals by truncation, to more decimals by
saturation at the largest amount.
-/

namespace TronGateway

/-- A natural number below 2^128. -/
structure Amount where
  units : Nat
  bounded : units < 0x100000000000000000000000000000000
  deriving DecidableEq

namespace Amount

def largest : Amount := ⟨0x100000000000000000000000000000000 - 1, by decide⟩

def zero : Amount := ⟨0, by decide⟩

def ofNat? (n : Nat) : Option Amount :=
  if bounded : n < 0x100000000000000000000000000000000 then some ⟨n, bounded⟩ else none

def saturate (n : Nat) : Amount :=
  if bounded : n < 0x100000000000000000000000000000000 then ⟨n, bounded⟩ else largest

def ofUInt64 (n : UInt64) : Amount :=
  ⟨n.toNat, Nat.lt_of_lt_of_le n.toNat_lt (by decide)⟩

def checkedAdd (left right : Amount) : Except Overflow Amount :=
  let sum := left.units + right.units
  if bounded : sum < 0x100000000000000000000000000000000 then .ok ⟨sum, bounded⟩
  else .error .add

def saturatingAdd (left right : Amount) : Amount :=
  saturate (left.units + right.units)

def divide (amount : Amount) (divisor : Nat) : Amount :=
  ⟨amount.units / divisor, Nat.lt_of_le_of_lt (Nat.div_le_self _ _) amount.bounded⟩

def toText (amount : Amount) : String :=
  Decimal.ofNat amount.units

/-- The amount that a decimal text with an optional plus stands for. -/
def ofText? (text : String) : Option Amount :=
  match Decimal.readNat (0x100000000000000000000000000000000 - 1) text.toList with
  | .ok units => ofNat? units
  | .error _ => none

/-- The decimals of TRX on its own chain: one TRX is 10^6 sun. -/
def trxDecimals : UInt32 := 6

/-- The decimals that every amount has on the protocol chain. -/
def protocolDecimals : UInt32 := 8

/-- The largest exponent whose power of ten is an amount. -/
def maxDecimals : Nat := 38

/-- The power of ten that separates two precisions, when it is an amount. -/
def scale? (distance : Nat) : Option Nat :=
  if distance ≤ maxDecimals then some (Nat.pow 10 distance) else none

/-- The amount at precision `source` expressed at precision `target`. -/
def rescale (amount : Amount) (source target : UInt32) : Amount :=
  if source = target then amount
  else if source < target then
    match scale? (target.toNat - source.toNat) with
    | some scale => saturate (amount.units * scale)
    | none => if amount.units = 0 then zero else largest
  else
    match scale? (source.toNat - target.toNat) with
    | some scale => amount.divide scale
    | none => zero

/-- Sun as protocol units, a hundred times as many. -/
def ofSun (sun : Amount) : Amount :=
  sun.rescale trxDecimals protocolDecimals

/-- Protocol units as whole sun, a hundredth of them. -/
def toSun (amount : Amount) : Amount :=
  amount.rescale protocolDecimals trxDecimals

def withoutZeros (count : Nat) (number : Nat × Nat) : Nat × Nat :=
  let group := Nat.pow 10 count
  if count ≤ number.2 ∧ number.1 % group = 0 then (number.1 / group, number.2 - count) else number

/-- A number without groups of zeros at its end: one of eight, only from a multiple of 2^32, then
one of four, one of two and one of one. A zero may remain. -/
def withoutZeroGroups (number : Nat × Nat) : Nat × Nat :=
  let number := if number.1 % 0x100000000 = 0 then withoutZeros 8 number else number
  withoutZeros 1 (withoutZeros 2 (withoutZeros 4 number))

def decimalText (number : Nat × Nat) : String :=
  let scale := Nat.pow 10 number.2
  let fraction := (Decimal.natChars (scale + number.1 % scale)).drop 1
  String.ofList (Decimal.natChars (number.1 / scale) ++
    (if fraction.isEmpty then [] else '.' :: fraction))

/-- The text of `sun` in TRX. A fraction is taken to nine decimals, from which groups of zeros are
removed. -/
def trxText (sun : UInt64) : String :=
  if sun.toNat % 1000000 = 0 then Decimal.ofNat (sun.toNat / 1000000)
  else decimalText (withoutZeroGroups (sun.toNat * 1000, 9))

end Amount
end TronGateway
