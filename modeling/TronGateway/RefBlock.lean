import TronGateway.Number.Checked
import TronGateway.Number.BigEndian
import TronGateway.Text.Utf8
import TronGateway.Text.Hex
import TronGateway.Error
set_option autoImplicit false

/-!
# Reference blocks

A transaction names a recent block that it is bound to. The gateway keeps up to ten candidates in
ascending height and picks one that is older than the transaction.
-/

namespace TronGateway

structure RefBlock where
  /-- Milliseconds since the epoch. -/
  timestamp : Int64
  height : Int64
  id : String
  deriving DecidableEq, Repr

namespace RefBlock

def capacity : Nat := 10

/-- Puts a block behind the last one that is not higher. -/
def insert (block : RefBlock) : List RefBlock → List RefBlock
  | [] => [block]
  | other :: rest => if block.height < other.height then block :: other :: rest
    else other :: insert block rest

/-- The candidates with a further block; of two blocks of one height the first one stays, and the
lowest ones go when there are too many. -/
def push (ring : List RefBlock) (block : RefBlock) : List RefBlock :=
  if ring.any fun other => other.height = block.height then ring
  else
    let grown := insert block ring
    grown.drop (grown.length - capacity)

/-- The last index, counted from `index`, whose block satisfies a condition, else `found`. -/
def lastIndex? (condition : RefBlock → Bool) : Nat → Option Nat → List RefBlock → Option Nat
  | _, found, [] => found
  | index, found, block :: rest =>
    lastIndex? condition (index + 1) (if condition block then some index else found) rest

/-- The candidate for a transaction of time `stamp`: the one before the last that is older, or the
last that is older when none stands before it, or the first one. -/
def select (ring : List RefBlock) (stamp : Int64) : Option RefBlock :=
  match lastIndex? (fun block => block.timestamp < stamp) 0 none ring with
  | some index => ring[index - 1]?
  | none => ring.head?

def heightBytes (height : Int64) : List UInt8 :=
  BigEndian.ofNat 2 (height.toInt % 65536).toNat

def heightText (height : Int64) : String :=
  Hex.encode (heightBytes height)

def hashStart : Nat := 16

def hashEnd : Nat := 32

/-- Takes the characters of the first `count` bytes off; none when a character stands across the
end. -/
def splitBytes? : Nat → List Char → Option (List Char × List Char)
  | 0, chars => some ([], chars)
  | _ + 1, [] => none
  | count + 1, c :: rest =>
    let size := (Utf8.encodeChar c).length
    if size ≤ count + 1 then
      (splitBytes? (count + 1 - size) rest).map fun parts => (c :: parts.1, parts.2)
    else none
  termination_by _ chars => chars.length

/-- The part of a reference that names the block: bytes 16 to 32 of its id. -/
def hashText (id : String) : Except Error String :=
  match (splitBytes? hashStart id.toList).bind fun parts =>
      splitBytes? (hashEnd - hashStart) parts.2 with
  | some (hash, _) => .ok (String.ofList hash)
  | none => .error (.decode ("block id too short: " ++ id))

end RefBlock
end TronGateway
