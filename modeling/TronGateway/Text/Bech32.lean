import TronGateway.Text.Utf8
set_option autoImplicit false

/-!
# Bech32 text

A readable part, the separator `1`, data in digits of five bits and a checksum of six digits. Both
checksum constants are accepted, the first one and that of the modified form, and the length is
not limited. Letters are of one case throughout; the readable part is returned in lower case.
-/

namespace TronGateway.Bech32

def alphabet : List Char :=
  "qpzry9x8gf2tvdw0s3jn54khce6mua7l".toList

inductive Fault where
  | missingSeparator
  | invalidLength
  | invalidChar (c : Char)
  | mixedCase
  | invalidChecksum
  | invalidPadding
  deriving DecidableEq, Repr

def Fault.message : Fault → String
  | .missingSeparator => "missing human-readable separator, \"1\""
  | .invalidLength => "invalid length"
  | .invalidChar c => "invalid character (code=" ++ String.ofList [c] ++ ")"
  | .mixedCase => "mixed-case strings not allowed"
  | .invalidChecksum => "invalid checksum"
  | .invalidPadding => "invalid padding"

/-- The case of the letters met so far. -/
inductive LetterCase where
  | unknown
  | lower
  | upper
  deriving DecidableEq, Repr

/-- The case after one more character, or none when both cases occur. -/
def LetterCase.extend? (case : LetterCase) (c : Char) : Option LetterCase :=
  if c.isLower then (if case = .upper then none else some .lower)
  else if c.isUpper then (if case = .lower then none else some .upper)
  else some case

/-- Checks the bytes of the readable part and gives the case of its letters. -/
def checkReadable : LetterCase → List UInt8 → Except Fault LetterCase
  | case, [] => .ok case
  | case, byte :: rest =>
    let c := Char.ofNat byte.toNat
    if byte < 33 ∨ 126 < byte then .error (.invalidChar c)
    else
      match case.extend? c with
      | none => .error .mixedCase
      | some case => checkReadable case rest

def value? (c : Char) : Option Nat :=
  alphabet.findIdx? (· == c.toLower)

def dataValues : LetterCase → List Char → Except Fault (List Nat)
  | _, [] => .ok []
  | case, c :: rest =>
    if 0x80 ≤ c.toNat then .error (.invalidChar c)
    else
      match case.extend? c with
      | none => .error .mixedCase
      | some case =>
        match value? c with
        | none => .error (.invalidChar c)
        | some value => (dataValues case rest).map (value :: ·)

def checksumStep (remainder digit : Nat) : Nat :=
  let top := remainder >>> 25
  let shifted := ((remainder &&& 0x1ffffff) <<< 5) ^^^ digit
  [0x3b6a57b2, 0x26508e6d, 0x1ea119fa, 0x3d4233dd, 0x2a1462b3].zipIdx.foldl
    (fun value term => if top >>> term.2 &&& 1 = 1 then value ^^^ term.1 else value) shifted

/-- The readable part as digits: the high bits of its characters, a zero, the low bits. -/
def expandReadable (bytes : List UInt8) : List Nat :=
  bytes.map (fun byte => byte.toNat / 32) ++ 0 :: bytes.map (fun byte => byte.toNat % 32)

def checksumHolds (readable : List UInt8) (values : List Nat) : Bool :=
  let remainder := (expandReadable readable ++ values).foldl checksumStep 1
  remainder = 1 || remainder = 0x2bc830a3

def splitLast (chars : List Char) : Option (List Char × List Char) :=
  let reversed := chars.reverse
  let tail := reversed.takeWhile (· != '1')
  match reversed.drop tail.length with
  | [] => none
  | _ :: head => some (head.reverse, tail.reverse)

/-- The readable part in lower case and the data values without their checksum. -/
def decode (text : String) : Except Fault (String × List Nat) :=
  match splitLast text.toList with
  | none => .error .missingSeparator
  | some (head, tail) =>
    let bytes := Utf8.encodeChars head
    if bytes.isEmpty ∨ 83 < bytes.length then .error .invalidLength
    else
      match checkReadable .unknown bytes with
      | .error fault => .error fault
      | .ok case =>
        match dataValues case tail with
        | .error fault => .error fault
        | .ok values =>
          let lowered := head.map Char.toLower
          if values.length < 6 then .error .invalidLength
          else if checksumHolds (Utf8.encodeChars lowered) values then
            .ok (String.ofList lowered, values.take (values.length - 6))
          else .error .invalidChecksum

/-- Regroups digits of five bits into bytes, carrying `count` bits of value `pending`. Fewer than
five bits may be left over, all of them zero. -/
def regroup (pending count : Nat) : List Nat → Except Fault (List UInt8)
  | [] => if 5 ≤ count ∨ pending ≠ 0 then .error .invalidPadding else .ok []
  | value :: rest =>
    let bits := pending * 32 + value
    if 3 ≤ count then
      let left := count - 3
      (regroup (bits % Nat.pow 2 left) left rest).map (UInt8.ofNat (bits / Nat.pow 2 left) :: ·)
    else regroup bits (count + 5) rest

def bytes (values : List Nat) : Except Fault (List UInt8) :=
  regroup 0 0 values

end TronGateway.Bech32
