import TronGateway.Number.Decimal
set_option autoImplicit false

/-!
# UTF-8

Text as the bytes that stand for it, and bytes read back as text. A character takes one to four
bytes; the reader accepts the shortest form of each Unicode scalar value and nothing else, and a
refusal names the byte where the first bad sequence starts.
-/

namespace TronGateway.Utf8

/-- The bytes of one character: the first byte carries the length, each later byte six bits. -/
def encodeChar (c : Char) : List UInt8 :=
  let code := c.toNat
  if code < 0x80 then [UInt8.ofNat code]
  else if code < 0x800 then
    [UInt8.ofNat (0xC0 + code / 0x40), UInt8.ofNat (0x80 + code % 0x40)]
  else if code < 0x10000 then
    [UInt8.ofNat (0xE0 + code / 0x1000), UInt8.ofNat (0x80 + code / 0x40 % 0x40),
      UInt8.ofNat (0x80 + code % 0x40)]
  else
    [UInt8.ofNat (0xF0 + code / 0x40000), UInt8.ofNat (0x80 + code / 0x1000 % 0x40),
      UInt8.ofNat (0x80 + code / 0x40 % 0x40), UInt8.ofNat (0x80 + code % 0x40)]

def encodeChars (chars : List Char) : List UInt8 :=
  chars.flatMap encodeChar

def encode (text : String) : List UInt8 :=
  encodeChars text.toList

/-- The length of a text in bytes, the unit in which formats of this library count. -/
def byteLength (text : String) : Nat :=
  (encode text).length

def FitsMemory (text : String) : Prop :=
  byteLength text < 0x10000000000000000

inductive Fault where
  /-- At `index` stand `count` bytes that begin no character. -/
  | invalid (count index : Nat)
  /-- The bytes end inside the character that starts at `index`. -/
  | incomplete (index : Nat)
  deriving DecidableEq, Repr

def Fault.message : Fault → String
  | .invalid count index =>
      "invalid utf-8 sequence of " ++ Decimal.ofNat count ++ " bytes from index " ++
        Decimal.ofNat index
  | .incomplete index => "incomplete utf-8 byte sequence from index " ++ Decimal.ofNat index

def isContinuation (byte : UInt8) : Bool :=
  0x80 ≤ byte && byte ≤ 0xBF

/-- The second bytes allowed after a lead byte of three: no overlong forms, no surrogates. -/
def isSecondOfThree (lead byte : UInt8) : Bool :=
  if lead = 0xE0 then 0xA0 ≤ byte && byte ≤ 0xBF
  else if lead = 0xED then 0x80 ≤ byte && byte ≤ 0x9F
  else isContinuation byte

/-- The second bytes allowed after a lead byte of four: no overlong forms, nothing past the last
scalar value. -/
def isSecondOfFour (lead byte : UInt8) : Bool :=
  if lead = 0xF0 then 0x90 ≤ byte && byte ≤ 0xBF
  else if lead = 0xF4 then 0x80 ≤ byte && byte ≤ 0x8F
  else isContinuation byte

def keep (code : Nat) (rest : Except Fault (List Char)) : Except Fault (List Char) :=
  rest.map (Char.ofNat code :: ·)

/-- Reads characters from bytes of which `index` have been read before. -/
def decodeFrom (index : Nat) : List UInt8 → Except Fault (List Char)
  | [] => .ok []
  | lead :: tail =>
    if lead < 0x80 then keep lead.toNat (decodeFrom (index + 1) tail)
    else if 0xC2 ≤ lead && lead ≤ 0xDF then
      match tail with
      | [] => .error (.incomplete index)
      | second :: tail =>
        if isContinuation second then
          keep (lead.toNat % 0x20 * 0x40 + second.toNat % 0x40) (decodeFrom (index + 2) tail)
        else .error (.invalid 1 index)
    else if 0xE0 ≤ lead && lead ≤ 0xEF then
      match tail with
      | [] => .error (.incomplete index)
      | second :: tail =>
        if isSecondOfThree lead second then
          match tail with
          | [] => .error (.incomplete index)
          | third :: tail =>
            if isContinuation third then
              keep (lead.toNat % 0x10 * 0x1000 + second.toNat % 0x40 * 0x40 + third.toNat % 0x40)
                (decodeFrom (index + 3) tail)
            else .error (.invalid 2 index)
        else .error (.invalid 1 index)
    else if 0xF0 ≤ lead && lead ≤ 0xF4 then
      match tail with
      | [] => .error (.incomplete index)
      | second :: tail =>
        if isSecondOfFour lead second then
          match tail with
          | [] => .error (.incomplete index)
          | third :: tail =>
            if isContinuation third then
              match tail with
              | [] => .error (.incomplete index)
              | fourth :: tail =>
                if isContinuation fourth then
                  keep (lead.toNat % 8 * 0x40000 + second.toNat % 0x40 * 0x1000 +
                      third.toNat % 0x40 * 0x40 + fourth.toNat % 0x40)
                    (decodeFrom (index + 4) tail)
                else .error (.invalid 3 index)
            else .error (.invalid 2 index)
        else .error (.invalid 1 index)
    else .error (.invalid 1 index)

def decode (bytes : List UInt8) : Except Fault String :=
  (decodeFrom 0 bytes).map String.ofList

end TronGateway.Utf8
