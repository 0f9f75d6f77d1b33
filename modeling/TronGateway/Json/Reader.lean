import TronGateway.Json.Syntax
set_option autoImplicit false

/-!
# Reading JSON

Each function takes characters and gives what it read with the characters behind it, or nothing when
the text is malformed. The tree keeps everything that a consumer may have to refuse: repeated
members, numbers of any size and depth of any degree.
-/

namespace TronGateway.Json.Reader

def isBlank (c : Char) : Bool :=
  c = ' ' || c = '\n' || c = '\t' || c = '\r'

def skip (chars : List Char) : List Char :=
  chars.dropWhile isBlank

def hexValue? (c : Char) : Option Nat :=
  if '0' ≤ c ∧ c ≤ '9' then some (c.toNat - 48)
  else if 'a' ≤ c ∧ c ≤ 'f' then some (c.toNat - 87)
  else if 'A' ≤ c ∧ c ≤ 'F' then some (c.toNat - 55)
  else none

def codeUnit? (a b c d : Char) : Option Nat :=
  match hexValue? a, hexValue? b, hexValue? c, hexValue? d with
  | some a, some b, some c, some d => some (a * 0x1000 + b * 0x100 + c * 0x10 + d)
  | _, _, _, _ => none

def escaped? (c : Char) : Option Nat :=
  if c = '"' then some 0x22
  else if c = '\\' then some 0x5C
  else if c = '/' then some 0x2F
  else if c = 'b' then some 0x08
  else if c = 'f' then some 0x0C
  else if c = 'n' then some 0x0A
  else if c = 'r' then some 0x0D
  else if c = 't' then some 0x09
  else none

def prepend (code : Nat) (read : Option (List Nat × List Char)) : Option (List Nat × List Char) :=
  read.map fun result => (code :: result.1, result.2)

/-- The codes of a text up to its closing mark: code points, and code units where they are written
by number. -/
def codes : List Char → Option (List Nat × List Char)
  | [] => none
  | c :: rest =>
    if c = '"' then some ([], rest)
    else if c = '\\' then
      match rest with
      | [] => none
      | mark :: rest =>
        if mark = 'u' then
          match rest with
          | first :: second :: third :: fourth :: rest =>
            match codeUnit? first second third fourth with
            | some code => prepend code (codes rest)
            | none => none
          | _ => none
        else
          match escaped? mark with
          | some code => prepend code (codes rest)
          | none => none
    else if c.toNat < 0x20 then none
    else prepend c.toNat (codes rest)

/-- The characters of codes, where a leading and a trailing surrogate join to one character and
neither stands alone. -/
def assemble : List Nat → Option (List Char)
  | [] => some []
  | code :: rest =>
    if 0xD800 ≤ code ∧ code ≤ 0xDBFF then
      match rest with
      | [] => none
      | low :: rest =>
        if 0xDC00 ≤ low ∧ low ≤ 0xDFFF then
          (assemble rest).map
            (Char.ofNat (0x10000 + (code - 0xD800) * 0x400 + (low - 0xDC00)) :: ·)
        else none
    else if 0xDC00 ≤ code ∧ code ≤ 0xDFFF then none
    else (assemble rest).map (Char.ofNat code :: ·)

def textBody (chars : List Char) : Option (Option String × List Char) :=
  (codes chars).map fun result => ((assemble result.1).map String.ofList, result.2)

def isDigit (c : Char) : Bool :=
  '0' ≤ c && c ≤ '9'

def digits (chars : List Char) : Option (List Char × List Char) :=
  let read := chars.takeWhile isDigit
  if read.isEmpty then none else some (read, chars.dropWhile isDigit)

def wholeDigits (chars : List Char) : Option (List Char × List Char) :=
  match digits chars with
  | none => none
  | some (read, rest) =>
    if read.head? = some '0' ∧ 1 < read.length then none else some (read, rest)

def fractionDigits (chars : List Char) : Option (List Char × List Char) :=
  match chars with
  | [] => some ([], [])
  | c :: rest => if c = '.' then digits rest else some ([], chars)

def exponent (chars : List Char) : Option (Option (Bool × List Char) × List Char) :=
  match chars with
  | [] => some (none, [])
  | c :: rest =>
    if c = 'e' ∨ c = 'E' then
      let negative := rest.head? = some '-'
      let marked := negative ∨ rest.head? = some '+'
      (digits (if marked then rest.drop 1 else rest)).map fun result =>
        (some (decide negative, result.1), result.2)
    else some (none, chars)

def unsignedNumeral (negative : Bool) (chars : List Char) : Option (Numeral × List Char) :=
  match wholeDigits chars with
  | none => none
  | some (whole, rest) =>
    match fractionDigits rest with
    | none => none
    | some (fraction, rest) =>
      match exponent rest with
      | none => none
      | some (power, rest) => some (⟨negative, whole, fraction, power⟩, rest)

/-! ### Trees -/

def word? : List Char → List Char → Option (List Char)
  | [], rest => some rest
  | _ :: _, [] => none
  | a :: word, b :: rest => if a = b then word? word rest else none

mutual

def value : Nat → List Char → Option (Json × List Char)
  | 0, _ => none
  | fuel + 1, chars =>
    match skip chars with
    | [] => none
    | c :: rest =>
      if c = '"' then (textBody rest).map fun result => (.text result.1, result.2)
      else if c = '[' then
        match skip rest with
        | [] => none
        | d :: behind =>
          if d = ']' then some (.array [], behind)
          else (items fuel (d :: behind)).map fun result => (.array result.1, result.2)
      else if c = '\x7b' then
        match skip rest with
        | [] => none
        | d :: behind =>
          if d = '\x7d' then some (.object [], behind)
          else (members fuel (d :: behind)).map fun result => (.object result.1, result.2)
      else if c = 'n' then (word? "ull".toList rest).map fun behind => (.null, behind)
      else if c = 't' then (word? "rue".toList rest).map fun behind => (.bool true, behind)
      else if c = 'f' then (word? "alse".toList rest).map fun behind => (.bool false, behind)
      else if c = '-' then
        (unsignedNumeral true rest).map fun result => (.number result.1, result.2)
      else (unsignedNumeral false (c :: rest)).map fun result => (.number result.1, result.2)

def items : Nat → List Char → Option (List Json × List Char)
  | 0, _ => none
  | fuel + 1, chars =>
    match value fuel chars with
    | none => none
    | some (item, rest) =>
      match skip rest with
      | [] => none
      | c :: rest =>
        if c = ',' then (items fuel rest).map fun result => (item :: result.1, result.2)
        else if c = ']' then some ([item], rest)
        else none

def members : Nat → List Char → Option (List (Option String × Json) × List Char)
  | 0, _ => none
  | fuel + 1, chars =>
    match skip chars with
    | [] => none
    | mark :: rest =>
      if mark = '"' then
        match textBody rest with
        | none => none
        | some (key, rest) =>
          match skip rest with
          | [] => none
          | colon :: rest =>
            if colon = ':' then
              match value fuel rest with
              | none => none
              | some (item, rest) =>
                match skip rest with
                | [] => none
                | c :: rest =>
                  if c = ',' then
                    (members fuel rest).map fun result => ((key, item) :: result.1, result.2)
                  else if c = '\x7d' then some ([(key, item)], rest)
                  else none
            else none
      else none

end

end Reader

/-- The tree of a text, behind which only blanks may stand. -/
def parse (text : String) : Option Json :=
  let chars := text.toList
  match Reader.value (2 * chars.length + 2) chars with
  | none => none
  | some (json, rest) => if (Reader.skip rest).isEmpty then some json else none

end TronGateway.Json
