set_option autoImplicit false

/-!
# Tokens of a configuration file

A configuration file is a sequence of tokens: marks, words, quoted texts, blanks, comments and line
ends. A carriage return counts only in front of a line feed, and a byte order mark only at the very
beginning.
-/

namespace TronGateway.Toml

/-- A token. Words are bare keys, numbers and truth values alike. -/
inductive Token where
  | newline
  | blanks (chars : List Char)
  | comment
  | equals
  | point
  | comma
  | colon
  | plus
  | openBrace
  | closeBrace
  | openBracket
  | closeBracket
  | word (chars : List Char)
  | text (value : String) (multiline : Bool)
  deriving DecidableEq, Repr

namespace Token

def isBlank (c : Char) : Bool := c = ' ' || c = '\t'

def isWordChar (c : Char) : Bool :=
  ('a' ≤ c && c ≤ 'z') || ('A' ≤ c && c ≤ 'Z') || ('0' ≤ c && c ≤ '9') || c = '-' || c = '_'

def isCommentChar (c : Char) : Bool := c = '\t' || 0x20 ≤ c.toNat

def isTextChar (c : Char) : Bool := c = '\t' || (0x20 ≤ c.toNat && c.toNat ≠ 0x7F)

def mark? (c : Char) : Option Token :=
  [('\n', newline), ('=', equals), ('.', point), (',', comma), (':', colon), ('+', plus),
    ('\x7b', openBrace), ('\x7d', closeBrace), ('[', openBracket), (']', closeBracket)].lookup c

abbrev Read (α : Type) := Option (α × List Char)

def hexValue? (c : Char) : Option Nat :=
  if '0' ≤ c ∧ c ≤ '9' then some (c.toNat - 48)
  else if 'a' ≤ c ∧ c ≤ 'f' then some (c.toNat - 87)
  else if 'A' ≤ c ∧ c ≤ 'F' then some (c.toNat - 55)
  else none

def codeFrom : Nat → Nat → List Char → Read Nat
  | 0, value, rest => some (value, rest)
  | _ + 1, _, [] => none
  | count + 1, value, c :: rest =>
    (hexValue? c).bind fun digit => codeFrom count (value * 16 + digit) rest

def charOf? (code : Nat) : Option Char :=
  if code.isValidChar then some (Char.ofNat code) else none

def escaped? (c : Char) : Option Char :=
  [('"', '"'), ('\\', '\\'), ('b', '\x08'), ('f', '\x0c'), ('n', '\n'), ('r', '\r'),
    ('t', '\t')].lookup c

/-- An escaped line end swallows the blanks and line ends behind it. -/
def joinLines? (chars : List Char) : Option (List Char) :=
  match chars.dropWhile isBlank with
  | '\n' :: rest => some (rest.dropWhile fun c => isBlank c || c = '\n')
  | _ => none

def escape? (multiline : Bool) : List Char → Read (List Char)
  | [] => none
  | c :: rest =>
    if c = 'u' ∨ c = 'U' then
      (codeFrom (if c = 'u' then 4 else 8) 0 rest).bind fun read =>
        (charOf? read.1).map fun c => ([c], read.2)
    else
      match escaped? c with
      | some c => some ([c], rest)
      | none => if multiline then (joinLines? (c :: rest)).map fun rest => ([], rest) else none

def prepend (chars : List Char) (read : Read (List Char)) : Read (List Char) :=
  read.map fun result => (chars ++ result.1, result.2)

def lineBody (mark : Char) : Nat → List Char → Read (List Char)
  | 0, _ => none
  | _, [] => none
  | fuel + 1, c :: rest =>
    if c = mark then some ([], rest)
    else if c = '\\' ∧ mark = '"' then
      (escape? false rest).bind fun read => prepend read.1 (lineBody mark fuel read.2)
    else if isTextChar c then prepend [c] (lineBody mark fuel rest)
    else none

/-- The closing marks of a text on many lines: three, behind up to two that belong to it. -/
def closing? (mark : Char) (chars : List Char) : Read (List Char) :=
  let count := (chars.takeWhile (· = mark)).length
  if count < 3 then none
  else some (List.replicate (min count 5 - 3) mark, chars.drop (min count 5))

def blockBody (mark : Char) : Nat → List Char → Read (List Char)
  | 0, _ => none
  | _, [] => none
  | fuel + 1, c :: rest =>
    if c = mark then
      match closing? mark (c :: rest) with
      | some read => some read
      | none => prepend [c] (blockBody mark fuel rest)
    else if c = '\\' ∧ mark = '"' then
      (escape? true rest).bind fun read => prepend read.1 (blockBody mark fuel read.2)
    else if c = '\n' ∨ isTextChar c then prepend [c] (blockBody mark fuel rest)
    else none

def dropNewline : List Char → List Char
  | '\n' :: rest => rest
  | chars => chars

/-- A quoted text behind its first mark. Three marks open a text on many lines, of which a line end
right behind them is no part. -/
def quoted (mark : Char) (chars : List Char) : Read Token :=
  let opening := (chars.takeWhile (· = mark)).length
  let (body, multiline) :=
    if 2 ≤ opening then (blockBody mark (chars.length + 1) (dropNewline (chars.drop 2)), true)
    else (lineBody mark (chars.length + 1) chars, false)
  body.map fun read => (text (String.ofList read.1) multiline, read.2)

def next? (c : Char) (rest : List Char) : Read Token :=
  if isBlank c then some (blanks (c :: rest.takeWhile isBlank), rest.dropWhile isBlank)
  else if c = '#' then some (comment, rest.dropWhile isCommentChar)
  else if c = '"' ∨ c = '\'' then quoted c rest
  else if isWordChar c then
    some (word (c :: rest.takeWhile isWordChar), rest.dropWhile isWordChar)
  else (mark? c).map fun token => (token, rest)

def scanFrom : Nat → List Char → Option (List Token)
  | _, [] => some []
  | 0, _ => none
  | fuel + 1, c :: rest =>
    match next? c rest with
    | none => none
    | some (token, rest) => (scanFrom fuel rest).map (token :: ·)

def foldLineEnds : List Char → List Char
  | '\r' :: '\n' :: rest => '\n' :: foldLineEnds rest
  | c :: rest => c :: foldLineEnds rest
  | [] => []

def dropByteOrderMark : List Char → List Char
  | '\ufeff' :: rest => rest
  | chars => chars

def scan? (text : String) : Option (List Token) :=
  let chars := foldLineEnds (dropByteOrderMark text.toList)
  scanFrom chars.length chars

end Token
end TronGateway.Toml
