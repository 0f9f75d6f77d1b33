import TronGateway.Toml.Token
import TronGateway.Toml.Number
import TronGateway.Toml.Moment
import TronGateway.Toml.Node
set_option autoImplicit false

/-!
# Values of a configuration file

Texts, truth values, numbers, moments, lists and tables on one line, read from tokens. A moment
counts as its text.
-/

namespace TronGateway.Toml

abbrev Parsed (α : Type) := Option (α × List Token)

def Token.isGap : Token → Bool
  | .blanks _ => true
  | _ => false

def Token.isLineGap : Token → Bool
  | .blanks _ => true
  | .comment => true
  | .newline => true
  | _ => false

def skipGaps (tokens : List Token) : List Token := tokens.dropWhile Token.isGap

def skipLineGaps (tokens : List Token) : List Token := tokens.dropWhile Token.isLineGap

def expect? (token : Token) : List Token → Option (List Token)
  | [] => none
  | other :: rest => if other = token then some rest else none

def name? : List Token → Parsed String
  | .word chars :: rest => some (String.ofList chars, rest)
  | .text value false :: rest => some (value, rest)
  | _ => none

def key? : Nat → List Token → Parsed (List String)
  | 0, _ => none
  | fuel + 1, tokens =>
    (name? (skipGaps tokens)).bind fun (name, rest) =>
      match skipGaps rest with
      | .point :: rest => (key? fuel rest).map fun (names, rest) => (name :: names, rest)
      | rest => some ([name], rest)

def marked? (mark : Token) (shown : Char) : List Token → Parsed (List Char)
  | [] => some ([], [])
  | token :: rest =>
    if token = mark then
      match rest with
      | .word chars :: rest => some (shown :: chars, rest)
      | _ => none
    else some ([], token :: rest)

/-- The characters of minutes, seconds, their fraction and a distance, behind the first colon. -/
def clockChars? : List Token → Option (List Char × List Token)
  | .word minutes :: .colon :: .word seconds :: rest => do
    let (fraction, rest) ← marked? .point '.' rest
    let (hours, rest) ← marked? .plus '+' rest
    let (minutesOff, rest) ← marked? .colon ':' rest
    return (minutes ++ ':' :: seconds ++ fraction ++ hours ++ minutesOff, rest)
  | _ => none

/-- The characters behind the first word of a moment. -/
def momentChars? (colonRead : Bool) (tokens : List Token) : Parsed (List Char) :=
  let (hour, rest) :=
    match tokens with
    | .blanks [' '] :: .word chars :: rest => (' ' :: chars, rest)
    | _ => ([], tokens)
  if colonRead then (clockChars? rest).map fun (chars, rest) => (hour ++ chars, rest)
  else
    match rest with
    | .colon :: rest => (clockChars? rest).map fun (chars, rest) => (hour ++ ':' :: chars, rest)
    | _ => some (hour, rest)

def moment? (first : List Char) (colonRead : Bool) (tokens : List Token) : Parsed Tree :=
  (momentChars? colonRead tokens).bind fun (chars, rest) =>
    (Moment.normal? (first ++ (if colonRead then ':' :: chars else chars))).map fun text =>
      (.text text, rest)

/-- A number with a fraction or an exponent, of which the exponent may still follow. -/
def decimal? (tokens : List Token) : Number.Mantissa × Number.Tail → Parsed Tree
  | (mantissa, .closed) => quantity (mantissa.scaled? false []) tokens
  | (mantissa, .power negative digits) => quantity (mantissa.scaled? negative digits) tokens
  | (mantissa, .openPower) =>
    match tokens with
    | .plus :: .word chars :: rest =>
      quantity ((Number.power? chars).bind (mantissa.scaled? false)) rest
    | _ => none
where
  quantity (value : Option Binary64) (rest : List Token) : Parsed Tree :=
    value.map fun value => (.quantity (.finite value), rest)

def namedQuantity? (chars : List Char) : Option Quantity :=
  [("inf".toList, .infinite false), ("-inf".toList, .infinite true), ("nan".toList, .undefined),
    ("-nan".toList, .undefined)].lookup chars

def number? (chars : List Char) (tokens : List Token) : Parsed Tree :=
  let integer (value : Option Int64) : Parsed Tree :=
    value.map fun value => (.integer value, tokens)
  match chars with
  | '0' :: 'x' :: digits => integer (Number.inBase? 16 digits)
  | '0' :: 'o' :: digits => integer (Number.inBase? 8 digits)
  | '0' :: 'b' :: digits => integer (Number.inBase? 2 digits)
  | _ =>
    if chars.contains 'e' || chars.contains 'E' then
      (Number.plain? chars).bind (decimal? tokens)
    else
      match tokens with
      | .point :: rest =>
        match rest with
        | .word behind :: rest => (Number.pointed? chars behind).bind (decimal? rest)
        | _ => none
      | _ =>
        match namedQuantity? chars with
        | some value => some (.quantity value, tokens)
        | none => integer (Number.integer? chars)

def hasNegativePower : List Char → Bool
  | [] => false
  | c :: rest => ((c = 'e' || c = 'E') && rest.head? = some '-') || hasNegativePower rest

def isDated (chars : List Char) : Bool :=
  chars.contains 'T' || chars.contains 't' ||
    ((chars.drop 1).contains '-' && !hasNegativePower chars)

def isNumeric (chars : List Char) : Bool :=
  match chars with
  | [] => false
  | c :: _ => c = '-' || Number.isDecimal c || chars = "inf".toList || chars = "nan".toList

def wordValue? (chars : List Char) (tokens : List Token) : Parsed Tree :=
  if chars = "true".toList then some (.flag true, tokens)
  else if chars = "false".toList then some (.flag false, tokens)
  else if !isNumeric chars then none
  else if isDated chars then moment? chars false tokens
  else
    match tokens with
    | .colon :: rest => moment? chars true rest
    | _ => number? chars tokens

mutual

def value? : Nat → List Token → Parsed Tree
  | 0, _ => none
  | fuel + 1, tokens =>
    match tokens with
    | .text value _ :: rest => some (.text value, rest)
    | .word chars :: rest => wordValue? chars rest
    | .plus :: .word chars :: rest => number? chars rest
    | .openBracket :: rest => (items? fuel rest).map fun (items, rest) => (.list items, rest)
    | .openBrace :: rest =>
      match skipGaps rest with
      | .closeBrace :: rest => some (.table [], rest)
      | rest =>
        (assignments? fuel rest).bind fun (entries, rest) =>
          (Node.ofEntries? entries).map fun members => (.table members, rest)
    | _ => none

def items? : Nat → List Token → Parsed (List Tree)
  | 0, _ => none
  | fuel + 1, tokens =>
    match skipLineGaps tokens with
    | .closeBracket :: rest => some ([], rest)
    | tokens =>
      (value? fuel tokens).bind fun (item, rest) =>
        match skipLineGaps rest with
        | .comma :: rest => (items? fuel rest).map fun (items, rest) => (item :: items, rest)
        | .closeBracket :: rest => some ([item], rest)
        | _ => none

def assignment? : Nat → List Token → Parsed Node.Entry
  | 0, _ => none
  | fuel + 1, tokens =>
    (key? fuel tokens).bind fun (path, rest) =>
      (expect? .equals rest).bind fun rest =>
        (value? fuel (skipGaps rest)).map fun (value, rest) => ((path, value), rest)

def assignments? : Nat → List Token → Parsed (List Node.Entry)
  | 0, _ => none
  | fuel + 1, tokens =>
    (assignment? fuel tokens).bind fun (entry, rest) =>
      match skipGaps rest with
      | .comma :: rest =>
        (assignments? fuel rest).map fun (entries, rest) => (entry :: entries, rest)
      | .closeBrace :: rest => some ([entry], rest)
      | _ => none

end

end TronGateway.Toml
