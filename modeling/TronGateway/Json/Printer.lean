import TronGateway.Json.Syntax
import TronGateway.Text.Hex
set_option autoImplicit false

/-!
# Writing JSON

The compact form: no blanks, members in their order. Inside a text only the quotation mark, the
backslash and control characters are escaped.
-/

namespace TronGateway.Json

def escapeChar (c : Char) : List Char :=
  if c = '"' then ['\\', '"']
  else if c = '\\' then ['\\', '\\']
  else if c = '\x08' then ['\\', 'b']
  else if c = '\t' then ['\\', 't']
  else if c = '\n' then ['\\', 'n']
  else if c = '\x0c' then ['\\', 'f']
  else if c = '\r' then ['\\', 'r']
  else if c.toNat < 0x20 then
    ['\\', 'u', '0', '0', Hex.digitChar (c.toNat / 16), Hex.digitChar (c.toNat % 16)]
  else [c]

def renderText (chars : List Char) : List Char :=
  '"' :: (chars.flatMap escapeChar ++ ['"'])

def renderNumeral (numeral : Numeral) : List Char :=
  let sign := if numeral.negative then ['-'] else []
  let fraction := if numeral.fraction.isEmpty then [] else '.' :: numeral.fraction
  let exponent :=
    match numeral.exponent with
    | none => []
    | some (negative, digits) => 'e' :: (if negative then '-' else '+') :: digits
  sign ++ numeral.whole ++ fraction ++ exponent

mutual

def render : Json → List Char
  | .null => ['n', 'u', 'l', 'l']
  | .bool true => ['t', 'r', 'u', 'e']
  | .bool false => ['f', 'a', 'l', 's', 'e']
  | .number numeral => renderNumeral numeral
  | .text value => renderText ((value.getD "").toList)
  | .array items => '[' :: renderItems items
  | .object members => '\x7b' :: renderMembers members

/-- The items of an array and the bracket behind them. -/
def renderItems : List Json → List Char
  | [] => [']']
  | [item] => render item ++ [']']
  | item :: rest => render item ++ ',' :: renderItems rest

def renderMembers : List (Option String × Json) → List Char
  | [] => ['\x7d']
  | [(key, item)] => renderText ((key.getD "").toList) ++ ':' :: (render item ++ ['\x7d'])
  | (key, item) :: rest =>
    renderText ((key.getD "").toList) ++ ':' :: (render item ++ ',' :: renderMembers rest)

end

def toText (json : Json) : String :=
  String.ofList (render json)

end TronGateway.Json
