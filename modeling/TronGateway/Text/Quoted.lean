import TronGateway.Text.Hidden
set_option autoImplicit false

/-!
# Quoted text for messages

How a message shows a text or a character that may hold anything: in quotation marks, with the marks
and control characters escaped and every hidden character shown by its number.
-/

namespace TronGateway.Text

def byNumber (c : Char) : List Char :=
  ['\\', 'u', '\x7b'] ++ Nat.toDigits 16 c.toNat ++ ['\x7d']

/-- One character inside quotation marks `mark`: only that mark is escaped, the other one is not. -/
def quotedChar (mark : Char) (c : Char) : List Char :=
  if c = '\x00' then ['\\', '0']
  else if c = '\t' then ['\\', 't']
  else if c = '\n' then ['\\', 'n']
  else if c = '\r' then ['\\', 'r']
  else if c = '\\' || c = mark then ['\\', c]
  else if isHidden c then byNumber c
  else [c]

def quoted (text : String) : String :=
  String.ofList (['"'] ++ text.toList.flatMap (quotedChar '"') ++ ['"'])

def quotedSingle (c : Char) : String :=
  String.ofList (['\''] ++ quotedChar '\'' c ++ ['\''])

end TronGateway.Text
