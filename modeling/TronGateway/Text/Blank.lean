set_option autoImplicit false

/-!
# Blank characters

The characters with the Unicode property `White_Space`, and text without them at its ends.
-/

namespace TronGateway.Text

/-- The characters with the property `White_Space`. -/
def isBlank (c : Char) : Bool :=
  let code := c.toNat
  (0x09 ≤ code && code ≤ 0x0D) || code = 0x20 || code = 0x85 || code = 0xA0 || code = 0x1680 ||
    (0x2000 ≤ code && code ≤ 0x200A) || code = 0x2028 || code = 0x2029 || code = 0x202F ||
    code = 0x205F || code = 0x3000

def trimChars (chars : List Char) : List Char :=
  (chars.dropWhile isBlank).reverse.dropWhile isBlank |>.reverse

/-- A text without the blanks at its start and at its end. -/
def trim (text : String) : String :=
  String.ofList (trimChars text.toList)

end TronGateway.Text
