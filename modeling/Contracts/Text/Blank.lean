/-!
# Blank characters

White space in the sense of the Unicode property `White_Space`, and its removal
from the ends of a text.

## Main definitions

* `Text.isBlank` — the property.
* `Text.trimEnd`, `Text.trim` — a text without blanks at its end, or at both ends.
-/

namespace Contracts.Text

/-- The code points with the property `White_Space`. -/
def isBlank (c : Char) : Bool :=
  let code := c.toNat
  (0x9 ≤ code && code ≤ 0xD) || code == 0x20 || code == 0x85 || code == 0xA0 ||
    code == 0x1680 || (0x2000 ≤ code && code ≤ 0x200A) || code == 0x2028 ||
    code == 0x2029 || code == 0x202F || code == 0x205F || code == 0x3000

/-- Drop the blanks at the end of a list of characters. -/
def dropEnd (characters : List Char) : List Char :=
  (characters.reverse.dropWhile isBlank).reverse

/-- The text without the blanks at its end. -/
def trimEnd (text : String) : String := String.ofList (dropEnd text.toList)

/-- The text without the blanks at either end. -/
def trim (text : String) : String := String.ofList (dropEnd (text.toList.dropWhile isBlank))

end Contracts.Text
