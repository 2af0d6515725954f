import Interning.Text
/-!
White space as the Unicode property White_Space gives it, and texts without the white space at
their ends.
-/

set_option autoImplicit false
set_option relaxedAutoImplicit false

namespace Interning

/-- Whether a character has the property White_Space. -/
def Unicode.isBlank (c : Char) : Bool :=
  let code := c.toNat
  (9 ≤ code && code ≤ 13) || code == 0x20 || code == 0x85 || code == 0xA0 || code == 0x1680 ||
    (0x2000 ≤ code && code ≤ 0x200A) || code == 0x2028 || code == 0x2029 || code == 0x202F ||
    code == 0x205F || code == 0x3000

/-- A text without the white space at either end. -/
def Text.trim (text : Text) : Text :=
  ((text.dropWhile Unicode.isBlank).reverse.dropWhile Unicode.isBlank).reverse

end Interning
