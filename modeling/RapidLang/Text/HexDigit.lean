/-!
# Hexadecimal digits

The digits of base sixteen, in either letter case.
-/

set_option autoImplicit false

namespace RapidLang.Text

def hexDigit? (c : Char) : Option Nat :=
  if c.isDigit then some (c.toNat - '0'.toNat)
  else if 'a' ≤ c && c ≤ 'f' then some (c.toNat - 'a'.toNat + 10)
  else if 'A' ≤ c && c ≤ 'F' then some (c.toNat - 'A'.toNat + 10)
  else none

end RapidLang.Text
