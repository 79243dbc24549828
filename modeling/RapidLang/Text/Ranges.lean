/-!
# Ranges of code points

The shape in which the tables of Unicode properties are kept: closed ranges of code points.
-/

set_option autoImplicit false

namespace RapidLang.Text

def inRanges (ranges : List (Nat × Nat)) (codePoint : Nat) : Bool :=
  ranges.any fun range => range.1 ≤ codePoint && codePoint ≤ range.2

end RapidLang.Text
