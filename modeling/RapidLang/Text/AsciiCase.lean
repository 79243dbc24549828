/-!
# ASCII letter case

Some words are compared without regard to the case of the ASCII letters; all other characters have
to agree exactly.
-/

set_option autoImplicit false

namespace RapidLang.Text

/-- The text with its ASCII letters in lower case. -/
def asciiLower (text : String) : String :=
  String.ofList (text.toList.map Char.toLower)

/-- Do two texts agree but for the case of ASCII letters? -/
def sameWord (left right : String) : Bool :=
  asciiLower left == asciiLower right

end RapidLang.Text
