import RapidLang.Text.Position
import RapidLang.Token.Kind

/-!
# Tokens

A token is a kind, a text and the span it was read from. The text is what stands in the source,
without the quotes of a string.
-/

set_option autoImplicit false

namespace RapidLang

/-- A word, number, string or mark of the source. -/
structure Token where
  kind : TokenKind
  text : String
  span : Text.Span
  deriving DecidableEq, Repr

namespace Token

def describe (token : Token) : String :=
  match token.kind with
  | .endOfInput => "end of input"
  | .identifier => "identifier `" ++ token.text ++ "`"
  | .number => "number `" ++ token.text ++ "`"
  | .string => "string \"" ++ token.text ++ "\""
  | kind =>
    if kind.isReserved then "keyword `" ++ token.text ++ "`" else "`" ++ kind.render ++ "`"

/-- The token that ends a list of tokens: empty, at a position. -/
def endAt (position : Text.Position) : Token :=
  ⟨.endOfInput, "", Text.Span.point position⟩

end Token

end RapidLang
