import RapidLang.Checker.Builtin
import RapidLang.Token.Lexer

/-!
# Highlighting

The classes by which an editor colours a text. They are read off the tokens alone, so that a text
with syntax errors is coloured too.
-/

set_option autoImplicit false

namespace RapidLang

open Text

inductive HighlightKind where
  | keyword
  | typeName
  | identifier
  | number
  | string
  | comment
  | operator
  | punctuation
  deriving DecidableEq, Repr

structure Highlight where
  kind : HighlightKind
  span : Span
  deriving DecidableEq, Repr

/-- The class of a token; the mark at the end of the text has none. -/
def Token.highlightKind? (token : Token) : Option HighlightKind :=
  match token.kind with
  | .endOfInput => none
  | .identifier => some (if (builtinType? token.text).isSome then .typeName else .identifier)
  | .number => some .number
  | .string => some .string
  | .backslash => some .operator
  | kind =>
    if kind.isReserved then some .keyword
    else if kind.isOperator then some .operator
    else some .punctuation

def Token.highlight? (token : Token) : Option Highlight :=
  token.highlightKind?.map fun kind => ⟨kind, token.span⟩

/-- The tokens and comments of a text with their classes, in the order in which they stand. -/
def highlights (characters : List Char) : List Highlight :=
  let lexed := Lexed.ofChars characters
  let all := lexed.tokens.filterMap Token.highlight?
    ++ lexed.comments.map fun span => ⟨.comment, span⟩
  all.mergeSort fun left right => left.span.start ≤ right.span.start

end RapidLang
