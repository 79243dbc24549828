import RapidLang.Text.Numeric
import RapidLang.Token.Kind

/-!
# Pieces of a text

A text is cut into pieces: blanks, comments, words, numbers, strings, marks and characters that
belong to none of these. A piece takes in characters for as long as its shape allows; the next
character then begins the next piece, so that the pieces put together are the text. Whether a
character is taken in depends on the shape so far and on one character of lookahead.
-/

set_option autoImplicit false

namespace RapidLang

/-- What a piece is, as far as it has been read. -/
inductive Shape where
  /-- A single blank character. -/
  | blank
  /-- A comment, from an exclamation mark up to the end of the line. -/
  | comment
  /-- A number without a decimal point. -/
  | integer
  /-- A number with a decimal point. -/
  | decimal
  /-- A name or a reserved word; dots belong to it. -/
  | word
  /-- A string whose closing quote has not been seen. -/
  | openString
  /-- A string with both of its quotes. -/
  | closedString
  /-- Punctuation or an operator. -/
  | mark (kind : TokenKind)
  /-- A character that begins nothing. -/
  | unknown
  deriving DecidableEq, Repr

def isBlank (c : Char) : Bool :=
  c == ' ' || c == '\t' || c == '\r' || c == '\n'

def startsWord (c : Char) : Bool :=
  Text.isAlphabetic c || c == '_'

def continuesWord (c : Char) : Bool :=
  Text.isAlphanumeric c || c == '_' || c == '.'

def markOf? : Char → Option TokenKind
  | '(' => some .leftParen
  | ')' => some .rightParen
  | '[' => some .leftBracket
  | ']' => some .rightBracket
  | ',' => some .comma
  | ';' => some .semicolon
  | '.' => some .dot
  | '\\' => some .backslash
  | '+' => some .plus
  | '-' => some .minus
  | '*' => some .star
  | '/' => some .slash
  | '=' => some .equal
  | ':' => some .colon
  | '<' => some .less
  | '>' => some .greater
  | _ => none

namespace Shape

def start (c : Char) : Shape :=
  if isBlank c then .blank
  else if c = '!' then .comment
  else if c = '"' then .openString
  else if c.isDigit then .integer
  else if startsWord c then .word
  else
    match markOf? c with
    | some kind => .mark kind
    | none => .unknown

/-- The shape after the piece has taken in one more character, or nothing if the piece ends before
it. `ahead` is the character after that one: a number takes in a point only before a digit. -/
def extend? (shape : Shape) (c : Char) (ahead : Option Char) : Option Shape :=
  match shape with
  | .comment => if c = '\n' then none else some .comment
  | .integer =>
    if c.isDigit then some .integer
    else if c = '.' && ahead.any Char.isDigit then some .decimal
    else none
  | .decimal => if c.isDigit then some .decimal else none
  | .word => if continuesWord c then some .word else none
  | .openString =>
    if c = '"' then some .closedString else if c = '\n' then none else some .openString
  | .mark .colon => if c = '=' then some (.mark .assign) else none
  | .mark .less =>
    if c = '>' then some (.mark .notEqual) else if c = '=' then some (.mark .lessEqual) else none
  | .mark .greater => if c = '=' then some (.mark .greaterEqual) else none
  | .blank | .closedString | .mark _ | .unknown => none

end Shape

structure Piece where
  shape : Shape
  text : List Char
  deriving DecidableEq, Repr

namespace Piece

/-- Cuts the rest of a text, where the current piece has a shape and the characters read so far,
last one first. -/
def cutFrom (shape : Shape) (reversed : List Char) : List Char → List Piece
  | [] => [⟨shape, reversed.reverse⟩]
  | c :: rest =>
    match shape.extend? c rest.head? with
    | some extended => cutFrom extended (c :: reversed) rest
    | none => ⟨shape, reversed.reverse⟩ :: cutFrom (Shape.start c) [c] rest

def cut : List Char → List Piece
  | [] => []
  | c :: rest => cutFrom (Shape.start c) [c] rest

/-- The kind and text of the token that a piece is; blanks, comments and unknown characters are
none. -/
def token? (piece : Piece) : Option (TokenKind × String) :=
  match piece.shape with
  | .blank | .comment | .unknown => none
  | .integer | .decimal => some (.number, String.ofList piece.text)
  | .word =>
    let word := String.ofList piece.text
    some ((TokenKind.ofWord? word).getD .identifier, word)
  | .openString => some (.string, String.ofList (piece.text.drop 1))
  | .closedString => some (.string, String.ofList (piece.text.drop 1).dropLast)
  | .mark kind => some (kind, kind.render)

end Piece

end RapidLang
