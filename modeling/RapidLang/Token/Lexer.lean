import RapidLang.Diagnostic.Basic
import RapidLang.Token.Basic
import RapidLang.Token.Piece

/-!
# From text to tokens

Each piece of the text gets its span; from the placed pieces the tokens, the comments and the
lexical diagnostics are read off. A lexical error never stops the lexer.
-/

set_option autoImplicit false

namespace RapidLang

open Text

structure PlacedPiece where
  piece : Piece
  span : Span
  deriving DecidableEq, Repr

namespace PlacedPiece

def placeFrom (position : Position) : List Piece → List PlacedPiece
  | [] => []
  | piece :: rest =>
    let stop := position.afterAll piece.text
    ⟨piece, ⟨position, stop⟩⟩ :: placeFrom stop rest

def token? (placed : PlacedPiece) : Option Token :=
  placed.piece.token?.map fun (kind, text) => ⟨kind, text, placed.span⟩

def comment? (placed : PlacedPiece) : Option Span :=
  if placed.piece.shape = .comment then some placed.span else none

/-- What is wrong with a placed piece: the character is unknown, or the string has no end. -/
def diagnostic? (placed : PlacedPiece) : Option Diagnostic :=
  match placed.piece.shape with
  | .unknown => some
      { severity := .error
        stage := .lexer
        code := some .unrecognizedCharacter
        message := "unrecognized character `" ++ String.ofList placed.piece.text ++ "`"
        span := placed.span
        labels := []
        help := none }
  | .openString => some
      { severity := .error
        stage := .lexer
        code := some .unterminatedString
        message := "unterminated string"
        span := placed.span
        labels := [⟨⟨placed.span.start, placed.span.start.right 1⟩, "string starts here"⟩]
        help := none }
  | _ => none

end PlacedPiece

structure Lexed where
  tokens : List Token
  comments : List Span
  diagnostics : List Diagnostic

def placedPieces (characters : List Char) : List PlacedPiece :=
  PlacedPiece.placeFrom Position.start (Piece.cut characters)

/-- Reads the tokens, comments and lexical diagnostics of a list of characters. The tokens end
with one that marks the end of the text. -/
def Lexed.ofChars (characters : List Char) : Lexed :=
  let placed := placedPieces characters
  { tokens := placed.filterMap PlacedPiece.token?
      ++ [Token.endAt (Position.start.afterAll characters)]
    comments := placed.filterMap PlacedPiece.comment?
    diagnostics := placed.filterMap PlacedPiece.diagnostic? }

def Lexed.ofString (source : String) : Lexed :=
  Lexed.ofChars source.toList

end RapidLang
