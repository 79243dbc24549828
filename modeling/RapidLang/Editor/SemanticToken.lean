import RapidLang.Editor.Highlight
import RapidLang.Index.Lookup
import RapidLang.Text.LineIndex

/-!
# Semantic tokens

Highlights as editors receive them: each with its place, its length, its type and its modifiers, and
the place counted from that of the one before. The index of a program tells what an identifier
refers to; punctuation is left out.
-/

set_option autoImplicit false

namespace RapidLang

open Text

inductive SemanticType where
  | keyword
  | type
  | variable
  | function
  | parameter
  | number
  | string
  | comment
  | operator
  deriving DecidableEq, Repr

namespace SemanticType

def all : List SemanticType :=
  [.keyword, .type, .variable, .function, .parameter, .number, .string, .comment, .operator]

def name : SemanticType → String
  | .keyword => "keyword"
  | .type => "type"
  | .variable => "variable"
  | .function => "function"
  | .parameter => "parameter"
  | .number => "number"
  | .string => "string"
  | .comment => "comment"
  | .operator => "operator"

/-- The number of a type: its place in the legend. -/
def place (named : SemanticType) : Nat :=
  all.idxOf named

end SemanticType

/-- The names of the modifiers, in the order of their bits. -/
def modifierNames : List String :=
  ["declaration", "readonly"]

/-- What a semantic token says of a stretch of text. -/
structure SemanticClass where
  type : SemanticType
  isDeclaration : Bool
  isReadOnly : Bool
  deriving DecidableEq, Repr

namespace SemanticClass

def plain (named : SemanticType) : SemanticClass := ⟨named, false, false⟩

def modifiers (semantic : SemanticClass) : Nat :=
  (if semantic.isDeclaration then 1 else 0) + (if semantic.isReadOnly then 2 else 0)

end SemanticClass

def SymbolKind.semanticType : SymbolKind → SemanticType
  | .procedure | .function | .trap => .function
  | .record => .type
  | .parameter => .parameter
  | .data | .constant | .localData | .counter => .variable

/-- The class of an identifier, which depends on what it refers to. -/
def Index.identifierClass (index : Index) (span : Span) : SemanticClass :=
  match index.occurrences.find? fun occurrence => occurrence.name.span.start == span.start with
  | none => .plain .variable
  | some occurrence =>
    match index.referent? occurrence with
    | none => ⟨.variable, occurrence.isDeclaration, false⟩
    | some symbol =>
      ⟨symbol.kind.semanticType, occurrence.isDeclaration, symbol.kind == .constant⟩

def Highlight.semanticClass? (index : Option Index) (highlight : Highlight) :
    Option SemanticClass :=
  match highlight.kind with
  | .keyword => some (.plain .keyword)
  | .typeName => some (.plain .type)
  | .identifier =>
    some (match index with
      | some index => index.identifierClass highlight.span
      | none => .plain .variable)
  | .number => some (.plain .number)
  | .string => some (.plain .string)
  | .comment => some (.plain .comment)
  | .operator => some (.plain .operator)
  | .punctuation => none

/-- A semantic token: line and character counted from zero, length, and class. -/
structure SemanticToken where
  line : Nat
  character : Nat
  length : Nat
  semantic : SemanticClass
  deriving DecidableEq, Repr

def Highlight.semanticToken? (lines : LineIndex) (index : Option Index) (highlight : Highlight) :
    Option SemanticToken :=
  (highlight.semanticClass? index).map fun semantic =>
    let (line, character) := highlight.span.start.toEditor
    ⟨line, character, lines.offset highlight.span.stop - lines.offset highlight.span.start,
      semantic⟩

/-- The semantic tokens of a text, given the index of its program if there is one. -/
def semanticTokens (index : Option Index) (characters : List Char) : List SemanticToken :=
  let lines := LineIndex.ofChars characters
  (highlights characters).filterMap (Highlight.semanticToken? lines index)

/-- A semantic token as it is sent: the lines since the token before and, on the same line, the
characters since its start. -/
structure RelativeToken where
  lines : Nat
  characters : Nat
  length : Nat
  semantic : SemanticClass
  deriving DecidableEq, Repr

namespace RelativeToken

def numbers (token : RelativeToken) : List Nat :=
  [token.lines, token.characters, token.length, token.semantic.type.place,
    token.semantic.modifiers]

end RelativeToken

/-- Counts the places of tokens from those of the tokens before, beginning at a line and
character. -/
def relativeFrom (line character : Nat) : List SemanticToken → List RelativeToken
  | [] => []
  | token :: rest =>
    let characters := if token.line = line then token.character - character else token.character
    ⟨token.line - line, characters, token.length, token.semantic⟩
      :: relativeFrom token.line token.character rest

/-- Counts the places of tokens from those of the tokens before. -/
def SemanticToken.relative (tokens : List SemanticToken) : List RelativeToken :=
  relativeFrom 0 0 tokens

end RapidLang
