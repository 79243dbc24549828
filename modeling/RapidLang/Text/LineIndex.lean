import RapidLang.Text.Position

/-!
# Lines of a text

The table of line starts of a text, with which positions and character offsets are converted into
each other. Only a line feed ends a line, and it belongs to the line that it ends. Positions
outside the text are clamped to it.
-/

set_option autoImplicit false

namespace RapidLang.Text

/-- Where the lines of a text begin, as character offsets in ascending order, and its length. -/
structure LineIndex where
  starts : List Nat
  length : Nat

/-- The offsets that follow a line feed, for characters that begin at `offset`. -/
def lineStartsFrom (offset : Nat) : List Char → List Nat
  | [] => []
  | c :: rest =>
    if c = '\n' then (offset + 1) :: lineStartsFrom (offset + 1) rest
    else lineStartsFrom (offset + 1) rest

namespace LineIndex

def ofChars (characters : List Char) : LineIndex :=
  ⟨0 :: lineStartsFrom 0 characters, characters.length⟩

def ofString (text : String) : LineIndex :=
  ofChars text.toList

/-- The number of lines; a text that ends in a line feed has an empty last line. -/
def lineCount (index : LineIndex) : Nat :=
  index.starts.length

def lineStart (index : LineIndex) (line : Nat) : Nat :=
  index.starts.getD line 0

/-- Where a line, counted from zero, ends: before its line feed, or at the end of the text. -/
def lineEnd (index : LineIndex) (line : Nat) : Nat :=
  match index.starts[line + 1]? with
  | some next => next - 1
  | none => index.length

/-- The character offset of a position. A line or column beyond the text is moved to the nearest
line or column that exists; zero counts as one. -/
def offset (index : LineIndex) (position : Position) : Nat :=
  let line := min (max position.line 1 - 1) (index.lineCount - 1)
  min (index.lineStart line + max position.column 1 - 1) (index.lineEnd line)

/-- The first and last character offset of a span; an inverted span is empty at its start. -/
def range (index : LineIndex) (span : Span) : Nat × Nat :=
  let start := index.offset span.start
  (start, max (index.offset span.stop) start)

/-- The position of a character offset; an offset beyond the text counts as its end. -/
def position (index : LineIndex) (offset : Nat) : Position :=
  let inside := min offset index.length
  let line := (index.starts.takeWhile (· ≤ inside)).length - 1
  ⟨line + 1, inside - index.lineStart line + 1⟩

def endPosition (index : LineIndex) : Position :=
  index.position index.length

end LineIndex

/-- The greatest line or column that a position may name: the greatest number of 32 bits. -/
def positionLimit : Nat := 0xFFFFFFFF

namespace Position

/-- Line and character counted from zero, as editors count them; zero stays zero. -/
def toEditor (position : Position) : Nat × Nat :=
  (position.line - 1, position.column - 1)

/-- The position at a line and character counted from zero; the greatest number stays as it is. -/
def ofEditor (line character : Nat) : Position :=
  ⟨min (line + 1) positionLimit, min (character + 1) positionLimit⟩

end Position

def Span.toEditor (span : Span) : (Nat × Nat) × (Nat × Nat) :=
  (span.start.toEditor, span.stop.toEditor)

def slice (characters : List Char) (range : Nat × Nat) : List Char :=
  (characters.drop range.1).take (range.2 - range.1)

/-- The text of a line, counted from one, without its line feed. -/
def lineText? (characters : List Char) (line : Nat) : Option (List Char) :=
  let index := LineIndex.ofChars characters
  if 0 < line ∧ line ≤ index.lineCount then
    some (slice characters (index.lineStart (line - 1), index.lineEnd (line - 1)))
  else none

end RapidLang.Text
