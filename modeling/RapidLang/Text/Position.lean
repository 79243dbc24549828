/-!
# Positions and spans

A position is a line and a column, both counted from one; columns count characters. A span is the
half-open stretch of text between two positions.
-/

set_option autoImplicit false

namespace RapidLang.Text

/-- A place in a text: line and column, both counted from one. -/
structure Position where
  line : Nat
  column : Nat
  deriving DecidableEq, Repr

namespace Position

def start : Position := ⟨1, 1⟩

/-- Positions are ordered by line, and within a line by column. -/
protected def le (left right : Position) : Prop :=
  left.line < right.line ∨ (left.line = right.line ∧ left.column ≤ right.column)

protected def lt (left right : Position) : Prop :=
  left.line < right.line ∨ (left.line = right.line ∧ left.column < right.column)

instance : LE Position := ⟨Position.le⟩

instance : LT Position := ⟨Position.lt⟩

instance (left right : Position) : Decidable (left ≤ right) :=
  inferInstanceAs (Decidable (_ ∨ _))

instance (left right : Position) : Decidable (left < right) :=
  inferInstanceAs (Decidable (_ ∨ _))

def compare (left right : Position) : Ordering :=
  (Ord.compare left.line right.line).then (Ord.compare left.column right.column)

/-- The place `count` columns to the right on the same line. -/
def right (position : Position) (count : Nat) : Position :=
  { position with column := position.column + count }

/-- The place after one more character: a line feed opens the next line. -/
def after (position : Position) (c : Char) : Position :=
  if c = '\n' then ⟨position.line + 1, 1⟩ else position.right 1

def afterAll (position : Position) (characters : List Char) : Position :=
  characters.foldl after position

def earlier (left right : Position) : Position :=
  if left ≤ right then left else right

def later (left right : Position) : Position :=
  if left ≤ right then right else left

def render (position : Position) : String :=
  toString position.line ++ ":" ++ toString position.column

end Position

/-- The stretch of text from `start` up to, and without, `stop`. -/
structure Span where
  start : Position
  stop : Position
  deriving DecidableEq, Repr

namespace Span

def origin : Span := ⟨Position.start, Position.start⟩

def point (position : Position) : Span := ⟨position, position⟩

def merge (left right : Span) : Span :=
  ⟨left.start.earlier right.start, left.stop.later right.stop⟩

def isEmpty (span : Span) : Bool :=
  span.start == span.stop

/-- Does the cursor position touch the span? The position just after it counts too. -/
def contains (span : Span) (position : Position) : Bool :=
  span.start ≤ position && position ≤ span.stop

def render (span : Span) : String :=
  span.start.render

def renderEnds (span : Span) : String :=
  span.start.render ++ ".." ++ span.stop.render

end Span

end RapidLang.Text
