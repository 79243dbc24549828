import Mathlib.Data.List.Basic
import RapidLang.Proofs.Token.Coverage

/-!
# Lexing line by line

A line feed ends whatever was being read, so a text is lexed as if each of its lines stood alone,
further down. What is found behind a line feed differs from what is found in the rest of the text
alone in its line numbers only.
-/

set_option autoImplicit false

namespace RapidLang

open Text

/-! ## Further down in a text -/

/-- The same column, some lines further down. -/
def Text.Position.down (lines : Nat) (position : Position) : Position :=
  { position with line := position.line + lines }

/-- The span with both of its ends some lines further down. -/
def Text.Span.down (lines : Nat) (span : Span) : Span :=
  ⟨span.start.down lines, span.stop.down lines⟩

/-- The token some lines further down. -/
def Token.down (lines : Nat) (token : Token) : Token :=
  { token with span := token.span.down lines }

/-- The label some lines further down. -/
def Label.down (lines : Nat) (label : Label) : Label :=
  { label with span := label.span.down lines }

/-- The report some lines further down, with its labels. -/
def Diagnostic.down (lines : Nat) (report : Diagnostic) : Diagnostic :=
  { report with
    span := report.span.down lines
    labels := report.labels.map (Label.down lines) }

namespace Text.Position

variable {lines : Nat}

theorem after_down (position : Position) (c : Char) :
    (position.down lines).after c = (position.after c).down lines := by
  unfold after
  split
  · simp only [down, Position.mk.injEq, and_true]
    omega
  · rfl

theorem afterAll_down (position : Position) (characters : List Char) :
    (position.down lines).afterAll characters = (position.afterAll characters).down lines := by
  induction characters generalizing position with
  | nil => rfl
  | cons c rest ih =>
      calc (position.down lines).afterAll (c :: rest)
        _ = ((position.down lines).after c).afterAll rest := rfl
        _ = ((position.after c).down lines).afterAll rest := by rw [after_down]
        _ = (position.afterAll (c :: rest)).down lines := ih (position.after c)

/-- Behind a text and one more line feed, a new line begins. -/
theorem afterAll_newline (text : List Char) :
    start.afterAll (text ++ ['\n']) = start.down (LineIndex.ofChars text).lineCount := by
  rw [afterAll_append, afterAll_start]
  simp only [afterAll, List.foldl_cons, List.foldl_nil, after, if_true, down, start,
    Position.mk.injEq, and_true]
  omega

end Text.Position

namespace PlacedPiece

/-- The placed piece some lines further down. -/
def down (lines : Nat) (placed : PlacedPiece) : PlacedPiece :=
  { placed with span := placed.span.down lines }

variable {lines : Nat}

theorem token?_down (placed : PlacedPiece) :
    (placed.down lines).token? = placed.token?.map (Token.down lines) := by
  rw [token?, token?, Option.map_map]
  rfl

theorem comment?_down (placed : PlacedPiece) :
    (placed.down lines).comment? = placed.comment?.map (Span.down lines) := by
  unfold comment?
  rw [apply_ite (Option.map (Span.down lines))]
  rfl

theorem diagnostic?_down (placed : PlacedPiece) :
    (placed.down lines).diagnostic? = placed.diagnostic?.map (Diagnostic.down lines) := by
  obtain ⟨⟨shape, text⟩, span⟩ := placed
  cases shape <;> rfl

/-! ## Placing pieces -/

theorem placeFrom_append (position : Position) (front behind : List Piece) :
    placeFrom position (front ++ behind) =
      placeFrom position front ++
        placeFrom (position.afterAll (front.flatMap Piece.text)) behind := by
  induction front generalizing position with
  | nil => rfl
  | cons piece front ih =>
      rw [List.cons_append, placeFrom, placeFrom, ih, List.flatMap_cons,
        Position.afterAll_append, List.cons_append]

/-- Pieces that begin further down are all further down. -/
theorem placeFrom_down (position : Position) (pieces : List Piece) :
    placeFrom (position.down lines) pieces = (placeFrom position pieces).map (down lines) := by
  induction pieces generalizing position with
  | nil => rfl
  | cons piece pieces ih =>
      rw [placeFrom, placeFrom, Position.afterAll_down, ih, List.map_cons]
      rfl

end PlacedPiece

/-! ## Two texts on lines of their own -/

section Lines

variable (above below : List Char)

/-- The pieces of the lower lines stand where they would stand alone, below the upper lines. -/
theorem placedPieces_newline :
    ∃ feed : PlacedPiece, feed.piece = ⟨.blank, ['\n']⟩ ∧
      placedPieces (above ++ '\n' :: below) =
        placedPieces above ++
          feed :: (placedPieces below).map (PlacedPiece.down (LineIndex.ofChars above).lineCount) := by
  let lines := (LineIndex.ofChars above).lineCount
  have stop : (Position.start.afterAll above).afterAll ['\n'] = Position.start.down lines := by
    rw [← Position.afterAll_append, Position.afterAll_newline]
  refine ⟨⟨⟨.blank, ['\n']⟩, ⟨Position.start.afterAll above, Position.start.down lines⟩⟩, rfl, ?_⟩
  rw [placedPieces, Piece.cut_append_newline, PlacedPiece.placeFrom_append,
    Piece.flatMap_text_cut, PlacedPiece.placeFrom, stop, PlacedPiece.placeFrom_down]
  rfl

/-- What is read off the pieces is read off the upper lines and off the lower ones. -/
theorem filterMap_placedPieces_newline {α : Type} (read : PlacedPiece → Option α) (down : α → α)
    (blank : ∀ placed, placed.piece.shape = .blank → read placed = none)
    (moves : ∀ placed : PlacedPiece,
      read (placed.down (LineIndex.ofChars above).lineCount) = (read placed).map down) :
    (placedPieces (above ++ '\n' :: below)).filterMap read =
      (placedPieces above).filterMap read ++ ((placedPieces below).filterMap read).map down := by
  obtain ⟨feed, isFeed, pieces⟩ := placedPieces_newline above below
  have nothing : read feed = none := blank feed (by rw [isFeed])
  rw [pieces, List.filterMap_append, List.filterMap_cons_none nothing, List.filterMap_map,
    List.map_filterMap]
  congr
  funext placed
  exact moves placed

end Lines

namespace Lexed

/-- What is found in a text that ends in a line feed and goes on with another text: all that is
found in the first one, then all that is found in the second one, further down by the lines of the
first. -/
theorem ofString_newline (above below : String) :
    let lines := (LineIndex.ofString above).lineCount
    let whole := ofString (above ++ "\n" ++ below)
    whole.tokens = (ofString above).words ++ (ofString below).tokens.map (Token.down lines) ∧
      whole.comments =
        (ofString above).comments ++ (ofString below).comments.map (Span.down lines) ∧
      whole.diagnostics =
        (ofString above).diagnostics ++
          (ofString below).diagnostics.map (Diagnostic.down lines) := by
  have whole : (above ++ "\n" ++ below).toList = above.toList ++ '\n' :: below.toList := by
    simp
  have finish : Token.endAt (Position.start.afterAll (above.toList ++ '\n' :: below.toList)) =
      (Token.endAt (Position.start.afterAll below.toList)).down
        (LineIndex.ofString above).lineCount := by
    have split : above.toList ++ '\n' :: below.toList =
        above.toList ++ ['\n'] ++ below.toList := by simp
    rw [split, Position.afterAll_append, Position.afterAll_newline, Position.afterAll_down]
    rfl
  intro lines
  simp only [ofString, whole]
  refine ⟨?_, ?_, ?_⟩
  · have read := filterMap_placedPieces_newline above.toList below.toList
      PlacedPiece.token? (Token.down lines)
      (fun placed blank => by simp [PlacedPiece.token?, Piece.token?, blank])
      PlacedPiece.token?_down
    rw [words_ofChars, ofChars, ofChars, read, finish, List.map_append, List.append_assoc]
    rfl
  · exact filterMap_placedPieces_newline above.toList below.toList
      PlacedPiece.comment? (Span.down lines)
      (fun placed blank => by simp [PlacedPiece.comment?, blank])
      PlacedPiece.comment?_down
  · exact filterMap_placedPieces_newline above.toList below.toList
      PlacedPiece.diagnostic? (Diagnostic.down lines)
      (fun placed blank => by simp [PlacedPiece.diagnostic?, blank])
      PlacedPiece.diagnostic?_down

end Lexed

end RapidLang
