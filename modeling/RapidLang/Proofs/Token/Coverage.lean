import Mathlib.Data.List.Pairwise
import RapidLang.Editor.Document
import RapidLang.Proofs.Text.LineIndex
import RapidLang.Proofs.Token.Lexing

/-!
# What tokens, comments and reports cover

The pieces of a text stand one behind the other, from its first character to its last. So every
character belongs to one piece, and only blank ones belong to no token, comment or report.
-/

set_option autoImplicit false

namespace RapidLang

open Text

/-! ## Ranges of offsets -/

/-- The first range ends before the second one begins. -/
def Precedes (first second : Nat × Nat) : Prop :=
  first.2 ≤ second.1

/-- No offset belongs to both ranges. -/
def Apart (first second : Nat × Nat) : Prop :=
  Precedes first second ∨ Precedes second first

/-- The offset belongs to the range. -/
def Holds (range : Nat × Nat) (offset : Nat) : Prop :=
  range.1 ≤ offset ∧ offset < range.2

theorem Apart.symm {first second : Nat × Nat} (apart : Apart first second) :
    Apart second first :=
  Or.symm apart

/-! ## Pieces and their places -/

namespace Piece

theorem flatMap_text_cutFrom (shape : Shape) (reversed rest : List Char) :
    (cutFrom shape reversed rest).flatMap Piece.text = reversed.reverse ++ rest := by
  induction rest generalizing shape reversed with
  | nil => simp [cutFrom]
  | cons c rest ih =>
      rw [cutFrom]
      split
      · simp [ih]
      · simp [ih]

/-- The pieces of a text put together are the text. -/
theorem flatMap_text_cut (text : List Char) : (cut text).flatMap Piece.text = text := by
  cases text with
  | nil => rfl
  | cons c rest => exact flatMap_text_cutFrom _ _ _

end Piece

namespace PlacedPiece

section Place

variable {characters front : List Char} {piece : Piece} {pieces : List Piece}

private theorem covers_first
    (text : characters = front ++ (piece :: pieces).flatMap Piece.text) :
    (⟨Position.start.afterAll front, Position.start.afterAll (front ++ piece.text)⟩ :
      Span).Covers characters front piece.text :=
  ⟨⟨pieces.flatMap Piece.text, by rw [text, List.flatMap_cons, List.append_assoc]⟩, rfl⟩

/-- Pieces placed behind a front part of a text cover what they are made of. -/
theorem covers_of_mem_placeFrom {placed : PlacedPiece}
    (text : characters = front ++ pieces.flatMap Piece.text)
    (member : placed ∈ placeFrom (Position.start.afterAll front) pieces) :
    ∃ between, placed.span.Covers characters (front ++ between) placed.piece.text := by
  induction pieces generalizing front with
  | nil => cases member
  | cons piece pieces ih =>
      have first := covers_first text
      rw [List.flatMap_cons, ← List.append_assoc] at text
      rw [placeFrom, ← Position.afterAll_append] at member
      rcases List.mem_cons.mp member with rfl | member
      · exact ⟨[], by simpa using first⟩
      · obtain ⟨between, covers⟩ := ih text member
        rw [List.append_assoc] at covers
        exact ⟨_, covers⟩

theorem pairwise_placeFrom (text : characters = front ++ pieces.flatMap Piece.text) :
    (placeFrom (Position.start.afterAll front) pieces).Pairwise fun first second =>
      Precedes ((LineIndex.ofChars characters).range first.span)
        ((LineIndex.ofChars characters).range second.span) := by
  induction pieces generalizing front with
  | nil => exact .nil
  | cons piece pieces ih =>
      have first := covers_first text
      rw [List.flatMap_cons, ← List.append_assoc] at text
      rw [placeFrom, ← Position.afterAll_append]
      constructor
      · intro second member
        obtain ⟨between, covers⟩ := covers_of_mem_placeFrom text member
        rw [Precedes, first.range, covers.range, List.length_append, List.length_append]
        exact Nat.le_add_right _ _
      · exact ih text

theorem exists_mem_placeFrom (text : characters = front ++ pieces.flatMap Piece.text)
    {offset : Nat} {c : Char} (behind : front.length ≤ offset)
    (found : characters[offset]? = some c) :
    ∃ placed ∈ placeFrom (Position.start.afterAll front) pieces,
      c ∈ placed.piece.text ∧ Holds ((LineIndex.ofChars characters).range placed.span) offset := by
  induction pieces generalizing front with
  | nil =>
      rw [text, List.flatMap_nil, List.append_nil, List.getElem?_eq_none behind] at found
      cases found
  | cons piece pieces ih =>
      have first := covers_first text
      rw [placeFrom, ← Position.afterAll_append]
      by_cases here : offset < front.length + piece.text.length
      · refine ⟨_, List.mem_cons_self, ?_, ?_⟩
        · rw [text, List.getElem?_append_right behind, List.flatMap_cons,
            List.getElem?_append_left (by omega)] at found
          exact List.mem_of_getElem? found
        · rw [Holds, first.range]
          exact ⟨behind, here⟩
      · rw [List.flatMap_cons, ← List.append_assoc] at text
        obtain ⟨placed, member, holds⟩ := ih text (by rw [List.length_append]; omega)
        exact ⟨placed, List.mem_cons_of_mem _ member, holds⟩

end Place

section Text

variable {characters : List Char} {placed other : PlacedPiece}

private theorem text_eq (characters : List Char) :
    characters = [] ++ (Piece.cut characters).flatMap Piece.text :=
  (Piece.flatMap_text_cut characters).symm

/-- Every piece of a text covers its own characters. -/
theorem covers (member : placed ∈ placedPieces characters) :
    ∃ front, placed.span.Covers characters front placed.piece.text :=
  covers_of_mem_placeFrom (text_eq characters) member

theorem piece_mem_cut (member : placed ∈ placedPieces characters) :
    placed.piece ∈ Piece.cut characters := by
  have piece := List.mem_map_of_mem member (f := PlacedPiece.piece)
  rwa [placedPieces, map_piece_placeFrom] at piece

theorem formed (member : placed ∈ placedPieces characters) :
    placed.piece.shape.Formed placed.piece.text :=
  Piece.formed_of_mem_cut (piece_mem_cut member)

theorem slice (member : placed ∈ placedPieces characters) :
    Text.slice characters ((LineIndex.ofChars characters).range placed.span) =
      placed.piece.text := by
  obtain ⟨_, covers⟩ := covers member
  exact covers.slice

theorem range_filled (member : placed ∈ placedPieces characters) :
    ((LineIndex.ofChars characters).range placed.span).1 <
      ((LineIndex.ofChars characters).range placed.span).2 := by
  obtain ⟨_, covers⟩ := covers member
  have filled := List.length_pos_iff.mpr (formed member).ne_nil
  rw [covers.range]
  exact Nat.lt_add_of_pos_right filled

/-- Two pieces of a text are the same, or they have no character in common. -/
def Separate (characters : List Char) (first second : PlacedPiece) : Prop :=
  first = second ∨ Apart ((LineIndex.ofChars characters).range first.span)
    ((LineIndex.ofChars characters).range second.span)

instance (characters : List Char) : Std.Symm (Separate characters) :=
  ⟨fun _ _ separate => separate.imp Eq.symm Apart.symm⟩

theorem separate (member : placed ∈ placedPieces characters)
    (member' : other ∈ placedPieces characters) : Separate characters placed other := by
  have ordered := pairwise_placeFrom (text_eq characters)
  have separated : (placedPieces characters).Pairwise (Separate characters) :=
    ordered.imp fun before => .inr (.inl before)
  exact separated.forall_of_forall (fun _ _ => .inl rfl) member member'

/-- Pieces at the same place are the same. -/
theorem eq_of_span_eq (member : placed ∈ placedPieces characters)
    (member' : other ∈ placedPieces characters) (same : placed.span = other.span) :
    placed = other := by
  have filled := range_filled member
  rcases separate member member' with same | apart
  · exact same
  · rw [← same] at apart
    rcases apart with before | before
    · exact absurd filled (Nat.not_lt_of_le before)
    · exact absurd filled (Nat.not_lt_of_le before)

end Text

end PlacedPiece

/-! ## What is read off the pieces -/

namespace PlacedPiece

/-- How the characters of a piece spell its token. -/
inductive Spells (placed : PlacedPiece) (token : Token) : Prop where
  | plain : token.kind ≠ .string → String.ofList placed.piece.text = token.text →
      Spells placed token
  | closedString : placed.piece.shape = .closedString → token.kind = .string →
      String.ofList placed.piece.text = "\"" ++ token.text ++ "\"" → Spells placed token
  | openString : placed.piece.shape = .openString → token.kind = .string →
      String.ofList placed.piece.text = "\"" ++ token.text → Spells placed token

variable {characters : List Char} {placed : PlacedPiece} {token : Token}

theorem span_of_token? (found : placed.token? = some token) : token.span = placed.span := by
  obtain ⟨_, _, rfl⟩ := Option.map_eq_some_iff.mp found
  rfl

theorem spells (member : placed ∈ placedPieces characters) (found : placed.token? = some token) :
    Spells placed token ∧ token.kind ≠ .endOfInput := by
  have formed := formed member
  obtain ⟨⟨shape, text⟩, span⟩ := placed
  cases shape with
  | blank | comment | unknown => cases found
  | integer | decimal =>
      cases found
      exact ⟨.plain TokenKind.noConfusion rfl, TokenKind.noConfusion⟩
  | word =>
      cases found
      have apart : ∀ kind : TokenKind, kind = .identifier ∨ kind.isReserved →
          kind ≠ .string ∧ kind ≠ .endOfInput := by
        intro kind known
        constructor
        · rintro rfl
          exact absurd known (by decide)
        · rintro rfl
          exact absurd known (by decide)
      obtain ⟨string, finished⟩ := apart _ (kind_wordLexeme text)
      exact ⟨.plain string rfl, finished⟩
  | mark kind =>
      obtain ⟨mark, spelled⟩ := formed
      cases found
      constructor
      · apply Spells.plain _ spelled
        rintro rfl
        exact absurd mark (by decide)
      · rintro rfl
        exact absurd mark (by decide)
  | closedString =>
      obtain ⟨body, rfl, _, _⟩ := formed
      cases found
      refine ⟨.closedString rfl rfl ?_, TokenKind.noConfusion⟩
      simp [String.append_assoc]
  | openString =>
      obtain ⟨body, rfl, _, _⟩ := formed
      cases found
      refine ⟨.openString rfl rfl ?_, TokenKind.noConfusion⟩
      simp

end PlacedPiece

namespace Lexed

variable (lexed : Lexed)

/-- The tokens that stand for characters: all but the one that ends the list. -/
def words : List Token :=
  lexed.tokens.filter fun token => token.kind != .endOfInput

/-- The reports about characters that begin nothing. -/
def unknowns : List Diagnostic :=
  lexed.diagnostics.filter fun report => report.code == some .unrecognizedCharacter

/-- Is it reported that the string at a span has no end? -/
def leavesOpen (span : Span) : Bool :=
  lexed.diagnostics.any fun report =>
    report.code == some .unterminatedString && report.span == span

/-- How a token stands in the text: a string has quotes, of which the last one may be missing. -/
def spelling (token : Token) : String :=
  if token.kind = .string then
    if lexed.leavesOpen token.span then "\"" ++ token.text else "\"" ++ token.text ++ "\""
  else token.text

/-- The offsets of the tokens. -/
def wordRanges (lines : LineIndex) : List (Nat × Nat) :=
  lexed.words.map fun token => lines.range token.span

/-- The offsets of the comments. -/
def commentRanges (lines : LineIndex) : List (Nat × Nat) :=
  lexed.comments.map lines.range

/-- The offsets of the characters that begin nothing. -/
def unknownRanges (lines : LineIndex) : List (Nat × Nat) :=
  lexed.unknowns.map fun report => lines.range report.span

/-- The offsets of everything that was found. -/
def ranges (lines : LineIndex) : List (Nat × Nat) :=
  lexed.wordRanges lines ++ lexed.commentRanges lines ++ lexed.unknownRanges lines

/-- What was found accounts for every character of the text, and each span is exact. -/
structure AccountsFor (document : Document) : Prop where
  filled : ∀ range ∈ lexed.ranges document.lines, range.1 < range.2
  apart : (lexed.ranges document.lines).Pairwise Apart
  wordsAscend : (lexed.wordRanges document.lines).Pairwise Precedes
  commentsAscend : (lexed.commentRanges document.lines).Pairwise Precedes
  unknownsAscend : (lexed.unknownRanges document.lines).Pairwise Precedes
  blank : ∀ offset c, document.characters[offset]? = some c →
    (∀ range ∈ lexed.ranges document.lines, ¬Holds range offset) → isBlank c
  spelled : ∀ token ∈ lexed.tokens, document.textAt token.span = lexed.spelling token
  ended : lexed.tokens = lexed.words ++ [Token.endAt document.lines.endPosition]
  endRange : document.lines.range (Span.point document.lines.endPosition) =
    (document.characters.length, document.characters.length)

end Lexed

namespace PlacedPiece

/-- The report that the piece is a character that begins nothing. -/
def unknown? (placed : PlacedPiece) : Option Diagnostic :=
  placed.diagnostic?.filter fun report => report.code == some .unrecognizedCharacter

variable {placed : PlacedPiece} {token : Token} {span : Span} {report : Diagnostic}

theorem of_comment? (found : placed.comment? = some span) :
    placed.piece.shape = .comment ∧ span = placed.span := by
  unfold comment? at found
  split at found
  next shape =>
    cases found
    exact ⟨shape, rfl⟩
  next => cases found

theorem of_diagnostic? (found : placed.diagnostic? = some report) :
    report.span = placed.span ∧
      (placed.piece.shape = .unknown ∧ report.code = some .unrecognizedCharacter ∨
        placed.piece.shape = .openString ∧ report.code = some .unterminatedString) := by
  unfold diagnostic? at found
  split at found
  next shape =>
    cases found
    exact ⟨rfl, .inl ⟨shape, rfl⟩⟩
  next shape =>
    cases found
    exact ⟨rfl, .inr ⟨shape, rfl⟩⟩
  next => cases found

theorem of_unknown? (found : placed.unknown? = some report) :
    placed.piece.shape = .unknown ∧ report.span = placed.span := by
  obtain ⟨found, code⟩ := Option.filter_eq_some_iff.mp found
  obtain ⟨same, ⟨shape, _⟩ | ⟨_, other⟩⟩ := of_diagnostic? found
  · exact ⟨shape, same⟩
  · rw [other] at code
    cases code

/-- A piece is blank, or something is read off it. -/
theorem blank_or_read (placed : PlacedPiece) :
    placed.piece.shape = .blank ∨ (∃ token, placed.token? = some token) ∨
      (∃ span, placed.comment? = some span) ∨ ∃ report, placed.unknown? = some report := by
  obtain ⟨⟨shape, text⟩, span⟩ := placed
  cases shape with
  | blank => exact .inl rfl
  | comment => exact .inr (.inr (.inl ⟨_, rfl⟩))
  | unknown => exact .inr (.inr (.inr ⟨_, rfl⟩))
  | _ => exact .inr (.inl ⟨_, rfl⟩)

end PlacedPiece

section Ranges

variable {α β : Type} {characters : List Char} {read : PlacedPiece → Option α} {place : α → Span}
  {read' : PlacedPiece → Option β} {place' : β → Span}

/-- What is read off a piece is placed where the piece stands. -/
def Placing (read : PlacedPiece → Option α) (place : α → Span) : Prop :=
  ∀ placed value, read placed = some value → place value = placed.span

/-- The offsets of everything of one kind that is read off the pieces of a text. -/
def rangesOf (characters : List Char) (read : PlacedPiece → Option α) (place : α → Span) :
    List (Nat × Nat) :=
  ((placedPieces characters).filterMap read).map fun value =>
    (LineIndex.ofChars characters).range (place value)

theorem exists_of_mem_rangesOf (placing : Placing read place) {range : Nat × Nat}
    (member : range ∈ rangesOf characters read place) :
    ∃ placed ∈ placedPieces characters, (read placed).isSome ∧
      (LineIndex.ofChars characters).range placed.span = range := by
  obtain ⟨value, gathered, rfl⟩ := List.mem_map.mp member
  obtain ⟨placed, inside, found⟩ := List.mem_filterMap.mp gathered
  rw [placing placed value found]
  exact ⟨placed, inside, Option.isSome_of_mem found, rfl⟩

theorem mem_rangesOf (placing : Placing read place) {placed : PlacedPiece} {value : α}
    (member : placed ∈ placedPieces characters) (found : read placed = some value) :
    (LineIndex.ofChars characters).range placed.span ∈ rangesOf characters read place := by
  rw [← placing placed value found]
  exact List.mem_map_of_mem (List.mem_filterMap.mpr ⟨placed, member, found⟩)

theorem filled_of_mem_rangesOf (placing : Placing read place) {range : Nat × Nat}
    (member : range ∈ rangesOf characters read place) : range.1 < range.2 := by
  obtain ⟨placed, inside, _, rfl⟩ := exists_of_mem_rangesOf placing member
  exact PlacedPiece.range_filled inside

/-- Things of one kind stand in the order of their pieces. -/
theorem pairwise_rangesOf (placing : Placing read place) :
    (rangesOf characters read place).Pairwise Precedes := by
  rw [rangesOf, List.pairwise_map, List.pairwise_filterMap]
  have ordered := PlacedPiece.pairwise_placeFrom (PlacedPiece.text_eq characters)
  apply ordered.imp
  intro first second before value found value' found'
  rw [placing first value found, placing second value' found']
  exact before

/-- Things of two kinds that no piece is both of are apart. -/
theorem apart_of_mem_rangesOf (placing : Placing read place) (placing' : Placing read' place')
    (differ : ∀ placed, (read placed).isSome → (read' placed).isSome → False)
    {range range' : Nat × Nat} (member : range ∈ rangesOf characters read place)
    (member' : range' ∈ rangesOf characters read' place') : Apart range range' := by
  obtain ⟨placed, inside, found, rfl⟩ := exists_of_mem_rangesOf placing member
  obtain ⟨other, inside', found', rfl⟩ := exists_of_mem_rangesOf placing' member'
  rcases PlacedPiece.separate inside inside' with rfl | apart
  · exact (differ placed found found').elim
  · exact apart

end Ranges

/-! ## What the lexer finds -/

namespace Lexed

variable (characters : List Char)

/-- Only the end of a text is an end of input. -/
theorem inside_of_mem {token : Token}
    (member : token ∈ (placedPieces characters).filterMap PlacedPiece.token?) :
    token.kind ≠ .endOfInput := by
  obtain ⟨placed, member, found⟩ := List.mem_filterMap.mp member
  exact (PlacedPiece.spells member found).2

theorem words_ofChars :
    (ofChars characters).words = (placedPieces characters).filterMap PlacedPiece.token? := by
  have kept : ∀ token ∈ (placedPieces characters).filterMap PlacedPiece.token?,
      (token.kind != .endOfInput) = true :=
    fun token member => bne_iff_ne.mpr (inside_of_mem characters member)
  rw [words, ofChars, List.filter_append, List.filter_eq_self.mpr kept]
  exact List.append_nil _

theorem wordRanges_ofChars :
    (ofChars characters).wordRanges (.ofChars characters) =
      rangesOf characters PlacedPiece.token? Token.span := by
  rw [wordRanges, words_ofChars, rangesOf]

theorem commentRanges_ofChars :
    (ofChars characters).commentRanges (.ofChars characters) =
      rangesOf characters PlacedPiece.comment? id :=
  rfl

theorem unknownRanges_ofChars :
    (ofChars characters).unknownRanges (.ofChars characters) =
      rangesOf characters PlacedPiece.unknown? Diagnostic.span := by
  rw [unknownRanges, unknowns, ofChars, List.filter_filterMap]
  rfl

theorem placing_token? : Placing PlacedPiece.token? Token.span :=
  fun _ _ found => PlacedPiece.span_of_token? found

theorem placing_comment? : Placing PlacedPiece.comment? id :=
  fun _ _ found => (PlacedPiece.of_comment? found).2

theorem placing_unknown? : Placing PlacedPiece.unknown? Diagnostic.span :=
  fun _ _ found => (PlacedPiece.of_unknown? found).2

/-- The string at a piece is reported to have no end if, and only if, it has none. -/
theorem leavesOpen_iff {placed : PlacedPiece} (member : placed ∈ placedPieces characters) :
    (ofChars characters).leavesOpen placed.span ↔ placed.piece.shape = .openString := by
  unfold leavesOpen
  rw [List.any_eq_true]
  constructor
  · rintro ⟨report, reported, holds⟩
    obtain ⟨other, member', found⟩ := List.mem_filterMap.mp reported
    simp only [Bool.and_eq_true, beq_iff_eq] at holds
    obtain ⟨code, same⟩ := holds
    obtain ⟨place, ⟨_, unknown⟩ | ⟨shape, _⟩⟩ := PlacedPiece.of_diagnostic? found
    · rw [unknown] at code
      cases code
    · rw [PlacedPiece.eq_of_span_eq member member' (same.symm.trans place)]
      exact shape
  · intro shape
    cases found : placed.diagnostic? with
    | none => simp [PlacedPiece.diagnostic?, shape] at found
    | some report =>
        obtain ⟨place, ⟨unknown, _⟩ | ⟨_, code⟩⟩ := PlacedPiece.of_diagnostic? found
        · rw [shape] at unknown
          cases unknown
        · exact ⟨report, List.mem_filterMap.mpr ⟨placed, member, found⟩, by simp [code, place]⟩

/-- The empty span behind a text covers none of it. -/
theorem covers_end :
    (Span.point (Position.start.afterAll characters)).Covers characters characters [] :=
  ⟨⟨[], by simp⟩, by rw [List.append_nil]; rfl⟩

/-- Every token stands in the text as it is spelled. -/
theorem spelling_eq {token : Token} (member : token ∈ (ofChars characters).tokens) :
    String.ofList (slice characters ((LineIndex.ofChars characters).range token.span)) =
      (ofChars characters).spelling token := by
  rcases List.mem_append.mp member with member | member
  · obtain ⟨placed, member, found⟩ := List.mem_filterMap.mp member
    have place := PlacedPiece.span_of_token? found
    have opens := leavesOpen_iff characters member
    rw [← place] at opens
    rw [place, PlacedPiece.slice member, spelling]
    rcases (PlacedPiece.spells member found).1 with
      ⟨plain, spelled⟩ | ⟨shape, string, spelled⟩ | ⟨shape, string, spelled⟩
    · rw [if_neg plain, spelled]
    · have closed : ¬(ofChars characters).leavesOpen token.span := by
        rw [opens, shape]
        exact Shape.noConfusion
      rw [if_pos string, if_neg closed, spelled]
    · rw [if_pos string, if_pos (opens.mpr shape), spelled]
  · rw [List.mem_singleton.mp member]
    rw [Token.endAt, (covers_end characters).slice]
    rfl

/-- The offsets of the three kinds of things that are read off the pieces. -/
theorem ranges_ofChars :
    (ofChars characters).ranges (.ofChars characters) =
      rangesOf characters PlacedPiece.token? Token.span ++
        rangesOf characters PlacedPiece.comment? id ++
        rangesOf characters PlacedPiece.unknown? Diagnostic.span := by
  rw [ranges, wordRanges_ofChars, commentRanges_ofChars, unknownRanges_ofChars]

theorem filled_of_mem_ranges {range : Nat × Nat}
    (member : range ∈ (ofChars characters).ranges (.ofChars characters)) :
    range.1 < range.2 := by
  rw [ranges_ofChars, List.mem_append, List.mem_append] at member
  rcases member with (word | comment) | unknown
  · exact filled_of_mem_rangesOf placing_token? word
  · exact filled_of_mem_rangesOf placing_comment? comment
  · exact filled_of_mem_rangesOf placing_unknown? unknown

/-- No character belongs to two things. -/
theorem pairwise_apart_ranges :
    ((ofChars characters).ranges (.ofChars characters)).Pairwise Apart := by
  have token_comment : ∀ placed : PlacedPiece,
      placed.token?.isSome → placed.comment?.isSome → False := by
    intro placed token comment
    obtain ⟨_, comment⟩ := Option.isSome_iff_exists.mp comment
    simp [PlacedPiece.token?, Piece.token?, (PlacedPiece.of_comment? comment).1] at token
  have token_unknown : ∀ placed : PlacedPiece,
      placed.token?.isSome → placed.unknown?.isSome → False := by
    intro placed token unknown
    obtain ⟨_, unknown⟩ := Option.isSome_iff_exists.mp unknown
    simp [PlacedPiece.token?, Piece.token?, (PlacedPiece.of_unknown? unknown).1] at token
  have comment_unknown : ∀ placed : PlacedPiece,
      placed.comment?.isSome → placed.unknown?.isSome → False := by
    intro placed comment unknown
    obtain ⟨_, unknown⟩ := Option.isSome_iff_exists.mp unknown
    simp [PlacedPiece.comment?, (PlacedPiece.of_unknown? unknown).1] at comment
  rw [ranges_ofChars, List.pairwise_append, List.pairwise_append]
  refine ⟨⟨?_, ?_, ?_⟩, ?_, ?_⟩
  · exact (pairwise_rangesOf placing_token?).imp Or.inl
  · exact (pairwise_rangesOf placing_comment?).imp Or.inl
  · intro word member comment member'
    exact apart_of_mem_rangesOf placing_token? placing_comment? token_comment member member'
  · exact (pairwise_rangesOf placing_unknown?).imp Or.inl
  · intro range member unknown member'
    rcases List.mem_append.mp member with word | comment
    · exact apart_of_mem_rangesOf placing_token? placing_unknown? token_unknown word member'
    · exact apart_of_mem_rangesOf placing_comment? placing_unknown? comment_unknown comment member'

/-- A character that belongs to nothing is blank. -/
theorem isBlank_of_uncovered {offset : Nat} {c : Char} (found : characters[offset]? = some c)
    (uncovered : ∀ range ∈ (ofChars characters).ranges (.ofChars characters),
      ¬Holds range offset) : isBlank c := by
  obtain ⟨placed, member, inside, holds⟩ :=
    PlacedPiece.exists_mem_placeFrom (PlacedPiece.text_eq characters) (Nat.zero_le _) found
  rw [ranges_ofChars] at uncovered
  rcases placed.blank_or_read with blank | ⟨token, read⟩ | ⟨span, read⟩ | ⟨report, read⟩
  · have formed := PlacedPiece.formed member
    rw [blank] at formed
    obtain ⟨only, text, blank⟩ := formed
    rw [text, List.mem_singleton] at inside
    rwa [inside]
  · have known := mem_rangesOf placing_token? member read
    exact absurd holds (uncovered _ (by simp [known]))
  · have known := mem_rangesOf placing_comment? member read
    exact absurd holds (uncovered _ (by simp [known]))
  · have known := mem_rangesOf placing_unknown? member read
    exact absurd holds (uncovered _ (by simp [known]))

theorem tokens_ofChars :
    (ofChars characters).tokens =
      (ofChars characters).words ++ [Token.endAt (LineIndex.ofChars characters).endPosition] := by
  rw [words_ofChars, LineIndex.endPosition_ofChars]
  rfl

theorem range_endPosition :
    (LineIndex.ofChars characters).range
      (Span.point (LineIndex.ofChars characters).endPosition) =
        (characters.length, characters.length) := by
  rw [LineIndex.endPosition_ofChars, (covers_end characters).range]
  rfl

/-- The lexer loses nothing of a text, and its spans are exact. -/
theorem accountsFor (source : String) :
    (Lexed.ofString source).AccountsFor (Document.ofString source) where
  filled _ member := filled_of_mem_ranges source.toList member
  apart := pairwise_apart_ranges source.toList
  wordsAscend := by
    have ascend : (rangesOf source.toList PlacedPiece.token? Token.span).Pairwise Precedes :=
      pairwise_rangesOf placing_token?
    rwa [← wordRanges_ofChars] at ascend
  commentsAscend := pairwise_rangesOf placing_comment?
  unknownsAscend := by
    have ascend : (rangesOf source.toList PlacedPiece.unknown? Diagnostic.span).Pairwise Precedes :=
      pairwise_rangesOf placing_unknown?
    rwa [← unknownRanges_ofChars] at ascend
  blank _ _ found uncovered := isBlank_of_uncovered source.toList found uncovered
  spelled _ member := spelling_eq source.toList member
  ended := tokens_ofChars source.toList
  endRange := range_endPosition source.toList

end Lexed

end RapidLang
