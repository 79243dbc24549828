import RapidLang.Proofs.Parser.Nesting.Program
import RapidLang.Proofs.Token.Coverage

/-!
# The tokens of a text in order

The tokens of a text are laid out, and at the span of each name that a token stands for, the text
has that name. This holds for the parts of a dotted word, too, whose spans are computed.
-/

set_option autoImplicit false

namespace RapidLang

open Text

/-! ## Spans that cover parts of a text -/

namespace Text.Span.Covers

variable {characters front before part behind : List Char} {span inner : Span}

theorem filled (covers : span.Covers characters front part) (some : part ≠ []) : span.Filled := by
  rw [covers.2, Filled, Position.afterAll_append]
  exact Position.lt_afterAll some

theorem within (covers : span.Covers characters front (before ++ part ++ behind))
    (held : inner.Covers characters (front ++ before) part) : inner.Within span := by
  rw [covers.2, held.2]
  constructor
  · show Position.start.afterAll front ≤ Position.start.afterAll (front ++ before)
    rw [Position.afterAll_append]
    exact Position.le_afterAll _ _
  · show Position.start.afterAll (front ++ before ++ part) ≤
      Position.start.afterAll (front ++ (before ++ part ++ behind))
    rw [← List.append_assoc, ← List.append_assoc, Position.afterAll_append _ _ behind]
    exact Position.le_afterAll _ _

/-- A part of a word that has no line feed covers its own characters. -/
theorem within_word (covers : span.Covers characters front (before ++ part ++ behind))
    (plain : '\n' ∉ before ++ part ++ behind) :
    (⟨span.start.right before.length, span.start.right (before.length + part.length)⟩ :
      Span).Covers characters (front ++ before) part := by
  obtain ⟨⟨rest, text⟩, rfl⟩ := covers
  simp only [List.mem_append, not_or] at plain
  have inside : '\n' ∉ before ++ part := by simp [plain]
  refine ⟨⟨behind ++ rest, by rw [text]; simp only [List.append_assoc]⟩, ?_⟩
  rw [List.append_assoc front before part, Position.afterAll_append _ front before,
    Position.afterAll_append _ front (before ++ part), ← List.length_append,
    ← Position.afterAll_of_not_mem inside, ← Position.afterAll_of_not_mem plain.1.1]

end Text.Span.Covers

/-! ## Pieces in order -/

namespace PlacedPiece

theorem within_of_mem_placeFrom {position : Position} {pieces : List Piece} {placed : PlacedPiece}
    (member : placed ∈ placeFrom position pieces) :
    placed.span.Within ⟨position, position.afterAll (pieces.flatMap Piece.text)⟩ := by
  induction pieces generalizing position with
  | nil => cases member
  | cons piece pieces ih =>
      rw [List.flatMap_cons, Position.afterAll_append]
      rcases List.mem_cons.mp member with rfl | member
      · exact ⟨le_refl _, Position.le_afterAll _ _⟩
      · exact ⟨le_trans (Position.le_afterAll _ _) (ih member).1, (ih member).2⟩

theorem ordered_placeFrom (position : Position) (pieces : List Piece) :
    (placeFrom position pieces).Pairwise fun first second => first.span.Before second.span := by
  induction pieces generalizing position with
  | nil => exact .nil
  | cons piece pieces ih => exact .cons (fun _ member => (within_of_mem_placeFrom member).1) (ih _)

variable {characters : List Char} {placed : PlacedPiece}

theorem within_text (member : placed ∈ placedPieces characters) :
    placed.span.Within ⟨Position.start, Position.start.afterAll characters⟩ := by
  have within := within_of_mem_placeFrom member
  rwa [Piece.flatMap_text_cut] at within

theorem span_filled (member : placed ∈ placedPieces characters) : placed.span.Filled := by
  obtain ⟨_, covers⟩ := covers member
  exact covers.filled (formed member).ne_nil

end PlacedPiece

/-! ## Names at their spans -/

/-- The text has the name at the span of the name. -/
def Name.StandsIn (characters : List Char) (name : Name) : Prop :=
  String.ofList (slice characters ((LineIndex.ofChars characters).range name.span)) = name.text

/-- The span of the name covers the characters of the name. -/
def Name.Covering (characters : List Char) (name : Name) : Prop :=
  ∃ front, name.span.Covers characters front name.text.toList

theorem Name.Covering.standsIn {characters : List Char} {name : Name}
    (covering : name.Covering characters) : name.StandsIn characters := by
  obtain ⟨front, covers⟩ := covering
  rw [StandsIn, covers.slice, String.ofList_toList]

namespace Parser

/-- Parts with a column between each two of them are placed where they stand. -/
theorem exists_of_mem_placeParts {position : Position} {parts : List (List Char)} {name : Name}
    (member : name ∈ placeParts position parts) :
    ∃ before behind, ['.'].intercalate parts = before ++ name.text.toList ++ behind ∧
      name.span = ⟨position.right before.length,
        position.right (before.length + name.text.toList.length)⟩ := by
  induction parts generalizing position with
  | nil => cases member
  | cons part rest ih =>
      rw [placeParts] at member
      rcases List.mem_cons.mp member with rfl | member
      · cases rest with
        | nil => exact ⟨[], [], by simp, by simp [Position.right]⟩
        | cons second rest =>
            refine ⟨[], ['.'] ++ ['.'].intercalate (second :: rest), ?_, by simp [Position.right]⟩
            simp [List.intercalate_cons_cons]
      · obtain ⟨before, behind, text, place⟩ := ih member
        cases rest with
        | nil => cases member
        | cons second rest =>
            refine ⟨part ++ ['.'] ++ before, behind, ?_, ?_⟩
            · rw [List.intercalate_cons_cons, text]
              simp only [List.append_assoc]
            · rw [place]
              simp only [Position.right, List.length_append, List.length_singleton]
              congr 2 <;> omega

/-! ## Tokens of a text -/

variable {characters : List Char} {placed : PlacedPiece} {token : Token}

/-- Only words stand for names. -/
theorem word_of_token? (found : placed.token? = some token)
    (word : token.kind = .identifier ∨ token.kind.isReserved)
    (formed : placed.piece.shape.Formed placed.piece.text) :
    placed.piece.shape = .word ∧ IsWord placed.piece.text ∧
      token.text = String.ofList placed.piece.text := by
  obtain ⟨⟨shape, text⟩, span⟩ := placed
  cases shape with
  | word =>
      cases found
      exact ⟨rfl, formed, rfl⟩
  | mark kind =>
      cases found
      obtain ⟨mark, _⟩ := formed
      have apart : ¬(kind = .identifier ∨ kind.isReserved) := by
        simp only [TokenKind.isMark, Bool.and_eq_true, Bool.not_eq_true', bne_iff_ne] at mark
        simp [mark]
      exact absurd word apart
  | integer | decimal | closedString | openString =>
      cases found
      exact word.elim TokenKind.noConfusion Bool.noConfusion
  | blank | comment | unknown => cases found

end Parser

theorem IsWord.not_mem_newline {text : List Char} (word : IsWord text) : '\n' ∉ text := by
  obtain ⟨c, rest, rfl, start, continues⟩ := word
  intro member
  rcases List.mem_cons.mp member with rfl | member
  · exact absurd start (by decide)
  · exact absurd (continues _ member) (by decide)

namespace Parser

/-- A token of a text stands for names that the text has at their spans. -/
theorem spelled_of_token? {characters : List Char} {placed : PlacedPiece} {token : Token}
    (member : placed ∈ placedPieces characters) (found : placed.token? = some token) :
    Spelled (Name.Covering characters) token := by
  have formed := PlacedPiece.formed member
  have place := PlacedPiece.span_of_token? found
  obtain ⟨front, covers⟩ := PlacedPiece.covers member
  constructor
  · intro kind
    obtain ⟨_, _, text⟩ := word_of_token? found (.inl kind) formed
    refine ⟨front, ?_⟩
    rwa [text, String.toList_ofList, place]
  · intro kind part member some
    obtain ⟨_, word, text⟩ := word_of_token? found kind formed
    have plain := word.not_mem_newline
    rw [dottedNames, place, text, String.toList_ofList] at member
    obtain ⟨before, behind, split, span⟩ := exists_of_mem_placeParts member
    rw [Grammar.intercalate_splitDots] at split
    rw [split] at covers plain
    have held := covers.within_word plain
    rw [← span] at held
    have filled : part.text.toList ≠ [] := by simpa using some
    exact ⟨place ▸ covers.within held, held.filled filled, _, held⟩

/-- The tokens before the end of a text, and that end. -/
theorem ofTokens_ofChars (characters : List Char) :
    (Cursor.ofTokens (Lexed.ofChars characters).tokens).rest =
        (placedPieces characters).filterMap PlacedPiece.token? ∧
      (Cursor.ofTokens (Lexed.ofChars characters).tokens).stop =
        Token.endAt (Position.start.afterAll characters) := by
  have kept : ∀ token ∈ (placedPieces characters).filterMap PlacedPiece.token?,
      (token.kind != .endOfInput) = true :=
    fun token member => bne_iff_ne.mpr (Lexed.inside_of_mem characters member)
  have passed : ((placedPieces characters).filterMap PlacedPiece.token?).find?
      (fun token => token.kind == .endOfInput) = none := by
    rw [List.find?_eq_none]
    intro token member
    simpa using Lexed.inside_of_mem characters member
  constructor
  · rw [Cursor.rest_ofTokens]
    show List.takeWhile _ (_ ++ [_]) = _
    rw [List.takeWhile_append_of_pos kept]
    exact List.append_nil _
  · apply Cursor.stop_ofTokens
    show List.find? _ (_ ++ [_]) = _
    rw [List.find?_append, passed]
    rfl

/-- The tokens of a text are laid out. -/
theorem laid_covering (characters : List Char) :
    (Cursor.ofTokens (Lexed.ofChars characters).tokens).Laid (Name.Covering characters) := by
  obtain ⟨rest, stop⟩ := ofTokens_ofChars characters
  constructor
  · rw [rest]
    intro token member
    obtain ⟨placed, member, found⟩ := List.mem_filterMap.mp member
    rw [PlacedPiece.span_of_token? found]
    exact PlacedPiece.span_filled member
  · rw [rest, List.pairwise_filterMap]
    apply (PlacedPiece.ordered_placeFrom _ _).imp
    intro first second before token found other found'
    rwa [PlacedPiece.span_of_token? found, PlacedPiece.span_of_token? found']
  · rw [rest, stop]
    intro token member
    obtain ⟨placed, member, found⟩ := List.mem_filterMap.mp member
    rw [PlacedPiece.span_of_token? found]
    exact (PlacedPiece.within_text member).2
  · rw [stop]
    rfl
  · rw [rest]
    intro token member
    obtain ⟨placed, member, found⟩ := List.mem_filterMap.mp member
    exact spelled_of_token? member found

theorem laid_tokens (characters : List Char) :
    (Cursor.ofTokens (Lexed.ofChars characters).tokens).Laid (Name.StandsIn characters) :=
  (laid_covering characters).mono fun _ => Name.Covering.standsIn

/-- No token of a text begins before the text does. -/
theorem start_le_here (characters : List Char) :
    Position.start ≤ (Cursor.ofTokens (Lexed.ofChars characters).tokens).here := by
  obtain ⟨rest, stop⟩ := ofTokens_ofChars characters
  rw [Cursor.here, Cursor.current, rest, stop]
  cases tokens : (placedPieces characters).filterMap PlacedPiece.token? with
  | nil => exact Position.le_afterAll _ _
  | cons token others =>
      have member : token ∈ (placedPieces characters).filterMap PlacedPiece.token? :=
        tokens ▸ List.mem_cons_self
      obtain ⟨placed, member, found⟩ := List.mem_filterMap.mp member
      rw [List.headD_cons, PlacedPiece.span_of_token? found]
      exact (PlacedPiece.within_text member).1

/-- The spans of a program that is read from a text are nested, and its modules lie in the text. -/
theorem nested_of_ok {characters : List Char} {program : Program}
    (accepted : Program.ofTokens (Lexed.ofChars characters).tokens = .ok program) :
    program.Nested (Name.StandsIn characters) ∧
      ∀ content ∈ program.modules, Position.start ≤ content.span.start := by
  obtain ⟨_, outcome⟩ := Reader.run_of_read accepted
  obtain ⟨nested, sits⟩ := program_reads.ends (laid_tokens characters) _ _ outcome
  exact ⟨nested, fun content member =>
    le_trans (start_le_here characters) (sits content member).lower_le⟩

end Parser

end RapidLang
