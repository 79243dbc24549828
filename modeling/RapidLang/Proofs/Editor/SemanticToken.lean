import RapidLang.Editor.SemanticToken
import RapidLang.Proofs.Index.Listing
import RapidLang.Proofs.Parser.Nesting.Source
import RapidLang.Proofs.Text.Offsets

/-!
# Semantic tokens and the text

A receiver of semantic tokens adds up the distances between them. What comes out are the places and
lengths of the words and comments of the text, in the order in which they stand there; what an index
knows about names has no part in it.
-/

set_option autoImplicit false

namespace RapidLang

open Text

/-! ## Adding up distances -/

/-- A stretch of text as an editor sees it: line and character, counted from zero, and length. -/
structure Stretch where
  line : Nat
  character : Nat
  length : Nat
  deriving DecidableEq, Repr

namespace Stretch

/-- The stretch ends before another one begins. -/
def Before (left right : Stretch) : Prop :=
  left.line < right.line ∨
    (left.line = right.line ∧ left.character + left.length ≤ right.character)

/-- The place at which the stretch begins. -/
def place (stretch : Stretch) : Nat × Nat :=
  (stretch.line, stretch.character)

/-- The stretch that a span is in a text. -/
def ofSpan (characters : List Char) (span : Span) : Stretch :=
  ⟨span.start.line - 1, span.start.column - 1,
    (slice characters ((LineIndex.ofChars characters).range span)).length⟩

theorem Before.place_le {left right : Stretch} (before : left.Before right) :
    EditorLe left.place right.place := by
  rcases before with above | ⟨same, left⟩
  · exact .inl above
  · exact .inr ⟨same, Nat.le_of_add_right_le left⟩

end Stretch

/-- Where a token stands. -/
def SemanticToken.stretch (token : SemanticToken) : Stretch :=
  ⟨token.line, token.character, token.length⟩

namespace RelativeToken

/-- The distances and the length, without what they stand for. -/
def distances (token : RelativeToken) : Nat × Nat × Nat :=
  (token.lines, token.characters, token.length)

/-- Adds up the distances of tokens, beginning at a line and character. -/
def stretchesFrom (line character : Nat) : List RelativeToken → List Stretch
  | [] => []
  | token :: rest =>
    let here := if token.lines = 0 then character + token.characters else token.characters
    ⟨line + token.lines, here, token.length⟩ :: stretchesFrom (line + token.lines) here rest

/-- Adds up the distances of tokens from the beginning of the text. -/
def stretches (tokens : List RelativeToken) : List Stretch :=
  stretchesFrom 0 0 tokens

end RelativeToken

section Distances

variable {line character : Nat} {tokens others : List SemanticToken}

/-- Tokens in order are found again by adding up their distances. -/
theorem stretchesFrom_relativeFrom
    (ascends : ((line, character) :: tokens.map (·.stretch.place)).IsChain EditorLe) :
    RelativeToken.stretchesFrom line character (relativeFrom line character tokens) =
      tokens.map SemanticToken.stretch := by
  induction tokens generalizing line character with
  | nil => rfl
  | cons token rest ih =>
      obtain ⟨first, behind⟩ := List.isChain_cons_cons.mp ascends
      have line_eq : line + (token.line - line) = token.line := by
        rcases first with above | ⟨same, _⟩
        · exact Nat.add_sub_cancel' (Nat.le_of_lt above)
        · exact Nat.add_sub_cancel' (Nat.le_of_eq same)
      have character_eq : (if token.line - line = 0 then
          character + (if token.line = line then token.character - character else token.character)
          else (if token.line = line then token.character - character else token.character)) =
          token.character := by
        rcases first with above | ⟨same, left⟩
        · have below : line < token.line := above
          rw [if_neg (by omega), if_neg (by omega)]
        · have level : line = token.line := same
          rw [if_pos (by omega), if_pos level.symm]
          exact Nat.add_sub_cancel' left
      have following := ih behind
      rw [relativeFrom, RelativeToken.stretchesFrom, line_eq, character_eq]
      exact congrArg _ following

/-- The distances depend on the places and lengths alone. -/
theorem map_distances_relativeFrom
    (same : tokens.map SemanticToken.stretch = others.map SemanticToken.stretch) :
    (relativeFrom line character tokens).map RelativeToken.distances =
      (relativeFrom line character others).map RelativeToken.distances := by
  induction tokens generalizing line character others with
  | nil =>
      rw [List.map_nil, eq_comm, List.map_eq_nil_iff] at same
      rw [same]
  | cons token rest ih =>
      cases others with
      | nil => cases same
      | cons other others =>
          obtain ⟨first, behind⟩ := List.cons_eq_cons.mp same
          obtain ⟨line_eq, character_eq, length_eq⟩ := Stretch.mk.inj first
          rw [relativeFrom, relativeFrom, List.map_cons, List.map_cons, line_eq, character_eq,
            ih behind]
          simp only [RelativeToken.distances, length_eq]

/-- No distance is greater than the place that it leads to. -/
theorem exists_of_mem_relativeFrom {sent : RelativeToken}
    (member : sent ∈ relativeFrom line character tokens) :
    ∃ token ∈ tokens, sent.lines ≤ token.line ∧ sent.characters ≤ token.character ∧
      sent.length = token.length := by
  induction tokens generalizing line character with
  | nil => cases member
  | cons token rest ih =>
      rw [relativeFrom] at member
      rcases List.mem_cons.mp member with rfl | member
      · refine ⟨token, List.mem_cons_self, Nat.sub_le _ _, ?_, rfl⟩
        dsimp only
        split
        · exact Nat.sub_le _ _
        · exact Nat.le_refl _
      · obtain ⟨found, inside, bounds⟩ := ih member
        exact ⟨found, List.mem_cons_of_mem _ inside, bounds⟩

end Distances

/-! ## What is coloured -/

/-- Is it the kind of a mark that is neither an operator nor the sign of a switch? -/
def TokenKind.isPunctuation : TokenKind → Bool
  | .leftParen | .rightParen | .leftBracket | .rightBracket | .comma | .colon | .semicolon | .dot =>
    Bool.true
  | _ => Bool.false

/-- The spans that have a colour: those of the tokens, but for punctuation, and of the comments. -/
def Lexed.coloured (lexed : Lexed) : List Span :=
  (lexed.words.filter fun token => !token.kind.isPunctuation).map Token.span ++ lexed.comments

/-- The highlights that are sent. -/
def Highlight.isSent (highlight : Highlight) : Bool :=
  highlight.kind != .punctuation

theorem TokenKind.isPunctuation_iff (kind : TokenKind) :
    kind.isPunctuation ↔
      (kind ≠ .identifier ∧ kind ≠ .number ∧ kind ≠ .string ∧ kind ≠ .backslash ∧
        kind ≠ .endOfInput) ∧ ¬kind.isReserved ∧ ¬kind.isOperator := by
  cases kind <;> decide

/-- A token has no colour only if it is the end of the text or a punctuation mark. -/
theorem Token.filter_highlightKind? (token : Token) :
    (token.highlightKind?.filter (· != .punctuation)).isSome =
      (!token.kind.isPunctuation && token.kind != .endOfInput) := by
  unfold highlightKind?
  split
  next kind =>
    rw [kind]
    rfl
  next kind =>
    rw [kind]
    split <;> rfl
  next kind =>
    rw [kind]
    rfl
  next kind =>
    rw [kind]
    rfl
  next kind =>
    rw [kind]
    rfl
  next finished identifier number string backslash =>
    have inside : (token.kind != .endOfInput) = true := bne_iff_ne.mpr finished
    have punctuation : token.kind.isPunctuation =
        (!token.kind.isReserved && !token.kind.isOperator) := by
      rw [Bool.eq_iff_iff, TokenKind.isPunctuation_iff]
      simpa using fun _ _ => ⟨identifier, number, string, backslash, finished⟩
    rw [inside, punctuation]
    cases reserved : token.kind.isReserved with
    | true => rfl
    | false =>
        cases operator : token.kind.isOperator with
        | true => rfl
        | false => rfl

/-- The highlights of tokens that are sent are those of the words, but for punctuation. -/
theorem Token.map_span_highlights (tokens : List Token) :
    ((tokens.filterMap Token.highlight?).filter Highlight.isSent).map Highlight.span =
      ((tokens.filter fun token => token.kind != .endOfInput).filter
        fun token => !token.kind.isPunctuation).map Token.span := by
  rw [List.filter_filter, List.filter_filterMap, List.map_filterMap, ← List.filterMap_eq_map,
    List.filterMap_filter]
  refine List.filterMap_congr fun token _ => ?_
  rw [← filter_highlightKind?, highlight?]
  cases token.highlightKind? with
  | none => rfl
  | some kind => cases kind <;> rfl

/-- What is sent of the highlights of a text are its coloured spans. -/
theorem perm_coloured (characters : List Char) :
    (((highlights characters).filter Highlight.isSent).map Highlight.span).Perm
      (Lexed.ofChars characters).coloured := by
  refine (((List.mergeSort_perm _ _).filter Highlight.isSent).map Highlight.span).trans (.of_eq ?_)
  rw [List.filter_append, List.map_append, Token.map_span_highlights]
  refine congrArg _ ?_
  have comments : ∀ spans : List Span,
      ((spans.map fun span => (⟨.comment, span⟩ : Highlight)).filter Highlight.isSent).map
        Highlight.span = spans := by
    intro spans
    induction spans with
    | nil => rfl
    | cons span rest ih => exact congrArg _ ih
  exact comments _

/-! ## Highlights in order -/

/-- What two readers that never read the same value read, one after the other and both at once. -/
theorem perm_filterMap_or {α β : Type} {first second : α → Option β}
    (apart : ∀ value, (first value).isSome → second value = none) (values : List α) :
    (values.filterMap first ++ values.filterMap second).Perm
      (values.filterMap fun value => (first value).or (second value)) := by
  induction values with
  | nil => exact .refl _
  | cons value rest ih =>
      cases found : first value with
      | some result =>
          have nothing := apart value (by rw [found]; rfl)
          simpa [found, nothing] using ih
      | none =>
          cases found' : second value with
          | some result => simpa [found, found'] using List.perm_middle.trans (ih.cons result)
          | none => simpa [found, found'] using ih

namespace PlacedPiece

/-- The highlight of a placed piece. -/
def highlight? (placed : PlacedPiece) : Option Highlight :=
  (placed.token?.bind Token.highlight?).or (placed.comment?.map fun span => ⟨.comment, span⟩)

variable {characters : List Char} {placed : PlacedPiece} {highlight : Highlight}

theorem of_highlight? (found : placed.highlight? = some highlight) :
    highlight.span = placed.span ∧ placed.piece.shape ≠ .blank := by
  rcases Option.or_eq_some_iff.mp found with found | ⟨_, found⟩
  · obtain ⟨token, read, coloured⟩ := Option.bind_eq_some_iff.mp found
    obtain ⟨kind, _, rfl⟩ := Option.map_eq_some_iff.mp coloured
    refine ⟨span_of_token? read, fun blank => ?_⟩
    rw [token?, Piece.token?, blank] at read
    cases read
  · obtain ⟨span, read, rfl⟩ := Option.map_eq_some_iff.mp found
    obtain ⟨comment, same⟩ := of_comment? read
    refine ⟨same, fun blank => ?_⟩
    rw [blank] at comment
    cases comment

/-- The highlights of placed pieces stand in the order of the pieces. -/
theorem pairwise_highlight? (characters : List Char) :
    ((placedPieces characters).filterMap highlight?).Pairwise fun first second =>
      first.span.Before second.span := by
  rw [List.pairwise_filterMap]
  apply (ordered_placeFrom _ _).imp
  intro first second before highlight found other found'
  rwa [(of_highlight? found).1, (of_highlight? found').1]

end PlacedPiece

/-- A highlight covers characters of one line. -/
theorem covers_of_mem_highlights {characters : List Char} {highlight : Highlight}
    (member : highlight ∈ (placedPieces characters).filterMap PlacedPiece.highlight?) :
    ∃ front part, highlight.span.Covers characters front part ∧ part ≠ [] ∧ '\n' ∉ part := by
  obtain ⟨placed, member, found⟩ := List.mem_filterMap.mp member
  obtain ⟨same, coloured⟩ := PlacedPiece.of_highlight? found
  obtain ⟨front, covers⟩ := PlacedPiece.covers member
  rw [← same] at covers
  exact ⟨front, placed.piece.text, covers, (PlacedPiece.formed member).ne_nil,
    Piece.not_mem_newline_of_mem_cut (PlacedPiece.piece_mem_cut member) coloured⟩

/-- The highlights of a text are those of its pieces, in order. -/
theorem highlights_eq (characters : List Char) :
    highlights characters = (placedPieces characters).filterMap PlacedPiece.highlight? := by
  have ascends : ((placedPieces characters).filterMap PlacedPiece.highlight?).Pairwise
      fun left right => left.span.start < right.span.start := by
    refine (PlacedPiece.pairwise_highlight? characters).imp_of_mem ?_
    intro left right member _ before
    obtain ⟨front, part, covers, filled, _⟩ := covers_of_mem_highlights member
    exact lt_of_lt_of_le (covers.filled filled) before
  have apart : ∀ placed : PlacedPiece, (placed.token?.bind Token.highlight?).isSome →
      (placed.comment?.map fun span => (⟨.comment, span⟩ : Highlight)) = none := by
    intro placed coloured
    obtain ⟨highlight, found⟩ := Option.isSome_iff_exists.mp coloured
    obtain ⟨token, read, _⟩ := Option.bind_eq_some_iff.mp found
    have other : placed.piece.shape ≠ .comment := by
      intro comment
      rw [PlacedPiece.token?, Piece.token?, comment] at read
      cases read
    rw [PlacedPiece.comment?, if_neg other]
    rfl
  have same : ((Lexed.ofChars characters).tokens.filterMap Token.highlight? ++
      (Lexed.ofChars characters).comments.map fun span => (⟨.comment, span⟩ : Highlight)).Perm
        ((placedPieces characters).filterMap PlacedPiece.highlight?) := by
    refine List.Perm.trans (.of_eq ?_) (perm_filterMap_or apart (placedPieces characters))
    rw [Lexed.ofChars, List.filterMap_append, List.filterMap_filterMap, List.map_filterMap]
    exact congrArg (· ++ _) (List.append_nil _)
  refine (mergeSort_congr_perm (ascends.imp ne_of_lt) same).trans ?_
  exact List.mergeSort_of_pairwise (ascends.imp fun before => decide_eq_true (le_of_lt before))

/-- The spans of a text that are sent, in the order in which they stand. -/
def sentSpans (characters : List Char) : List Span :=
  ((highlights characters).filter Highlight.isSent).map Highlight.span

section Sent

variable {characters : List Char}

theorem covers_of_mem_sentSpans {span : Span} (member : span ∈ sentSpans characters) :
    ∃ front part, span.Covers characters front part ∧ part ≠ [] ∧ '\n' ∉ part := by
  obtain ⟨highlight, sent, rfl⟩ := List.mem_map.mp member
  exact covers_of_mem_highlights (highlights_eq characters ▸ (List.mem_filter.mp sent).1)

theorem pairwise_sentSpans : (sentSpans characters).Pairwise Span.Before := by
  rw [sentSpans, highlights_eq, List.pairwise_map]
  exact (PlacedPiece.pairwise_highlight? characters).filter _

/-- The semantic tokens stand at the spans that are sent, whatever the index knows about names. -/
theorem map_stretch_semanticTokens (characters : List Char) (index : Option Index) :
    (semanticTokens index characters).map SemanticToken.stretch =
      (sentSpans characters).map (Stretch.ofSpan characters) := by
  rw [sentSpans, List.map_map, semanticTokens, List.map_filterMap, ← List.filterMap_eq_map,
    List.filterMap_filter]
  refine List.filterMap_congr fun highlight _ => ?_
  have length : (slice characters ((LineIndex.ofChars characters).range highlight.span)).length =
      (LineIndex.ofChars characters).offset highlight.span.stop -
        (LineIndex.ofChars characters).offset highlight.span.start := by
    have inside := LineIndex.offset_le characters highlight.span.stop
    have inside' := LineIndex.offset_le characters highlight.span.start
    rw [slice, LineIndex.range, List.length_take, List.length_drop]
    omega
  obtain ⟨kind, span⟩ := highlight
  cases kind with
  | punctuation => rfl
  | _ => exact congrArg some (congrArg (Stretch.mk _ _) length.symm)

/-- Spans in order are stretches in order. -/
theorem Stretch.before_ofSpan {left right : Span} (member : left ∈ sentSpans characters)
    (before : left.Before right) :
    (ofSpan characters left).Before (ofSpan characters right) := by
  obtain ⟨front, part, covers, _, plain⟩ := covers_of_mem_sentSpans member
  have length := congrArg List.length covers.slice
  obtain ⟨⟨behind, rfl⟩, rfl⟩ := covers
  have names := LineIndex.names_afterAll front (part ++ behind)
  have line := names.line_pos
  have column := names.column_pos
  have place := Position.le_iff.mp before
  rw [Position.afterAll_append, Position.afterAll_of_not_mem plain] at place
  simp only [Position.right] at place
  simp only [Stretch.Before, ofSpan, length]
  omega

/-- A stretch lies on one line of the text. -/
theorem Stretch.exists_line {span : Span} (member : span ∈ sentSpans characters) :
    ∃ content, (linesOf characters)[(ofSpan characters span).line]? = some content ∧
      (ofSpan characters span).character + (ofSpan characters span).length ≤ content.length := by
  obtain ⟨front, part, covers, _, plain⟩ := covers_of_mem_sentSpans member
  have length := congrArg List.length covers.slice
  obtain ⟨⟨behind, rfl⟩, rfl⟩ := covers
  obtain ⟨before, after, found, column⟩ := Text.exists_line plain front behind
  refine ⟨before ++ part ++ after, found, ?_⟩
  simp only [ofSpan, length, ← column, List.length_append]
  omega

theorem Stretch.length_pos {span : Span} (member : span ∈ sentSpans characters) :
    0 < (ofSpan characters span).length := by
  obtain ⟨front, part, covers, filled, _⟩ := covers_of_mem_sentSpans member
  rw [ofSpan, covers.slice]
  exact List.length_pos_iff.mpr filled

/-- The numbers of a stretch are no greater than those of its text. -/
theorem Stretch.le_limit {span : Span} (member : span ∈ sentSpans characters)
    (small : characters.length < positionLimit) :
    (ofSpan characters span).line ≤ positionLimit ∧
      (ofSpan characters span).character ≤ positionLimit ∧
      (ofSpan characters span).length ≤ positionLimit := by
  obtain ⟨front, part, covers, _, _⟩ := covers_of_mem_sentSpans member
  have length := congrArg List.length covers.slice
  obtain ⟨⟨behind, rfl⟩, rfl⟩ := covers
  have place := LineIndex.position_le_limit _ small front.length
  rw [List.append_assoc, LineIndex.position_length] at place
  simp only [List.length_append] at small
  simp only [ofSpan, length]
  omega

end Sent

/-! ## What is sent -/

theorem SemanticClass.le_limit (semantic : SemanticClass) :
    semantic.type.place ≤ positionLimit ∧ semantic.modifiers ≤ positionLimit := by
  have places : ∀ named : SemanticType, named.place ≤ positionLimit := by
    intro named
    cases named <;> decide
  refine ⟨places semantic.type, ?_⟩
  rw [SemanticClass.modifiers, positionLimit]
  split <;> split <;> omega

/-- The semantic tokens of a text tell where its words and comments stand. -/
structure SemanticToken.Describes (tokens : List SemanticToken) (characters : List Char) : Prop where
  /-- Adding up the distances yields every coloured span once, in order: its place and the number
  of its characters. -/
  decoded : ∃ spans : List Span, spans.Perm (Lexed.ofChars characters).coloured ∧
    spans.Pairwise Span.Before ∧
    RelativeToken.stretches (relative tokens) = spans.map (Stretch.ofSpan characters)
  filled : ∀ stretch ∈ RelativeToken.stretches (relative tokens), 0 < stretch.length
  /-- No token reaches beyond its line. -/
  onLine : ∀ stretch ∈ RelativeToken.stretches (relative tokens),
    ∃ content, (linesOf characters)[stretch.line]? = some content ∧
      stretch.character + stretch.length ≤ content.length
  /-- No token reaches into a later one. -/
  apart : (RelativeToken.stretches (relative tokens)).Pairwise Stretch.Before
  /-- From the beginning of the text on, each token stands no earlier than the one before, so
  distances are never negative. -/
  ascends : ((0, 0) :: tokens.map (·.stretch.place)).IsChain EditorLe
  /-- With any other index, or with none, the same places and lengths are sent. -/
  anyIndex : ∀ index, (relative tokens).map RelativeToken.distances =
    (relative (semanticTokens index characters)).map RelativeToken.distances
  /-- In a text that is not too long, all numbers that are sent have at most 32 bits. -/
  bounded : characters.length < positionLimit →
    ∀ token ∈ relative tokens, ∀ number ∈ token.numbers, number ≤ positionLimit

section Describes

variable (characters : List Char) (index : Option Index)

theorem ascends_semanticTokens :
    ((0, 0) :: (semanticTokens index characters).map (·.stretch.place)).IsChain EditorLe := by
  have places : (semanticTokens index characters).map (·.stretch.place) =
      (sentSpans characters).map fun span => (Stretch.ofSpan characters span).place := by
    have mapped := congrArg (List.map Stretch.place) (map_stretch_semanticTokens characters index)
    rwa [List.map_map, List.map_map] at mapped
  rw [places]
  apply List.Pairwise.isChain
  refine .cons ?_ ?_
  · rintro ⟨line, character⟩ _
    simp only [EditorLe]
    omega
  · rw [List.pairwise_map]
    exact pairwise_sentSpans.imp_of_mem fun member _ before =>
      (Stretch.before_ofSpan member before).place_le

theorem stretches_semanticTokens :
    RelativeToken.stretches (SemanticToken.relative (semanticTokens index characters)) =
      (sentSpans characters).map (Stretch.ofSpan characters) :=
  (stretchesFrom_relativeFrom (ascends_semanticTokens characters index)).trans
    (map_stretch_semanticTokens characters index)

theorem numbers_le_limit (small : characters.length < positionLimit) :
    ∀ token ∈ SemanticToken.relative (semanticTokens index characters),
      ∀ number ∈ token.numbers, number ≤ positionLimit := by
  intro sent member number numbered
  obtain ⟨token, inside, lines, columns, length⟩ := exists_of_mem_relativeFrom member
  have stretch := List.mem_map_of_mem inside (f := SemanticToken.stretch)
  rw [map_stretch_semanticTokens] at stretch
  obtain ⟨span, spanned, same⟩ := List.mem_map.mp stretch
  have bounds := Stretch.le_limit spanned small
  rw [same] at bounds
  obtain ⟨line, character, extent⟩ := bounds
  obtain ⟨type, modifiers⟩ := sent.semantic.le_limit
  simp only [RelativeToken.numbers, List.mem_cons, List.not_mem_nil, or_false] at numbered
  simp only [SemanticToken.stretch] at line character extent
  omega

end Describes

/-- With or without an index, the semantic tokens that are sent for a text describe it. -/
theorem semanticTokens_describe (source : String) (index : Option Index) :
    SemanticToken.Describes (semanticTokens index source.toList) source.toList where
  decoded := ⟨sentSpans source.toList, perm_coloured source.toList, pairwise_sentSpans,
    stretches_semanticTokens source.toList index⟩
  filled := by
    rw [stretches_semanticTokens, List.forall_mem_map]
    exact fun span member => Stretch.length_pos member
  onLine := by
    rw [stretches_semanticTokens, List.forall_mem_map]
    exact fun span member => Stretch.exists_line member
  apart := by
    rw [stretches_semanticTokens, List.pairwise_map]
    exact pairwise_sentSpans.imp_of_mem fun member _ before => Stretch.before_ofSpan member before
  ascends := ascends_semanticTokens source.toList index
  anyIndex other := map_distances_relativeFrom
    ((map_stretch_semanticTokens source.toList index).trans
      (map_stretch_semanticTokens source.toList other).symm)
  bounded := numbers_le_limit source.toList index

end RapidLang
