import RapidLang.Proofs.Parser.Arrangement.Statement
import RapidLang.Proofs.Parser.Nesting.Source
import RapidLang.Proofs.Token.Words

/-!
# The parts of programs stand apart

Routines run from a reserved word to a reserved word, and so do loops with a counter. Two reserved
words of a text do not even touch.
-/

set_option autoImplicit false

namespace RapidLang

open Text

/-- The names in the initial value of data stand apart; a routine is bracketed, and its statements are
placed, at every depth. -/
inductive Decl.Placed (tokens : List Token) : Decl → Prop where
  | data {item : DataItem} {span : Span} :
      Spread span.start span.stop (item.initial.toList.flatMap Expr.marks) →
      Decl.Placed tokens (.data item span)
  | proc {name : Name} {parameters : List Parameter} {body : List Stmt} {span : Span} :
      span.Bracketed tokens → (∀ statement ∈ Stmt.all body, statement.Placed tokens) →
      Decl.Placed tokens (.proc name parameters body span)
  | func {type name : Name} {parameters : List Parameter} {body : List Stmt} {span : Span} :
      span.Bracketed tokens → (∀ statement ∈ Stmt.all body, statement.Placed tokens) →
      Decl.Placed tokens (.func type name parameters body span)
  | trap {name : Name} {body : List Stmt} {span : Span} :
      span.Bracketed tokens → (∀ statement ∈ Stmt.all body, statement.Placed tokens) →
      Decl.Placed tokens (.trap name body span)
  | record {name : Name} {components : List Component} {span : Span} :
      Decl.Placed tokens (.record name components span)

theorem Decl.Placed.mono {tokens others : List Token} {declaration : Decl}
    (placed : declaration.Placed tokens) (part : tokens ⊆ others) : declaration.Placed others := by
  cases placed with
  | data spread => exact .data spread
  | proc bracketed every =>
      exact .proc (bracketed.mono part) fun value member => (every value member).mono part
  | func bracketed every =>
      exact .func (bracketed.mono part) fun value member => (every value member).mono part
  | trap bracketed every =>
      exact .trap (bracketed.mono part) fun value member => (every value member).mono part
  | record => exact .record

namespace Parser

open Reader

variable {named : Name → Prop} {cursor : Cursor}

/-! ## Declarations -/

theorem statements_placed {closes : TokenKind → Bool} :
    (body statement closes).Reads named cursor
      fun values _ => ∀ part ∈ Stmt.all values, part.Placed cursor.rest :=
  body_every (fun reaches placed => placed.mono reaches.1.subset)
    fun _ inner _ => statementWith_placed inner

/-- A routine is placed if it begins with a reserved word, and ends with one behind its statements. -/
theorem routine_placed {start : Cursor} {last : TokenKind} (build : List Stmt → Span → Decl)
    (builds : ∀ {statements span}, span.Bracketed start.rest →
      (∀ statement ∈ Stmt.all statements, statement.Placed start.rest) →
      (build statements span).Placed start.rest)
    (opening : start.kind.isReserved) (closing : last.isReserved) (reaches : start.Reaches cursor)
    (behind : start.here ≤ cursor.here) (edge : start.edge ≤ cursor.here) :
    (body statement (· == last) >>= fun statements => expect last >>= fun close =>
        pure (build statements (start.current.span.merge close.span))).Reads named cursor
      fun value _ => value.Placed start.rest := by
  apply Reads.bind statements_placed.passing
  rintro statements here passed _ ⟨every, reaches'⟩
  apply Reads.expect_bind_of
  intro found
  apply Reads.expect_bind (by rintro rfl; cases closing)
  intro opens closes
  apply Reads.pure
  rw [Cursor.merge_current (by order) (by order)]
  apply builds
  · exact Cursor.bracketed (reaches.trans reaches') opening (by rwa [found])
  · exact fun value member => (every value member).mono reaches.1.subset

theorem procDeclaration_placed (word : cursor.kind = .proc) :
    procDeclaration.Reads named cursor fun value _ => value.Placed cursor.rest := by
  unfold procDeclaration
  apply Reads.take_bind
  intro opens closes
  apply Reads.expectName_bind
  intro opens₁ closes₁ _
  apply Reads.bind parameters_reads.passing
  rintro parameters here passed _ ⟨_, reaches⟩
  exact routine_placed (Decl.proc _ parameters) .proc (by rw [word]; rfl) rfl
    (.trans (.advance _) (.trans (.advance _) reaches)) (by order) (by order)

theorem funcDeclaration_placed (word : cursor.kind = .func) :
    funcDeclaration.Reads named cursor fun value _ => value.Placed cursor.rest := by
  unfold funcDeclaration
  apply Reads.take_bind
  intro opens closes
  apply Reads.expectName_bind
  intro opens₁ closes₁ _
  apply Reads.expectName_bind
  intro opens₂ closes₂ _
  apply Reads.bind parameters_reads.passing
  rintro parameters here passed _ ⟨_, reaches⟩
  exact routine_placed (Decl.func _ _ parameters) .func (by rw [word]; rfl) rfl
    (.trans (.advance _) (.trans (.advance _) (.trans (.advance _) reaches))) (by order) (by order)

theorem trapDeclaration_placed (word : cursor.kind = .trap) :
    trapDeclaration.Reads named cursor fun value _ => value.Placed cursor.rest := by
  unfold trapDeclaration
  apply Reads.take_bind
  intro opens closes
  apply Reads.expectName_bind
  intro opens₁ closes₁ _
  exact routine_placed (Decl.trap _) .trap (by rw [word]; rfl) rfl
    (.trans (.advance _) (.advance _)) (by order) (by order)

theorem recordDeclaration_placed :
    recordDeclaration.Reads named cursor fun value _ => value.Placed cursor.rest := by
  unfold recordDeclaration
  iterate 3
    apply Reads.bind_behind
    intro _ _ _
  split
  · iterate 3
      apply Reads.bind_behind
      intro _ _ _
    exact .pure .record
  · iterate 2
      apply Reads.bind_behind
      intro _ _ _
    exact .pure .record

theorem declaration_placed :
    declaration.Reads named cursor fun value _ => value.Placed cursor.rest := by
  unfold declaration
  apply Reads.peekKind_bind
  have data : (dataItem >>= fun result => pure (Decl.data result.1 result.2)).Reads named cursor
      fun value _ => value.Placed cursor.rest := by
    apply Reads.bind dataItem_spreads
    rintro result _ _ _ ⟨upper, inside, spread⟩
    exact .pure (.data (spread.widen (le_refl _) (le_of_lt inside)))
  split
  iterate 3 exact data
  next word => exact procDeclaration_placed word
  next word => exact funcDeclaration_placed word
  · exact recordDeclaration_placed
  next word => exact trapDeclaration_placed word
  · exact .fail

/-! ## Modules and programs -/

theorem module_placed : «module».Reads named cursor
    fun content _ => ∀ declaration ∈ content.declarations, declaration.Placed cursor.rest := by
  unfold «module»
  apply Reads.bind_behind
  intro _ here₁ reaches₁
  apply Reads.bind_behind
  intro _ here₂ reaches₂
  apply Reads.bind
  · apply Reads.repeatWhile_each fun here (declaration : Decl) => declaration.Placed here.rest
    · exact fun reaches placed => placed.mono reaches.1.subset
    · exact fun _ => declaration_placed
  intro declarations _ _ _ placed
  apply Reads.bind_behind
  intro _ _ _
  apply Reads.pure
  have reaches := reaches₁.trans reaches₂
  exact fun declaration member => (placed declaration member).mono reaches.1.subset

theorem program_placed : program.Reads named cursor fun value _ =>
    ∀ content ∈ value.modules, ∀ declaration ∈ content.declarations,
      declaration.Placed cursor.rest := by
  unfold program
  apply Reads.peek_bind
  apply Reads.bind
  · apply Reads.repeatWhile_each fun here (content : Module) =>
      ∀ declaration ∈ content.declarations, declaration.Placed here.rest
    · intro _ _ _ reaches placed declaration member
      exact (placed declaration member).mono reaches.1.subset
    · exact fun _ => module_placed
  intro modules _ _ _ placed
  exact .pure placed

/-! ## Words of a text -/

/-- Words that are placed with other pieces do not touch. -/
theorem parted_placeFrom {position : Position} {pieces : List Piece}
    (filled : ∀ piece ∈ pieces, piece.text ≠ [])
    (chain : pieces.IsChain fun first second => first.shape = .word → second.shape ≠ .word) :
    (PlacedPiece.placeFrom position pieces).Pairwise fun first second =>
      first.piece.shape = .word → second.piece.shape = .word →
        first.span.stop < second.span.start := by
  induction pieces generalizing position with
  | nil => exact .nil
  | cons piece pieces ih =>
      rw [List.forall_mem_cons] at filled
      refine .cons ?_ (ih filled.2 chain.tail)
      intro second member word word'
      cases pieces with
      | nil => cases member
      | cons between rest =>
          -- The next piece is no word, so the second word stands behind it.
          have between_filled := filled.2 between List.mem_cons_self
          rcases List.mem_cons.mp member with rfl | member
          · exact absurd word' ((List.isChain_cons_cons.mp chain).1 word)
          · exact lt_of_lt_of_le (Position.lt_afterAll between_filled)
              (PlacedPiece.within_of_mem_placeFrom member).1

/-- Two words of a text stand at the same place, or there is something between them. -/
theorem parted_of_words {characters : List Char} {first second : PlacedPiece}
    (member : first ∈ placedPieces characters) (member' : second ∈ placedPieces characters)
    (word : first.piece.shape = .word) (word' : second.piece.shape = .word) :
    first.span = second.span ∨ first.span.Parted second.span := by
  let words := (placedPieces characters).filter fun placed => placed.piece.shape == .word
  have filled : ∀ piece ∈ Piece.cut characters, piece.text ≠ [] :=
    fun _ member => (Piece.formed_of_mem_cut member).ne_nil
  have parted : (words.map PlacedPiece.span).Pairwise Span.Parted := by
    rw [List.pairwise_map, List.pairwise_filter]
    apply (parted_placeFrom filled (Piece.isChain_cut characters)).imp
    intro first second before word word'
    exact .inl (before (beq_iff_eq.mp word) (beq_iff_eq.mp word'))
  have listed : first ∈ words := List.mem_filter.mpr ⟨member, beq_iff_eq.mpr word⟩
  have listed' : second ∈ words := List.mem_filter.mpr ⟨member', beq_iff_eq.mpr word'⟩
  exact or_iff_not_imp_left.mpr
    (parted.forall (List.mem_map_of_mem listed) (List.mem_map_of_mem listed'))

theorem apart_of_reserved {characters : List Char} {first second : Token}
    (member : first ∈ (Cursor.ofTokens (Lexed.ofChars characters).tokens).rest)
    (member' : second ∈ (Cursor.ofTokens (Lexed.ofChars characters).tokens).rest)
    (reserved : first.kind.isReserved) (reserved' : second.kind.isReserved) :
    first.span.stop ≠ second.span.start := by
  rw [(ofTokens_ofChars characters).1] at member member'
  obtain ⟨piece, inside, found⟩ := List.mem_filterMap.mp member
  obtain ⟨piece', inside', found'⟩ := List.mem_filterMap.mp member'
  have word := (word_of_token? found (.inr reserved) (PlacedPiece.formed inside)).1
  have word' := (word_of_token? found' (.inr reserved') (PlacedPiece.formed inside')).1
  have filled : piece.span.start < piece.span.stop := PlacedPiece.span_filled inside
  have filled' : piece'.span.start < piece'.span.stop := PlacedPiece.span_filled inside'
  rw [PlacedPiece.span_of_token? found, PlacedPiece.span_of_token? found']
  intro touch
  rcases parted_of_words inside inside' word word' with same | before | before
  · rw [same] at touch
    order
  · order
  · order

/-- The parts of a program that is read from a text are placed among the tokens of the text. -/
theorem placed_of_ok {characters : List Char} {program : Program}
    (accepted : Program.ofTokens (Lexed.ofChars characters).tokens = .ok program) :
    ∀ content ∈ program.modules, ∀ declaration ∈ content.declarations,
      declaration.Placed (Cursor.ofTokens (Lexed.ofChars characters).tokens).rest := by
  obtain ⟨_, outcome⟩ := Reader.run_of_read accepted
  exact program_placed.ends (laid_tokens characters) _ _ outcome

end Parser

end RapidLang
