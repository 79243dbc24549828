import RapidLang.Proofs.Parser.Arrangement.Headings
import RapidLang.Proofs.Parser.Places.Expression

/-!
# The spans of statements

The span of a statement is merged from the spans of its first and its last token. So it fits what
the spans of all tokens fit and merging keeps, and so do the spans of the expressions in it, at
every depth.
-/

set_option autoImplicit false

namespace RapidLang

open Text

/-- The spans of the statement and of the expressions that stand directly in it fit. -/
structure Stmt.Fits (fits : Span → Prop) (statement : Stmt) : Prop where
  span : fits statement.span
  expressions : ∀ expression ∈ statement.expressions, fits expression.span

namespace Parser

open Reader

variable {fits : Span → Prop} {cursor : Cursor} {statement : Reader Stmt}

section Statements

variable (merging : Span.Merging fits) (fit : cursor.Fits fits)

include merging fit

/-! ## Conditionals and loops -/

theorem branch_fits : (branch statement).Reads (Name.Fits fits) cursor
    fun value _ => fits value.condition.span := by
  unfold branch
  apply Reads.take_bind
  intro _ _
  apply Reads.bind (expression_fits merging _ fit.advance)
  intro condition here _ _ holds
  iterate 2
    apply Reads.bind_behind
    intro _ _ _
  exact .pure holds

theorem conditional_fits : (conditional statement).Reads (Name.Fits fits) cursor
    fun value _ => value.Fits fits := by
  unfold conditional
  apply Reads.peek_bind
  apply Reads.bind_fits fit (branch_fits merging fit)
  intro first here₁ fit₁ holds
  apply Reads.bind_fits fit₁ (.repeatWhile_fits fit₁ fun _ fit => branch_fits merging fit)
  intro others here₂ fit₂ holds'
  apply Reads.bind_behind
  intro otherwise here₃ reaches
  apply Reads.expect_bind (by decide)
  intro _ _
  apply Reads.pure
  refine ⟨merging fit.current (fit₂.of_reaches reaches).current, ?_⟩
  exact List.forall_mem_map.mpr (List.forall_mem_cons.mpr ⟨holds, holds'⟩)

theorem whileLoop_fits : (whileLoop statement).Reads (Name.Fits fits) cursor
    fun value _ => value.Fits fits := by
  unfold whileLoop
  apply Reads.take_bind
  intro _ _
  apply Reads.bind_fits fit.advance (expression_fits merging _ fit.advance)
  intro condition here₁ fit₁ holds
  apply Reads.bind_behind
  intro statements here₂ reaches
  apply Reads.expect_bind (by decide)
  intro _ _
  apply Reads.pure
  exact ⟨merging fit.current (fit₁.of_reaches reaches).current, List.forall_mem_singleton.mpr holds⟩

theorem forLoop_fits : (forLoop statement).Reads (Name.Fits fits) cursor
    fun value _ => value.Fits fits := by
  unfold forLoop
  apply Reads.take_bind
  intro _ _
  apply Reads.bind_behind
  intro counter here₁ reaches₁
  apply Reads.bind_behind
  intro _ here₂ reaches₂
  have fit₂ := fit.advance.of_reaches (reaches₁.trans reaches₂)
  apply Reads.bind_fits fit₂ (expression_fits merging _ fit₂)
  intro first here₃ fit₃ holds₃
  apply Reads.bind_behind
  intro _ here₄ reaches₄
  have fit₄ := fit₃.of_reaches reaches₄
  apply Reads.bind_fits fit₄ (expression_fits merging _ fit₄)
  intro last here₅ fit₅ holds₅
  apply Reads.bind_behind
  intro statements here₆ reaches₆
  apply Reads.expect_bind (by decide)
  intro _ _
  apply Reads.pure
  refine ⟨merging fit.current (fit₅.of_reaches reaches₆).current, ?_⟩
  exact List.forall_mem_cons.mpr ⟨holds₃, List.forall_mem_singleton.mpr holds₅⟩

/-! ## Selections -/

theorem testPart_fits : (testPart statement).Reads (Name.Fits fits) cursor
    fun part _ => ∀ arm ∈ armsOf [part], ∀ value ∈ arm.values, fits value.span := by
  unfold testPart
  apply Reads.take_bind
  intro _ _
  split
  · apply Reads.bind (.commaSeparated_fits fit.advance (expression_fits merging))
    intro values here _ _ holds
    iterate 2
      apply Reads.bind_behind
      intro _ _ _
    exact .pure (List.forall_mem_singleton.mpr holds)
  · iterate 2
      apply Reads.bind_behind
      intro _ _ _
    exact .pure fun _ member => absurd member List.not_mem_nil

theorem testStatement_fits : (testStatement statement).Reads (Name.Fits fits) cursor
    fun value _ => value.Fits fits := by
  unfold testStatement
  apply Reads.take_bind
  intro _ _
  apply Reads.bind_fits fit.advance (expression_fits merging _ fit.advance)
  intro subject here₁ fit₁ holds
  apply Reads.bind_fits fit₁ (.repeatWhile_fits fit₁ fun _ fit => testPart_fits merging fit)
  intro parts here₂ fit₂ holds'
  apply Reads.expect_bind (by decide)
  intro _ _
  apply Reads.pure
  refine ⟨merging fit.current fit₂.current, List.forall_mem_cons.mpr ⟨holds, ?_⟩⟩
  intro value member
  obtain ⟨arm, chosen, member⟩ := List.mem_flatMap.mp member
  obtain ⟨part, inside, same⟩ := List.mem_filterMap.mp chosen
  exact holds' part inside arm (List.mem_filterMap.mpr ⟨part, List.mem_singleton_self _, same⟩) value
    member

/-! ## Statements without bodies -/

theorem returnStatement_fits : returnStatement.Reads (Name.Fits fits) cursor
    fun value _ => value.Fits fits := by
  have returned : returnValue.Reads (Name.Fits fits) cursor.advance
      fun found _ => ∀ value ∈ found.toList, fits value.span := by
    unfold returnValue
    apply Reads.peekKind_bind
    split
    iterate 3 exact .pure fun _ member => absurd member List.not_mem_nil
    apply Reads.bind (expression_fits merging _ fit.advance)
    intro value _ _ _ holds
    exact .pure (List.forall_mem_singleton.mpr holds)
  unfold returnStatement
  apply Reads.take_bind
  intro _ _
  apply Reads.bind_fits fit.advance returned
  intro value here fit₁ holds
  apply Reads.expect_bind (by decide)
  intro _ _
  exact .pure ⟨merging fit.current fit₁.current, holds⟩

theorem moveStatement_fits : moveStatement.Reads (Name.Fits fits) cursor
    fun value _ => value.Fits fits := by
  have option : ∀ here : Cursor, here.Fits fits → optionalArgument.Reads (Name.Fits fits) here
      fun option _ => ∀ value ∈ option.2, fits value.span := by
    intro here fit
    unfold optionalArgument
    apply Reads.take_bind
    intro _ _
    apply Reads.bind_behind
    intro name behind reaches
    have fit' := fit.advance.of_reaches reaches
    apply Reads.bind (.optionalAfter_fits fit' (expression_fits merging))
    intro value _ _ _ holds
    exact .pure holds
  unfold moveStatement
  apply Reads.take_bind
  intro _ _
  apply Reads.bind_fits fit.advance (expression_fits merging _ fit.advance)
  intro target here₁ fit₁ holds₁
  apply Reads.expect_bind (by decide)
  intro _ _
  apply Reads.bind_fits fit₁.advance (expression_fits merging _ fit₁.advance)
  intro speed here₂ fit₂ holds₂
  apply Reads.expect_bind (by decide)
  intro _ _
  apply Reads.bind_fits fit₂.advance (expression_fits merging _ fit₂.advance)
  intro zone here₃ fit₃ holds₃
  apply Reads.expect_bind (by decide)
  intro _ _
  apply Reads.bind_fits fit₃.advance (expression_fits merging _ fit₃.advance)
  intro tool here₄ fit₄ holds₄
  apply Reads.bind_fits fit₄ (.repeatWhile_fits fit₄ option)
  intro options here₅ fit₅ holds₅
  apply Reads.expect_bind (by decide)
  intro _ _
  apply Reads.pure
  refine ⟨merging fit.current fit₅.current, List.forall_mem_append.mpr ⟨?_, ?_⟩⟩
  · simp [holds₁, holds₂, holds₃, holds₄]
  · intro value member
    obtain ⟨option, inside, found⟩ := workObjectOf_mem (Option.mem_toList.mp member)
    exact holds₅ option inside value found

theorem connectStatement_fits : connectStatement.Reads (Name.Fits fits) cursor
    fun value _ => value.Fits fits := by
  unfold connectStatement
  apply Reads.take_bind
  intro _ _
  apply Reads.bind_behind
  intro trap here₁ reaches₁
  apply Reads.bind_behind
  intro _ here₂ reaches₂
  apply Reads.bind_behind
  intro error here₃ reaches₃
  have fit₃ := fit.advance.of_reaches (reaches₁.trans (reaches₂.trans reaches₃))
  apply Reads.expect_bind (by decide)
  intro _ _
  exact .pure ⟨merging fit.current fit₃.current, fun _ member => absurd member List.not_mem_nil⟩

theorem raiseStatement_fits : raiseStatement.Reads (Name.Fits fits) cursor
    fun value _ => value.Fits fits := by
  unfold raiseStatement
  apply Reads.take_bind
  intro _ _
  apply Reads.bind_behind
  intro error here reaches
  have fit₁ := fit.advance.of_reaches reaches
  apply Reads.expect_bind (by decide)
  intro _ _
  exact .pure ⟨merging fit.current fit₁.current, fun _ member => absurd member List.not_mem_nil⟩

theorem dataItem_fits : dataItem.Reads (Name.Fits fits) cursor
    fun result _ => fits result.2 ∧ ∀ value ∈ result.1.initial, fits value.span := by
  unfold dataItem
  apply Reads.take_bind
  intro _ _
  apply Reads.bind_behind
  intro type here₁ reaches₁
  apply Reads.bind_behind
  intro name here₂ reaches₂
  have fit₂ := fit.advance.of_reaches (reaches₁.trans reaches₂)
  apply Reads.bind_fits fit₂ (.optionalAfter_fits fit₂ (expression_fits merging))
  intro initial here₃ fit₃ holds
  apply Reads.expect_bind (by decide)
  intro _ _
  exact .pure ⟨merging fit.current fit₃.current, holds⟩

/-! ## Statements that begin with an expression -/

theorem bareCall_fits {value : Expr} (first : fits value.span) :
    (bareCall value).Reads (Name.Fits fits) cursor fun call _ => fits call.span := by
  unfold bareCall
  split
  next name =>
    apply Reads.peekKind_bind
    split
    · apply Reads.bind (.commaSeparated_fits fit (expression_fits merging))
      intro values here _ _ holds
      apply Reads.pure
      have folded : ∀ span : Span, fits span →
          fits (values.foldl (fun span argument => span.merge argument.span) span) := by
        intro span start
        exact List.foldlRecOn values _ start fun _ kept value member =>
          merging kept (holds value member)
      exact folded name.span first
    · exact .pure first
  next => exact .pure first

theorem simpleStatement_fits : simpleStatement.Reads (Name.Fits fits) cursor
    fun value _ => value.Fits fits := by
  unfold simpleStatement
  apply Reads.peek_bind
  apply Reads.bind_fits fit (expression_fits merging _ fit)
  intro value here₁ fit₁ holds
  apply Reads.accept_bind
  · intro _ _
    apply Reads.bind_fits fit₁.advance (expression_fits merging _ fit₁.advance)
    intro source here₂ fit₂ holds'
    apply Reads.expect_bind (by decide)
    intro _ _
    apply Reads.pure
    refine ⟨merging fit.current fit₂.current, ?_⟩
    exact List.forall_mem_cons.mpr ⟨holds, List.forall_mem_singleton.mpr holds'⟩
  · apply Reads.bind_fits fit₁ (bareCall_fits merging fit₁ holds)
    intro call here₂ fit₂ holds'
    apply Reads.expect_bind (by decide)
    intro _ _
    exact .pure ⟨merging fit.current fit₂.current, List.forall_mem_singleton.mpr holds'⟩

/-! ## Statements at every depth -/

theorem statementWith_fits : (statementWith statement).Reads (Name.Fits fits) cursor
    fun value _ => value.Fits fits := by
  unfold statementWith
  apply Reads.peekKind_bind
  have data : (dataItem >>= fun result => pure (Stmt.data result.1 result.2)).Reads
      (Name.Fits fits) cursor fun value _ => value.Fits fits := by
    apply Reads.bind (dataItem_fits merging fit)
    rintro result _ - - ⟨span, initial⟩
    exact .pure ⟨span, fun value member => initial value (Option.mem_toList.mp member)⟩
  split
  · exact conditional_fits merging fit
  · exact whileLoop_fits merging fit
  · exact forLoop_fits merging fit
  · exact returnStatement_fits merging fit
  iterate 3 exact moveStatement_fits merging fit
  · exact testStatement_fits merging fit
  · exact connectStatement_fits merging fit
  · exact raiseStatement_fits merging fit
  iterate 3 exact data
  · exact simpleStatement_fits merging fit

theorem statements_fit {closes : TokenKind → Bool} :
    (body Parser.statement closes).Reads (Name.Fits fits) cursor
      fun values _ => ∀ part ∈ Stmt.all values, part.Fits fits := by
  have every : (body Parser.statement closes).Reads (Name.Fits fits) cursor
      fun values _ => ∀ part ∈ Stmt.all values, cursor.Fits fits → part.Fits fits := by
    apply body_every
    · exact fun reaches holds fit => holds (fit.of_reaches reaches)
    · exact fun reader _ here => ⟨fun laid value behind outcome fit =>
        (statementWith_fits merging fit).ends laid value behind outcome⟩
  exact every.mono fun _ _ _ holds part member => holds part member fit

/-! ## Programs -/

theorem declaration_fits : declaration.Reads (Name.Fits fits) cursor
    fun value _ => ∀ part ∈ Stmt.all value.body, part.Fits fits := by
  have nothing : ∀ part ∈ Stmt.all [], part.Fits fits := by
    rw [Stmt.all_nil]
    exact fun _ member => absurd member List.not_mem_nil
  -- A routine ends with its body and one more word.
  have routine : ∀ {last : TokenKind} {here : Cursor} (build : List Stmt → Span → Decl),
      (∀ statements span, (build statements span).body = statements) → cursor.Reaches here →
      (body Parser.statement (· == last) >>= fun statements => expect last >>= fun close =>
        pure (build statements (cursor.current.span.merge close.span))).Reads (Name.Fits fits) here
          fun value _ => ∀ part ∈ Stmt.all value.body, part.Fits fits := by
    intro last here build same reaches
    apply Reads.bind (statements_fit merging (fit.of_reaches reaches))
    intro statements _ _ _ holds
    apply Reads.bind_behind
    intro close _ _
    apply Reads.pure
    rwa [same]
  unfold declaration
  apply Reads.peekKind_bind
  split
  iterate 3
    apply Reads.bind_behind
    intro _ _ _
    exact .pure nothing
  · unfold procDeclaration
    apply Reads.take_bind
    intro _ _
    apply Reads.bind_behind
    intro name here₁ reaches₁
    apply Reads.bind_behind
    intro parameters here₂ reaches₂
    exact routine (Decl.proc name parameters) (fun _ _ => rfl)
      (.trans (.advance _) (reaches₁.trans reaches₂))
  · unfold funcDeclaration
    apply Reads.take_bind
    intro _ _
    apply Reads.bind_behind
    intro type here₁ reaches₁
    apply Reads.bind_behind
    intro name here₂ reaches₂
    apply Reads.bind_behind
    intro parameters here₃ reaches₃
    exact routine (Decl.func type name parameters) (fun _ _ => rfl)
      (.trans (.advance _) (reaches₁.trans (reaches₂.trans reaches₃)))
  · unfold recordDeclaration
    iterate 3
      apply Reads.bind_behind
      intro _ _ _
    split
    · iterate 3
        apply Reads.bind_behind
        intro _ _ _
      exact .pure nothing
    · iterate 2
        apply Reads.bind_behind
        intro _ _ _
      exact .pure nothing
  · unfold trapDeclaration
    apply Reads.take_bind
    intro _ _
    apply Reads.bind_behind
    intro name here₁ reaches₁
    exact routine (Decl.trap name) (fun _ _ => rfl) (.trans (.advance _) reaches₁)
  · exact .fail

theorem module_fits : «module».Reads (Name.Fits fits) cursor
    fun content _ => ∀ declaration ∈ content.declarations,
      ∀ part ∈ Stmt.all declaration.body, part.Fits fits := by
  unfold «module»
  apply Reads.bind_behind
  intro _ here₁ reaches₁
  apply Reads.bind_behind
  intro _ here₂ reaches₂
  have fit₂ := fit.of_reaches (reaches₁.trans reaches₂)
  apply Reads.bind (.repeatWhile_fits fit₂ fun _ fit => declaration_fits merging fit)
  intro declarations _ _ _ holds
  apply Reads.bind_behind
  intro _ _ _
  exact .pure holds

/-- The spans of all statements in a program, and those of the expressions in them, fit what the
spans of the tokens and names fit. -/
theorem program_fits : program.Reads (Name.Fits fits) cursor
    fun value _ => ∀ content ∈ value.modules, ∀ declaration ∈ content.declarations,
      ∀ part ∈ Stmt.all declaration.body, part.Fits fits := by
  unfold program
  apply Reads.peek_bind
  apply Reads.bind (.repeatWhile_fits fit fun _ fit => module_fits merging fit)
  intro modules _ _ _ holds
  exact .pure holds

end Statements

end Parser

end RapidLang
