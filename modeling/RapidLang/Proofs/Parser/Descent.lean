import RapidLang.Proofs.Parser.Nesting.Program
import RapidLang.Proofs.Syntax.Bodies

/-!
# Statements inside statements

Every statement in a body was itself read by the reader of statements, at a later place. What holds
of each statement that is read, whatever reads the statements of its bodies, therefore holds at every
depth.
-/

set_option autoImplicit false

namespace RapidLang.Parser

open Reader

variable {β : Type} {named : Name → Prop} {cursor here : Cursor} {reader statement : Reader Stmt}
  {value : Stmt}

/-- The reader ends with this statement at the cursor or at a later one. -/
def Reader.Yields (reader : Reader Stmt) (cursor : Cursor) (value : Stmt) : Prop :=
  ∃ here behind, cursor.Reaches here ∧ reader.run here = .ok (value, behind)

theorem Reader.Yields.back (yields : reader.Yields here value) (reaches : cursor.Reaches here) :
    reader.Yields cursor value := by
  obtain ⟨later, behind, reaches', outcome⟩ := yields
  exact ⟨later, behind, reaches.trans reaches', outcome⟩

/-- The statements that `children` finds in what the reader ends with are all read by the other
reader. -/
def Reader.Descends (named : Name → Prop) (reader : Reader β) (statement : Reader Stmt)
    (children : β → List Stmt) : Prop :=
  ∀ cursor : Cursor, reader.Reads named cursor
    fun value _ => ∀ child ∈ children value, statement.Yields cursor child

/-! ## Repetition -/

theorem repeatWhile_descends {item : Reader β} {children : β → List Stmt}
    {continues : TokenKind → Bool} (once : item.Descends named statement children) :
    (repeatWhile continues item).Descends named statement (·.flatMap children) := by
  intro cursor
  have each : (repeatWhile continues item).Reads named cursor fun values _ =>
      ∀ value ∈ values, ∀ child ∈ children value, statement.Yields cursor child :=
    .repeatWhile_each (fun here value => ∀ child ∈ children value, statement.Yields here child)
      (fun reaches yields child member => (yields child member).back reaches) once
  apply each.mono
  intro values _ _ yields child member
  obtain ⟨value, inside, found⟩ := List.mem_flatMap.mp member
  exact yields value inside child found

theorem body_descends {closes : TokenKind → Bool} :
    (body statement closes).Descends named statement id := by
  have once : statement.Descends named statement fun value => [value] := by
    intro cursor
    apply Reads.itself.mono
    intro value behind _ outcome child member
    rw [List.mem_singleton.mp member]
    exact ⟨cursor, behind, .refl cursor, outcome⟩
  intro cursor
  apply (repeatWhile_descends once cursor).mono
  intro values _ _ yields child member
  exact yields child (List.mem_flatMap.mpr ⟨child, member, List.mem_singleton_self child⟩)

/-! ## Conditionals and loops -/

theorem branch_descends : (branch statement).Descends named statement Branch.body := by
  intro cursor
  unfold branch
  apply Reads.bind_behind
  intro _ here₁ reaches₁
  apply Reads.bind_behind
  intro _ here₂ reaches₂
  apply Reads.bind_behind
  intro _ here₃ reaches₃
  apply Reads.bind (body_descends _)
  intro statements _ _ _ yields
  apply Reads.pure
  have reaches := reaches₁.trans (reaches₂.trans reaches₃)
  exact fun child member => (yields child member).back reaches

theorem children_conditional (branches : List Branch) (otherwise : Option (List Stmt))
    (span : Text.Span) :
    (Stmt.conditional branches otherwise span).children =
      branches.flatMap Branch.body ++ otherwise.toList.flatMap id := by
  rw [Stmt.children, Stmt.bodies, List.flatMap_map, List.flatMap_append, List.flatMap_map]
  rfl

theorem conditional_descends :
    (conditional statement).Descends named statement Stmt.children := by
  intro cursor
  unfold conditional
  apply Reads.peek_bind
  apply Reads.bind (branch_descends _).passing
  rintro first here₁ _ _ ⟨yields₁, reaches₁⟩
  apply Reads.bind (repeatWhile_descends branch_descends _).passing
  rintro others here₂ _ _ ⟨yields₂, reaches₂⟩
  have bodies : (optionalAfter .else (body statement (· == .endIf))).Reads named here₂
      fun found _ => ∀ child ∈ found.toList.flatMap id, statement.Yields here₂ child := by
    apply Reads.optionalAfter
    · intro _
      apply (body_descends _).mono
      intro values _ _ yields child member
      rw [Option.toList_some, List.flatMap_singleton] at member
      exact (yields child member).back (.advance _)
    · exact fun _ member => absurd member List.not_mem_nil
  apply Reads.bind bodies
  intro otherwise _ _ _ yields₃
  apply Reads.bind_behind
  intro _ _ _
  apply Reads.pure
  rw [children_conditional, List.flatMap_cons, List.forall_mem_append, List.forall_mem_append]
  exact ⟨⟨yields₁, fun child member => (yields₂ child member).back reaches₁⟩,
    fun child member => (yields₃ child member).back (reaches₁.trans reaches₂)⟩

theorem whileLoop_descends : (whileLoop statement).Descends named statement Stmt.children := by
  intro cursor
  unfold whileLoop
  apply Reads.bind_behind
  intro _ here₁ reaches₁
  apply Reads.bind_behind
  intro _ here₂ reaches₂
  apply Reads.bind (body_descends _)
  intro statements _ _ _ yields
  apply Reads.bind_behind
  intro _ _ _
  apply Reads.pure
  rw [Stmt.children, Stmt.bodies, List.flatMap_singleton]
  exact fun child member => (yields child member).back (reaches₁.trans reaches₂)

theorem forLoop_descends : (forLoop statement).Descends named statement Stmt.children := by
  intro cursor
  unfold forLoop
  apply Reads.bind_behind
  intro _ here₁ reaches₁
  apply Reads.bind_behind
  intro _ here₂ reaches₂
  apply Reads.bind_behind
  intro _ here₃ reaches₃
  apply Reads.bind_behind
  intro _ here₄ reaches₄
  apply Reads.bind_behind
  intro _ here₅ reaches₅
  apply Reads.bind_behind
  intro _ here₆ reaches₆
  apply Reads.bind (body_descends _)
  intro statements _ _ _ yields
  apply Reads.bind_behind
  intro _ _ _
  apply Reads.pure
  have reaches := reaches₁.trans <| reaches₂.trans <| reaches₃.trans <| reaches₄.trans <|
    reaches₅.trans reaches₆
  rw [Stmt.children, Stmt.bodies, List.flatMap_singleton]
  exact fun child member => (yields child member).back reaches

/-! ## Selections -/

/-- The statements in a part of a selection. -/
def TestPart.body : TestPart → List Stmt
  | .arm content => content.body
  | .default statements => statements

theorem testPart_descends : (testPart statement).Descends named statement TestPart.body := by
  intro cursor
  unfold testPart
  apply Reads.bind_behind
  intro opening here₁ reaches₁
  split
  · apply Reads.bind_behind
    intro _ here₂ reaches₂
    apply Reads.bind_behind
    intro _ here₃ reaches₃
    apply Reads.bind (body_descends _)
    intro statements _ _ _ yields
    apply Reads.pure
    have reaches := reaches₁.trans (reaches₂.trans reaches₃)
    exact fun child member => (yields child member).back reaches
  · apply Reads.bind_behind
    intro _ here₂ reaches₂
    apply Reads.bind (body_descends _)
    intro statements _ _ _ yields
    apply Reads.pure
    exact fun child member => (yields child member).back (reaches₁.trans reaches₂)

theorem children_test (subject : Expr) (parts : List TestPart) (span : Text.Span) :
    (Stmt.test subject (armsOf parts) (defaultOf parts) span).children ⊆
      parts.flatMap TestPart.body := by
  rw [Stmt.children, Stmt.bodies, List.flatMap_map, List.flatMap_append, List.flatMap_map]
  intro child member
  rcases List.mem_append.mp member with member | member
  · obtain ⟨arm, chosen, inside⟩ := List.mem_flatMap.mp member
    obtain ⟨part, part_mem, same⟩ := List.mem_filterMap.mp chosen
    cases part with
    | arm content =>
        cases same
        exact List.mem_flatMap.mpr ⟨_, part_mem, inside⟩
    | default => cases same
  · obtain ⟨statements, chosen, inside⟩ := List.mem_flatMap.mp member
    have last := List.mem_of_getLast? (Option.mem_toList.mp chosen)
    obtain ⟨part, part_mem, same⟩ := List.mem_filterMap.mp last
    cases part with
    | arm => cases same
    | default statements =>
        cases same
        exact List.mem_flatMap.mpr ⟨_, part_mem, inside⟩

theorem testStatement_descends :
    (testStatement statement).Descends named statement Stmt.children := by
  intro cursor
  unfold testStatement
  apply Reads.bind_behind
  intro _ here₁ reaches₁
  apply Reads.bind_behind
  intro subject here₂ reaches₂
  apply Reads.bind (repeatWhile_descends testPart_descends _)
  intro parts _ _ _ yields
  apply Reads.bind_behind
  intro _ _ _
  apply Reads.pure
  intro child member
  exact (yields child (children_test _ _ _ member)).back (reaches₁.trans reaches₂)

/-! ## Statements without bodies -/

theorem returnStatement_descends :
    returnStatement.Descends named statement Stmt.children := by
  intro cursor
  unfold returnStatement
  iterate 3
    apply Reads.bind_behind
    intro _ _ _
  exact .pure fun _ member => absurd member List.not_mem_nil

theorem moveStatement_descends : moveStatement.Descends named statement Stmt.children := by
  intro cursor
  unfold moveStatement
  iterate 10
    apply Reads.bind_behind
    intro _ _ _
  exact .pure fun _ member => absurd member List.not_mem_nil

theorem connectStatement_descends :
    connectStatement.Descends named statement Stmt.children := by
  intro cursor
  unfold connectStatement
  iterate 5
    apply Reads.bind_behind
    intro _ _ _
  exact .pure fun _ member => absurd member List.not_mem_nil

theorem raiseStatement_descends : raiseStatement.Descends named statement Stmt.children := by
  intro cursor
  unfold raiseStatement
  iterate 3
    apply Reads.bind_behind
    intro _ _ _
  exact .pure fun _ member => absurd member List.not_mem_nil

theorem simpleStatement_descends :
    simpleStatement.Descends named statement Stmt.children := by
  intro cursor
  unfold simpleStatement
  iterate 3
    apply Reads.bind_behind
    intro _ _ _
  split
  all_goals
    iterate 2
      apply Reads.bind_behind
      intro _ _ _
    exact .pure fun _ member => absurd member List.not_mem_nil

/-! ## Statements at every depth -/

theorem statementWith_descends :
    (statementWith statement).Descends named statement Stmt.children := by
  intro cursor
  unfold statementWith
  apply Reads.peekKind_bind
  have data : (dataItem >>= fun result => pure (Stmt.data result.1 result.2)).Reads named cursor
      fun value _ => ∀ child ∈ value.children, statement.Yields cursor child :=
    .bind_behind fun _ _ _ => .pure fun _ member => absurd member List.not_mem_nil
  split
  · exact conditional_descends cursor
  · exact whileLoop_descends cursor
  · exact forLoop_descends cursor
  · exact returnStatement_descends cursor
  iterate 3 exact moveStatement_descends cursor
  · exact testStatement_descends cursor
  · exact connectStatement_descends cursor
  · exact raiseStatement_descends cursor
  iterate 3 exact data
  · exact simpleStatement_descends cursor

/-- What holds of each statement that is read, whatever reads the statements of its bodies, holds of
the statements at every depth. -/
theorem statement_every {good : Cursor → Stmt → Prop}
    (back : ∀ {cursor here value}, cursor.Reaches here → good here value → good cursor value)
    (own : ∀ reader : Reader Stmt, reader.ReadsNode named → ∀ here : Cursor,
      (statementWith reader).Reads named here fun value _ => good here value) :
    Parser.statement.Reads named cursor
      fun value _ => ∀ part ∈ Stmt.all [value], good cursor part := by
  have every : ∀ cursor : Cursor, Parser.statement.Reads named cursor fun value behind =>
      Sits named cursor.here behind.here value ∧ ∀ part ∈ Stmt.all [value], good cursor part := by
    apply Reads.knot
    intro reader inner here
    have node : reader.ReadsNode named := fun here => (inner here).mono fun _ _ _ holds => holds.1
    apply Reads.of_laid
    intro laid
    have whole := (statementWith_reads node here).and
      ((own reader node here).and (statementWith_descends here))
    apply whole.mono
    rintro value behind - ⟨sits, holds, yields⟩
    refine ⟨sits, fun part member => ?_⟩
    obtain ⟨_, only, same | inside⟩ := Stmt.mem_all.mp member
    · rwa [same, List.mem_singleton.mp only]
    · rw [List.mem_singleton.mp only] at inside
      obtain ⟨child, below, place⟩ := Stmt.mem_all.mp inside
      obtain ⟨later, last, reaches, outcome⟩ := yields child below
      have kept := ((inner later).ends (laid.of_reaches reaches) child last outcome).2
      exact back reaches (kept part (Stmt.mem_all.mpr ⟨child, List.mem_singleton_self _, place⟩))
  exact (every cursor).mono fun _ _ _ holds => holds.2

theorem body_every {good : Cursor → Stmt → Prop} {closes : TokenKind → Bool}
    (back : ∀ {cursor here value}, cursor.Reaches here → good here value → good cursor value)
    (own : ∀ reader : Reader Stmt, reader.ReadsNode named → ∀ here : Cursor,
      (statementWith reader).Reads named here fun value _ => good here value) :
    (body Parser.statement closes).Reads named cursor
      fun values _ => ∀ part ∈ Stmt.all values, good cursor part := by
  apply Reads.of_laid
  intro laid
  apply (body_descends cursor).mono
  intro values _ _ yields part member
  obtain ⟨child, inside, place⟩ := Stmt.mem_all.mp member
  obtain ⟨here, behind, reaches, outcome⟩ := yields child inside
  have every : Parser.statement.Reads named here
      fun value _ => ∀ part ∈ Stmt.all [value], good here part := statement_every back own
  have holds := every.ends (laid.of_reaches reaches) child behind outcome
  exact back reaches (holds part (Stmt.mem_all.mpr ⟨child, List.mem_singleton_self _, place⟩))

end RapidLang.Parser
