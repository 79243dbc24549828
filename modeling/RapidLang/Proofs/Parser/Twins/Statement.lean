import RapidLang.Proofs.Parser.Completeness.Statement
import RapidLang.Proofs.Parser.Twins.Expression

/-!
# Statements are read without regard to spans

No reader of statements lets a span decide what it does.
-/

set_option autoImplicit false

namespace RapidLang.Parser

open Reader

variable {reader : Reader Stmt}

theorem dataItem_twin : dataItem.Twin dataItem := by
  unfold dataItem
  apply Twin.take_bind
  intro kind _ _ _
  apply Twin.expectName_bind
  intro type _ _
  apply Twin.expectName_bind
  intro name _ _
  apply Twin.bind (.optionalAfter expression_twin)
  intro initial initial' same
  apply Twin.expect_bind
  intro _ _ _ _
  exact .pure (by simp [same])

theorem dataItem_bind_twin {α : Type} [Erasable α] {next : DataItem × Text.Span → Reader α}
    (onward : ∀ item item' span span', erase item = erase item' →
      (next (item, span)).Twin (next (item', span'))) :
    (dataItem >>= next).Twin (dataItem >>= next) := by
  apply Twin.bind dataItem_twin
  rintro ⟨item, span⟩ ⟨item', span'⟩ same
  exact onward item item' span span' (congrArg Prod.fst same)

/-! ## Bodies -/

theorem body_twin {closes : TokenKind → Bool} (inner : reader.Twin reader) :
    (body reader closes).Twin (body reader closes) :=
  .repeatWhile inner

theorem branch_twin (inner : reader.Twin reader) : (branch reader).Twin (branch reader) := by
  unfold branch
  apply Twin.take_bind
  intro _ _ _ _
  apply Twin.bind expression_twin
  intro condition condition' conditions
  apply Twin.expect_bind
  intro _ _ _ _
  apply Twin.bind (body_twin inner)
  intro statements statements' same
  exact .pure (by simp [conditions, same])

theorem conditional_twin (inner : reader.Twin reader) :
    (conditional reader).Twin (conditional reader) := by
  unfold conditional
  apply Twin.peek_bind
  intro _ _ _ _
  apply Twin.bind (branch_twin inner)
  intro first first' firsts
  apply Twin.bind (.repeatWhile (branch_twin inner))
  intro branches branches' same
  apply Twin.bind (.optionalAfter (body_twin inner))
  intro otherwise otherwise' others
  apply Twin.expect_bind
  intro _ _ _ _
  exact .pure (by simp [firsts, same, others])

theorem whileLoop_twin (inner : reader.Twin reader) :
    (whileLoop reader).Twin (whileLoop reader) := by
  unfold whileLoop
  apply Twin.take_bind
  intro _ _ _ _
  apply Twin.bind expression_twin
  intro condition condition' conditions
  apply Twin.bind (body_twin inner)
  intro statements statements' same
  apply Twin.expect_bind
  intro _ _ _ _
  exact .pure (by simp [conditions, same])

theorem forLoop_twin (inner : reader.Twin reader) : (forLoop reader).Twin (forLoop reader) := by
  unfold forLoop
  apply Twin.take_bind
  intro _ _ _ _
  apply Twin.expectName_bind
  intro counter _ _
  apply Twin.expect_bind
  intro _ _ _ _
  apply Twin.bind expression_twin
  intro first first' firsts
  apply Twin.expect_bind
  intro _ _ _ _
  apply Twin.bind expression_twin
  intro last last' lasts
  apply Twin.bind (body_twin inner)
  intro statements statements' same
  apply Twin.expect_bind
  intro _ _ _ _
  exact .pure (by simp [firsts, lasts, same])

/-! ## Statements without bodies -/

theorem returnValue_twin : returnValue.Twin returnValue := by
  unfold returnValue
  apply Twin.peekKind_bind
  intro kind
  split
  · exact .pure rfl
  · exact .pure rfl
  · exact .pure rfl
  · apply Twin.bind expression_twin
    intro value value' same
    exact .pure (congrArg some same)

theorem returnStatement_twin : returnStatement.Twin returnStatement := by
  unfold returnStatement
  apply Twin.take_bind
  intro _ _ _ _
  apply Twin.bind returnValue_twin
  intro value value' same
  apply Twin.expect_bind
  intro _ _ _ _
  exact .pure (by simp [same])

theorem optionalArgument_twin : optionalArgument.Twin optionalArgument := by
  unfold optionalArgument
  apply Twin.take_bind
  intro _ _ _ _
  apply Twin.expectName_bind
  intro name _ _
  apply Twin.bind (.optionalAfter expression_twin)
  intro value value' same
  exact .pure (by simp [same])

theorem moveStatement_twin : moveStatement.Twin moveStatement := by
  unfold moveStatement
  apply Twin.take_bind
  intro kind _ _ _
  apply Twin.bind expression_twin
  intro target target' targets
  apply Twin.expect_bind
  intro _ _ _ _
  apply Twin.bind expression_twin
  intro speed speed' speeds
  apply Twin.expect_bind
  intro _ _ _ _
  apply Twin.bind expression_twin
  intro zone zone' zones
  apply Twin.expect_bind
  intro _ _ _ _
  apply Twin.bind expression_twin
  intro tool tool' tools
  apply Twin.bind (.repeatWhile optionalArgument_twin)
  intro options options' same
  apply Twin.expect_bind
  intro _ _ _ _
  exact .pure (by simp [targets, speeds, zones, tools, erase_workObjectOf, same])

theorem connectStatement_twin : connectStatement.Twin connectStatement := by
  unfold connectStatement
  apply Twin.take_bind
  intro _ _ _ _
  apply Twin.expectName_bind
  intro trap _ _
  apply Twin.expect_bind
  intro _ _ _ _
  apply Twin.expectName_bind
  intro error _ _
  apply Twin.expect_bind
  intro _ _ _ _
  exact .pure rfl

theorem raiseStatement_twin : raiseStatement.Twin raiseStatement := by
  unfold raiseStatement
  apply Twin.take_bind
  intro _ _ _ _
  apply Twin.expectName_bind
  intro error _ _
  apply Twin.expect_bind
  intro _ _ _ _
  exact .pure rfl

theorem bareCall_twin {value value' : Expr} (same : erase value = erase value') :
    (bareCall value).Twin (bareCall value') := by
  unfold bareCall
  rcases variable_or_not same with ⟨text, span, span', rfl, rfl⟩ | ⟨other, other'⟩
  · apply Twin.peekKind_bind
    intro kind
    split
    · apply Twin.bind (.commaSeparated expression_twin)
      intro values values' read
      exact .pure (by simp [read])
    · exact .pure rfl
  · split
    next name => exact absurd rfl (other name)
    next => exact .pure same

theorem simpleStatement_twin : simpleStatement.Twin simpleStatement := by
  unfold simpleStatement
  apply Twin.peek_bind
  intro _ _ _ _
  apply Twin.bind expression_twin
  intro value value' same
  apply Twin.accept_bind
  intro assigned
  cases assigned with
  | true =>
      apply Twin.bind expression_twin
      intro source source' sources
      apply Twin.expect_bind
      intro _ _ _ _
      exact .pure (by simp [same, sources])
  | false =>
      apply Twin.bind (bareCall_twin same)
      intro call call' calls
      apply Twin.expect_bind
      intro _ _ _ _
      exact .pure (by simp [calls])

/-! ## Selections -/

theorem testPart_twin (inner : reader.Twin reader) :
    (testPart reader).Twin (testPart reader) := by
  unfold testPart
  apply Twin.take_bind
  intro kind _ _ _
  dsimp only
  split
  · apply Twin.bind (.commaSeparated expression_twin)
    intro values values' read
    apply Twin.expect_bind
    intro _ _ _ _
    apply Twin.bind (body_twin inner)
    intro statements statements' same
    exact .pure (by simp [read, same])
  · apply Twin.expect_bind
    intro _ _ _ _
    apply Twin.bind (body_twin inner)
    intro statements statements' same
    exact .pure (by simp [same])

theorem testStatement_twin (inner : reader.Twin reader) :
    (testStatement reader).Twin (testStatement reader) := by
  unfold testStatement
  apply Twin.take_bind
  intro _ _ _ _
  apply Twin.bind expression_twin
  intro subject subject' subjects
  apply Twin.bind (.repeatWhile (testPart_twin inner))
  intro parts parts' same
  apply Twin.expect_bind
  intro _ _ _ _
  exact .pure (by simp [subjects, erase_armsOf, erase_defaultOf, same])

/-! ## All statements -/

theorem statementWith_twin (inner : reader.Twin reader) :
    (statementWith reader).Twin (statementWith reader) := by
  unfold statementWith
  apply Twin.peekKind_bind
  intro kind
  split
  · exact conditional_twin inner
  · exact whileLoop_twin inner
  · exact forLoop_twin inner
  · exact returnStatement_twin
  · exact moveStatement_twin
  · exact moveStatement_twin
  · exact moveStatement_twin
  · exact testStatement_twin inner
  · exact connectStatement_twin
  · exact raiseStatement_twin
  · exact dataItem_bind_twin fun _ _ _ _ same => .pure (by rw [erase_data, erase_data, same])
  · exact dataItem_bind_twin fun _ _ _ _ same => .pure (by rw [erase_data, erase_data, same])
  · exact dataItem_bind_twin fun _ _ _ _ same => .pure (by rw [erase_data, erase_data, same])
  · exact simpleStatement_twin

theorem statement_twin : statement.Twin statement :=
  .knot fun _ inner => statementWith_twin inner

end RapidLang.Parser
