import RapidLang.Proofs.Parser.Locality.Expression

/-!
# Statements are read one token at a time

The readers of statements look at the next token only.
-/

set_option autoImplicit false

namespace RapidLang.Parser

open Reader

variable {cursor other : Cursor} {size size' : Nat} {reader reader' : Reader Stmt}

theorem dataItem_alike : dataItem.Alike dataItem cursor other := by
  unfold dataItem
  refine .bind .take fun _ _ _ _ _ => ?_
  refine .bind .expectName fun _ _ _ _ _ => .bind .expectName fun _ _ _ _ _ => ?_
  refine .bind (.optionalAfter (by decide) fun _ _ _ _ => expression_alike) fun _ _ _ _ _ => ?_
  exact .bind .expect fun _ _ _ _ _ => .pure

/-! ## Bodies -/

theorem body_alike (inner : AlikeBelow size size' reader reader') {closes : TokenKind → Bool} :
    AlikeBelow size size' (body reader closes) (body reader' closes) := by
  intro cursor other near near'
  unfold body
  exact .repeatWhile fun here here' le le' _ => inner here here' (by omega) (by omega)

theorem branch_alike (inner : AlikeBelow size size' reader reader')
    (near : cursor.left ≤ size) (near' : other.left ≤ size') (inside : cursor.kind ≠ .endOfInput) :
    (branch reader).Alike (branch reader') cursor other := by
  unfold branch
  refine .take_bind inside fun here here' less less' => ?_
  refine .bind expression_alike fun _ last last' le le' => ?_
  refine .bind .expect fun _ start start' lower lower' => ?_
  exact .bind (body_alike inner start start' (by omega) (by omega)) fun _ _ _ _ _ => .pure

theorem conditional_alike (inner : AlikeBelow size size' reader reader')
    (near : cursor.left ≤ size) (near' : other.left ≤ size') (inside : cursor.kind ≠ .endOfInput) :
    (conditional reader).Alike (conditional reader') cursor other := by
  unfold conditional
  refine .peek_bind (.bind (branch_alike inner near near' inside) fun _ here here' le le' => ?_)
  refine .bind (.repeatWhile fun last last' less less' word => ?_) fun _ last last' less less' => ?_
  · refine branch_alike inner (by omega) (by omega) ?_
    rw [beq_iff_eq.mp word]
    decide
  · refine .bind (.optionalAfter (by decide) fun behind behind' lower lower' => ?_)
      fun _ _ _ _ _ => .bind .expect fun _ _ _ _ _ => .pure
    exact body_alike inner behind behind' (by omega) (by omega)

theorem whileLoop_alike (inner : AlikeBelow size size' reader reader')
    (near : cursor.left ≤ size) (near' : other.left ≤ size') (inside : cursor.kind ≠ .endOfInput) :
    (whileLoop reader).Alike (whileLoop reader') cursor other := by
  unfold whileLoop
  refine .take_bind inside fun here here' less less' => ?_
  refine .bind expression_alike fun _ last last' le le' => ?_
  refine .bind (body_alike inner last last' (by omega) (by omega)) fun _ _ _ _ _ => ?_
  exact .bind .expect fun _ _ _ _ _ => .pure

theorem forLoop_alike (inner : AlikeBelow size size' reader reader')
    (near : cursor.left ≤ size) (near' : other.left ≤ size') (inside : cursor.kind ≠ .endOfInput) :
    (forLoop reader).Alike (forLoop reader') cursor other := by
  unfold forLoop
  refine .take_bind inside fun here here' less less' => ?_
  refine .bind .expectName fun _ first first' le le' => ?_
  refine .bind .expect fun _ start start' below below' => ?_
  refine .bind expression_alike fun _ second second' under under' => ?_
  refine .bind .expect fun _ final final' lower lower' => ?_
  refine .bind expression_alike fun _ last last' near₁ near₁' => ?_
  refine .bind (body_alike inner last last' (by omega) (by omega)) fun _ _ _ _ _ => ?_
  exact .bind .expect fun _ _ _ _ _ => .pure

/-! ## Statements without bodies -/

theorem returnValue_alike : returnValue.Alike returnValue cursor other := by
  unfold returnValue
  refine .peekKind_bind fun _ => ?_
  split
  · exact .pure
  · exact .pure
  · exact .pure
  · exact .bind expression_alike fun _ _ _ _ _ => .pure

theorem returnStatement_alike : returnStatement.Alike returnStatement cursor other := by
  unfold returnStatement
  refine .bind .take fun _ _ _ _ _ => .bind returnValue_alike fun _ _ _ _ _ => ?_
  exact .bind .expect fun _ _ _ _ _ => .pure

theorem optionalArgument_alike : optionalArgument.Alike optionalArgument cursor other := by
  unfold optionalArgument
  refine .bind .take fun _ _ _ _ _ => .bind .expectName fun _ _ _ _ _ => ?_
  exact .bind (.optionalAfter (by decide) fun _ _ _ _ => expression_alike) fun _ _ _ _ _ => .pure

theorem moveStatement_alike : moveStatement.Alike moveStatement cursor other := by
  unfold moveStatement
  refine .bind .take fun _ _ _ _ _ => .bind expression_alike fun _ _ _ _ _ => ?_
  refine .bind .expect fun _ _ _ _ _ => .bind expression_alike fun _ _ _ _ _ => ?_
  refine .bind .expect fun _ _ _ _ _ => .bind expression_alike fun _ _ _ _ _ => ?_
  refine .bind .expect fun _ _ _ _ _ => .bind expression_alike fun _ _ _ _ _ => ?_
  refine .bind (.repeatWhile fun _ _ _ _ _ => optionalArgument_alike) fun _ _ _ _ _ => ?_
  exact .bind .expect fun _ _ _ _ _ => .pure

theorem connectStatement_alike : connectStatement.Alike connectStatement cursor other := by
  unfold connectStatement
  refine .bind .take fun _ _ _ _ _ => .bind .expectName fun _ _ _ _ _ => ?_
  refine .bind .expect fun _ _ _ _ _ => .bind .expectName fun _ _ _ _ _ => ?_
  exact .bind .expect fun _ _ _ _ _ => .pure

theorem raiseStatement_alike : raiseStatement.Alike raiseStatement cursor other := by
  unfold raiseStatement
  refine .bind .take fun _ _ _ _ _ => .bind .expectName fun _ _ _ _ _ => ?_
  exact .bind .expect fun _ _ _ _ _ => .pure

theorem bareCall_alike {value : Expr} : (bareCall value).Alike (bareCall value) cursor other := by
  unfold bareCall
  cases value with
  | «variable» name =>
      refine .peekKind_bind fun _ => ?_
      split
      · refine .bind (.commaSeparated fun _ _ _ _ => expression_alike) fun _ _ _ _ _ => ?_
        exact .pure
      · exact .pure
  | _ => exact .pure

theorem simpleStatement_alike : simpleStatement.Alike simpleStatement cursor other := by
  unfold simpleStatement
  refine .peek_bind (.bind expression_alike fun _ _ _ _ _ => ?_)
  refine .bind .accept fun assigned _ _ _ _ => ?_
  cases assigned with
  | true =>
      refine .bind expression_alike fun _ _ _ _ _ => ?_
      exact .bind .expect fun _ _ _ _ _ => .pure
  | false =>
      refine .bind bareCall_alike fun _ _ _ _ _ => ?_
      exact .bind .expect fun _ _ _ _ _ => .pure

/-! ## Selections -/

theorem testPart_alike (inner : AlikeBelow size size' reader reader')
    (near : cursor.left ≤ size) (near' : other.left ≤ size') (inside : cursor.kind ≠ .endOfInput) :
    (testPart reader).Alike (testPart reader') cursor other := by
  unfold testPart
  refine .take_bind inside fun here here' less less' => ?_
  split
  · refine .bind (.commaSeparated fun _ _ _ _ => expression_alike) fun _ colon colon' le le' => ?_
    refine .bind .expect fun _ last last' lower lower' => ?_
    exact .bind (body_alike inner last last' (by omega) (by omega)) fun _ _ _ _ _ => .pure
  · refine .bind .expect fun _ last last' lower lower' => ?_
    exact .bind (body_alike inner last last' (by omega) (by omega)) fun _ _ _ _ _ => .pure

theorem testStatement_alike (inner : AlikeBelow size size' reader reader')
    (near : cursor.left ≤ size) (near' : other.left ≤ size') :
    (testStatement reader).Alike (testStatement reader') cursor other := by
  unfold testStatement
  refine .bind .take fun _ here here' le le' => .bind expression_alike fun _ part part' _ _ => ?_
  refine .bind (.repeatWhile fun last last' less less' word => ?_) fun _ _ _ _ _ => ?_
  · refine testPart_alike inner (by omega) (by omega) ?_
    rintro finished
    rw [finished] at word
    cases word
  · exact .bind .expect fun _ _ _ _ _ => .pure

/-! ## All statements -/

theorem statementWith_alike (inner : AlikeBelow size size' reader reader') :
    AlikeBelow (size + 1) (size' + 1) (statementWith reader) (statementWith reader') := by
  intro cursor other near near'
  replace near := Nat.le_of_lt_succ near
  replace near' := Nat.le_of_lt_succ near'
  unfold statementWith
  refine .peekKind_bind fun _ => ?_
  split
  next opening => exact conditional_alike inner near near' (by rw [opening]; decide)
  next opening => exact whileLoop_alike inner near near' (by rw [opening]; decide)
  next opening => exact forLoop_alike inner near near' (by rw [opening]; decide)
  next => exact returnStatement_alike
  next => exact moveStatement_alike
  next => exact moveStatement_alike
  next => exact moveStatement_alike
  next => exact testStatement_alike inner near near'
  next => exact connectStatement_alike
  next => exact raiseStatement_alike
  next => exact .bind dataItem_alike fun _ _ _ _ _ => .pure
  next => exact .bind dataItem_alike fun _ _ _ _ _ => .pure
  next => exact .bind dataItem_alike fun _ _ _ _ _ => .pure
  next => exact simpleStatement_alike

theorem statement_alike : statement.Alike statement cursor other :=
  .knot fun _ _ _ _ inner => statementWith_alike inner

end RapidLang.Parser
