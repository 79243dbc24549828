import RapidLang.Proofs.Parser.Nesting.Statement
import RapidLang.Proofs.Parser.Scattering.Expression

/-!
# The names in statements stand apart

The occurrences in a statement lie where its tokens are, each apart from the others, whatever the
region is that the body of the statement is given.
-/

set_option autoImplicit false

namespace RapidLang

open Text

namespace Parser

open Reader

variable {named : Name → Prop} {cursor : Cursor} {lower : Position}

/-- What holds of the outcome for each index holds for all of them. -/
theorem Reader.Reads.all {α ι : Type} {reader : Reader α} {good : ι → α → Cursor → Prop}
    (each : ∀ index, reader.Reads named cursor (good index)) :
    reader.Reads named cursor fun value behind => ∀ index, good index value behind :=
  ⟨fun laid value behind outcome index => (each index).ends laid value behind outcome⟩

theorem optionalExpression_scatters {kind : TokenKind} :
    (optionalAfter kind expression).Reads named cursor fun found behind =>
      Scattered cursor.here behind.here (Expr.optionalOccurrences found) :=
  .scatterOptional expression_scatters rfl fun _ => rfl

/-- The symbol that is declared may be a local one or one of the module. -/
theorem dataItem_scatters :
    dataItem.Reads named cursor fun result behind =>
      ∀ symbol : Symbol, symbol.name = result.1.name →
        Scattered cursor.here behind.here (result.1.occurrences ++ [.declaration symbol]) := by
  unfold dataItem
  apply Reads.take_bind
  intro opens closes
  apply Reads.expectName_bind
  intro opens₁ closes₁ type
  apply Reads.expectName_bind
  intro opens₂ closes₂ name
  apply Reads.bind optionalExpression_scatters
  intro initial here passed _ value
  apply Reads.expect_bind (by decide)
  intro opens₃ closes₃
  apply Reads.pure
  intro symbol same
  have declared : Sits named cursor.advance.advance.here cursor.advance.advance.edge symbol.name := by
    rw [same]
    exact name
  have heading := (Scattered.use type).append (.declaration declared) (by order) (by order)
    (by order)
  have whole := heading.append value (by order) (by order) (by order)
  apply (whole.widen (by order) (by order)).perm
  exact List.perm_append_comm.cons _

/-! ## Bodies, branches and arms -/

theorem allOccurrences_eq_flatMap_stmt (region : Span) (body : List Stmt) :
    Stmt.allOccurrences region body = body.flatMap (Stmt.occurrences region) := by
  induction body with
  | nil => rfl
  | cons first rest ih => rw [Stmt.allOccurrences, List.flatMap_cons, ih]

/-- The names in one branch. -/
def branchOccurrences : Branch → List Occurrence
  | .mk condition body _ =>
    condition.occurrences ++ Stmt.allOccurrences (Stmt.extent body) body

theorem allOccurrences_eq_flatMap_branch (branches : List Branch) :
    Branch.allOccurrences branches = branches.flatMap branchOccurrences := by
  induction branches with
  | nil => rfl
  | cons first rest ih =>
      obtain ⟨condition, body, span⟩ := first
      rw [Branch.allOccurrences, List.flatMap_cons, ih]
      rfl

/-- The names in one arm. -/
def armOccurrences : Arm → List Occurrence
  | .mk values body _ =>
    Expr.allOccurrences values ++ Stmt.allOccurrences (Stmt.extent body) body

theorem allOccurrences_eq_flatMap_arm (arms : List Arm) :
    Arm.allOccurrences arms = arms.flatMap armOccurrences := by
  induction arms with
  | nil => rfl
  | cons first rest ih =>
      obtain ⟨values, body, span⟩ := first
      rw [Arm.allOccurrences, List.flatMap_cons, ih]
      rfl

section

variable {statement : Reader Stmt}

theorem body_scatters (inner : ∀ region, statement.Scatters named (Stmt.occurrences region))
    (closes : TokenKind → Bool) :
    (body statement closes).Reads named cursor fun values behind =>
      ∀ region, Scattered cursor.here behind.here (Stmt.allOccurrences region values) := by
  apply Reads.all
  intro region
  apply (Reads.scatterWhile (inner region)).mono
  intro values behind _ scattered
  rwa [allOccurrences_eq_flatMap_stmt]

theorem branch_scatters (inner : ∀ region, statement.Scatters named (Stmt.occurrences region)) :
    (branch statement).Scatters named branchOccurrences := by
  intro cursor
  unfold branch
  apply Reads.take_bind
  intro opens closes
  apply Reads.bind (expression_scatters _)
  intro condition here₁ passed₁ _ scattered
  apply Reads.expect_bind (by decide)
  intro opens₂ closes₂
  apply Reads.bind (body_scatters inner _)
  intro statements here₃ passed₃ _ scattered'
  apply Reads.pure
  have whole := scattered.append (scattered' (Stmt.extent statements)) (by order) (by order)
    (by order)
  exact whole.widen (by order) (le_refl _)

/-! ## Conditionals and loops -/

theorem conditional_scatters (inner : ∀ region, statement.Scatters named (Stmt.occurrences region))
    (region : Span) : (conditional statement).Scatters named (Stmt.occurrences region) := by
  intro cursor
  unfold conditional
  apply Reads.peek_bind
  apply Reads.bind (branch_scatters inner _)
  intro first here₁ passed₁ _ scattered
  apply Reads.bind (.scatterWhile (branch_scatters inner))
  intro others here₂ passed₂ _ scattered'
  have bodies : (optionalAfter .else (body statement (· == .endIf))).Reads named here₂
      fun found behind =>
        Scattered here₂.here behind.here (Stmt.optionalOccurrences found) := by
    apply Reads.optionalAfter
    · intro later
      apply (body_scatters inner _).mono
      intro statements behind _ scattered''
      exact (scattered'' (Stmt.extent statements)).widen later (le_refl _)
    · exact .nil
  apply Reads.bind bodies
  intro otherwise here₃ passed₃ _ scattered''
  apply Reads.expect_bind (by decide)
  intro opens₄ closes₄
  apply Reads.pure
  have branches := scattered.append scattered' (le_refl _) passed₁ passed₂
  have whole := branches.append scattered'' (by order) (by order) (by order)
  rw [Stmt.occurrences, allOccurrences_eq_flatMap_branch, List.flatMap_cons]
  exact whole.widen (le_refl _) (by order)

theorem whileLoop_scatters (inner : ∀ region, statement.Scatters named (Stmt.occurrences region))
    (region : Span) : (whileLoop statement).Scatters named (Stmt.occurrences region) := by
  intro cursor
  unfold whileLoop
  apply Reads.take_bind
  intro opens closes
  apply Reads.bind (expression_scatters _)
  intro condition here₁ passed₁ _ scattered
  apply Reads.bind (body_scatters inner _)
  intro statements here₂ passed₂ _ scattered'
  apply Reads.expect_bind (by decide)
  intro opens₃ closes₃
  apply Reads.pure
  have whole := scattered.append (scattered' (Stmt.extent statements)) (le_refl _) (by order)
    (by order)
  exact whole.widen (by order) (by order)

theorem forLoop_scatters (inner : ∀ region, statement.Scatters named (Stmt.occurrences region))
    (region : Span) : (forLoop statement).Scatters named (Stmt.occurrences region) := by
  intro cursor
  unfold forLoop
  apply Reads.take_bind
  intro opens closes
  apply Reads.expectName_bind
  intro opens₁ closes₁ counter
  apply Reads.expect_bind (by decide)
  intro opens₂ closes₂
  apply Reads.bind (expression_scatters _)
  intro first here₃ passed₃ _ scattered
  apply Reads.expect_bind (by decide)
  intro opens₄ closes₄
  apply Reads.bind (expression_scatters _)
  intro last here₅ passed₅ _ scattered'
  apply Reads.bind (body_scatters inner _)
  intro statements here₆ passed₆ _ scattered''
  apply Reads.expect_bind (by decide)
  intro opens₇ closes₇
  apply Reads.pure
  generalize cursor.current.span.merge _ = span
  have declared : Scattered _ _
      [.declaration (.ofCounter ⟨cursor.advance.current.text, cursor.advance.current.span⟩ span)] :=
    .declaration counter
  have bounds := scattered.append scattered' (by order) (by order) (by order)
  have heading := declared.append bounds (by order) (by order) (by order)
  have whole := heading.append (scattered'' span) (by order) (by order) (by order)
  apply (whole.widen (by order) (by order)).perm
  exact List.perm_middle.symm

/-! ## Returns and motions -/

theorem returnStatement_scatters (region : Span) :
    returnStatement.Scatters named (Stmt.occurrences region) := by
  intro cursor
  unfold returnStatement
  apply Reads.take_bind
  intro opens closes
  have value : returnValue.Reads named cursor.advance fun found behind =>
      Scattered cursor.advance.here behind.here (Expr.optionalOccurrences found) := by
    unfold returnValue
    apply Reads.peekKind_bind
    split
    iterate 3 exact .pure .nil
    apply Reads.bind (expression_scatters _)
    intro value behind _ _ scattered
    exact .pure scattered
  apply Reads.bind value
  intro value here passed _ scattered
  apply Reads.expect_bind (by decide)
  intro opens₁ closes₁
  exact .pure (scattered.widen (by order) (by order))

theorem optionalArgument_scatters :
    optionalArgument.Scatters named fun option => Expr.optionalOccurrences option.2 := by
  intro cursor
  unfold optionalArgument
  apply Reads.take_bind
  intro opens closes
  apply Reads.expectName_bind
  intro opens₁ closes₁ _
  apply Reads.bind optionalExpression_scatters
  intro value behind _ _ scattered
  exact .pure (scattered.widen (by order) (le_refl _))

theorem workObjectOf_sublist (options : List (Name × Option Expr)) :
    (Expr.optionalOccurrences (workObjectOf options)).Sublist
      (options.flatMap fun option => Expr.optionalOccurrences option.2) := by
  cases chosen : workObjectOf options with
  | none => exact List.nil_sublist _
  | some value =>
      obtain ⟨option, member, found⟩ := workObjectOf_mem chosen
      have part := (List.singleton_sublist.mpr member).flatMap
        fun option : Name × Option Expr => Expr.optionalOccurrences option.2
      rw [List.flatMap_singleton, found] at part
      exact part

theorem moveStatement_scatters (region : Span) :
    moveStatement.Scatters named (Stmt.occurrences region) := by
  intro cursor
  unfold moveStatement
  apply Reads.take_bind
  intro opens closes
  apply Reads.bind (expression_scatters _)
  intro target here₁ passed₁ _ scattered₁
  apply Reads.expect_bind (by decide)
  intro opens₁ closes₁
  apply Reads.bind (expression_scatters _)
  intro speed here₂ passed₂ _ scattered₂
  apply Reads.expect_bind (by decide)
  intro opens₂ closes₂
  apply Reads.bind (expression_scatters _)
  intro zone here₃ passed₃ _ scattered₃
  apply Reads.expect_bind (by decide)
  intro opens₃ closes₃
  apply Reads.bind (expression_scatters _)
  intro tool here₄ passed₄ _ scattered₄
  apply Reads.bind (.scatterWhile optionalArgument_scatters)
  intro options here₅ passed₅ _ scattered₅
  apply Reads.expect_bind (by decide)
  intro opens₆ closes₆
  apply Reads.pure
  have workObject := scattered₅.sublist (workObjectOf_sublist options)
  have operands := scattered₁.append (scattered₂.append (scattered₃.append scattered₄
    (by order) (by order) (by order)) (by order) (by order) (by order)) (by order) (by order)
    (by order)
  have whole := operands.append workObject (by order) (by order) (by order)
  have same : Expr.allOccurrences [target, speed, zone, tool] = target.occurrences ++
      (speed.occurrences ++ (zone.occurrences ++ tool.occurrences)) := by
    simp [Expr.allOccurrences]
  rw [Stmt.occurrences, Move.occurrences, same]
  exact whole.widen (by order) (by order)

/-! ## Selections -/

/-- The names in a part of a selection. -/
def TestPart.occurrences : TestPart → List Occurrence
  | .arm content => armOccurrences content
  | .default body => Stmt.allOccurrences (Stmt.extent body) body

theorem testPart_scatters (inner : ∀ region, statement.Scatters named (Stmt.occurrences region)) :
    (testPart statement).Scatters named TestPart.occurrences := by
  intro cursor
  unfold testPart
  apply Reads.take_bind
  intro opens closes
  split
  · apply Reads.bind (.scatterCommas expression_scatters)
    intro values here₁ passed₁ _ scattered
    apply Reads.expect_bind (by decide)
    intro opens₂ closes₂
    apply Reads.bind (body_scatters inner _)
    intro statements here₃ passed₃ _ scattered'
    apply Reads.pure
    rw [← allOccurrences_eq_flatMap] at scattered
    have whole := scattered.append (scattered' (Stmt.extent statements)) (by order) (by order)
      (by order)
    exact whole.widen (by order) (le_refl _)
  · apply Reads.expect_bind (by decide)
    intro opens₁ closes₁
    apply Reads.bind (body_scatters inner _)
    intro statements here₂ _ _ scattered
    exact .pure ((scattered (Stmt.extent statements)).widen (by order) (le_refl _))

/-- The names in the arms stand apart from each other and from those in the last default. -/
theorem testParts_scatters (inner : ∀ region, statement.Scatters named (Stmt.occurrences region))
    {continues : TokenKind → Bool} :
    (repeatWhile continues (testPart statement)).Reads named cursor fun parts behind =>
      Scattered cursor.here behind.here
        (Arm.allOccurrences (armsOf parts) ++ Stmt.optionalOccurrences (defaultOf parts)) := by
  apply Reads.repeatWhile_of fun (parts : List TestPart) here => Scattered cursor.here here.here
    (Arm.allOccurrences (armsOf parts) ++ Stmt.optionalOccurrences (defaultOf parts))
  · exact .nil
  · intro parts here later before
    apply (testPart_scatters inner here).mono
    intro part behind passed scattered
    cases part with
    | arm arm =>
        have arms' : armsOf (parts ++ [.arm arm]) = armsOf parts ++ [arm] := by simp [armsOf]
        have default' : defaultOf (parts ++ [.arm arm]) = defaultOf parts := by simp [defaultOf]
        have whole := before.append scattered (le_refl _) later passed
        rw [arms', default', allOccurrences_eq_flatMap_arm, List.flatMap_append,
          List.flatMap_singleton, ← allOccurrences_eq_flatMap_arm]
        apply whole.perm
        rw [List.append_assoc, List.append_assoc]
        exact List.perm_append_comm.append_left _
    | default body =>
        have arms' : armsOf (parts ++ [.default body]) = armsOf parts := by simp [armsOf]
        have default' : defaultOf (parts ++ [.default body]) = some body := by simp [defaultOf]
        have arms := before.sublist (List.sublist_append_left _ _)
        rw [arms', default']
        exact arms.append scattered (le_refl _) later passed

theorem testStatement_scatters (inner : ∀ region, statement.Scatters named (Stmt.occurrences region))
    (region : Span) : (testStatement statement).Scatters named (Stmt.occurrences region) := by
  intro cursor
  unfold testStatement
  apply Reads.take_bind
  intro opens closes
  apply Reads.bind (expression_scatters _)
  intro subject here₁ passed₁ _ scattered
  apply Reads.bind (testParts_scatters inner)
  intro parts here₂ passed₂ _ scattered'
  apply Reads.expect_bind (by decide)
  intro opens₃ closes₃
  apply Reads.pure
  have whole := scattered.append scattered' (le_refl _) passed₁ passed₂
  rw [← List.append_assoc] at whole
  exact whole.widen (by order) (by order)

/-! ## Errors -/

theorem connectStatement_scatters (region : Span) :
    connectStatement.Scatters named (Stmt.occurrences region) := by
  intro cursor
  unfold connectStatement
  apply Reads.take_bind
  intro opens closes
  apply Reads.expectName_bind
  intro opens₁ closes₁ trap
  apply Reads.expect_bind (by decide)
  intro opens₂ closes₂
  apply Reads.expectName_bind
  intro opens₃ closes₃ error
  apply Reads.expect_bind (by decide)
  intro opens₄ closes₄
  apply Reads.pure
  have whole := (Scattered.use trap).append (.use error) (by order) (by order) (by order)
  exact (whole.widen (by order) (by order)).perm List.perm_append_comm

theorem raiseStatement_scatters (region : Span) :
    raiseStatement.Scatters named (Stmt.occurrences region) := by
  intro cursor
  unfold raiseStatement
  apply Reads.take_bind
  intro opens closes
  apply Reads.expectName_bind
  intro opens₁ closes₁ error
  apply Reads.expect_bind (by decide)
  intro opens₂ closes₂
  exact .pure ((Scattered.use error).widen (by order) (by order))

/-! ## Statements that begin with an expression -/

theorem bareCall_scatters {value : Expr}
    (scattered : Scattered lower cursor.here value.occurrences) (below : lower ≤ cursor.here) :
    (bareCall value).Reads named cursor
      fun call behind => Scattered lower behind.here call.occurrences := by
  unfold bareCall
  split
  next name =>
    apply Reads.peekKind_bind
    split
    · apply Reads.bind (.scatterCommas expression_scatters)
      intro arguments behind passed _ scattered'
      apply Reads.pure
      rw [← allOccurrences_eq_flatMap] at scattered'
      exact scattered.append scattered' (le_refl _) below passed
    · exact .pure scattered
  next => exact .pure scattered

theorem simpleStatement_scatters (region : Span) :
    simpleStatement.Scatters named (Stmt.occurrences region) := by
  intro cursor
  unfold simpleStatement
  apply Reads.peek_bind
  apply Reads.bind (expression_scatters _)
  intro target here₁ passed₁ _ scattered
  apply Reads.accept_bind
  · intro opens₂ closes₂
    apply Reads.bind (expression_scatters _)
    intro source here₃ passed₃ _ scattered'
    apply Reads.expect_bind (by decide)
    intro opens₄ closes₄
    apply Reads.pure
    have whole := scattered.append scattered' (by order) (by order) (by order)
    exact whole.widen (le_refl _) (by order)
  · apply Reads.bind (bareCall_scatters scattered passed₁)
    intro call here₂ passed₂ _ scattered'
    apply Reads.expect_bind (by decide)
    intro opens₃ closes₃
    exact .pure (scattered'.widen (le_refl _) (by order))

theorem statementWith_scatters (inner : ∀ region, statement.Scatters named (Stmt.occurrences region))
    (region : Span) : (statementWith statement).Scatters named (Stmt.occurrences region) := by
  intro cursor
  unfold statementWith
  apply Reads.peekKind_bind
  have data : (dataItem >>= fun result => pure (Stmt.data result.1 result.2)).Reads named cursor
      fun value behind => Scattered cursor.here behind.here (value.occurrences region) := by
    apply Reads.bind dataItem_scatters
    intro result behind _ _ scattered
    exact .pure (scattered (.ofData region result.1 result.2) rfl)
  split
  · exact conditional_scatters inner region cursor
  · exact whileLoop_scatters inner region cursor
  · exact forLoop_scatters inner region cursor
  · exact returnStatement_scatters region cursor
  iterate 3 exact moveStatement_scatters region cursor
  · exact testStatement_scatters inner region cursor
  · exact connectStatement_scatters region cursor
  · exact raiseStatement_scatters region cursor
  iterate 3 exact data
  · exact simpleStatement_scatters region cursor

end

/-- The names of a statement lie where its tokens are, each apart from the others. -/
theorem statement_scatters (region : Span) :
    statement.Scatters named (Stmt.occurrences region) := by
  have every : ∀ cursor : Cursor, statement.Reads named cursor fun value behind =>
      ∀ region, Scattered cursor.here behind.here (value.occurrences region) := by
    apply Reads.knot
    intro reader inner here
    apply Reads.all
    intro region
    exact statementWith_scatters
      (fun region here => (inner here).mono fun _ _ _ scattered => scattered region) region here
  exact fun cursor => (every cursor).mono fun _ _ _ scattered => scattered region

end Parser

end RapidLang
