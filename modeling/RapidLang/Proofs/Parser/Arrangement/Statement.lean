import RapidLang.Proofs.Parser.Arrangement.Expression
import RapidLang.Proofs.Parser.Descent

/-!
# The parts of statements stand apart

Each reader of statements makes a statement whose own names and nested bodies are arranged where its
tokens are, whatever reads the statements of the bodies. What holds of every statement that is read
in this way holds at every depth.
-/

set_option autoImplicit false

namespace RapidLang

open Text

/-- The span runs from a reserved word to a reserved word. -/
def Text.Span.Bracketed (tokens : List Token) (span : Span) : Prop :=
  ∃ first ∈ tokens, ∃ last ∈ tokens,
    first.kind.isReserved ∧ last.kind.isReserved ∧ span = ⟨first.span.start, last.span.stop⟩

/-- A loop with a counter runs from a reserved word to a reserved word. No statement that is read is
a block. -/
def Stmt.Bracketed (tokens : List Token) : Stmt → Prop
  | .for _ _ _ _ span => span.Bracketed tokens
  | .block _ _ => False
  | _ => True

/-- The parts of the statement are arranged, and if it is a loop with a counter, it is bracketed. -/
structure Stmt.Placed (tokens : List Token) (statement : Stmt) : Prop where
  arranged : statement.Arranged
  bracketed : statement.Bracketed tokens

theorem Text.Span.Bracketed.mono {tokens others : List Token} {span : Span}
    (bracketed : span.Bracketed tokens) (part : tokens ⊆ others) : span.Bracketed others := by
  obtain ⟨first, member, last, member', words⟩ := bracketed
  exact ⟨first, part member, last, part member', words⟩

theorem Stmt.Placed.mono {tokens others : List Token} {statement : Stmt}
    (placed : statement.Placed tokens) (part : tokens ⊆ others) : statement.Placed others := by
  refine ⟨placed.arranged, ?_⟩
  have bracketed := placed.bracketed
  cases statement with
  | «for» => exact Span.Bracketed.mono bracketed part
  | block => exact bracketed
  | _ => exact trivial

/-- A body behind some names, and behind the place where these may begin. -/
theorem Arrangement.body {lower middle middle' upper : Position} {marks : List Span}
    {body : List Stmt} (names : Spread lower middle marks)
    (spread : Spread middle' upper (Stmt.stretch body)) (between : middle ≤ middle')
    (behind : lower < middle') (above : middle ≤ upper) :
    Arrangement lower upper marks (Stmt.stretch body) where
  spread := names.append spread between (le_of_lt behind) above
  behind := fun stretch member => lt_of_lt_of_le behind (spread.lie stretch member).2.1
  parted := by
    unfold Stmt.stretch
    split
    · exact .nil
    · exact List.pairwise_singleton _ _

namespace Parser

open Reader

variable {named : Name → Prop} {cursor : Cursor} {lower : Position}

namespace Reader.Reads

variable {α : Type} {reader : Reader α} {good : α → Cursor → Prop}

/-- A word that is not the end of input takes room. -/
theorem optionalBehind {kind : TokenKind} (inside : kind ≠ .endOfInput) {item : Reader α}
    {good : Option α → Cursor → Prop}
    (present : cursor.here < cursor.advance.here →
      item.Reads named cursor.advance fun value behind => good (some value) behind)
    (absent : good none cursor) : (Parser.optionalAfter kind item).Reads named cursor good := by
  by_cases found : cursor.kind = kind
  · apply of_laid
    intro laid
    have filled := laid.here_lt_edge (found ▸ inside)
    exact optionalAfter (fun _ => present (lt_of_lt_of_le filled laid.edge_le_advance)) absent
  · exact congr (.refl cursor) (run_bind_of_ok (run_accept_of_ne found)) (.pure absent)

/-- A token that has to be of a kind is of that kind. -/
theorem expect_bind_of {kind : TokenKind} {next : Token → Reader α}
    (onward : cursor.kind = kind → (expect kind >>= next).Reads named cursor good) :
    (expect kind >>= next).Reads named cursor good := by
  by_cases found : cursor.kind = kind
  · exact onward found
  · constructor
    intro _ value behind outcome
    rw [run_bind_of_error (run_expect_of_ne found)] at outcome
    cases outcome

end Reader.Reads

/-- What begins and ends with a reserved word is bracketed. -/
theorem Cursor.bracketed {here : Cursor} (reaches : cursor.Reaches here)
    (opening : cursor.kind.isReserved) (closing : here.kind.isReserved) :
    (⟨cursor.here, here.edge⟩ : Span).Bracketed cursor.rest := by
  have inside : ∀ kind : TokenKind, kind.isReserved → kind ≠ .endOfInput := by
    rintro _ reserved rfl
    cases reserved
  exact ⟨cursor.current, Laid.current_mem (inside _ opening), here.current,
    reaches.1.subset (Laid.current_mem (inside _ closing)), opening, closing, rfl⟩

/-! ## The nested bodies of a statement -/

theorem stretches_conditional (branches : List Branch) (otherwise : Option (List Stmt))
    (span : Span) :
    (Stmt.conditional branches otherwise span).stretches =
      (branches.flatMap fun branch => Stmt.stretch branch.body)
        ++ otherwise.toList.flatMap Stmt.stretch := by
  rw [Stmt.stretches, Stmt.bodies, List.flatMap_map, List.flatMap_append, List.flatMap_map]
  rfl

theorem stretches_test (subject : Expr) (arms : List Arm) (default : Option (List Stmt))
    (span : Span) :
    (Stmt.test subject arms default span).stretches =
      (arms.flatMap fun arm => Stmt.stretch arm.body) ++ default.toList.flatMap Stmt.stretch := by
  rw [Stmt.stretches, Stmt.bodies, List.flatMap_map, List.flatMap_append, List.flatMap_map]
  rfl

section Parts

variable {statement : Reader Stmt} (inner : statement.ReadsNode named)

include inner

/-! ## Bodies, branches and arms -/

theorem body_spreads (closes : TokenKind → Bool) :
    (body statement closes).Reads named cursor
      fun values behind => Spread cursor.here behind.here (Stmt.stretch values) := by
  apply (body_reads inner closes).mono
  intro values behind _ all
  cases values with
  | nil => exact .nil
  | cons first rest =>
      have sits := fun value member => all.sits value member
      have within := Stmt.extent_within
        (fun value member => (sits value member).within (le_refl _) (le_refl _))
        (List.cons_ne_nil first rest)
      have holds := Stmt.within_extent_of_filled
        (fun value member => (sits value member).nested.filled) all.ordered first List.mem_cons_self
      have filled := (sits first List.mem_cons_self).nested.filled
      exact .one (filled.mono holds) within.1 within.2

theorem branch_arranged :
    (branch statement).Reads named cursor fun value behind =>
      Arrangement cursor.here behind.here value.condition.marks (Stmt.stretch value.body) := by
  unfold branch
  apply Reads.take_bind
  intro opens closes
  apply Reads.bind (expression_spreads _)
  intro condition here₁ passed₁ _ spread
  apply Reads.expect_bind (by decide)
  intro opens₂ closes₂
  apply Reads.bind (body_spreads inner _)
  intro statements here₃ passed₃ _ spread'
  apply Reads.pure
  exact .body (spread.widen (by order) (le_refl _)) spread' (by order) (by order) (by order)

/-! ## Conditionals and loops -/

theorem conditional_placed :
    (conditional statement).Reads named cursor fun value _ => value.Placed cursor.rest := by
  unfold conditional
  apply Reads.peek_bind
  apply Reads.bind (branch_arranged inner)
  intro first here₁ passed₁ edge₁ arranged
  apply Reads.bind
  · apply Reads.repeatWhile_of fun (branches : List Branch) here =>
      Arrangement here₁.here here.here (branches.flatMap fun branch => branch.condition.marks)
        (branches.flatMap fun branch => Stmt.stretch branch.body)
    · exact .of_spread .nil
    · intro branches here later before
      apply (branch_arranged inner).mono
      intro branch behind passed arranged'
      rw [List.flatMap_append, List.flatMap_append, List.flatMap_singleton, List.flatMap_singleton]
      exact before.append arranged' (le_refl _) later passed
  intro others here₂ passed₂ edge₂ arranged₂
  have bodies : (optionalAfter .else (body statement (· == .endIf))).Reads named here₂
      fun found behind =>
        Arrangement here₂.here behind.here [] (found.toList.flatMap Stmt.stretch) := by
    apply Reads.optionalBehind (by decide)
    · intro strictly
      apply (body_spreads inner _).mono
      intro values behind _ spread
      rw [Option.toList_some, List.flatMap_singleton]
      exact .body .nil spread (le_refl _) strictly (by order)
    · exact .of_spread .nil
  apply Reads.bind bodies
  intro otherwise here₃ passed₃ edge₃ arranged₃
  apply Reads.expect_bind (by decide)
  intro opens₄ closes₄
  apply Reads.pure
  rw [Cursor.merge_current (by order) (by order)]
  have branches := arranged.append arranged₂ (le_refl _) passed₁ passed₂
  have whole := branches.append arranged₃ (le_refl _) (by order) passed₃
  refine ⟨⟨here₃.here, opens₄, ?_⟩, trivial⟩
  rw [stretches_conditional, Stmt.marks, Stmt.expressions, List.flatMap_map, List.flatMap_cons,
    List.flatMap_cons]
  rwa [List.append_nil] at whole

theorem whileLoop_placed :
    (whileLoop statement).Reads named cursor fun value _ => value.Placed cursor.rest := by
  unfold whileLoop
  apply Reads.take_bind
  intro opens closes
  apply Reads.bind ((expression_reads _).and (expression_spreads _))
  rintro condition here₁ passed₁ edge₁ ⟨sits, spread⟩
  apply Reads.bind (body_spreads inner _)
  intro statements here₂ passed₂ _ spread'
  apply Reads.expect_bind (by decide)
  intro opens₃ closes₃
  apply Reads.pure
  rw [Cursor.merge_current (by order) (by order)]
  -- The condition takes room in front of the body.
  have filled : condition.span.start < condition.span.stop := sits.nested.filled
  have below : cursor.advance.here ≤ condition.span.start := sits.lower_le
  have above : condition.span.stop ≤ here₁.here := sits.le_upper
  have whole : Arrangement cursor.here here₂.here condition.marks (Stmt.stretch statements) :=
    .body (spread.widen (by order) (le_refl _)) spread' (le_refl _) (by order) (by order)
  refine ⟨⟨here₂.here, opens₃, ?_⟩, trivial⟩
  rwa [Stmt.marks, Stmt.expressions, List.flatMap_singleton, Stmt.stretches, Stmt.bodies,
    List.flatMap_singleton]

theorem forLoop_placed (word : cursor.kind = .for) :
    (forLoop statement).Reads named cursor fun value _ => value.Placed cursor.rest := by
  unfold forLoop
  apply Reads.take_bind
  intro opens closes
  apply Reads.expectName_bind
  intro opens₁ closes₁ counter
  apply Reads.expect_bind (by decide)
  intro opens₂ closes₂
  apply Reads.bind (expression_spreads _).passing
  rintro first here₃ passed₃ _ ⟨spread, reaches₃⟩
  apply Reads.expect_bind (by decide)
  intro opens₄ closes₄
  apply Reads.bind (expression_spreads _).passing
  rintro last here₅ passed₅ _ ⟨spread', reaches₅⟩
  apply Reads.bind (body_spreads inner _).passing
  rintro statements here₆ passed₆ _ ⟨spread'', reaches₆⟩
  apply Reads.expect_bind_of
  intro closing
  apply Reads.expect_bind (by decide)
  intro opens₇ closes₇
  apply Reads.pure
  rw [Cursor.merge_current (by order) (by order)]
  constructor
  · refine ⟨here₆.here, opens₇, ?_⟩
    have bounds := spread.append spread' (by order) (by order) (by order)
    rw [Stmt.marks, Stmt.expressions, List.flatMap_cons, List.flatMap_singleton, Stmt.stretches,
      Stmt.bodies, List.flatMap_singleton]
    show Arrangement cursor.here here₆.here _ _
    exact .body (bounds.widen (by order) (le_refl _)) spread'' (le_refl _) (by order) (by order)
  · have reaches : cursor.Reaches here₆ := by
      refine .trans (.advance _) (.trans (.advance _) (.trans (.advance _) (reaches₃.trans ?_)))
      exact .trans (.advance _) (reaches₅.trans reaches₆)
    exact Cursor.bracketed reaches (by rw [word]; rfl) (by rw [closing]; rfl)

/-! ## Selections -/

/-- The names and the nested body of a part of a selection are arranged. -/
def TestPart.Arranged (lower upper : Position) : TestPart → Prop
  | .arm content =>
    Arrangement lower upper (content.values.flatMap Expr.marks) (Stmt.stretch content.body)
  | .default statements => Arrangement lower upper [] (Stmt.stretch statements)

theorem testPart_arranged :
    (testPart statement).Reads named cursor
      fun part behind => part.Arranged cursor.here behind.here := by
  unfold testPart
  apply Reads.take_bind
  intro opens closes
  split
  · apply Reads.bind (.gatherCommas Spread.additive expression_spreads)
    intro values here₁ passed₁ _ spread
    apply Reads.expect_bind (by decide)
    intro opens₂ closes₂
    apply Reads.bind (body_spreads inner _)
    intro statements here₃ passed₃ _ spread'
    apply Reads.pure
    show Arrangement cursor.here here₃.here (values.flatMap Expr.marks) (Stmt.stretch statements)
    exact .body (spread.widen (by order) (le_refl _)) spread' (by order) (by order) (by order)
  · apply Reads.expect_bind (by decide)
    intro opens₁ closes₁
    apply Reads.bind (body_spreads inner _)
    intro statements here₂ passed₂ _ spread
    apply Reads.pure
    show Arrangement cursor.here here₂.here [] (Stmt.stretch statements)
    have none : Spread cursor.here cursor.here [] := .nil
    exact .body none spread (by order) (by order) (by order)

theorem testParts_arranged {continues : TokenKind → Bool} :
    (repeatWhile continues (testPart statement)).Reads named cursor fun parts behind =>
      Arrangement cursor.here behind.here
        ((armsOf parts).flatMap fun arm => arm.values.flatMap Expr.marks)
        (((armsOf parts).flatMap fun arm => Stmt.stretch arm.body)
          ++ (defaultOf parts).toList.flatMap Stmt.stretch) := by
  apply Reads.repeatWhile_of fun (parts : List TestPart) here => Arrangement cursor.here here.here
    ((armsOf parts).flatMap fun arm => arm.values.flatMap Expr.marks)
    (((armsOf parts).flatMap fun arm => Stmt.stretch arm.body)
      ++ (defaultOf parts).toList.flatMap Stmt.stretch)
  · exact .of_spread .nil
  · intro parts here later before
    apply (testPart_arranged inner).mono
    intro part behind passed arranged
    cases part with
    | arm arm =>
        have arms' : armsOf (parts ++ [.arm arm]) = armsOf parts ++ [arm] := by simp [armsOf]
        have default' : defaultOf (parts ++ [.arm arm]) = defaultOf parts := by simp [defaultOf]
        have whole := before.append arranged (le_refl _) later passed
        rw [arms', default', List.flatMap_append, List.flatMap_singleton, List.flatMap_append,
          List.flatMap_singleton]
        apply whole.perm (.refl _)
        rw [List.append_assoc, List.append_assoc]
        exact List.perm_append_comm.append_left _
    | default body =>
        have arms' : armsOf (parts ++ [.default body]) = armsOf parts := by simp [armsOf]
        have default' : defaultOf (parts ++ [.default body]) = some body := by simp [defaultOf]
        -- Of several defaults the last one stays.
        have arms := before.sublist (.refl _) (List.sublist_append_left _ _)
        have whole := arms.append arranged (le_refl _) later passed
        rw [arms', default', Option.toList_some, List.flatMap_singleton]
        rwa [List.append_nil] at whole

theorem testStatement_placed :
    (testStatement statement).Reads named cursor fun value _ => value.Placed cursor.rest := by
  unfold testStatement
  apply Reads.take_bind
  intro opens closes
  apply Reads.bind (expression_spreads _)
  intro subject here₁ passed₁ _ spread
  apply Reads.bind (testParts_arranged inner)
  intro parts here₂ passed₂ _ arranged
  apply Reads.expect_bind (by decide)
  intro opens₃ closes₃
  apply Reads.pure
  rw [Cursor.merge_current (by order) (by order)]
  have whole := (Arrangement.of_spread spread).append arranged (le_refl _) passed₁ passed₂
  refine ⟨⟨here₂.here, opens₃, ?_⟩, trivial⟩
  rw [stretches_test, Stmt.marks, Stmt.expressions, List.flatMap_cons, List.flatMap_assoc]
  show Arrangement cursor.here here₂.here _ _
  exact whole.widen (by order) (le_refl _)

end Parts

/-! ## Statements without bodies -/

theorem optionalExpression_spreads {kind : TokenKind} :
    (optionalAfter kind expression).Reads named cursor fun found behind =>
      Spread cursor.here behind.here (found.toList.flatMap Expr.marks) :=
  .gatherOptional Spread.additive expression_spreads

theorem returnStatement_placed :
    returnStatement.Reads named cursor fun value _ => value.Placed cursor.rest := by
  unfold returnStatement
  apply Reads.take_bind
  intro opens closes
  have value : returnValue.Reads named cursor.advance fun found behind =>
      Spread cursor.advance.here behind.here (found.toList.flatMap Expr.marks) := by
    unfold returnValue
    apply Reads.peekKind_bind
    split
    iterate 3 exact .pure .nil
    apply Reads.bind (expression_spreads _)
    intro value behind _ _ spread
    apply Reads.pure
    rwa [Option.toList_some, List.flatMap_singleton]
  apply Reads.bind value
  intro value here passed _ spread
  apply Reads.expect_bind (by decide)
  intro opens₁ closes₁
  apply Reads.pure
  rw [Cursor.merge_current (by order) (by order)]
  refine ⟨⟨here.here, opens₁, .of_spread ?_⟩, trivial⟩
  exact spread.widen (show cursor.here ≤ _ by order) (le_refl _)

theorem optionalArgument_spreads : optionalArgument.Reads named cursor fun option behind =>
    Spread cursor.here behind.here (option.2.toList.flatMap Expr.marks) := by
  unfold optionalArgument
  apply Reads.take_bind
  intro opens closes
  apply Reads.expectName_bind
  intro opens₁ closes₁ _
  apply Reads.bind optionalExpression_spreads
  intro value behind _ _ spread
  exact .pure (spread.widen (by order) (le_refl _))

theorem marks_workObjectOf_sublist (options : List (Name × Option Expr)) :
    ((workObjectOf options).toList.flatMap Expr.marks).Sublist
      (options.flatMap fun option => option.2.toList.flatMap Expr.marks) := by
  cases chosen : workObjectOf options with
  | none => exact List.nil_sublist _
  | some value =>
      obtain ⟨option, member, found⟩ := workObjectOf_mem chosen
      have part := (List.singleton_sublist.mpr member).flatMap
        fun option : Name × Option Expr => option.2.toList.flatMap Expr.marks
      rw [List.flatMap_singleton, found] at part
      exact part

theorem moveStatement_placed :
    moveStatement.Reads named cursor fun value _ => value.Placed cursor.rest := by
  unfold moveStatement
  apply Reads.take_bind
  intro opens closes
  apply Reads.bind (expression_spreads _)
  intro target here₁ passed₁ _ spread₁
  apply Reads.expect_bind (by decide)
  intro opens₁ closes₁
  apply Reads.bind (expression_spreads _)
  intro speed here₂ passed₂ _ spread₂
  apply Reads.expect_bind (by decide)
  intro opens₂ closes₂
  apply Reads.bind (expression_spreads _)
  intro zone here₃ passed₃ _ spread₃
  apply Reads.expect_bind (by decide)
  intro opens₃ closes₃
  apply Reads.bind (expression_spreads _)
  intro tool here₄ passed₄ _ spread₄
  apply Reads.bind
  · exact .gatherWhile Spread.additive fun _ => optionalArgument_spreads
  intro options here₅ passed₅ _ spread₅
  apply Reads.expect_bind (by decide)
  intro opens₆ closes₆
  apply Reads.pure
  rw [Cursor.merge_current (by order) (by order)]
  have workObject := spread₅.sublist (marks_workObjectOf_sublist options)
  have operands := ((spread₁.append spread₂ (by order) (by order) (by order)).append spread₃
    (by order) (by order) (by order)).append spread₄ (by order) (by order) (by order)
  have whole := operands.append workObject (by order) (by order) (by order)
  have same : (Stmt.move ⟨motionOf cursor.current.kind, target, speed, zone, tool,
      workObjectOf options⟩ ⟨cursor.here, here₅.edge⟩).marks = target.marks ++ speed.marks ++
        zone.marks ++ tool.marks ++ (workObjectOf options).toList.flatMap Expr.marks := by
    simp [Stmt.marks, Stmt.expressions]
  refine ⟨⟨here₅.here, opens₆, .of_spread ?_⟩, trivial⟩
  rw [same]
  exact whole.widen (show cursor.here ≤ _ by order) (le_refl _)

theorem connectStatement_placed :
    connectStatement.Reads named cursor fun value _ => value.Placed cursor.rest := by
  unfold connectStatement
  apply Reads.take_bind
  intro opens closes
  apply Reads.expectName_bind
  intro opens₁ closes₁ trap
  apply Reads.expect_bind (by decide)
  intro opens₂ closes₂
  apply Reads.expectName_bind
  intro opens₃ closes₃ error
  apply Reads.expect_bind (by decide)
  intro opens₄ closes₄
  apply Reads.pure
  rw [Cursor.merge_current (by order) (by order)]
  exact ⟨⟨_, opens₄, .of_spread .nil⟩, trivial⟩

theorem raiseStatement_placed :
    raiseStatement.Reads named cursor fun value _ => value.Placed cursor.rest := by
  unfold raiseStatement
  apply Reads.take_bind
  intro opens closes
  apply Reads.expectName_bind
  intro opens₁ closes₁ error
  apply Reads.expect_bind (by decide)
  intro opens₂ closes₂
  apply Reads.pure
  rw [Cursor.merge_current (by order) (by order)]
  exact ⟨⟨_, opens₂, .of_spread .nil⟩, trivial⟩

/-- The names in the initial value of a data item stand apart, within its declaration. -/
theorem dataItem_spreads :
    dataItem.Reads named cursor fun result _ => ∃ upper, upper < result.2.stop ∧
      Spread result.2.start upper (result.1.initial.toList.flatMap Expr.marks) := by
  unfold dataItem
  apply Reads.take_bind
  intro opens closes
  apply Reads.expectName_bind
  intro opens₁ closes₁ type
  apply Reads.expectName_bind
  intro opens₂ closes₂ name
  apply Reads.bind optionalExpression_spreads
  intro initial here passed _ spread
  apply Reads.expect_bind (by decide)
  intro opens₃ closes₃
  apply Reads.pure
  rw [Cursor.merge_current (by order) (by order)]
  exact ⟨here.here, opens₃, spread.widen (show cursor.here ≤ _ by order) (le_refl _)⟩

/-! ## Statements that begin with an expression -/

theorem bareCall_spreads {value : Expr} (spread : Spread lower cursor.here value.marks)
    (below : lower ≤ cursor.here) :
    (bareCall value).Reads named cursor
      fun call behind => Spread lower behind.here call.marks := by
  unfold bareCall
  split
  next name =>
    apply Reads.peekKind_bind
    split
    · apply Reads.bind (.gatherCommas Spread.additive expression_spreads)
      intro arguments behind passed _ spread'
      apply Reads.pure
      rw [marks_call]
      exact spread.append spread' (le_refl _) below passed
    · exact .pure spread
  next => exact .pure spread

theorem simpleStatement_placed :
    simpleStatement.Reads named cursor fun value _ => value.Placed cursor.rest := by
  unfold simpleStatement
  apply Reads.peek_bind
  apply Reads.bind (expression_spreads _)
  intro target here₁ passed₁ edge₁ spread
  apply Reads.accept_bind
  · intro opens₂ closes₂
    apply Reads.bind (expression_spreads _)
    intro source here₃ passed₃ _ spread'
    apply Reads.expect_bind (by decide)
    intro opens₄ closes₄
    apply Reads.pure
    rw [Cursor.merge_current (by order) (by order)]
    have whole := spread.append spread' (by order) (by order) (by order)
    refine ⟨⟨here₃.here, opens₄, .of_spread ?_⟩, trivial⟩
    rwa [Stmt.marks, Stmt.expressions, List.flatMap_cons, List.flatMap_singleton]
  · apply Reads.bind (bareCall_spreads spread passed₁)
    intro call here₂ passed₂ edge₂ spread'
    apply Reads.expect_bind (by decide)
    intro opens₃ closes₃
    apply Reads.pure
    rw [Cursor.merge_current (by order) (by order)]
    refine ⟨⟨here₂.here, opens₃, .of_spread ?_⟩, trivial⟩
    rwa [Stmt.marks, Stmt.expressions, List.flatMap_singleton]

theorem statementWith_placed {statement : Reader Stmt} (inner : statement.ReadsNode named) :
    (statementWith statement).Reads named cursor fun value _ => value.Placed cursor.rest := by
  unfold statementWith
  apply Reads.peekKind_bind
  have data : (dataItem >>= fun result => pure (Stmt.data result.1 result.2)).Reads named cursor
      fun value _ => value.Placed cursor.rest := by
    apply Reads.bind dataItem_spreads
    rintro result _ _ _ ⟨upper, inside, spread⟩
    exact .pure ⟨⟨upper, inside, .of_spread spread⟩, trivial⟩
  split
  · exact conditional_placed inner
  · exact whileLoop_placed inner
  next word => exact forLoop_placed inner word
  · exact returnStatement_placed
  iterate 3 exact moveStatement_placed
  · exact testStatement_placed inner
  · exact connectStatement_placed
  · exact raiseStatement_placed
  iterate 3 exact data
  · exact simpleStatement_placed

end Parser

end RapidLang
