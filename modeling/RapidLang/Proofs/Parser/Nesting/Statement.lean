import RapidLang.Proofs.Parser.Nesting.Expression

/-!
# Statements with nested spans

Every reader of statements makes statements with nested spans from tokens that are laid out. The
span of a branch or an arm ends with its last statement, or before its body if that is empty.
-/

set_option autoImplicit false

namespace RapidLang

open Text

variable {named : Name → Prop} {lower upper : Position}

theorem Stmt.Nested.filled {statement : Stmt} (nested : statement.Nested named) :
    statement.span.Filled := by
  cases nested with
  | block lists _ => exact lists.1.1
  | assign holds _ _ => exact holds.1
  | expression holds _ => exact holds.1
  | conditional lists _ _ _ => exact lists.1.1
  | «while» holds _ _ _ => exact holds.1
  | «for» holds _ _ _ _ _ => exact holds.1
  | «return» filled _ => exact filled
  | move nested => exact nested.holds.1
  | test holds _ _ _ _ _ => exact holds.1
  | connect holds _ _ => exact holds.1
  | raise holds _ => exact holds.1
  | data nested => exact nested.holds.1

/-- A data item is read together with its span. -/
instance : Node (DataItem × Span) := ⟨Prod.snd, fun named result => result.1.Nested named result.2⟩

namespace Text.Span

variable {α : Type} (place : α → Span)

theorem within_foldl_merge (values : List α) (span : Span) :
    span.Within (values.foldl (fun span value => span.merge (place value)) span) ∧
      ∀ value ∈ values,
        (place value).Within (values.foldl (fun span value => span.merge (place value)) span) := by
  induction values generalizing span with
  | nil => exact ⟨.refl span, fun _ member => absurd member List.not_mem_nil⟩
  | cons first rest ih =>
      obtain ⟨whole, others⟩ := ih (span.merge (place first))
      rw [List.forall_mem_cons]
      exact ⟨(within_merge_left _ _).trans whole, (within_merge_right _ _).trans whole, others⟩

theorem foldl_merge_within {values : List α} {span outer : Span} (within : span.Within outer)
    (others : ∀ value ∈ values, (place value).Within outer) :
    (values.foldl (fun span value => span.merge (place value)) span).Within outer := by
  induction values generalizing span with
  | nil => exact within
  | cons first rest ih =>
      rw [List.forall_mem_cons] at others
      exact ih (merge_within within others.1) others.2

end Text.Span

namespace Parser

open Reader

section

variable {cursor here : Cursor} {statement : Reader Stmt}

theorem Cursor.merge_current (starts : cursor.here ≤ here.here) (stops : cursor.edge ≤ here.edge) :
    cursor.current.span.merge here.current.span = ⟨cursor.here, here.edge⟩ :=
  Span.merge_eq starts stops

theorem dataItem_reads : dataItem.ReadsNode named := by
  intro cursor
  unfold dataItem
  apply Reads.take_bind
  intro opens closes
  apply Reads.expectName_bind
  intro opens₁ closes₁ type
  apply Reads.expectName_bind
  intro opens₂ closes₂ name
  apply Reads.bind (.optional expression_reads)
  intro initial here passed _ value
  apply Reads.expect_bind (by decide)
  intro opens₃ closes₃
  apply Reads.pure
  rw [Cursor.merge_current (by order) (by order)]
  constructor
  · exact le_refl _
  · exact closes₃
  · constructor
    · exact .cons (type.within (by order) (by order)) <| .cons (name.within (by order) (by order)) <|
        .nil (show cursor.here < here.edge by order)
    · exact type.nested
    · exact name.nested
    · intro expression member
      have sits := value expression member
      exact ⟨sits.within (by order) (by order), sits.nested⟩

/-! ## Bodies, branches and arms -/

theorem body_reads (inner : statement.ReadsNode named) (closes : TokenKind → Bool) :
    (body statement closes).Reads named cursor
      fun values behind => SitAll named cursor.here behind.here values :=
  .repeatWhile inner

/-- The span of a body ends behind all of its statements; without any it is the other span. -/
theorem spanOfBody_covers {statements : List Stmt} {fallback : Span} (filled : fallback.Filled)
    (before : fallback.stop ≤ lower) (passed : lower ≤ upper)
    (all : SitAll named lower upper statements) :
    fallback.start ≤ (spanOfBody statements fallback).start ∧
      fallback.stop ≤ (spanOfBody statements fallback).stop ∧
      (spanOfBody statements fallback).stop ≤ upper ∧
      SitAll named lower (spanOfBody statements fallback).stop statements := by
  rcases statements.eq_nil_or_concat with rfl | ⟨front, last, rfl⟩
  · exact ⟨le_refl _, le_refl _, le_trans before passed, .nil⟩
  · rw [List.concat_eq_append] at all ⊢
    have sits := all.sits last (by simp)
    have filled' : last.span.start < last.span.stop := sits.nested.filled
    have below : lower ≤ last.span.start := sits.lower_le
    have same : spanOfBody (front ++ [last]) fallback = last.span := by simp [spanOfBody]
    rw [same]
    have filled'' : fallback.start < fallback.stop := filled
    exact ⟨by order, by order, sits.le_upper, all.upto_last filled'⟩

theorem branch_reads (inner : statement.ReadsNode named) :
    (branch statement).ReadsNode named := by
  intro cursor
  unfold branch
  apply Reads.take_bind
  intro opens closes
  apply Reads.bind (expression_reads _)
  intro condition here₁ passed₁ _ sits
  apply Reads.expect_bind (by decide)
  intro opens₂ closes₂
  apply Reads.bind (body_reads inner _)
  intro statements here₃ passed₃ _ all
  apply Reads.pure
  have below : cursor.advance.here ≤ condition.span.start := sits.lower_le
  have above : condition.span.stop ≤ here₁.here := sits.le_upper
  have filled : condition.span.start < condition.span.stop := sits.nested.filled
  obtain ⟨starts, stops, ends, within⟩ :=
    spanOfBody_covers filled (by order : _ ≤ here₁.advance.here) passed₃ all
  have merged : cursor.current.span.merge (spanOfBody statements condition.span) =
      ⟨cursor.here, (spanOfBody statements condition.span).stop⟩ :=
    Span.merge_eq (show cursor.here ≤ _ by order) (show cursor.edge ≤ _ by order)
  rw [merged]
  constructor
  · exact le_refl _
  · exact ends
  · apply Branch.Nested.mk
    · exact .cons ⟨show cursor.here ≤ _ by order, stops⟩ (.nil (show cursor.here < _ by order))
    · exact sits.nested
    · exact within.lists (by order) (by order) (le_refl _)
    · exact within.nested

/-! ## Conditionals and loops -/

theorem conditional_reads (inner : statement.ReadsNode named) :
    (conditional statement).ReadsNode named := by
  intro cursor
  unfold conditional
  apply Reads.peek_bind
  apply Reads.bind (branch_reads inner _)
  intro first here₁ passed₁ edge₁ sits
  apply Reads.bind (.repeatWhile (branch_reads inner))
  intro others here₂ passed₂ edge₂ all
  have bodies : (optionalAfter .else (body statement (· == .endIf))).Reads named here₂
      fun found behind => ∀ body ∈ found, SitAll named here₂.here behind.here body := by
    apply Reads.optionalAfter
    · intro later
      apply (body_reads inner _).mono
      rintro statements behind _ all' _ ⟨⟩
      exact all'.widen later (le_refl _)
    · exact fun _ member => nomatch member
  apply Reads.bind bodies
  intro otherwise here₃ passed₃ edge₃ bodies
  apply Reads.expect_bind (by decide)
  intro opens₄ closes₄
  apply Reads.pure
  have branches := (SitAll.one sits).append all passed₁ passed₂
  rw [Cursor.merge_current (by order) (by order)]
  constructor
  · exact le_refl _
  · exact closes₄
  · apply Stmt.Nested.conditional
    · exact branches.lists (by order) (by order) (by order)
    · exact branches.nested
    · exact fun body member => (bodies body member).lists (by order) (by order) (by order)
    · exact fun body member => (bodies body member).nested

theorem whileLoop_reads (inner : statement.ReadsNode named) :
    (whileLoop statement).ReadsNode named := by
  intro cursor
  unfold whileLoop
  apply Reads.take_bind
  intro opens closes
  apply Reads.bind (expression_reads _)
  intro condition here₁ passed₁ _ sits
  apply Reads.bind (body_reads inner _)
  intro statements here₂ passed₂ _ all
  apply Reads.expect_bind (by decide)
  intro opens₃ closes₃
  apply Reads.pure
  rw [Cursor.merge_current (by order) (by order)]
  constructor
  · exact le_refl _
  · exact closes₃
  · apply Stmt.Nested.while
    · exact .cons (sits.within (by order) (by order)) (.nil (show cursor.here < _ by order))
    · exact sits.nested
    · exact all.lists (by order) (by order) (by order)
    · exact all.nested

theorem forLoop_reads (inner : statement.ReadsNode named) :
    (forLoop statement).ReadsNode named := by
  intro cursor
  unfold forLoop
  apply Reads.take_bind
  intro opens closes
  apply Reads.expectName_bind
  intro opens₁ closes₁ counter
  apply Reads.expect_bind (by decide)
  intro opens₂ closes₂
  apply Reads.bind (expression_reads _)
  intro first here₃ passed₃ _ sits
  apply Reads.expect_bind (by decide)
  intro opens₄ closes₄
  apply Reads.bind (expression_reads _)
  intro last here₅ passed₅ _ sits'
  apply Reads.bind (body_reads inner _)
  intro statements here₆ passed₆ _ all
  apply Reads.expect_bind (by decide)
  intro opens₇ closes₇
  apply Reads.pure
  rw [Cursor.merge_current (by order) (by order)]
  constructor
  · exact le_refl _
  · exact closes₇
  · apply Stmt.Nested.for
    · exact .cons (counter.within (by order) (by order)) <| .cons (sits.within (by order) (by order)) <|
        .cons (sits'.within (by order) (by order)) <| .nil (show cursor.here < _ by order)
    · exact counter.nested
    · exact sits.nested
    · exact sits'.nested
    · exact all.lists (by order) (by order) (by order)
    · exact all.nested

/-! ## Returns and motions -/

theorem returnValue_reads : returnValue.Reads named cursor
    fun found behind => ∀ value ∈ found, Sits named cursor.here behind.here value := by
  unfold returnValue
  apply Reads.peekKind_bind
  split
  iterate 3 exact .pure fun _ member => nomatch member
  apply Reads.bind (expression_reads _)
  intro value behind _ _ sits
  apply Reads.pure
  rintro _ ⟨⟩
  exact sits

theorem returnStatement_reads : returnStatement.ReadsNode named := by
  intro cursor
  unfold returnStatement
  apply Reads.take_bind
  intro opens closes
  apply Reads.bind returnValue_reads
  intro value here passed _ found
  apply Reads.expect_bind (by decide)
  intro opens₁ closes₁
  apply Reads.pure
  rw [Cursor.merge_current (by order) (by order)]
  constructor
  · exact le_refl _
  · exact closes₁
  · apply Stmt.Nested.return
    · exact show cursor.here < here.edge by order
    · intro expression member
      have sits := found expression member
      exact ⟨sits.within (by order) (by order), sits.nested⟩

theorem optionalArgument_reads : optionalArgument.Reads named cursor
    fun option behind => ∀ value ∈ option.2, Sits named cursor.here behind.here value := by
  unfold optionalArgument
  apply Reads.take_bind
  intro opens closes
  apply Reads.expectName_bind
  intro opens₁ closes₁ _
  apply Reads.bind (.optional expression_reads)
  intro value behind _ _ found
  apply Reads.pure
  intro expression member
  exact (found expression member).widen (by order) (le_refl _)

theorem optionalArguments_reads :
    (repeatWhile (· == .backslash) optionalArgument).Reads named cursor fun options behind =>
      ∀ option ∈ options, ∀ value ∈ option.2, Sits named cursor.here behind.here value := by
  apply Reads.repeatWhile_of fun (options : List (Name × Option Expr)) here =>
    ∀ option ∈ options, ∀ value ∈ option.2, Sits named cursor.here here.here value
  · exact fun _ member => absurd member List.not_mem_nil
  · intro options here later before
    apply optionalArgument_reads.mono
    intro option behind passed sits option' member value found
    rcases List.mem_append.mp member with member | member
    · exact (before option' member value found).widen (le_refl _) passed
    · rw [List.mem_singleton.mp member] at found
      exact (sits value found).widen later (le_refl _)

theorem workObjectOf_mem {options : List (Name × Option Expr)} {value : Expr}
    (found : value ∈ workObjectOf options) : ∃ option ∈ options, value ∈ option.2 := by
  unfold workObjectOf at found
  split at found
  next _ name value last =>
    exact ⟨_, (List.mem_filter.mp (List.mem_of_getLast? last)).1, found⟩
  next => cases found

theorem moveStatement_reads : moveStatement.ReadsNode named := by
  intro cursor
  unfold moveStatement
  apply Reads.take_bind
  intro opens closes
  apply Reads.bind (expression_reads _)
  intro target here₁ passed₁ _ sits₁
  apply Reads.expect_bind (by decide)
  intro opens₁ closes₁
  apply Reads.bind (expression_reads _)
  intro speed here₂ passed₂ _ sits₂
  apply Reads.expect_bind (by decide)
  intro opens₂ closes₂
  apply Reads.bind (expression_reads _)
  intro zone here₃ passed₃ _ sits₃
  apply Reads.expect_bind (by decide)
  intro opens₃ closes₃
  apply Reads.bind (expression_reads _)
  intro tool here₄ passed₄ _ sits₄
  apply Reads.bind optionalArguments_reads
  intro options here₅ passed₅ _ found
  apply Reads.expect_bind (by decide)
  intro opens₆ closes₆
  apply Reads.pure
  rw [Cursor.merge_current (by order) (by order)]
  constructor
  · exact le_refl _
  · exact closes₆
  · apply Stmt.Nested.move
    constructor
    · exact .cons (sits₁.within (by order) (by order)) <| .cons (sits₂.within (by order) (by order)) <|
        .cons (sits₃.within (by order) (by order)) <| .cons (sits₄.within (by order) (by order)) <|
        .nil (show cursor.here < here₅.edge by order)
    · exact sits₁.nested
    · exact sits₂.nested
    · exact sits₃.nested
    · exact sits₄.nested
    · intro value member
      obtain ⟨option, member, held⟩ := workObjectOf_mem member
      have sits := found option member value held
      exact ⟨sits.within (by order) (by order), sits.nested⟩

/-! ## Selections -/

/-- What a part of a selection holds lies between two places, with nested spans. -/
def TestPart.Sits (named : Name → Prop) (lower upper : Position) : TestPart → Prop
  | .arm content => RapidLang.Sits named lower upper content
  | .default statements => SitAll named lower upper statements

theorem testPart_reads (inner : statement.ReadsNode named) :
    (testPart statement).Reads named cursor
      fun part behind => part.Sits named cursor.here behind.here := by
  unfold testPart
  apply Reads.take_bind
  intro opens closes
  split
  · apply Reads.bind (.commaSeparated expression_reads)
    intro values here₁ passed₁ _ all
    apply Reads.expect_bind (by decide)
    intro opens₂ closes₂
    apply Reads.bind (body_reads inner _)
    intro statements here₃ passed₃ _ all'
    apply Reads.pure
    obtain ⟨starts, stops, ends, within⟩ :=
      spanOfBody_covers (show here₁.current.span.Filled from opens₂) closes₂ passed₃ all'
    generalize spanOfBody statements here₁.current.span = span at starts stops ends within ⊢
    replace starts : here₁.here ≤ span.start := starts
    replace stops : here₁.edge ≤ span.stop := stops
    have merged : cursor.current.span.merge span = ⟨cursor.here, span.stop⟩ :=
      Span.merge_eq (show cursor.here ≤ _ by order) (show cursor.edge ≤ _ by order)
    rw [merged]
    constructor
    · exact le_refl _
    · exact ends
    · apply Arm.Nested.mk
      · exact all.lists (by order) (by order) (by order)
      · exact all.nested
      · exact within.lists (by order) (by order) (le_refl _)
      · exact within.nested
  · apply Reads.expect_bind (by decide)
    intro opens₁ closes₁
    apply Reads.bind (body_reads inner _)
    intro statements here₂ _ _ all
    exact .pure (SitAll.widen all (by order) (le_refl _))

/-- The arms of a selection stand in order, and its default holds statements in order. -/
theorem testParts_reads (inner : statement.ReadsNode named) {continues : TokenKind → Bool} :
    (repeatWhile continues (testPart statement)).Reads named cursor fun parts behind =>
      SitAll named cursor.here behind.here (armsOf parts) ∧
        ∀ body ∈ defaultOf parts, SitAll named cursor.here behind.here body := by
  apply Reads.repeatWhile_of fun (parts : List TestPart) here =>
    SitAll named cursor.here here.here (armsOf parts) ∧
      ∀ body ∈ defaultOf parts, SitAll named cursor.here here.here body
  · exact ⟨.nil, fun _ member => nomatch member⟩
  · rintro parts here later ⟨arms, default⟩
    apply (testPart_reads inner).mono
    intro part behind passed sits
    cases part with
    | arm arm =>
        have arms' : armsOf (parts ++ [.arm arm]) = armsOf parts ++ [arm] := by simp [armsOf]
        have default' : defaultOf (parts ++ [.arm arm]) = defaultOf parts := by simp [defaultOf]
        rw [arms', default']
        exact ⟨arms.append (.one sits) later passed,
          fun body member => (default body member).widen (le_refl _) passed⟩
    | default body =>
        have arms' : armsOf (parts ++ [.default body]) = armsOf parts := by simp [armsOf]
        have default' : defaultOf (parts ++ [.default body]) = some body := by simp [defaultOf]
        rw [arms', default']
        refine ⟨arms.widen (le_refl _) passed, ?_⟩
        rintro _ ⟨⟩
        exact SitAll.widen sits later (le_refl _)

theorem testStatement_reads (inner : statement.ReadsNode named) :
    (testStatement statement).ReadsNode named := by
  intro cursor
  unfold testStatement
  apply Reads.take_bind
  intro opens closes
  apply Reads.bind (expression_reads _)
  intro subject here₁ passed₁ _ sits
  apply Reads.bind (testParts_reads inner)
  rintro parts here₂ passed₂ _ ⟨arms, default⟩
  apply Reads.expect_bind (by decide)
  intro opens₃ closes₃
  apply Reads.pure
  rw [Cursor.merge_current (by order) (by order)]
  constructor
  · exact le_refl _
  · exact closes₃
  · apply Stmt.Nested.test
    · exact .cons (sits.within (by order) (by order)) (.nil (show cursor.here < _ by order))
    · exact sits.nested
    · exact arms.lists (by order) (by order) (by order)
    · exact arms.nested
    · exact fun body member => (default body member).lists (by order) (by order) (by order)
    · exact fun body member => (default body member).nested

/-! ## Errors -/

theorem connectStatement_reads : connectStatement.ReadsNode named := by
  intro cursor
  unfold connectStatement
  apply Reads.take_bind
  intro opens closes
  apply Reads.expectName_bind
  intro opens₁ closes₁ trap
  apply Reads.expect_bind (by decide)
  intro opens₂ closes₂
  apply Reads.expectName_bind
  intro opens₃ closes₃ error
  apply Reads.expect_bind (by decide)
  intro opens₄ closes₄
  apply Reads.pure
  rw [Cursor.merge_current (by order) (by order)]
  constructor
  · exact le_refl _
  · exact closes₄
  · apply Stmt.Nested.connect
    · exact .cons (trap.within (by order) (by order)) <| .cons (error.within (by order) (by order)) <|
        .nil (show cursor.here < Cursor.edge _ by order)
    · exact trap.nested
    · exact error.nested

theorem raiseStatement_reads : raiseStatement.ReadsNode named := by
  intro cursor
  unfold raiseStatement
  apply Reads.take_bind
  intro opens closes
  apply Reads.expectName_bind
  intro opens₁ closes₁ error
  apply Reads.expect_bind (by decide)
  intro opens₂ closes₂
  apply Reads.pure
  rw [Cursor.merge_current (by order) (by order)]
  constructor
  · exact le_refl _
  · exact closes₂
  · apply Stmt.Nested.raise
    · exact .cons (error.within (by order) (by order)) (.nil (show cursor.here < Cursor.edge _ by order))
    · exact error.nested

/-! ## Statements that begin with an expression -/

theorem bareCall_reads {value : Expr} (sits : Sits named lower cursor.here value) :
    (bareCall value).Reads named cursor
      fun call behind => Sits named lower behind.here call := by
  unfold bareCall
  split
  next name =>
    apply Reads.peekKind_bind
    split
    · apply Reads.bind (.commaSeparated expression_reads)
      intro arguments behind passed _ all
      apply Reads.pure
      have routine := Sits.variable_iff.mp sits
      have below : lower ≤ cursor.here :=
        le_trans routine.lower_le (le_trans (le_of_lt routine.nested.1) routine.le_upper)
      obtain ⟨held, arguments'⟩ := Span.within_foldl_merge Expr.span arguments name.span
      have within := Span.foldl_merge_within Expr.span
        (routine.within (le_refl _) passed)
        (fun value member => (all.sits value member).within below (le_refl behind.here))
      refine ⟨within.1, within.2, .call (.cons held (.nil ?_)) routine.nested ⟨⟨?_, ?_⟩, all.ordered⟩
        all.nested⟩
      · exact routine.nested.1.mono held
      · exact routine.nested.1.mono held
      · exact List.forall_mem_map.mpr arguments'
    · exact .pure sits
  next => exact .pure sits

theorem simpleStatement_reads : simpleStatement.ReadsNode named := by
  intro cursor
  unfold simpleStatement
  apply Reads.peek_bind
  apply Reads.bind (expression_reads _)
  intro target here₁ passed₁ edge₁ sits
  apply Reads.accept_bind
  · intro opens₂ closes₂
    apply Reads.bind (expression_reads _)
    intro source here₃ passed₃ _ sits'
    apply Reads.expect_bind (by decide)
    intro opens₄ closes₄
    apply Reads.pure
    rw [Cursor.merge_current (by order) (by order)]
    constructor
    · exact le_refl _
    · exact closes₄
    · apply Stmt.Nested.assign
      · exact .cons (sits.within (by order) (by order)) <| .cons (sits'.within (by order) (by order)) <|
          .nil (show cursor.here < here₃.edge by order)
      · exact sits.nested
      · exact sits'.nested
  · apply Reads.bind (bareCall_reads sits)
    intro call here₂ passed₂ edge₂ sits'
    apply Reads.expect_bind (by decide)
    intro opens₃ closes₃
    apply Reads.pure
    rw [Cursor.merge_current (by order) (by order)]
    constructor
    · exact le_refl _
    · exact closes₃
    · apply Stmt.Nested.expression
      · exact .cons (sits'.within (by order) (by order)) (.nil (show cursor.here < here₂.edge by order))
      · exact sits'.nested

theorem statementWith_reads (inner : statement.ReadsNode named) :
    (statementWith statement).ReadsNode named := by
  intro cursor
  unfold statementWith
  apply Reads.peekKind_bind
  have data : (dataItem >>= fun result => pure (Stmt.data result.1 result.2)).Reads named cursor
      fun value behind => Sits named cursor.here behind.here value := by
    apply Reads.bind (dataItem_reads cursor)
    intro result behind _ _ sits
    exact .pure ⟨sits.lower_le, sits.le_upper, .data sits.nested⟩
  split
  · exact conditional_reads inner cursor
  · exact whileLoop_reads inner cursor
  · exact forLoop_reads inner cursor
  · exact returnStatement_reads cursor
  iterate 3 exact moveStatement_reads cursor
  · exact testStatement_reads inner cursor
  · exact connectStatement_reads cursor
  · exact raiseStatement_reads cursor
  iterate 3 exact data
  · exact simpleStatement_reads cursor

end

/-- A statement lies where its tokens are, with nested spans. -/
theorem statement_reads : statement.ReadsNode named :=
  Reads.knot fun _ inner => statementWith_reads inner

end Parser

end RapidLang
