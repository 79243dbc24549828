import RapidLang.Proofs.Parser.Progress

/-!
# Loops that end

A reader may loop only for as long as each round takes a token: the loop of `Reader.steps` makes a
round without one its last. No loop of the parser depends on that. Each of its rounds takes a token
and none begins at the end of input, so there are no more rounds than tokens left.
-/

set_option autoImplicit false

namespace RapidLang.Parser

open Reader

variable {α β : Type}

/-! ## One loop -/

/-- The outcome of a loop that goes on for as long as the next token admits a round, no matter what
a round takes, and the number of its rounds. -/
inductive Rounds (continues : TokenKind → Bool) (step : α → Reader α) :
    Nat → α → Cursor → Outcome α → Prop where
  | stop {value : α} {cursor : Cursor} :
      continues cursor.kind = false → Rounds continues step 0 value cursor (.ok (value, cursor))
  | fail {value : α} {cursor : Cursor} {failure : SyntaxError × Cursor} :
      continues cursor.kind → (step value).run cursor = .error failure →
      Rounds continues step 1 value cursor (.error failure)
  | next {rounds : Nat} {value next : α} {cursor behind : Cursor} {outcome : Outcome α} :
      continues cursor.kind → (step value).run cursor = .ok (next, behind) →
      Rounds continues step rounds next behind outcome →
      Rounds continues step (rounds + 1) value cursor outcome

/-- Wherever the loop begins, it ends after no more rounds than tokens are left there. -/
def LoopEnds (continues : TokenKind → Bool) (step : α → Reader α) : Prop :=
  ∀ value cursor, ∃ rounds ≤ cursor.left,
    Rounds continues step rounds value cursor ((Reader.steps continues step value).run cursor)

theorem LoopEnds.of_advances {continues : TokenKind → Bool} {step : α → Reader α}
    (stops : continues .endOfInput = false)
    (each : ∀ value cursor, continues cursor.kind → cursor.kind ≠ .endOfInput →
      (step value).Advances cursor) : LoopEnds continues step := by
  intro value cursor
  -- The induction is on the tokens left, of which every round takes one.
  induction size : cursor.left using Nat.strongRecOn generalizing value cursor with
  | ind size ih =>
      subst size
      by_cases admitted : continues cursor.kind
      · have inside : cursor.kind ≠ .endOfInput := by
          intro finished
          rw [finished, stops] at admitted
          cases admitted
        have some := Cursor.left_pos inside
        cases here : (step value).run cursor with
        | error failure =>
            rw [run_steps_of_error admitted here]
            exact ⟨1, some, .fail admitted here⟩
        | ok result =>
            have shorter := each value cursor admitted inside _ _ here
            obtain ⟨rounds, few, ends⟩ := ih _ shorter result.1 result.2 rfl
            rw [run_steps_of_ok admitted here shorter]
            exact ⟨rounds + 1, Nat.lt_of_le_of_lt few shorter, .next admitted here ends⟩
      · have stop : continues cursor.kind = false := by simpa using admitted
        rw [run_steps_of_stop stop]
        exact ⟨0, Nat.zero_le _, .stop stop⟩

/-! ## All loops of a reader -/

/-- The reader is put together from readers of single tokens, one behind the other, in loops that
end, and by recursion. -/
inductive Reader.LoopsEnd : {α : Type} → Reader α → Prop where
  | pure {α : Type} {value : α} : LoopsEnd (Pure.pure value)
  | fail {α : Type} {fault : Fault} : LoopsEnd (Parser.fail fault : Reader α)
  | peek : LoopsEnd Parser.peek
  | peekFollowing : LoopsEnd Parser.peekFollowing
  | take : LoopsEnd Parser.take
  | bind {α β : Type} {reader : Reader β} {next : β → Reader α} :
      LoopsEnd reader → (∀ value, LoopsEnd (next value)) → LoopsEnd (reader >>= next)
  | require {α : Type} {fault : Fault} {reader : Reader (Option α)} :
      LoopsEnd reader → LoopsEnd (Reader.require fault reader)
  | steps {α : Type} {continues : TokenKind → Bool} {step : α → Reader α} {value : α} :
      LoopEnds continues step → (∀ value, LoopsEnd (step value)) →
      LoopsEnd (Reader.steps continues step value)
  | delay {α : Type} {reader : Unit → Reader α} :
      LoopsEnd (reader ()) → LoopsEnd (Reader.delay reader)
  | knot {α : Type} {fault : Fault} {step : Reader α → Reader α} :
      (∀ depth, LoopsEnd (Reader.unroll fault step depth)) → LoopsEnd (Reader.knot fault step)

namespace Reader.LoopsEnd

theorem peekKind : Parser.peekKind.LoopsEnd :=
  .bind .peek fun _ => .pure

theorem takeAs {fault : Fault} {meaning? : Token → Option α} :
    (Parser.takeAs fault meaning?).LoopsEnd :=
  .require (.bind .take fun _ => .pure)

theorem accept {kind : TokenKind} : (Parser.accept kind).LoopsEnd := by
  refine .bind .peekKind fun _ => ?_
  split
  · exact .bind .take fun _ => .pure
  · exact .pure

theorem expect {kind : TokenKind} : (Parser.expect kind).LoopsEnd := by
  refine .bind .peekKind fun _ => ?_
  split
  · exact .take
  · exact .fail

theorem expectName {role : NameRole} : (Parser.expectName role).LoopsEnd := by
  refine .bind .peekKind fun _ => ?_
  split
  · exact .bind .take fun _ => .pure
  · exact .fail

theorem optionalAfter {kind : TokenKind} {item : Reader α} (inner : item.LoopsEnd) :
    (Parser.optionalAfter kind item).LoopsEnd := by
  refine .bind .accept fun _ => ?_
  split
  · exact .bind inner fun _ => .pure
  · exact .pure

theorem repeatWhile {continues : TokenKind → Bool} {item : Reader α} (inner : item.LoopsEnd)
    (stops : continues .endOfInput = false)
    (each : ∀ cursor : Cursor, cursor.kind ≠ .endOfInput → item.Advances cursor) :
    (Parser.repeatWhile continues item).LoopsEnd := by
  have ends : LoopEnds continues fun items : List α => do return (← item) :: items :=
    .of_advances stops fun _ cursor _ inside => .bind (each cursor inside)
  exact .bind (.steps ends fun _ => .bind inner fun _ => .pure) fun _ => .pure

/-- A repetition of one kind of token and what is read behind it. -/
theorem repeatAfter {kind : TokenKind} {next : Token → Reader α} (inside : kind ≠ .endOfInput)
    (inner : ∀ token, (next token).LoopsEnd) :
    (Parser.repeatWhile (· == kind) (Parser.take >>= next)).LoopsEnd :=
  .repeatWhile (.bind .take inner) (beq_false_of_ne inside.symm) fun _ inside =>
    .bind (.take inside)

theorem commaSeparated {item : Reader α} (inner : item.LoopsEnd) :
    (Parser.commaSeparated item).LoopsEnd :=
  .bind inner fun _ => .bind (.repeatAfter (by decide) fun _ => inner) fun _ => .pure

/-- The readers inside a recursive one end their loops and take a token, so the step may rely on
both. -/
theorem recursion {fault : Fault} {step : Reader α → Reader α}
    (advances : ∀ reader cursor, (step reader).Advances cursor)
    (kept : ∀ reader : Reader α, reader.LoopsEnd → (∀ cursor, reader.Advances cursor) →
      (step reader).LoopsEnd) : (Reader.knot fault step).LoopsEnd := by
  have inner : ∀ depth, (Reader.unroll fault step depth).LoopsEnd ∧
      ∀ cursor, (Reader.unroll fault step depth).Advances cursor := by
    intro depth
    induction depth with
    | zero => exact ⟨.fail, fun _ => .fail⟩
    | succ depth ih => exact ⟨.delay (kept _ ih.1 ih.2), advances _⟩
  exact .knot fun depth => (inner depth).1

end Reader.LoopsEnd

/-! ## Expressions -/

section Expressions

variable {inner : Reader Expr}

theorem operation_loopsEnd {operator? : TokenKind → Option BinaryOperator} {operand : Reader Expr}
    (ends : operand.LoopsEnd) (left : Expr) : (operation operator? operand left).LoopsEnd := by
  refine .bind .take fun _ => .bind ends fun _ => ?_
  split
  · exact .pure
  · exact .pure

theorem level_loopsEnd {operator? : TokenKind → Option BinaryOperator} {operand : Reader Expr}
    (none : operator? .endOfInput = none) (ends : operand.LoopsEnd) :
    (level operator? operand).LoopsEnd := by
  have loop : LoopEnds (fun kind => (operator? kind).isSome) (operation operator? operand) :=
    .of_advances (Option.isSome_eq_false_iff.mpr (Option.isNone_iff_eq_none.mpr none))
      fun _ _ _ inside => .bind (.take inside)
  exact .bind ends fun _ => .steps loop (operation_loopsEnd ends)

theorem arguments_loopsEnd (ends : inner.LoopsEnd) : (arguments inner).LoopsEnd := by
  refine .bind .peekKind fun _ => ?_
  split
  · exact .pure
  · exact .commaSeparated ends

theorem componentSuffix_loopsEnd (base : Expr) : (componentSuffix base).LoopsEnd := by
  refine .bind .take fun _ => .bind .peekKind fun _ => ?_
  split
  · exact .bind .takeAs fun _ => .pure
  · exact .fail

theorem suffix_loopsEnd (ends : inner.LoopsEnd) (base : Expr) : (suffix inner base).LoopsEnd := by
  refine .bind .peekKind fun _ => ?_
  split
  · split
    · exact .bind .take fun _ => .bind (arguments_loopsEnd ends) fun _ =>
        .bind .expect fun _ => .pure
    · exact .fail
  · exact .bind .take fun _ => .bind ends fun _ => .bind .expect fun _ => .pure
  · exact componentSuffix_loopsEnd base
  · exact .pure

theorem headNames_loopsEnd : headNames.LoopsEnd :=
  .require (.bind .take fun _ => .bind .peekKind fun _ => .pure)

theorem chainHead_loopsEnd : chainHead.LoopsEnd :=
  .require (.bind headNames_loopsEnd fun _ => .pure)

theorem nameChain_loopsEnd (ends : inner.LoopsEnd) : (nameChain inner).LoopsEnd := by
  have loop : LoopEnds startsSuffix (suffix inner) :=
    .of_advances rfl fun _ _ => suffix_advances
  exact .bind chainHead_loopsEnd fun _ => .steps loop (suffix_loopsEnd ends)

theorem primary_loopsEnd (ends : inner.LoopsEnd) : (primary inner).LoopsEnd := by
  refine .bind .peekKind fun _ => ?_
  split
  · exact .takeAs
  · exact .bind .take fun _ => .pure
  · exact .bind .take fun _ => .pure
  · exact .bind .take fun _ => .pure
  · exact .bind .take fun _ => .bind ends fun _ => .bind .expect fun _ => .pure
  · exact nameChain_loopsEnd ends
  · exact .fail

theorem unary_loopsEnd (ends : inner.LoopsEnd) : (unary inner).LoopsEnd := by
  have signs : (repeatWhile (fun kind => (unaryOperator? kind).isSome) take).LoopsEnd :=
    .repeatWhile .take rfl fun _ => .take
  exact .bind signs fun _ => .bind (primary_loopsEnd ends) fun _ => .pure

theorem expressionWith_loopsEnd (ends : inner.LoopsEnd) : (expressionWith inner).LoopsEnd := by
  unfold expressionWith
  iterate 6 refine level_loopsEnd rfl ?_
  exact unary_loopsEnd ends

theorem expression_loopsEnd : expression.LoopsEnd :=
  .recursion (fun inner _ => expressionWith_advances inner) fun _ ends _ =>
    expressionWith_loopsEnd ends

end Expressions

/-! ## Statements -/

theorem dataItem_loopsEnd : dataItem.LoopsEnd :=
  .bind .take fun _ => .bind .expectName fun _ => .bind .expectName fun _ =>
    .bind (.optionalAfter expression_loopsEnd) fun _ => .bind .expect fun _ => .pure

theorem returnStatement_loopsEnd : returnStatement.LoopsEnd := by
  have value : returnValue.LoopsEnd := by
    refine .bind .peekKind fun _ => ?_
    split
    · exact .pure
    · exact .pure
    · exact .pure
    · exact .bind expression_loopsEnd fun _ => .pure
  exact .bind .take fun _ => .bind value fun _ => .bind .expect fun _ => .pure

theorem moveStatement_loopsEnd : moveStatement.LoopsEnd := by
  have options : (repeatWhile (· == .backslash) optionalArgument).LoopsEnd :=
    .repeatAfter (by decide) fun _ => .bind .expectName fun _ =>
      .bind (.optionalAfter expression_loopsEnd) fun _ => .pure
  exact .bind .take fun _ => .bind expression_loopsEnd fun _ => .bind .expect fun _ =>
    .bind expression_loopsEnd fun _ => .bind .expect fun _ => .bind expression_loopsEnd fun _ =>
    .bind .expect fun _ => .bind expression_loopsEnd fun _ => .bind options fun _ =>
    .bind .expect fun _ => .pure

theorem connectStatement_loopsEnd : connectStatement.LoopsEnd :=
  .bind .take fun _ => .bind .expectName fun _ => .bind .expect fun _ => .bind .expectName fun _ =>
    .bind .expect fun _ => .pure

theorem raiseStatement_loopsEnd : raiseStatement.LoopsEnd :=
  .bind .take fun _ => .bind .expectName fun _ => .bind .expect fun _ => .pure

theorem bareCall_loopsEnd (value : Expr) : (bareCall value).LoopsEnd := by
  unfold bareCall
  split
  · refine .bind .peekKind fun _ => ?_
    split
    · exact .bind (.commaSeparated expression_loopsEnd) fun _ => .pure
    · exact .pure
  · exact .pure

theorem simpleStatement_loopsEnd : simpleStatement.LoopsEnd := by
  refine .bind .peek fun _ => .bind expression_loopsEnd fun value => .bind .accept fun _ => ?_
  split
  · exact .bind expression_loopsEnd fun _ => .bind .expect fun _ => .pure
  · exact .bind (bareCall_loopsEnd value) fun _ => .bind .expect fun _ => .pure

section Bodies

variable {inner : Reader Stmt} (ends : inner.LoopsEnd) (each : ∀ cursor, inner.Advances cursor)

include ends each

theorem body_loopsEnd {closes : TokenKind → Bool} : (body inner closes).LoopsEnd :=
  .repeatWhile ends (by simp) fun cursor _ => each cursor

theorem branch_loopsEnd : (branch inner).LoopsEnd :=
  .bind .take fun _ => .bind expression_loopsEnd fun _ => .bind .expect fun _ =>
    .bind (body_loopsEnd ends each) fun _ => .pure

theorem conditional_loopsEnd : (conditional inner).LoopsEnd := by
  have first := branch_loopsEnd ends each
  have others : (repeatWhile (· == .elseIf) (branch inner)).LoopsEnd :=
    .repeatWhile first rfl fun _ inside => .bind (.take inside)
  exact .bind .peek fun _ => .bind first fun _ => .bind others fun _ =>
    .bind (.optionalAfter (body_loopsEnd ends each)) fun _ => .bind .expect fun _ => .pure

theorem whileLoop_loopsEnd : (whileLoop inner).LoopsEnd :=
  .bind .take fun _ => .bind expression_loopsEnd fun _ => .bind (body_loopsEnd ends each) fun _ =>
    .bind .expect fun _ => .pure

theorem forLoop_loopsEnd : (forLoop inner).LoopsEnd :=
  .bind .take fun _ => .bind .expectName fun _ => .bind .expect fun _ =>
    .bind expression_loopsEnd fun _ => .bind .expect fun _ => .bind expression_loopsEnd fun _ =>
    .bind (body_loopsEnd ends each) fun _ => .bind .expect fun _ => .pure

theorem testPart_loopsEnd : (testPart inner).LoopsEnd := by
  have statements : (body inner closesArm).LoopsEnd := body_loopsEnd ends each
  refine .bind .take fun _ => ?_
  split
  · exact .bind (.commaSeparated expression_loopsEnd) fun _ => .bind .expect fun _ =>
      .bind statements fun _ => .pure
  · exact .bind .expect fun _ => .bind statements fun _ => .pure

theorem testStatement_loopsEnd : (testStatement inner).LoopsEnd := by
  have parts : (repeatWhile (fun kind => kind == .case || kind == .default)
      (testPart inner)).LoopsEnd :=
    .repeatWhile (testPart_loopsEnd ends each) rfl fun _ inside => .bind (.take inside)
  exact .bind .take fun _ => .bind expression_loopsEnd fun _ => .bind parts fun _ =>
    .bind .expect fun _ => .pure

theorem statementWith_loopsEnd : (statementWith inner).LoopsEnd := by
  refine .bind .peekKind fun _ => ?_
  split
  · exact conditional_loopsEnd ends each
  · exact whileLoop_loopsEnd ends each
  · exact forLoop_loopsEnd ends each
  · exact returnStatement_loopsEnd
  · exact moveStatement_loopsEnd
  · exact moveStatement_loopsEnd
  · exact moveStatement_loopsEnd
  · exact testStatement_loopsEnd ends each
  · exact connectStatement_loopsEnd
  · exact raiseStatement_loopsEnd
  · exact .bind dataItem_loopsEnd fun _ => .pure
  · exact .bind dataItem_loopsEnd fun _ => .pure
  · exact .bind dataItem_loopsEnd fun _ => .pure
  · exact simpleStatement_loopsEnd

end Bodies

theorem statement_loopsEnd : statement.LoopsEnd :=
  .recursion (fun inner _ => statementWith_advances inner) fun _ => statementWith_loopsEnd

/-! ## Programs -/

theorem statements_loopsEnd {closes : TokenKind → Bool} : (body statement closes).LoopsEnd :=
  body_loopsEnd statement_loopsEnd fun _ => statement_advances

theorem parameter_loopsEnd : parameter.LoopsEnd := by
  have mode : takeMode.LoopsEnd := by
    refine .bind .peek fun _ => .bind .peekFollowing fun _ => ?_
    dsimp only
    split
    · exact .pure
    · exact .bind .take fun _ => .pure
  exact .bind .peek fun _ => .bind mode fun _ => .bind .expectName fun _ =>
    .bind .expectName fun _ => .pure

theorem parameters_loopsEnd : parameters.LoopsEnd := by
  have list : parameterList.LoopsEnd := by
    refine .bind .peekKind fun _ => ?_
    split
    · exact .pure
    · exact .commaSeparated parameter_loopsEnd
  refine .bind .accept fun _ => ?_
  split
  · exact .bind list fun _ => .bind .expect fun _ => .pure
  · exact .pure

theorem component_loopsEnd : component.LoopsEnd :=
  .bind .expectName fun _ => .bind .expectName fun _ => .pure

theorem componentList_loopsEnd : componentList.LoopsEnd := by
  have optional : optionalComponent.LoopsEnd := by
    refine .bind .peekKind fun _ => ?_
    split
    · exact .pure
    · exact .bind component_loopsEnd fun _ => .pure
  refine .bind optional fun _ => ?_
  split
  · exact .pure
  · exact .bind (.repeatAfter (by decide) fun _ => optional) fun _ => .pure

theorem recordDeclaration_loopsEnd : recordDeclaration.LoopsEnd := by
  refine .bind .take fun _ => .bind .expectName fun _ => .bind .accept fun _ => ?_
  split
  · exact .bind componentList_loopsEnd fun _ => .bind .expect fun _ => .bind .expect fun _ => .pure
  · refine .bind (.repeatWhile ?_ rfl fun _ _ => .bind component_advances) fun _ =>
      .bind .expect fun _ => .pure
    exact .bind component_loopsEnd fun _ => .bind .expect fun _ => .pure

theorem procDeclaration_loopsEnd : procDeclaration.LoopsEnd :=
  .bind .take fun _ => .bind .expectName fun _ => .bind parameters_loopsEnd fun _ =>
    .bind statements_loopsEnd fun _ => .bind .expect fun _ => .pure

theorem funcDeclaration_loopsEnd : funcDeclaration.LoopsEnd :=
  .bind .take fun _ => .bind .expectName fun _ => .bind .expectName fun _ =>
    .bind parameters_loopsEnd fun _ => .bind statements_loopsEnd fun _ =>
    .bind .expect fun _ => .pure

theorem trapDeclaration_loopsEnd : trapDeclaration.LoopsEnd :=
  .bind .take fun _ => .bind .expectName fun _ => .bind statements_loopsEnd fun _ =>
    .bind .expect fun _ => .pure

theorem declaration_loopsEnd : declaration.LoopsEnd := by
  refine .bind .peekKind fun _ => ?_
  split
  · exact .bind dataItem_loopsEnd fun _ => .pure
  · exact .bind dataItem_loopsEnd fun _ => .pure
  · exact .bind dataItem_loopsEnd fun _ => .pure
  · exact procDeclaration_loopsEnd
  · exact funcDeclaration_loopsEnd
  · exact recordDeclaration_loopsEnd
  · exact trapDeclaration_loopsEnd
  · exact .fail

theorem module_loopsEnd : «module».LoopsEnd := by
  have declarations : (repeatWhile (fun kind => kind != .endModule && kind != .endOfInput)
      declaration).LoopsEnd :=
    .repeatWhile declaration_loopsEnd rfl fun _ _ => declaration_advances
  exact .bind .expect fun _ => .bind .expectName fun _ => .bind declarations fun _ =>
    .bind .expect fun _ => .pure

theorem program_loopsEnd : program.LoopsEnd :=
  .bind .peek fun _ =>
    .bind (.repeatWhile module_loopsEnd rfl fun _ _ => module_advances) fun _ => .pure

end RapidLang.Parser
