import RapidLang.Proofs.Parser.Nesting.Basic
import RapidLang.Proofs.Parser.Phrases.Expression

/-!
# Expressions with nested spans

Every reader of expressions makes expressions with nested spans from tokens that are laid out.
-/

set_option autoImplicit false

namespace RapidLang

open Text

variable {named : Name → Prop} {lower middle upper : Position}

theorem Expr.Nested.filled {expression : Expr} (nested : expression.Nested named) :
    expression.span.Filled := by
  cases nested with
  | number filled => exact filled
  | truth filled => exact filled
  | string filled => exact filled
  | «variable» name => exact name.1
  | index holds _ _ => exact holds.1
  | component holds _ _ => exact holds.1
  | call holds _ _ _ => exact holds.1
  | unary holds _ => exact holds.1
  | binary lists _ _ => exact lists.1.1

namespace Sits

/-- Operands that follow each other are the operands of an operation. -/
theorem join {left right : Expr} (operator : BinaryOperator)
    (first : Sits named lower middle left) (second : Sits named middle upper right) :
    Sits named lower upper (left.join operator right) := by
  have filled : left.span.start < left.span.stop := first.nested.filled
  have filled' : right.span.start < right.span.stop := second.nested.filled
  have below : lower ≤ left.span.start := first.lower_le
  have above : right.span.stop ≤ upper := second.le_upper
  have between : left.span.stop ≤ right.span.start := le_trans first.le_upper second.lower_le
  have merged : left.span.merge right.span = ⟨left.span.start, right.span.stop⟩ :=
    Span.merge_eq (by order) (by order)
  have holds : (left.span.merge right.span).Lists [left.span, right.span] := by
    refine ⟨.cons (Span.within_merge_left _ _) (.cons (Span.within_merge_right _ _) (.nil ?_)), ?_⟩
    · exact first.nested.filled.merge_left
    · exact List.pairwise_pair.mpr between
  constructor
  · show lower ≤ (left.span.merge right.span).start
    rw [merged]
    exact below
  · show (left.span.merge right.span).stop ≤ upper
    rw [merged]
    exact above
  · exact .binary holds first.nested second.nested

/-- What the name of a variable is read from is the variable itself. -/
theorem variable_iff {name : Name} :
    Sits named lower upper (Expr.variable name) ↔ Sits named lower upper name := by
  constructor
  · intro sits
    cases sits.nested with
    | «variable» nested => exact ⟨sits.lower_le, sits.le_upper, nested⟩
  · intro sits
    exact ⟨sits.lower_le, sits.le_upper, .variable sits.nested⟩

/-- A name beside a base is a component of it. -/
theorem select {base : Expr} {name : Name} (first : Sits named lower upper base)
    (second : Sits named lower upper name) : Sits named lower upper (base.select name) := by
  have within : (base.span.merge name.span).Within ⟨lower, upper⟩ :=
    Span.merge_within ⟨first.lower_le, first.le_upper⟩ ⟨second.lower_le, second.le_upper⟩
  have holds : (base.span.merge name.span).Holds [base.span, name.span] :=
    .cons (Span.within_merge_left _ _) (.cons (Span.within_merge_right _ _)
      (.nil first.nested.filled.merge_left))
  exact ⟨within.1, within.2, .component holds first.nested second.nested⟩

theorem foldl_select {base : Expr} {names : List Name} (first : Sits named lower upper base)
    (components : ∀ name ∈ names, Sits named lower upper name) :
    Sits named lower upper (names.foldl Expr.select base) := by
  induction names generalizing base with
  | nil => exact first
  | cons name names ih =>
      rw [List.forall_mem_cons] at components
      exact ih (first.select components.1) components.2

theorem applySign {operand : Expr} {sign : Token} (sits : Sits named lower upper operand)
    (below : lower ≤ sign.span.start) (above : sign.span.stop ≤ upper) :
    Sits named lower upper (Parser.applySign sign operand) := by
  unfold Parser.applySign
  split
  · have within : (sign.span.merge operand.span).Within ⟨lower, upper⟩ :=
      Span.merge_within ⟨below, above⟩ ⟨sits.lower_le, sits.le_upper⟩
    have held : operand.span.Within (sign.span.merge operand.span) := Span.within_merge_right _ _
    exact ⟨within.1, within.2,
      .unary (.cons held (.nil (sits.nested.filled.mono held))) sits.nested⟩
  · exact sits

end Sits

namespace Parser

open Reader

section

variable {cursor : Cursor} {expression : Reader Expr}

/-- The names that a word stands for lie within it. -/
theorem sits_dottedNames (laid : cursor.Laid named)
    (word : cursor.kind = .identifier ∨ cursor.kind.isReserved)
    (some : "" ∉ Grammar.nameParts cursor.current.text) :
    ∀ name ∈ dottedNames cursor.current, Sits named cursor.here cursor.advance.here name := by
  have inside : cursor.kind ≠ .endOfInput := by
    intro finished
    rw [finished] at word
    revert word
    decide
  intro name member
  have filled : name.text ≠ "" := by
    intro empty
    rw [← map_text_dottedNames] at some
    exact some (empty ▸ List.mem_map_of_mem member)
  obtain ⟨within, nested⟩ :=
    (laid.spelled _ (Cursor.Laid.current_mem inside)).parts word name member filled
  exact ⟨within.1, le_trans within.2 laid.edge_le_advance, nested⟩

theorem takeNames_reads_of {good : List Name → Cursor → Prop}
    (word : cursor.kind = .identifier ∨ cursor.kind.isReserved)
    (holds : (∀ name ∈ dottedNames cursor.current,
      Sits named cursor.here cursor.advance.here name) →
      good (dottedNames cursor.current) cursor.advance) :
    takeNames.Reads named cursor good := by
  apply Reads.of_laid
  intro laid
  apply Reads.takeAs
  intro _ _ names found
  obtain ⟨some, rfl⟩ := names?_eq_some_iff.mp found
  exact holds (sits_dottedNames laid word some)

theorem takeNames_reads (word : cursor.kind = .identifier ∨ cursor.kind.isReserved) :
    takeNames.Reads named cursor
      fun names behind => ∀ name ∈ names, Sits named cursor.here behind.here name :=
  takeNames_reads_of word fun sits => sits

/-! ## Operations -/

theorem operation_reads {operator? : TokenKind → Option BinaryOperator} {operand : Reader Expr}
    (inner : operand.ReadsNode named) {left : Expr} (sits : Sits named lower cursor.here left) :
    (operation operator? operand left).Reads named cursor
      fun value behind => Sits named lower behind.here value := by
  unfold operation
  apply Reads.take_bind
  intro opens closes
  apply Reads.bind (inner cursor.advance)
  intro right behind passed _ sits'
  have later : cursor.here ≤ cursor.advance.here := le_trans opens closes
  split
  · exact .pure (sits.join _ (sits'.widen later (le_refl _)))
  · exact .pure (sits.widen (le_refl _) (le_trans later passed))

theorem level_reads {operator? : TokenKind → Option BinaryOperator} {operand : Reader Expr}
    (inner : operand.ReadsNode named) : (level operator? operand).ReadsNode named := by
  intro cursor
  unfold level
  apply Reads.bind (inner cursor)
  intro first behind passed _ sits
  apply Reads.steps (fun value here => Sits named cursor.here here.here value) sits
  intro left here _ sits'
  exact operation_reads inner sits'

/-! ## Calls, indices and components -/

theorem arguments_reads (inner : expression.ReadsNode named) :
    (arguments expression).Reads named cursor
      fun values behind => SitAll named cursor.here behind.here values := by
  unfold arguments
  apply Reads.peekKind_bind
  split
  · exact .pure .nil
  · exact .commaSeparated inner

theorem callSuffix_reads (inner : expression.ReadsNode named) {routine : Name}
    (sits : Sits named lower cursor.here routine) :
    (callSuffix expression routine).Reads named cursor
      fun value behind => Sits named lower behind.here value := by
  unfold callSuffix
  apply Reads.take_bind
  intro opens closes
  apply Reads.bind (arguments_reads inner)
  intro arguments here passed _ all
  apply Reads.expect_bind (by decide)
  intro opens' closes'
  apply Reads.pure
  have filled : routine.span.start < routine.span.stop := sits.nested.1
  have ends : routine.span.stop ≤ cursor.here := sits.le_upper
  have merged : routine.span.merge here.current.span = ⟨routine.span.start, here.edge⟩ :=
    Span.merge_eq (show _ ≤ here.here by order) (show _ ≤ here.edge by order)
  rw [merged]
  constructor
  · exact sits.lower_le
  · exact closes'
  · apply Expr.Nested.call
    · exact .cons ⟨le_refl _, show _ ≤ here.edge by order⟩ (.nil (show _ < here.edge by order))
    · exact sits.nested
    · exact all.lists (by order) (by order) (by order)
    · exact all.nested

theorem indexSuffix_reads (inner : expression.ReadsNode named) {base : Expr}
    (sits : Sits named lower cursor.here base) :
    (indexSuffix expression base).Reads named cursor
      fun value behind => Sits named lower behind.here value := by
  unfold indexSuffix
  apply Reads.take_bind
  intro opens closes
  apply Reads.bind (inner cursor.advance)
  intro position here passed _ sits'
  apply Reads.expect_bind (by decide)
  intro opens' closes'
  apply Reads.pure
  have filled : base.span.start < base.span.stop := sits.nested.filled
  have ends : base.span.stop ≤ cursor.here := sits.le_upper
  have merged : base.span.merge here.current.span = ⟨base.span.start, here.edge⟩ :=
    Span.merge_eq (show _ ≤ here.here by order) (show _ ≤ here.edge by order)
  rw [merged]
  constructor
  · exact sits.lower_le
  · exact closes'
  · apply Expr.Nested.index
    · exact .cons ⟨le_refl _, show _ ≤ here.edge by order⟩
        (.cons (sits'.within (by order) (by order)) (.nil (show _ < here.edge by order)))
    · exact sits.nested
    · exact sits'.nested

theorem componentSuffix_reads {base : Expr} (sits : Sits named lower cursor.here base) :
    (componentSuffix base).Reads named cursor
      fun value behind => Sits named lower behind.here value := by
  unfold componentSuffix
  apply Reads.take_bind
  intro opens closes
  apply Reads.peekKind_bind
  split
  next word =>
    apply Reads.bind (takeNames_reads (by simpa using word))
    intro names behind passed _ components
    apply Reads.pure
    have starts : lower ≤ cursor.here :=
      le_trans sits.lower_le (le_trans (le_of_lt sits.nested.filled) sits.le_upper)
    apply Sits.foldl_select (sits.widen (le_refl _) (by order))
    intro name member
    exact (components name member).widen (by order) (le_refl _)
  next => exact .fail

theorem suffix_reads (inner : expression.ReadsNode named) {base : Expr}
    (sits : Sits named lower cursor.here base) :
    (suffix expression base).Reads named cursor
      fun value behind => Sits named lower behind.here value := by
  unfold suffix
  apply Reads.peekKind_bind
  split
  next =>
    cases base with
    | «variable» name => exact callSuffix_reads inner (Sits.variable_iff.mp sits)
    | _ => exact .fail
  next => exact indexSuffix_reads inner sits
  next => exact componentSuffix_reads sits
  next => exact .pure sits

theorem headNames_reads :
    headNames.Reads named cursor fun names behind => behind = cursor.advance ∧
      headNames? cursor.current cursor.advance.kind = some names := by
  apply Reads.require
  apply Reads.take_bind
  intro _ _
  apply Reads.peekKind_bind
  apply Reads.pure
  intro names found
  exact ⟨rfl, found⟩

/-- The first word of a chain is the name of a routine, or it stands for the names in it. -/
theorem chainHead_reads_of {good : Expr → Cursor → Prop} (word : cursor.kind = .identifier)
    (routine : ∀ name : Name, name = ⟨cursor.current.text, cursor.current.span⟩ →
      Sits named cursor.here cursor.advance.here name → good (.variable name) cursor.advance)
    (names : ∀ (head : Name) (components : List Name),
      dottedNames cursor.current = head :: components →
      (∀ name ∈ head :: components, Sits named cursor.here cursor.advance.here name) →
      good (components.foldl Expr.select (.variable head)) cursor.advance) :
    chainHead.Reads named cursor good := by
  have inside : cursor.kind ≠ .endOfInput := by rw [word]; decide
  apply Reads.of_laid
  intro laid
  apply Reads.require
  apply Reads.bind headNames_reads
  rintro read _ _ _ ⟨rfl, found⟩
  apply Reads.pure
  intro value whole
  obtain ⟨meant, whole', meaning⟩ := headOf?_of_headNames? found
  cases whole.symm.trans whole'
  rcases meaning with ⟨_, _, rfl⟩ | ⟨head, components, same, some, rfl⟩
  · have holds := (laid.spelled _ (Cursor.Laid.current_mem inside)).word word
    exact routine _ rfl ⟨le_refl _, laid.edge_le_advance, laid.here_lt_edge inside, holds⟩
  · exact names head components same (same ▸ sits_dottedNames laid (.inl word) some)

theorem chainHead_reads (word : cursor.kind = .identifier) :
    chainHead.Reads named cursor fun value behind => Sits named cursor.here behind.here value := by
  apply chainHead_reads_of word
  · intro name _ sits
    exact Sits.variable_iff.mpr sits
  · intro head components _ sits
    rw [List.forall_mem_cons] at sits
    exact (Sits.variable_iff.mpr sits.1).foldl_select sits.2

theorem nameChain_reads (inner : expression.ReadsNode named) (word : cursor.kind = .identifier) :
    (nameChain expression).Reads named cursor
      fun value behind => Sits named cursor.here behind.here value := by
  unfold nameChain
  apply Reads.bind (chainHead_reads word)
  intro head behind _ _ sits
  apply Reads.steps (fun value here => Sits named cursor.here here.here value) sits
  intro base here _ sits'
  exact suffix_reads inner sits'

/-! ## Operands -/

/-- A token that stands for itself is not empty. -/
theorem take_literal {literal : Token → Expr} (inside : cursor.kind ≠ .endOfInput)
    (whole : ∀ token, (literal token).span = token.span)
    (nested : ∀ token : Token, token.span.Filled → (literal token).Nested named) :
    (do return literal (← take)).Reads named cursor
      fun value behind => Sits named cursor.here behind.here value := by
  apply Reads.of_laid
  intro laid
  apply Reads.take_bind
  intro _ closes
  apply Reads.pure
  constructor
  · show _ ≤ (literal cursor.current).span.start
    rw [whole]
    exact le_refl _
  · show (literal cursor.current).span.stop ≤ _
    rw [whole]
    exact closes
  · exact nested _ (laid.here_lt_edge inside)

theorem numberLiteral_reads (inside : cursor.kind ≠ .endOfInput) :
    numberLiteral.Reads named cursor
      fun value behind => Sits named cursor.here behind.here value := by
  apply Reads.of_laid
  intro laid
  apply Reads.takeAs
  intro _ closes value found
  obtain ⟨number, _, rfl⟩ := number?_eq_some found
  exact ⟨le_refl _, closes, .number (laid.here_lt_edge inside)⟩

theorem parenthesized_reads (inner : expression.ReadsNode named) :
    (parenthesized expression).ReadsNode named := by
  intro cursor
  unfold parenthesized
  apply Reads.take_bind
  intro opens closes
  apply Reads.bind (inner cursor.advance)
  intro value here _ _ sits
  apply Reads.expect_bind (by decide)
  intro opens' closes'
  exact .pure (sits.widen (by order) (by order))

theorem primary_reads (inner : expression.ReadsNode named) :
    (primary expression).ReadsNode named := by
  intro cursor
  unfold primary
  apply Reads.peekKind_bind
  split
  next found => exact numberLiteral_reads (by rw [found]; decide)
  next found =>
    exact take_literal (by rw [found]; decide) (fun _ => rfl) fun _ => .truth
  next found =>
    exact take_literal (by rw [found]; decide) (fun _ => rfl) fun _ => .truth
  next found =>
    exact take_literal (by rw [found]; decide) (fun _ => rfl) fun _ => .string
  next => exact parenthesized_reads inner cursor
  next found => exact nameChain_reads inner found
  next => exact .fail

theorem unary_reads (inner : expression.ReadsNode named) : (unary expression).ReadsNode named := by
  intro cursor
  unfold unary
  apply Reads.bind (.repeatWhile .take)
  intro signs here passed _ all
  apply Reads.bind (primary_reads inner here)
  intro operand behind passed' _ sits
  apply Reads.pure
  have between := all.sits
  have sits' := sits.widen passed (le_refl _)
  clear all sits
  induction signs with
  | nil => exact sits'
  | cons sign signs ih =>
      rw [List.forall_mem_cons] at between
      obtain ⟨first, others⟩ := between
      exact (ih others).applySign first.lower_le (le_trans first.le_upper passed')

theorem expressionWith_reads (inner : expression.ReadsNode named) :
    (expressionWith expression).ReadsNode named := by
  unfold expressionWith
  exact level_reads <| level_reads <| level_reads <| level_reads <| level_reads <| level_reads <|
    unary_reads inner

end

/-- An expression lies where its tokens are, with nested spans. -/
theorem expression_reads : expression.ReadsNode named :=
  Reads.knot fun _ inner => expressionWith_reads inner

end Parser

end RapidLang
