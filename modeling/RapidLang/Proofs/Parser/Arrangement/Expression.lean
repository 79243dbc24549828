import RapidLang.Proofs.Parser.Nesting.Expression
import RapidLang.Proofs.Syntax.Arrangement

/-!
# The names in expressions stand apart

Every token is taken once, so no two names in an expression share a place. Each reader of expressions
makes trees whose names lie where its tokens are, each apart from the others.
-/

set_option autoImplicit false

namespace RapidLang

open Text

/-- A property of lists that lie between two places is kept when lists that follow each other are
joined. -/
structure Additive {β : Type} (lies : Position → Position → List β → Prop) : Prop where
  nil : ∀ {lower upper}, lies lower upper []
  widen : ∀ {lower upper lower' upper' : Position} {items},
    lies lower upper items → lower' ≤ lower → upper ≤ upper' → lies lower' upper' items
  append : ∀ {lower middle middle' upper : Position} {items others},
    lies lower middle items → lies middle' upper others → middle ≤ middle' → lower ≤ middle' →
      middle ≤ upper → lies lower upper (items ++ others)

theorem Spread.additive : Additive Spread :=
  ⟨.nil, .widen, .append⟩

namespace Parser

open Reader

variable {α β : Type} {named : Name → Prop} {cursor : Cursor} {lower : Position}

/-! ## Lists of items -/

namespace Reader.Reads

variable {lies : Position → Position → List β → Prop} (additive : Additive lies)
  {parts : α → List β} {item : Reader α}
  (once : ∀ cursor : Cursor, item.Reads named cursor
    fun value behind => lies cursor.here behind.here (parts value))

include additive once

theorem gatherWhile {continues : TokenKind → Bool} :
    (Parser.repeatWhile continues item).Reads named cursor
      fun values behind => lies cursor.here behind.here (values.flatMap parts) := by
  apply repeatWhile_of fun values here => lies cursor.here here.here (values.flatMap parts)
  · exact additive.nil
  · intro values here later before
    apply (once here).mono
    intro value behind passed holds
    rw [List.flatMap_append, List.flatMap_singleton]
    exact additive.append before holds (le_refl _) later passed

theorem gatherCommas :
    (Parser.commaSeparated item).Reads named cursor
      fun values behind => lies cursor.here behind.here (values.flatMap parts) := by
  unfold Parser.commaSeparated
  apply bind (once cursor)
  intro first behind passed _ holds
  apply bind
  · apply gatherWhile additive
    intro here
    apply take_bind
    intro opens closes
    apply (once here.advance).mono
    intro value last _ holds'
    exact additive.widen holds' (le_trans opens closes) (le_refl _)
  · intro others last passed' _ holds'
    exact pure (additive.append holds holds' (le_refl _) passed passed')

theorem gatherOptional {kind : TokenKind} :
    (Parser.optionalAfter kind item).Reads named cursor
      fun found behind => lies cursor.here behind.here (found.toList.flatMap parts) := by
  apply optionalAfter
  · intro later
    apply (once cursor.advance).mono
    intro value behind _ holds
    rw [Option.toList_some, List.flatMap_singleton]
    exact additive.widen holds later (le_refl _)
  · exact additive.nil

end Reader.Reads

/-! ## Expressions -/

/-- At every cursor the reader ends with an expression whose names lie where its tokens are. -/
def Reader.Spreads (named : Name → Prop) (reader : Reader Expr) : Prop :=
  ∀ cursor : Cursor, reader.Reads named cursor
    fun value behind => Spread cursor.here behind.here value.marks

theorem marks_foldl_select (base : Expr) (names : List Name) :
    (names.foldl Expr.select base).marks = base.marks ++ names.map Name.span := by
  induction names generalizing base with
  | nil => rw [List.map_nil, List.append_nil]; rfl
  | cons first rest ih =>
      have one : (base.select first).marks = base.marks ++ [first.span] := List.map_append
      rw [List.foldl_cons, ih, one, List.append_assoc]
      rfl

theorem marks_foldr_applySign (signs : List Token) (operand : Expr) :
    (signs.foldr applySign operand).marks = operand.marks := by
  induction signs with
  | nil => rfl
  | cons sign signs ih =>
      rw [List.foldr_cons, ← ih, applySign]
      split <;> rfl

/-- The parts of a dotted word follow each other. -/
theorem placeParts_ordered (position : Position) (parts : List (List Char)) :
    (∀ name ∈ placeParts position parts, position ≤ name.span.start) ∧
      ((placeParts position parts).map Name.span).Pairwise Span.Before := by
  induction parts generalizing position with
  | nil => exact ⟨fun _ member => absurd member List.not_mem_nil, .nil⟩
  | cons part rest ih =>
      obtain ⟨behind, ordered⟩ := ih (position.right (part.length + 1))
      have right : ∀ count, position ≤ position.right count :=
        fun count => .inr ⟨rfl, Nat.le_add_right _ _⟩
      constructor
      · rw [placeParts, List.forall_mem_cons]
        exact ⟨le_refl _, fun name member => le_trans (right _) (behind name member)⟩
      · rw [placeParts, List.map_cons, List.pairwise_cons]
        have dot : position.right part.length ≤ position.right (part.length + 1) :=
          .inr ⟨rfl, Nat.add_le_add_left (Nat.le_succ _) _⟩
        exact ⟨List.forall_mem_map.mpr fun name member => le_trans dot (behind name member), ordered⟩

/-- The names that a word stands for lie where it is, one behind the other. -/
theorem spread_dottedNames {token : Token} {upper : Position}
    (sits : ∀ name ∈ dottedNames token, Sits named lower upper name) :
    Spread lower upper ((dottedNames token).map Name.span) := by
  constructor
  · exact List.forall_mem_map.mpr fun name member =>
      ⟨(sits name member).nested.1, (sits name member).within (le_refl _) (le_refl _)⟩
  · exact (placeParts_ordered _ _).2.imp fun before => .inl before

theorem takeNames_spreads (word : cursor.kind = .identifier ∨ cursor.kind.isReserved) :
    takeNames.Reads named cursor
      fun names behind => Spread cursor.here behind.here (names.map Name.span) :=
  takeNames_reads_of word spread_dottedNames

section

variable {expression : Reader Expr}

theorem operation_spreads {operator? : TokenKind → Option BinaryOperator} {operand : Reader Expr}
    (inner : operand.Spreads named) {left : Expr} (spread : Spread lower cursor.here left.marks)
    (below : lower ≤ cursor.here) :
    (operation operator? operand left).Reads named cursor
      fun value behind => Spread lower behind.here value.marks := by
  unfold operation
  apply Reads.take_bind
  intro opens closes
  apply Reads.bind (inner cursor.advance)
  intro right behind passed _ spread'
  split
  · apply Reads.pure
    have marks : ∀ operator, (left.join operator right).marks = left.marks ++ right.marks :=
      fun _ => List.map_append
    rw [marks]
    exact spread.append spread' (by order) (by order) (by order)
  · exact .pure (spread.widen (le_refl _) (by order))

theorem level_spreads {operator? : TokenKind → Option BinaryOperator} {operand : Reader Expr}
    (inner : operand.Spreads named) : (level operator? operand).Spreads named := by
  intro cursor
  unfold level
  apply Reads.bind (inner cursor)
  intro first behind passed _ spread
  apply (Reads.steps (fun (value : Expr) here =>
    cursor.here ≤ here.here ∧ Spread cursor.here here.here value.marks) ⟨passed, spread⟩ _).mono
  · exact fun _ _ _ holds => holds.2
  · rintro left here _ ⟨below, spread'⟩
    apply (operation_spreads inner spread' below).mono
    exact fun _ _ passed' holds => ⟨le_trans below passed', holds⟩

theorem arguments_spreads (inner : expression.Spreads named) :
    (arguments expression).Reads named cursor
      fun values behind => Spread cursor.here behind.here (values.flatMap Expr.marks) := by
  unfold arguments
  apply Reads.peekKind_bind
  split
  · exact .pure .nil
  · exact .gatherCommas Spread.additive inner

theorem marks_call (routine : Name) (arguments : List Expr) (span : Span) :
    (Expr.call routine arguments span).marks = [routine.span] ++ arguments.flatMap Expr.marks := by
  rw [Expr.marks, Expr.mentions, List.map_cons, Expr.allMentions_eq, List.map_flatMap]
  rfl

/-- What follows the head of a chain adds its own names to those of the head. -/
theorem suffix_spreads (inner : expression.Spreads named) {base : Expr}
    (spread : Spread lower cursor.here base.marks) (below : lower ≤ cursor.here) :
    (suffix expression base).Reads named cursor
      fun value behind => Spread lower behind.here value.marks := by
  unfold suffix
  apply Reads.peekKind_bind
  split
  next =>
    split
    next name =>
      unfold callSuffix
      apply Reads.take_bind
      intro opens closes
      apply Reads.bind (arguments_spreads inner)
      intro values here passed _ spread'
      apply Reads.expect_bind (by decide)
      intro opens' closes'
      apply Reads.pure
      rw [marks_call]
      exact spread.append (spread'.widen (le_refl _) (by order)) (by order) (by order) (by order)
    next => exact .fail
  next =>
    unfold indexSuffix
    apply Reads.take_bind
    intro opens closes
    apply Reads.bind (inner cursor.advance)
    intro position here passed _ spread'
    apply Reads.expect_bind (by decide)
    intro opens' closes'
    apply Reads.pure
    have marks : ∀ span, (Expr.index base position span).marks = base.marks ++ position.marks :=
      fun _ => List.map_append
    rw [marks]
    exact spread.append (spread'.widen (le_refl _) (by order)) (by order) (by order) (by order)
  next =>
    unfold componentSuffix
    apply Reads.take_bind
    intro opens closes
    apply Reads.peekKind_bind
    split
    next word =>
      apply Reads.bind (takeNames_spreads (by simpa using word))
      intro names behind passed _ spread'
      apply Reads.pure
      rw [marks_foldl_select]
      exact spread.append spread' (by order) (by order) (by order)
    next => exact .fail
  next => exact .pure spread

theorem chainHead_spreads (word : cursor.kind = .identifier) :
    chainHead.Reads named cursor
      fun value behind => Spread cursor.here behind.here value.marks := by
  apply chainHead_reads_of word
  · intro name _ sits
    exact .one sits.nested.1 sits.lower_le sits.le_upper
  · intro head components same sits
    rw [← same] at sits
    have spread := spread_dottedNames sits
    rw [same] at spread
    rw [marks_foldl_select]
    exact spread

theorem nameChain_spreads (inner : expression.Spreads named) (word : cursor.kind = .identifier) :
    (nameChain expression).Reads named cursor
      fun value behind => Spread cursor.here behind.here value.marks := by
  unfold nameChain
  apply Reads.bind (chainHead_spreads word)
  intro head behind passed _ spread
  apply (Reads.steps (fun (value : Expr) here =>
    cursor.here ≤ here.here ∧ Spread cursor.here here.here value.marks) ⟨passed, spread⟩ _).mono
  · exact fun _ _ _ holds => holds.2
  · rintro base here _ ⟨below, spread'⟩
    apply (suffix_spreads inner spread' below).mono
    exact fun _ _ passed' holds => ⟨le_trans below passed', holds⟩

theorem primary_spreads (inner : expression.Spreads named) :
    (primary expression).Spreads named := by
  intro cursor
  unfold primary
  apply Reads.peekKind_bind
  split
  next =>
    apply Reads.takeAs
    intro _ _ value found
    obtain ⟨number, _, rfl⟩ := number?_eq_some found
    exact .nil
  next => exact .take_bind fun _ _ => .pure .nil
  next => exact .take_bind fun _ _ => .pure .nil
  next => exact .take_bind fun _ _ => .pure .nil
  next =>
    unfold parenthesized
    apply Reads.take_bind
    intro opens closes
    apply Reads.bind (inner cursor.advance)
    intro value here _ _ spread
    apply Reads.expect_bind (by decide)
    intro opens' closes'
    exact .pure (spread.widen (by order) (by order))
  next found => exact nameChain_spreads inner found
  next => exact .fail

theorem unary_spreads (inner : expression.Spreads named) : (unary expression).Spreads named := by
  intro cursor
  unfold unary
  apply Reads.bind (Reads.repeatWhile Reads.take)
  intro signs here passed _ _
  apply Reads.bind (primary_spreads inner here)
  intro operand behind passed' _ spread
  apply Reads.pure
  rw [marks_foldr_applySign]
  exact spread.widen passed (le_refl _)

theorem expressionWith_spreads (inner : expression.Spreads named) :
    (expressionWith expression).Spreads named := by
  unfold expressionWith
  exact level_spreads <| level_spreads <| level_spreads <| level_spreads <| level_spreads <|
    level_spreads <| unary_spreads inner

end

theorem expression_spreads : expression.Spreads named :=
  Reads.knot fun _ inner => expressionWith_spreads inner

end Parser

end RapidLang
