import RapidLang.Proofs.Parser.Run

/-!
# Readers that move on

A reader that ends with a value may have taken no token at all. The readers of expressions,
statements, declarations and modules always take one: their first token is looked at before
anything else is read. This does not depend on what they read inside brackets and bodies.
-/

set_option autoImplicit false

namespace RapidLang.Parser

open Reader

variable {α β : Type} {cursor : Cursor}

/-- Where the reader ends with a value, it has taken a token. -/
def Reader.Advances (reader : Reader α) (cursor : Cursor) : Prop :=
  ∀ value behind, reader.run cursor = .ok (value, behind) → behind.left < cursor.left

namespace Reader.Advances

theorem fail {fault : Fault} : (fail fault : Reader α).Advances cursor :=
  nofun

/-- It is enough that the first of two readers takes a token. -/
theorem bind {reader : Reader β} {next : β → Reader α} (first : reader.Advances cursor) :
    (reader >>= next).Advances cursor := by
  intro value behind outcome
  cases here : reader.run cursor with
  | error failure =>
      rw [run_bind_of_error here] at outcome
      cases outcome
  | ok result =>
      rw [run_bind_of_ok here] at outcome
      have moved := (reaches_of_ok outcome).left_le
      exact Nat.lt_of_le_of_lt moved (first _ _ here)

/-- It is enough that the second of two readers takes a token. -/
theorem bind_later {reader : Reader β} {next : β → Reader α}
    (onward : ∀ value here, (next value).Advances here) : (reader >>= next).Advances cursor := by
  intro value behind outcome
  cases here : reader.run cursor with
  | error failure =>
      rw [run_bind_of_error here] at outcome
      cases outcome
  | ok result =>
      rw [run_bind_of_ok here] at outcome
      have moved := (reaches_of_ok here).left_le
      exact Nat.lt_of_lt_of_le (onward _ _ _ _ outcome) moved

theorem peek_bind {next : Token → Reader α} (onward : (next cursor.current).Advances cursor) :
    (peek >>= next).Advances cursor :=
  onward

theorem peekKind_bind {next : TokenKind → Reader α} (onward : (next cursor.kind).Advances cursor) :
    (peekKind >>= next).Advances cursor :=
  onward

theorem take (inside : cursor.kind ≠ .endOfInput) : Parser.take.Advances cursor := by
  rintro value behind ⟨⟩
  exact Nat.sub_lt (Cursor.left_pos inside) Nat.one_pos

theorem require {fault : Fault} {reader : Reader (Option α)} (advances : reader.Advances cursor) :
    (Reader.require fault reader).Advances cursor := by
  intro value behind outcome
  cases here : reader.run cursor with
  | error failure =>
      rw [run_require_of_error here] at outcome
      cases outcome
  | ok result =>
      obtain ⟨found, last⟩ := result
      cases found with
      | none =>
          rw [run_require_of_none here] at outcome
          cases outcome
      | some found =>
          rw [run_require_of_some here] at outcome
          cases outcome
          exact advances _ _ here

theorem takeAs {fault : Fault} {meaning? : Token → Option α} (inside : cursor.kind ≠ .endOfInput) :
    (Parser.takeAs fault meaning?).Advances cursor :=
  .require (.bind (.take inside))

theorem expect {kind : TokenKind} (inside : kind ≠ .endOfInput) :
    (Parser.expect kind).Advances cursor := by
  refine .peekKind_bind ?_
  split
  next here => exact .take (here.trans_ne inside)
  next => exact .fail

theorem expectName {role : NameRole} : (Parser.expectName role).Advances cursor := by
  refine .peekKind_bind ?_
  split
  next here => exact .bind (.take (here.trans_ne (by decide)))
  next => exact .fail

/-- What is true of every step of a recursion is true of the recursive reader. -/
theorem knot {fault : Fault} {step : Reader α → Reader α}
    (each : ∀ reader, (step reader).Advances cursor) : (Reader.knot fault step).Advances cursor :=
  each (Reader.unroll fault step cursor.left)

end Reader.Advances

/-! ## Expressions -/

theorem headNames_advances (inside : cursor.kind ≠ .endOfInput) : headNames.Advances cursor :=
  .require (.bind (.take inside))

theorem chainHead_advances (inside : cursor.kind ≠ .endOfInput) : chainHead.Advances cursor :=
  .require (.bind (headNames_advances inside))

theorem suffix_advances {inner : Reader Expr} {base : Expr} (starts : startsSuffix cursor.kind)
    (inside : cursor.kind ≠ .endOfInput) : (suffix inner base).Advances cursor := by
  unfold suffix
  refine .peekKind_bind ?_
  split
  · split
    · exact .bind (.take inside)
    · exact .fail
  · exact .bind (.take inside)
  · exact .bind (.take inside)
  · simp_all [startsSuffix]

theorem primary_advances {inner : Reader Expr} : (primary inner).Advances cursor := by
  unfold primary
  refine .peekKind_bind ?_
  split
  case h_1 here => exact .takeAs (here.trans_ne (by decide))
  case h_2 here | h_3 here | h_4 here | h_5 here =>
    exact .bind (.take (here.trans_ne (by decide)))
  case h_6 here => exact .bind (chainHead_advances (here.trans_ne (by decide)))
  case h_7 => exact .fail

theorem level_advances {operator? : TokenKind → Option BinaryOperator} {operand : Reader Expr}
    (once : operand.Advances cursor) : (level operator? operand).Advances cursor :=
  .bind once

theorem expressionWith_advances (inner : Reader Expr) : (expressionWith inner).Advances cursor := by
  have operand : (unary inner).Advances cursor :=
    .bind_later fun _ _ => .bind primary_advances
  unfold expressionWith
  iterate 6 refine level_advances ?_
  exact operand

theorem expression_advances : expression.Advances cursor :=
  .knot expressionWith_advances

/-! ## Statements -/

theorem dataItem_advances (inside : cursor.kind ≠ .endOfInput) : dataItem.Advances cursor :=
  .bind (.take inside)

/-- Where no word begins another statement, an expression does. -/
theorem simpleStatement_advances : simpleStatement.Advances cursor :=
  .peek_bind (.bind expression_advances)

theorem statementWith_advances (inner : Reader Stmt) : (statementWith inner).Advances cursor := by
  unfold statementWith
  refine .peekKind_bind ?_
  split
  case h_1 here => exact .peek_bind (.bind (.bind (.take (here.trans_ne (by decide)))))
  case h_2 here | h_3 here | h_4 here | h_5 here | h_6 here | h_7 here | h_8 here | h_9 here
    | h_10 here => exact .bind (.take (here.trans_ne (by decide)))
  case h_11 here | h_12 here | h_13 here =>
    exact .bind (dataItem_advances (here.trans_ne (by decide)))
  case h_14 => exact simpleStatement_advances

theorem statement_advances : statement.Advances cursor :=
  .knot statementWith_advances

/-! ## Programs -/

theorem component_advances : component.Advances cursor :=
  .bind .expectName

theorem declaration_advances : declaration.Advances cursor := by
  unfold declaration
  refine .peekKind_bind ?_
  split
  case h_1 here | h_2 here | h_3 here =>
    exact .bind (dataItem_advances (here.trans_ne (by decide)))
  case h_4 here | h_5 here | h_6 here | h_7 here => exact .bind (.take (here.trans_ne (by decide)))
  case h_8 => exact .fail

theorem module_advances : «module».Advances cursor :=
  .bind (.expect (by decide))

end RapidLang.Parser
