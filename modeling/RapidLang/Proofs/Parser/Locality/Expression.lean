import RapidLang.Proofs.Parser.Alike
import RapidLang.Proofs.Parser.Phrases.Expression

/-!
# Expressions are read one token at a time

The readers of expressions look at the next token only, except that the first word of a chain is
read with the token behind it.
-/

set_option autoImplicit false

namespace RapidLang.Parser

open Grammar Reader

variable {cursor other : Cursor} {size size' : Nat} {reader reader' : Reader Expr}

/-! ## Chains -/

theorem takeNames_alike : takeNames.Alike takeNames cursor other := by
  unfold takeNames
  exact .takeAs

theorem headNames_alike : headNames.Alike headNames cursor other := by
  refine .require ?_ fun behind outcome => ?_
  · exact .bind .take fun _ _ _ _ _ => .peekKind_bind fun _ => .pure
  · rw [run_bind_of_ok run_take, run_bind_of_ok run_peekKind, run_pure, Except.ok.injEq,
      Prod.mk.injEq] at outcome
    rw [← outcome.2]
    show cursor.left ≤ cursor.left - 1 + 1
    omega

theorem chainHead_alike : chainHead.Alike chainHead cursor other := by
  refine .require (.bind headNames_alike fun _ _ _ _ _ => .pure) fun behind outcome => ?_
  cases found : headNames? cursor.current cursor.advance.kind with
  | none =>
      rw [run_bind_of_error (run_headNames_of_none found)] at outcome
      cases outcome
  | some names =>
      obtain ⟨value, whole, _⟩ := headOf?_of_headNames? found
      rw [run_bind_of_ok (run_headNames_of_some found), whole] at outcome
      cases outcome

theorem arguments_alike (inner : AlikeBelow size size' reader reader') :
    AlikeBelow size size' (arguments reader) (arguments reader') := by
  intro cursor other near near'
  unfold arguments
  refine .peekKind_bind fun _ => ?_
  split
  · exact .pure
  · exact .commaSeparated fun here here' le le' => inner here here' (by omega) (by omega)

theorem callSuffix_alike (inner : AlikeBelow size size' reader reader') {routine : Name}
    (near : cursor.left ≤ size) (near' : other.left ≤ size') (inside : cursor.kind ≠ .endOfInput) :
    (callSuffix reader routine).Alike (callSuffix reader' routine) cursor other := by
  unfold callSuffix
  refine .take_bind inside fun here here' less less' => ?_
  refine .bind (arguments_alike inner here here' (by omega) (by omega)) fun _ _ _ _ _ => ?_
  exact .bind .expect fun _ _ _ _ _ => .pure

theorem indexSuffix_alike (inner : AlikeBelow size size' reader reader') {base : Expr}
    (near : cursor.left ≤ size) (near' : other.left ≤ size') (inside : cursor.kind ≠ .endOfInput) :
    (indexSuffix reader base).Alike (indexSuffix reader' base) cursor other := by
  unfold indexSuffix
  refine .take_bind inside fun here here' less less' => ?_
  refine .bind (inner here here' (by omega) (by omega)) fun _ _ _ _ _ => ?_
  exact .bind .expect fun _ _ _ _ _ => .pure

theorem componentSuffix_alike {base : Expr} (inside : cursor.kind ≠ .endOfInput) :
    (componentSuffix base).Alike (componentSuffix base) cursor other := by
  unfold componentSuffix
  refine .take_bind inside fun here here' _ _ => .peekKind_bind fun _ => ?_
  split
  · exact .bind takeNames_alike fun _ _ _ _ _ => .pure
  · exact .fail

theorem suffix_alike (inner : AlikeBelow size size' reader reader') {base : Expr}
    (near : cursor.left ≤ size) (near' : other.left ≤ size') :
    (suffix reader base).Alike (suffix reader' base) cursor other := by
  unfold suffix
  refine .peekKind_bind fun _ => ?_
  split
  next opening =>
    cases base with
    | «variable» name => exact callSuffix_alike inner near near' (by rw [opening]; decide)
    | _ => exact .fail
  next opening => exact indexSuffix_alike inner near near' (by rw [opening]; decide)
  next dot => exact componentSuffix_alike (by rw [dot]; decide)
  next => exact .pure

theorem nameChain_alike (inner : AlikeBelow size size' reader reader')
    (near : cursor.left ≤ size) (near' : other.left ≤ size') :
    (nameChain reader).Alike (nameChain reader') cursor other := by
  unfold nameChain
  refine .bind chainHead_alike fun head here here' le le' => ?_
  exact .steps (fun base last last' less less' _ =>
    suffix_alike inner (by omega) (by omega)) head

/-! ## Operands -/

theorem numberLiteral_alike : numberLiteral.Alike numberLiteral cursor other := by
  unfold numberLiteral
  exact .takeAs

theorem parenthesized_alike (inner : AlikeBelow size size' reader reader')
    (near : cursor.left ≤ size) (near' : other.left ≤ size') (inside : cursor.kind ≠ .endOfInput) :
    (parenthesized reader).Alike (parenthesized reader') cursor other := by
  unfold parenthesized
  refine .take_bind inside fun here here' less less' => ?_
  refine .bind (inner here here' (by omega) (by omega)) fun _ _ _ _ _ => ?_
  exact .bind .expect fun _ _ _ _ _ => .pure

theorem primary_alike (inner : AlikeBelow size size' reader reader') :
    AlikeBelow (size + 1) (size' + 1) (primary reader) (primary reader') := by
  intro cursor other near near'
  unfold primary
  refine .peekKind_bind fun _ => ?_
  split
  next => exact numberLiteral_alike
  next => exact .bind .take fun _ _ _ _ _ => .pure
  next => exact .bind .take fun _ _ _ _ _ => .pure
  next => exact .bind .take fun _ _ _ _ _ => .pure
  next opening =>
    exact parenthesized_alike inner (by omega) (by omega) (by rw [opening]; decide)
  next => exact nameChain_alike inner (by omega) (by omega)
  next => exact .fail

theorem unary_alike (inner : AlikeBelow size size' reader reader') :
    AlikeBelow (size + 1) (size' + 1) (unary reader) (unary reader') := by
  intro cursor other near near'
  unfold unary
  refine .bind (.repeatWhile fun _ _ _ _ _ => .take) fun _ here here' le le' => ?_
  exact .bind (primary_alike inner here here' (by omega) (by omega)) fun _ _ _ _ _ => .pure

/-! ## Operators -/

theorem level_alike {operator? : TokenKind → Option BinaryOperator} {operand operand' : Reader Expr}
    (inside : operator? .endOfInput = none)
    (operands : AlikeBelow size size' operand operand') :
    AlikeBelow size size' (level operator? operand) (level operator? operand') := by
  intro cursor other near near'
  unfold level
  refine .bind (operands cursor other near near') fun first here here' le le' => ?_
  refine .steps (fun left last last' less less' admitted => ?_) first
  unfold operation
  refine .take_bind ?_ fun behind behind' lower lower' => ?_
  · rintro finished
    rw [finished, inside] at admitted
    cases admitted
  · refine .bind (operands behind behind' (by omega) (by omega)) fun _ _ _ _ _ => ?_
    split
    · exact .pure
    · exact .pure

theorem expressionWith_alike (inner : AlikeBelow size size' reader reader') :
    AlikeBelow (size + 1) (size' + 1) (expressionWith reader) (expressionWith reader') :=
  level_alike rfl <| level_alike rfl <| level_alike rfl <| level_alike rfl <| level_alike rfl <|
    level_alike rfl <| unary_alike inner

theorem expression_alike : expression.Alike expression cursor other :=
  .knot fun _ _ _ _ inner => expressionWith_alike inner

end RapidLang.Parser
