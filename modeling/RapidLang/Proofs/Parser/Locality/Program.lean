import RapidLang.Proofs.Parser.Locality.Statement
import RapidLang.Proofs.Parser.Phrases.Program

/-!
# Programs are read one token at a time

The readers of declarations look at the next token only, except that the word before a parameter is
read with the token behind it.
-/

set_option autoImplicit false

namespace RapidLang.Parser

open Grammar Reader

variable {cursor other : Cursor}

/-! ## Parameters -/

/-- The first word of a parameter is taken. -/
theorem parameter_moves {value : Parameter} {behind : Cursor}
    (outcome : parameter.run cursor = .ok (value, behind)) : behind.left < cursor.left := by
  obtain ⟨read, split, phrase⟩ := (parameter_meets cursor).ok outcome
  refine Cursor.left_lt_of_lexemes split ?_
  rintro rfl
  exact phrase.starts.2 rfl

/-- The mode is settled by two tokens, and by one at the end of input. -/
theorem mode_congr (same : cursor.current = other.current)
    (same' : cursor.token 1 = other.token 1) : cursor.mode = other.mode := by
  unfold Cursor.mode
  rw [← same]
  apply modeOf_congr
  intro word
  have inside : cursor.kind ≠ .endOfInput := by
    rw [Cursor.kind, word]
    decide
  have inside' : other.kind ≠ .endOfInput := by rwa [Cursor.kind, ← same]
  rw [← Cursor.token_one inside, ← Cursor.token_one inside', same']

theorem takeMode_alike (same : cursor.current = other.current)
    (same' : cursor.token 1 = other.token 1) : takeMode.Alike takeMode cursor other := by
  have modes := mode_congr same same'
  by_cases unwritten : cursor.mode = .input
  · exact .congr (run_takeMode_of_input unwritten) (run_takeMode_of_input (modes ▸ unwritten)) .pure
  · have taken : (take >>= fun _ => pure cursor.mode).Alike (take >>= fun _ => pure cursor.mode)
        cursor other := .bind .take fun _ _ _ _ _ => .pure
    refine .congr (run_takeMode_of_ne unwritten) ?_ taken
    rw [modes] at unwritten ⊢
    exact run_takeMode_of_ne unwritten

theorem parameter_alike : parameter.Alike parameter cursor other := by
  refine .of_following (fun _ _ => parameter_moves) fun same same' => ?_
  unfold parameter
  refine .peek_bind (.bind (takeMode_alike same same') fun _ _ _ _ _ => ?_)
  refine .bind .expectName fun _ _ _ _ _ => ?_
  exact .bind .expectName fun _ _ _ _ _ => .pure

theorem parameters_alike : parameters.Alike parameters cursor other := by
  unfold parameters
  refine .bind .accept fun opened _ _ _ _ => ?_
  cases opened with
  | true =>
      refine .bind ?_ fun _ _ _ _ _ => .bind .expect fun _ _ _ _ _ => .pure
      unfold parameterList
      refine .peekKind_bind fun _ => ?_
      split
      · exact .pure
      · exact .commaSeparated fun _ _ _ _ => parameter_alike
  | false => exact .pure

/-! ## Records -/

theorem component_alike : component.Alike component cursor other := by
  unfold component
  exact .bind .expectName fun _ _ _ _ _ => .bind .expectName fun _ _ _ _ _ => .pure

theorem optionalComponent_alike :
    optionalComponent.Alike optionalComponent cursor other := by
  unfold optionalComponent
  refine .peekKind_bind fun _ => ?_
  split
  · exact .pure
  · exact .bind component_alike fun _ _ _ _ _ => .pure

theorem componentList_alike : componentList.Alike componentList cursor other := by
  unfold componentList
  refine .bind optionalComponent_alike fun first _ _ _ _ => ?_
  cases first with
  | none => exact .pure
  | some first =>
      refine .bind (.repeatWhile fun _ _ _ _ _ => ?_) fun _ _ _ _ _ => .pure
      exact .bind .take fun _ _ _ _ _ => optionalComponent_alike

theorem recordDeclaration_alike : recordDeclaration.Alike recordDeclaration cursor other := by
  unfold recordDeclaration
  refine .bind .take fun _ _ _ _ _ => .bind .expectName fun _ _ _ _ _ => ?_
  refine .bind .accept fun opened _ _ _ _ => ?_
  cases opened with
  | true =>
      refine .bind componentList_alike fun _ _ _ _ _ => .bind .expect fun _ _ _ _ _ => ?_
      exact .bind .expect fun _ _ _ _ _ => .pure
  | false =>
      refine .bind (.repeatWhile fun _ _ _ _ _ => ?_) fun _ _ _ _ _ => ?_
      · exact .bind component_alike fun _ _ _ _ _ => .bind .expect fun _ _ _ _ _ => .pure
      · exact .bind .expect fun _ _ _ _ _ => .pure

/-! ## Routines, modules and programs -/

theorem statements_alike {closes : TokenKind → Bool} :
    (body statement closes).Alike (body statement closes) cursor other :=
  body_alike (fun _ _ _ _ => statement_alike) cursor other (Nat.lt_succ_self _)
    (Nat.lt_succ_self _)

theorem procDeclaration_alike : procDeclaration.Alike procDeclaration cursor other := by
  unfold procDeclaration
  refine .bind .take fun _ _ _ _ _ => .bind .expectName fun _ _ _ _ _ => ?_
  refine .bind parameters_alike fun _ _ _ _ _ => .bind statements_alike fun _ _ _ _ _ => ?_
  exact .bind .expect fun _ _ _ _ _ => .pure

theorem funcDeclaration_alike : funcDeclaration.Alike funcDeclaration cursor other := by
  unfold funcDeclaration
  refine .bind .take fun _ _ _ _ _ => .bind .expectName fun _ _ _ _ _ => ?_
  refine .bind .expectName fun _ _ _ _ _ => .bind parameters_alike fun _ _ _ _ _ => ?_
  refine .bind statements_alike fun _ _ _ _ _ => ?_
  exact .bind .expect fun _ _ _ _ _ => .pure

theorem trapDeclaration_alike : trapDeclaration.Alike trapDeclaration cursor other := by
  unfold trapDeclaration
  refine .bind .take fun _ _ _ _ _ => .bind .expectName fun _ _ _ _ _ => ?_
  refine .bind statements_alike fun _ _ _ _ _ => ?_
  exact .bind .expect fun _ _ _ _ _ => .pure

theorem declaration_alike : declaration.Alike declaration cursor other := by
  unfold declaration
  refine .peekKind_bind fun _ => ?_
  split
  next => exact .bind dataItem_alike fun _ _ _ _ _ => .pure
  next => exact .bind dataItem_alike fun _ _ _ _ _ => .pure
  next => exact .bind dataItem_alike fun _ _ _ _ _ => .pure
  next => exact procDeclaration_alike
  next => exact funcDeclaration_alike
  next => exact recordDeclaration_alike
  next => exact trapDeclaration_alike
  next => exact .fail

theorem module_alike : «module».Alike «module» cursor other := by
  unfold «module»
  refine .bind .expect fun _ _ _ _ _ => .bind .expectName fun _ _ _ _ _ => ?_
  refine .bind (.repeatWhile fun _ _ _ _ _ => declaration_alike) fun _ _ _ _ _ => ?_
  exact .bind .expect fun _ _ _ _ _ => .pure

/-- The outcome of reading a program is settled by the tokens up to its end, or by those up to the
error and the one behind it. -/
theorem program_alike : program.Alike program cursor other := by
  unfold program
  refine .peek_bind (.bind (.repeatWhile fun _ _ _ _ _ => module_alike) fun _ _ _ _ _ => ?_)
  exact .pure

end RapidLang.Parser
