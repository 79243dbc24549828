import RapidLang.Proofs.Parser.Completeness.Program
import RapidLang.Proofs.Parser.Twins.Statement

/-!
# Programs are read without regard to spans

No reader of declarations lets a span decide what it does.
-/

set_option autoImplicit false

namespace RapidLang.Parser

open Reader

/-! ## Parameters -/

theorem mode_of_twin {cursor other : Cursor} (twin : cursor.Twin other) :
    cursor.mode = other.mode := by
  have lexeme := twin.current
  have lexeme' := twin.advance.current
  unfold Cursor.mode
  generalize cursor.current = token, cursor.advance.current = next at lexeme lexeme' ⊢
  generalize other.current = token', other.advance.current = next' at lexeme lexeme' ⊢
  obtain ⟨kind, text, span⟩ := token
  obtain ⟨kind', text', span'⟩ := next
  cases lexeme
  cases lexeme'
  rfl

theorem takeMode_twin : takeMode.Twin takeMode := by
  intro cursor other twin
  have modes := mode_of_twin twin
  by_cases unwritten : cursor.mode = .input
  · rw [run_takeMode_of_input unwritten, run_takeMode_of_input (modes ▸ unwritten)]
    exact .ok rfl twin
  · rw [run_takeMode_of_ne unwritten, run_takeMode_of_ne (modes ▸ unwritten), modes]
    exact .ok rfl twin.advance

theorem parameter_twin : parameter.Twin parameter := by
  unfold parameter
  apply Twin.peek_bind
  intro _ _ _ _
  apply Twin.bind takeMode_twin
  intro mode mode' modes
  apply Twin.expectName_bind
  intro type _ _
  apply Twin.expectName_bind
  intro name _ _
  cases modes
  exact .pure rfl

theorem parameterList_twin : parameterList.Twin parameterList := by
  unfold parameterList
  apply Twin.peekKind_bind
  intro kind
  split
  · exact .pure rfl
  · exact .commaSeparated parameter_twin

theorem parameters_twin : parameters.Twin parameters := by
  unfold parameters
  apply Twin.accept_bind
  intro opened
  cases opened with
  | true =>
      apply Twin.bind parameterList_twin
      intro list list' same
      apply Twin.expect_bind
      intro _ _ _ _
      exact .pure same
  | false => exact .pure rfl

/-! ## Records -/

theorem component_twin : component.Twin component := by
  unfold component
  apply Twin.expectName_bind
  intro type _ _
  apply Twin.expectName_bind
  intro name _ _
  exact .pure rfl

theorem optionalComponent_twin : optionalComponent.Twin optionalComponent := by
  unfold optionalComponent
  apply Twin.peekKind_bind
  intro kind
  split
  · exact .pure rfl
  · apply Twin.bind component_twin
    intro read read' same
    exact .pure (congrArg some same)

theorem componentList_twin : componentList.Twin componentList := by
  unfold componentList
  apply Twin.bind optionalComponent_twin
  intro first first' same
  cases first with
  | none =>
      cases first' with
      | none => exact .pure rfl
      | some first' => cases same
  | some first =>
      cases first' with
      | none => cases same
      | some first' =>
          apply Twin.bind
          · apply Twin.repeatWhile
            apply Twin.take_bind
            intro _ _ _ _
            exact optionalComponent_twin
          · intro others others' read
            rw [erase_some, erase_some, Option.some.injEq] at same
            exact .pure (by
              rw [erase_cons, erase_cons, erase_filterMap_id, erase_filterMap_id, same, read])

theorem recordDeclaration_twin : recordDeclaration.Twin recordDeclaration := by
  have item : (component >>= fun read => expect .semicolon >>= fun _ => pure read).Twin
      (component >>= fun read => expect .semicolon >>= fun _ => pure read) := by
    apply Twin.bind component_twin
    intro read read' same
    apply Twin.expect_bind
    intro _ _ _ _
    exact .pure same
  unfold recordDeclaration
  apply Twin.take_bind
  intro _ _ _ _
  apply Twin.expectName_bind
  intro name _ _
  apply Twin.accept_bind
  intro opened
  cases opened with
  | true =>
      apply Twin.bind componentList_twin
      intro list list' same
      apply Twin.expect_bind
      intro _ _ _ _
      apply Twin.expect_bind
      intro _ _ _ _
      exact .pure (by simp [same])
  | false =>
      apply Twin.bind (.repeatWhile item)
      intro list list' same
      apply Twin.expect_bind
      intro _ _ _ _
      exact .pure (by simp [same])

/-! ## Routines, modules and programs -/

theorem statements_twin {closes : TokenKind → Bool} :
    (body statement closes).Twin (body statement closes) :=
  body_twin statement_twin

theorem procDeclaration_twin : procDeclaration.Twin procDeclaration := by
  unfold procDeclaration
  apply Twin.take_bind
  intro _ _ _ _
  apply Twin.expectName_bind
  intro name _ _
  apply Twin.bind parameters_twin
  intro list list' lists
  apply Twin.bind statements_twin
  intro body body' same
  apply Twin.expect_bind
  intro _ _ _ _
  exact .pure (by simp [lists, same])

theorem funcDeclaration_twin : funcDeclaration.Twin funcDeclaration := by
  unfold funcDeclaration
  apply Twin.take_bind
  intro _ _ _ _
  apply Twin.expectName_bind
  intro type _ _
  apply Twin.expectName_bind
  intro name _ _
  apply Twin.bind parameters_twin
  intro list list' lists
  apply Twin.bind statements_twin
  intro body body' same
  apply Twin.expect_bind
  intro _ _ _ _
  exact .pure (by simp [lists, same])

theorem trapDeclaration_twin : trapDeclaration.Twin trapDeclaration := by
  unfold trapDeclaration
  apply Twin.take_bind
  intro _ _ _ _
  apply Twin.expectName_bind
  intro name _ _
  apply Twin.bind statements_twin
  intro body body' same
  apply Twin.expect_bind
  intro _ _ _ _
  exact .pure (by simp [same])

theorem declaration_twin : declaration.Twin declaration := by
  unfold declaration
  apply Twin.peekKind_bind
  intro kind
  split
  · exact dataItem_bind_twin fun _ _ _ _ same =>
      .pure (by rw [erase_dataDeclaration, erase_dataDeclaration, same])
  · exact dataItem_bind_twin fun _ _ _ _ same =>
      .pure (by rw [erase_dataDeclaration, erase_dataDeclaration, same])
  · exact dataItem_bind_twin fun _ _ _ _ same =>
      .pure (by rw [erase_dataDeclaration, erase_dataDeclaration, same])
  · exact procDeclaration_twin
  · exact funcDeclaration_twin
  · exact recordDeclaration_twin
  · exact trapDeclaration_twin
  · exact .fail

theorem module_twin : «module».Twin «module» := by
  unfold «module»
  apply Twin.expect_bind
  intro _ _ _ _
  apply Twin.expectName_bind
  intro name _ _
  apply Twin.bind (.repeatWhile declaration_twin)
  intro declarations declarations' same
  apply Twin.expect_bind
  intro _ _ _ _
  exact .pure (by simp [same])

theorem program_twin : program.Twin program := by
  unfold program
  apply Twin.peek_bind
  intro _ _ _ _
  apply Twin.bind (.repeatWhile module_twin)
  intro modules modules' same
  exact .pure (by simp [same])

/-! ## Lists of tokens -/

theorem map_lexeme_completed {tokens other : List Token}
    (same : tokens.map Token.lexeme = other.map Token.lexeme) :
    (completed tokens).map Token.lexeme = (completed other).map Token.lexeme := by
  have finals : tokens.getLast?.map Token.lexeme = other.getLast?.map Token.lexeme := by
    rw [← List.getLast?_map, ← List.getLast?_map, same]
  unfold completed
  cases final : tokens.getLast? with
  | none =>
      rw [final, Option.map_none, eq_comm, Option.map_eq_none_iff] at finals
      rw [finals]
  | some last =>
      rw [final, Option.map_some, eq_comm, Option.map_eq_some_iff] at finals
      obtain ⟨last', final', lexeme⟩ := finals
      have kinds : last.kind = last'.kind := congrArg Lexeme.kind lexeme.symm
      rw [final']
      dsimp only
      rw [kinds]
      split
      · exact same
      · rw [List.map_append, List.map_append, same]
        rfl

/-- Lists with the same kinds and texts are read from twin cursors. -/
theorem Cursor.twin_ofTokens {tokens other : List Token}
    (same : tokens.map Token.lexeme = other.map Token.lexeme) :
    (ofTokens tokens).Twin (ofTokens other) := by
  have rests : (ofTokens tokens).rest.map Token.lexeme = (ofTokens other).rest.map Token.lexeme := by
    show (ofTokens tokens).lexemes = (ofTokens other).lexemes
    rw [lexemes_ofTokens, lexemes_ofTokens, lexemesOf_eq_takeWhile, lexemesOf_eq_takeWhile, same]
  have whole := map_lexeme_completed same
  rw [completed_eq, completed_eq, List.map_append, List.map_append, rests] at whole
  exact ⟨rests, (List.cons.inj (List.append_cancel_left whole)).1⟩

/-- The wording and the code of an error follow from its cause and from the kind and text of its
token. -/
theorem SyntaxError.Twin.report {error other : SyntaxError} (twin : error.Twin other) :
    error.message = other.message ∧ error.code = other.code := by
  have kinds : error.token.kind = other.token.kind := congrArg Lexeme.kind twin.lexeme
  have texts : error.token.text = other.token.text := congrArg Lexeme.text twin.lexeme
  constructor
  · simp only [SyntaxError.message, Token.describe, twin.fault, kinds, texts]
  · simp only [SyntaxError.code, twin.fault]

end RapidLang.Parser
