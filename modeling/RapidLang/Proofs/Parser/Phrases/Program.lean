import RapidLang.Proofs.Parser.Phrases.Statement

/-!
# Programs that are read

The lexemes that a program is read from form it by the grammar, up to the end of the input. The
lexemes before an error begin some program.
-/

set_option autoImplicit false

namespace RapidLang

namespace Parser

open Grammar Reader

/-- Some lexemes complete those that are read to a phrase. -/
def Completable {α : Type} (phrase : List Lexeme → α → Prop) (read : List Lexeme) : Prop :=
  ∃ more tree, phrase (read ++ more) tree

variable {cursor : Cursor}

private theorem some_lexeme (kind : TokenKind) : (Lexeme.ofKind kind).kind = kind :=
  Lexeme.kind_ofKind kind

/-! ## Parameters -/

theorem takeMode_bind {α : Type} {next : ParameterMode → Reader α}
    {good : List Lexeme → α → Cursor → Prop} {bad : List Lexeme → Prop}
    (unwritten : cursor.mode = .input → (next .input).Meets cursor good bad)
    (written : cursor.mode ≠ .input → (next cursor.mode).Meets cursor.advance
      (fun more => good (cursor.current.lexeme :: more))
      (fun more => bad (cursor.current.lexeme :: more))) :
    (takeMode >>= next).Meets cursor good bad := by
  by_cases mode : cursor.mode = .input
  · exact .congr (run_bind_of_ok (run_takeMode_of_input mode)) (unwritten mode)
  · have inside : cursor.kind ≠ .endOfInput := mt mode_eq_input_of_endOfInput mode
    exact .later [cursor.current.lexeme] (run_bind_of_ok (run_takeMode_of_ne mode))
      (Cursor.lexemes_eq_cons inside) (written mode)

/-- A mode is written before the type and the name. -/
theorem parameter_of_mode {type name : Lexeme} (written : cursor.mode ≠ .input)
    (typed : type.kind = .identifier) (named : name.kind = .identifier) :
    ParameterPhrase [cursor.current.lexeme, type, name]
      ⟨cursor.mode, ⟨type.text, .origin⟩, ⟨name.text, .origin⟩, .origin⟩ := by
  unfold Cursor.mode modeOf at written ⊢
  split at written
  next kind => simpa [kind] using .var kind typed named
  next kind => simpa [kind] using .pers kind typed named
  next kind =>
    split at written
    next word =>
      simp only [word, if_true]
      refine .inOut ?_ typed named
      simp only [Bool.and_eq_true] at word
      simpa [isInOut, Token.lexeme, kind] using word.1
    next => exact absurd rfl written
  next => exact absurd rfl written

theorem input_of_mode (unwritten : cursor.mode = .input) (typed : cursor.kind = .identifier)
    (named : cursor.advance.kind = .identifier) : isInOut cursor.current.lexeme = false := by
  replace typed : cursor.current.kind = .identifier := typed
  replace named : cursor.advance.current.kind = .identifier := named
  simpa [Cursor.mode, modeOf, typed, named, isInOut, Token.lexeme] using unwritten

theorem parameter_meets (cursor : Cursor) :
    parameter.Meets cursor (fun read value _ => ParameterPhrase read (erase value))
      (Completable ParameterPhrase) := by
  unfold parameter
  refine .peek_bind (takeMode_bind (fun unwritten => ?_) (fun written => ?_))
  · refine .expectName_bind ?_ fun typed => .expectName_bind ?_ fun named => .pure ?_
    · exact ⟨_, _, .input (some_lexeme .identifier) (by decide) (some_lexeme .identifier)⟩
    · by_cases word : isInOut cursor.current.lexeme
      · exact ⟨_, _, .inOut word (some_lexeme .identifier) (some_lexeme .identifier)⟩
      · exact ⟨_, _, .input typed (by simpa using word) (some_lexeme .identifier)⟩
    · exact .input typed (input_of_mode unwritten typed named) named
  · refine .expectName_bind ?_ fun typed => .expectName_bind ?_ fun named => .pure ?_
    · exact ⟨_, _, parameter_of_mode written (some_lexeme .identifier) (some_lexeme .identifier)⟩
    · exact ⟨_, _, parameter_of_mode written typed (some_lexeme .identifier)⟩
    · exact parameter_of_mode written typed named

theorem separated_meets {α : Type} [Erasable α] {item : Reader α}
    {phrase : List Lexeme → α → Prop}
    (reads : ∀ cursor, item.Meets cursor (fun read value _ => phrase read (erase value))
      (Completable phrase)) (cursor : Cursor) :
    (commaSeparated item).Meets cursor (fun read values _ => Separated phrase read (erase values))
      (Completable (Separated phrase)) := by
  refine (Meets.commaSeparated (fun read values _ => Separated phrase read (erase values))
    ?_ ?_).mono (fun _ _ _ _ holds => holds.1) (fun _ fails => fails)
  · refine (reads cursor).mono (fun _ _ _ _ holds => .one holds) ?_
    rintro read ⟨more, tree, holds⟩
    exact ⟨more, _, .one holds⟩
  · intro read values here list comma
    refine (reads here.advance).mono ?_ ?_
    · intro more value _ _ holds
      rw [erase_append]
      exact .more list comma holds
    · rintro more' ⟨more, tree, holds⟩
      exact ⟨more, _, by simpa using Separated.more list comma holds⟩

theorem parameterList_meets (cursor : Cursor) :
    parameterList.Meets cursor
      (fun read values _ => (read = [] ∧ values = []) ∨
        Separated ParameterPhrase read (erase values))
      (Completable (Separated ParameterPhrase)) := by
  unfold parameterList
  refine .peekKind_bind ?_
  split
  · exact .pure (.inl ⟨rfl, rfl⟩)
  · exact (separated_meets parameter_meets cursor).mono (fun _ _ _ _ list => .inr list)
      (fun _ fails => fails)

theorem parameters_meets (cursor : Cursor) :
    parameters.Meets cursor
      (fun read values behind => Parameters read (erase values) ∧
        (read = [] → behind.kind ≠ .leftParen))
      (fun read => read ≠ [] ∧ Completable Parameters read) := by
  unfold parameters
  refine .accept_bind (by decide) (fun opening => .bind (parameterList_meets _) ?_ ?_)
    (fun missing => .pure ⟨.missing, fun _ => missing⟩)
  · rintro read _ _ ⟨more, values, list⟩
    have whole := Parameters.some opening list (some_lexeme .rightParen)
    exact ⟨by simp, more ++ [Lexeme.ofKind .rightParen], _, by simpa using whole⟩
  · rintro read values behind _ (⟨rfl, rfl⟩ | list)
    · refine .expect_bind (by decide) ?_ (fun close => .pure ⟨.none opening close, by simp⟩)
      exact ⟨by simp, [Lexeme.ofKind .rightParen], _, .none opening rfl⟩
    · refine .expect_bind (by decide) ?_ (fun close => .pure ⟨.some opening list close, by simp⟩)
      have whole := Parameters.some opening list (some_lexeme .rightParen)
      exact ⟨by simp, [Lexeme.ofKind .rightParen], _, by simpa using whole⟩

/-! ## Routines -/

/-- The parameters of a routine, its statements, and the word that closes it. -/
theorem routineRest_meets {closing : TokenKind} (inside : closing ≠ .endOfInput)
    (apart : closing ≠ .leftParen) {closes : TokenKind → Bool}
    {finish : List Parameter → List Stmt → Token → Decl}
    {good : List Lexeme → Decl → Cursor → Prop} {bad : List Lexeme → Prop}
    (finished : ∀ lexemes values statements close behind,
      RoutineRest closing lexemes (erase values) (erase statements) →
      good lexemes (finish values statements close) behind)
    (unfinished : ∀ read more values statements,
      RoutineRest closing (read ++ more) values statements → bad read) :
    (parameters >>= fun values => body statement closes >>= fun statements =>
      expect closing >>= fun close => Pure.pure (finish values statements close)).Meets cursor
      good bad := by
  refine .bind (parameters_meets _) ?_ ?_
  · rintro read _ _ ⟨some, more, values, front⟩
    have whole := RoutineRest.mk front .nil (some_lexeme closing) (fun empty => by simp [some] at empty)
    exact unfinished read (more ++ [Lexeme.ofKind closing]) _ _ (by simpa using whole)
  · rintro front values behind _ ⟨parameters, first⟩
    refine .bind (body_meets statement_meets _ _) ?_ ?_
    · rintro read rest split ⟨more, ⟨statements, body⟩, name⟩
      have whole := RoutineRest.mk parameters body (some_lexeme closing) fun missing => by
        rw [List.append_assoc]
        refine nextKind_read (· ≠ .leftParen) (first missing) split fun empty => ?_
        rw [nextKind_append (by rw [name empty]; decide), name empty]
        decide
      exact unfinished _ (more ++ [Lexeme.ofKind closing]) _ _ (by simpa using whole)
    · intro read statements last split body
      have kept : ∀ close : Lexeme, close.kind = closing → front = [] →
          nextKind (read ++ [close]) ≠ .leftParen := by
        intro close kind missing
        refine nextKind_read (· ≠ .leftParen) (first missing) split fun _ => ?_
        rwa [nextKind, kind]
      refine .expect_bind inside ?_ (fun close => .pure ?_)
      · have whole := RoutineRest.mk parameters body (some_lexeme closing) (kept _ rfl)
        exact unfinished _ [Lexeme.ofKind closing] _ _ (by simpa using whole)
      · exact finished _ _ _ _ _ (by simpa using .mk parameters body close (kept _ close))

/-! ## Records -/

theorem component_meets (cursor : Cursor) :
    component.Meets cursor (fun read value _ => ComponentPhrase read (erase value))
      (Completable ComponentPhrase) := by
  unfold component
  refine .expectName_bind ?_ fun typed => .expectName_bind ?_ fun named => .pure ?_
  · exact ⟨_, _, .mk (some_lexeme .identifier) (some_lexeme .identifier)⟩
  · exact ⟨_, _, .mk typed (some_lexeme .identifier)⟩
  · exact .mk typed named

theorem optionalComponent_meets (cursor : Cursor) :
    optionalComponent.Meets cursor
      (fun read value behind => (read = [] ∧ value = none ∧ behind.kind = .rightParen) ∨
        ∃ component, value = some component ∧ ComponentPhrase read (erase component))
      (Completable ComponentPhrase) := by
  unfold optionalComponent
  refine .peekKind_bind ?_
  split
  next close => exact .pure (.inl ⟨rfl, rfl, close⟩)
  next =>
    refine .bind (component_meets cursor) (fun _ _ _ fails => fails) ?_
    intro read value behind _ holds
    exact .pure (.inr ⟨value, rfl, by simpa using holds⟩)

theorem componentList_meets (cursor : Cursor) :
    componentList.Meets cursor (fun read values _ => ComponentList read (erase values))
      (Completable ComponentList) := by
  unfold componentList
  refine .bind (optionalComponent_meets cursor) (fun _ _ _ fails => ?_) ?_
  · obtain ⟨more, tree, holds⟩ := fails
    exact ⟨more, _, .some (.one holds)⟩
  rintro front value behind _ (⟨rfl, rfl, _⟩ | ⟨first, rfl, phrase⟩)
  · exact .pure .none
  · -- After a comma that nothing follows, the closing parenthesis ends the repetition.
    have others : (repeatWhile (· == .comma) (take >>= fun _ => optionalComponent)).Meets behind
        (fun read others here =>
          (Separated ComponentPhrase (front ++ read) (erase (first :: others.filterMap id)) ∨
            ∃ earlier comma, front ++ read = earlier ++ [comma] ∧ comma.kind = .comma ∧
              Separated ComponentPhrase earlier (erase (first :: others.filterMap id)) ∧
              here.kind = .rightParen) ∧ (here.kind == .comma) = false)
        (fun read => Completable (Separated ComponentPhrase) (front ++ read)) := by
      refine .repeatWhile (fun read others here =>
        Separated ComponentPhrase (front ++ read) (erase (first :: others.filterMap id)) ∨
          ∃ earlier comma, front ++ read = earlier ++ [comma] ∧ comma.kind = .comma ∧
            Separated ComponentPhrase earlier (erase (first :: others.filterMap id)) ∧
            here.kind = .rightParen) (.inl (by simpa using .one phrase)) ?_
      rintro read others here (list | ⟨_, _, _, _, _, close⟩) comma
      · have comma : here.current.lexeme.kind = .comma := beq_iff_eq.mp comma
        refine .take_bind (by rw [show here.kind = .comma from comma]; decide) ?_
        refine (optionalComponent_meets _).mono ?_ ?_
        · rintro more value last _ (⟨rfl, rfl, close⟩ | ⟨next, rfl, phrase⟩)
          · refine ⟨by simp, .inr ⟨front ++ read, _, ?_, comma, by simpa using list, close⟩⟩
            simp
          · refine ⟨by simp, .inl ?_⟩
            simpa using Separated.more list comma phrase
        · rintro more' ⟨more, tree, holds⟩
          exact ⟨more, _, by simpa using Separated.more list comma holds⟩
      · rw [close] at comma
        cases comma
    refine .bind others ?_ ?_
    · rintro read _ _ ⟨more, values, list⟩
      exact ⟨more, _, .some list⟩
    · rintro read others last _ ⟨list | ⟨earlier, comma, split, kind, list, _⟩, _⟩
      · exact .pure (.some (by simpa using list))
      · exact .pure (by rw [List.append_nil, split]; exact .trailing list kind)

theorem componentLine_meets (cursor : Cursor) :
    (component >>= fun value => expect .semicolon >>= fun _ => Pure.pure value).Meets cursor
      (fun read value _ => ComponentLine read (erase value)) (Completable ComponentLine) := by
  refine .bind (component_meets _) ?_ ?_
  · rintro read _ _ ⟨more, tree, holds⟩
    have whole := ComponentLine.mk holds (some_lexeme .semicolon)
    exact ⟨more ++ [Lexeme.ofKind .semicolon], _, by simpa using whole⟩
  · intro read value behind _ holds
    refine .expect_bind (by decide) ?_ (fun close => .pure (.mk holds close))
    exact ⟨[Lexeme.ofKind .semicolon], _, by simpa using .mk holds rfl⟩

theorem many_meets {α : Type} [Erasable α] {item : Reader α} {phrase : List Lexeme → α → Prop}
    {continues : TokenKind → Bool} (some : ∀ lexemes value, phrase lexemes value → lexemes ≠ [])
    (reads : ∀ cursor, item.Meets cursor (fun read value _ => phrase read (erase value))
      (Completable phrase)) (cursor : Cursor) :
    (repeatWhile continues item).Meets cursor
      (fun read values behind => Many phrase read (erase values) ∧ continues behind.kind = false)
      (Completable (Many phrase)) := by
  refine Meets.repeatWhile (fun read values _ => Many phrase read (erase values)) .nil ?_
  intro read values here many _
  refine (reads here).mono ?_ ?_
  · intro more value _ _ holds
    rw [erase_append]
    exact ⟨some _ _ holds, .snoc many holds⟩
  · rintro more' ⟨more, tree, holds⟩
    exact ⟨more, _, by simpa using Many.snoc many holds⟩

theorem recordDeclaration_meets (opening : cursor.kind = .record) :
    recordDeclaration.Meets cursor (fun read value _ => Declaration read (erase value))
      (Completable Declaration) := by
  unfold recordDeclaration
  refine .take_bind (by rw [opening]; decide) ?_
  replace opening : cursor.current.lexeme.kind = .record := opening
  refine .expectName_bind ?_ fun name => .accept_bind (by decide) (fun left => ?_) (fun _ => ?_)
  · have whole := Declaration.recordBlock opening (some_lexeme .identifier) .nil
      (some_lexeme .endRecord)
    exact ⟨_, _, whole⟩
  · refine .bind (componentList_meets _) ?_ ?_
    · rintro read _ _ ⟨more, values, list⟩
      have whole := Declaration.recordList opening name left list (some_lexeme .rightParen)
        (some_lexeme .semicolon)
      exact ⟨more ++ [Lexeme.ofKind .rightParen, Lexeme.ofKind .semicolon], _, by simpa using whole⟩
    · intro read values behind _ list
      refine .expect_bind (by decide) ?_ fun right => .expect_bind (by decide) ?_ fun close =>
        .pure ?_
      · have whole := Declaration.recordList opening name left list (some_lexeme .rightParen)
          (some_lexeme .semicolon)
        exact ⟨[Lexeme.ofKind .rightParen, Lexeme.ofKind .semicolon], _, by simpa using whole⟩
      · have whole := Declaration.recordList opening name left list right (some_lexeme .semicolon)
        exact ⟨[Lexeme.ofKind .semicolon], _, by simpa using whole⟩
      · simpa using Declaration.recordList opening name left list right close
  · refine .bind (many_meets ?_ componentLine_meets _) ?_ ?_
    · rintro _ _ ⟨phrase, close⟩
      simp
    · rintro read _ _ ⟨more, values, many⟩
      have whole := Declaration.recordBlock opening name many (some_lexeme .endRecord)
      exact ⟨more ++ [Lexeme.ofKind .endRecord], _, by simpa using whole⟩
    · rintro read values behind _ ⟨many, _⟩
      refine .expect_bind (by decide) ?_ (fun close => .pure ?_)
      · have whole := Declaration.recordBlock opening name many (some_lexeme .endRecord)
        exact ⟨[Lexeme.ofKind .endRecord], _, by simpa using whole⟩
      · exact .recordBlock opening name many close

/-! ## Declarations, modules and programs -/

theorem procDeclaration_meets (opening : cursor.kind = .proc) :
    procDeclaration.Meets cursor (fun read value _ => Declaration read (erase value))
      (Completable Declaration) := by
  unfold procDeclaration
  refine .take_bind (by rw [opening]; decide) ?_
  replace opening : cursor.current.lexeme.kind = .proc := opening
  refine .expectName_bind ?_ fun name => routineRest_meets (by decide) (by decide) ?_ ?_
  · have rest := RoutineRest.mk .missing .nil (some_lexeme .endProc) (by decide)
    exact ⟨_, _, .proc opening (some_lexeme .identifier) rest⟩
  · intro lexemes values statements close behind rest
    rw [erase_proc]
    exact .proc opening name rest
  · intro read more values statements rest
    exact ⟨more, _, .proc opening name rest⟩

theorem funcDeclaration_meets (opening : cursor.kind = .func) :
    funcDeclaration.Meets cursor (fun read value _ => Declaration read (erase value))
      (Completable Declaration) := by
  unfold funcDeclaration
  refine .take_bind (by rw [opening]; decide) ?_
  replace opening : cursor.current.lexeme.kind = .func := opening
  have rest := RoutineRest.mk .missing .nil (some_lexeme .endFunc) (by decide)
  refine .expectName_bind ?_ fun type => .expectName_bind ?_ fun name =>
    routineRest_meets (by decide) (by decide) ?_ ?_
  · exact ⟨_, _, .func opening (some_lexeme .identifier) (some_lexeme .identifier) rest⟩
  · exact ⟨_, _, .func opening type (some_lexeme .identifier) rest⟩
  · intro lexemes values statements close behind rest
    rw [erase_func]
    exact .func opening type name rest
  · intro read more values statements rest
    exact ⟨more, _, .func opening type name rest⟩

theorem trapDeclaration_meets (opening : cursor.kind = .trap) :
    trapDeclaration.Meets cursor (fun read value _ => Declaration read (erase value))
      (Completable Declaration) := by
  unfold trapDeclaration
  refine .take_bind (by rw [opening]; decide) ?_
  replace opening : cursor.current.lexeme.kind = .trap := opening
  refine .expectName_bind ?_ fun name => .bind (body_meets statement_meets _ _) ?_ ?_
  · exact ⟨_, _, .trap opening (some_lexeme .identifier) .nil (some_lexeme .endTrap)⟩
  · rintro read _ _ ⟨more, ⟨statements, body⟩, _⟩
    have whole := Declaration.trap opening name body (some_lexeme .endTrap)
    exact ⟨more ++ [Lexeme.ofKind .endTrap], _, by simpa using whole⟩
  · intro read statements behind _ body
    refine .expect_bind (by decide) ?_ (fun close => .pure ?_)
    · have whole := Declaration.trap opening name body (some_lexeme .endTrap)
      exact ⟨[Lexeme.ofKind .endTrap], _, by simpa using whole⟩
    · rw [erase_trap]
      exact .trap opening name body close

theorem dataDeclaration_meets {storage : Storage}
    (opening : storage? cursor.kind = some storage) :
    (dataItem >>= fun (item, span) => Pure.pure (Decl.data item span)).Meets cursor
      (fun read value _ => Declaration read (erase value)) (Completable Declaration) := by
  refine .bind (dataItem_meets opening) ?_ ?_
  · rintro read _ _ ⟨more, ⟨item, declaration⟩, _⟩
    exact ⟨more, _, .data declaration⟩
  · intro read item behind _ declaration
    exact .pure (by rw [List.append_nil, erase_dataDeclaration]; exact .data declaration)

theorem declaration_meets (cursor : Cursor) :
    declaration.Meets cursor (fun read value _ => Declaration read (erase value))
      (Completable Declaration) := by
  unfold declaration
  refine .peekKind_bind ?_
  split
  next opening => exact dataDeclaration_meets (by rw [opening]; rfl)
  next opening => exact dataDeclaration_meets (by rw [opening]; rfl)
  next opening => exact dataDeclaration_meets (by rw [opening]; rfl)
  next opening => exact procDeclaration_meets opening
  next opening => exact funcDeclaration_meets opening
  next opening => exact recordDeclaration_meets opening
  next opening => exact trapDeclaration_meets opening
  next =>
    exact .fail ⟨_, _, .trap (some_lexeme .trap) (some_lexeme .identifier) .nil
      (some_lexeme .endTrap)⟩

theorem module_meets (cursor : Cursor) :
    «module».Meets cursor (fun read value _ => ModulePhrase read (erase value))
      (Completable ModulePhrase) := by
  unfold «module»
  refine .expect_bind (by decide) ?_ fun opening => .expectName_bind ?_ fun name =>
    .bind (many_meets ?_ declaration_meets _) ?_ ?_
  · exact ⟨_, _, .mk (some_lexeme .module) (some_lexeme .identifier) .nil
      (some_lexeme .endModule)⟩
  · exact ⟨_, _, .mk opening (some_lexeme .identifier) .nil (some_lexeme .endModule)⟩
  · intro lexemes value declaration
    exact declaration.ne_nil
  · rintro read _ _ ⟨more, values, many⟩
    have whole := ModulePhrase.mk opening name many (some_lexeme .endModule)
    exact ⟨more ++ [Lexeme.ofKind .endModule], _, by simpa using whole⟩
  · rintro read values behind _ ⟨many, _⟩
    refine .expect_bind (by decide) ?_ (fun close => .pure ?_)
    · have whole := ModulePhrase.mk opening name many (some_lexeme .endModule)
      exact ⟨[Lexeme.ofKind .endModule], _, by simpa using whole⟩
    · exact .mk opening name many close

/-- What the reader of programs takes is a program, and nothing is left behind it; what it takes
before an error begins one. -/
theorem program_meets (cursor : Cursor) :
    program.Meets cursor
      (fun read value behind => ProgramPhrase read (erase value) ∧ behind.kind = .endOfInput)
      (Completable ProgramPhrase) := by
  unfold program
  refine .peek_bind (.bind (many_meets ?_ module_meets _) ?_ ?_)
  · rintro _ _ ⟨⟩
    simp
  · rintro read _ _ ⟨more, values, many⟩
    exact ⟨more, _, .mk many⟩
  · rintro read values behind _ ⟨many, finished⟩
    have finished : behind.kind = .endOfInput := by simpa using finished
    exact .pure ⟨by simpa using .mk many, finished⟩

end Parser

end RapidLang
