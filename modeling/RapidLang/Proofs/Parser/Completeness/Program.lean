import RapidLang.Proofs.Parser.Completeness.Statement
import RapidLang.Proofs.Parser.Phrases.Program

/-!
# Programs of the grammar are read

The reader of programs takes every program of the grammar, with the tree that the grammar gives it.
-/

set_option autoImplicit false

namespace RapidLang

namespace Parser

open Grammar Reader

variable {sure : Prop} {cursor : Cursor} {more : List Lexeme}

/-! ## Parameters -/

theorem parameter_takes_unwritten {type name : Lexeme}
    (split : cursor.lexemes = type :: name :: more) (typed : type.kind = .identifier)
    (named : name.kind = .identifier) (unwritten : cursor.mode = .input) :
    parameter.Takes cursor (fun read => erase read =
      ⟨.input, ⟨type.text, .origin⟩, ⟨name.text, .origin⟩, .origin⟩) more := by
  have mode : takeMode.Takes cursor (fun mode => mode = .input) (type :: name :: more) :=
    ⟨_, _, run_takeMode_of_input unwritten, rfl, split⟩
  unfold parameter
  refine .peek_bind (.bind mode fun _ _ mode left => .expectName_bind left typed
    fun _ _ first left => .expectName_bind left named fun _ _ second left => .pure ?_ left)
  rw [erase_parameter, mode, first, second]

theorem parameter_takes_written {mode type name : Lexeme}
    (split : cursor.lexemes = mode :: type :: name :: more) (typed : type.kind = .identifier)
    (named : name.kind = .identifier) (written : cursor.mode ≠ .input) :
    parameter.Takes cursor (fun read => erase read =
      ⟨cursor.mode, ⟨type.text, .origin⟩, ⟨name.text, .origin⟩, .origin⟩) more := by
  have mode : takeMode.Takes cursor (fun mode => mode = cursor.mode) (type :: name :: more) :=
    ⟨_, _, run_takeMode_of_ne written, rfl, (Cursor.current_of_lexemes split).2⟩
  unfold parameter
  refine .peek_bind (.bind mode fun _ _ mode left => .expectName_bind left typed
    fun _ _ first left => .expectName_bind left named fun _ _ second left => .pure ?_ left)
  rw [erase_parameter, mode, first, second]

theorem parameter_takes {lexemes : List Lexeme} {tree : Parameter}
    (phrase : ParameterPhrase lexemes tree) (split : cursor.lexemes = lexemes ++ more) :
    parameter.Takes cursor (fun read => erase read = tree) more := by
  obtain ⟨first, rest, whole⟩ : ∃ first rest, lexemes = first :: rest := by
    cases phrase <;> exact ⟨_, _, rfl⟩
  obtain ⟨here, left⟩ := Cursor.current_of_lexemes (whole ▸ split)
  cases phrase with
  | input typed plain named =>
      cases whole
      refine parameter_takes_unwritten split typed named ?_
      rw [← here] at typed plain
      replace typed : cursor.current.kind = .identifier := typed
      simp [isInOut, typed] at plain
      simp [Cursor.mode, modeOf, typed, plain]
  | inOut word typed named =>
      cases whole
      obtain ⟨there, _⟩ := Cursor.current_of_lexemes left
      have mode : cursor.mode = .inOut := by
        rw [← here] at word
        have next : cursor.advance.current.kind = .identifier := by
          rw [← there] at typed
          exact typed
        obtain ⟨kind, same⟩ : cursor.current.kind = .identifier ∧
            Text.sameWord cursor.current.text "INOUT" := isInOut_iff.mp word
        simp [Cursor.mode, modeOf, kind, same, next]
      exact mode ▸ parameter_takes_written split typed named (by rw [mode]; decide)
  | var kind typed named =>
      cases whole
      have mode : cursor.mode = .var := by
        rw [← here] at kind
        simp [Cursor.mode, modeOf, show cursor.current.kind = .var from kind]
      exact mode ▸ parameter_takes_written split typed named (by rw [mode]; decide)
  | pers kind typed named =>
      cases whole
      have mode : cursor.mode = .pers := by
        rw [← here] at kind
        simp [Cursor.mode, modeOf, show cursor.current.kind = .pers from kind]
      exact mode ▸ parameter_takes_written split typed named (by rw [mode]; decide)

theorem parameters_take {lexemes : List Lexeme} {values : List Parameter}
    (list : Parameters lexemes values) (split : cursor.lexemes = lexemes ++ more)
    (apart : lexemes = [] → nextKind more ≠ .leftParen) :
    parameters.Takes cursor (fun read => erase read = values) more := by
  unfold parameters
  cases list with
  | missing =>
      rw [List.nil_append] at split
      exact .accept_bind_of_ne (split ▸ apart rfl) (.pure rfl split)
  | @none opening close kind kind' =>
      refine .accept_bind split kind fun here left => ?_
      have empty : parameterList.Takes here (fun read => erase read = []) (close :: more) := by
        unfold parameterList
        refine .peekKind_bind ?_
        rw [if_pos (by rw [Cursor.kind_of_lexemes left, kind'])]
        exact .pure rfl left
      exact .bind empty fun _ _ same left => .expect_bind left kind' fun _ _ _ left =>
        .pure same left
  | @some opening close lexemes values kind list kind' =>
      replace split : cursor.lexemes = opening :: (lexemes ++ close :: more) := by
        simpa using split
      refine .accept_bind split kind fun here left => ?_
      have starts := list.starts (fun kind => kind ≠ .rightParen ∧ kind ≠ .endOfInput)
        (fun never => never.2 rfl) fun _ _ phrase => phrase.starts
      have next : nextKind (close :: more) = .rightParen := kind'
      have some : parameterList.Takes here (fun read => erase read = values) (close :: more) := by
        unfold parameterList
        refine .peekKind_bind ?_
        rw [if_neg (by rw [Cursor.kind_eq_nextKind, left, nextKind_append starts.2]; exact starts.1)]
        exact .separated list left (fun _ _ _ _ _ phrase split _ => parameter_takes phrase split)
          (by rw [next]; decide)
      exact .bind some fun _ _ same left => .expect_bind left kind' fun _ _ _ left =>
        .pure same left

/-! ## Routines -/

theorem statements_end {closes : TokenKind → Bool} {lexemes : List Lexeme}
    {statements : List Stmt} (list : LooseBody sure lexemes statements)
    (split : cursor.lexemes = lexemes ++ more)
    (opens : ∀ kind, startsStatement kind → closes kind = false)
    (close : closes (nextKind more)) :
    (body statement closes).Ends sure cursor (fun read => erase read = statements) more :=
  body_ends (statement_endsStatements _) (Nat.lt_succ_self _) list split opens close

/-- The parameters of a routine, its statements, and the word that closes it. -/
theorem routineRest_ends {closing : TokenKind} (other : startsStatement closing = false)
    {lexemes : List Lexeme} {values : List Parameter} {statements : List Stmt}
    {finish : List Parameter → List Stmt → Token → Decl} {good : Decl → Prop}
    (rest : LooseRest sure closing lexemes values statements)
    (split : cursor.lexemes = lexemes ++ more)
    (finished : ∀ read body close, erase read = values → erase body = statements →
      good (finish read body close)) :
    (parameters >>= fun values => body statement (· == closing) >>= fun statements =>
      expect closing >>= fun close => Pure.pure (finish values statements close)).Ends sure cursor
      good more := by
  cases rest with
  | @mk front lexemes close values statements list body kind apart =>
      have same : nextKind (lexemes ++ [close]) = nextKind (lexemes ++ close :: more) := by
        cases lexemes <;> rfl
      replace split : cursor.lexemes = front ++ (lexemes ++ close :: more) := by
        simpa using split
      refine .bind (.of_takes (parameters_take list split (same ▸ apart)))
        fun _ _ first left => ?_
      refine .bind (statements_end body left (fun _ => ne_of_startsStatement other)
        (beq_iff_eq.mpr kind)) fun _ _ second left => ?_
      exact .expect_bind left kind fun _ _ _ left => .pure (finished _ _ _ first second) left

/-! ## Records -/

theorem component_takes {lexemes : List Lexeme} {tree : Component}
    (phrase : ComponentPhrase lexemes tree) (split : cursor.lexemes = lexemes ++ more) :
    component.Takes cursor (fun read => erase read = tree) more := by
  cases phrase with
  | mk typed named =>
      unfold component
      refine .expectName_bind split typed fun _ _ first left => .expectName_bind left named
        fun _ _ second left => .pure ?_ left
      rw [erase_recordComponent, first, second]

theorem componentLine_takes {lexemes : List Lexeme} {tree : Component}
    (phrase : ComponentLine lexemes tree) (split : cursor.lexemes = lexemes ++ more) :
    (component >>= fun value => expect .semicolon >>= fun _ => Pure.pure value).Takes cursor
      (fun read => erase read = tree) more := by
  cases phrase with
  | @mk lexemes close tree phrase kind =>
      replace split : cursor.lexemes = lexemes ++ close :: more := by simpa using split
      exact .bind (component_takes phrase split) fun _ _ same left =>
        .expect_bind left kind fun _ _ _ left => .pure same left

theorem optionalComponent_takes {lexemes : List Lexeme} {tree : Component}
    (phrase : ComponentPhrase lexemes tree) (split : cursor.lexemes = lexemes ++ more) :
    optionalComponent.Takes cursor (fun read => erase read = some tree) more := by
  have starts := phrase.starts
  unfold optionalComponent
  refine .peekKind_bind ?_
  rw [if_neg]
  · exact .bind (component_takes phrase split) fun _ _ same left =>
      .pure (by rw [erase_some, same]) left
  · rw [Cursor.kind_eq_nextKind, split, nextKind_append (by rw [starts]; decide), starts]
    decide

theorem optionalComponent_takes_none {close : Lexeme} (kind : close.kind = .rightParen)
    (split : cursor.lexemes = close :: more) :
    optionalComponent.Takes cursor (fun read => read = none) (close :: more) := by
  unfold optionalComponent
  refine .peekKind_bind ?_
  rw [if_pos (by rw [Cursor.kind_of_lexemes split, kind])]
  exact .pure rfl split

theorem erase_filterMap_id (read : List (Option Component)) :
    erase (read.filterMap id) = (erase read).filterMap id := by
  induction read with
  | nil => rfl
  | cons first read ih =>
      cases first with
      | none => exact ih
      | some first => exact congrArg (erase first :: ·) ih

theorem Many.map {α β : Type} {phrase : List Lexeme → α → Prop} {phrase' : List Lexeme → β → Prop}
    {change : α → β} {lexemes : List Lexeme} {values : List α} (many : Many phrase lexemes values)
    (kept : ∀ lexemes value, phrase lexemes value → phrase' lexemes (change value)) :
    Many phrase' lexemes (values.map change) := by
  induction many with
  | nil => exact .nil
  | snoc _ holds ih =>
      rw [List.map_append]
      exact .snoc ih (kept _ _ holds)

/-- The components of a list, given what the repetition does behind them. -/
theorem componentList_passes {lexemes tail rest : List Lexeme} {values : List Component}
    (list : Separated ComponentPhrase lexemes values)
    (split : cursor.lexemes = lexemes ++ tail)
    (onward : ∀ reversed there others, erase reversed.reverse = others.map some →
      there.lexemes = tail →
      (collect (· == .comma) (take >>= fun _ => optionalComponent) reversed).Takes there
        (fun reversed => erase (reversed.reverse.filterMap id) = others) rest) :
    componentList.Takes cursor (fun read => erase read = values) rest := by
  obtain ⟨front, after, first, others, rfl, rfl, phrase, many⟩ := list.split
  rw [List.append_assoc] at split
  have mapped : Many (fun lexemes value => ∃ tree, value = some tree ∧
      AfterComma ComponentPhrase lexemes tree) after (others.map some) :=
    Many.map many fun _ tree phrase => ⟨tree, rfl, phrase⟩
  unfold componentList
  refine .bind (optionalComponent_takes phrase split) fun read here same left => ?_
  cases read with
  | none => cases same
  | some read =>
      have others' : (repeatWhile (· == .comma) (take >>= fun _ => optionalComponent)).Takes here
          (fun read => erase (read.filterMap id) = others) rest := by
        refine .repeatWhile_of_collect (.collect_many mapped left ?_ ?_
          fun reversed there same left => onward reversed there others same left)
        · rintro _ _ ⟨tree, _, phrase⟩
          exact phrase.comma_first
        · rintro there _ _ behind _ ⟨tree, rfl, comma, rest, rfl, _, phrase⟩ split' _
          exact .take_bind split' fun _ _ _ left => optionalComponent_takes phrase left
      refine .bind others' fun _ _ same' left => .pure ?_ left
      rw [erase_cons, same', Option.some.inj same]

theorem componentList_takes {lexemes : List Lexeme} {values : List Component} {close : Lexeme}
    (list : ComponentList lexemes values) (kind : close.kind = .rightParen)
    (split : cursor.lexemes = lexemes ++ close :: more) :
    componentList.Takes cursor (fun read => erase read = values) (close :: more) := by
  have mapped : ∀ others : List Component, (others.map some).filterMap id = others := by
    intro others
    rw [List.filterMap_map]
    exact List.filterMap_some
  cases list with
  | none =>
      unfold componentList
      refine .bind (optionalComponent_takes_none kind split) fun read here same left => ?_
      rw [same]
      exact .pure rfl left
  | some list =>
      refine componentList_passes list split fun reversed there others same left => ?_
      rw [← left]
      refine .collect_stop (by rw [left, nextKind, kind]; rfl) ?_
      rw [erase_filterMap_id, same, mapped]
  | @trailing lexemes comma values list comma' =>
      replace split : cursor.lexemes = lexemes ++ comma :: close :: more := by
        simpa using split
      refine componentList_passes list split fun reversed there others same left => ?_
      have once : (take >>= fun _ => optionalComponent).Takes there (fun read => read = none)
          (close :: more) :=
        .take_bind left fun _ _ _ left => optionalComponent_takes_none kind left
      refine .collect_next (by rw [left, nextKind, comma']; rfl) once (by simp [left])
        fun next here none left => ?_
      rw [← left]
      refine .collect_stop (by rw [left, nextKind, kind]; rfl) ?_
      rw [erase_filterMap_id, List.reverse_cons, erase_append, same, none, List.filterMap_append,
        mapped]
      exact List.append_nil others

theorem recordList_takes {opening name left right close : Lexeme} {lexemes : List Lexeme}
    {components : List Component} (named : name.kind = .identifier)
    (left' : left.kind = .leftParen) (list : ComponentList lexemes components)
    (right' : right.kind = .rightParen) (kind : close.kind = .semicolon)
    (split : cursor.lexemes = opening :: name :: left :: (lexemes ++ right :: close :: more)) :
    recordDeclaration.Takes cursor
      (fun read => erase read = .record ⟨name.text, .origin⟩ components .origin) more := by
  unfold recordDeclaration
  refine .take_bind split fun _ _ _ rest => .expectName_bind rest named fun _ _ name' rest =>
    .accept_bind rest left' fun _ rest => ?_
  refine .bind (componentList_takes list right' rest) fun _ _ components' rest => ?_
  refine .expect_bind rest right' fun _ _ _ rest => .expect_bind rest kind fun _ _ _ rest =>
    .pure ?_ rest
  rw [erase_record, name', components']

theorem recordBlock_takes {opening name close : Lexeme} {lexemes : List Lexeme}
    {components : List Component} (named : name.kind = .identifier)
    (list : Many ComponentLine lexemes components) (kind : close.kind = .endRecord)
    (split : cursor.lexemes = opening :: name :: (lexemes ++ close :: more)) :
    recordDeclaration.Takes cursor
      (fun read => erase read = .record ⟨name.text, .origin⟩ components .origin) more := by
  have starts : ∀ front value, ComponentLine front value → nextKind front = .identifier := by
    rintro _ _ ⟨phrase, close⟩
    rw [nextKind_append (by rw [phrase.starts]; decide), phrase.starts]
  have next : nextKind (lexemes ++ close :: more) = .identifier ∨
      nextKind (lexemes ++ close :: more) = .endRecord := by
    rcases list.starts (· = .identifier) (by decide) starts with rfl | first
    · exact .inr kind
    · exact .inl (by rw [nextKind_append (by rw [first]; decide), first])
  unfold recordDeclaration
  refine .take_bind split fun _ _ _ rest => .expectName_bind rest named fun _ here name' rest =>
    .accept_bind_of_ne (by rw [rest]; rcases next with next | next <;> rw [next] <;> decide) ?_
  refine .bind (.many list rest ?_ (fun _ _ _ _ _ phrase split _ =>
    componentLine_takes phrase split) (by rw [nextKind, kind]; rfl))
    fun _ _ components' rest => ?_
  · intro front value phrase
    have first := starts _ _ phrase
    refine ⟨ne_nil_of_nextKind first (by decide), fun behind => ?_⟩
    rw [nextKind_append (by rw [first]; decide), first]
    rfl
  refine .expect_bind rest kind fun _ _ _ rest => .pure ?_ rest
  rw [erase_record, name', components']

/-! ## Declarations, modules and programs -/

theorem procDeclaration_ends {opening name : Lexeme} {lexemes : List Lexeme}
    {parameters : List Parameter} {body : List Stmt} (named : name.kind = .identifier)
    (rest : LooseRest sure .endProc lexemes parameters body)
    (split : cursor.lexemes = opening :: name :: (lexemes ++ more)) :
    procDeclaration.Ends sure cursor
      (fun read => erase read = .proc ⟨name.text, .origin⟩ parameters body .origin) more := by
  unfold procDeclaration
  refine .take_bind split fun _ _ _ left => .expectName_bind left named fun _ _ name' left => ?_
  refine routineRest_ends rfl rest left fun _ _ _ parameters' body' => ?_
  rw [erase_proc, name', parameters', body']

theorem funcDeclaration_ends {opening type name : Lexeme} {lexemes : List Lexeme}
    {parameters : List Parameter} {body : List Stmt} (typed : type.kind = .identifier)
    (named : name.kind = .identifier) (rest : LooseRest sure .endFunc lexemes parameters body)
    (split : cursor.lexemes = opening :: type :: name :: (lexemes ++ more)) :
    funcDeclaration.Ends sure cursor (fun read => erase read =
      .func ⟨type.text, .origin⟩ ⟨name.text, .origin⟩ parameters body .origin) more := by
  unfold funcDeclaration
  refine .take_bind split fun _ _ _ left => .expectName_bind left typed fun _ _ type' left =>
    .expectName_bind left named fun _ _ name' left => ?_
  refine routineRest_ends rfl rest left fun _ _ _ parameters' body' => ?_
  rw [erase_func, type', name', parameters', body']

theorem trapDeclaration_ends {opening name close : Lexeme} {lexemes : List Lexeme}
    {body : List Stmt} (named : name.kind = .identifier) (list : LooseBody sure lexemes body)
    (kind : close.kind = .endTrap)
    (split : cursor.lexemes = opening :: name :: (lexemes ++ close :: more)) :
    trapDeclaration.Ends sure cursor
      (fun read => erase read = .trap ⟨name.text, .origin⟩ body .origin) more := by
  unfold trapDeclaration
  refine .take_bind split fun _ _ _ left => .expectName_bind left named fun _ _ name' left => ?_
  refine .bind (statements_end list left (fun _ => ne_of_startsStatement rfl)
    (beq_iff_eq.mpr kind)) fun _ _ body' left => .expect_bind left kind fun _ _ _ left => .pure ?_ left
  rw [erase_trap, name', body']

theorem dataDeclaration_takes {lexemes : List Lexeme} {item : DataItem}
    (data : DataDeclaration lexemes item) (split : cursor.lexemes = lexemes ++ more) :
    (dataItem >>= fun (item, span) => Pure.pure (Decl.data item span)).Takes cursor
      (fun read => erase read = .data item .origin) more := by
  refine .bind (dataItem_takes data split) fun read _ same left => .pure ?_ left
  rw [erase_dataDeclaration, same]

theorem declaration_takes_bodiless {lexemes : List Lexeme} {tree : Decl}
    (phrase : Declaration lexemes tree) (bodiless : isBodiless tree)
    (split : cursor.lexemes = lexemes ++ more) :
    declaration.Takes cursor (fun read => erase read = tree) more := by
  unfold declaration
  refine .peekKind_bind ?_
  cases phrase with
  | proc | func | trap => cases bodiless
  | data data =>
      have takes := dataDeclaration_takes data split
      obtain ⟨storage, opening⟩ := data.starts
      have same : cursor.kind = nextKind lexemes := by
        rw [Cursor.kind_eq_nextKind, split, nextKind_append]
        intro finished
        rw [finished] at opening
        cases opening
      rw [same]
      generalize nextKind lexemes = kind at opening
      cases kind <;> first | exact takes | cases opening
  | recordList opening named left list right kind =>
      rw [Cursor.kind_of_lexemes split, opening]
      exact recordList_takes named left list right kind (by simpa using split)
  | recordBlock opening named list kind =>
      rw [Cursor.kind_of_lexemes split, opening]
      exact recordBlock_takes named list kind (by simpa using split)

theorem declaration_ends {lexemes : List Lexeme} {tree : Decl}
    (phrase : LooseDeclaration sure lexemes tree) (split : cursor.lexemes = lexemes ++ more) :
    declaration.Ends sure cursor (fun read => erase read = tree) more := by
  cases phrase with
  | bodiless phrase bodiless => exact .of_takes (declaration_takes_bodiless phrase bodiless split)
  | proc opening named rest =>
      unfold declaration
      refine .peekKind_bind ?_
      rw [Cursor.kind_of_lexemes split, opening]
      exact procDeclaration_ends named rest split
  | func opening typed named rest =>
      unfold declaration
      refine .peekKind_bind ?_
      rw [Cursor.kind_of_lexemes split, opening]
      exact funcDeclaration_ends typed named rest split
  | trap opening named list kind =>
      unfold declaration
      refine .peekKind_bind ?_
      rw [Cursor.kind_of_lexemes split, opening]
      exact trapDeclaration_ends named list kind (by simpa using split)

theorem module_ends {lexemes : List Lexeme} {tree : Module}
    (phrase : LooseModule sure lexemes tree) (split : cursor.lexemes = lexemes ++ more) :
    «module».Ends sure cursor (fun read => erase read = tree) more := by
  cases phrase with
  | @mk opening name close lexemes declarations kind named list kind' =>
      replace split : cursor.lexemes = opening :: name :: (lexemes ++ close :: more) := by
        simpa using split
      unfold «module»
      refine .expect_bind split kind fun _ _ _ left => .expectName_bind left named
        fun _ _ name' left => ?_
      refine .bind (.many list left ?_ (fun _ _ _ _ _ phrase split _ =>
        declaration_ends phrase split) (by rw [nextKind, kind']; rfl))
        fun _ _ list' left => .expect_bind left kind' fun _ _ _ left => .pure ?_ left
      · intro front value phrase
        have starts := phrase.starts
        refine ⟨phrase.ne_nil, fun behind => ?_⟩
        rw [nextKind_append (ne_endOfInput_of_startsDeclaration starts)]
        generalize nextKind front = kind at starts
        cases kind <;> first | rfl | cases starts
      · rw [erase_module, name', list']

/-- The reader of programs can end with no other tree than that of the loose program there. -/
theorem program_ends {lexemes : List Lexeme} {tree : Program}
    (phrase : LooseProgram sure lexemes tree) (split : cursor.lexemes = lexemes) :
    program.Ends sure cursor (fun read => erase read = tree) [] := by
  rw [← List.append_nil lexemes] at split
  cases phrase with
  | mk list =>
      unfold program
      refine .peek_bind (.bind (.many list split ?_ (fun _ _ _ _ _ phrase split _ =>
        module_ends phrase split) rfl) fun _ _ same left => .pure ?_ left)
      · rintro _ _ ⟨kind, _, _, _⟩
        refine ⟨by simp, fun behind => ?_⟩
        simp [nextKind, kind]
      · rw [erase_program, same]

/-- The reader of programs takes every program. -/
theorem program_takes {lexemes : List Lexeme} {tree : Program}
    (phrase : ProgramPhrase lexemes tree) (split : cursor.lexemes = lexemes) :
    program.Takes cursor (fun read => erase read = tree) [] :=
  (program_ends phrase.loose split).takes

end Parser

end RapidLang
