import RapidLang.Proofs.Parser.Phrases.Expression

/-!
# Statements that are read

The lexemes that a statement is read from form it by the grammar. The lexemes before an error begin
some statement: what is still missing there can be filled in.
-/

set_option autoImplicit false

namespace RapidLang

namespace Parser

open Grammar Reader

/-- The lexemes form a statement. -/
def IsStatement (lexemes : List Lexeme) : Prop :=
  ∃ tree, Statement lexemes tree

/-- At every cursor the reader takes a statement or fails within one. -/
def ReadsStatement (reader : Reader Stmt) : Prop :=
  ∀ cursor, reader.Meets cursor (fun read value _ => Statement read (erase value))
    (Begun IsStatement)

variable {cursor : Cursor}

private theorem sample (kind : TokenKind) : (Lexeme.ofKind kind).kind = kind :=
  Lexeme.kind_ofKind kind

/-! ## Data -/

theorem initial_meets (cursor : Cursor) :
    (optionalAfter .assign expression).Meets cursor (fun read value _ => Initial read (erase value))
      (fun read => ∃ more value, Initial (read ++ more) value) := by
  refine .optionalAfter (by decide) (fun mark => ?_) (fun _ => .none)
  refine (expression_meets _).mono ?_ ?_
  · rintro read value _ _ ⟨tail, operation, _⟩
    exact .some mark operation
  · rintro read ⟨more, ⟨tree, tail, operation⟩, _⟩
    exact ⟨more, _, .some mark operation⟩

/-- The lexemes declare data. -/
def IsDataDeclaration (lexemes : List Lexeme) : Prop :=
  ∃ item, DataDeclaration lexemes item

theorem dataItem_meets {storage : Storage} (opening : storage? cursor.kind = some storage) :
    dataItem.Meets cursor (fun read item _ => DataDeclaration read (erase item.1))
      (Begun IsDataDeclaration) := by
  have inside : cursor.kind ≠ .endOfInput := by
    intro finished
    rw [finished] at opening
    cases opening
  replace opening : storage? cursor.current.lexeme.kind = some storage := opening
  unfold dataItem
  refine .take_bind inside (.expectName_bind ?_ fun type => .expectName_bind ?_ fun name => ?_)
  · have whole := DataDeclaration.mk opening (sample .identifier) (sample .identifier) .none
      (sample .semicolon)
    exact .of_split ⟨_, whole⟩ (by simp) rfl
  · have whole := DataDeclaration.mk opening type (sample .identifier) .none (sample .semicolon)
    exact .of_split ⟨_, whole⟩ (by simp) rfl
  · refine .bind (initial_meets _) ?_ ?_
    · rintro read _ _ ⟨more, value, initial⟩
      have whole := DataDeclaration.mk opening type name initial (sample .semicolon)
      exact .of_split ⟨_, whole⟩ (by simp) (by simp; rfl)
    · intro read value behind _ initial
      refine .expect_bind (by decide) ?_ (fun close => .pure ?_)
      · have whole := DataDeclaration.mk opening type name initial (sample .semicolon)
        exact .of_split ⟨_, whole⟩ (by simp) (by simp; rfl)
      · have stored : storageOf cursor.current.kind = storage := storageOf_eq opening
        rw [erase_dataItem, stored]
        exact .mk opening type name initial close

/-! ## Bodies -/

/-- The lexemes are statements one after the other. -/
def IsBody (lexemes : List Lexeme) : Prop :=
  ∃ statements, Body lexemes statements

theorem body_meets {reader : Reader Stmt} (reads : ReadsStatement reader)
    (closes : TokenKind → Bool) (cursor : Cursor) :
    (body reader closes).Meets cursor (fun read statements _ => Body read (erase statements))
      (Begun IsBody) := by
  unfold body
  refine (Meets.repeatWhile (fun read statements _ => Body read (erase statements)) .nil ?_).mono
    (fun _ _ _ _ holds => holds.1) (fun _ fails => fails)
  intro read statements here earlier _
  refine (reads here).mono ?_ ?_
  · intro more value _ _ statement
    rw [erase_append]
    exact ⟨statement.ne_nil, .snoc earlier statement⟩
  · intro more begun
    exact begun.mono _ fun _ ⟨tree, statement⟩ => ⟨_, .snoc earlier statement⟩

/-! ## Conditionals -/

theorem branch_meets {reader : Reader Stmt} (reads : ReadsStatement reader) {kind : TokenKind}
    (opening : cursor.kind = kind) (inside : kind ≠ .endOfInput) :
    (branch reader).Meets cursor (fun read value _ => Guarded kind read (erase value))
      (Begun fun lexemes => ∃ branch, Guarded kind lexemes branch) := by
  unfold branch
  refine .take_bind (opening ▸ inside) (.bind (expression_meets _) ?_ ?_)
  all_goals replace opening : cursor.current.lexeme.kind = kind := opening
  · rintro head _ _ ⟨more, ⟨tree, tail, operation⟩, _⟩
    exact .of_split ⟨_, Guarded.mk opening operation (sample .then) .nil⟩ (by simp) (by simp; rfl)
  · rintro head condition behind _ ⟨tail, operation, _⟩
    refine .expect_bind (by decide) ?_ (fun link => .bind (body_meets reads _ _) ?_ ?_)
    · exact .of_split ⟨_, Guarded.mk opening operation (sample .then) .nil⟩ (by simp) (by simp; rfl)
    · rintro read _ _ ⟨more, ⟨statements, body⟩, _⟩
      exact .of_split ⟨_, Guarded.mk opening operation link body⟩ (by simp) (by simp; rfl)
    · intro read statements last _ body
      refine .pure ?_
      rw [erase_branch]
      simpa using Guarded.mk opening operation link body

theorem otherwise_meets {reader : Reader Stmt} (reads : ReadsStatement reader) (cursor : Cursor) :
    (optionalAfter .else (body reader (· == .endIf))).Meets cursor
      (fun read value _ => Otherwise read (erase value))
      (fun read => ∃ more value, Otherwise (read ++ more) value) := by
  refine .optionalAfter (by decide) (fun opening => ?_) (fun _ => .none)
  refine (body_meets reads _ _).mono ?_ ?_
  · intro read value _ _ body
    exact .some opening body
  · rintro read ⟨more, ⟨statements, body⟩, _⟩
    exact ⟨more, _, .some opening body⟩

theorem branches_meets {reader : Reader Stmt} (reads : ReadsStatement reader) {front : List Lexeme}
    {first : Branch} (guarded : Guarded .if front (erase first)) (cursor : Cursor) :
    (repeatWhile (· == .elseIf) (branch reader)).Meets cursor
      (fun read others _ => Branches (front ++ read) (erase (first :: others)))
      (fun read => ∃ more branches, Branches (front ++ (read ++ more)) branches) := by
  refine (Meets.repeatWhile
    (fun read others _ => Branches (front ++ read) (erase (first :: others))) ?_ ?_).mono
    (fun _ _ _ _ holds => holds.1) (fun _ fails => fails)
  · simpa using .first guarded
  · intro read others here list opening
    refine (branch_meets reads (beq_iff_eq.mp opening) (by decide)).mono ?_ ?_
    · intro more value _ _ guarded
      refine ⟨guarded.ne_nil, ?_⟩
      simpa using Branches.more list guarded
    · rintro more' ⟨more, ⟨branch, guarded⟩, _⟩
      exact ⟨more, _, by simpa using Branches.more list guarded⟩

theorem conditional_meets {reader : Reader Stmt} (reads : ReadsStatement reader)
    (opening : cursor.kind = .if) :
    (conditional reader).Meets cursor (fun read value _ => Statement read (erase value))
      (Begun IsStatement) := by
  unfold conditional
  refine .peek_bind (.bind (branch_meets reads opening (by decide)) ?_ ?_)
  · rintro read _ _ ⟨more, ⟨branch, guarded⟩, name⟩
    have whole := Statement.conditional (.first guarded) .none (sample .endIf)
    refine ⟨more ++ [Lexeme.ofKind .endIf], ⟨_, by simpa using whole⟩, fun empty => ?_⟩
    rw [nextKind_append (by rw [name empty]; decide), name empty]
  · intro front first behind _ guarded
    have some := guarded.ne_nil
    refine .bind (branches_meets reads guarded _) ?_ ?_
    · rintro read _ _ ⟨more, branches, list⟩
      have whole := Statement.conditional list .none (sample .endIf)
      exact .of_split ⟨_, whole⟩ (by simp [some]) (by simp; rfl)
    · intro read others behind _ list
      refine .bind (otherwise_meets reads _) ?_ ?_
      · rintro last _ _ ⟨more, value, otherwise⟩
        have whole := Statement.conditional list otherwise (sample .endIf)
        exact .of_split ⟨_, whole⟩ (by simp [some]) (by simp; rfl)
      · intro last value behind _ otherwise
        refine .expect_bind (by decide) ?_ (fun close => .pure ?_)
        · have whole := Statement.conditional list otherwise (sample .endIf)
          exact .of_split ⟨_, whole⟩ (by simp [some]) (by simp; rfl)
        · rw [erase_conditional]
          simpa using Statement.conditional list otherwise close

/-! ## Loops -/

theorem nextKind_read (property : TokenKind → Prop) {read rest more : List Lexeme}
    (holds : property cursor.kind) (split : cursor.lexemes = read ++ rest)
    (name : read = [] → property (nextKind more)) : property (nextKind (read ++ more)) := by
  cases read with
  | nil => exact name rfl
  | cons first read => rwa [cursor.kind_eq_nextKind, split] at holds

/-- The body of a loop and the word that closes it. The body follows an expression at once, and does
not begin with a lexeme that could belong to that expression. -/
theorem loopBody_meets {reader : Reader Stmt} (reads : ReadsStatement reader) {tail : Tail}
    (stops : Stops 1 tail cursor.kind) {closing : TokenKind} (inside : closing ≠ .endOfInput)
    (apart : Stops 1 tail closing) {closes : TokenKind → Bool} {finish : List Stmt → Token → Stmt}
    {good : List Lexeme → Stmt → Cursor → Prop} {bad : List Lexeme → Prop}
    (finished : ∀ lexemes statements close behind, Body lexemes (erase statements) →
      close.kind = closing → Stops 1 tail (nextKind (lexemes ++ [close.lexeme])) →
      good (lexemes ++ [close.lexeme]) (finish statements close) behind)
    (unfinished : ∀ read more lexemes statements, read ++ more = lexemes ++ [Lexeme.ofKind closing] →
      Body lexemes statements → Stops 1 tail (nextKind (lexemes ++ [Lexeme.ofKind closing])) →
      bad read) :
    (body reader closes >>= fun statements => expect closing >>= fun close =>
      Pure.pure (finish statements close)).Meets cursor good bad := by
  refine .bind (body_meets reads _ _) ?_ ?_
  · rintro read rest split ⟨more, ⟨statements, body⟩, name⟩
    refine unfinished read (more ++ [Lexeme.ofKind closing]) _ statements (by simp) body ?_
    rw [List.append_assoc]
    refine nextKind_read _ stops split fun empty => ?_
    rw [nextKind_append (by rw [name empty]; decide), name empty]
    exact .of_plain rfl rfl
  · intro read statements last split body
    have kept : ∀ close : Lexeme, close.kind = closing →
        Stops 1 tail (nextKind (read ++ [close])) :=
      fun close kind => nextKind_read _ stops split fun _ => by rwa [nextKind, kind]
    refine .expect_bind inside ?_ (fun close => .pure ?_)
    · simpa using unfinished read [Lexeme.ofKind closing] _ _ rfl body (kept _ rfl)
    · exact finished _ _ _ _ body close (kept _ close)

theorem whileLoop_meets {reader : Reader Stmt} (reads : ReadsStatement reader)
    (opening : cursor.kind = .while) :
    (whileLoop reader).Meets cursor (fun read value _ => Statement read (erase value))
      (Begun IsStatement) := by
  unfold whileLoop
  refine .take_bind (by rw [opening]; decide) ?_
  replace opening : cursor.current.lexeme.kind = .while := opening
  refine .bind (expression_meets _) ?_ ?_
  · rintro head _ _ ⟨more, ⟨tree, tail, operation⟩, _⟩
    have whole := Statement.while opening operation (.of_plain rfl rfl) .nil (sample .endWhile)
    exact .of_split ⟨_, whole⟩ (by simp) (by simp; rfl)
  · rintro head condition behind _ ⟨tail, operation, stops⟩
    refine loopBody_meets reads stops (by decide) (.of_plain rfl rfl) ?_ ?_
    · intro lexemes statements close _ body kind apart
      rw [erase_while]
      exact .while opening operation apart body kind
    · intro read more lexemes statements split body apart
      have whole := Statement.while opening operation apart body (sample .endWhile)
      rw [← split] at whole
      exact .of_split ⟨_, whole⟩ (by simp) (by simp; rfl)

theorem forLoop_meets {reader : Reader Stmt} (reads : ReadsStatement reader)
    (opening : cursor.kind = .for) :
    (forLoop reader).Meets cursor (fun read value _ => Statement read (erase value))
      (Begun IsStatement) := by
  have operand := Operation.sample 1
  unfold forLoop
  refine .take_bind (by rw [opening]; decide) ?_
  replace opening : cursor.current.lexeme.kind = .for := opening
  refine .expectName_bind ?_ fun counter => .expect_bind (by decide) ?_ fun start =>
    .bind (expression_meets _) ?_ ?_
  · have whole := Statement.for opening (sample .identifier) (sample .from) operand (sample .to)
      operand (.of_plain rfl rfl) .nil (sample .endFor)
    exact .of_split ⟨_, whole⟩ (by simp) (by simp; rfl)
  · have whole := Statement.for opening counter (sample .from) operand (sample .to)
      operand (.of_plain rfl rfl) .nil (sample .endFor)
    exact .of_split ⟨_, whole⟩ (by simp) (by simp; rfl)
  · rintro low _ _ ⟨more, ⟨tree, tail, operation⟩, _⟩
    have whole := Statement.for opening counter start operation (sample .to)
      operand (.of_plain rfl rfl) .nil (sample .endFor)
    exact .of_split ⟨_, whole⟩ (by simp) (by simp; rfl)
  · rintro low first behind _ ⟨_, from', _⟩
    refine .expect_bind (by decide) ?_ fun up => .bind (expression_meets _) ?_ ?_
    · have whole := Statement.for opening counter start from' (sample .to)
        operand (.of_plain rfl rfl) .nil (sample .endFor)
      exact .of_split ⟨_, whole⟩ (by simp) (by simp; rfl)
    · rintro high _ _ ⟨more, ⟨tree, tail, operation⟩, _⟩
      have whole := Statement.for opening counter start from' up
        operation (.of_plain rfl rfl) .nil (sample .endFor)
      exact .of_split ⟨_, whole⟩ (by simp) (by simp; rfl)
    · rintro high last behind _ ⟨tail, to', stops⟩
      refine loopBody_meets reads stops (by decide) (.of_plain rfl rfl) ?_ ?_
      · intro lexemes statements close _ body kind apart
        rw [erase_for]
        exact .for opening counter start from' up to' apart body kind
      · intro read more lexemes statements split body apart
        have whole := Statement.for opening counter start from' up to' apart body
          (sample .endFor)
        rw [← split] at whole
        exact .of_split ⟨_, whole⟩ (by simp) (by simp; rfl)

/-! ## Returns, motions, errors -/

theorem returnValue_meets (cursor : Cursor) :
    returnValue.Meets cursor
      (fun read value _ => (read = [] ∧ value = none) ∨
        ∃ result tail, value = some result ∧ Expression read (erase result) tail)
      (Begun (IsOperation 1)) := by
  unfold returnValue
  refine .peekKind_bind ?_
  split
  · exact .pure (.inl ⟨rfl, rfl⟩)
  · exact .pure (.inl ⟨rfl, rfl⟩)
  · exact .pure (.inl ⟨rfl, rfl⟩)
  · refine .bind (expression_meets _) (fun _ _ _ fails => fails) ?_
    rintro read value behind _ ⟨tail, operation, _⟩
    exact .pure (.inr ⟨value, tail, rfl, by simpa using operation⟩)

theorem returnStatement_meets (opening : cursor.kind = .return) :
    returnStatement.Meets cursor (fun read value _ => Statement read (erase value))
      (Begun IsStatement) := by
  unfold returnStatement
  refine .take_bind (by rw [opening]; decide) (.bind (returnValue_meets _) ?_ ?_)
  all_goals replace opening : cursor.current.lexeme.kind = .return := opening
  · rintro read _ _ ⟨more, ⟨tree, tail, operation⟩, _⟩
    have whole := Statement.returnSome opening operation (sample .semicolon)
    exact .of_split ⟨_, whole⟩ (by simp) (by simp; rfl)
  · rintro read value behind _ (⟨rfl, rfl⟩ | ⟨result, tail, rfl, operation⟩)
    · refine .expect_bind (by decide) ?_ (fun close => .pure (.returnNone opening close))
      have whole := Statement.returnNone opening (sample .semicolon)
      exact .of_split ⟨_, whole⟩ (by simp) (by simp; rfl)
    · refine .expect_bind (by decide) ?_ (fun close => .pure (.returnSome opening operation close))
      have whole := Statement.returnSome opening operation (sample .semicolon)
      exact .of_split ⟨_, whole⟩ (by simp) (by simp; rfl)

theorem workObjectOf_append (options : List (Name × Option Expr)) (name : Name)
    (value : Option Expr) :
    workObjectOf (options ++ [(name, value)]) =
      if Text.sameWord name.text "WObj" then value else workObjectOf options := by
  unfold workObjectOf
  by_cases named : Text.sameWord name.text "WObj" <;> simp [named, List.filter_append]

theorem optionalArgument_meets (opening : cursor.kind = .backslash) :
    optionalArgument.Meets cursor
      (fun read option _ => ∃ word lexemes, read = cursor.current.lexeme :: word :: lexemes ∧
        word.kind = .identifier ∧ word.text = option.1.text ∧ Initial lexemes (erase option.2))
      (fun read => ∃ more word lexemes value,
        read ++ more = cursor.current.lexeme :: word :: lexemes ∧ word.kind = .identifier ∧
          Initial lexemes value) := by
  unfold optionalArgument
  refine .take_bind (by rw [opening]; decide) (.expectName_bind ?_ fun name => ?_)
  · exact ⟨_, _, [], _, rfl, sample .identifier, .none⟩
  · refine .bind (initial_meets _) ?_ ?_
    · rintro read _ _ ⟨more, value, initial⟩
      exact ⟨more, _, _, value, by simp, name, initial⟩
    · intro read value behind _ initial
      exact .pure ⟨_, read, by simp, name, rfl, initial⟩

theorem switches_meets (cursor : Cursor) :
    (repeatWhile (· == .backslash) optionalArgument).Meets cursor
      (fun read options _ => Switches read (erase (workObjectOf options)))
      (fun read => ∃ more value, Switches (read ++ more) value) := by
  refine (Meets.repeatWhile (fun read options _ => Switches read (erase (workObjectOf options)))
    .none ?_).mono (fun _ _ _ _ holds => holds.1) (fun _ fails => fails)
  intro read options here switches opening
  have mark : here.current.lexeme.kind = .backslash := beq_iff_eq.mp opening
  refine (optionalArgument_meets mark).mono ?_ ?_
  · rintro _ ⟨name, value⟩ _ _ ⟨word, lexemes, rfl, kind, same, initial⟩
    refine ⟨by simp, ?_⟩
    have longer := Switches.more switches mark kind initial
    rw [workObjectOf_append, apply_ite erase]
    rwa [same] at longer
  · rintro more' ⟨more, word, lexemes, value, split, kind, initial⟩
    have longer := Switches.more switches mark kind initial
    exact ⟨more, _, by rw [List.append_assoc, split]; exact longer⟩

theorem moveStatement_meets {motion : Motion} (opening : motion? cursor.kind = some motion) :
    moveStatement.Meets cursor (fun read value _ => Statement read (erase value))
      (Begun IsStatement) := by
  have inside : cursor.kind ≠ .endOfInput := by
    intro finished
    rw [finished] at opening
    cases opening
  replace opening : motion? cursor.current.lexeme.kind = some motion := opening
  have x := Operation.sample 1
  have comma := sample .comma
  have stop := sample .semicolon
  unfold moveStatement
  refine .take_bind inside (.bind (expression_meets _) ?_ ?_)
  · rintro target _ _ ⟨more, ⟨tree, tail, operation⟩, _⟩
    have whole := Statement.move opening operation comma x comma x comma x .none stop
    exact .of_split ⟨_, whole⟩ (by simp) (by simp; rfl)
  rintro target goal behind _ ⟨_, first, _⟩
  refine .expect_bind (by decide) ?_ fun comma₁ => .bind (expression_meets _) ?_ ?_
  · have whole := Statement.move opening first comma x comma x comma x .none stop
    exact .of_split ⟨_, whole⟩ (by simp) (by simp; rfl)
  · rintro speed _ _ ⟨more, ⟨tree, tail, operation⟩, _⟩
    have whole := Statement.move opening first comma₁ operation comma x comma x .none stop
    exact .of_split ⟨_, whole⟩ (by simp) (by simp; rfl)
  rintro speed pace behind _ ⟨_, second, _⟩
  refine .expect_bind (by decide) ?_ fun comma₂ => .bind (expression_meets _) ?_ ?_
  · have whole := Statement.move opening first comma₁ second comma x comma x .none stop
    exact .of_split ⟨_, whole⟩ (by simp) (by simp; rfl)
  · rintro zone _ _ ⟨more, ⟨tree, tail, operation⟩, _⟩
    have whole := Statement.move opening first comma₁ second comma₂ operation comma x .none stop
    exact .of_split ⟨_, whole⟩ (by simp) (by simp; rfl)
  rintro zone area behind _ ⟨_, third, _⟩
  refine .expect_bind (by decide) ?_ fun comma₃ => .bind (expression_meets _) ?_ ?_
  · have whole := Statement.move opening first comma₁ second comma₂ third comma x .none stop
    exact .of_split ⟨_, whole⟩ (by simp) (by simp; rfl)
  · rintro tool _ _ ⟨more, ⟨tree, tail, operation⟩, _⟩
    have whole := Statement.move opening first comma₁ second comma₂ third comma₃ operation .none
      stop
    exact .of_split ⟨_, whole⟩ (by simp) (by simp; rfl)
  rintro tool gear behind _ ⟨_, fourth, _⟩
  refine .bind (switches_meets _) ?_ ?_
  · rintro switches _ _ ⟨more, value, more'⟩
    have whole := Statement.move opening first comma₁ second comma₂ third comma₃ fourth more' stop
    exact .of_split ⟨_, whole⟩ (by simp) (by simp; rfl)
  intro switches options behind _ more
  refine .expect_bind (by decide) ?_ (fun close => .pure ?_)
  · have whole := Statement.move opening first comma₁ second comma₂ third comma₃ fourth more stop
    exact .of_split ⟨_, whole⟩ (by simp) (by simp; rfl)
  · have named : motionOf cursor.current.kind = motion := motionOf_eq opening
    rw [erase_move, named]
    exact .move opening first comma₁ second comma₂ third comma₃ fourth more close

theorem connectStatement_meets (opening : cursor.kind = .connect) :
    connectStatement.Meets cursor (fun read value _ => Statement read (erase value))
      (Begun IsStatement) := by
  unfold connectStatement
  refine .take_bind (by rw [opening]; decide) ?_
  replace opening : cursor.current.lexeme.kind = .connect := opening
  refine .expectName_bind ?_ fun trap => .expect_bind (by decide) ?_ fun link =>
    .expectName_bind ?_ fun error => .expect_bind (by decide) ?_ fun close => .pure ?_
  · have whole := Statement.connect opening (sample .identifier) (sample .with)
      (sample .identifier) (sample .semicolon)
    exact .of_split ⟨_, whole⟩ (by simp) rfl
  · have whole := Statement.connect opening trap (sample .with) (sample .identifier)
      (sample .semicolon)
    exact .of_split ⟨_, whole⟩ (by simp) rfl
  · have whole := Statement.connect opening trap link (sample .identifier) (sample .semicolon)
    exact .of_split ⟨_, whole⟩ (by simp) rfl
  · have whole := Statement.connect opening trap link error (sample .semicolon)
    exact .of_split ⟨_, whole⟩ (by simp) rfl
  · exact .connect opening trap link error close

theorem raiseStatement_meets (opening : cursor.kind = .raise) :
    raiseStatement.Meets cursor (fun read value _ => Statement read (erase value))
      (Begun IsStatement) := by
  unfold raiseStatement
  refine .take_bind (by rw [opening]; decide) ?_
  replace opening : cursor.current.lexeme.kind = .raise := opening
  refine .expectName_bind ?_ fun error => .expect_bind (by decide) ?_ fun close => .pure ?_
  · have whole := Statement.raise opening (sample .identifier) (sample .semicolon)
    exact .of_split ⟨_, whole⟩ (by simp) rfl
  · have whole := Statement.raise opening error (sample .semicolon)
    exact .of_split ⟨_, whole⟩ (by simp) rfl
  · exact .raise opening error close

/-! ## Selections -/

theorem testPart_meets {reader : Reader Stmt} (reads : ReadsStatement reader) {front : List Lexeme}
    {parts : List TestPart}
    (earlier : Selection front (erase (armsOf parts)) (erase (defaultOf parts)))
    (opening : cursor.kind = .case ∨ cursor.kind = .default) :
    (testPart reader).Meets cursor
      (fun read part _ => read ≠ [] ∧ Selection (front ++ read) (erase (armsOf (parts ++ [part])))
        (erase (defaultOf (parts ++ [part]))))
      (fun read => ∃ more arms default, Selection (front ++ read ++ more) arms default) := by
  unfold testPart
  refine .take_bind (by rcases opening with opening | opening <;> rw [opening] <;> decide) ?_
  split
  next case =>
    replace case : cursor.current.lexeme.kind = .case := case
    refine .bind (commaSeparated_meets expression_meets _) ?_ ?_
    · rintro head _ _ ⟨more, ⟨values, list⟩, _⟩
      have whole := Selection.arm earlier case list (sample .colon) .nil
      exact ⟨more ++ [Lexeme.ofKind .colon], _, _, by simpa using whole⟩
    · intro head values behind _ list
      refine .expect_bind (by decide) ?_ fun colon => .bind (body_meets reads _ _) ?_ ?_
      · have whole := Selection.arm earlier case list (sample .colon) .nil
        exact ⟨[Lexeme.ofKind .colon], _, _, by simpa using whole⟩
      · rintro read _ _ ⟨more, ⟨statements, body⟩, _⟩
        have whole := Selection.arm earlier case list colon body
        exact ⟨more, _, _, by simpa using whole⟩
      · intro read statements last _ body
        have whole := Selection.arm earlier case list colon body
        refine .pure ⟨by simp, ?_⟩
        simpa [armsOf, defaultOf] using whole
  next other =>
    have default : cursor.current.lexeme.kind = .default := opening.resolve_left other
    refine .expect_bind (by decide) ?_ fun colon => .bind (body_meets reads _ _) ?_ ?_
    · have whole := Selection.default earlier default (sample .colon) .nil
      exact ⟨[Lexeme.ofKind .colon], _, _, by simpa using whole⟩
    · rintro read _ _ ⟨more, ⟨statements, body⟩, _⟩
      have whole := Selection.default earlier default colon body
      exact ⟨more, _, _, by simpa using whole⟩
    · intro read statements last _ body
      have whole := Selection.default earlier default colon body
      refine .pure ⟨by simp, ?_⟩
      simpa [armsOf, defaultOf] using whole

theorem testStatement_meets {reader : Reader Stmt} (reads : ReadsStatement reader)
    (opening : cursor.kind = .test) :
    (testStatement reader).Meets cursor (fun read value _ => Statement read (erase value))
      (Begun IsStatement) := by
  unfold testStatement
  refine .take_bind (by rw [opening]; decide) (.bind (expression_meets _) ?_ ?_)
  all_goals replace opening : cursor.current.lexeme.kind = .test := opening
  · rintro head _ _ ⟨more, ⟨tree, tail, operation⟩, _⟩
    have whole := Statement.test opening operation .none (sample .endTest)
    exact .of_split ⟨_, whole⟩ (by simp) (by simp; rfl)
  · rintro head subject behind _ ⟨tail, operation, _⟩
    have parts : (repeatWhile (fun kind => kind == .case || kind == .default)
        (testPart reader)).Meets behind
        (fun read parts _ => Selection read (erase (armsOf parts)) (erase (defaultOf parts)))
        (fun read => ∃ more arms default, Selection (read ++ more) arms default) := by
      refine (Meets.repeatWhile (fun read parts _ =>
        Selection read (erase (armsOf parts)) (erase (defaultOf parts))) .none ?_).mono
        (fun _ _ _ _ holds => holds.1) (fun _ fails => fails)
      intro read parts here earlier opening
      exact testPart_meets reads earlier (by simpa using opening)
    refine .bind parts ?_ ?_
    · rintro read _ _ ⟨more, arms, default, selection⟩
      have whole := Statement.test opening operation selection (sample .endTest)
      exact .of_split ⟨_, whole⟩ (by simp) (by simp; rfl)
    · intro read parts last _ selection
      refine .expect_bind (by decide) ?_ (fun close => .pure ?_)
      · have whole := Statement.test opening operation selection (sample .endTest)
        exact .of_split ⟨_, whole⟩ (by simp) (by simp; rfl)
      · rw [erase_test]
        exact .test opening operation selection close

/-! ## Assignments, calls and expressions -/

/-- What follows a first expression in a statement, up to the semicolon. -/
theorem bareCall_meets {target : List Lexeme} {value : Expr} {tail : Tail}
    (operation : Expression target (erase value) tail) (stops : Stops 1 tail cursor.kind) :
    (bareCall value).Meets cursor
      (fun read call _ => ∀ close : Lexeme, close.kind = .semicolon →
        Statement (target ++ (read ++ [close])) (.expression (erase call) .origin))
      (fun read => ∃ more, IsStatement (target ++ (read ++ more))) := by
  have plain : ∀ close : Lexeme, close.kind = .semicolon →
      Statement (target ++ ([] ++ [close])) (.expression (erase value) .origin) :=
    fun close kind => .expression operation kind
  unfold bareCall
  split
  next name =>
    refine .peekKind_bind ?_
    split
    next starts =>
      have apart : ∀ read more rest : List Lexeme, cursor.lexemes = read ++ rest →
          (read = [] → nextKind more = .identifier) →
          Stops 1 tail (nextKind (read ++ more)) ∧ startsArgument (nextKind (read ++ more)) := by
        intro read more rest split name
        cases read with
        | nil => simpa [name rfl] using ⟨.of_plain rfl rfl, rfl⟩
        | cons first read =>
            rw [cursor.kind_eq_nextKind, split] at starts stops
            exact ⟨stops, starts⟩
      refine .bind (commaSeparated_meets expression_meets _) ?_ ?_
      · rintro read rest split ⟨more, ⟨values, list⟩, name⟩
        obtain ⟨stops', starts'⟩ := apart read more rest split name
        have whole := Statement.call operation stops' starts' list (sample .semicolon)
        exact ⟨more ++ [Lexeme.ofKind .semicolon], _, by simpa using whole⟩
      · intro read values behind split list
        refine .pure fun close kind => ?_
        have some := ne_endOfInput_of_startsExpression list.starts
        obtain ⟨stops', starts'⟩ := apart read [] _ split fun empty => absurd empty
          (ne_nil_of_nextKind rfl some)
        rw [List.append_nil] at stops' starts'
        rw [erase_call]
        simpa using Statement.call operation stops' starts' list kind
    next => exact .pure plain
  next => exact .pure plain

theorem simpleStatement_meets (cursor : Cursor) :
    simpleStatement.Meets cursor (fun read value _ => Statement read (erase value))
      (Begun IsStatement) := by
  unfold simpleStatement
  refine .peek_bind (.bind (expression_meets _) ?_ ?_)
  · rintro read _ _ ⟨more, ⟨tree, tail, operation⟩, name⟩
    have whole := Statement.expression operation (sample .semicolon)
    refine ⟨more ++ [Lexeme.ofKind .semicolon], ⟨_, by simpa using whole⟩, fun empty => ?_⟩
    rw [nextKind_append (by rw [name empty]; decide), name empty]
  · rintro target value behind _ ⟨tail, operation, stops⟩
    have some := operation.ne_nil
    refine .accept_bind (by decide) (fun mark => .bind (expression_meets _) ?_ ?_) (fun _ => ?_)
    · rintro read _ _ ⟨more, ⟨tree, tail, operation'⟩, _⟩
      have whole := Statement.assign operation mark operation' (sample .semicolon)
      exact .of_split ⟨_, whole⟩ (by simp) (by simp; rfl)
    · rintro read result last _ ⟨tail, operation', _⟩
      refine .expect_bind (by decide) ?_ (fun close => .pure ?_)
      · have whole := Statement.assign operation mark operation' (sample .semicolon)
        exact .of_split ⟨_, whole⟩ (by simp) (by simp; rfl)
      · rw [erase_assign]
        simpa using Statement.assign operation mark operation' close
    · refine .bind (bareCall_meets operation stops) ?_ ?_
      · rintro read _ _ ⟨more, statement⟩
        exact .of_split statement (by simp [some]) (by simp; rfl)
      · intro read call last _ statement
        refine .expect_bind (by decide) ?_ (fun close => .pure ?_)
        · exact .of_split ⟨_, statement _ (sample .semicolon)⟩ (by simp [some]) (by simp; rfl)
        · rw [erase_expression]
          simpa using statement _ close

/-! ## Statements -/

theorem dataStatement_meets {storage : Storage} (opening : storage? cursor.kind = some storage) :
    (dataItem >>= fun (item, span) => Pure.pure (Stmt.data item span)).Meets cursor
      (fun read value _ => Statement read (erase value)) (Begun IsStatement) := by
  refine .bind (dataItem_meets opening) ?_ ?_
  · intro read _ _ begun
    exact begun.mono [] fun _ ⟨item, declaration⟩ => ⟨_, .data declaration⟩
  · intro read item behind _ declaration
    exact .pure (by rw [List.append_nil, erase_data]; exact .data declaration)

theorem statementWith_meets {reader : Reader Stmt} (reads : ReadsStatement reader) :
    ReadsStatement (statementWith reader) := by
  intro cursor
  unfold statementWith
  refine .peekKind_bind ?_
  split
  next opening => exact conditional_meets reads opening
  next opening => exact whileLoop_meets reads opening
  next opening => exact forLoop_meets reads opening
  next opening => exact returnStatement_meets opening
  next opening => exact moveStatement_meets (by rw [opening]; rfl)
  next opening => exact moveStatement_meets (by rw [opening]; rfl)
  next opening => exact moveStatement_meets (by rw [opening]; rfl)
  next opening => exact testStatement_meets reads opening
  next opening => exact connectStatement_meets opening
  next opening => exact raiseStatement_meets opening
  next opening => exact dataStatement_meets (by rw [opening]; rfl)
  next opening => exact dataStatement_meets (by rw [opening]; rfl)
  next opening => exact dataStatement_meets (by rw [opening]; rfl)
  next => exact simpleStatement_meets cursor

/-- What the reader of statements takes is a statement; what it takes before an error begins
one. -/
theorem statement_meets : ReadsStatement statement := by
  have begun : Begun IsStatement [] := by
    have whole := Statement.expression (Operation.sample 1) (sample .semicolon)
    exact ⟨_, ⟨_, whole⟩, fun _ => rfl⟩
  exact Meets.knot begun fun _ reads => statementWith_meets reads

end Parser

end RapidLang
