import RapidLang.Proofs.Grammar.Loose
import RapidLang.Proofs.Parser.LoopHead
import RapidLang.Proofs.Parser.Phrases.Statement

/-!
# Statements of the grammar are read

The reader of statements takes every statement of the grammar, with the tree that the grammar gives
it. A statement ends with its last lexeme, so what follows does not matter. The compound statements
are treated in their loose form: where the head of a loop in them runs on, the reader fails.
-/

set_option autoImplicit false

namespace RapidLang

namespace Parser

open Grammar Reader

/-- At cursors with fewer lexemes left than a bound, the reader can end with no other tree than that
of the loose statement there, and it fails wherever no statement begins. -/
structure EndsStatements (sure : Prop) (bound : Nat) (reader : Reader Stmt) : Prop where
  ends : ∀ ⦃cursor : Cursor⦄ ⦃lexemes : List Lexeme⦄ ⦃tree : Stmt⦄ (more : List Lexeme),
    cursor.left < bound → LooseStatement sure lexemes tree → cursor.lexemes = lexemes ++ more →
    reader.Ends sure cursor (fun read => erase read = tree) more
  fails : ∀ cursor : Cursor, startsStatement cursor.kind = false →
    ∃ error, reader.run cursor = .error error

variable {sure : Prop} {reader : Reader Stmt} {bound : Nat} {cursor : Cursor} {more : List Lexeme}

/-! ## Data -/

theorem expression_takes_plain {lexemes : List Lexeme} {tree : Expr} {tail : Tail}
    (whole : Expression lexemes tree tail) (split : cursor.lexemes = lexemes ++ more)
    (plain : IsPlain (nextKind more)) :
    expression.Takes cursor (fun read => erase read = tree) more :=
  expression_takes more whole split plain.stops

theorem initial_takes {lexemes : List Lexeme} {value : Option Expr} (initial : Initial lexemes value)
    (split : cursor.lexemes = lexemes ++ more) (plain : IsPlain (nextKind more))
    (apart : nextKind more ≠ .assign) :
    (optionalAfter .assign expression).Takes cursor (fun read => erase read = value) more := by
  cases initial with
  | none =>
      rw [List.nil_append] at split
      rw [← split] at apart ⊢
      exact .optionalAfter_none apart rfl
  | some kind operation =>
      have takes := Takes.optionalAfter_some split kind fun behind left =>
        expression_takes_plain operation left plain
      refine takes.mono ?_
      rintro _ ⟨content, rfl, same⟩
      rw [erase_some, same]

theorem dataItem_takes {lexemes : List Lexeme} {item : DataItem}
    (declaration : DataDeclaration lexemes item) (split : cursor.lexemes = lexemes ++ more) :
    dataItem.Takes cursor (fun read => erase read.1 = item) more := by
  cases declaration with
  | @mk opening type name close storage lexemes initial kind typed named value kind' =>
      replace split : cursor.lexemes = opening :: type :: name :: (lexemes ++ close :: more) := by
        simpa using split
      unfold dataItem
      refine .take_bind split fun token _ same split => ?_
      refine .expectName_bind split typed fun _ _ type' split => ?_
      refine .expectName_bind split named fun _ _ name' split => ?_
      have next : nextKind (close :: more) = .semicolon := kind'
      refine .bind (initial_takes value split (by rw [next]; exact ⟨rfl, rfl⟩)
        (by rw [next]; decide)) fun _ _ value' split => ?_
      refine .expect_bind split kind' fun _ _ _ left => .pure ?_ left
      have stored : storageOf token.kind = storage := by
        rw [← same] at kind
        exact storageOf_eq kind
      simp only [erase_dataItem, stored, type', name', value']

/-! ## Bodies -/

/-- A body is read up to the word that closes it. -/
theorem body_ends (inner : EndsStatements sure bound reader) {closes : TokenKind → Bool}
    {lexemes : List Lexeme} {statements : List Stmt} (near : cursor.left < bound)
    (list : LooseBody sure lexemes statements) (split : cursor.lexemes = lexemes ++ more)
    (opens : ∀ kind, startsStatement kind → closes kind = false)
    (close : closes (nextKind more)) :
    (body reader closes).Ends sure cursor (fun read => erase read = statements) more := by
  unfold body
  refine .many list.many split ?_ ?_ (by simp [close])
  · intro front value statement
    refine ⟨statement.ne_nil, fun behind => ?_⟩
    have inside := ne_endOfInput_of_startsStatement statement.starts
    rw [nextKind_append inside]
    simp [opens _ statement.starts, inside]
  · intro here front value behind nearer statement split' _
    exact inner.ends behind (Nat.lt_of_le_of_lt nearer near) statement split'

/-- A body fails where no statement begins, unless it is closed there. -/
theorem body_ends_of_error (inner : EndsStatements sure bound reader) {closes : TokenKind → Bool}
    {good : List Stmt → Prop} (open' : closes cursor.kind = false)
    (inside : cursor.kind ≠ .endOfInput) (apart : startsStatement cursor.kind = false)
    (unsure : ¬sure) : (body reader closes).Ends sure cursor good more := by
  obtain ⟨error, failed⟩ := inner.fails cursor apart
  unfold body
  exact .repeatWhile_of_error (by simp [open', inside]) failed unsure

theorem ne_of_startsStatement {closing kind : TokenKind} (other : startsStatement closing = false)
    (starts : startsStatement kind) : (kind == closing) = false := by
  rw [beq_eq_false_iff_ne]
  rintro rfl
  rw [starts] at other
  cases other

theorem left_lt_of_length {here : Cursor} (near : cursor.left ≤ bound)
    (left : here.lexemes = more) (longer : more.length < cursor.lexemes.length) :
    here.left < bound := by
  rw [← Cursor.length_lexemes] at near ⊢
  rw [left]
  exact Nat.lt_of_lt_of_le longer near

/-! ## Conditionals -/

theorem branch_ends (inner : EndsStatements sure bound reader) {kind : TokenKind}
    {lexemes : List Lexeme} {tree : Branch} (near : cursor.left ≤ bound)
    (guarded : LooseGuarded sure kind lexemes tree) (split : cursor.lexemes = lexemes ++ more)
    (close : closesBranch (nextKind more)) :
    (branch reader).Ends sure cursor (fun read => erase read = tree) more := by
  cases guarded with
  | @mk _ opening link head body condition tail statements kind operation kind' list =>
      replace split : cursor.lexemes = opening :: (head ++ link :: (body ++ more)) := by
        simpa using split
      have next : nextKind (link :: (body ++ more)) = .then := kind'
      unfold branch
      refine .take_bind split fun _ _ _ left => ?_
      refine .bind (.of_takes (expression_takes_plain operation left
        (by rw [next]; exact ⟨rfl, rfl⟩))) fun _ _ condition' left => ?_
      refine .expect_bind left kind' fun _ here _ left => ?_
      have near' := left_lt_of_length near left
        (by simp only [split, List.length_cons, List.length_append]; omega)
      refine .bind (body_ends inner near' list left ?_ close) fun _ _ body' left => ?_
      · intro kind starts
        cases kind <;> first | rfl | cases starts
      · exact .pure (by rw [erase_branch, condition', body']) left

theorem otherwise_ends (inner : EndsStatements sure bound reader) {lexemes : List Lexeme}
    {body : Option (List Stmt)} (near : cursor.left ≤ bound)
    (last : LooseOtherwise sure lexemes body) (split : cursor.lexemes = lexemes ++ more)
    (close : nextKind more = .endIf) :
    (optionalAfter .else (Parser.body reader (· == .endIf))).Ends sure cursor
      (fun read => erase read = body) more := by
  cases last with
  | none =>
      rw [List.nil_append] at split
      rw [← split] at close ⊢
      exact .of_takes (.optionalAfter_none (by rw [close]; decide) rfl)
  | @some opening lexemes statements kind list =>
      have ends := Ends.optionalAfter_some split kind fun behind left =>
        body_ends inner (left_lt_of_length near left (by simp [split])) list left
          (fun _ => ne_of_startsStatement rfl) (beq_iff_eq.mpr close)
      refine ends.mono ?_
      rintro _ ⟨content, rfl, same⟩
      rw [erase_some, same]

theorem conditional_ends (inner : EndsStatements sure bound reader) {lexemes last : List Lexeme}
    {close : Lexeme} {branches : List Branch} {otherwise : Option (List Stmt)}
    (near : cursor.left ≤ bound) (list : LooseBranches sure lexemes branches)
    (body : LooseOtherwise sure last otherwise) (kind : close.kind = .endIf)
    (split : cursor.lexemes = lexemes ++ (last ++ close :: more)) :
    (conditional reader).Ends sure cursor
      (fun read => erase read = .conditional branches otherwise .origin) more := by
  obtain ⟨front, rest, first, others, rfl, rfl, guarded, many⟩ := list.split
  rw [List.append_assoc] at split
  have ends : nextKind (last ++ close :: more) = .else ∨
      nextKind (last ++ close :: more) = .endIf := by
    cases body with
    | none => exact .inr kind
    | some kind' _ => exact .inl kind'
  have closes : closesBranch (nextKind (rest ++ (last ++ close :: more))) := by
    rcases many.starts (· = .elseIf) (by decide)
        (fun _ _ guarded => guarded.starts) with rfl | opening
    · rcases ends with ends | ends <;> rw [List.nil_append, ends] <;> rfl
    · rw [nextKind_append (by rw [opening]; decide), opening]
      rfl
  unfold conditional
  refine .peek_bind (.bind_near (branch_ends inner near guarded split closes)
    fun _ here nearer first' left => ?_)
  have others' : (repeatWhile (· == .elseIf) (branch reader)).Ends sure here
      (fun read => erase read = others) (last ++ close :: more) := by
    refine .many many left ?_ ?_ ?_
    · intro front value guarded
      refine ⟨guarded.ne_nil, fun behind => ?_⟩
      rw [nextKind_append (by rw [guarded.starts]; decide), guarded.starts]
      rfl
    · intro there front value behind nearer' guarded split' next
      refine branch_ends inner (Nat.le_trans nearer' (Nat.le_trans nearer near)) guarded split' ?_
      rcases next with next | rfl
      · rw [beq_iff_eq.mp next]
        rfl
      · rcases ends with ends | ends <;> rw [ends] <;> rfl
    · rcases ends with ends | ends <;> rw [ends] <;> rfl
  refine .bind_near others' fun _ here' nearer' others' left => ?_
  refine .bind (otherwise_ends inner (Nat.le_trans nearer' (Nat.le_trans nearer near)) body left
    kind) fun _ _ body' left => ?_
  exact .expect_bind left kind fun _ _ _ left =>
    .pure (by rw [erase_conditional, erase_cons, first', others', body']) left

/-! ## Loops -/

/-- The rest of a loop from its last expression on. Where that runs on, the body begins in the
middle of a statement. -/
theorem loopRest_ends (inner : EndsStatements sure bound reader) {closing : TokenKind}
    (other : startsStatement closing = false) (apart : closing ≠ .assign ∧ closing ≠ .semicolon)
    {head lexemes : List Lexeme} {close : Lexeme} {value : Expr} {tail : Tail}
    {statements : List Stmt} {finish : Expr → List Stmt → Token → Stmt} {good : Stmt → Prop}
    (near : cursor.left < bound) (operation : Expression head value tail)
    (meets : HeadMeets sure tail (lexemes ++ [close])) (list : LooseBody sure lexemes statements)
    (kind : close.kind = closing) (split : cursor.lexemes = head ++ (lexemes ++ close :: more))
    (finished : ∀ read body close, erase read = value → erase body = statements →
      good (finish read body close)) :
    (expression >>= fun value => body reader (· == closing) >>= fun statements =>
      expect closing >>= fun close => Pure.pure (finish value statements close)).Ends sure cursor
      good more := by
  rcases meets with ended | ⟨unsure, runs, front, rest, mark, tree, tail', split', opening, mark'⟩
  · have same : nextKind (lexemes ++ [close]) = nextKind (lexemes ++ close :: more) := by
      cases lexemes <;> rfl
    refine .bind_near (.of_takes (expression_takes _ operation split (same ▸ ended)))
      fun _ here nearer value' left => ?_
    refine .bind (body_ends inner (Nat.lt_of_le_of_lt nearer near) list left
      (fun _ => ne_of_startsStatement other) (beq_iff_eq.mpr kind)) fun _ _ body' left => ?_
    exact .expect_bind left kind fun _ _ _ left => .pure (finished _ _ _ value' body') left
  · have whole : cursor.lexemes = head ++ (front ++ mark :: (rest ++ more)) := by
      have longer := congrArg (· ++ more) split'
      simp only [List.append_assoc, List.cons_append, List.nil_append] at longer
      rw [split, longer]
    rw [split', nextKind_append_of_starts opening.starts] at runs
    have overruns : expression.Ends sure cursor (fun _ => True) (mark :: (rest ++ more)) := by
      refine ⟨fun _ _ outcome => ⟨trivial, ?_⟩, fun holds => absurd holds unsure⟩
      refine expression_overruns operation opening runs ?_ whole outcome
      rcases mark' with mark' | mark' <;> rw [mark'] <;> exact ⟨rfl, rfl⟩
    refine .bind overruns fun _ here _ left => ?_
    have fails : (body reader (· == closing)).Ends sure here (fun _ => False) more := by
      refine body_ends_of_error inner ?_ ?_ ?_ unsure <;> rw [Cursor.kind_of_lexemes left]
      · rcases mark' with mark' | mark' <;> rw [mark', beq_eq_false_iff_ne]
        · exact apart.1.symm
        · exact apart.2.symm
      · rcases mark' with mark' | mark' <;> rw [mark'] <;> decide
      · rcases mark' with mark' | mark' <;> rw [mark'] <;> rfl
    exact .bind fails fun _ _ never _ => never.elim

theorem whileLoop_ends (inner : EndsStatements sure bound reader) {opening close : Lexeme}
    {head lexemes : List Lexeme} {condition : Expr} {tail : Tail} {statements : List Stmt}
    (near : cursor.left ≤ bound) (operation : Expression head condition tail)
    (meets : HeadMeets sure tail (lexemes ++ [close])) (list : LooseBody sure lexemes statements)
    (kind : close.kind = .endWhile)
    (split : cursor.lexemes = opening :: (head ++ (lexemes ++ close :: more))) :
    (whileLoop reader).Ends sure cursor
      (fun read => erase read = .while condition statements .origin) more := by
  unfold whileLoop
  refine .take_bind split fun _ here _ left => ?_
  have near' := Nat.lt_of_lt_of_le (Cursor.left_lt_of_cons split left) near
  refine loopRest_ends inner rfl (by decide) near' operation meets list kind left ?_
  intro _ _ _ condition' body'
  rw [erase_while, condition', body']

theorem forLoop_ends (inner : EndsStatements sure bound reader)
    {opening counter start up close : Lexeme} {low high lexemes : List Lexeme}
    {first last : Expr} {lowTail highTail : Tail} {statements : List Stmt}
    (near : cursor.left ≤ bound) (named : counter.kind = .identifier) (from' : start.kind = .from)
    (lower : Expression low first lowTail) (to' : up.kind = .to)
    (upper : Expression high last highTail) (meets : HeadMeets sure highTail (lexemes ++ [close]))
    (list : LooseBody sure lexemes statements) (kind : close.kind = .endFor)
    (split : cursor.lexemes =
      opening :: counter :: start :: (low ++ up :: (high ++ (lexemes ++ close :: more)))) :
    (forLoop reader).Ends sure cursor
      (fun read => erase read = .for ⟨counter.text, .origin⟩ first last statements .origin)
      more := by
  have next : nextKind (up :: (high ++ (lexemes ++ close :: more))) = .to := to'
  unfold forLoop
  refine .take_bind split fun _ _ _ left => .expectName_bind left named fun _ _ name' left =>
    .expect_bind left from' fun _ _ _ left => ?_
  refine .bind (.of_takes (expression_takes_plain lower left (by rw [next]; exact ⟨rfl, rfl⟩)))
    fun _ _ first' left => .expect_bind left to' fun _ here _ left => ?_
  have near' := left_lt_of_length near left
    (by simp only [split, List.length_cons, List.length_append]; omega)
  refine loopRest_ends inner rfl (by decide) near' upper meets list kind left ?_
  intro _ _ _ last' body'
  rw [erase_for, name', first', last', body']

/-! ## Returns, motions, errors -/

theorem isPlain_of_semicolon {close : Lexeme} (kind : close.kind = .semicolon) :
    IsPlain (nextKind (close :: more)) := by
  rw [nextKind, kind]
  exact ⟨rfl, rfl⟩

theorem isPlain_of_comma {comma : Lexeme} (kind : comma.kind = .comma) :
    IsPlain (nextKind (comma :: more)) := by
  rw [nextKind, kind]
  exact ⟨rfl, rfl⟩

theorem returnNone_takes {opening close : Lexeme} (kind : close.kind = .semicolon)
    (split : cursor.lexemes = opening :: close :: more) :
    returnStatement.Takes cursor (fun read => erase read = .return none .origin) more := by
  unfold returnStatement
  refine .take_bind split fun _ here _ left => ?_
  have none : returnValue.Takes here (fun value => value = none) (close :: more) := by
    unfold returnValue
    refine .peekKind_bind ?_
    rw [Cursor.kind_of_lexemes left, kind]
    exact .pure rfl left
  refine .bind none fun _ _ same left => ?_
  exact .expect_bind left kind fun _ _ _ left => .pure (by rw [erase_return, same]; rfl) left

theorem returnSome_takes {opening close : Lexeme} {lexemes : List Lexeme} {value : Expr}
    {tail : Tail} (operation : Expression lexemes value tail) (kind : close.kind = .semicolon)
    (split : cursor.lexemes = opening :: (lexemes ++ close :: more)) :
    returnStatement.Takes cursor (fun read => erase read = .return (some value) .origin) more := by
  unfold returnStatement
  refine .take_bind split fun _ here _ left => ?_
  have some : returnValue.Takes here (fun read => erase read = some value) (close :: more) := by
    have starts := operation.starts
    unfold returnValue
    refine .peekKind_bind ?_
    rw [Cursor.kind_eq_nextKind, left, nextKind_append_of_starts starts]
    split
    · rename_i same
      rw [same] at starts
      cases starts
    · rename_i same
      rw [same] at starts
      cases starts
    · rename_i same
      rw [same] at starts
      cases starts
    · refine .bind (expression_takes_plain operation left (isPlain_of_semicolon kind))
        fun _ _ same left => .pure (by rw [erase_some, same]) left
  refine .bind some fun _ _ same left => ?_
  exact .expect_bind left kind fun _ _ _ left => .pure (by rw [erase_return, same]) left

/-- One optional argument. -/
def SwitchPhrase (lexemes : List Lexeme) (option : Name × Option Expr) : Prop :=
  ∃ (opening name : Lexeme) (rest : List Lexeme), lexemes = opening :: name :: rest ∧
    opening.kind = .backslash ∧ name.kind = .identifier ∧ option.1 = ⟨name.text, .origin⟩ ∧
    Initial rest option.2

theorem Switches.many {lexemes : List Lexeme} {value : Option Expr}
    (switches : Switches lexemes value) :
    ∃ options, Many SwitchPhrase lexemes options ∧ workObjectOf options = value := by
  induction switches with
  | none => exact ⟨[], .nil, rfl⟩
  | @more earlier lexemes opening name before value _ kind named initial ih =>
      obtain ⟨options, many, rfl⟩ := ih
      have phrase : SwitchPhrase (opening :: name :: lexemes) (⟨name.text, .origin⟩, value) :=
        ⟨opening, name, lexemes, rfl, kind, named, rfl, initial⟩
      exact ⟨_, .snoc many phrase, workObjectOf_append options ⟨name.text, .origin⟩ value⟩

theorem erase_workObjectOf (options : List (Name × Option Expr)) :
    erase (workObjectOf options) = workObjectOf (erase options) := by
  induction options using List.reverseRecOn with
  | nil => rfl
  | append_singleton options option ih =>
      obtain ⟨name, value⟩ := option
      rw [erase_append, workObjectOf_append, apply_ite erase, ih]
      exact (workObjectOf_append (erase options) (erase name) (erase value)).symm

theorem optionalArgument_takes {lexemes : List Lexeme} {option : Name × Option Expr}
    (phrase : SwitchPhrase lexemes option) (split : cursor.lexemes = lexemes ++ more)
    (plain : IsPlain (nextKind more)) (apart : nextKind more ≠ .assign) :
    optionalArgument.Takes cursor (fun read => erase read = option) more := by
  obtain ⟨opening, name, rest, rfl, kind, named, same, initial⟩ := phrase
  unfold optionalArgument
  refine .take_bind split fun _ _ _ left => .expectName_bind left named fun _ _ name' left => ?_
  refine .bind (initial_takes initial left plain apart) fun _ _ value' left => .pure ?_ left
  rw [erase_pair, name', value', ← same]

theorem switches_take {lexemes : List Lexeme} {value : Option Expr} {close : Lexeme}
    (switches : Switches lexemes value) (kind : close.kind = .semicolon)
    (split : cursor.lexemes = lexemes ++ close :: more) :
    (repeatWhile (· == .backslash) optionalArgument).Takes cursor
      (fun options => erase (workObjectOf options) = value) (close :: more) := by
  obtain ⟨options, many, rfl⟩ := Switches.many switches
  have list : (repeatWhile (· == .backslash) optionalArgument).Takes cursor
      (fun read => erase read = options) (close :: more) := by
    refine .many many split ?_ ?_ (by rw [nextKind, kind]; rfl)
    · rintro _ _ ⟨opening, name, rest, rfl, kind, _⟩
      exact ⟨by simp, fun behind => beq_iff_eq.mpr kind⟩
    · intro here front option behind _ phrase split' next
      have next : nextKind behind = .backslash ∨ nextKind behind = .semicolon :=
        next.imp beq_iff_eq.mp fun same => by rw [same, nextKind, kind]
      have plain : IsPlain (nextKind behind) ∧ nextKind behind ≠ .assign := by
        rcases next with next | next <;> rw [next] <;> exact ⟨⟨rfl, rfl⟩, by decide⟩
      exact optionalArgument_takes phrase split' plain.1 plain.2
  exact list.mono fun read same => by rw [erase_workObjectOf, same]

theorem moveStatement_takes {opening comma comma' comma'' close : Lexeme} {motion : Motion}
    {target speed zone tool switches : List Lexeme} {goal pace area gear : Expr}
    {goalTail paceTail areaTail gearTail : Tail} {workObject : Option Expr}
    (kind : motion? opening.kind = some motion) (first : Expression target goal goalTail)
    (kind₁ : comma.kind = .comma) (second : Expression speed pace paceTail)
    (kind₂ : comma'.kind = .comma) (third : Expression zone area areaTail)
    (kind₃ : comma''.kind = .comma) (fourth : Expression tool gear gearTail)
    (options : Switches switches workObject) (kind₄ : close.kind = .semicolon)
    (split : cursor.lexemes = opening :: (target ++ comma :: (speed ++ comma' :: (zone ++
      comma'' :: (tool ++ (switches ++ close :: more)))))) :
    moveStatement.Takes cursor
      (fun read => erase read =
        .move ⟨motion, goal, pace, area, gear, workObject⟩ .origin) more := by
  have plain : IsPlain (nextKind (switches ++ close :: more)) := by
    rcases options.starts with rfl | opening
    · exact isPlain_of_semicolon kind₄
    · rw [nextKind_append (by rw [opening]; decide), opening]
      exact ⟨rfl, rfl⟩
  unfold moveStatement
  refine .take_bind split fun token _ same left => ?_
  refine .bind (expression_takes_plain first left (isPlain_of_comma kind₁)) fun _ _ first' left =>
    .expect_bind left kind₁ fun _ _ _ left => ?_
  refine .bind (expression_takes_plain second left (isPlain_of_comma kind₂)) fun _ _ second' left =>
    .expect_bind left kind₂ fun _ _ _ left => ?_
  refine .bind (expression_takes_plain third left (isPlain_of_comma kind₃)) fun _ _ third' left =>
    .expect_bind left kind₃ fun _ _ _ left => ?_
  refine .bind (expression_takes_plain fourth left plain) fun _ _ fourth' left => ?_
  refine .bind (switches_take options kind₄ left) fun _ _ options' left => ?_
  refine .expect_bind left kind₄ fun _ _ _ left => .pure ?_ left
  have named : motionOf token.kind = motion := by
    rw [← same] at kind
    exact motionOf_eq kind
  rw [erase_move, first', second', third', fourth', options', named]

theorem connectStatement_takes {opening trap link error close : Lexeme}
    (trap' : trap.kind = .identifier) (link' : link.kind = .with)
    (error' : error.kind = .identifier) (kind : close.kind = .semicolon)
    (split : cursor.lexemes = opening :: trap :: link :: error :: close :: more) :
    connectStatement.Takes cursor
      (fun read => erase read = .connect ⟨trap.text, .origin⟩ ⟨error.text, .origin⟩ .origin)
      more := by
  unfold connectStatement
  exact .take_bind split fun _ _ _ left => .expectName_bind left trap' fun _ _ first left =>
    .expect_bind left link' fun _ _ _ left => .expectName_bind left error' fun _ _ second left =>
    .expect_bind left kind fun _ _ _ left => .pure (by rw [erase_connect, first, second]) left

theorem raiseStatement_takes {opening error close : Lexeme} (error' : error.kind = .identifier)
    (kind : close.kind = .semicolon) (split : cursor.lexemes = opening :: error :: close :: more) :
    raiseStatement.Takes cursor
      (fun read => erase read = .raise ⟨error.text, .origin⟩ .origin) more := by
  unfold raiseStatement
  exact .take_bind split fun _ _ _ left => .expectName_bind left error' fun _ _ name left =>
    .expect_bind left kind fun _ _ _ left => .pure (by rw [erase_raise, name]) left

/-! ## Selections -/

theorem opens_arm (kind : TokenKind) (starts : startsStatement kind) : closesArm kind = false := by
  cases kind <;> first | rfl | cases starts

theorem arm_ends (inner : EndsStatements sure bound reader) {opening colon : Lexeme}
    {head lexemes : List Lexeme} {values : List Expr} {statements : List Stmt}
    (near : cursor.left ≤ bound) (kind : opening.kind = .case) (list : CommaList head values)
    (kind' : colon.kind = .colon) (body : LooseBody sure lexemes statements)
    (split : cursor.lexemes = opening :: (head ++ colon :: (lexemes ++ more)))
    (close : closesArm (nextKind more)) :
    (testPart reader).Ends sure cursor
      (fun read => erase read = .arm (.mk values statements .origin)) more := by
  have next : nextKind (colon :: (lexemes ++ more)) = .colon := kind'
  unfold testPart
  refine .take_bind split fun token here same left => ?_
  rw [if_pos (show token.kind = .case by rw [← kind, ← same]; rfl)]
  refine .bind (.of_takes (commaSeparated_takes (expression_takesOperations _) (Nat.lt_succ_self _)
    list left (by rw [next]; exact ⟨rfl, rfl⟩) (by rw [next]; decide))) fun _ _ values' left => ?_
  refine .expect_bind left kind' fun _ there _ left => ?_
  have near' := left_lt_of_length near left
    (by simp only [split, List.length_cons, List.length_append]; omega)
  refine .bind (body_ends inner near' body left opens_arm close) fun _ _ body' left => ?_
  exact .pure (by rw [erase_testPart_arm, erase_arm, values', body']) left

theorem default_ends (inner : EndsStatements sure bound reader) {opening colon : Lexeme}
    {lexemes : List Lexeme} {statements : List Stmt}
    (near : cursor.left ≤ bound) (kind : opening.kind = .default)
    (kind' : colon.kind = .colon) (body : LooseBody sure lexemes statements)
    (split : cursor.lexemes = opening :: colon :: (lexemes ++ more))
    (close : closesArm (nextKind more)) :
    (testPart reader).Ends sure cursor (fun read => erase read = .default statements) more := by
  unfold testPart
  refine .take_bind split fun token here same left => ?_
  rw [if_neg]
  · refine .expect_bind left kind' fun _ there _ left => ?_
    have near' := left_lt_of_length near left
      (by simp only [split, List.length_cons, List.length_append]; omega)
    refine .bind (body_ends inner near' body left opens_arm close) fun _ _ body' left => ?_
    exact .pure (by rw [erase_testPart_default, body']) left
  · rw [← same] at kind
    rw [show token.kind = .default from kind]
    decide

theorem testPart_ends (inner : EndsStatements sure bound reader) {lexemes : List Lexeme}
    {part : TestPart} (near : cursor.left ≤ bound) (phrase : LoosePart sure lexemes part)
    (split : cursor.lexemes = lexemes ++ more) (close : closesArm (nextKind more)) :
    (testPart reader).Ends sure cursor (fun read => erase read = part) more := by
  cases phrase with
  | arm kind list kind' body =>
      exact arm_ends inner near kind list kind' body (by simpa using split) close
  | default kind kind' body =>
      exact default_ends inner near kind kind' body (by simpa using split) close

theorem erase_armsOf (parts : List TestPart) : erase (armsOf parts) = armsOf (erase parts) := by
  induction parts with
  | nil => rfl
  | cons part parts ih =>
      cases part with
      | arm content => exact congrArg (erase content :: ·) ih
      | default body => exact ih

theorem erase_defaultOf (parts : List TestPart) :
    erase (defaultOf parts) = defaultOf (erase parts) := by
  induction parts using List.reverseRecOn with
  | nil => rfl
  | append_singleton parts part ih =>
      cases part with
      | arm content => simpa [defaultOf] using ih
      | default body => simp [defaultOf]

theorem testStatement_ends (inner : EndsStatements sure bound reader) {opening close : Lexeme}
    {head lexemes : List Lexeme} {subject : Expr} {tail : Tail} {parts : List TestPart}
    (near : cursor.left ≤ bound) (operation : Expression head subject tail)
    (selection : LooseParts sure lexemes parts) (kind : close.kind = .endTest)
    (split : cursor.lexemes = opening :: (head ++ (lexemes ++ close :: more))) :
    (testStatement reader).Ends sure cursor
      (fun read => erase read = .test subject (armsOf parts) (defaultOf parts) .origin) more := by
  have next : nextKind (lexemes ++ close :: more) = .endTest ∨
      nextKind (lexemes ++ close :: more) = .case ∨
      nextKind (lexemes ++ close :: more) = .default := by
    rcases selection.many.starts (fun kind => kind = .case ∨ kind = .default) (by decide)
      (fun _ _ phrase => phrase.starts) with rfl | opening
    · exact .inl kind
    · rw [nextKind_append (by rcases opening with opening | opening <;> rw [opening] <;> decide)]
      exact .inr opening
  unfold testStatement
  refine .take_bind split fun _ _ _ left => .bind (.of_takes (expression_takes_plain operation left
    ?_)) fun _ here subject' left => ?_
  · rcases next with next | next | next <;> rw [next] <;> exact ⟨rfl, rfl⟩
  have near' := left_lt_of_length near left
    (by simp only [split, List.length_cons, List.length_append]; omega)
  have parts' : (repeatWhile (fun kind => kind == .case || kind == .default)
      (testPart reader)).Ends sure here (fun read => erase read = parts) (close :: more) := by
    refine .many selection.many left ?_ ?_ (by rw [nextKind, kind]; rfl)
    · intro front part phrase
      have starts := phrase.starts
      have inside : nextKind front ≠ .endOfInput := by
        rcases starts with starts | starts <;> rw [starts] <;> decide
      refine ⟨ne_nil_of_nextKind rfl inside, fun behind => ?_⟩
      rw [nextKind_append inside]
      rcases starts with starts | starts <;> rw [starts] <;> rfl
    · intro there front part behind nearer phrase split' next
      refine testPart_ends inner (Nat.le_trans nearer (Nat.le_of_lt near')) phrase split' ?_
      rcases next with next | rfl
      · rw [Bool.or_eq_true, beq_iff_eq, beq_iff_eq] at next
        rcases next with next | next <;> rw [next] <;> rfl
      · rw [nextKind, kind]
        rfl
  refine .bind parts' fun _ _ same left => .expect_bind left kind fun _ _ _ left => .pure ?_ left
  rw [erase_test, subject', erase_armsOf, erase_defaultOf, same]

/-! ## Assignments, calls and expressions -/

theorem assign_takes {target value : List Lexeme} {mark close : Lexeme} {left right : Expr}
    {leftTail rightTail : Tail} (first : Expression target left leftTail)
    (mark' : mark.kind = .assign) (second : Expression value right rightTail)
    (kind : close.kind = .semicolon)
    (split : cursor.lexemes = target ++ mark :: (value ++ close :: more)) :
    simpleStatement.Takes cursor (fun read => erase read = .assign left right .origin) more := by
  have next : nextKind (mark :: (value ++ close :: more)) = .assign := mark'
  unfold simpleStatement
  refine .peek_bind (.bind (expression_takes_plain first split (by rw [next]; exact ⟨rfl, rfl⟩))
    fun _ _ left' rest => .accept_bind rest mark' fun _ rest => ?_)
  refine .bind (expression_takes_plain second rest (isPlain_of_semicolon kind))
    fun _ _ right' rest => ?_
  exact .expect_bind rest kind fun _ _ _ rest =>
    .pure (by rw [erase_assign, left', right']) rest

theorem bareCall_takes_value {value : Expr} {close : Lexeme} (kind : close.kind = .semicolon)
    (split : cursor.lexemes = close :: more) :
    (bareCall value).Takes cursor (fun call => call = value) (close :: more) := by
  unfold bareCall
  cases value with
  | «variable» name =>
      refine .peekKind_bind ?_
      rw [Cursor.kind_of_lexemes split, kind]
      exact .pure rfl split
  | _ => exact .pure rfl split

theorem bareCall_takes_arguments {value : Expr} {name : Name} {lexemes : List Lexeme}
    {values : List Expr} {close : Lexeme} (routine : erase value = .variable name)
    (starts : startsArgument (nextKind lexemes)) (list : CommaList lexemes values)
    (kind : close.kind = .semicolon) (split : cursor.lexemes = lexemes ++ close :: more) :
    (bareCall value).Takes cursor (fun call => erase call = .call name values .origin)
      (close :: more) := by
  cases value with
  | «variable» written =>
      have name' : erase written = name := Expr.variable.inj routine
      unfold bareCall
      refine .peekKind_bind ?_
      rw [if_pos]
      · refine .bind (commaSeparated_takes (expression_takesOperations _) (Nat.lt_succ_self _) list
          split (isPlain_of_semicolon kind) (by rw [nextKind, kind]; decide))
          fun _ _ values' left => .pure ?_ left
        rw [erase_call, name', values']
      · rwa [Cursor.kind_eq_nextKind, split, nextKind_append_of_starts list.starts]
  | _ => cases routine

theorem expressionStatement_takes {lexemes : List Lexeme} {close : Lexeme} {value : Expr}
    {tail : Tail} (operation : Expression lexemes value tail) (kind : close.kind = .semicolon)
    (split : cursor.lexemes = lexemes ++ close :: more) :
    simpleStatement.Takes cursor (fun read => erase read = .expression value .origin) more := by
  unfold simpleStatement
  refine .peek_bind (.bind (expression_takes_plain operation split (isPlain_of_semicolon kind))
    fun _ _ same rest => .accept_bind_of_ne (by rw [rest, nextKind, kind]; decide) ?_)
  refine .bind (bareCall_takes_value kind rest) fun _ _ same' rest => ?_
  exact .expect_bind rest kind fun _ _ _ rest => .pure (by rw [erase_expression, same', same]) rest

theorem callStatement_takes {routine arguments : List Lexeme} {close : Lexeme} {name : Name}
    {values : List Expr} {tail : Tail} (operation : Expression routine (.variable name) tail)
    (apart : Stops 1 tail (nextKind arguments)) (starts : startsArgument (nextKind arguments))
    (list : CommaList arguments values) (kind : close.kind = .semicolon)
    (split : cursor.lexemes = routine ++ (arguments ++ close :: more)) :
    simpleStatement.Takes cursor
      (fun read => erase read = .expression (.call name values .origin) .origin) more := by
  have next : nextKind (arguments ++ close :: more) = nextKind arguments :=
    nextKind_append_of_starts list.starts
  unfold simpleStatement
  refine .peek_bind (.bind (expression_takes _ operation split (next ▸ apart))
    fun _ _ same rest => .accept_bind_of_ne ?_ ?_)
  · rw [rest, next]
    intro mark
    rw [mark] at starts
    cases starts
  · refine .bind (bareCall_takes_arguments same starts list kind rest) fun _ _ same' rest => ?_
    exact .expect_bind rest kind fun _ _ _ rest => .pure (by rw [erase_expression, same']) rest

/-! ## Statements -/

theorem simpleStatement_of_starts (starts : startsExpression cursor.kind)
    {good : Stmt → Prop} (takes : simpleStatement.Takes cursor good more) :
    (statementWith reader).Takes cursor good more := by
  unfold statementWith
  refine .peekKind_bind ?_
  generalize cursor.kind = kind at starts
  cases kind <;> first | exact takes | cases starts

theorem kind_of_append {front : List Lexeme} (split : cursor.lexemes = front ++ more)
    (starts : startsExpression (nextKind front)) : startsExpression cursor.kind := by
  rwa [Cursor.kind_eq_nextKind, split, nextKind_append_of_starts starts]

theorem dataStatement_takes {lexemes : List Lexeme} {item : DataItem}
    (declaration : DataDeclaration lexemes item) (split : cursor.lexemes = lexemes ++ more) :
    (dataItem >>= fun (item, span) => Pure.pure (Stmt.data item span)).Takes cursor
      (fun read => erase read = .data item .origin) more := by
  refine .bind (dataItem_takes declaration split) fun read _ same left => .pure ?_ left
  rw [erase_data, same]

/-- Simple statements are taken whatever the reader for other statements is. -/
theorem statementWith_takes_simple {lexemes : List Lexeme} {tree : Stmt}
    (statement : Statement lexemes tree) (simple : isSimple tree)
    (split : cursor.lexemes = lexemes ++ more) :
    (statementWith reader).Takes cursor (fun read => erase read = tree) more := by
  cases statement with
  | conditional | «while» | «for» | test => cases simple
  | assign first mark second kind =>
      exact simpleStatement_of_starts (kind_of_append (by simpa using split) first.starts)
        (assign_takes first mark second kind (by simpa using split))
  | expression operation kind =>
      exact simpleStatement_of_starts (kind_of_append (by simpa using split) operation.starts)
        (expressionStatement_takes operation kind (by simpa using split))
  | call operation apart starts list kind =>
      exact simpleStatement_of_starts (kind_of_append (by simpa using split) operation.starts)
        (callStatement_takes operation apart starts list kind (by simpa using split))
  | returnNone opening kind =>
      unfold statementWith
      refine .peekKind_bind ?_
      rw [Cursor.kind_of_lexemes split, opening]
      exact returnNone_takes kind split
  | returnSome opening operation kind =>
      unfold statementWith
      refine .peekKind_bind ?_
      rw [Cursor.kind_of_lexemes split, opening]
      exact returnSome_takes operation kind (by simpa using split)
  | move opening first kind₁ second kind₂ third kind₃ fourth options kind₄ =>
      have takes : moveStatement.Takes cursor (fun read => erase read = .move _ .origin) more :=
        moveStatement_takes opening first kind₁ second kind₂ third kind₃ fourth options kind₄
          (by simpa using split)
      unfold statementWith
      refine .peekKind_bind ?_
      rw [Cursor.kind_of_lexemes split]
      revert opening
      generalize Lexeme.kind _ = kind
      intro opening
      cases kind <;> first | exact takes | cases opening
  | connect opening trap link error kind =>
      unfold statementWith
      refine .peekKind_bind ?_
      rw [Cursor.kind_of_lexemes split, opening]
      exact connectStatement_takes trap link error kind split
  | raise opening error kind =>
      unfold statementWith
      refine .peekKind_bind ?_
      rw [Cursor.kind_of_lexemes split, opening]
      exact raiseStatement_takes error kind split
  | data declaration =>
      have takes := dataStatement_takes declaration split
      obtain ⟨storage, opening⟩ := declaration.starts
      have same : cursor.kind = nextKind lexemes := by
        rw [Cursor.kind_eq_nextKind, split, nextKind_append]
        intro finished
        rw [finished] at opening
        cases opening
      unfold statementWith
      refine .peekKind_bind ?_
      rw [same]
      generalize nextKind lexemes = kind at opening
      cases kind <;> first | exact takes | cases opening

theorem statementWith_fails (apart : startsStatement cursor.kind = false) :
    ∃ error, (statementWith reader).run cursor = .error error := by
  obtain ⟨error, failed⟩ := expression_fails (Bool.or_eq_false_iff.mp apart).1
  have failed' : simpleStatement.run cursor = .error error := by
    unfold simpleStatement
    exact (run_bind_of_ok rfl).trans (run_bind_of_error failed)
  refine ⟨error, ?_⟩
  unfold statementWith
  refine (run_bind_of_ok run_peekKind).trans ?_
  generalize cursor.kind = kind at apart ⊢
  cases kind <;> first | exact failed' | cases apart

theorem statementWith_ends (inner : EndsStatements sure bound reader) :
    EndsStatements sure (bound + 1) (statementWith reader) := by
  refine ⟨?_, fun cursor apart => statementWith_fails apart⟩
  intro cursor lexemes tree more near statement split
  replace near := Nat.le_of_lt_succ near
  cases statement with
  | simple statement simple => exact .of_takes (statementWith_takes_simple statement simple split)
  | conditional list last kind =>
      replace split := split.trans (List.append_assoc _ _ _)
      unfold statementWith
      refine .peekKind_bind ?_
      rw [Cursor.kind_eq_nextKind, split, nextKind_append (by rw [list.starts]; decide),
        list.starts]
      exact conditional_ends inner near list last kind (by simpa using split)
  | «while» opening operation meets list kind =>
      unfold statementWith
      refine .peekKind_bind ?_
      rw [Cursor.kind_of_lexemes split, opening]
      exact whileLoop_ends inner near operation meets list kind (by simpa using split)
  | «for» opening named from' lower to' upper meets list kind =>
      unfold statementWith
      refine .peekKind_bind ?_
      rw [Cursor.kind_of_lexemes split, opening]
      exact forLoop_ends inner near named from' lower to' upper meets list kind
        (by simpa using split)
  | test opening operation selection kind =>
      unfold statementWith
      refine .peekKind_bind ?_
      rw [Cursor.kind_of_lexemes split, opening]
      exact testStatement_ends inner near operation selection kind (by simpa using split)

/-- The reader of statements can end with no other tree than that of the loose statement there. -/
theorem statement_ends {lexemes : List Lexeme} {tree : Stmt} (more : List Lexeme)
    (whole : LooseStatement sure lexemes tree) (split : cursor.lexemes = lexemes ++ more) :
    statement.Ends sure cursor (fun read => erase read = tree) more := by
  have unrolled : ∀ bound,
      EndsStatements sure bound (Reader.unroll .noExpression statementWith bound) := by
    intro bound
    induction bound with
    | zero =>
        exact ⟨fun _ _ _ _ near => absurd near (Nat.not_lt_zero _), fun _ _ => ⟨_, rfl⟩⟩
    | succ bound ih => exact statementWith_ends ih
  exact .knot ((unrolled (cursor.left + 1)).ends more (Nat.lt_succ_self _) whole split)

theorem statement_fails (apart : startsStatement cursor.kind = false) :
    ∃ error, statement.run cursor = .error error :=
  @statementWith_fails (Reader.unroll .noExpression statementWith cursor.left) cursor apart

theorem statement_endsStatements (bound : Nat) : EndsStatements sure bound statement :=
  ⟨fun _ _ _ more _ whole split => statement_ends more whole split,
    fun _ apart => statement_fails apart⟩

/-- The reader of statements takes every statement. -/
theorem statement_takes {lexemes : List Lexeme} {tree : Stmt} (more : List Lexeme)
    (whole : Statement lexemes tree) (split : cursor.lexemes = lexemes ++ more) :
    statement.Takes cursor (fun read => erase read = tree) more :=
  (statement_ends more whole.loose split).takes

end Parser

end RapidLang
