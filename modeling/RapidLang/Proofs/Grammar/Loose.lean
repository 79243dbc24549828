import RapidLang.Proofs.Grammar.Program

/-!
# Loops whose heads run on

The head of a loop has no closing word, and in the grammar it ends before the first statement of
the loop. `LooseStatement` differs from the grammar in that it need not do so: a layout leaves out
parentheses, and with them the end of a head can be lost. Under the condition `sure` no head runs
on, and the two relations are the same.
-/

set_option autoImplicit false

namespace RapidLang.Grammar

open RapidLang.Parser

/-- The lexemes begin with an expression that is a statement or the target of an assignment. -/
def OpensSimple (lexemes : List Lexeme) : Prop :=
  ∃ (front rest : List Lexeme) (mark : Lexeme) (tree : Expr) (tail : Tail),
    lexemes = front ++ mark :: rest ∧ Expression front tree tail ∧
      (mark.kind = .assign ∨ mark.kind = .semicolon)

/-- The head of a loop ends before what stands behind it, or it runs on into an expression there. -/
def HeadMeets (sure : Prop) (tail : Tail) (behind : List Lexeme) : Prop :=
  Stops 1 tail (nextKind behind) ∨ ¬sure ∧ ¬Stops 1 tail (nextKind behind) ∧ OpensSimple behind

/-- Is the statement none that is made of others? -/
def isSimple : Stmt → Bool
  | .block _ _ | .conditional _ _ _ | .while _ _ _ | .for _ _ _ _ _ | .test _ _ _ _ => false
  | _ => true

mutual

/-- A statement in which heads of loops may run on. -/
inductive LooseStatement (sure : Prop) : List Lexeme → Stmt → Prop where
  | simple {lexemes : List Lexeme} {tree : Stmt} :
      Statement lexemes tree → isSimple tree → LooseStatement sure lexemes tree
  | conditional {lexemes last : List Lexeme} {close : Lexeme} {branches : List Branch}
      {otherwise : Option (List Stmt)} :
      LooseBranches sure lexemes branches → LooseOtherwise sure last otherwise →
      close.kind = .endIf →
      LooseStatement sure (lexemes ++ (last ++ [close])) (.conditional branches otherwise .origin)
  | while {opening close : Lexeme} {head lexemes : List Lexeme} {condition : Expr} {tail : Tail}
      {body : List Stmt} :
      opening.kind = .while → Expression head condition tail →
      HeadMeets sure tail (lexemes ++ [close]) → LooseBody sure lexemes body →
      close.kind = .endWhile →
      LooseStatement sure (opening :: (head ++ (lexemes ++ [close])))
        (.while condition body .origin)
  | for {opening counter start up close : Lexeme} {low high lexemes : List Lexeme}
      {first last : Expr} {lowTail highTail : Tail} {body : List Stmt} :
      opening.kind = .for → counter.kind = .identifier → start.kind = .from →
      Expression low first lowTail → up.kind = .to → Expression high last highTail →
      HeadMeets sure highTail (lexemes ++ [close]) → LooseBody sure lexemes body →
      close.kind = .endFor →
      LooseStatement sure
        (opening :: counter :: start :: (low ++ up :: (high ++ (lexemes ++ [close]))))
        (.for ⟨counter.text, .origin⟩ first last body .origin)
  | test {opening close : Lexeme} {head lexemes : List Lexeme} {subject : Expr} {tail : Tail}
      {parts : List TestPart} :
      opening.kind = .test → Expression head subject tail → LooseParts sure lexemes parts →
      close.kind = .endTest →
      LooseStatement sure (opening :: (head ++ (lexemes ++ [close])))
        (.test subject (armsOf parts) (defaultOf parts) .origin)

/-- Such statements one after the other. -/
inductive LooseBody (sure : Prop) : List Lexeme → List Stmt → Prop where
  | nil : LooseBody sure [] []
  | snoc {earlier lexemes : List Lexeme} {statements : List Stmt} {statement : Stmt} :
      LooseBody sure earlier statements → LooseStatement sure lexemes statement →
      LooseBody sure (earlier ++ lexemes) (statements ++ [statement])

/-- A condition with the statements that it guards, behind a word of the given kind. -/
inductive LooseGuarded (sure : Prop) : TokenKind → List Lexeme → Branch → Prop where
  | mk {kind : TokenKind} {opening link : Lexeme} {head lexemes : List Lexeme} {condition : Expr}
      {tail : Tail} {body : List Stmt} :
      opening.kind = kind → Expression head condition tail → link.kind = .then →
      LooseBody sure lexemes body →
      LooseGuarded sure kind (opening :: (head ++ link :: lexemes)) (.mk condition body .origin)

/-- The branches of a conditional. -/
inductive LooseBranches (sure : Prop) : List Lexeme → List Branch → Prop where
  | first {lexemes : List Lexeme} {branch : Branch} :
      LooseGuarded sure .if lexemes branch → LooseBranches sure lexemes [branch]
  | more {earlier lexemes : List Lexeme} {branches : List Branch} {branch : Branch} :
      LooseBranches sure earlier branches → LooseGuarded sure .elseIf lexemes branch →
      LooseBranches sure (earlier ++ lexemes) (branches ++ [branch])

/-- The last part of a conditional, which may be missing. -/
inductive LooseOtherwise (sure : Prop) : List Lexeme → Option (List Stmt) → Prop where
  | none : LooseOtherwise sure [] none
  | some {opening : Lexeme} {lexemes : List Lexeme} {body : List Stmt} :
      opening.kind = .else → LooseBody sure lexemes body →
      LooseOtherwise sure (opening :: lexemes) (some body)

/-- One part of a selection. -/
inductive LoosePart (sure : Prop) : List Lexeme → TestPart → Prop where
  | arm {head lexemes : List Lexeme} {opening colon : Lexeme} {values : List Expr}
      {body : List Stmt} :
      opening.kind = .case → CommaList head values → colon.kind = .colon →
      LooseBody sure lexemes body →
      LoosePart sure (opening :: (head ++ colon :: lexemes)) (.arm (.mk values body .origin))
  | default {lexemes : List Lexeme} {opening colon : Lexeme} {body : List Stmt} :
      opening.kind = .default → colon.kind = .colon → LooseBody sure lexemes body →
      LoosePart sure (opening :: colon :: lexemes) (.default body)

/-- The parts of a selection. -/
inductive LooseParts (sure : Prop) : List Lexeme → List TestPart → Prop where
  | nil : LooseParts sure [] []
  | snoc {earlier lexemes : List Lexeme} {parts : List TestPart} {part : TestPart} :
      LooseParts sure earlier parts → LoosePart sure lexemes part →
      LooseParts sure (earlier ++ lexemes) (parts ++ [part])

end

/-- The rest of a routine behind its name. -/
inductive LooseRest (sure : Prop) (closing : TokenKind) :
    List Lexeme → List Parameter → List Stmt → Prop where
  | mk {front lexemes : List Lexeme} {close : Lexeme} {parameters : List Parameter}
      {body : List Stmt} :
      Parameters front parameters → LooseBody sure lexemes body → close.kind = closing →
      (front = [] → nextKind (lexemes ++ [close]) ≠ .leftParen) →
      LooseRest sure closing (front ++ (lexemes ++ [close])) parameters body

/-- Does the declaration hold no statements? -/
def isBodiless : Decl → Bool
  | .data _ _ | .record _ _ _ => true
  | _ => false

/-- A declaration in whose statements heads of loops may run on. -/
inductive LooseDeclaration (sure : Prop) : List Lexeme → Decl → Prop where
  | bodiless {lexemes : List Lexeme} {tree : Decl} :
      Declaration lexemes tree → isBodiless tree → LooseDeclaration sure lexemes tree
  | proc {opening name : Lexeme} {lexemes : List Lexeme} {parameters : List Parameter}
      {body : List Stmt} :
      opening.kind = .proc → name.kind = .identifier →
      LooseRest sure .endProc lexemes parameters body →
      LooseDeclaration sure (opening :: name :: lexemes)
        (.proc ⟨name.text, .origin⟩ parameters body .origin)
  | func {opening type name : Lexeme} {lexemes : List Lexeme} {parameters : List Parameter}
      {body : List Stmt} :
      opening.kind = .func → type.kind = .identifier → name.kind = .identifier →
      LooseRest sure .endFunc lexemes parameters body →
      LooseDeclaration sure (opening :: type :: name :: lexemes)
        (.func ⟨type.text, .origin⟩ ⟨name.text, .origin⟩ parameters body .origin)
  | trap {opening name close : Lexeme} {lexemes : List Lexeme} {body : List Stmt} :
      opening.kind = .trap → name.kind = .identifier → LooseBody sure lexemes body →
      close.kind = .endTrap →
      LooseDeclaration sure (opening :: name :: (lexemes ++ [close]))
        (.trap ⟨name.text, .origin⟩ body .origin)

/-- A module in whose statements heads of loops may run on. -/
inductive LooseModule (sure : Prop) : List Lexeme → Module → Prop where
  | mk {opening name close : Lexeme} {lexemes : List Lexeme} {declarations : List Decl} :
      opening.kind = .module → name.kind = .identifier →
      Many (LooseDeclaration sure) lexemes declarations → close.kind = .endModule →
      LooseModule sure (opening :: name :: (lexemes ++ [close]))
        ⟨⟨name.text, .origin⟩, declarations, .origin⟩

/-- A program in whose statements heads of loops may run on. -/
inductive LooseProgram (sure : Prop) : List Lexeme → Program → Prop where
  | mk {lexemes : List Lexeme} {modules : List Module} :
      Many (LooseModule sure) lexemes modules → LooseProgram sure lexemes ⟨modules, .origin⟩

variable {sure : Prop}

/-! ## Lists -/

theorem LooseBody.many : ∀ {lexemes : List Lexeme} {statements : List Stmt},
    LooseBody sure lexemes statements → Many (LooseStatement sure) lexemes statements
  | _, _, .nil => .nil
  | _, _, .snoc earlier statement => .snoc earlier.many statement

theorem LooseParts.many : ∀ {lexemes : List Lexeme} {parts : List TestPart},
    LooseParts sure lexemes parts → Many (LoosePart sure) lexemes parts
  | _, _, .nil => .nil
  | _, _, .snoc earlier part => .snoc earlier.many part

theorem LooseBranches.split : ∀ {lexemes : List Lexeme} {branches : List Branch},
    LooseBranches sure lexemes branches → ∃ front rest first others, lexemes = front ++ rest ∧
      branches = first :: others ∧ LooseGuarded sure .if front first ∧
      Many (LooseGuarded sure .elseIf) rest others
  | lexemes, _, .first guarded => ⟨lexemes, [], _, [], by simp, rfl, guarded, .nil⟩
  | _, _, .more earlier guarded => by
      obtain ⟨front, rest, first, others, rfl, rfl, opening, many⟩ := earlier.split
      exact ⟨front, _, first, _, by simp, rfl, opening, .snoc many guarded⟩

/-! ## Beginnings -/

theorem LooseGuarded.starts {kind : TokenKind} {lexemes : List Lexeme} {branch : Branch}
    (guarded : LooseGuarded sure kind lexemes branch) : nextKind lexemes = kind := by
  cases guarded with
  | mk opening _ _ _ => exact opening

theorem LooseGuarded.ne_nil {kind : TokenKind} {lexemes : List Lexeme} {branch : Branch}
    (guarded : LooseGuarded sure kind lexemes branch) : lexemes ≠ [] := by
  cases guarded
  simp

theorem LooseBranches.starts {lexemes : List Lexeme} {branches : List Branch}
    (list : LooseBranches sure lexemes branches) : nextKind lexemes = .if := by
  obtain ⟨front, rest, first, others, rfl, rfl, opening, _⟩ := list.split
  rw [nextKind_append (by rw [opening.starts]; decide), opening.starts]

theorem LoosePart.starts {lexemes : List Lexeme} {part : TestPart}
    (phrase : LoosePart sure lexemes part) :
    nextKind lexemes = .case ∨ nextKind lexemes = .default := by
  cases phrase with
  | arm kind => exact .inl kind
  | default kind => exact .inr kind

theorem LooseStatement.starts {lexemes : List Lexeme} {tree : Stmt}
    (statement : LooseStatement sure lexemes tree) : startsStatement (nextKind lexemes) := by
  cases statement with
  | simple statement _ => exact statement.starts
  | conditional list _ _ =>
      rw [nextKind_append (by rw [list.starts]; decide), list.starts]
      rfl
  | «while» opening | «for» opening | test opening =>
      rw [nextKind, opening]
      rfl

theorem LooseStatement.ne_nil {lexemes : List Lexeme} {tree : Stmt}
    (statement : LooseStatement sure lexemes tree) : lexemes ≠ [] :=
  ne_nil_of_nextKind rfl (ne_endOfInput_of_startsStatement statement.starts)

theorem LooseBody.starts {lexemes : List Lexeme} {statements : List Stmt}
    (body : LooseBody sure lexemes statements) :
    lexemes = [] ∨ startsStatement (nextKind lexemes) :=
  body.many.starts (startsStatement ·) (by decide) fun _ _ statement => statement.starts

theorem LooseDeclaration.starts {lexemes : List Lexeme} {tree : Decl}
    (declaration : LooseDeclaration sure lexemes tree) :
    startsDeclaration (nextKind lexemes) := by
  cases declaration with
  | bodiless declaration _ => exact declaration.starts
  | proc opening | func opening | trap opening =>
      rw [nextKind, opening]
      rfl

theorem LooseDeclaration.ne_nil {lexemes : List Lexeme} {tree : Decl}
    (declaration : LooseDeclaration sure lexemes tree) : lexemes ≠ [] :=
  ne_nil_of_nextKind rfl (ne_endOfInput_of_startsDeclaration declaration.starts)

/-! ## The grammar itself -/

mutual

theorem Statement.loose : ∀ {lexemes : List Lexeme} {tree : Stmt}, Statement lexemes tree →
    LooseStatement sure lexemes tree
  | _, _, .conditional list last kind => .conditional list.loose last.loose kind
  | _, _, .while opening operation apart body kind =>
      .while opening operation (.inl apart) body.loose kind
  | _, _, .for opening named start low up high apart body kind =>
      .for opening named start low up high (.inl apart) body.loose kind
  | _, _, .test opening operation selection kind => by
      obtain ⟨parts, list, rfl, rfl⟩ := selection.loose
      exact .test opening operation list kind
  | _, _, .assign left mark right kind => .simple (.assign left mark right kind) rfl
  | _, _, .expression operation kind => .simple (.expression operation kind) rfl
  | _, _, .call operation apart starts list kind =>
      .simple (.call operation apart starts list kind) rfl
  | _, _, .returnNone opening kind => .simple (.returnNone opening kind) rfl
  | _, _, .returnSome opening operation kind => .simple (.returnSome opening operation kind) rfl
  | _, _, .move opening first comma second comma' third comma'' fourth switches kind =>
      .simple (.move opening first comma second comma' third comma'' fourth switches kind) rfl
  | _, _, .connect opening trap link error kind =>
      .simple (.connect opening trap link error kind) rfl
  | _, _, .raise opening error kind => .simple (.raise opening error kind) rfl
  | _, _, .data declaration => .simple (.data declaration) rfl

theorem Body.loose : ∀ {lexemes : List Lexeme} {statements : List Stmt}, Body lexemes statements →
    LooseBody sure lexemes statements
  | _, _, .nil => .nil
  | _, _, .snoc earlier statement => .snoc earlier.loose statement.loose

theorem Guarded.loose : ∀ {kind : TokenKind} {lexemes : List Lexeme} {branch : Branch},
    Guarded kind lexemes branch → LooseGuarded sure kind lexemes branch
  | _, _, _, .mk opening operation link body => .mk opening operation link body.loose

theorem Branches.loose : ∀ {lexemes : List Lexeme} {branches : List Branch},
    Branches lexemes branches → LooseBranches sure lexemes branches
  | _, _, .first guarded => .first guarded.loose
  | _, _, .more earlier guarded => .more earlier.loose guarded.loose

theorem Otherwise.loose : ∀ {lexemes : List Lexeme} {body : Option (List Stmt)},
    Otherwise lexemes body → LooseOtherwise sure lexemes body
  | _, _, .none => .none
  | _, _, .some opening body => .some opening body.loose

theorem Selection.loose : ∀ {lexemes : List Lexeme} {arms : List Arm}
    {default : Option (List Stmt)}, Selection lexemes arms default →
    ∃ parts, LooseParts sure lexemes parts ∧ armsOf parts = arms ∧ defaultOf parts = default
  | _, _, _, .none => ⟨[], .nil, rfl, rfl⟩
  | _, _, _, .arm earlier kind list kind' body => by
      obtain ⟨parts, many, rfl, rfl⟩ := earlier.loose
      exact ⟨_, .snoc many (.arm kind list kind' body.loose), by simp [armsOf], by simp [defaultOf]⟩
  | _, _, _, .default earlier kind kind' body => by
      obtain ⟨parts, many, rfl, rfl⟩ := earlier.loose
      exact ⟨_, .snoc many (.default kind kind' body.loose), by simp [armsOf], by simp [defaultOf]⟩

end

theorem RoutineRest.loose {closing : TokenKind} {lexemes : List Lexeme}
    {parameters : List Parameter} {body : List Stmt}
    (rest : RoutineRest closing lexemes parameters body) :
    LooseRest sure closing lexemes parameters body := by
  cases rest with
  | mk list body kind apart => exact .mk list body.loose kind apart

theorem Declaration.loose {lexemes : List Lexeme} {tree : Decl}
    (declaration : Declaration lexemes tree) : LooseDeclaration sure lexemes tree := by
  cases declaration with
  | data data => exact .bodiless (.data data) rfl
  | recordList opening named left list right kind =>
      exact .bodiless (.recordList opening named left list right kind) rfl
  | recordBlock opening named list kind => exact .bodiless (.recordBlock opening named list kind) rfl
  | proc opening named rest => exact .proc opening named rest.loose
  | func opening typed named rest => exact .func opening typed named rest.loose
  | trap opening named body kind => exact .trap opening named body.loose kind

theorem Many.mono {α : Type} {phrase phrase' : List Lexeme → α → Prop} {lexemes : List Lexeme}
    {values : List α} (many : Many phrase lexemes values)
    (kept : ∀ lexemes value, phrase lexemes value → phrase' lexemes value) :
    Many phrase' lexemes values := by
  induction many with
  | nil => exact .nil
  | snoc _ holds ih => exact .snoc ih (kept _ _ holds)

theorem ModulePhrase.loose {lexemes : List Lexeme} {tree : Module}
    (phrase : ModulePhrase lexemes tree) : LooseModule sure lexemes tree := by
  cases phrase with
  | mk opening named list kind =>
      exact .mk opening named (list.mono fun _ _ declaration => declaration.loose) kind

theorem ProgramPhrase.loose {lexemes : List Lexeme} {tree : Program}
    (phrase : ProgramPhrase lexemes tree) : LooseProgram sure lexemes tree := by
  cases phrase with
  | mk list => exact .mk (list.mono fun _ _ phrase => phrase.loose)

end RapidLang.Grammar
