import RapidLang.Proofs.Grammar.Expression

/-!
# The grammar of statements

Which lexemes form which statement. The head of a loop has no closing word, and a call may stand
without parentheses; there an expression ends only before a lexeme that could not belong to it.
-/

set_option autoImplicit false

namespace RapidLang.Grammar

open Text RapidLang.Parser

/-- The kind of data that a word declares. -/
def storage? : TokenKind → Option Storage
  | .var => some .var
  | .pers => some .pers
  | .const => some .const
  | _ => none

/-- The motion that a word commands. -/
def motion? : TokenKind → Option Motion
  | .moveJ => some .joint
  | .moveL => some .linear
  | .moveC => some .circular
  | _ => none

theorem storageOf_eq {kind : TokenKind} {storage : Storage} (named : storage? kind = some storage) :
    storageOf kind = storage := by
  cases kind <;> simp_all [storage?, storageOf]

theorem motionOf_eq {kind : TokenKind} {motion : Motion} (named : motion? kind = some motion) :
    motionOf kind = motion := by
  cases kind <;> simp_all [motion?, motionOf]

/-- A value behind an assignment mark, or nothing. -/
inductive Initial : List Lexeme → Option Expr → Prop where
  | none : Initial [] none
  | some {mark : Lexeme} {lexemes : List Lexeme} {value : Expr} {tail : Tail} :
      mark.kind = .assign → Expression lexemes value tail →
      Initial (mark :: lexemes) (some value)

/-- A declaration of data. -/
inductive DataDeclaration : List Lexeme → DataItem → Prop where
  | mk {opening type name close : Lexeme} {storage : Storage} {lexemes : List Lexeme}
      {initial : Option Expr} :
      storage? opening.kind = some storage → type.kind = .identifier → name.kind = .identifier →
      Initial lexemes initial → close.kind = .semicolon →
      DataDeclaration (opening :: type :: name :: (lexemes ++ [close]))
        ⟨storage, ⟨type.text, .origin⟩, ⟨name.text, .origin⟩, initial⟩

/-- The optional arguments of a motion. Of those that name the work object, in any letter case,
the last one counts; it may have no value. -/
inductive Switches : List Lexeme → Option Expr → Prop where
  | none : Switches [] none
  | more {earlier lexemes : List Lexeme} {opening name : Lexeme} {before value : Option Expr} :
      Switches earlier before → opening.kind = .backslash → name.kind = .identifier →
      Initial lexemes value →
      Switches (earlier ++ opening :: name :: lexemes)
        (if sameWord name.text "WObj" then value else before)

mutual

/-- A statement. -/
inductive Statement : List Lexeme → Stmt → Prop where
  | assign {target value : List Lexeme} {mark close : Lexeme} {left right : Expr}
      {leftTail rightTail : Tail} :
      Expression target left leftTail → mark.kind = .assign →
      Expression value right rightTail → close.kind = .semicolon →
      Statement (target ++ mark :: (value ++ [close])) (.assign left right .origin)
  | expression {lexemes : List Lexeme} {close : Lexeme} {value : Expr} {tail : Tail} :
      Expression lexemes value tail → close.kind = .semicolon →
      Statement (lexemes ++ [close]) (.expression value .origin)
  | call {routine arguments : List Lexeme} {close : Lexeme} {name : Name} {values : List Expr}
      {tail : Tail} :
      Expression routine (.variable name) tail → Stops 1 tail (nextKind arguments) →
      startsArgument (nextKind arguments) → CommaList arguments values →
      close.kind = .semicolon →
      Statement (routine ++ (arguments ++ [close]))
        (.expression (.call name values .origin) .origin)
  | conditional {lexemes last : List Lexeme} {close : Lexeme} {branches : List Branch}
      {otherwise : Option (List Stmt)} :
      Branches lexemes branches → Otherwise last otherwise → close.kind = .endIf →
      Statement (lexemes ++ (last ++ [close])) (.conditional branches otherwise .origin)
  | while {opening close : Lexeme} {head lexemes : List Lexeme} {condition : Expr} {tail : Tail}
      {body : List Stmt} :
      opening.kind = .while → Expression head condition tail →
      Stops 1 tail (nextKind (lexemes ++ [close])) → Body lexemes body →
      close.kind = .endWhile →
      Statement (opening :: (head ++ (lexemes ++ [close]))) (.while condition body .origin)
  | for {opening counter start up close : Lexeme} {low high lexemes : List Lexeme}
      {first last : Expr} {lowTail highTail : Tail} {body : List Stmt} :
      opening.kind = .for → counter.kind = .identifier → start.kind = .from →
      Expression low first lowTail → up.kind = .to → Expression high last highTail →
      Stops 1 highTail (nextKind (lexemes ++ [close])) → Body lexemes body →
      close.kind = .endFor →
      Statement (opening :: counter :: start :: (low ++ up :: (high ++ (lexemes ++ [close]))))
        (.for ⟨counter.text, .origin⟩ first last body .origin)
  | returnNone {opening close : Lexeme} :
      opening.kind = .return → close.kind = .semicolon →
      Statement [opening, close] (.return none .origin)
  | returnSome {opening close : Lexeme} {lexemes : List Lexeme} {value : Expr} {tail : Tail} :
      opening.kind = .return → Expression lexemes value tail → close.kind = .semicolon →
      Statement (opening :: (lexemes ++ [close])) (.return (some value) .origin)
  | move {opening comma comma' comma'' close : Lexeme} {motion : Motion}
      {target speed zone tool switches : List Lexeme} {goal pace area gear : Expr}
      {goalTail paceTail areaTail gearTail : Tail} {workObject : Option Expr} :
      motion? opening.kind = some motion →
      Expression target goal goalTail → comma.kind = .comma →
      Expression speed pace paceTail → comma'.kind = .comma →
      Expression zone area areaTail → comma''.kind = .comma →
      Expression tool gear gearTail → Switches switches workObject →
      close.kind = .semicolon →
      Statement
        (opening :: (target ++ comma :: (speed ++ comma' :: (zone ++ comma'' ::
          (tool ++ (switches ++ [close]))))))
        (.move ⟨motion, goal, pace, area, gear, workObject⟩ .origin)
  | test {opening close : Lexeme} {head lexemes : List Lexeme} {subject : Expr} {tail : Tail}
      {arms : List Arm} {default : Option (List Stmt)} :
      opening.kind = .test → Expression head subject tail → Selection lexemes arms default →
      close.kind = .endTest →
      Statement (opening :: (head ++ (lexemes ++ [close]))) (.test subject arms default .origin)
  | connect {opening trap link error close : Lexeme} :
      opening.kind = .connect → trap.kind = .identifier → link.kind = .with →
      error.kind = .identifier → close.kind = .semicolon →
      Statement [opening, trap, link, error, close]
        (.connect ⟨trap.text, .origin⟩ ⟨error.text, .origin⟩ .origin)
  | raise {opening error close : Lexeme} :
      opening.kind = .raise → error.kind = .identifier → close.kind = .semicolon →
      Statement [opening, error, close] (.raise ⟨error.text, .origin⟩ .origin)
  | data {lexemes : List Lexeme} {item : DataItem} :
      DataDeclaration lexemes item → Statement lexemes (.data item .origin)

/-- Statements one after the other. -/
inductive Body : List Lexeme → List Stmt → Prop where
  | nil : Body [] []
  | snoc {earlier lexemes : List Lexeme} {statements : List Stmt} {statement : Stmt} :
      Body earlier statements → Statement lexemes statement →
      Body (earlier ++ lexemes) (statements ++ [statement])

/-- A condition with the statements that it guards, behind a word of the given kind. -/
inductive Guarded : TokenKind → List Lexeme → Branch → Prop where
  | mk {kind : TokenKind} {opening link : Lexeme} {head lexemes : List Lexeme} {condition : Expr}
      {tail : Tail} {body : List Stmt} :
      opening.kind = kind → Expression head condition tail → link.kind = .then →
      Body lexemes body →
      Guarded kind (opening :: (head ++ link :: lexemes)) (.mk condition body .origin)

/-- The branches of a conditional. -/
inductive Branches : List Lexeme → List Branch → Prop where
  | first {lexemes : List Lexeme} {branch : Branch} :
      Guarded .if lexemes branch → Branches lexemes [branch]
  | more {earlier lexemes : List Lexeme} {branches : List Branch} {branch : Branch} :
      Branches earlier branches → Guarded .elseIf lexemes branch →
      Branches (earlier ++ lexemes) (branches ++ [branch])

/-- The last part of a conditional, which may be missing. -/
inductive Otherwise : List Lexeme → Option (List Stmt) → Prop where
  | none : Otherwise [] none
  | some {opening : Lexeme} {lexemes : List Lexeme} {body : List Stmt} :
      opening.kind = .else → Body lexemes body → Otherwise (opening :: lexemes) (some body)

/-- The arms and defaults of a selection, in any order; the last default counts. -/
inductive Selection : List Lexeme → List Arm → Option (List Stmt) → Prop where
  | none : Selection [] [] none
  | arm {earlier head lexemes : List Lexeme} {opening colon : Lexeme} {arms : List Arm}
      {default : Option (List Stmt)} {values : List Expr} {body : List Stmt} :
      Selection earlier arms default → opening.kind = .case → CommaList head values →
      colon.kind = .colon → Body lexemes body →
      Selection (earlier ++ opening :: (head ++ colon :: lexemes))
        (arms ++ [.mk values body .origin]) default
  | default {earlier lexemes : List Lexeme} {opening colon : Lexeme} {arms : List Arm}
      {default : Option (List Stmt)} {body : List Stmt} :
      Selection earlier arms default → opening.kind = .default → colon.kind = .colon →
      Body lexemes body →
      Selection (earlier ++ opening :: colon :: lexemes) arms (some body)

end

/-! ## Facts about statements -/

/-- Does a token of the kind begin a statement? -/
def startsStatement (kind : TokenKind) : Bool :=
  startsExpression kind ||
    match kind with
    | .if | .while | .for | .return | .moveJ | .moveL | .moveC | .test | .connect | .raise | .var
    | .pers | .const => true
    | _ => false

theorem startsStatement_of_expression {kind : TokenKind} (starts : startsExpression kind) :
    startsStatement kind := by
  simp [startsStatement, starts]

theorem startsStatement_of_storage {kind : TokenKind} {storage : Storage}
    (named : storage? kind = some storage) : startsStatement kind := by
  cases kind <;> first | rfl | cases named

theorem startsStatement_of_motion {kind : TokenKind} {motion : Motion}
    (named : motion? kind = some motion) : startsStatement kind := by
  cases kind <;> first | rfl | cases named

theorem DataDeclaration.starts {lexemes : List Lexeme} {item : DataItem}
    (declaration : DataDeclaration lexemes item) :
    ∃ storage, storage? (nextKind lexemes) = some storage := by
  cases declaration with
  | mk opening _ _ _ _ => exact ⟨_, opening⟩

theorem Switches.starts {lexemes : List Lexeme} {value : Option Expr}
    (switches : Switches lexemes value) : lexemes = [] ∨ nextKind lexemes = .backslash := by
  induction switches with
  | none => exact .inl rfl
  | more _ kind _ _ ih =>
      refine .inr ?_
      rcases ih with rfl | ih
      · exact kind
      · rw [nextKind_append (by rw [ih]; decide), ih]

theorem Guarded.starts {kind : TokenKind} {lexemes : List Lexeme} {branch : Branch}
    (guarded : Guarded kind lexemes branch) : nextKind lexemes = kind := by
  cases guarded with
  | mk opening _ _ _ => exact opening

theorem Branches.starts : ∀ {lexemes : List Lexeme} {branches : List Branch},
    Branches lexemes branches → nextKind lexemes = .if
  | _, _, .first guarded => guarded.starts
  | _, _, .more list _ => by
      rw [nextKind_append (by rw [list.starts]; decide), list.starts]

theorem Statement.starts {lexemes : List Lexeme} {tree : Stmt}
    (statement : Statement lexemes tree) : startsStatement (nextKind lexemes) := by
  cases statement with
  | assign target _ _ _ | expression target _ | call target _ _ _ _ =>
      rw [nextKind_append_of_starts target.starts]
      exact startsStatement_of_expression target.starts
  | conditional list _ _ =>
      rw [nextKind_append (by rw [list.starts]; decide), list.starts]
      rfl
  | «while» opening | «for» opening | returnNone opening | returnSome opening | test opening
  | connect opening | raise opening =>
      rw [nextKind, opening]
      rfl
  | move opening => exact startsStatement_of_motion opening
  | data declaration =>
      obtain ⟨_, opening⟩ := declaration.starts
      exact startsStatement_of_storage opening

theorem ne_endOfInput_of_startsStatement {kind : TokenKind} (starts : startsStatement kind) :
    kind ≠ .endOfInput := by
  rintro rfl
  simp [startsStatement, startsExpression, unaryOperator?] at starts

theorem Statement.ne_nil {lexemes : List Lexeme} {tree : Stmt} (statement : Statement lexemes tree) :
    lexemes ≠ [] :=
  ne_nil_of_nextKind rfl (ne_endOfInput_of_startsStatement statement.starts)

theorem Guarded.ne_nil {kind : TokenKind} {lexemes : List Lexeme} {branch : Branch}
    (guarded : Guarded kind lexemes branch) : lexemes ≠ [] := by
  cases guarded
  simp

end RapidLang.Grammar
