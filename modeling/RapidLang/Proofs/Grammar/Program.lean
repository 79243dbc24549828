import RapidLang.Proofs.Grammar.Statement

/-!
# The grammar of programs

Which lexemes form which declaration, module and program.
-/

set_option autoImplicit false

namespace RapidLang.Grammar

open Text RapidLang.Parser

/-- Does a word spell the mode of a parameter that is handed over in both directions? -/
def isInOut (word : Lexeme) : Bool :=
  word.kind = .identifier && sameWord word.text "INOUT"

theorem isInOut_iff {word : Lexeme} :
    isInOut word ↔ word.kind = .identifier ∧ sameWord word.text "INOUT" := by
  rw [isInOut, Bool.and_eq_true, decide_eq_true_iff]

/-- A parameter. Its type is not the word INOUT unless a mode stands before it. -/
inductive ParameterPhrase : List Lexeme → Parameter → Prop where
  | input {type name : Lexeme} :
      type.kind = .identifier → isInOut type = false → name.kind = .identifier →
      ParameterPhrase [type, name] ⟨.input, ⟨type.text, .origin⟩, ⟨name.text, .origin⟩, .origin⟩
  | inOut {mode type name : Lexeme} :
      isInOut mode → type.kind = .identifier → name.kind = .identifier →
      ParameterPhrase [mode, type, name]
        ⟨.inOut, ⟨type.text, .origin⟩, ⟨name.text, .origin⟩, .origin⟩
  | var {mode type name : Lexeme} :
      mode.kind = .var → type.kind = .identifier → name.kind = .identifier →
      ParameterPhrase [mode, type, name]
        ⟨.var, ⟨type.text, .origin⟩, ⟨name.text, .origin⟩, .origin⟩
  | pers {mode type name : Lexeme} :
      mode.kind = .pers → type.kind = .identifier → name.kind = .identifier →
      ParameterPhrase [mode, type, name]
        ⟨.pers, ⟨type.text, .origin⟩, ⟨name.text, .origin⟩, .origin⟩

/-- Phrases with commas between them, at least one. -/
inductive Separated {α : Type} (phrase : List Lexeme → α → Prop) : List Lexeme → List α → Prop where
  | one {lexemes : List Lexeme} {value : α} :
      phrase lexemes value → Separated phrase lexemes [value]
  | more {earlier lexemes : List Lexeme} {comma : Lexeme} {values : List α} {value : α} :
      Separated phrase earlier values → comma.kind = .comma → phrase lexemes value →
      Separated phrase (earlier ++ comma :: lexemes) (values ++ [value])

/-- Phrases one after the other. -/
inductive Many {α : Type} (phrase : List Lexeme → α → Prop) : List Lexeme → List α → Prop where
  | nil : Many phrase [] []
  | snoc {earlier lexemes : List Lexeme} {values : List α} {value : α} :
      Many phrase earlier values → phrase lexemes value →
      Many phrase (earlier ++ lexemes) (values ++ [value])

/-- The parameters of a routine. Their parentheses may be empty or missing. -/
inductive Parameters : List Lexeme → List Parameter → Prop where
  | missing : Parameters [] []
  | none {opening close : Lexeme} :
      opening.kind = .leftParen → close.kind = .rightParen → Parameters [opening, close] []
  | some {opening close : Lexeme} {lexemes : List Lexeme} {values : List Parameter} :
      opening.kind = .leftParen → Separated ParameterPhrase lexemes values →
      close.kind = .rightParen → Parameters (opening :: (lexemes ++ [close])) values

/-- The parameters of a routine and the rest of it, up to the word that closes it. Without
parameters the rest does not begin with a parenthesis. -/
inductive RoutineRest (closing : TokenKind) : List Lexeme → List Parameter → List Stmt → Prop where
  | mk {front lexemes : List Lexeme} {close : Lexeme} {parameters : List Parameter}
      {body : List Stmt} :
      Parameters front parameters → Body lexemes body → close.kind = closing →
      (front = [] → nextKind (lexemes ++ [close]) ≠ .leftParen) →
      RoutineRest closing (front ++ (lexemes ++ [close])) parameters body

/-- A component of a record. -/
inductive ComponentPhrase : List Lexeme → Component → Prop where
  | mk {type name : Lexeme} :
      type.kind = .identifier → name.kind = .identifier →
      ComponentPhrase [type, name] ⟨⟨type.text, .origin⟩, ⟨name.text, .origin⟩, .origin⟩

/-- A component with the semicolon behind it. -/
inductive ComponentLine : List Lexeme → Component → Prop where
  | mk {lexemes : List Lexeme} {close : Lexeme} {component : Component} :
      ComponentPhrase lexemes component → close.kind = .semicolon →
      ComponentLine (lexemes ++ [close]) component

/-- The components between parentheses; a last comma may be left over. -/
inductive ComponentList : List Lexeme → List Component → Prop where
  | none : ComponentList [] []
  | some {lexemes : List Lexeme} {values : List Component} :
      Separated ComponentPhrase lexemes values → ComponentList lexemes values
  | trailing {lexemes : List Lexeme} {comma : Lexeme} {values : List Component} :
      Separated ComponentPhrase lexemes values → comma.kind = .comma →
      ComponentList (lexemes ++ [comma]) values

/-- A declaration. -/
inductive Declaration : List Lexeme → Decl → Prop where
  | data {lexemes : List Lexeme} {item : DataItem} :
      DataDeclaration lexemes item → Declaration lexemes (.data item .origin)
  | proc {opening name : Lexeme} {lexemes : List Lexeme} {parameters : List Parameter}
      {body : List Stmt} :
      opening.kind = .proc → name.kind = .identifier →
      RoutineRest .endProc lexemes parameters body →
      Declaration (opening :: name :: lexemes) (.proc ⟨name.text, .origin⟩ parameters body .origin)
  | func {opening type name : Lexeme} {lexemes : List Lexeme} {parameters : List Parameter}
      {body : List Stmt} :
      opening.kind = .func → type.kind = .identifier → name.kind = .identifier →
      RoutineRest .endFunc lexemes parameters body →
      Declaration (opening :: type :: name :: lexemes)
        (.func ⟨type.text, .origin⟩ ⟨name.text, .origin⟩ parameters body .origin)
  | trap {opening name close : Lexeme} {lexemes : List Lexeme} {body : List Stmt} :
      opening.kind = .trap → name.kind = .identifier → Body lexemes body →
      close.kind = .endTrap →
      Declaration (opening :: name :: (lexemes ++ [close])) (.trap ⟨name.text, .origin⟩ body .origin)
  | recordList {opening name left right close : Lexeme} {lexemes : List Lexeme}
      {components : List Component} :
      opening.kind = .record → name.kind = .identifier → left.kind = .leftParen →
      ComponentList lexemes components → right.kind = .rightParen → close.kind = .semicolon →
      Declaration (opening :: name :: left :: (lexemes ++ [right, close]))
        (.record ⟨name.text, .origin⟩ components .origin)
  | recordBlock {opening name close : Lexeme} {lexemes : List Lexeme}
      {components : List Component} :
      opening.kind = .record → name.kind = .identifier → Many ComponentLine lexemes components →
      close.kind = .endRecord →
      Declaration (opening :: name :: (lexemes ++ [close]))
        (.record ⟨name.text, .origin⟩ components .origin)

/-- A module. -/
inductive ModulePhrase : List Lexeme → Module → Prop where
  | mk {opening name close : Lexeme} {lexemes : List Lexeme} {declarations : List Decl} :
      opening.kind = .module → name.kind = .identifier → Many Declaration lexemes declarations →
      close.kind = .endModule →
      ModulePhrase (opening :: name :: (lexemes ++ [close]))
        ⟨⟨name.text, .origin⟩, declarations, .origin⟩

/-- A program. -/
inductive ProgramPhrase : List Lexeme → Program → Prop where
  | mk {lexemes : List Lexeme} {modules : List Module} :
      Many ModulePhrase lexemes modules → ProgramPhrase lexemes ⟨modules, .origin⟩

/-! ## Facts about phrases -/

theorem ParameterPhrase.starts {lexemes : List Lexeme} {tree : Parameter}
    (phrase : ParameterPhrase lexemes tree) : nextKind lexemes ≠ .rightParen ∧
      nextKind lexemes ≠ .endOfInput := by
  cases phrase with
  | input typed => rw [nextKind, typed]; decide
  | inOut word =>
      rw [nextKind, (isInOut_iff.mp word).1]
      decide
  | var kind | pers kind => rw [nextKind, kind]; decide

theorem ComponentPhrase.starts {lexemes : List Lexeme} {component : Component}
    (phrase : ComponentPhrase lexemes component) : nextKind lexemes = .identifier := by
  cases phrase with
  | mk typed _ => exact typed

theorem Separated.starts {α : Type} {phrase : List Lexeme → α → Prop} (property : TokenKind → Prop)
    {lexemes : List Lexeme} {values : List α} (list : Separated phrase lexemes values)
    (inside : ¬ property .endOfInput)
    (starts : ∀ lexemes value, phrase lexemes value → property (nextKind lexemes)) :
    property (nextKind lexemes) := by
  induction list with
  | one holds => exact starts _ _ holds
  | more _ _ _ ih =>
      rwa [nextKind_append]
      intro finished
      exact inside (finished ▸ ih)

theorem Many.starts {α : Type} {phrase : List Lexeme → α → Prop} (property : TokenKind → Prop)
    {lexemes : List Lexeme} {values : List α} (many : Many phrase lexemes values)
    (inside : ¬ property .endOfInput)
    (starts : ∀ lexemes value, phrase lexemes value → property (nextKind lexemes)) :
    lexemes = [] ∨ property (nextKind lexemes) := by
  induction many with
  | nil => exact .inl rfl
  | @snoc earlier lexemes _ _ _ holds ih =>
      have here := starts _ _ holds
      rcases ih with rfl | ih
      · exact .inr here
      · refine .inr ?_
        rwa [nextKind_append]
        intro finished
        exact inside (finished ▸ ih)

/-- A phrase behind a comma. -/
def AfterComma {α : Type} (phrase : List Lexeme → α → Prop) (lexemes : List Lexeme) (value : α) :
    Prop :=
  ∃ comma rest, lexemes = comma :: rest ∧ comma.kind = .comma ∧ phrase rest value

theorem AfterComma.starts {α : Type} {phrase : List Lexeme → α → Prop} {lexemes : List Lexeme}
    {value : α} (holds : AfterComma phrase lexemes value) : nextKind lexemes = .comma := by
  obtain ⟨comma, rest, rfl, kind, _⟩ := holds
  exact kind

theorem AfterComma.comma_first {α : Type} {phrase : List Lexeme → α → Prop} {lexemes : List Lexeme}
    {value : α} (holds : AfterComma phrase lexemes value) :
    lexemes ≠ [] ∧ ∀ behind, nextKind (lexemes ++ behind) == .comma := by
  obtain ⟨comma, rest, rfl, kind, _⟩ := holds
  exact ⟨by simp, fun _ => beq_iff_eq.mpr kind⟩

/-- A list with commas is its first phrase and the others, each behind its comma. -/
theorem Separated.split {α : Type} {phrase : List Lexeme → α → Prop} {lexemes : List Lexeme}
    {values : List α} (list : Separated phrase lexemes values) :
    ∃ front rest first others, lexemes = front ++ rest ∧ values = first :: others ∧
      phrase front first ∧ Many (AfterComma phrase) rest others := by
  induction list with
  | @one lexemes value holds => exact ⟨lexemes, [], value, [], by simp, rfl, holds, .nil⟩
  | @more earlier lexemes comma values value _ kind holds ih =>
      obtain ⟨front, rest, first, others, rfl, rfl, start, many⟩ := ih
      refine ⟨front, rest ++ comma :: lexemes, first, others ++ [value], by simp, rfl, start, ?_⟩
      exact .snoc many ⟨comma, lexemes, rfl, kind, holds⟩

/-- Does a token of the kind begin a declaration? -/
def startsDeclaration : TokenKind → Bool
  | .var | .pers | .const | .proc | .func | .trap | .record => true
  | _ => false

theorem Declaration.starts {lexemes : List Lexeme} {tree : Decl}
    (declaration : Declaration lexemes tree) : startsDeclaration (nextKind lexemes) := by
  cases declaration with
  | data data =>
      obtain ⟨storage, opening⟩ := data.starts
      generalize nextKind lexemes = kind at opening
      cases kind <;> first | rfl | cases opening
  | proc opening | func opening | trap opening | recordList opening | recordBlock opening =>
      rw [nextKind, opening]
      rfl

theorem ne_endOfInput_of_startsDeclaration {kind : TokenKind} (starts : startsDeclaration kind) :
    kind ≠ .endOfInput := by
  rintro rfl
  cases starts

theorem Declaration.ne_nil {lexemes : List Lexeme} {tree : Decl}
    (declaration : Declaration lexemes tree) : lexemes ≠ [] :=
  ne_nil_of_nextKind rfl (ne_endOfInput_of_startsDeclaration declaration.starts)

end RapidLang.Grammar
