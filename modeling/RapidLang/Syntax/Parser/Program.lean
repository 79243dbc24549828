import RapidLang.Syntax.Parser.Statement
import RapidLang.Token.Lexer

/-!
# Reading programs

Declarations, modules and programs, and the functions that read a whole list of tokens or a whole
text. The first error ends the reading, so a text has a program or exactly one syntax error.
-/

set_option autoImplicit false

namespace RapidLang

open Text

namespace Parser

/-- The mode that a parameter begins with. The word INOUT is a mode only before another word; else
it is a type. -/
def modeOf (current following : Token) : ParameterMode :=
  match current.kind with
  | .var => .var
  | .pers => .pers
  | .identifier =>
    if sameWord current.text "INOUT" && following.kind == .identifier then .inOut else .input
  | _ => .input

/-- Takes the mode that a parameter begins with, if one is written. -/
def takeMode : Reader ParameterMode := do
  let mode := modeOf (← peek) (← peekFollowing)
  if mode = .input then return mode
  else
    let _ ← take
    return mode

def parameter : Reader Parameter := do
  let opening ← peek
  let mode ← takeMode
  let type ← expectName .parameterType
  let name ← expectName .parameter
  return ⟨mode, type, name, opening.span.merge name.span⟩

def parameterList : Reader (List Parameter) := do
  if (← peekKind) = .rightParen then return []
  else commaSeparated parameter

/-- Reads the parameters of a routine; the parentheses may be missing or empty. -/
def parameters : Reader (List Parameter) := do
  if ← accept .leftParen then
    let parameters ← parameterList
    let _ ← expect .rightParen
    return parameters
  else return []

def component : Reader Component := do
  let type ← expectName .componentType
  let name ← expectName .component
  return ⟨type, name, type.span.merge name.span⟩

/-- Reads a component unless a closing parenthesis stands in its place. -/
def optionalComponent : Reader (Option Component) := do
  if (← peekKind) = .rightParen then return none
  else return some (← component)

/-- Reads the components between parentheses, up to the closing one. A last comma may be left
over. -/
def componentList : Reader (List Component) := do
  match ← optionalComponent with
  | none => return []
  | some first =>
    let others ← repeatWhile (· == .comma) do
      let _ ← take
      optionalComponent
    return first :: others.filterMap id

/-- Reads a record in either of its forms: a list in parentheses, or a block of components. -/
def recordDeclaration : Reader Decl := do
  let opening ← take
  let name ← expectName .record
  if ← accept .leftParen then
    let components ← componentList
    let _ ← expect .rightParen
    let close ← expect .semicolon
    return .record name components (opening.span.merge close.span)
  else
    let components ← repeatWhile (fun kind => kind != .endRecord && kind != .endOfInput) do
      let component ← component
      let _ ← expect .semicolon
      return component
    let close ← expect .endRecord
    return .record name components (opening.span.merge close.span)

def procDeclaration : Reader Decl := do
  let opening ← take
  let name ← expectName .procedure
  let parameters ← parameters
  let statements ← body statement (· == .endProc)
  let close ← expect .endProc
  return .proc name parameters statements (opening.span.merge close.span)

def funcDeclaration : Reader Decl := do
  let opening ← take
  let type ← expectName .returnType
  let name ← expectName .function
  let parameters ← parameters
  let statements ← body statement (· == .endFunc)
  let close ← expect .endFunc
  return .func type name parameters statements (opening.span.merge close.span)

def trapDeclaration : Reader Decl := do
  let opening ← take
  let name ← expectName .trap
  let statements ← body statement (· == .endTrap)
  let close ← expect .endTrap
  return .trap name statements (opening.span.merge close.span)

def declaration : Reader Decl := do
  match ← peekKind with
  | .var | .pers | .const =>
    let (item, span) ← dataItem
    return .data item span
  | .proc => procDeclaration
  | .func => funcDeclaration
  | .record => recordDeclaration
  | .trap => trapDeclaration
  | _ => fail .noDeclaration

def «module» : Reader Module := do
  let opening ← expect .module
  let name ← expectName .module
  let declarations ←
    repeatWhile (fun kind => kind != .endModule && kind != .endOfInput) declaration
  let close ← expect .endModule
  return ⟨name, declarations, opening.span.merge close.span⟩

def program : Reader Program := do
  let opening ← peek
  let modules ← repeatWhile (· != .endOfInput) «module»
  let span := match modules.getLast? with
    | some last => opening.span.merge last.span
    | none => opening.span
  return ⟨modules, span⟩

end Parser

def Program.ofTokens (tokens : List Token) : Except Parser.SyntaxError Program :=
  Parser.program.read tokens

def Expr.ofTokens (tokens : List Token) : Except Parser.SyntaxError Expr :=
  Parser.expression.read tokens

/-- What the parser makes of its input: the program, unless there is a syntax error, and what is
reported; for a text, the diagnostics of the lexer come first. -/
structure Parsed where
  program : Option Program
  diagnostics : List Diagnostic

/-- Reads tokens, with all that is on the cursor where the reading ended. -/
def Parsed.ofTokens (tokens : List Token) : Parsed :=
  let outcome := Parser.program.run (Parser.Cursor.ofTokens tokens)
  ⟨outcome.value?, outcome.cursor.reported⟩

def Parsed.ofString (source : String) : Parsed :=
  let lexed := Lexed.ofString source
  let parsed := Parsed.ofTokens lexed.tokens
  ⟨parsed.program, lexed.diagnostics ++ parsed.diagnostics⟩

def Parsed.firstError? (parsed : Parsed) (stage : Stage) : Option Diagnostic :=
  parsed.diagnostics.find? fun diagnostic => diagnostic.stage == stage && diagnostic.isError

end RapidLang
