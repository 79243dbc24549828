import RapidLang.Syntax.Parser.Expression
import RapidLang.Text.AsciiCase

/-!
# Reading statements

The reader for a compound statement is given the reader for the statements of its bodies; the top
ties the knot.
-/

set_option autoImplicit false

namespace RapidLang.Parser

open Text

def storageOf : TokenKind → Storage
  | .pers => .pers
  | .const => .const
  | _ => .var

def dataItem : Reader (DataItem × Span) := do
  let opening ← take
  let type ← expectName .dataType
  let name ← expectName .data
  let initial ← optionalAfter .assign expression
  let close ← expect .semicolon
  return (⟨storageOf opening.kind, type, name, initial⟩, opening.span.merge close.span)

def body (statement : Reader Stmt) (closes : TokenKind → Bool) : Reader (List Stmt) :=
  repeatWhile (fun kind => !closes kind && kind != .endOfInput) statement

/-- The span of a body, or another span if the body is empty. -/
def spanOfBody (statements : List Stmt) (fallback : Span) : Span :=
  match statements.getLast? with
  | some last => last.span
  | none => fallback

def closesBranch : TokenKind → Bool
  | .elseIf | .else | .endIf => true
  | _ => false

def closesArm : TokenKind → Bool
  | .case | .default | .endTest => true
  | _ => false

def branch (statement : Reader Stmt) : Reader Branch := do
  let opening ← take
  let condition ← expression
  let _ ← expect .then
  let statements ← body statement closesBranch
  return .mk condition statements
    (opening.span.merge (spanOfBody statements condition.span))

def conditional (statement : Reader Stmt) : Reader Stmt := do
  let opening ← peek
  let first ← branch statement
  let others ← repeatWhile (· == .elseIf) (branch statement)
  let otherwise ← optionalAfter .else (body statement (· == .endIf))
  let close ← expect .endIf
  return .conditional (first :: others) otherwise (opening.span.merge close.span)

def whileLoop (statement : Reader Stmt) : Reader Stmt := do
  let opening ← take
  let condition ← expression
  let statements ← body statement (· == .endWhile)
  let close ← expect .endWhile
  return .while condition statements (opening.span.merge close.span)

def forLoop (statement : Reader Stmt) : Reader Stmt := do
  let opening ← take
  let counter ← expectName .counter
  let _ ← expect .from
  let first ← expression
  let _ ← expect .to
  let last ← expression
  let statements ← body statement (· == .endFor)
  let close ← expect .endFor
  return .for counter first last statements (opening.span.merge close.span)

/-- Reads the value of a return, unless the statement or the routine ends here. -/
def returnValue : Reader (Option Expr) := do
  match ← peekKind with
  | .semicolon | .endProc | .endFunc => return none
  | _ => return some (← expression)

def returnStatement : Reader Stmt := do
  let opening ← take
  let value ← returnValue
  let close ← expect .semicolon
  return .return value (opening.span.merge close.span)

def optionalArgument : Reader (Name × Option Expr) := do
  let _ ← take
  let name ← expectName .option
  let value ← optionalAfter .assign expression
  return (name, value)

/-- The value of the last optional argument that names the work object. -/
def workObjectOf (options : List (Name × Option Expr)) : Option Expr :=
  match (options.filter fun option => sameWord option.1.text "WObj").getLast? with
  | some (_, value) => value
  | none => none

def motionOf : TokenKind → Motion
  | .moveJ => .joint
  | .moveC => .circular
  | _ => .linear

def moveStatement : Reader Stmt := do
  let opening ← take
  let target ← expression
  let _ ← expect .comma
  let speed ← expression
  let _ ← expect .comma
  let zone ← expression
  let _ ← expect .comma
  let tool ← expression
  let options ← repeatWhile (· == .backslash) optionalArgument
  let close ← expect .semicolon
  return .move ⟨motionOf opening.kind, target, speed, zone, tool, workObjectOf options⟩
    (opening.span.merge close.span)

/-- One part of a selection: an arm with values, or the default. -/
inductive TestPart where
  | arm (arm : Arm)
  | default (body : List Stmt)

def testPart (statement : Reader Stmt) : Reader TestPart := do
  let opening ← take
  if opening.kind = .case then
    let values ← commaSeparated expression
    let colon ← expect .colon
    let statements ← body statement closesArm
    return .arm (.mk values statements
      (opening.span.merge (spanOfBody statements colon.span)))
  else
    let _ ← expect .colon
    return .default (← body statement closesArm)

def armsOf (parts : List TestPart) : List Arm :=
  parts.filterMap fun
    | .arm arm => some arm
    | .default _ => none

def defaultOf (parts : List TestPart) : Option (List Stmt) :=
  (parts.filterMap fun
    | .arm _ => none
    | .default body => some body).getLast?

/-- Reads a selection by value. Arms and defaults may come in any order. -/
def testStatement (statement : Reader Stmt) : Reader Stmt := do
  let opening ← take
  let subject ← expression
  let parts ← repeatWhile (fun kind => kind == .case || kind == .default) (testPart statement)
  let close ← expect .endTest
  return .test subject (armsOf parts) (defaultOf parts) (opening.span.merge close.span)

def connectStatement : Reader Stmt := do
  let opening ← take
  let trap ← expectName .trap
  let _ ← expect .with
  let error ← expectName .error
  let close ← expect .semicolon
  return .connect trap error (opening.span.merge close.span)

def raiseStatement : Reader Stmt := do
  let opening ← take
  let error ← expectName .error
  let close ← expect .semicolon
  return .raise error (opening.span.merge close.span)

def startsArgument : TokenKind → Bool
  | .number | .string | .identifier | .true | .false | .leftParen | .not => true
  | _ => false

/-- Reads the arguments that may follow the name of a routine without parentheses. -/
def bareCall (value : Expr) : Reader Expr := do
  match value with
  | .variable name =>
    if startsArgument (← peekKind) then
      let arguments ← commaSeparated expression
      return .call name arguments
        (arguments.foldl (fun span argument => span.merge argument.span) name.span)
    else return value
  | _ => return value

def simpleStatement : Reader Stmt := do
  let opening ← peek
  let value ← expression
  if ← accept .assign then
    let source ← expression
    let close ← expect .semicolon
    return .assign value source (opening.span.merge close.span)
  else
    let call ← bareCall value
    let close ← expect .semicolon
    return .expression call (opening.span.merge close.span)

/-- Reads a statement, given the reader for the statements of its bodies. -/
def statementWith (statement : Reader Stmt) : Reader Stmt := do
  match ← peekKind with
  | .if => conditional statement
  | .while => whileLoop statement
  | .for => forLoop statement
  | .return => returnStatement
  | .moveJ | .moveL | .moveC => moveStatement
  | .test => testStatement statement
  | .connect => connectStatement
  | .raise => raiseStatement
  | .var | .pers | .const =>
    let (item, span) ← dataItem
    return .data item span
  | _ => simpleStatement

def statement : Reader Stmt :=
  Reader.knot .noExpression statementWith

end RapidLang.Parser
