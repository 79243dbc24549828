import RapidLang.Diagnostic.Basic
import RapidLang.Syntax.Program

/-!
# Problems found by the checker

Each problem is kept as its cause, with the names and types it is about. The wording, the code and
the span of the report follow from the cause.
-/

set_option autoImplicit false

namespace RapidLang

open Text

/-- What a routine is, as far as its return statements are concerned. -/
inductive RoutineKind where
  | proc
  | func (type : String)
  | trap
  deriving DecidableEq, Repr

inductive ConditionKind where
  | «if»
  | «while»
  deriving DecidableEq, Repr

def ConditionKind.word : ConditionKind → String
  | .if => "IF"
  | .while => "WHILE"

inductive Problem where
  /-- The innermost scope has the name already. -/
  | alreadyDefined (name : Name) (previous : Option Span)
  /-- The name denotes no type. -/
  | unknownType (type : Name)
  /-- No data of this name is visible. -/
  | undefinedVariable (name : Name)
  /-- No routine of this name is visible. -/
  | undefinedRoutine (name : Name)
  /-- A value is assigned to data of another type. -/
  | assignmentMismatch (target value : String) (span : Span)
  /-- The name may not be assigned to: it is a constant or the counter of a loop. -/
  | constantAssigned (name : Name) (isCounter : Bool)
  /-- A condition is no truth value. -/
  | conditionNotBool (construct : ConditionKind) (found : String) (span : Span)
  /-- A procedure returns a value. -/
  | valueReturnedFromProc (span : Span)
  /-- A trap returns a value. -/
  | valueReturnedFromTrap (span : Span)
  /-- A function returns a value of another type than its own. -/
  | returnMismatch (expected found : String) (span : Span)
  /-- A function returns nowhere. -/
  | missingReturn (name : Name)
  /-- A value of a selection has another type than its subject. -/
  | caseMismatch (expected found : String) (span : Span)
  /-- The name denotes no trap; it may denote something else. -/
  | undefinedTrap (name : Name) (isDeclared : Bool)
  /-- A component is selected from a type that has none. -/
  | notARecord (type : String) (component : Name)
  /-- The type has no such component. -/
  | unknownComponent (type : String) (component : Name)
  deriving DecidableEq, Repr

namespace Problem

/-- Only a function that returns nowhere is a mere warning. -/
def severity : Problem → Severity
  | .missingReturn _ => .warning
  | _ => .error

def code : Problem → Code
  | .alreadyDefined _ _ => .duplicateDefinition
  | .unknownType _ => .unknownType
  | .undefinedVariable _ => .undefinedVariable
  | .undefinedRoutine _ => .undefinedRoutine
  | .assignmentMismatch _ _ _ | .caseMismatch _ _ _ => .typeMismatch
  | .constantAssigned _ _ => .assignToConstant
  | .conditionNotBool _ _ _ => .nonBoolCondition
  | .valueReturnedFromProc _ | .valueReturnedFromTrap _ => .returnValueInProcedure
  | .returnMismatch _ _ _ => .returnTypeMismatch
  | .missingReturn _ => .missingReturn
  | .undefinedTrap _ _ => .undefinedTrap
  | .notARecord _ _ => .notARecord
  | .unknownComponent _ _ => .unknownField

def span : Problem → Span
  | .alreadyDefined name _ | .unknownType name | .undefinedVariable name | .undefinedRoutine name
  | .constantAssigned name _ | .missingReturn name | .undefinedTrap name _ | .notARecord _ name
  | .unknownComponent _ name => name.span
  | .assignmentMismatch _ _ span | .conditionNotBool _ _ span | .valueReturnedFromProc span
  | .valueReturnedFromTrap span | .returnMismatch _ _ span | .caseMismatch _ _ span => span

def quoted (name : String) : String :=
  "`" ++ name ++ "`"

def message : Problem → String
  | .alreadyDefined name _ => quoted name.text ++ " is already defined"
  | .unknownType type => "unknown type " ++ quoted type.text
  | .undefinedVariable name => "undefined variable " ++ quoted name.text
  | .undefinedRoutine name => "undefined procedure or function " ++ quoted name.text
  | .assignmentMismatch target value _ =>
    "assignment type mismatch: " ++ target ++ " <- " ++ value
  | .constantAssigned name isCounter =>
    "cannot assign to " ++ (if isCounter then "loop variable" else "constant") ++ " "
      ++ quoted name.text
  | .conditionNotBool construct found _ =>
    construct.word ++ " condition must be bool, found " ++ found
  | .valueReturnedFromProc _ => "RETURN in a procedure cannot return a value"
  | .valueReturnedFromTrap _ => "RETURN in a trap cannot return a value"
  | .returnMismatch expected found _ =>
    "RETURN type mismatch: expected " ++ expected ++ ", found " ++ found
  | .missingReturn name => "function " ++ quoted name.text ++ " may be missing a RETURN"
  | .caseMismatch expected found _ =>
    "CASE value type mismatch: expected " ++ expected ++ ", found " ++ found
  | .undefinedTrap name _ => "undefined trap " ++ quoted name.text
  | .notARecord type _ => quoted type ++ " is not a record"
  | .unknownComponent type component =>
    "record " ++ quoted type ++ " has no field " ++ quoted component.text

def labels : Problem → List Label
  | .alreadyDefined _ (some previous) => [⟨previous, "first defined here"⟩]
  | _ => []

def help : Problem → Option String
  | .undefinedTrap name true =>
    some (quoted name.text ++ " is declared, but not as a TRAP routine")
  | _ => none

def diagnostic (problem : Problem) : Diagnostic :=
  { severity := problem.severity
    stage := .semantic
    code := some problem.code
    message := problem.message
    span := problem.span
    labels := problem.labels
    help := problem.help }

end Problem

end RapidLang
