/-!
# Diagnostic codes

Every kind of problem that the tools report has a code. The first two belong to the lexer, those
from `E0100` to the parser and those from `E0200` to the checker.
-/

set_option autoImplicit false

namespace RapidLang

inductive Code where
  | unrecognizedCharacter
  | unterminatedString
  | unexpectedToken
  | expectedExpression
  | invalidCallTarget
  | malformedName
  | duplicateDefinition
  | unknownType
  | undefinedVariable
  | undefinedRoutine
  | typeMismatch
  | nonBoolCondition
  | returnValueInProcedure
  | returnTypeMismatch
  | missingReturn
  | undefinedTrap
  | notARecord
  | unknownField
  | assignToConstant
  deriving DecidableEq, Repr

namespace Code

def all : List Code :=
  [unrecognizedCharacter, unterminatedString, unexpectedToken, expectedExpression,
    invalidCallTarget, malformedName, duplicateDefinition, unknownType, undefinedVariable,
    undefinedRoutine, typeMismatch, nonBoolCondition, returnValueInProcedure, returnTypeMismatch,
    missingReturn, undefinedTrap, notARecord, unknownField, assignToConstant]

def number : Code → String
  | unrecognizedCharacter => "E0001"
  | unterminatedString => "E0002"
  | unexpectedToken => "E0100"
  | expectedExpression => "E0101"
  | invalidCallTarget => "E0102"
  | malformedName => "E0103"
  | duplicateDefinition => "E0200"
  | unknownType => "E0201"
  | undefinedVariable => "E0202"
  | undefinedRoutine => "E0203"
  | typeMismatch => "E0204"
  | nonBoolCondition => "E0205"
  | returnValueInProcedure => "E0206"
  | returnTypeMismatch => "E0207"
  | missingReturn => "E0208"
  | undefinedTrap => "E0209"
  | notARecord => "E0210"
  | unknownField => "E0211"
  | assignToConstant => "E0212"

def ofNumber? (number : String) : Option Code :=
  all.find? fun code => code.number == number

def description : Code → String
  | unrecognizedCharacter => "character is not part of the RAPID alphabet"
  | unterminatedString => "string literal is not terminated"
  | unexpectedToken => "unexpected token"
  | expectedExpression => "expected an expression"
  | invalidCallTarget => "only named routines can be called"
  | malformedName => "malformed dotted name"
  | duplicateDefinition => "name is defined more than once in the same scope"
  | unknownType => "cannot find type in this scope"
  | undefinedVariable => "cannot find data in this scope"
  | undefinedRoutine => "cannot find procedure or function in this scope"
  | typeMismatch => "mismatched types"
  | nonBoolCondition => "condition is not of type bool"
  | returnValueInProcedure => "procedures and traps cannot return a value"
  | returnTypeMismatch => "returned value does not match the function type"
  | missingReturn => "function has no RETURN statement"
  | undefinedTrap => "CONNECT target is not a trap routine"
  | notARecord => "field access on a type without components"
  | unknownField => "record has no such component"
  | assignToConstant => "cannot assign to a constant"

def suggestion : Code → Option String
  | unterminatedString => some "add a closing quote `\"` to terminate the string"
  | undefinedVariable => some "check the spelling or declare the data in this module"
  | unknownType => some "use a built-in data type or declare a RECORD"
  | missingReturn => some "add `RETURN <value>;` before ENDFUNC"
  | undefinedTrap => some "declare the routine with TRAP ... ENDTRAP"
  | assignToConstant => some "declare the data as VAR or PERS instead of CONST"
  | _ => none

end Code

end RapidLang
