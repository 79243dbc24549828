import RapidLang.Checker.Statement

/-!
# Checking programs

Every module is checked by itself, inside the scope of the built-in names. All its declarations
are visible in all its initial values and routines, wherever they stand.
-/

set_option autoImplicit false

namespace RapidLang

def Decl.binding : Decl → Binding
  | .data item _ => item.binding
  | .proc name _ _ _ => .declared name none false .proc
  | .func type name _ _ _ => .declared name (some (normalizeType type.text)) false .func
  | .record name components _ => .declared name (some recordType) false (.record components)
  | .trap name _ _ => .declared name none false .trap

/-- Declares names one after the other; gives the scope that holds them, and the problems. -/
def Scope.declareAll (scope : Scope) : List (Name × Binding) → Scope × List Problem
  | [] => (scope, [])
  | (name, binding) :: rest =>
    let (extended, problems) := scope.declare name binding
    let (complete, others) := declareAll extended rest
    (complete, problems ++ others)

def Parameter.binding (parameter : Parameter) : Binding :=
  .declared parameter.name (some (normalizeType parameter.type.text)) false .parameter

/-- The problems in a routine: its parameters and the data of its body share a table. -/
def Scope.checkRoutine (scope : Scope) (routine : RoutineKind) (parameters : List Parameter)
    (body : List Stmt) : List Problem :=
  let (inner, problems) :=
    scope.push.declareAll (parameters.map fun parameter => (parameter.name, parameter.binding))
  problems ++ Stmt.checkBody routine inner body

namespace Decl

def checkType (scope : Scope) : Decl → List Problem
  | .data item _ => scope.checkType item.type
  | _ => []

def check (scope : Scope) : Decl → List Problem
  | .data item _ => Expr.checkOptional scope item.initial
  | .proc _ parameters body _ => scope.checkRoutine .proc parameters body
  | .func type name parameters body _ =>
    scope.checkRoutine (.func (normalizeType type.text)) parameters body
      ++ (if Stmt.anyReturns body then [] else [.missingReturn name])
  | .record _ _ _ => []
  | .trap _ body _ => scope.checkRoutine .trap [] body

end Decl

/-- The problems in a module: names defined twice, unknown types of data, and what is wrong inside
the declarations. -/
def Module.check (content : Module) : List Problem :=
  let declarations := content.declarations
  let (scope, problems) :=
    Scope.builtin.push.declareAll
      (declarations.map fun declaration => (declaration.name, declaration.binding))
  problems ++ declarations.flatMap (Decl.checkType scope)
    ++ declarations.flatMap (Decl.check scope)

/-- The problems in a program, in the order in which they are found. -/
def Program.check (program : Program) : List Problem :=
  program.modules.flatMap Module.check

def Program.diagnostics (program : Program) : List Diagnostic :=
  program.check.map Problem.diagnostic

end RapidLang
