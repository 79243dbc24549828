import RapidLang.Checker.Program
import RapidLang.Index.Occurrence

/-!
# The names that the checker looks up

The checker resolves every name of data or of a routine that stands in an expression, in the scope
that has been built up to there. `Program.lookups` lists these names with their scopes, in the
order of the checker and with the scopes that it passes on.
-/

set_option autoImplicit false

namespace RapidLang

/-- A name that is looked up, and the scope in which it is resolved. -/
structure Lookup where
  name : Name
  scope : Scope

namespace Lookup

/-- What the name is bound to. -/
def binding? (lookup : Lookup) : Option Binding :=
  lookup.scope.resolve? lookup.name.text

/-- The names that stand in expressions, all in one scope. -/
def inScope (scope : Scope) (occurrences : List Occurrence) : List Lookup :=
  occurrences.map fun occurrence => ⟨occurrence.name, scope⟩

end Lookup

mutual

/-- The names that are looked up in a statement. -/
def Stmt.lookups (routine : RoutineKind) (scope : Scope) : Stmt → List Lookup
  | .block body _ => Stmt.bodyLookups routine scope.push body
  | .assign target value _ => Lookup.inScope scope (target.occurrences ++ value.occurrences)
  | .expression value _ => Lookup.inScope scope value.occurrences
  | .conditional branches otherwise _ =>
    Branch.allLookups routine scope branches ++ Stmt.optionalLookups routine scope otherwise
  | .while condition body _ =>
    Lookup.inScope scope condition.occurrences ++ Stmt.bodyLookups routine scope.push body
  | .for counter first last body _ =>
    Lookup.inScope scope (first.occurrences ++ last.occurrences)
      ++ Stmt.bodyLookups routine (scope.push.declare counter (counterBinding counter)).1 body
  | .return value _ => Lookup.inScope scope (Expr.optionalOccurrences value)
  | .move move _ => Lookup.inScope scope move.occurrences
  | .test subject arms default _ =>
    Lookup.inScope scope subject.occurrences ++ Arm.allLookups routine scope arms
      ++ Stmt.optionalLookups routine scope default
  | .connect _ _ _ | .raise _ _ => []
  | .data item _ => Lookup.inScope scope (Expr.optionalOccurrences item.initial)

/-- The names that are looked up in statements that stand one after the other. -/
def Stmt.bodyLookups (routine : RoutineKind) (scope : Scope) : List Stmt → List Lookup
  | [] => []
  | first :: rest =>
    Stmt.lookups routine scope first
      ++ Stmt.bodyLookups routine (Stmt.check routine scope first).1 rest

/-- The names that are looked up in a nested body that may be missing. -/
def Stmt.optionalLookups (routine : RoutineKind) (scope : Scope) :
    Option (List Stmt) → List Lookup
  | none => []
  | some body => Stmt.bodyLookups routine scope.push body

/-- The names that are looked up in the branches of a conditional. -/
def Branch.allLookups (routine : RoutineKind) (scope : Scope) : List Branch → List Lookup
  | [] => []
  | .mk condition body _ :: rest =>
    Lookup.inScope scope condition.occurrences ++ Stmt.bodyLookups routine scope.push body
      ++ Branch.allLookups routine scope rest

/-- The names that are looked up in the arms of a selection. -/
def Arm.allLookups (routine : RoutineKind) (scope : Scope) : List Arm → List Lookup
  | [] => []
  | .mk values body _ :: rest =>
    Lookup.inScope scope (Expr.allOccurrences values)
      ++ Stmt.bodyLookups routine scope.push body ++ Arm.allLookups routine scope rest

end

/-- The scope of a routine's body, inside the scope of the module. -/
def Scope.ofRoutine (scope : Scope) (parameters : List Parameter) : Scope :=
  (scope.push.declareAll
    (parameters.map fun parameter => (parameter.name, parameter.binding))).1

/-- The names that are looked up in a declaration, in the scope of the module. -/
def Decl.lookups (scope : Scope) : Decl → List Lookup
  | .data item _ => Lookup.inScope scope (Expr.optionalOccurrences item.initial)
  | .proc _ parameters body _ => Stmt.bodyLookups .proc (scope.ofRoutine parameters) body
  | .func type _ parameters body _ =>
    Stmt.bodyLookups (.func (normalizeType type.text)) (scope.ofRoutine parameters) body
  | .record _ _ _ => []
  | .trap _ body _ => Stmt.bodyLookups .trap (scope.ofRoutine []) body

/-- The scope of a module: the built-in names, and all names that it declares. -/
def Module.scope (content : Module) : Scope :=
  (Scope.builtin.push.declareAll
    (content.declarations.map fun declaration => (declaration.name, declaration.binding))).1

/-- The names that are looked up in a module. -/
def Module.lookups (content : Module) : List Lookup :=
  content.declarations.flatMap (Decl.lookups content.scope)

/-- The names that are looked up in a program. -/
def Program.lookups (program : Program) : List Lookup :=
  program.modules.flatMap Module.lookups

end RapidLang
