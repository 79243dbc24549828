import RapidLang.Checker.Expression

/-!
# Checking statements

Statements are checked in order. A data declaration is visible to the statements that follow it in
the same body and in the bodies nested there; every nested body opens a table of its own.
-/

set_option autoImplicit false

namespace RapidLang

open Text

/-- Defines a binding in the innermost table, or reports that its name is taken there. -/
def Scope.declare (scope : Scope) (name : Name) (binding : Binding) : Scope × List Problem :=
  match scope.define? binding with
  | some extended => (extended, [])
  | none =>
    (scope, [.alreadyDefined name ((scope.findLocal? binding.name).bind Binding.span)])

/-- The problem with a type name, if it is neither built in nor a visible record. -/
def Scope.checkType (scope : Scope) (type : Name) : List Problem :=
  if (builtinType? type.text).isSome then []
  else if (scope.resolve? type.text).any Binding.isRecord then []
  else [.unknownType type]

def DataItem.binding (item : DataItem) : Binding :=
  .declared item.name (some (normalizeType item.type.text)) item.isConstant .data

def mismatch (expected found : Option String) (problem : String → String → Problem) :
    List Problem :=
  match expected, found with
  | some expected, some found => if expected = found then [] else [problem expected found]
  | _, _ => []

/-- The problem with the target of an assignment, if it is a name that may not be assigned to. -/
def Scope.checkTarget (scope : Scope) (target : Expr) : List Problem :=
  match target with
  | .variable name =>
    match scope.resolve? name.text with
    | some binding =>
      if binding.isConstant then [.constantAssigned name (binding.origin == .counter)] else []
    | none => []
  | _ => []

def Scope.checkCondition (scope : Scope) (construct : ConditionKind) (condition : Expr) :
    List Problem :=
  let checked := condition.check scope
  let wrong := match checked.type with
    | some type =>
      if type = boolType then [] else [.conditionNotBool construct type condition.span]
    | none => []
  checked.problems ++ wrong

def Scope.checkReturn (scope : Scope) (routine : RoutineKind) (value : Option Expr)
    (span : Span) : List Problem :=
  match value with
  | none => []
  | some value =>
    let checked := value.check scope
    let wrong := match routine with
      | .proc => [.valueReturnedFromProc span]
      | .trap => [.valueReturnedFromTrap span]
      | .func type =>
        mismatch (some type) checked.type fun expected found =>
          .returnMismatch expected found value.span
    checked.problems ++ wrong

def Scope.checkValues (scope : Scope) (subject : Option String) (values : List Expr) :
    List Problem :=
  values.flatMap fun value =>
    let checked := value.check scope
    checked.problems ++ mismatch subject checked.type fun expected found =>
      .caseMismatch expected found value.span

def Scope.checkTrap (scope : Scope) (trap : Name) : List Problem :=
  match scope.resolve? trap.text with
  | none => [.undefinedTrap trap false]
  | some binding => if binding.isTrap then [] else [.undefinedTrap trap true]

def counterBinding (counter : Name) : Binding :=
  .declared counter (some numType) true .counter

mutual

/-- Checks a statement of a routine; gives the scope for the statements that follow it. -/
def Stmt.check (routine : RoutineKind) (scope : Scope) : Stmt → Scope × List Problem
  | .block body _ => (scope, Stmt.checkBody routine scope.push body)
  | .assign target value span =>
    let target' := target.check scope
    let value' := value.check scope
    (scope, target'.problems ++ value'.problems ++ scope.checkTarget target
      ++ mismatch target'.type value'.type fun target value =>
        .assignmentMismatch target value span)
  | .expression value _ => (scope, (value.check scope).problems)
  | .conditional branches otherwise _ =>
    (scope, Branch.checkAll routine scope branches ++ Stmt.checkOptional routine scope otherwise)
  | .while condition body _ =>
    (scope, scope.checkCondition .while condition ++ Stmt.checkBody routine scope.push body)
  | .for counter first last body _ =>
    let (inner, problems) := scope.push.declare counter (counterBinding counter)
    (scope, (first.check scope).problems ++ (last.check scope).problems ++ problems
      ++ Stmt.checkBody routine inner body)
  | .return value span => (scope, scope.checkReturn routine value span)
  | .move move _ =>
    (scope, Expr.checkAll scope [move.target, move.speed, move.zone, move.tool]
      ++ Expr.checkOptional scope move.workObject)
  | .test subject arms default _ =>
    let subject' := subject.check scope
    (scope, subject'.problems ++ Arm.checkAll routine scope subject'.type arms
      ++ Stmt.checkOptional routine scope default)
  | .connect trap _ _ => (scope, scope.checkTrap trap)
  | .raise _ _ => (scope, [])
  | .data item _ =>
    let (extended, problems) := scope.declare item.name item.binding
    (extended, Expr.checkOptional scope item.initial ++ scope.checkType item.type ++ problems)

def Stmt.checkBody (routine : RoutineKind) (scope : Scope) : List Stmt → List Problem
  | [] => []
  | first :: rest =>
    let (after, problems) := Stmt.check routine scope first
    problems ++ Stmt.checkBody routine after rest

def Stmt.checkOptional (routine : RoutineKind) (scope : Scope) :
    Option (List Stmt) → List Problem
  | none => []
  | some body => Stmt.checkBody routine scope.push body

def Branch.checkAll (routine : RoutineKind) (scope : Scope) : List Branch → List Problem
  | [] => []
  | .mk condition body _ :: rest =>
    scope.checkCondition .if condition ++ Stmt.checkBody routine scope.push body
      ++ Branch.checkAll routine scope rest

def Arm.checkAll (routine : RoutineKind) (scope : Scope) (subject : Option String) :
    List Arm → List Problem
  | [] => []
  | .mk values body _ :: rest =>
    scope.checkValues subject values ++ Stmt.checkBody routine scope.push body
      ++ Arm.checkAll routine scope subject rest

end

mutual

def Stmt.returns : Stmt → Bool
  | .return _ _ => true
  | .block body _ | .while _ body _ | .for _ _ _ body _ => Stmt.anyReturns body
  | .conditional branches otherwise _ =>
    Branch.anyReturns branches || Stmt.optionalReturns otherwise
  | .test _ arms default _ => Arm.anyReturns arms || Stmt.optionalReturns default
  | _ => false

def Stmt.anyReturns : List Stmt → Bool
  | [] => false
  | first :: rest => Stmt.returns first || Stmt.anyReturns rest

def Stmt.optionalReturns : Option (List Stmt) → Bool
  | none => false
  | some body => Stmt.anyReturns body

def Branch.anyReturns : List Branch → Bool
  | [] => false
  | .mk _ body _ :: rest => Stmt.anyReturns body || Branch.anyReturns rest

def Arm.anyReturns : List Arm → Bool
  | [] => false
  | .mk _ body _ :: rest => Stmt.anyReturns body || Arm.anyReturns rest

end

end RapidLang
