import Mathlib.Data.List.Forall2
import RapidLang.Proofs.Checker.Conversion
import RapidLang.Proofs.Syntax.Erasure

/-!
# Spans have no part in checking

Checking a program without its spans finds the same problems in the same order, without their
spans. Scopes and types come out alike on the way.
-/

set_option autoImplicit false

namespace RapidLang

open Text

/-! ## Scopes without places -/

/-- The origin of a name without its spans. -/
def Origin.erase : Origin → Origin
  | .record components => .record (RapidLang.erase components)
  | origin => origin

instance : Erasable Origin := ⟨Origin.erase⟩

instance : Erasable Binding :=
  ⟨fun binding => { binding with origin := erase binding.origin, span := erase binding.span }⟩

instance : Erasable Scope :=
  ⟨fun scope => ⟨erase scope.innermost, erase scope.enclosing⟩⟩

/-- A problem without its spans. -/
def Problem.erase : Problem → Problem
  | .alreadyDefined name previous =>
    .alreadyDefined (RapidLang.erase name) (RapidLang.erase previous)
  | .unknownType type => .unknownType (RapidLang.erase type)
  | .undefinedVariable name => .undefinedVariable (RapidLang.erase name)
  | .undefinedRoutine name => .undefinedRoutine (RapidLang.erase name)
  | .assignmentMismatch target value _ => .assignmentMismatch target value .origin
  | .constantAssigned name isCounter => .constantAssigned (RapidLang.erase name) isCounter
  | .conditionNotBool construct found _ => .conditionNotBool construct found .origin
  | .valueReturnedFromProc _ => .valueReturnedFromProc .origin
  | .valueReturnedFromTrap _ => .valueReturnedFromTrap .origin
  | .returnMismatch expected found _ => .returnMismatch expected found .origin
  | .missingReturn name => .missingReturn (RapidLang.erase name)
  | .caseMismatch expected found _ => .caseMismatch expected found .origin
  | .undefinedTrap name isDeclared => .undefinedTrap (RapidLang.erase name) isDeclared
  | .notARecord type component => .notARecord type (RapidLang.erase component)
  | .unknownComponent type component => .unknownComponent type (RapidLang.erase component)

instance : Erasable Problem := ⟨Problem.erase⟩

instance : Erasable Typing := ⟨fun typing => ⟨typing.type, erase typing.problems⟩⟩

section Fields

variable {α β : Type} [Erasable α] [Erasable β] (name : Name) (binding : Binding) (scope : Scope) (typing : Typing)

@[simp] theorem fst_erase (pair : α × β) : (erase pair).1 = erase pair.1 := rfl

@[simp] theorem snd_erase (pair : α × β) : (erase pair).2 = erase pair.2 := rfl

@[simp] theorem text_erase : (erase name).text = name.text := rfl

@[simp] theorem name_erase : (erase binding).name = binding.name := rfl

@[simp] theorem type_erase_binding : (erase binding).type = binding.type := rfl

@[simp] theorem origin_erase : (erase binding).origin = binding.origin.erase := rfl

@[simp] theorem isConstant_erase : (erase binding).isConstant = binding.isConstant := rfl

@[simp] theorem type_erase : (erase typing).type = typing.type := rfl

@[simp] theorem problems_erase : (erase typing).problems = erase typing.problems := rfl

@[simp] theorem erase_typing (type : Option String) (problems : List Problem) :
    erase (⟨type, problems⟩ : Typing) = ⟨type, erase problems⟩ := rfl

@[simp] theorem erase_known (type : String) : erase (Typing.known type) = .known type := rfl

@[simp] theorem push_erase : (erase scope).push = erase scope.push := rfl

@[simp] theorem isRecord_erase : (erase binding).isRecord = binding.isRecord := by
  obtain ⟨_, _, _, origin, _⟩ := binding
  cases origin <;> rfl

@[simp] theorem isTrap_erase : (erase binding).isTrap = binding.isTrap := by
  obtain ⟨_, _, _, origin, _⟩ := binding
  cases origin <;> rfl

@[simp] theorem isCounter_erase :
    ((erase binding).origin == .counter) = (binding.origin == .counter) := by
  obtain ⟨_, _, _, origin, _⟩ := binding
  cases origin <;> rfl

@[simp] theorem erase_declared (type : Option String) (isConstant : Bool) (origin : Origin) :
    erase (Binding.declared name type isConstant origin) =
      .declared (erase name) type isConstant (erase origin) := rfl

@[simp] theorem span_erase_expr (value : Expr) : (erase value).span = .origin := by
  cases value <;> rfl

end Fields

/-! ## Looking names up -/

namespace Scope

variable (scope : Scope) (name : String) (binding : Binding)

theorem findLocal?_erase : (erase scope).findLocal? name = erase (scope.findLocal? name) :=
  findLocal?_map name_erase scope name

theorem resolve?_erase : (erase scope).resolve? name = erase (scope.resolve? name) :=
  resolve?_map name_erase scope name

theorem define?_erase : (erase scope).define? (erase binding) = erase (scope.define? binding) :=
  define?_map name_erase scope binding

theorem declare_erase (name : Name) :
    (erase scope).declare (erase name) (erase binding) = erase (scope.declare name binding) := by
  unfold declare
  rw [define?_erase]
  cases scope.define? binding with
  | some extended => rfl
  | none =>
      rw [name_erase, findLocal?_erase]
      cases scope.findLocal? binding.name <;> rfl

theorem declareAll_erase (entries : List (Name × Binding)) :
    (erase scope).declareAll (erase entries) = erase (scope.declareAll entries) := by
  induction entries generalizing scope with
  | nil => rfl
  | cons entry rest ih =>
      obtain ⟨name, binding⟩ := entry
      simp [-erase_name, declareAll, declare_erase, ih]

end Scope

/-! ## Expressions -/

theorem Typing.ofBinding_erase (binding : Option Binding) (unbound : Problem) :
    Typing.ofBinding (erase binding) (erase unbound) = erase (Typing.ofBinding binding unbound) := by
  cases binding <;> rfl

namespace Scope

variable (scope : Scope)

private theorem declaredComponent_erase (components : List Component) (name : String) :
    (((erase components).find? fun entry => entry.name.text == name).map fun entry =>
      normalizeType entry.type.text) =
    (components.find? fun entry => entry.name.text == name).map fun entry =>
      normalizeType entry.type.text := by
  show (List.find? _ (List.map erase components)).map _ = _
  rw [List.find?_map, Option.map_map]
  rfl

theorem typeOfComponent_erase (type : String) (component : Name) :
    (erase scope).typeOfComponent type (erase component) =
      erase (scope.typeOfComponent type component) := by
  unfold typeOfComponent
  rw [text_erase, resolve?_erase]
  cases builtinComponents? type with
  | some components =>
      dsimp only
      cases (components.find? fun entry => Text.sameWord entry.1 component.text).map Prod.snd <;> rfl
  | none =>
      cases scope.resolve? type with
      | none => rfl
      | some binding =>
          obtain ⟨_, _, _, origin, _⟩ := binding
          cases origin with
          | record components =>
              have same := declaredComponent_erase components component.text
              rw [erase_some, Option.map_some, Option.map_some, origin_erase]
              dsimp only [Origin.erase]
              rw [same]
              cases (components.find? fun entry => entry.name.text == component.text).map
                fun entry => normalizeType entry.type.text <;> rfl
          | _ => rfl

end Scope

mutual

theorem check_erase_expr (scope : Scope) (value : Expr) :
    (erase value).check (erase scope) = erase (value.check scope) := by
  cases value with
  | number | truth | string => rfl
  | «variable» name =>
      rw [erase_variable, Expr.check, Expr.check, text_erase, Scope.resolve?_erase]
      exact Typing.ofBinding_erase _ (.undefinedVariable name)
  | index base position =>
      rw [erase_index, Expr.check, Expr.check, check_erase_expr scope base,
        check_erase_expr scope position]
      simp
  | component base name =>
      rw [erase_component, Expr.check, Expr.check, check_erase_expr scope base, type_erase]
      cases (base.check scope).type with
      | none => rfl
      | some type =>
          dsimp only
          rw [Scope.typeOfComponent_erase]
          simp
  | call routine arguments =>
      rw [erase_call, Expr.check, Expr.check, checkAll_erase_exprs scope arguments, text_erase,
        Scope.resolve?_erase]
      have bound := Typing.ofBinding_erase (scope.resolve? routine.text) (.undefinedRoutine routine)
      show (⟨(Typing.ofBinding _ (erase (Problem.undefinedRoutine routine))).type,
        _ ++ (Typing.ofBinding _ (erase (Problem.undefinedRoutine routine))).problems⟩ : Typing) = _
      rw [bound]
      simp
  | unary operator operand => exact check_erase_expr scope operand
  | binary operator left right =>
      rw [erase_binary, Expr.check, Expr.check, check_erase_expr scope left,
        check_erase_expr scope right]
      simp

theorem checkAll_erase_exprs (scope : Scope) (values : List Expr) :
    Expr.checkAll (erase scope) (erase values) = erase (Expr.checkAll scope values) := by
  cases values with
  | nil => rfl
  | cons first rest =>
      rw [erase_cons, Expr.checkAll, Expr.checkAll, check_erase_expr scope first,
        checkAll_erase_exprs scope rest]
      simp

end

theorem checkOptional_erase_expr (scope : Scope) (value : Option Expr) :
    Expr.checkOptional (erase scope) (erase value) = erase (Expr.checkOptional scope value) := by
  cases value with
  | none => rfl
  | some value => exact congrArg Typing.problems (check_erase_expr scope value)

/-! ## Statements -/

theorem mismatch_erase (expected found : Option String) (problem problem' : String → String → Problem)
    (same : ∀ expected found, problem' expected found = erase (problem expected found)) :
    mismatch expected found problem' = erase (mismatch expected found problem) := by
  unfold mismatch
  split
  · split
    · rfl
    · rw [same]
      rfl
  · rfl

namespace Scope

variable (scope : Scope)

theorem checkType_erase (type : Name) :
    (erase scope).checkType (erase type) = erase (scope.checkType type) := by
  have records : (erase (scope.resolve? type.text)).any Binding.isRecord =
      (scope.resolve? type.text).any Binding.isRecord := by
    cases scope.resolve? type.text with
    | none => rfl
    | some binding => exact isRecord_erase binding
  unfold checkType
  rw [text_erase, resolve?_erase, records]
  split
  · rfl
  · split <;> rfl

theorem checkTarget_erase (target : Expr) :
    (erase scope).checkTarget (erase target) = erase (scope.checkTarget target) := by
  cases target with
  | «variable» name =>
      rw [erase_variable, checkTarget, checkTarget, text_erase, resolve?_erase]
      cases scope.resolve? name.text with
      | none => rfl
      | some binding =>
          simp only [erase_some, isConstant_erase, isCounter_erase]
          split <;> rfl
  | call => simp [checkTarget]
  | _ => rfl

theorem checkCondition_erase (construct : ConditionKind) (condition : Expr) :
    (erase scope).checkCondition construct (erase condition) =
      erase (scope.checkCondition construct condition) := by
  unfold checkCondition
  simp only [check_erase_expr, type_erase, problems_erase, span_erase_expr, erase_append]
  congr 1
  cases (condition.check scope).type with
  | none => rfl
  | some type =>
      dsimp only
      split <;> rfl

theorem checkReturn_erase (routine : RoutineKind) (value : Option Expr) (span : Span) :
    (erase scope).checkReturn routine (erase value) .origin =
      erase (scope.checkReturn routine value span) := by
  cases value with
  | none => rfl
  | some value =>
      rw [erase_some]
      simp only [checkReturn, check_erase_expr, type_erase, problems_erase, span_erase_expr, erase_append]
      congr 1
      cases routine with
      | func type => exact mismatch_erase _ _ _ _ fun _ _ => rfl
      | proc | trap => rfl

theorem checkValues_erase (subject : Option String) (values : List Expr) :
    (erase scope).checkValues subject (erase values) = erase (scope.checkValues subject values) := by
  induction values with
  | nil => rfl
  | cons first rest ih =>
      unfold checkValues at ih ⊢
      rw [erase_cons, List.flatMap_cons, List.flatMap_cons, ih]
      simp only [check_erase_expr, type_erase, problems_erase, span_erase_expr, erase_append]
      congr 2
      exact mismatch_erase _ _ _ _ fun _ _ => rfl

theorem checkTrap_erase (trap : Name) :
    (erase scope).checkTrap (erase trap) = erase (scope.checkTrap trap) := by
  unfold checkTrap
  rw [text_erase, resolve?_erase]
  cases scope.resolve? trap.text with
  | none => rfl
  | some binding =>
      simp only [erase_some, isTrap_erase]
      split <;> rfl

end Scope

mutual

theorem check_erase_stmt (routine : RoutineKind) (scope : Scope) (statement : Stmt) :
    Stmt.check routine (erase scope) (erase statement) =
      erase (Stmt.check routine scope statement) := by
  cases statement with
  | block body =>
      rw [erase_block, Stmt.check, Stmt.check, push_erase, checkBody_erase routine scope.push body]
      rfl
  | assign target value span =>
      have types := mismatch_erase (target.check scope).type (value.check scope).type
        (fun target value => .assignmentMismatch target value span)
        (fun target value => .assignmentMismatch target value .origin) fun _ _ => rfl
      rw [erase_assign, Stmt.check, Stmt.check, check_erase_expr, check_erase_expr,
        Scope.checkTarget_erase, type_erase, type_erase, types]
      simp
  | expression value =>
      rw [erase_expression, Stmt.check, Stmt.check, check_erase_expr]
      rfl
  | conditional branches otherwise =>
      rw [erase_conditional, Stmt.check, Stmt.check, checkAll_erase_branches routine scope branches,
        checkOptional_erase_body routine scope otherwise]
      simp
  | «while» condition body =>
      rw [erase_while, Stmt.check, Stmt.check, push_erase, Scope.checkCondition_erase,
        checkBody_erase routine scope.push body]
      simp
  | «for» counter first last body =>
      have declared := Scope.declare_erase scope.push (counterBinding counter) counter
      rw [erase_for, Stmt.check, Stmt.check, push_erase, check_erase_expr, check_erase_expr]
      show (_, _ ++ ((erase scope.push).declare (erase counter) (erase (counterBinding counter))).2 ++
        Stmt.checkBody routine
          ((erase scope.push).declare (erase counter) (erase (counterBinding counter))).1 _) = _
      rw [declared, fst_erase, checkBody_erase]
      simp
  | «return» value span =>
      rw [erase_return, Stmt.check, Stmt.check, Scope.checkReturn_erase scope routine value span]
      rfl
  | move move =>
      obtain ⟨motion, target, speed, zone, tool, workObject⟩ := move
      have operands := checkAll_erase_exprs scope [target, speed, zone, tool]
      rw [erase_move, Stmt.check, Stmt.check, checkOptional_erase_expr]
      show (_, Expr.checkAll _ (erase [target, speed, zone, tool]) ++ _) = _
      rw [operands]
      simp
  | test subject arms default =>
      rw [erase_test, Stmt.check, Stmt.check, check_erase_expr, type_erase,
        checkAll_erase_arms routine scope (subject.check scope).type arms,
        checkOptional_erase_body routine scope default]
      simp
  | connect trap error =>
      rw [erase_connect, Stmt.check, Stmt.check, Scope.checkTrap_erase]
      rfl
  | raise error => rfl
  | data item =>
      obtain ⟨storage, type, name, initial⟩ := item
      let binding := DataItem.binding ⟨storage, type, name, initial⟩
      rw [erase_data, Stmt.check, Stmt.check]
      show (((erase scope).declare (erase name) (erase binding)).1,
        Expr.checkOptional _ (erase initial) ++ (erase scope).checkType (erase type) ++
          ((erase scope).declare (erase name) (erase binding)).2) = _
      rw [Scope.declare_erase, checkOptional_erase_expr, Scope.checkType_erase]
      simp [binding]

theorem checkBody_erase (routine : RoutineKind) (scope : Scope) (body : List Stmt) :
    Stmt.checkBody routine (erase scope) (erase body) =
      erase (Stmt.checkBody routine scope body) := by
  cases body with
  | nil => rfl
  | cons first rest =>
      rw [erase_cons, Stmt.checkBody, Stmt.checkBody, check_erase_stmt routine scope first]
      dsimp only
      rw [fst_erase, checkBody_erase routine _ rest]
      simp

theorem checkOptional_erase_body (routine : RoutineKind) (scope : Scope)
    (body : Option (List Stmt)) :
    Stmt.checkOptional routine (erase scope) (erase body) =
      erase (Stmt.checkOptional routine scope body) := by
  cases body with
  | none => rfl
  | some body =>
      rw [erase_some, Stmt.checkOptional, Stmt.checkOptional, push_erase, checkBody_erase]

theorem checkAll_erase_branches (routine : RoutineKind) (scope : Scope) (branches : List Branch) :
    Branch.checkAll routine (erase scope) (erase branches) =
      erase (Branch.checkAll routine scope branches) := by
  cases branches with
  | nil => rfl
  | cons first rest =>
      obtain ⟨condition, body, span⟩ := first
      rw [erase_cons, erase_branch, Branch.checkAll, Branch.checkAll, Scope.checkCondition_erase,
        push_erase, checkBody_erase routine scope.push body, checkAll_erase_branches routine scope rest]
      simp

theorem checkAll_erase_arms (routine : RoutineKind) (scope : Scope) (subject : Option String)
    (arms : List Arm) :
    Arm.checkAll routine (erase scope) subject (erase arms) =
      erase (Arm.checkAll routine scope subject arms) := by
  cases arms with
  | nil => rfl
  | cons first rest =>
      obtain ⟨values, body, span⟩ := first
      rw [erase_cons, erase_arm, Arm.checkAll, Arm.checkAll, Scope.checkValues_erase,
        push_erase, checkBody_erase routine scope.push body,
        checkAll_erase_arms routine scope subject rest]
      simp

end

/-! ## Returns -/

mutual

theorem returns_erase (statement : Stmt) : (erase statement).returns = statement.returns := by
  cases statement with
  | block body => rw [erase_block, Stmt.returns, Stmt.returns, anyReturns_erase body]
  | conditional branches otherwise =>
      rw [erase_conditional, Stmt.returns, Stmt.returns, anyReturns_erase_branches branches,
        optionalReturns_erase otherwise]
  | «while» condition body => rw [erase_while, Stmt.returns, Stmt.returns, anyReturns_erase body]
  | «for» counter first last body =>
      rw [erase_for, Stmt.returns, Stmt.returns, anyReturns_erase body]
  | test subject arms default =>
      rw [erase_test, Stmt.returns, Stmt.returns, anyReturns_erase_arms arms,
        optionalReturns_erase default]
  | assign | expression | «return» | move | connect | raise | data => rfl

theorem anyReturns_erase (body : List Stmt) : Stmt.anyReturns (erase body) = Stmt.anyReturns body := by
  cases body with
  | nil => rfl
  | cons first rest =>
      rw [erase_cons, Stmt.anyReturns, Stmt.anyReturns, returns_erase first, anyReturns_erase rest]

theorem optionalReturns_erase (body : Option (List Stmt)) :
    Stmt.optionalReturns (erase body) = Stmt.optionalReturns body := by
  cases body with
  | none => rfl
  | some body =>
      rw [erase_some, Stmt.optionalReturns, Stmt.optionalReturns, anyReturns_erase body]

theorem anyReturns_erase_branches (branches : List Branch) :
    Branch.anyReturns (erase branches) = Branch.anyReturns branches := by
  cases branches with
  | nil => rfl
  | cons first rest =>
      obtain ⟨condition, body, span⟩ := first
      rw [erase_cons, erase_branch, Branch.anyReturns, Branch.anyReturns, anyReturns_erase body,
        anyReturns_erase_branches rest]

theorem anyReturns_erase_arms (arms : List Arm) :
    Arm.anyReturns (erase arms) = Arm.anyReturns arms := by
  cases arms with
  | nil => rfl
  | cons first rest =>
      obtain ⟨values, body, span⟩ := first
      rw [erase_cons, erase_arm, Arm.anyReturns, Arm.anyReturns, anyReturns_erase body,
        anyReturns_erase_arms rest]

end

/-! ## Programs -/

theorem erase_parameters_bindings (parameters : List Parameter) :
    ((erase parameters).map fun parameter => (parameter.name, parameter.binding)) =
      erase (parameters.map fun parameter => (parameter.name, parameter.binding)) := by
  induction parameters with
  | nil => rfl
  | cons first rest ih =>
      rw [erase_cons, List.map_cons, List.map_cons, erase_cons, ih]
      rfl

theorem erase_declarations_bindings (declarations : List Decl) :
    ((erase declarations).map fun declaration => (declaration.name, declaration.binding)) =
      erase (declarations.map fun declaration => (declaration.name, declaration.binding)) := by
  induction declarations with
  | nil => rfl
  | cons first rest ih =>
      rw [erase_cons, List.map_cons, List.map_cons, erase_cons, ih]
      cases first <;> rfl

theorem checkRoutine_erase (scope : Scope) (routine : RoutineKind) (parameters : List Parameter)
    (body : List Stmt) :
    (erase scope).checkRoutine routine (erase parameters) (erase body) =
      erase (scope.checkRoutine routine parameters body) := by
  unfold Scope.checkRoutine
  rw [erase_parameters_bindings, push_erase, Scope.declareAll_erase]
  dsimp only
  rw [fst_erase, checkBody_erase]
  simp

namespace Decl

variable (scope : Scope) (declaration : Decl)

theorem checkType_erase :
    (RapidLang.erase declaration).checkType (RapidLang.erase scope) =
      RapidLang.erase (declaration.checkType scope) := by
  cases declaration with
  | data item => exact Scope.checkType_erase scope item.type
  | _ => rfl

theorem check_erase :
    (RapidLang.erase declaration).check (RapidLang.erase scope) =
      RapidLang.erase (declaration.check scope) := by
  cases declaration with
  | data item => exact checkOptional_erase_expr scope item.initial
  | proc name parameters body => rw [erase_proc, check, check, checkRoutine_erase]
  | func type name parameters body =>
      rw [erase_func, check, check, checkRoutine_erase, text_erase, anyReturns_erase, erase_append]
      congr 1
      split <;> rfl
  | record => rfl
  | trap name body =>
      have routine := checkRoutine_erase scope .trap [] body
      rw [erase_trap, check, check, ← routine]
      rfl

end Decl

/-- Where each item's problems come out without spans, so do those of a list. -/
theorem flatMap_erase {α β : Type} [Erasable α] [Erasable β] (find find' : α → List β)
    (same : ∀ item, find' (erase item) = erase (find item)) (items : List α) :
    (erase items).flatMap find' = erase (items.flatMap find) := by
  induction items with
  | nil => rfl
  | cons first rest ih =>
      rw [erase_cons, List.flatMap_cons, List.flatMap_cons, erase_append, same, ih]

/-- The built-in names have no spans. -/
theorem erase_builtin : erase Scope.builtin = Scope.builtin := by
  apply Scope.map_builtin
  intro binding member
  obtain ⟨_, _, _, rfl⟩ := Scope.eq_builtin_of_mem member
  rfl

theorem check_erase_module (content : Module) : (erase content).check = erase content.check := by
  obtain ⟨name, declarations, span⟩ := content
  have declared := Scope.declareAll_erase Scope.builtin.push
    (declarations.map fun declaration => (declaration.name, declaration.binding))
  rw [← push_erase, erase_builtin, ← erase_declarations_bindings] at declared
  rw [erase_module]
  unfold Module.check
  dsimp only
  rw [declared, fst_erase, snd_erase, erase_append, erase_append,
    flatMap_erase _ _ (Decl.checkType_erase _), flatMap_erase _ _ (Decl.check_erase _)]

/-- A program without its spans has the same problems, without their spans. -/
theorem check_erase_program (program : Program) : (erase program).check = erase program.check :=
  flatMap_erase _ _ check_erase_module program.modules

/-! ## Reports -/

/-- The reports say the same, if perhaps about different places. -/
structure Diagnostic.SaysSame (report other : Diagnostic) : Prop where
  severity : report.severity = other.severity
  code : report.code = other.code
  message : report.message = other.message
  help : report.help = other.help
  labels : report.labels.map Label.message = other.labels.map Label.message

theorem Problem.saysSame {problem other : Problem}
    (same : RapidLang.erase problem = RapidLang.erase other) :
    problem.diagnostic.SaysSame other.diagnostic := by
  have words : ∀ problem : Problem, (RapidLang.erase problem).diagnostic.SaysSame problem.diagnostic := by
    intro problem
    cases problem with
    | alreadyDefined name previous => cases previous <;> exact ⟨rfl, rfl, rfl, rfl, rfl⟩
    | undefinedTrap name isDeclared => cases isDeclared <;> exact ⟨rfl, rfl, rfl, rfl, rfl⟩
    | _ => exact ⟨rfl, rfl, rfl, rfl, rfl⟩
  have left := words problem
  have right := words other
  rw [same] at left
  exact ⟨left.severity.symm.trans right.severity, left.code.symm.trans right.code,
    left.message.symm.trans right.message, left.help.symm.trans right.help,
    left.labels.symm.trans right.labels⟩

/-- Programs that differ in spans only have reports that say the same, one by one. -/
theorem forall₂_diagnostics {program other : Program} (same : erase program = erase other) :
    List.Forall₂ Diagnostic.SaysSame program.diagnostics other.diagnostics := by
  have problems : erase program.check = erase other.check := by
    rw [← check_erase_program, ← check_erase_program, same]
  unfold Program.diagnostics
  generalize program.check = found at problems
  generalize other.check = found' at problems
  induction found generalizing found' with
  | nil =>
      cases found' with
      | nil => exact .nil
      | cons first' rest' => cases problems
  | cons first rest ih =>
      cases found' with
      | nil => cases problems
      | cons first' rest' =>
          rw [erase_cons, erase_cons, List.cons.injEq] at problems
          exact .cons (Problem.saysSame problems.1) (ih _ problems.2)

end RapidLang
