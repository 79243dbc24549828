import RapidLang.Proofs.Checker.Problems
import RapidLang.Proofs.Checker.Sites

/-!
# Return statements

Only a function returns a value, and a function is expected to return one. Every return statement of
a routine is judged once, however deep it is nested, and by the routine that it stands in.
-/

set_option autoImplicit false

namespace RapidLang

open Text

/-- Is the statement a return? -/
def Stmt.isReturn : Stmt → Bool
  | .return _ _ => true
  | _ => false

/-! ## Reports -/

/-- The report that a routine of some kind returns a value. -/
def valueReport (kind : String) (span : Span) : Diagnostic :=
  { severity := .error
    stage := .semantic
    code := some .returnValueInProcedure
    message := "RETURN in a " ++ kind ++ " cannot return a value"
    span
    labels := []
    help := none }

/-- The report that a function returns nowhere. -/
def noReturnReport (function : Name) : Diagnostic :=
  { severity := .warning
    stage := .semantic
    code := some .missingReturn
    message := "function " ++ Problem.quoted function.text ++ " may be missing a RETURN"
    span := function.span
    labels := []
    help := none }

/-- The reports on a statement that returns a value, in a routine of some kind. -/
def Stmt.valueReports (kind : String) : Stmt → List Diagnostic
  | .return (some _) span => [valueReport kind span]
  | _ => []

namespace Decl

/-- The reports on values that are returned in a procedure or in a trap. -/
def valueReports : Decl → List Diagnostic
  | .proc _ _ body _ => (Stmt.all body).flatMap (Stmt.valueReports "procedure")
  | .trap _ body _ => (Stmt.all body).flatMap (Stmt.valueReports "trap")
  | .data _ _ | .func _ _ _ _ _ | .record _ _ _ => []

/-- The report on a function with no return in it. -/
def noReturnReports : Decl → List Diagnostic
  | .func _ name _ body _ => if (Stmt.all body).any Stmt.isReturn then [] else [noReturnReport name]
  | .data _ _ | .proc _ _ _ _ | .record _ _ _ | .trap _ _ _ => []

end Decl

/-! ## Looking for a return -/

namespace Stmt

theorem anyReturns_branches (branches : List Branch) :
    Branch.anyReturns branches = branches.any fun branch => anyReturns branch.body := by
  induction branches with
  | nil => rfl
  | cons first rest ih =>
      obtain ⟨condition, body, span⟩ := first
      rw [Branch.anyReturns, ih, List.any_cons]
      rfl

theorem anyReturns_arms (arms : List Arm) :
    Arm.anyReturns arms = arms.any fun arm => anyReturns arm.body := by
  induction arms with
  | nil => rfl
  | cons first rest ih =>
      obtain ⟨values, body, span⟩ := first
      rw [Arm.anyReturns, ih, List.any_cons]
      rfl

theorem optionalReturns_eq (body : Option (List Stmt)) :
    optionalReturns body = body.toList.any anyReturns := by
  cases body <;> simp [optionalReturns]

/-- A statement holds a return if it is one, or if one of its bodies holds one. -/
theorem returns_eq (statement : Stmt) :
    statement.returns =
      (statement.isReturn || statement.bodies.any fun nested => anyReturns nested.statements) := by
  cases statement with
  | conditional branches otherwise =>
      rw [returns, bodies, anyReturns_branches, optionalReturns_eq, List.any_map, List.any_append,
        List.any_map]
      rfl
  | test subject arms default =>
      rw [returns, bodies, anyReturns_arms, optionalReturns_eq, List.any_map, List.any_append,
        List.any_map]
      rfl
  | block body | «while» condition body | «for» counter first last body =>
      rw [returns, bodies, List.any_cons, List.any_nil, Bool.or_false]
      rfl
  | _ => rfl

/-- The search for a return goes through all statements. -/
theorem anyReturns_eq (body : List Stmt) : anyReturns body = (all body).any isReturn := by
  induction body using body_induction with
  | nil => rw [all_nil]; rfl
  | cons first rest innerIH restIH =>
      have inner : (first.bodies.any fun nested => anyReturns nested.statements) =
          first.bodies.any fun nested => (all nested.statements).any isReturn := by
        rw [Bool.eq_iff_iff, List.any_eq_true, List.any_eq_true]
        exact exists_congr fun nested => and_congr_right fun member => by rw [innerIH nested member]
      rw [anyReturns, restIH, returns_eq, inner, all_cons, List.any_append, List.any_cons,
        List.any_flatMap]

end Stmt

/-! ## What is reported -/

/-- A value that is returned where none may be. -/
def Stmt.valueReturned (routine : RoutineKind) : Stmt → List Problem
  | .return (some _) span =>
    match routine with
    | .proc => [.valueReturnedFromProc span]
    | .trap => [.valueReturnedFromTrap span]
    | .func _ => []
  | _ => []

section Values

theorem Stmt.withCode_returned (scope : Scope) (routine : RoutineKind) (statement : Stmt) :
    (withCode (· == .returnValueInProcedure) (statement.ownCheck routine scope)).Perm
      (statement.valueReturned routine) := by
  have misuses : withCode (· == .returnValueInProcedure) (statement.misuses routine scope) =
      statement.valueReturned routine := by
    cases statement with
    | «return» value span =>
        cases value with
        | none => rfl
        | some value =>
            cases routine with
            | proc | trap => rfl
            | func type =>
                -- A function may be reported for the type of the value, not for returning one.
                apply withCode_eq_nil
                intro problem member
                obtain ⟨_, _, rfl⟩ := of_mem_mismatch member
                rfl
    | _ =>
        apply withCode_misuses_eq_nil
        simp [misuseCodes]
  rw [← misuses]
  exact withCode_ownCheck_of_outside (Code.outside_of_beq rfl) statement

theorem Scope.returnedValues_perm (scope : Scope) (routine : RoutineKind)
    (parameters : List Parameter) (body : List Stmt) :
    (withCode (· == .returnValueInProcedure) (scope.checkRoutine routine parameters body)).Perm
      ((Stmt.all body).flatMap (Stmt.valueReturned routine)) := by
  rw [Scope.withCode_checkRoutine rfl]
  exact (Stmt.walk_withCode _ routine).perm_all
    (fun scope statement => statement.withCode_returned scope routine) _ body

theorem diagnostic_valueReturned_proc (statement : Stmt) :
    (statement.valueReturned .proc).map Problem.diagnostic = statement.valueReports "procedure" := by
  cases statement with
  | «return» value => cases value <;> rfl
  | _ => rfl

theorem diagnostic_valueReturned_trap (statement : Stmt) :
    (statement.valueReturned .trap).map Problem.diagnostic = statement.valueReports "trap" := by
  cases statement with
  | «return» value => cases value <;> rfl
  | _ => rfl

theorem valueReturned_func (type : String) (statement : Stmt) :
    statement.valueReturned (.func type) = [] := by
  cases statement with
  | «return» value => cases value <;> rfl
  | _ => rfl

theorem Decl.valueReports_perm (scope : Scope) (declaration : Decl) :
    ((withCode (· == .returnValueInProcedure) (declaration.check scope)).map
      Problem.diagnostic).Perm declaration.valueReports := by
  cases declaration with
  | data item =>
      rw [check, Expr.checkOptional_eq, withCode_problemsIn_eq_nil (Code.outside_of_beq rfl)]
      exact .nil
  | proc name parameters body =>
      have found := (scope.returnedValues_perm .proc parameters body).map Problem.diagnostic
      rwa [List.map_flatMap, funext diagnostic_valueReturned_proc] at found
  | func type name parameters body =>
      have found := scope.returnedValues_perm (.func (normalizeType type.text)) parameters body
      rw [funext (valueReturned_func _), List.flatMap_eq_nil_iff.mpr fun _ _ => rfl] at found
      rw [Decl.withCode_check_func rfl, found.eq_nil]
      exact .nil
  | record => exact .nil
  | trap name body =>
      have found := (scope.returnedValues_perm .trap [] body).map Problem.diagnostic
      rwa [List.map_flatMap, funext diagnostic_valueReturned_trap] at found

end Values

section Missing

variable (scope : Scope)

/-- No problem inside a routine is that there is no return. -/
theorem Scope.missingReturn_checkRoutine (routine : RoutineKind) (parameters : List Parameter)
    (body : List Stmt) :
    withCode (· == .missingReturn) (scope.checkRoutine routine parameters body) = [] := by
  have none : ∀ (scope : Scope) (statement : Stmt),
      (withCode (· == .missingReturn) (statement.ownCheck routine scope)).Perm [] := by
    intro scope statement
    apply (Stmt.withCode_ownCheck_of_outside (Code.outside_of_beq rfl) statement).trans
    rw [withCode_misuses_eq_nil]
    cases statement <;> simp [Stmt.misuseCodes]
  rw [Scope.withCode_checkRoutine rfl]
  have found := (Stmt.walk_withCode (· == .missingReturn) routine).perm_all none
    (scope.ofRoutine parameters) body
  rw [List.flatMap_eq_nil_iff.mpr fun _ _ => rfl] at found
  exact found.eq_nil

theorem Decl.noReturnReports_eq (declaration : Decl) :
    (withCode (· == .missingReturn) (declaration.check scope)).map Problem.diagnostic =
      declaration.noReturnReports := by
  cases declaration with
  | data item =>
      rw [check, Expr.checkOptional_eq, withCode_problemsIn_eq_nil (Code.outside_of_beq rfl)]
      rfl
  | proc name parameters body =>
      rw [check, scope.missingReturn_checkRoutine]
      rfl
  | func type name parameters body =>
      rw [check, withCode_append, scope.missingReturn_checkRoutine, Stmt.anyReturns_eq,
        noReturnReports]
      split <;> rfl
  | record => rfl
  | trap name body =>
      rw [check, scope.missingReturn_checkRoutine]
      rfl

end Missing

/-- The reports with a code are those of the problems inside the declarations with that code. -/
theorem Program.reports_withCode (program : Program) (code : Code)
    (repeated : (Code.duplicateDefinition == code) = false)
    (unknown : (Code.unknownType == code) = false) :
    program.diagnostics.filter (fun report => report.code == some code) =
      program.modules.flatMap fun content => content.declarations.flatMap fun declaration =>
        (withCode (· == code) (declaration.check content.scope)).map Problem.diagnostic := by
  have inside : ∀ content : Module, withCode (· == code) content.check =
      content.declarations.flatMap fun declaration =>
        withCode (· == code) (declaration.check content.scope) :=
    Module.withCode_check_inside unknown repeated
  have reports : program.diagnostics.filter (fun report => report.code == some code) =
      (withCode (· == code) program.check).map Problem.diagnostic :=
    List.filter_map
  rw [reports, Program.check, withCode_flatMap, funext inside, List.map_flatMap]
  simp only [List.map_flatMap]

/-- A returned value is reported once for each return statement with a value in a procedure or in a
trap, at whatever depth it is nested, where the statement stands. A function is reported, at its
name, exactly if no return statement is nested in it at any depth. -/
theorem returns_accounted (program : Program) :
    (program.diagnostics.filter fun report => report.code == some .returnValueInProcedure).Perm
      (program.modules.flatMap fun content => content.declarations.flatMap Decl.valueReports) ∧
    program.diagnostics.filter (fun report => report.code == some .missingReturn) =
      program.modules.flatMap fun content => content.declarations.flatMap Decl.noReturnReports := by
  rw [program.reports_withCode _ rfl rfl, program.reports_withCode _ rfl rfl]
  constructor
  · exact .flatMap_left _ fun content _ => .flatMap_left _ fun declaration _ =>
      declaration.valueReports_perm content.scope
  · simp only [Decl.noReturnReports_eq]

end RapidLang
