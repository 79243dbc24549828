import Mathlib.Data.List.Perm.Basic
import RapidLang.Proofs.Checker.Alike
import RapidLang.Proofs.Checker.Lookup
import RapidLang.Proofs.Syntax.Bodies

/-!
# How the checker walks through bodies

Up to the order of the problems, checking a body is checking each statement by itself, checking its
nested bodies in a scope with a table of their own, and checking the statements behind it in a scope
with the data that it declares. What holds along every such walk is proved by one induction.
-/

set_option autoImplicit false

namespace RapidLang

/-! ## One step of the checker -/

/-- The bindings that the table of a nested body begins with. -/
def NestedBody.bindings (nested : NestedBody) : List Binding :=
  nested.counter.toList.map counterBinding

namespace Stmt

/-- The bindings that a statement adds for those behind it. -/
def declared (statement : Stmt) : List Binding :=
  statement.item?.toList.map DataItem.binding

/-- The problems of a statement outside its nested bodies. -/
def ownCheck (routine : RoutineKind) (scope : Scope) : Stmt → List Problem
  | .block _ _ => []
  | .conditional branches _ _ =>
    branches.flatMap fun branch => scope.checkCondition .if branch.condition
  | .while condition _ _ => scope.checkCondition .while condition
  | .for _ first last _ _ => (first.check scope).problems ++ (last.check scope).problems
  | .test subject arms _ _ =>
    (subject.check scope).problems
      ++ arms.flatMap fun arm => scope.checkValues (subject.check scope).type arm.values
  | statement@(.assign _ _ _) | statement@(.expression _ _) | statement@(.return _ _)
  | statement@(.move _ _) | statement@(.connect _ _ _) | statement@(.raise _ _)
  | statement@(.data _ _) => (Stmt.check routine scope statement).2

end Stmt

/-- A function of bodies that does something of its own at each statement, goes through the nested
bodies in scopes with a table of their own, and goes on behind the statement in the scope of the
checker; the order in which it does so is left open. -/
structure Walk {α : Type} (routine : RoutineKind) (walk : Scope → List Stmt → List α)
    (own : Scope → Stmt → List α) : Prop where
  nil : ∀ scope, walk scope [] = []
  cons : ∀ scope first rest, (walk scope (first :: rest)).Perm
    (own scope first
      ++ (first.bodies.flatMap fun nested => walk (scope.enter nested.bindings) nested.statements)
      ++ walk (Stmt.check routine scope first).1 rest)

namespace Walk

variable {α β Env : Type} {routine : RoutineKind} {walk : Scope → List Stmt → List α}
  {own : Scope → Stmt → List α}

theorem filter (walks : Walk routine walk own) (keep : α → Bool) :
    Walk routine (fun scope body => (walk scope body).filter keep)
      (fun scope statement => (own scope statement).filter keep) := by
  constructor
  · intro scope
    rw [walks.nil, List.filter_nil]
  · intro scope first rest
    have walked := (walks.cons scope first rest).filter keep
    rwa [List.filter_append, List.filter_append, List.filter_flatMap] at walked

theorem map (walks : Walk routine walk own) (convert : α → β) :
    Walk routine (fun scope body => (walk scope body).map convert)
      (fun scope statement => (own scope statement).map convert) := by
  constructor
  · intro scope
    rw [walks.nil, List.map_nil]
  · intro scope first rest
    have walked := (walks.cons scope first rest).map convert
    rwa [List.map_append, List.map_append, List.map_flatMap] at walked

/-- A walk gathers what a specification lists, if at each statement it does so with environments
that are related to the scopes. -/
theorem perm (walks : Walk routine walk own) (relates : Scope → Env → Prop)
    (spec : Env → List Stmt → List α) (nil : ∀ env, spec env [] = [])
    (step : ∀ scope env first rest, relates scope env → ∃ (inner : NestedBody → Env) (next : Env),
      (∀ nested ∈ first.bodies, relates (scope.enter nested.bindings) (inner nested)) ∧
        relates (Stmt.check routine scope first).1 next ∧
        (spec env (first :: rest)).Perm
          (own scope first
            ++ (first.bodies.flatMap fun nested => spec (inner nested) nested.statements)
            ++ spec next rest))
    (body : List Stmt) {scope : Scope} {env : Env} (related : relates scope env) :
    (walk scope body).Perm (spec env body) := by
  induction body using Stmt.body_induction generalizing scope env with
  | nil => rw [walks.nil, nil]
  | cons first rest innerIH restIH =>
      obtain ⟨inner, next, inside, behind, whole⟩ := step scope env first rest related
      have bodies : (first.bodies.flatMap fun nested =>
            walk (scope.enter nested.bindings) nested.statements).Perm
          (first.bodies.flatMap fun nested => spec (inner nested) nested.statements) :=
        List.Perm.flatMap_left _ fun nested member => innerIH nested member (inside nested member)
      have walked := walks.cons scope first rest
      exact (walked.trans ((bodies.append_left _).append (restIH behind))).trans whole.symm

end Walk

/-! ## The problems of a body -/

namespace Stmt

variable {routine : RoutineKind} {scope other : Scope}

theorem check_alike (statement : Stmt) :
    (Stmt.check routine scope statement).1.Alike (scope.extend statement.declared) := by
  cases statement with
  | data item => exact scope.declare_alike item.name item.binding
  | _ => exact scope.alike_extend_nil

theorem ownCheck_congr (alike : scope.Alike other) (statement : Stmt) :
    statement.ownCheck routine scope = statement.ownCheck routine other := by
  cases statement with
  | block | raise => rfl
  | conditional branches => simp only [ownCheck, alike.checkCondition]
  | «while» condition => exact alike.checkCondition .while condition
  | «for» counter first last => simp only [ownCheck, alike.check]
  | test subject arms => simp only [ownCheck, alike.check, alike.checkValues]
  | assign target value => simp only [ownCheck, Stmt.check, alike.check, alike.checkTarget]
  | expression value => simp only [ownCheck, Stmt.check, alike.check]
  | «return» value span => exact alike.checkReturn routine value span
  | move operands => simp only [ownCheck, Stmt.check, alike.checkAll, alike.checkOptional]
  | connect trap => exact alike.checkTrap trap
  | data item =>
      simp only [ownCheck, Stmt.check, alike.checkOptional, alike.checkType, alike.declare]

theorem flatMap_plain {α : Type} (lists : List (List Stmt)) (scope : Scope)
    (walk : Scope → List Stmt → List α) :
    ((lists.map NestedBody.plain).flatMap fun nested =>
      walk (scope.enter nested.bindings) nested.statements) = lists.flatMap (walk scope.push) :=
  List.flatMap_map _ _ _

theorem checkOptional_eq (body : Option (List Stmt)) :
    Stmt.checkOptional routine scope body =
      body.toList.flatMap (Stmt.checkBody routine scope.push) := by
  cases body <;> simp [Stmt.checkOptional]

theorem checkAll_branches_eq (branches : List Branch) :
    Branch.checkAll routine scope branches = branches.flatMap fun branch =>
      scope.checkCondition .if branch.condition
        ++ Stmt.checkBody routine scope.push branch.body := by
  induction branches with
  | nil => rfl
  | cons first rest ih =>
      obtain ⟨condition, body, span⟩ := first
      rw [Branch.checkAll, ih]
      rfl

theorem checkAll_arms_eq (subject : Option String) (arms : List Arm) :
    Arm.checkAll routine scope subject arms = arms.flatMap fun arm =>
      scope.checkValues subject arm.values ++ Stmt.checkBody routine scope.push arm.body := by
  induction arms with
  | nil => rfl
  | cons first rest ih =>
      obtain ⟨values, body, span⟩ := first
      rw [Arm.checkAll, ih]
      rfl

/-- Parts with a body each, and the bodies behind them, in another order. -/
theorem flatMap_bodies_perm {α β : Type} (parts : List β) (head : β → List α)
    (body : β → List Stmt) (others : List (List Stmt)) (inside : List Stmt → List α) :
    ((parts.flatMap fun part => head part ++ inside (body part)) ++ others.flatMap inside).Perm
      (parts.flatMap head ++ (parts.map body ++ others).flatMap inside) := by
  have apart := (List.flatMap_append_perm parts head fun part => inside (body part)).symm
  rw [List.flatMap_append, List.flatMap_map, ← List.append_assoc]
  exact apart.append_right _

theorem declare_counter (scope : Scope) (counter : Name) :
    scope.push.declare counter (counterBinding counter) =
      (scope.enter [counterBinding counter], []) := rfl

/-- Checking a statement is checking what stands in it directly, and its nested bodies. -/
theorem check_perm (statement : Stmt) :
    (Stmt.check routine scope statement).2.Perm
      (statement.ownCheck routine scope
        ++ statement.bodies.flatMap fun nested =>
          Stmt.checkBody routine (scope.enter nested.bindings) nested.statements) := by
  cases statement with
  | block body | «while» condition body =>
      rw [bodies, List.flatMap_singleton]
      exact .refl _
  | «for» counter first last body =>
      rw [bodies, List.flatMap_singleton, Stmt.check, declare_counter]
      dsimp only
      rw [List.append_nil]
      exact .refl _
  | conditional branches otherwise =>
      rw [bodies, flatMap_plain, ownCheck, Stmt.check, checkAll_branches_eq, checkOptional_eq]
      exact flatMap_bodies_perm branches _ _ _ _
  | test subject arms default =>
      rw [bodies, flatMap_plain, ownCheck, Stmt.check, checkAll_arms_eq, checkOptional_eq,
        List.append_assoc, List.append_assoc]
      exact (flatMap_bodies_perm arms _ _ _ _).append_left _
  | _ =>
      rw [bodies, List.flatMap_nil, List.append_nil]
      exact .refl _

theorem walk_checkBody (routine : RoutineKind) :
    Walk routine (Stmt.checkBody routine) (Stmt.ownCheck routine) := by
  constructor
  · exact fun _ => rfl
  · exact fun scope first rest => (check_perm first).append_right _

/-- In scopes that bind alike the same problems are found. -/
theorem checkBody_perm (alike : scope.Alike other) (body : List Stmt) :
    (Stmt.checkBody routine scope body).Perm (Stmt.checkBody routine other body) := by
  refine (walk_checkBody routine).perm Scope.Alike _ (fun _ => rfl) ?_ body alike
  intro scope env first rest alike
  exists fun nested => env.enter nested.bindings, (Stmt.check routine env first).1
  refine ⟨fun nested _ => alike.enter nested.bindings, ?_, ?_⟩
  · exact ((check_alike first).trans (alike.extend _)).trans (check_alike first).symm
  · rw [ownCheck_congr alike]
    exact (walk_checkBody routine).cons env first rest

/-! ## The names that are looked up in a body -/

theorem inScope_append (scope : Scope) (first second : List Occurrence) :
    Lookup.inScope scope (first ++ second) =
      Lookup.inScope scope first ++ Lookup.inScope scope second :=
  List.map_append

theorem inScope_allOccurrences (scope : Scope) (expressions : List Expr) :
    Lookup.inScope scope (Expr.allOccurrences expressions) =
      expressions.flatMap fun expression => Lookup.inScope scope expression.occurrences := by
  induction expressions with
  | nil => rfl
  | cons first rest ih => rw [Expr.allOccurrences, inScope_append, ih, List.flatMap_cons]

theorem inScope_optionalOccurrences (scope : Scope) (value : Option Expr) :
    Lookup.inScope scope (Expr.optionalOccurrences value) =
      value.toList.flatMap fun expression => Lookup.inScope scope expression.occurrences := by
  cases value <;> simp [Expr.optionalOccurrences, Lookup.inScope]

theorem optionalLookups_eq (body : Option (List Stmt)) :
    Stmt.optionalLookups routine scope body =
      body.toList.flatMap (Stmt.bodyLookups routine scope.push) := by
  cases body <;> simp [Stmt.optionalLookups]

theorem allLookups_branches_eq (branches : List Branch) :
    Branch.allLookups routine scope branches = branches.flatMap fun branch =>
      Lookup.inScope scope branch.condition.occurrences
        ++ Stmt.bodyLookups routine scope.push branch.body := by
  induction branches with
  | nil => rfl
  | cons first rest ih =>
      obtain ⟨condition, body, span⟩ := first
      rw [Branch.allLookups, ih]
      rfl

theorem allLookups_arms_eq (arms : List Arm) :
    Arm.allLookups routine scope arms = arms.flatMap fun arm =>
      (arm.values.flatMap fun value => Lookup.inScope scope value.occurrences)
        ++ Stmt.bodyLookups routine scope.push arm.body := by
  induction arms with
  | nil => rfl
  | cons first rest ih =>
      obtain ⟨values, body, span⟩ := first
      rw [Arm.allLookups, ih, inScope_allOccurrences]
      rfl

/-- The names that are looked up in a statement outside its nested bodies. -/
def ownLookups (scope : Scope) (statement : Stmt) : List Lookup :=
  statement.expressions.flatMap fun expression => Lookup.inScope scope expression.occurrences

theorem lookups_perm (statement : Stmt) :
    (Stmt.lookups routine scope statement).Perm
      (statement.ownLookups scope
        ++ statement.bodies.flatMap fun nested =>
          Stmt.bodyLookups routine (scope.enter nested.bindings) nested.statements) := by
  cases statement with
  | block body =>
      rw [bodies, List.flatMap_singleton]
      exact .refl _
  | «while» condition body =>
      rw [bodies, List.flatMap_singleton, ownLookups, expressions, List.flatMap_singleton]
      exact .refl _
  | «for» counter first last body =>
      rw [bodies, List.flatMap_singleton, Stmt.lookups, declare_counter, inScope_append,
        ownLookups, expressions, List.flatMap_cons, List.flatMap_singleton]
      exact .refl _
  | conditional branches otherwise =>
      rw [bodies, flatMap_plain, ownLookups, expressions, Stmt.lookups, allLookups_branches_eq,
        optionalLookups_eq, List.flatMap_map]
      exact flatMap_bodies_perm branches _ _ _ _
  | test subject arms default =>
      rw [bodies, flatMap_plain, ownLookups, expressions, Stmt.lookups, allLookups_arms_eq,
        optionalLookups_eq, List.flatMap_cons, List.flatMap_assoc, List.append_assoc,
        List.append_assoc]
      exact (flatMap_bodies_perm arms _ _ _ _).append_left _
  | move operands =>
      rw [bodies, List.flatMap_nil, List.append_nil, ownLookups, expressions, Stmt.lookups,
        Move.occurrences, inScope_append, inScope_allOccurrences, inScope_optionalOccurrences,
        List.flatMap_append]
  | assign target value =>
      rw [bodies, List.flatMap_nil, List.append_nil, ownLookups, expressions, Stmt.lookups,
        inScope_append, List.flatMap_cons, List.flatMap_singleton]
  | expression value =>
      rw [bodies, List.flatMap_nil, List.append_nil, ownLookups, expressions, Stmt.lookups,
        List.flatMap_singleton]
  | «return» value =>
      rw [bodies, List.flatMap_nil, List.append_nil, ownLookups, expressions, Stmt.lookups,
        inScope_optionalOccurrences]
  | data item =>
      rw [bodies, List.flatMap_nil, List.append_nil, ownLookups, expressions, Stmt.lookups,
        inScope_optionalOccurrences]
  | connect | raise => exact .nil

theorem walk_bodyLookups (routine : RoutineKind) :
    Walk routine (Stmt.bodyLookups routine) Stmt.ownLookups := by
  constructor
  · exact fun _ => rfl
  · exact fun scope first rest => (lookups_perm first).append_right _

end Stmt

/-! ## Routines and modules -/

theorem Scope.checkRoutine_eq (scope : Scope) (routine : RoutineKind)
    (parameters : List Parameter) (body : List Stmt) :
    scope.checkRoutine routine parameters body = (scope.push.declareAll
        (parameters.map fun parameter => (parameter.name, parameter.binding))).2
      ++ Stmt.checkBody routine (scope.ofRoutine parameters) body := rfl

theorem Module.check_eq (content : Module) :
    content.check = (Scope.builtin.push.declareAll
        (content.declarations.map fun declaration => (declaration.name, declaration.binding))).2
      ++ content.declarations.flatMap (Decl.checkType content.scope)
      ++ content.declarations.flatMap (Decl.check content.scope) := rfl

/-- A module binds as if its bindings were all in one table. -/
theorem Module.scope_alike (content : Module) :
    content.scope.Alike (Scope.builtin.enter (content.declarations.map Decl.binding)) := by
  have alike := Scope.builtin.push.declareAll_alike
    (content.declarations.map fun declaration => (declaration.name, declaration.binding))
  rwa [List.map_map] at alike

end RapidLang
