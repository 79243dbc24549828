import Mathlib.Data.List.Forall2
import RapidLang.Proofs.Checker.Names
import RapidLang.Proofs.Checker.Sites

/-!
# Names are resolved where they stand

At each use of a name some declarations are visible, in one table for each construct around it: the
built-in names, all declarations of the module, the parameters of the routine together with the data
that its body has declared so far, and the same for each nested body, behind the counter of its
loop. The checker binds the name to the first declaration of the name in the innermost table that
has one. Its own tables leave out what is declared twice, which makes no difference.
-/

set_option autoImplicit false

namespace RapidLang

/-! ## What is visible -/

/-- A use of a name, and the declarations that are visible there. -/
structure Reference where
  use : Use
  visible : Scope

/-- The binding is the first of the name in the innermost table that has one. -/
def Scope.Nearest (visible : Scope) (name : String) (binding : Binding) : Prop :=
  ∃ inside table outside front back,
    visible.innermost :: visible.enclosing = inside ++ table :: outside ∧
      table = front ++ binding :: back ∧ binding.name = name ∧
      (∀ nearer ∈ inside, ∀ other ∈ nearer, other.name ≠ name) ∧
      ∀ other ∈ front, other.name ≠ name

/-- No visible declaration has the name. -/
def Reference.IsFree (reference : Reference) : Prop :=
  ∀ table ∈ reference.visible.innermost :: reference.visible.enclosing, ∀ binding ∈ table,
    binding.name ≠ reference.use.name.text

instance (reference : Reference) : Decidable reference.IsFree :=
  inferInstanceAs (Decidable (∀ table ∈ reference.visible.innermost :: reference.visible.enclosing,
    ∀ binding ∈ table, binding.name ≠ reference.use.name.text))

/-- The uses in an expression or several, all with the same declarations. -/
def Use.allIn (visible : Scope) (uses : List Use) : List Reference :=
  uses.map fun use => ⟨use, visible⟩

/-- The uses of names in statements that stand one after the other. A nested body sees the counter
of its loop, the statements behind a declaration see what it declares. -/
def Stmt.references (visible : Scope) : List Stmt → List Reference
  | [] => []
  | first :: rest =>
    Use.allIn visible first.uses
      ++ (first.bodies.attach.flatMap fun nested =>
        references (visible.enter nested.val.bindings) nested.val.statements)
      ++ references (visible.extend first.declared) rest
termination_by body => sizeOf body
decreasing_by
  · exact sizeOf_lt_cons_of_mem_bodies nested.property rest
  · exact sizeOf_lt_cons first rest

/-- The uses of names in a declaration, where some declarations are visible around it. -/
def Decl.references (visible : Scope) : Decl → List Reference
  | .data item _ => Use.allIn visible (Expr.allUses item.initial.toList)
  | .proc _ parameters body _ | .func _ _ parameters body _ =>
    Stmt.references (visible.enter (parameters.map Parameter.binding)) body
  | .record _ _ _ => []
  | .trap _ body _ => Stmt.references (visible.enter []) body

/-- The uses of names in a module. All its declarations are visible in all of it, and the built-in
names around them. -/
def Module.references (content : Module) : List Reference :=
  content.declarations.flatMap
    (Decl.references ⟨content.declarations.map Decl.binding, [builtinBindings]⟩)

/-- The uses of names in a program. -/
def Program.references (program : Program) : List Reference :=
  program.modules.flatMap Module.references

/-! ## Tables -/

section Tables

variable {scope : Scope} {name : String} {binding : Binding}

theorem Table.find?_eq_some_iff_split {table : Table} : table.find? name = some binding ↔
    ∃ front back, table = front ++ binding :: back ∧ binding.name = name ∧
      ∀ other ∈ front, other.name ≠ name := by
  rw [find?, List.find?_eq_some_iff_append]
  constructor
  · rintro ⟨named, front, back, split, apart⟩
    exact ⟨front, back, split, by simpa using named, by simpa using apart⟩
  · rintro ⟨front, back, split, named, apart⟩
    exact ⟨by simpa using named, front, back, split, by simpa using apart⟩

theorem Table.find?_eq_none {table : Table} :
    table.find? name = none ↔ ∀ binding ∈ table, binding.name ≠ name := by
  simp [find?]

/-- A name is bound to the first declaration of the name in the innermost table that has one. -/
theorem Scope.resolve?_eq_some_iff :
    scope.resolve? name = some binding ↔ scope.Nearest name binding := by
  rw [resolve?, List.findSome?_eq_some_iff]
  constructor
  · rintro ⟨inside, table, outside, split, found, missed⟩
    obtain ⟨front, back, split', named, apart⟩ := Table.find?_eq_some_iff_split.mp found
    exact ⟨inside, table, outside, front, back, split, split', named,
      fun nearer member => Table.find?_eq_none.mp (missed nearer member), apart⟩
  · rintro ⟨inside, table, outside, front, back, split, split', named, missed, apart⟩
    exact ⟨inside, table, outside, split,
      Table.find?_eq_some_iff_split.mpr ⟨front, back, split', named, apart⟩,
      fun nearer member => Table.find?_eq_none.mpr (missed nearer member)⟩

theorem Reference.isFree_iff (reference : Reference) :
    reference.IsFree ↔ reference.visible.resolve? reference.use.name.text = none := by
  rw [Scope.resolve?, List.findSome?_eq_none_iff]
  simp only [Table.find?_eq_none]
  rfl

end Tables

/-! ## The names that are looked up -/

/-- A name, and what it is bound to. -/
def Lookup.key (lookup : Lookup) : Name × Option Binding :=
  (lookup.name, lookup.binding?)

/-- A name, and what it is to be bound to. -/
def Reference.key (reference : Reference) : Name × Option Binding :=
  (reference.use.name, reference.visible.resolve? reference.use.name.text)

theorem allOccurrences_perm (expressions : List Expr) :
    ((Expr.allOccurrences expressions).map Occurrence.name).Perm
      ((Expr.allUses expressions).map Use.name) := by
  rw [Expr.allOccurrences_eq, List.map_map]
  exact ((Expr.allUses_perm expressions).map Use.name).symm

variable {scope visible : Scope} {routine : RoutineKind}

/-- In scopes that bind alike, the names in expressions are bound alike. -/
theorem inScope_perm (alike : scope.Alike visible) (expressions : List Expr) :
    ((Lookup.inScope scope (Expr.allOccurrences expressions)).map Lookup.key).Perm
      ((Use.allIn visible (Expr.allUses expressions)).map Reference.key) := by
  have bound := (allOccurrences_perm expressions).map
    fun name => (name, visible.resolve? name.text)
  rw [Lookup.inScope, Use.allIn, List.map_map, List.map_map]
  rw [List.map_map, List.map_map] at bound
  have same : Lookup.key ∘ (fun occurrence : Occurrence => ⟨occurrence.name, scope⟩) =
      (fun name => (name, visible.resolve? name.text)) ∘ Occurrence.name := by
    funext occurrence
    exact congrArg (Prod.mk _) (alike.all _)
  rw [same]
  exact bound

/-- The problem of a reference, if there is one. -/
def Reference.problems (reference : Reference) : List Problem :=
  if reference.IsFree then [reference.use.problem] else []

/-- The scope of the checker leaves those names unbound that are free. -/
theorem unbound_eq (alike : scope.Alike visible) (uses : List Use) :
    scope.unbound uses = (Use.allIn visible uses).flatMap Reference.problems := by
  induction uses with
  | nil => rfl
  | cons use rest ih =>
      have free := (Reference.mk use visible).isFree_iff
      rw [← alike.all] at free
      have own : scope.unbound [use] = (Reference.mk use visible).problems := by
        rw [Scope.unbound, List.filter_singleton, Reference.problems]
        cases found : scope.resolve? use.name.text with
        | none => rw [if_pos (free.mpr found)]; rfl
        | some binding =>
            rw [if_neg fun isFree => Option.some_ne_none binding (found.symm.trans (free.mp isFree))]
            rfl
      rw [← List.singleton_append, unbound_append, own, ih]
      rfl

/-! ## Statements -/

theorem Stmt.references_cons (visible : Scope) (first : Stmt) (rest : List Stmt) :
    Stmt.references visible (first :: rest) =
      Use.allIn visible first.uses
        ++ (first.bodies.flatMap fun nested =>
          Stmt.references (visible.enter nested.bindings) nested.statements)
        ++ Stmt.references (visible.extend first.declared) rest := by
  rw [references, ← flatMap_bodies_attach]

/-- The references in a body are those of its statements, where each of them stands. -/
theorem Stmt.references_eq (visible : Scope) (body : List Stmt) :
    Stmt.references visible body =
      (Stmt.sites visible body).flatMap fun site => Use.allIn site.visible site.statement.uses := by
  induction body using Stmt.body_induction generalizing visible with
  | nil => rw [references, sites_nil]; rfl
  | cons first rest innerIH restIH =>
      rw [references_cons, sites_cons, List.flatMap_append, List.flatMap_cons, List.flatMap_assoc,
        restIH, List.flatMap_congr fun nested member => innerIH nested member _]

/-- A walk that visits the names in each statement visits all references. -/
theorem Walk.perm_references {α : Type} {walk : Scope → List Stmt → List α}
    {own : Scope → Stmt → List α} (walks : Walk routine walk own) {visit : Reference → List α}
    (visits : ∀ scope visible : Scope, scope.Alike visible → ∀ statement : Stmt,
      (own scope statement).Perm ((Use.allIn visible statement.uses).flatMap visit))
    (alike : scope.Alike visible) (body : List Stmt) :
    (walk scope body).Perm ((Stmt.references visible body).flatMap visit) := by
  rw [Stmt.references_eq, List.flatMap_assoc]
  exact walks.perm_sites visits alike body

theorem bodyLookups_perm (alike : scope.Alike visible) (body : List Stmt) :
    ((Stmt.bodyLookups routine scope body).map Lookup.key).Perm
      ((Stmt.references visible body).flatMap fun reference => [reference.key]) := by
  apply ((Stmt.walk_bodyLookups routine).map Lookup.key).perm_references _ alike body
  intro scope visible alike statement
  rw [Stmt.ownLookups, ← Stmt.inScope_allOccurrences, ← List.map_eq_flatMap]
  exact inScope_perm alike statement.expressions

theorem checkBody_unbound (alike : scope.Alike visible) (body : List Stmt) :
    (withCode Code.isUnbound (Stmt.checkBody routine scope body)).Perm
      ((Stmt.references visible body).flatMap Reference.problems) := by
  apply (Stmt.walk_withCode Code.isUnbound routine).perm_references _ alike body
  intro scope visible alike statement
  rw [← unbound_eq alike]
  exact withCode_isUnbound_ownCheck statement

/-! ## Declarations -/

theorem Scope.Alike.ofRoutine (alike : scope.Alike visible) (parameters : List Parameter) :
    (scope.ofRoutine parameters).Alike (visible.enter (parameters.map Parameter.binding)) := by
  have declared := scope.push.declareAll_alike
    (parameters.map fun parameter => (parameter.name, parameter.binding))
  rw [List.map_map] at declared
  exact declared.trans (alike.enter _)

theorem Decl.lookups_perm (alike : scope.Alike visible) (declaration : Decl) :
    ((declaration.lookups scope).map Lookup.key).Perm
      ((declaration.references visible).flatMap fun reference => [reference.key]) := by
  cases declaration with
  | data item =>
      rw [Decl.lookups, Stmt.inScope_optionalOccurrences, ← Stmt.inScope_allOccurrences,
        ← List.map_eq_flatMap]
      exact inScope_perm alike item.initial.toList
  | proc _ parameters body | func _ _ parameters body =>
      exact bodyLookups_perm (alike.ofRoutine parameters) body
  | record => exact .nil
  | trap _ body => exact bodyLookups_perm (alike.ofRoutine []) body

theorem checkRoutine_unbound (alike : scope.Alike visible) (routine : RoutineKind)
    (parameters : List Parameter) (body : List Stmt) :
    (withCode Code.isUnbound (scope.checkRoutine routine parameters body)).Perm
      ((Stmt.references (visible.enter (parameters.map Parameter.binding)) body).flatMap
        Reference.problems) := by
  rw [Scope.withCode_checkRoutine rfl]
  exact checkBody_unbound (alike.ofRoutine parameters) body

theorem Decl.check_unbound (alike : scope.Alike visible) (declaration : Decl) :
    (withCode Code.isUnbound (declaration.check scope)).Perm
      ((declaration.references visible).flatMap Reference.problems) := by
  cases declaration with
  | data item =>
      rw [Decl.check, Expr.checkOptional_eq, Decl.references, ← unbound_eq alike]
      exact withCode_isUnbound_problemsIn _
  | proc _ parameters body => exact checkRoutine_unbound alike .proc parameters body
  | func type name parameters body =>
      rw [Decl.withCode_check_func rfl]
      exact checkRoutine_unbound alike _ parameters body
  | record => exact .nil
  | trap _ body => exact checkRoutine_unbound alike .trap [] body

/-! ## Programs -/

theorem Module.alike_visible (content : Module) :
    content.scope.Alike ⟨content.declarations.map Decl.binding, [builtinBindings]⟩ := by
  have alike := content.scope_alike
  rwa [Scope.builtin_eq] at alike

theorem Program.lookups_perm (program : Program) :
    (program.lookups.map Lookup.key).Perm
      (program.references.flatMap fun reference => [reference.key]) := by
  have modules : ∀ content : Module, (content.lookups.map Lookup.key).Perm
      (content.references.flatMap fun reference => [reference.key]) := by
    intro content
    rw [Module.lookups, Module.references, List.map_flatMap, List.flatMap_assoc]
    exact List.Perm.flatMap_left _ fun declaration _ =>
      declaration.lookups_perm content.alike_visible
  rw [lookups, references, List.map_flatMap, List.flatMap_assoc]
  exact List.Perm.flatMap_left _ fun content _ => modules content

theorem Module.check_unbound (content : Module) :
    (withCode Code.isUnbound content.check).Perm
      (content.references.flatMap Reference.problems) := by
  rw [Module.withCode_check_inside rfl rfl, references, List.flatMap_assoc]
  exact List.Perm.flatMap_left _ fun declaration _ =>
    declaration.check_unbound content.alike_visible

theorem Program.check_unbound (program : Program) :
    (withCode Code.isUnbound program.check).Perm
      (program.references.flatMap Reference.problems) := by
  rw [check, withCode_flatMap, references, List.flatMap_assoc]
  exact List.Perm.flatMap_left _ fun content _ => content.check_unbound

/-- Where no name is reported as undefined, the checker binds all names that it looks up. -/
theorem Program.lookups_bound {program : Program} (clean : program.check = []) :
    ∀ lookup ∈ program.lookups, ∃ binding, lookup.binding? = some binding := by
  intro lookup looked
  have unbound := program.check_unbound
  rw [clean] at unbound
  have key := program.lookups_perm.subset (List.mem_map_of_mem looked)
  obtain ⟨reference, member, same⟩ := List.mem_flatMap.mp key
  have silent := List.flatMap_eq_nil_iff.mp unbound.symm.eq_nil reference member
  rw [Reference.problems, ite_eq_right_iff] at silent
  have found : reference.visible.resolve? reference.use.name.text ≠ none := fun free =>
    List.cons_ne_nil _ _ (silent (reference.isFree_iff.mpr free))
  obtain ⟨binding, found⟩ := Option.ne_none_iff_exists'.mp found
  obtain ⟨_, bound⟩ := Prod.mk.inj (List.mem_singleton.mp same)
  exact ⟨binding, bound.trans found⟩

theorem flatMap_problems (references : List Reference) :
    references.flatMap Reference.problems =
      (references.filter fun reference => reference.IsFree).map fun reference =>
        reference.use.problem := by
  induction references with
  | nil => rfl
  | cons first rest ih =>
      rw [List.flatMap_cons, Reference.problems, ih, List.filter_cons]
      by_cases free : first.IsFree <;> simp [free]

/-- The report that a name is bound to nothing. -/
def Use.report : Use → Diagnostic
  | .variable name =>
    { severity := .error
      stage := .semantic
      code := some .undefinedVariable
      message := "undefined variable " ++ Problem.quoted name.text
      span := name.span
      labels := []
      help := none }
  | .routine name =>
    { severity := .error
      stage := .semantic
      code := some .undefinedRoutine
      message := "undefined procedure or function " ++ Problem.quoted name.text
      span := name.span
      labels := []
      help := none }

theorem Use.diagnostic_problem (use : Use) : use.problem.diagnostic = use.report := by
  cases use <;> rfl

/-- The names that the checker looks up are those that the expressions of a program use, one by one,
and each is bound to the nearest declaration of the name that is visible where it stands. The checker
reports data or a routine as undefined once for each use of a name that no visible declaration has,
where the name stands, and for nothing else. -/
theorem names_resolve_lexically (program : Program) :
    (∃ references, references.Perm program.references ∧
      List.Forall₂ (fun (lookup : Lookup) (reference : Reference) =>
          lookup.name = reference.use.name ∧ ∀ binding, lookup.binding? = some binding ↔
            reference.visible.Nearest reference.use.name.text binding)
        program.lookups references) ∧
    (program.diagnostics.filter fun report =>
        report.code == some .undefinedVariable || report.code == some .undefinedRoutine).Perm
      ((program.references.filter fun reference => reference.IsFree).map fun reference =>
        reference.use.report) := by
  constructor
  · have keys := program.lookups_perm
    rw [← List.map_eq_flatMap] at keys
    have same : List.Forall₂ (fun key reference => key = reference.key)
        (program.references.map Reference.key) program.references :=
      List.forall₂_map_left_iff.mpr (List.forall₂_same.mpr fun _ _ => rfl)
    obtain ⟨references, matched, permuted⟩ := List.perm_comp_forall₂ keys same
    refine ⟨references, permuted, (List.forall₂_map_left_iff.mp matched).imp ?_⟩
    intro lookup reference equal
    obtain ⟨name, bound⟩ := Prod.mk.inj equal
    rw [bound]
    exact ⟨name, fun binding => Scope.resolve?_eq_some_iff⟩
  · have worded : Problem.diagnostic ∘ (fun reference : Reference => reference.use.problem) =
        fun reference => reference.use.report :=
      funext fun reference => reference.use.diagnostic_problem
    have reports := program.check_unbound.map Problem.diagnostic
    rw [flatMap_problems, List.map_map, worded] at reports
    rw [Program.diagnostics, List.filter_map]
    exact reports

end RapidLang
