import RapidLang.Proofs.Checker.Duplicates
import RapidLang.Proofs.Checker.Sites
import RapidLang.Proofs.Parser.Places.Program
import RapidLang.Proofs.Syntax.Identifiers

/-!
# Where problems stand

A problem is reported at a name, an expression or a statement of the program. Only the report that a
name is declared again points at a second place, that of a name which the program declares. So all
these places fit what the names and the statements of the program fit.
-/

set_option autoImplicit false

namespace RapidLang

open Text

/-! ## The names in tables -/

namespace Identifier

/-- The names that are gathered, whatever they stand for. -/
def names (identifiers : List Identifier) : List Name :=
  identifiers.map Identifier.name

theorem names_append (first second : List Identifier) :
    names (first ++ second) = names first ++ names second :=
  List.map_append

theorem names_subset_flatMap {α : Type} {items : List α} {item : α} (inside : item ∈ items)
    (gather : α → List Identifier) : names (gather item) ⊆ names (items.flatMap gather) :=
  List.map_subset _ fun _ member => List.mem_flatMap.mpr ⟨item, inside, member⟩

end Identifier

open Identifier (names_append names_subset_flatMap)

namespace Stmt

theorem item_subset (statement : Stmt) :
    statement.item?.toList.map DataItem.name ⊆ Identifier.names statement.identifiers := by
  intro name member
  cases statement with
  | data item =>
      cases List.mem_singleton.mp member
      exact List.mem_cons_of_mem _ List.mem_cons_self
  | _ => cases member

theorem counter_subset {statement : Stmt} {nested : NestedBody}
    (inside : nested ∈ statement.bodies) :
    nested.counter.toList ⊆ Identifier.names statement.identifiers := by
  have plain : ∀ lists : List (List Stmt), nested ∈ lists.map .plain →
      nested.counter.toList ⊆ Identifier.names statement.identifiers := by
    intro lists inside
    obtain ⟨_, _, rfl⟩ := List.mem_map.mp inside
    exact List.nil_subset _
  cases statement with
  | «for» counter first last body =>
      cases List.mem_singleton.mp inside
      exact List.cons_subset_cons counter (List.nil_subset _)
  | block body | «while» _ body => exact plain [body] inside
  | conditional | test => exact plain _ inside
  | _ => cases inside

/-- The data that are declared directly among some statements, and all that the tables inside have,
are named in these statements. -/
theorem tables_subset (body : List Stmt) :
    Stmt.names body ⊆ Identifier.names (allIdentifiers body) ∧
      ∀ names ∈ innerTables body, names ⊆ Identifier.names (allIdentifiers body) := by
  induction body using body_induction with
  | nil => simp [Stmt.names, innerTables]
  | cons first rest innerIH restIH =>
      obtain ⟨declared, behind⟩ := restIH
      rw [allIdentifiers_cons, names_append, names_append, innerTables_cons]
      refine ⟨List.append_subset.mpr ⟨?_, ?_⟩, List.forall_mem_append.mpr ⟨?_, ?_⟩⟩
      · exact List.subset_append_of_subset_left _
          (List.subset_append_of_subset_left _ first.item_subset)
      · exact List.subset_append_of_subset_right _ declared
      · intro names member
        obtain ⟨nested, inside, member⟩ := List.mem_flatMap.mp member
        obtain ⟨own, inner⟩ := innerIH nested inside
        have held := names_subset_flatMap inside fun nested => allIdentifiers nested.statements
        apply List.subset_append_of_subset_left
        rcases List.mem_cons.mp member with rfl | deeper
        · exact List.append_subset.mpr
            ⟨List.subset_append_of_subset_left _ (counter_subset inside),
              List.subset_append_of_subset_right _ (List.Subset.trans own held)⟩
        · exact List.subset_append_of_subset_right _
            (List.Subset.trans (inner names deeper) held)
      · exact fun names member => List.subset_append_of_subset_right _ (behind names member)

end Stmt

namespace Decl

variable (declaration : Decl)

theorem name_mem : declaration.name ∈ Identifier.names declaration.identifiers := by
  cases declaration with
  | data | func => exact List.mem_cons_of_mem _ List.mem_cons_self
  | _ => exact List.mem_cons_self

theorem parameters_subset :
    declaration.parameters.map Parameter.name ⊆ Identifier.names declaration.identifiers := by
  have own : ∀ parameters : List Parameter, parameters.map Parameter.name ⊆
      Identifier.names (parameters.flatMap Parameter.identifiers) := by
    intro parameters name member
    obtain ⟨parameter, inside, rfl⟩ := List.mem_map.mp member
    exact names_subset_flatMap inside Parameter.identifiers
      (List.mem_cons_of_mem _ List.mem_cons_self)
  cases declaration with
  | proc name parameters body =>
      rw [identifiers, names_append]
      exact List.subset_append_of_subset_left _ (List.subset_cons_of_subset _ (own parameters))
  | func type name parameters body =>
      rw [identifiers, names_append]
      exact List.subset_append_of_subset_left _
        (List.subset_cons_of_subset _ (List.subset_cons_of_subset _ (own parameters)))
  | _ => exact List.nil_subset _

theorem body_subset :
    Identifier.names (Stmt.allIdentifiers declaration.body) ⊆
      Identifier.names declaration.identifiers := by
  apply List.map_subset
  cases declaration with
  | data | record =>
      rw [body, Stmt.allIdentifiers_nil]
      exact List.nil_subset _
  | proc | func => exact List.subset_append_right _ _
  | trap => exact List.subset_cons_self _ _

theorem tables_subset :
    ∀ names ∈ declaration.tables, names ⊆ Identifier.names declaration.identifiers := by
  have parameters := declaration.parameters_subset
  have body := declaration.body_subset
  obtain ⟨declared, inner⟩ := Stmt.tables_subset declaration.body
  replace declared := List.Subset.trans declared body
  replace inner := fun names member => List.Subset.trans (inner names member) body
  cases declaration with
  | data | record => exact fun _ member => absurd member List.not_mem_nil
  | proc | func =>
      exact List.forall_mem_cons.mpr ⟨List.append_subset.mpr ⟨parameters, declared⟩, inner⟩
  | trap => exact List.forall_mem_cons.mpr ⟨declared, inner⟩

end Decl

/-- All names in the tables of a program are named in the program. -/
theorem Program.tables_subset (program : Program) :
    ∀ names ∈ program.tables, names ⊆ Identifier.names program.identifiers := by
  intro names member
  obtain ⟨content, held, member⟩ := List.mem_flatMap.mp member
  apply List.Subset.trans _ (names_subset_flatMap held Module.identifiers)
  have declared : ∀ declaration ∈ content.declarations,
      Identifier.names declaration.identifiers ⊆ Identifier.names content.identifiers :=
    fun declaration inside =>
      List.subset_cons_of_subset _ (names_subset_flatMap inside Decl.identifiers)
  rcases List.mem_cons.mp member with rfl | inner
  · intro name own
    obtain ⟨declaration, inside, rfl⟩ := List.mem_map.mp own
    exact declared declaration inside declaration.name_mem
  · obtain ⟨declaration, inside, table⟩ := List.mem_flatMap.mp inner
    exact List.Subset.trans (declaration.tables_subset names table) (declared declaration inside)

/-! ## The places of problems -/

/-- The spans of the names and of the statements in a program fit. -/
structure Program.Fits (fits : Span → Prop) (program : Program) : Prop where
  names : ∀ name ∈ Identifier.names program.identifiers, fits name.span
  statements : ∀ content ∈ program.modules, ∀ declaration ∈ content.declarations,
    ∀ part ∈ Stmt.all declaration.body, part.Fits fits

section Places

variable {fits : Span → Prop} {routine : RoutineKind} {scope : Scope} {problem : Problem}

/-- What is wrong with a name in an expression is reported at this name. -/
theorem Mention.span_of_mem_problems {mention : Mention}
    (member : problem ∈ mention.problems scope) : problem.span = mention.identifier.name.span := by
  rcases of_mem_problems member with ⟨used, rfl, rfl⟩ | ⟨_, _, _, rfl, rfl | rfl⟩
  · cases used <;> rfl
  · rfl
  · rfl

theorem Scope.fits_of_mem_problemsIn {expressions : List Expr}
    (names : ∀ name ∈ Identifier.names (expressions.flatMap Expr.identifiers), fits name.span)
    (member : problem ∈ scope.problemsIn expressions) : fits problem.span := by
  obtain ⟨mention, inside, member⟩ :=
    List.mem_flatMap.mp ((Scope.problemsIn_perm expressions).mem_iff.mp member)
  obtain ⟨expression, held, inside⟩ := List.mem_flatMap.mp inside
  rw [Mention.span_of_mem_problems member]
  apply names
  exact names_subset_flatMap held Expr.identifiers
    (List.mem_map_of_mem (List.mem_map_of_mem inside))

theorem Scope.fits_of_mem_declareAll {declared : List (Name × Binding)}
    (names : ∀ name ∈ declared.map Prod.fst, fits name.span)
    (member : problem ∈ (scope.declareAll declared).2) : fits problem.span := by
  obtain ⟨name, inside, _, rfl⟩ := of_mem_declareAll member
  exact names name inside

namespace Stmt

/-- What is wrong with a statement itself is reported at the statement, at an expression in it or at
a name of its head. -/
theorem fits_of_mem_misuses {statement : Stmt} (fit : statement.Fits fits)
    (names : ∀ name ∈ Identifier.names statement.headIdentifiers, fits name.span)
    (member : problem ∈ statement.misuses routine scope) : fits problem.span := by
  have expressions := fit.expressions
  cases statement with
  | assign target value span =>
      cases List.mem_append.mp member with
      | inl member =>
          obtain ⟨_, _, rfl, rfl⟩ := of_mem_checkTarget member
          exact expressions _ List.mem_cons_self
      | inr member =>
          obtain ⟨_, _, rfl⟩ := of_mem_mismatch member
          exact fit.span
  | conditional branches =>
      obtain ⟨branch, inside, member⟩ := List.mem_flatMap.mp member
      obtain ⟨_, rfl⟩ := of_mem_wrongCondition member
      exact expressions _ (List.mem_map_of_mem inside)
  | «while» condition =>
      obtain ⟨_, rfl⟩ := of_mem_wrongCondition member
      exact expressions _ List.mem_cons_self
  | «return» value span =>
      cases value with
      | none => cases member
      | some value =>
          cases routine with
          | proc | trap =>
              rw [List.mem_singleton.mp member]
              exact fit.span
          | func type =>
              obtain ⟨_, _, rfl⟩ := of_mem_mismatch member
              exact expressions _ List.mem_cons_self
  | test subject arms =>
      obtain ⟨arm, inside, member⟩ := List.mem_flatMap.mp member
      obtain ⟨value, held, member⟩ := List.mem_flatMap.mp member
      obtain ⟨_, _, rfl⟩ := of_mem_mismatch member
      exact expressions _ (List.mem_cons_of_mem _ (List.mem_flatMap.mpr ⟨arm, inside, held⟩))
  | connect trap =>
      obtain ⟨_, rfl⟩ := of_mem_checkTrap member
      exact names _ List.mem_cons_self
  | data item =>
      cases List.mem_append.mp member with
      | inl member =>
          rw [of_mem_checkType member]
          exact names _ List.mem_cons_self
      | inr member =>
          obtain ⟨_, rfl⟩ := of_mem_declare member
          exact names _ (List.mem_cons_of_mem _ List.mem_cons_self)
  | block | expression | «for» | move | raise => cases member

/-- A problem in a body is one of a statement in it, outside the bodies nested there. -/
theorem exists_of_mem_checkBody {body : List Stmt}
    (member : problem ∈ Stmt.checkBody routine scope body) :
    ∃ part ∈ all body, ∃ visible, problem ∈ part.ownCheck routine visible := by
  have gathered : (Stmt.checkBody routine scope body).Perm
      ((sites scope body).flatMap fun site => site.statement.ownCheck routine site.visible) := by
    apply (walk_checkBody routine).perm_sites _ (.refl scope)
    intro scope visible alike statement
    rw [ownCheck_congr alike statement]
  obtain ⟨site, inside, own⟩ := List.mem_flatMap.mp (gathered.mem_iff.mp member)
  refine ⟨site.statement, ?_, site.visible, own⟩
  rw [← statements_sites scope body]
  exact List.mem_map_of_mem inside

theorem fits_of_mem_checkBody {body : List Stmt} (fit : ∀ part ∈ all body, part.Fits fits)
    (names : ∀ name ∈ Identifier.names (allIdentifiers body), fits name.span)
    (member : problem ∈ Stmt.checkBody routine scope body) : fits problem.span := by
  obtain ⟨part, inside, visible, own⟩ := exists_of_mem_checkBody member
  have held : ∀ name ∈ Identifier.names part.identifiers, fits name.span :=
    fun name member => names name (names_subset_flatMap inside identifiers member)
  rw [identifiers, names_append, List.forall_mem_append] at held
  rcases List.mem_append.mp ((ownCheck_perm routine visible part).mem_iff.mp own) with own | own
  · exact Scope.fits_of_mem_problemsIn held.2 own
  · exact fits_of_mem_misuses (fit part inside) held.1 own

end Stmt

theorem Decl.fits_of_mem_check {declaration : Decl}
    (fit : ∀ part ∈ Stmt.all declaration.body, part.Fits fits)
    (names : ∀ name ∈ Identifier.names declaration.identifiers, fits name.span)
    (member : problem ∈ declaration.check scope) : fits problem.span := by
  have own := names _ declaration.name_mem
  have parameters := fun name member => names name (declaration.parameters_subset member)
  have inside := fun name member => names name (declaration.body_subset member)
  have routine : ∀ routine : RoutineKind,
      problem ∈ scope.checkRoutine routine declaration.parameters declaration.body →
        fits problem.span := by
    intro routine member
    rw [Scope.checkRoutine_eq] at member
    rcases List.mem_append.mp member with member | member
    · apply Scope.fits_of_mem_declareAll _ member
      rwa [List.map_map]
    · exact Stmt.fits_of_mem_checkBody fit inside member
  cases declaration with
  | data item =>
      rw [Decl.check, Expr.checkOptional_eq] at member
      rw [identifiers, names_append, List.forall_mem_append] at names
      exact Scope.fits_of_mem_problemsIn names.2 member
  | proc => exact routine .proc member
  | func type name =>
      rcases List.mem_append.mp member with member | member
      · exact routine _ member
      · split at member
        · cases member
        · rw [List.mem_singleton.mp member]
          exact own
  | record => cases member
  | trap => exact routine .trap member

theorem Module.fits_of_mem_check {content : Module}
    (fit : ∀ declaration ∈ content.declarations,
      ∀ part ∈ Stmt.all declaration.body, part.Fits fits)
    (names : ∀ name ∈ Identifier.names content.identifiers, fits name.span)
    (member : problem ∈ content.check) : fits problem.span := by
  have held : ∀ declaration ∈ content.declarations,
      ∀ name ∈ Identifier.names declaration.identifiers, fits name.span :=
    fun declaration inside name member => names name
      (List.mem_cons_of_mem _ (names_subset_flatMap inside Decl.identifiers member))
  rw [Module.check_eq] at member
  rcases List.mem_append.mp member with member | member
  · rcases List.mem_append.mp member with member | member
    · apply Scope.fits_of_mem_declareAll _ member
      rw [List.map_map]
      exact List.forall_mem_map.mpr fun declaration inside =>
        held declaration inside _ declaration.name_mem
    · obtain ⟨declaration, inside, member⟩ := List.mem_flatMap.mp member
      cases declaration with
      | data item =>
          rw [of_mem_checkType member]
          exact held _ inside _ List.mem_cons_self
      | _ => cases member
  · obtain ⟨declaration, inside, member⟩ := List.mem_flatMap.mp member
    exact Decl.fits_of_mem_check (fit declaration inside) (held declaration inside) member

/-- Every problem of a program is reported at a place that fits. -/
theorem Program.fits_of_mem_check {program : Program} (fit : program.Fits fits)
    (member : problem ∈ program.check) : fits problem.span := by
  obtain ⟨content, inside, member⟩ := List.mem_flatMap.mp member
  exact Module.fits_of_mem_check (fit.statements content inside)
    (fun name held => fit.names name (names_subset_flatMap inside Module.identifiers held)) member

/-! ## Second places -/

theorem Problem.labels_eq_nil (other : problem.code ≠ .duplicateDefinition) :
    problem.labels = [] := by
  cases problem with
  | alreadyDefined => exact absurd rfl other
  | _ => rfl

/-- The report that a name is declared again points at the first declaration, which has the same
text; both are names of the program. -/
theorem Program.repeated_of_mem_check {program : Program} (member : problem ∈ program.check)
    (code : problem.code = .duplicateDefinition) :
    ∃ later ∈ Identifier.names program.identifiers,
      ∃ first ∈ Identifier.names program.identifiers,
        first.text = later.text ∧ problem = repeatedProblem (later, first) := by
  have found : problem ∈ withCode Code.isRepeated program.check :=
    List.mem_filter.mpr ⟨member, by rw [code]; rfl⟩
  obtain ⟨⟨later, first⟩, pair, rfl⟩ :=
    List.mem_map.mp (program.check_repeated.mem_iff.mp found)
  obtain ⟨names, table, pair⟩ := List.mem_flatMap.mp pair
  obtain ⟨front, middle, back, split, same, _⟩ := mem_repeated.mp pair
  have named := program.tables_subset names table
  rw [split] at named
  exact ⟨later, named (by simp), first, named (by simp), same, rfl⟩

end Places

end RapidLang
