import Mathlib.Data.List.Nodup
import RapidLang.Proofs.Checker.Order
import RapidLang.Proofs.Checker.Resolution
import RapidLang.Proofs.Parser.Arrangement.Names

/-!
# Components of declared records

Whether a component may be selected is decided where it is selected: the record is looked up there, by
the name that is its type. For data of a module this finds the record unless something inside the
routine has its name.
-/

set_option autoImplicit false

namespace RapidLang

open Text

/-! ## Selected components -/

/-- A component that is selected from an expression, and the declarations that are visible there. -/
structure Selection where
  base : Expr
  name : Name
  visible : Scope

/-- What is wrong with the selection, if the type of the expression is known. -/
def Selection.problems (selection : Selection) : List Problem :=
  match (selection.base.check selection.visible).type with
  | none => []
  | some type => (selection.visible.typeOfComponent type selection.name).problems

/-- The selection that a name in an expression stands in. -/
def Mention.selection? (visible : Scope) : Mention → Option Selection
  | .use _ => none
  | .selection base name => some ⟨base, name, visible⟩

/-- The selections in some expressions. -/
def Scope.selections (visible : Scope) (expressions : List Expr) : List Selection :=
  (expressions.flatMap Expr.mentions).filterMap (Mention.selection? visible)

/-- The selections in a declaration, where some declarations are visible around it. -/
def Decl.selections (visible : Scope) : Decl → List Selection
  | .data item _ => visible.selections item.initial.toList
  | .proc _ parameters body _ | .func _ _ parameters body _ =>
    (Stmt.sites (visible.enter (parameters.map Parameter.binding)) body).flatMap fun site =>
      site.visible.selections site.statement.expressions
  | .record _ _ _ => []
  | .trap _ body _ =>
    (Stmt.sites (visible.enter []) body).flatMap fun site =>
      site.visible.selections site.statement.expressions

/-- The declarations that are visible in all of a module. -/
def Module.visible (content : Module) : Scope :=
  ⟨content.declarations.map Decl.binding, [builtinBindings]⟩

/-- The selections in a program. -/
def Program.selections (program : Program) : List Selection :=
  program.modules.flatMap fun content =>
    content.declarations.flatMap (Decl.selections content.visible)

/-! ## Problems with components -/

/-- Is the code that of a problem with a selected component? -/
def Code.isComponent : Code → Bool
  | .notARecord | .unknownField => true
  | _ => false

section Problems

variable {scope visible : Scope}

theorem withCode_isComponent_problems (mention : Mention) :
    withCode Code.isComponent (mention.problems scope) =
      (mention.selection? scope).toList.flatMap Selection.problems := by
  cases mention with
  | use used =>
      apply withCode_eq_nil
      intro problem member
      rw [eq_of_mem_problems member]
      cases used <;> rfl
  | selection base name =>
      rw [Mention.selection?, Option.toList_some, List.flatMap_singleton]
      apply withCode_eq_self
      intro problem member
      rw [Mention.problems] at member
      split at member
      · cases member
      · rcases of_mem_typeOfComponent member with rfl | rfl <;> rfl

theorem withCode_isComponent_problemsIn (expressions : List Expr) :
    (withCode Code.isComponent (scope.problemsIn expressions)).Perm
      ((scope.selections expressions).flatMap Selection.problems) := by
  rw [Scope.selections, List.filterMap_eq_flatMap_toList, List.flatMap_assoc]
  simp only [← withCode_isComponent_problems]
  exact withCode_problemsIn expressions

theorem Scope.Alike.component_problems (alike : scope.Alike visible) (routine : RoutineKind)
    (parameters : List Parameter) (body : List Stmt) :
    (withCode Code.isComponent (scope.checkRoutine routine parameters body)).Perm
      (((Stmt.sites (visible.enter (parameters.map Parameter.binding)) body).flatMap fun site =>
        site.visible.selections site.statement.expressions).flatMap Selection.problems) := by
  rw [Scope.withCode_checkRoutine rfl, List.flatMap_assoc]
  apply (Stmt.walk_withCode Code.isComponent routine).perm_sites _ (alike.ofRoutine parameters)
  intro scope visible alike statement
  apply (Stmt.withCode_ownCheck_of_inside _ statement).trans
  · rw [alike.problemsIn]
    exact withCode_isComponent_problemsIn statement.expressions
  · rintro ⟨⟩ kept <;> first | rfl | cases kept

theorem Decl.component_problems (alike : scope.Alike visible) (declaration : Decl) :
    (withCode Code.isComponent (declaration.check scope)).Perm
      ((declaration.selections visible).flatMap Selection.problems) := by
  cases declaration with
  | data item =>
      rw [Decl.check, Expr.checkOptional_eq, alike.problemsIn]
      exact withCode_isComponent_problemsIn item.initial.toList
  | proc name parameters body => exact alike.component_problems .proc parameters body
  | func type name parameters body =>
      rw [Decl.withCode_check_func rfl]
      exact alike.component_problems _ parameters body
  | record => exact .nil
  | trap name body => exact alike.component_problems .trap [] body

end Problems

/-- The problems with components in a program are those of its selections. -/
theorem Program.component_problems (program : Program) :
    (withCode Code.isComponent program.check).Perm
      (program.selections.flatMap Selection.problems) := by
  rw [check, withCode_flatMap, selections, List.flatMap_assoc]
  refine .flatMap_left _ fun content _ => ?_
  rw [Module.withCode_check_inside rfl rfl, List.flatMap_assoc]
  exact .flatMap_left _ fun declaration _ => declaration.component_problems content.alike_visible

/-! ## What is visible at a selection -/

/-- Nothing that is declared inside the outer scope has the name. -/
def Scope.IsFreeInside (outer visible : Scope) (name : String) : Prop :=
  ∃ inner, visible.innermost :: visible.enclosing = inner ++ outer.innermost :: outer.enclosing ∧
    ∀ table ∈ inner, ∀ binding ∈ table, binding.name ≠ name

section Visible

variable {outer visible : Scope} {inner : List Table} {name : String}

theorem Scope.IsFreeInside.resolve? (free : outer.IsFreeInside visible name) :
    visible.resolve? name = outer.resolve? name := by
  obtain ⟨inner, split, absent⟩ := free
  have missed : inner.findSome? (fun table => table.find? name) = none :=
    List.findSome?_eq_none_iff.mpr fun table member => Table.find?_eq_none.mpr (absent table member)
  rw [Scope.resolve?, split, List.findSome?_append, missed, Option.none_or]
  rfl

/-- Something inside that has the name hides what is outside. -/
theorem Scope.resolve?_of_inside
    (split : visible.innermost :: visible.enclosing = inner ++ outer.innermost :: outer.enclosing)
    (taken : ¬outer.IsFreeInside visible name) :
    ∃ table ∈ inner, ∃ binding ∈ table, visible.resolve? name = some binding := by
  cases found : inner.findSome? (fun table => table.find? name) with
  | none =>
      rw [List.findSome?_eq_none_iff] at found
      exact absurd ⟨inner, split, fun table member => Table.find?_eq_none.mp (found table member)⟩ taken
  | some binding =>
      obtain ⟨table, member, held⟩ := List.exists_of_findSome?_eq_some found
      refine ⟨table, member, binding, List.mem_of_find?_eq_some held, ?_⟩
      rw [Scope.resolve?, split, List.findSome?_append, found]
      rfl

/-- What is declared inside the outer scope are no records. -/
def Scope.IsPlainInside (outer visible : Scope) : Prop :=
  ∃ inner, visible.innermost :: visible.enclosing = inner ++ outer.innermost :: outer.enclosing ∧
    ∀ table ∈ inner, ∀ binding ∈ table, binding.isRecord = false

/-- Parameters, data and counters are no records. -/
theorem Stmt.plain_of_mem_sites (outer : Scope) {bindings : List Binding}
    (plain : ∀ binding ∈ bindings, binding.isRecord = false) (body : List Stmt) :
    ∀ site ∈ Stmt.sites (outer.enter bindings) body, outer.IsPlainInside site.visible := by
  have every : ∀ site ∈ Stmt.sites (outer.enter bindings) body, ∃ between,
      site.visible.enclosing = between ++ outer.innermost :: outer.enclosing ∧
        ∀ table ∈ site.visible.innermost :: between, ∀ binding ∈ table,
          binding.isRecord = false := by
    apply Stmt.sites_kept _ fun visible => ∃ between,
      visible.enclosing = between ++ outer.innermost :: outer.enclosing ∧
        ∀ table ∈ visible.innermost :: between, ∀ binding ∈ table, binding.isRecord = false
    · rintro scope ⟨counter, _⟩ ⟨between, split, plain⟩
      refine ⟨scope.innermost :: between, congrArg _ split, List.forall_mem_cons.mpr ⟨?_, plain⟩⟩
      cases counter with
      | none => exact fun _ member => absurd member List.not_mem_nil
      | some counter => exact List.forall_mem_singleton.mpr rfl
    · rintro scope statement ⟨between, split, plain⟩
      rw [List.forall_mem_cons] at plain
      refine ⟨between, split, List.forall_mem_cons.mpr ⟨?_, plain.2⟩⟩
      refine List.forall_mem_append.mpr ⟨plain.1, ?_⟩
      rw [Stmt.declared]
      cases statement.item? with
      | none => exact fun _ member => absurd member List.not_mem_nil
      | some item => exact List.forall_mem_singleton.mpr rfl
    · exact ⟨[], rfl, List.forall_mem_singleton.mpr plain⟩
  intro site member
  obtain ⟨between, split, plain⟩ := every site member
  exact ⟨site.visible.innermost :: between, congrArg _ split, plain⟩

theorem Decl.plain_of_mem_selections {declaration : Decl} {selection : Selection}
    (member : selection ∈ declaration.selections outer) : outer.IsPlainInside selection.visible := by
  have here : ∀ {visible : Scope} {expressions : List Expr},
      selection ∈ visible.selections expressions → selection.visible = visible := by
    intro visible expressions member
    obtain ⟨mention, _, found⟩ := List.mem_filterMap.mp member
    cases mention with
    | use => cases found
    | selection => cases found; rfl
  have parameters : ∀ parameters : List Parameter, ∀ binding ∈ parameters.map Parameter.binding,
      binding.isRecord = false :=
    fun parameters => List.forall_mem_map.mpr fun _ _ => rfl
  cases declaration with
  | data item =>
      rw [here member]
      exact ⟨[], rfl, fun _ member => absurd member List.not_mem_nil⟩
  | proc name list body | func type name list body =>
      obtain ⟨site, inside, member⟩ := List.mem_flatMap.mp member
      rw [here member]
      exact Stmt.plain_of_mem_sites outer (parameters list) body site inside
  | record => cases member
  | trap name body =>
      obtain ⟨site, inside, member⟩ := List.mem_flatMap.mp member
      rw [here member]
      exact Stmt.plain_of_mem_sites outer (parameters []) body site inside

end Visible

/-! ## Reports on selections -/

theorem Selection.span_of_mem_problems {selection : Selection} {problem : Problem}
    (member : problem ∈ selection.problems) : problem.span = selection.name.span := by
  unfold Selection.problems at member
  split at member
  · cases member
  · rcases of_mem_typeOfComponent member with rfl | rfl <;> rfl

theorem Program.selections_sublist (program : Program) :
    (program.selections.map fun selection => selection.name.span).Sublist program.marks := by
  have here : ∀ (visible : Scope) (expressions : List Expr),
      ((visible.selections expressions).map fun selection => selection.name.span).Sublist
        (expressions.flatMap Expr.marks) := by
    intro visible expressions
    have marks : expressions.flatMap Expr.marks =
        (expressions.flatMap Expr.mentions).flatMap fun mention => [mention.span] := by
      rw [← List.map_eq_flatMap, List.map_flatMap]
      rfl
    rw [marks, Scope.selections, List.filterMap_eq_flatMap_toList, List.map_flatMap]
    refine .flatMap_right _ fun mention _ => ?_
    cases mention with
    | use => exact List.nil_sublist _
    | selection => exact .refl _
  have inside : ∀ (visible : Scope) (body : List Stmt),
      (((Stmt.sites visible body).flatMap fun site =>
          site.visible.selections site.statement.expressions).map
        fun selection => selection.name.span).Sublist ((Stmt.all body).flatMap Stmt.marks) := by
    intro visible body
    rw [← Stmt.statements_sites visible, List.flatMap_map, List.map_flatMap]
    exact .flatMap_right _ fun site _ => here _ _
  have declaration : ∀ (visible : Scope) (declaration : Decl),
      ((declaration.selections visible).map fun selection => selection.name.span).Sublist
        declaration.marks := by
    intro visible declaration
    cases declaration with
    | data item => exact here _ _
    | proc _ _ body | func _ _ _ body | trap _ body => exact inside _ body
    | record => exact List.nil_sublist _
  rw [selections, marks, List.map_flatMap]
  refine .flatMap_right _ fun content _ => ?_
  rw [List.map_flatMap]
  exact .flatMap_right _ fun _ _ => declaration _ _

/-- In a program that is parsed, a selection is known by the place of its name. -/
theorem Program.selection_eq {source : String} {program : Program}
    (parsed : (Parsed.ofString source).program = some program) {first second : Selection}
    (member : first ∈ program.selections) (member' : second ∈ program.selections)
    (same : first.name.span = second.name.span) : first = second := by
  have accepted := Parser.ofTokens_of_parsed parsed
  obtain ⟨nested, _⟩ := Parser.nested_of_ok accepted
  obtain ⟨filled, apart⟩ := program.marks_apart nested (Parser.placed_of_ok accepted)
  have different : program.marks.Nodup := apart.imp_of_mem
    fun listed _ apart => apart.ne (filled _ listed)
  exact List.inj_on_of_nodup_map (different.sublist program.selections_sublist) member member' same

section Reports

variable {program : Program} {selection : Selection}

theorem Program.mem_component_problems {problem : Problem} :
    problem ∈ program.check ∧ problem.code.isComponent = true ↔
      ∃ selection ∈ program.selections, problem ∈ selection.problems := by
  rw [← List.mem_flatMap, ← program.component_problems.mem_iff, withCode, List.mem_filter]

/-- Nothing is reported of the component. -/
def Selection.Accepted (program : Program) (selection : Selection) : Prop :=
  ∀ report ∈ program.diagnostics, report.span = selection.name.span →
    report.code ≠ some .notARecord ∧ report.code ≠ some .unknownField

instance : Decidable (selection.Accepted program) :=
  inferInstanceAs (Decidable (∀ report ∈ program.diagnostics, report.span = selection.name.span →
    report.code ≠ some .notARecord ∧ report.code ≠ some .unknownField))

/-- A component is reported if and only if there is a problem with its selection. -/
theorem Selection.accepted_iff {source : String}
    (parsed : (Parsed.ofString source).program = some program)
    (member : selection ∈ program.selections) :
    selection.Accepted program ↔ selection.problems = [] := by
  constructor
  · intro accepted
    apply List.eq_nil_iff_forall_not_mem.mpr
    intro problem found
    obtain ⟨checked, code⟩ := Program.mem_component_problems.mpr ⟨selection, member, found⟩
    obtain ⟨record, field⟩ := accepted _ (List.mem_map_of_mem checked) (span_of_mem_problems found)
    cases problem with
    | notARecord => exact record rfl
    | unknownComponent => exact field rfl
    | _ => cases code
  · intro silent report reported span
    obtain ⟨problem, checked, rfl⟩ := List.mem_map.mp reported
    have other : problem.code.isComponent = false := by
      by_contra kept
      -- Another selection with a problem at this place would be the same one.
      obtain ⟨found, member', inside⟩ :=
        Program.mem_component_problems.mp ⟨checked, Bool.eq_true_of_not_eq_false kept⟩
      have same := Program.selection_eq parsed member' member
        ((span_of_mem_problems inside).symm.trans span)
      rw [same, silent] at inside
      cases inside
    constructor
    all_goals
      intro code
      rw [Option.some.inj code] at other
      cases other

end Reports

/-! ## Records of the module -/

/-- A record with this name and this component is declared. -/
def Decl.HasComponent (record component : String) : Decl → Prop
  | .record name components _ =>
    name.text = record ∧ ∃ entry ∈ components, entry.name.text = component
  | .data _ _ | .proc _ _ _ _ | .func _ _ _ _ _ | .trap _ _ _ => False

instance (record component : String) (declaration : Decl) :
    Decidable (declaration.HasComponent record component) :=
  match declaration with
  | .record name components _ => inferInstanceAs (Decidable
      (name.text = record ∧ ∃ entry ∈ components, entry.name.text = component))
  | .data _ _ | .proc _ _ _ _ | .func _ _ _ _ _ | .trap _ _ _ => .isFalse id

/-- Data with this type are declared. -/
def Decl.HasType (type : String) : Decl → Prop
  | .data item _ => item.type.text = type
  | .proc _ _ _ _ | .func _ _ _ _ _ | .record _ _ _ | .trap _ _ _ => False

instance (type : String) (declaration : Decl) : Decidable (declaration.HasType type) :=
  match declaration with
  | .data item _ => inferInstanceAs (Decidable (item.type.text = type))
  | .proc _ _ _ _ | .func _ _ _ _ _ | .record _ _ _ | .trap _ _ _ => .isFalse id

/-- What the name that a component is selected from is bound to. -/
def Selection.bound? (selection : Selection) : Option Binding :=
  match selection.base with
  | .variable name => selection.visible.resolve? name.text
  | _ => none

/-- A component is selected that a record of the module declares, from data of the module that have
the record as their type. -/
structure Selection.SelectsFrom (content : Module) (record : String) (selection : Selection) :
    Prop where
  /-- The record is not spelled like a built-in type. -/
  plain : builtinType? record = none
  component : ∃ declaration ∈ content.declarations,
    declaration.HasComponent record selection.name.text
  data : ∃ declaration ∈ content.declarations,
    declaration.HasType record ∧ selection.bound? = some declaration.binding

instance (content : Module) (record : String) (selection : Selection) :
    Decidable (selection.SelectsFrom content record) :=
  decidable_of_iff (builtinType? record = none ∧
      (∃ declaration ∈ content.declarations, declaration.HasComponent record selection.name.text) ∧
      ∃ declaration ∈ content.declarations,
        declaration.HasType record ∧ selection.bound? = some declaration.binding)
    ⟨fun ⟨plain, component, data⟩ => ⟨plain, component, data⟩,
      fun ⟨plain, component, data⟩ => ⟨plain, component, data⟩⟩

section Types

variable {scope : Scope} {type : String} {component : Name} (plain : builtinType? type = none)

include plain

theorem typeOfComponent_of_record {components : List Component} {binding : Binding}
    (found : scope.resolve? type = some binding) (record : binding.origin = .record components)
    (declared : ∃ entry ∈ components, entry.name.text = component.text) :
    (scope.typeOfComponent type component).problems = [] := by
  have foreign : builtinComponents? type = none := by rw [builtinComponents?, plain]; rfl
  obtain ⟨entry, member, same⟩ := declared
  have known : (components.find? fun entry => entry.name.text == component.text).isSome :=
    List.find?_isSome.mpr ⟨entry, member, beq_iff_eq.mpr same⟩
  obtain ⟨first, known⟩ := Option.isSome_iff_exists.mp known
  simp [Scope.typeOfComponent, foreign, found, record, known, Typing.known]

theorem typeOfComponent_of_other {binding : Binding} (found : scope.resolve? type = some binding)
    (other : binding.isRecord = false) :
    (scope.typeOfComponent type component).problems = [.notARecord type component] := by
  have foreign : builtinComponents? type = none := by rw [builtinComponents?, plain]; rfl
  unfold Scope.typeOfComponent
  rw [foreign, found, Option.map_some]
  unfold Binding.isRecord at other
  cases origin : binding.origin with
  | record => rw [origin] at other; cases other
  | _ => rfl

/-- The component is looked up in what has the name of the type, wherever the data are declared. -/
theorem Selection.problems_of_hasType {selection : Selection} {declaration : Decl}
    (typed : declaration.HasType type) (bound : selection.bound? = some declaration.binding) :
    selection.problems = (selection.visible.typeOfComponent type selection.name).problems := by
  cases declaration with
  | proc | func | record | trap => cases typed
  | data item =>
      unfold Selection.bound? at bound
      split at bound
      next base =>
        have same : item.type.text = type := typed
        have checked : (selection.base.check selection.visible).type = some type := by
          rw [base, Expr.check, bound]
          show some (normalizeType item.type.text) = _
          rw [same, normalizeType, plain]
          rfl
        rw [Selection.problems, checked]
      next => cases bound

end Types

theorem Module.Distinct.resolve? {content : Module} {declaration : Decl}
    (distinct : content.Distinct) (listed : declaration ∈ content.declarations) :
    content.visible.resolve? declaration.name.text = some declaration.binding := by
  have found := Table.find?_of_mem distinct.bindings (List.mem_map_of_mem listed)
  rw [Decl.name_binding] at found
  exact Scope.resolve?_of_findLocal? found

/-- A component that a record of the module declares is accepted, where it is selected from data of
the module that have the record as their type, if and only if nothing that is declared inside the
routine and visible there has the name of the record. -/
theorem component_accepted_iff {source : String} {program : Program} {content : Module}
    {routine : Decl} {selection : Selection} {record : String}
    (parsed : (Parsed.ofString source).program = some program) (inside : content ∈ program.modules)
    (distinct : content.Distinct) (among : routine ∈ content.declarations)
    (selected : selection ∈ routine.selections content.visible)
    (declared : selection.SelectsFrom content record) :
    selection.Accepted program ↔ content.visible.IsFreeInside selection.visible record := by
  obtain ⟨plain, ⟨declaration, listed, component⟩, _, _, typed, bound⟩ := declared
  cases declaration with
  | data | proc | func | trap => cases component
  | record name components span =>
      obtain ⟨rfl, has⟩ := component
      have member : selection ∈ program.selections := List.mem_flatMap.mpr
        ⟨content, inside, List.mem_flatMap.mpr ⟨routine, among, selected⟩⟩
      have whole := distinct.resolve? listed
      rw [Selection.accepted_iff parsed member, Selection.problems_of_hasType plain typed bound]
      constructor
      · intro silent
        by_contra taken
        -- What has the name inside the routine is a parameter, data or a counter.
        obtain ⟨inner, split, others⟩ := Decl.plain_of_mem_selections selected
        obtain ⟨table, held, binding, held', found⟩ := Scope.resolve?_of_inside split taken
        rw [typeOfComponent_of_other plain found (others table held binding held')] at silent
        cases silent
      · intro free
        exact typeOfComponent_of_record plain (free.resolve?.trans whole) rfl has

/-- A procedure that assigns its parameter to a component of data of the module. -/
def assignedComponent : String :=
  "MODULE M RECORD r num f; ENDRECORD VAR r v; PROC p(num x) v.f := x; ENDPROC ENDMODULE"

theorem component_accepted_for_assignedComponent :
    ∃ program, (Parsed.ofString assignedComponent).program = some program ∧
      ∃ selection ∈ program.selections, selection.name = ⟨"f", ⟨⟨1, 61⟩, ⟨1, 62⟩⟩⟩ ∧
        selection.Accepted program := by
  have meets : ((Parsed.ofString assignedComponent).program.any fun program =>
      program.modules.any fun content => decide content.Distinct &&
        content.declarations.any fun routine => (routine.selections content.visible).any
          fun selection => decide (selection.name = ⟨"f", ⟨⟨1, 61⟩, ⟨1, 62⟩⟩⟩)
            && decide (selection.SelectsFrom content "r")
            && decide (selection.visible.enclosing =
              content.visible.innermost :: content.visible.enclosing)
            && decide (∀ binding ∈ selection.visible.innermost, binding.name ≠ "r")) = true := by
    decide +kernel
  obtain ⟨program, parsed, meets⟩ := (Option.any_eq_true _ _).mp meets
  obtain ⟨content, inside, meets⟩ := List.any_eq_true.mp meets
  obtain ⟨distinct, meets⟩ := Bool.and_eq_true_iff.mp meets
  obtain ⟨routine, among, meets⟩ := List.any_eq_true.mp meets
  obtain ⟨selection, selected, meets⟩ := List.any_eq_true.mp meets
  simp only [Bool.and_eq_true, decide_eq_true_eq] at distinct meets
  obtain ⟨⟨⟨name, declared⟩, outside⟩, others⟩ := meets
  have member : selection ∈ program.selections := List.mem_flatMap.mpr
    ⟨content, inside, List.mem_flatMap.mpr ⟨routine, among, selected⟩⟩
  refine ⟨program, parsed, selection, member, name, ?_⟩
  apply (component_accepted_iff parsed inside distinct among selected declared).mpr
  exact ⟨[selection.visible.innermost], congrArg _ outside, List.forall_mem_singleton.mpr others⟩

/-- A procedure whose parameter has the name of a record of the module. -/
def shadowedRecord : String :=
  "MODULE M RECORD r num f; ENDRECORD VAR r v; PROC p(num r) v.f := 1; ENDPROC ENDMODULE"

/-- The component is declared, and the only report is that there is no record. -/
theorem component_of_shadowedRecord :
    ∃ program, (Parsed.ofString shadowedRecord).program = some program ∧
      ∃ content ∈ program.modules, content.Distinct ∧ ∃ routine ∈ content.declarations,
        ∃ selection ∈ routine.selections content.visible, selection.SelectsFrom content "r" ∧
          ¬selection.Accepted program ∧ program.diagnostics.map Diagnostic.message =
            ["`r` is not a record"] := by
  have meets : ((Parsed.ofString shadowedRecord).program.any fun program =>
      decide (∃ content ∈ program.modules, content.Distinct ∧ ∃ routine ∈ content.declarations,
        ∃ selection ∈ routine.selections content.visible, selection.SelectsFrom content "r" ∧
          ¬selection.Accepted program ∧ program.diagnostics.map Diagnostic.message =
            ["`r` is not a record"])) = true := by
    decide +kernel
  obtain ⟨program, parsed, meets⟩ := (Option.any_eq_true _ _).mp meets
  exact ⟨program, parsed, of_decide_eq_true meets⟩

end RapidLang
