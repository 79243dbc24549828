import RapidLang.Proofs.Checker.Walk

/-!
# What the checker does not depend on

A module is checked as if it were alone. If its declarations have different names, their order makes
no difference to the problems that are found: the table of the module binds every name as before,
and every declaration is checked in a scope that binds alike.
-/

set_option autoImplicit false

namespace RapidLang

/-! ## Tables in another order -/

/-- The bindings have different names. -/
def Table.Distinct (table : Table) : Prop :=
  (table.map Binding.name).Nodup

theorem Table.find?_of_mem {table : Table} (distinct : table.Distinct) {binding : Binding}
    (member : binding ∈ table) : table.find? binding.name = some binding := by
  induction table with
  | nil => cases member
  | cons first rest ih =>
      obtain ⟨apart, distinct⟩ := List.nodup_cons.mp distinct
      rw [find?, List.find?_cons]
      cases List.mem_cons.mp member with
      | inl own => simp [own]
      | inr behind =>
          have other : first.name ≠ binding.name := fun same =>
            apart (same ▸ List.mem_map_of_mem behind)
          rw [beq_eq_false_iff_ne.mpr other]
          exact ih distinct behind

theorem Table.find?_eq_some_iff {table : Table} (distinct : table.Distinct) {name : String}
    {binding : Binding} :
    table.find? name = some binding ↔ binding ∈ table ∧ binding.name = name := by
  constructor
  · intro found
    exact ⟨List.mem_of_find?_eq_some found, by simpa using List.find?_some found⟩
  · rintro ⟨member, rfl⟩
    exact find?_of_mem distinct member

/-- Bindings with different names are found in any order. -/
theorem Table.find?_perm {table other : Table} (distinct : table.Distinct)
    (permuted : table.Perm other) (name : String) : table.find? name = other.find? name := by
  have distinct' : other.Distinct := (permuted.map Binding.name).nodup distinct
  apply Option.ext
  intro binding
  rw [find?_eq_some_iff distinct, find?_eq_some_iff distinct', permuted.mem_iff]

namespace Scope

variable {scope other : Scope}

theorem alike_extend_perm (scope : Scope) {bindings others : List Binding}
    (distinct : Table.Distinct bindings) (permuted : bindings.Perm others) :
    (scope.extend bindings).Alike (scope.extend others) := by
  constructor
  · intro name
    rw [findLocal?_extend, findLocal?_extend, Table.find?_perm distinct permuted]
  · intro name
    rw [resolve?_extend, resolve?_extend, Table.find?_perm distinct permuted]

/-- Nothing is defined twice where all names are different, and new. -/
theorem declareAll_eq_nil {declared : List (Name × Binding)}
    (distinct : Table.Distinct (declared.map Prod.snd))
    (free : ∀ entry ∈ declared, scope.findLocal? entry.2.name = none) :
    (scope.declareAll declared).2 = [] := by
  induction declared generalizing scope with
  | nil => rfl
  | cons first rest ih =>
      obtain ⟨name, binding⟩ := first
      obtain ⟨apart, distinct⟩ := List.nodup_cons.mp distinct
      obtain ⟨here, behind⟩ := List.forall_mem_cons.mp free
      have alone : scope.declare name binding = (scope.extend [binding], []) := by
        rw [declare, define?, here]
        rfl
      have free' : ∀ entry ∈ rest, (scope.extend [binding]).findLocal? entry.2.name = none := by
        intro entry member
        have other : binding.name ≠ entry.2.name := fun same =>
          apart (same ▸ List.mem_map_of_mem (List.mem_map_of_mem member))
        rw [findLocal?_extend, behind entry member]
        simp [Table.find?, other]
      rw [declareAll, alone]
      exact ih distinct free'

end Scope

/-! ## Declarations -/

section Alike

variable {scope other : Scope}

theorem Scope.Alike.checkRoutine (alike : scope.Alike other) (routine : RoutineKind)
    (parameters : List Parameter) (body : List Stmt) :
    (scope.checkRoutine routine parameters body).Perm
      (other.checkRoutine routine parameters body) := by
  obtain ⟨inner, same⟩ := (alike.enter []).declareAll
    (parameters.map fun parameter => (parameter.name, parameter.binding))
  exact (List.Perm.of_eq same).append (Stmt.checkBody_perm inner body)

theorem Decl.checkType_congr (alike : scope.Alike other) (declaration : Decl) :
    declaration.checkType scope = declaration.checkType other := by
  cases declaration with
  | data item => exact alike.checkType item.type
  | _ => rfl

theorem Decl.check_perm (alike : scope.Alike other) (declaration : Decl) :
    (declaration.check scope).Perm (declaration.check other) := by
  cases declaration with
  | data item => exact .of_eq (alike.checkOptional item.initial)
  | proc _ parameters body => exact alike.checkRoutine .proc parameters body
  | func type _ parameters body => exact (alike.checkRoutine _ parameters body).append_right _
  | record => exact .refl _
  | trap _ body => exact alike.checkRoutine .trap [] body

end Alike

/-- The names that a module declares are different. -/
def Module.Distinct (content : Module) : Prop :=
  (content.declarations.map fun declaration => declaration.name.text).Nodup

instance (content : Module) : Decidable content.Distinct :=
  inferInstanceAs (Decidable (List.Nodup _))

theorem Decl.name_binding (declaration : Decl) :
    declaration.binding.name = declaration.name.text := by
  cases declaration <;> rfl

/-- The bindings of a module whose names are different. -/
theorem Module.Distinct.bindings {content : Module} (distinct : content.Distinct) :
    Table.Distinct (content.declarations.map Decl.binding) := by
  unfold Table.Distinct
  rw [List.map_map]
  have names : Binding.name ∘ Decl.binding = fun declaration => declaration.name.text :=
    funext Decl.name_binding
  rwa [names]

namespace Module

variable {content other : Module}

theorem Distinct.perm (distinct : content.Distinct)
    (permuted : content.declarations.Perm other.declarations) : other.Distinct :=
  (permuted.map fun declaration : Decl => declaration.name.text).nodup distinct

/-- Nothing is defined twice in a module whose names are different. -/
theorem Distinct.declareAll_eq_nil (distinct : content.Distinct) :
    (Scope.builtin.push.declareAll
      (content.declarations.map fun declaration => (declaration.name, declaration.binding))).2 =
        [] := by
  have bindings : Table.Distinct ((content.declarations.map fun declaration =>
      (declaration.name, declaration.binding)).map Prod.snd) := by
    rw [List.map_map]
    exact distinct.bindings
  exact Scope.declareAll_eq_nil bindings fun _ _ => rfl

theorem Distinct.scope_alike (distinct : content.Distinct)
    (permuted : content.declarations.Perm other.declarations) : content.scope.Alike other.scope := by
  have same := Scope.builtin.push.alike_extend_perm distinct.bindings (permuted.map Decl.binding)
  exact (content.scope_alike.trans same).trans other.scope_alike.symm

/-- If the names of a module are different, the order of its declarations makes no difference. -/
theorem Distinct.check_perm (distinct : content.Distinct)
    (permuted : content.declarations.Perm other.declarations) :
    content.check.Perm other.check := by
  have alike := distinct.scope_alike permuted
  have types : (content.declarations.flatMap (Decl.checkType content.scope)).Perm
      (other.declarations.flatMap (Decl.checkType other.scope)) := by
    rw [funext (Decl.checkType_congr alike)]
    exact permuted.flatMap_right _
  have inside : (content.declarations.flatMap (Decl.check content.scope)).Perm
      (other.declarations.flatMap (Decl.check other.scope)) :=
    (List.Perm.flatMap_left _ fun declaration _ => declaration.check_perm alike).trans
      (permuted.flatMap_right _)
  rw [check_eq, check_eq, distinct.declareAll_eq_nil, (distinct.perm permuted).declareAll_eq_nil]
  exact types.append inside

end Module

/-! ## Programs -/

/-- A program is checked module by module, as if each module were a program of its own. -/
theorem Program.diagnostics_eq_flatMap (program : Program) (span : Text.Span) :
    program.diagnostics =
      program.modules.flatMap fun content => (Program.mk [content] span).diagnostics := by
  have alone : ∀ content, (Program.mk [content] span).diagnostics =
      content.check.map Problem.diagnostic := by
    intro content
    rw [diagnostics, check, List.flatMap_singleton]
  rw [diagnostics, check, List.map_flatMap]
  simp only [alone]

/-- The checker reports on each module what it would report if the module were alone. Where the
declarations of a module have different names, any other order of them brings the same reports. -/
theorem order_decides_nothing (program : Program) :
    (∀ span, program.diagnostics =
      program.modules.flatMap fun content => (Program.mk [content] span).diagnostics) ∧
    ∀ front content back declarations, program.modules = front ++ content :: back →
      content.Distinct → content.declarations.Perm declarations →
        program.diagnostics.Perm
          { program with modules := front ++ { content with declarations } :: back }.diagnostics := by
  constructor
  · exact program.diagnostics_eq_flatMap
  · intro front content back declarations split distinct permuted
    have inside : content.check.Perm ({ content with declarations } : Module).check :=
      distinct.check_perm permuted
    unfold Program.diagnostics Program.check
    rw [split, List.flatMap_append, List.flatMap_append, List.flatMap_cons, List.flatMap_cons]
    exact ((inside.append_right _).append_left _).map Problem.diagnostic

/-- A module whose data have the type of a record that is declared behind them; the initial value
is undefined, and so is what the procedure assigns. -/
def lateRecord : Module :=
  { name := ⟨"M", .origin⟩
    declarations :=
      [.data ⟨.var, ⟨"r", .origin⟩, ⟨"a", .origin⟩, some (.variable ⟨"x", .origin⟩)⟩ .origin,
        .proc ⟨"p", .origin⟩ []
          [.assign (.component (.variable ⟨"a", .origin⟩) ⟨"n", .origin⟩ .origin)
            (.variable ⟨"y", .origin⟩) .origin] .origin,
        .record ⟨"r", .origin⟩ [⟨⟨"num", .origin⟩, ⟨"n", .origin⟩, .origin⟩] .origin]
    span := .origin }

theorem order_decides_nothing_for_lateRecord :
    lateRecord.Distinct ∧
      (Program.mk [lateRecord] .origin).diagnostics.length = 2 ∧
      (Program.mk [lateRecord] .origin).diagnostics.Perm
        (Program.mk [{ lateRecord with declarations := lateRecord.declarations.reverse }]
          .origin).diagnostics := by
  have distinct : lateRecord.Distinct := by
    unfold Module.Distinct
    decide
  obtain ⟨_, order⟩ := order_decides_nothing ⟨[lateRecord], .origin⟩
  exact ⟨distinct, by decide +kernel,
    order [] lateRecord [] _ rfl distinct (List.reverse_perm _).symm⟩

end RapidLang
