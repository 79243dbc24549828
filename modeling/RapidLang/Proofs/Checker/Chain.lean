import RapidLang.Checker.Program
import RapidLang.Index.Symbol

/-!
# The declarations that a scope shows

A scope is made from the built-in names by opening tables and defining names. It shows the
declarations that were made on the way, in their order: a name is bound to the last of them that
has it, or else as it is built in.
-/

set_option autoImplicit false

namespace RapidLang

namespace Scope

variable {scope extended : Scope} {binding : Binding} {name : String}

/-! ## Tables -/

theorem define?_eq_some (defined : scope.define? binding = some extended) :
    scope.findLocal? binding.name = none ∧
      extended = { scope with innermost := scope.innermost ++ [binding] } := by
  unfold define? at defined
  split at defined
  next => cases defined
  next absent =>
    cases defined
    exact ⟨absent, rfl⟩

@[simp] theorem resolve?_push (scope : Scope) (name : String) :
    scope.push.resolve? name = scope.resolve? name := rfl

/-- A name that is newly defined is bound; all others are bound as before. -/
theorem resolve?_of_define? (defined : scope.define? binding = some extended) (name : String) :
    extended.resolve? name = if binding.name = name then some binding else scope.resolve? name := by
  obtain ⟨absent, rfl⟩ := define?_eq_some defined
  unfold findLocal? Table.find? at absent
  unfold resolve? Table.find?
  rw [List.findSome?_cons, List.findSome?_cons, List.find?_append]
  by_cases own : binding.name = name
  · subst own
    rw [absent]
    simp
  · simp [own]

/-- What is bound to a name has that name and stands in one of the tables. -/
theorem mem_of_resolve? (found : scope.resolve? name = some binding) :
    binding.name = name ∧ ∃ table ∈ scope.innermost :: scope.enclosing, binding ∈ table := by
  obtain ⟨table, member, found⟩ := List.exists_of_findSome?_eq_some found
  exact ⟨by simpa using List.find?_some found, table, member, List.mem_of_find?_eq_some found⟩

/-! ## Built-in names -/

theorem builtin_eq : builtin = ⟨builtinBindings, []⟩ := by
  have all : builtin.innermost = builtinBindings := by decide +kernel
  have alone : builtin.enclosing = [] := by decide +kernel
  rw [← all, ← alone]

theorem table_of_builtin {table : Table} (member : table ∈ builtin.innermost :: builtin.enclosing) :
    table = builtinBindings := by
  rw [builtin_eq] at member
  exact List.mem_singleton.mp member

theorem eq_builtin_of_mem (member : binding ∈ builtinBindings) :
    ∃ name type isConstant, binding = .builtin name type isConstant := by
  rcases List.mem_append.mp member with member | member
  · obtain ⟨⟨name, type⟩, _, same⟩ := List.mem_map.mp member
    exact ⟨name, type, false, same.symm⟩
  · obtain ⟨⟨name, type⟩, _, same⟩ := List.mem_map.mp member
    exact ⟨name, some type, true, same.symm⟩

theorem span_of_builtin (member : binding ∈ builtinBindings) : binding.span = none := by
  obtain ⟨_, _, _, rfl⟩ := eq_builtin_of_mem member
  rfl

theorem mem_of_resolve?_builtin (found : builtin.resolve? name = some binding) :
    binding.name = name ∧ binding ∈ builtinBindings := by
  obtain ⟨same, table, member, held⟩ := mem_of_resolve? found
  exact ⟨same, table_of_builtin member ▸ held⟩

/-! ## Declarations -/

/-- A table of the scope has the declaration of the symbol. -/
def Sees (scope : Scope) (symbol : Symbol) : Prop :=
  ∃ table ∈ scope.innermost :: scope.enclosing,
    ∃ binding ∈ table, binding.span = some symbol.name.span

/-- The scope was made by opening tables and declaring the symbols in turn. -/
inductive Shows : Scope → List Symbol → Prop where
  | builtin : Shows Scope.builtin []
  | push {scope : Scope} {chain : List Symbol} : Shows scope chain → Shows scope.push chain
  | define {scope extended : Scope} {binding : Binding} {symbol : Symbol} {chain : List Symbol} :
      Shows scope chain → scope.define? binding = some extended →
      binding.name = symbol.name.text → binding.span = some symbol.name.span →
      Shows extended (chain ++ [symbol])

namespace Shows

variable {chain : List Symbol}

/-- The last symbol of a name is what the name is bound to. -/
structure Binds (scope : Scope) (chain : List Symbol) (name : String) (symbol : Symbol) : Prop where
  bound : ∃ binding, scope.resolve? name = some binding ∧ binding.span = some symbol.name.span
  named : symbol.name.text = name
  last : ∃ front back, chain = front ++ symbol :: back ∧ ∀ later ∈ back, later.name.text ≠ name

/-- A name is bound to the last symbol that has it, or else as it is built in. -/
theorem resolve? (shows : scope.Shows chain) (name : String) :
    (∃ symbol, Binds scope chain name symbol) ∨
      (∀ symbol ∈ chain, symbol.name.text ≠ name) ∧
        scope.resolve? name = Scope.builtin.resolve? name := by
  induction shows with
  | builtin => exact .inr ⟨fun _ member => absurd member List.not_mem_nil, rfl⟩
  | push _ ih =>
      rcases ih with ⟨symbol, bound, named, last⟩ | unnamed
      · exact .inl ⟨symbol, bound, named, last⟩
      · exact .inr unnamed
  | @define scope extended binding symbol chain _ defined text span ih =>
      have resolved := resolve?_of_define? defined name
      by_cases own : binding.name = name
      · rw [if_pos own] at resolved
        exact .inl ⟨symbol, ⟨binding, resolved, span⟩, text ▸ own, chain, [], rfl,
          fun _ member => absurd member List.not_mem_nil⟩
      · rw [if_neg own] at resolved
        have other : symbol.name.text ≠ name := text ▸ own
        rcases ih with ⟨found, bound, named, front, back, split, unnamed⟩ | ⟨unnamed, builtin⟩
        · refine .inl ⟨found, resolved ▸ bound, named, front, back ++ [symbol], ?_, ?_⟩
          · rw [split, List.append_assoc, List.cons_append]
          · simpa [or_imp, forall_and, other] using unnamed
        · exact .inr ⟨by simpa [or_imp, forall_and, other] using unnamed, resolved.trans builtin⟩

/-- The declarations that the tables have are those of the chain. -/
theorem sees (shows : scope.Shows chain) {symbol : Symbol} (sees : scope.Sees symbol) :
    ∃ shown ∈ chain, shown.name.span = symbol.name.span := by
  induction shows with
  | builtin =>
      obtain ⟨table, member, binding, held, span⟩ := sees
      rw [span_of_builtin (table_of_builtin member ▸ held)] at span
      cases span
  | push _ ih =>
      obtain ⟨table, member, binding, held, span⟩ := sees
      rcases List.mem_cons.mp member with rfl | member
      · cases held
      · exact ih ⟨table, member, binding, held, span⟩
  | define _ defined _ own ih =>
      obtain ⟨_, rfl⟩ := define?_eq_some defined
      obtain ⟨table, member, binding, held, span⟩ := sees
      rcases List.mem_cons.mp member with rfl | member
      · rcases List.mem_append.mp held with held | held
        · obtain ⟨shown, member, same⟩ := ih ⟨_, List.mem_cons_self, binding, held, span⟩
          exact ⟨shown, List.mem_append_left _ member, same⟩
        · rw [List.mem_singleton.mp held, own, Option.some.injEq] at span
          exact ⟨_, List.mem_append_right _ List.mem_cons_self, span⟩
      · obtain ⟨shown, member, same⟩ := ih ⟨table, List.mem_cons_of_mem _ member, binding, held, span⟩
        exact ⟨shown, List.mem_append_left _ member, same⟩

/-- A declaration is added to the chain, unless its name is taken in the innermost table. -/
theorem declare {symbol : Symbol} (shows : scope.Shows chain) (name : Name)
    (text : binding.name = symbol.name.text) (span : binding.span = some symbol.name.span) :
    (scope.declare name binding).1.Shows chain ∨
      (scope.findLocal? symbol.name.text = none ∧
        (scope.declare name binding).1.Shows (chain ++ [symbol])) := by
  unfold Scope.declare
  split
  next extended defined =>
    exact .inr ⟨text ▸ (define?_eq_some defined).1, shows.define defined text span⟩
  next => exact .inl shows

end Shows

end Scope

end RapidLang
