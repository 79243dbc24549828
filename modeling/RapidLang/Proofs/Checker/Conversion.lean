import RapidLang.Proofs.Checker.Chain

/-!
# Scopes with converted bindings

When every binding of a scope is converted in a way that keeps its name, names are looked up and
defined as before, and what is found is converted.
-/

set_option autoImplicit false

namespace RapidLang

namespace Scope

/-- A scope with every binding converted. -/
def map (convert : Binding → Binding) (scope : Scope) : Scope :=
  ⟨scope.innermost.map convert, scope.enclosing.map (List.map convert)⟩

variable {convert : Binding → Binding} (named : ∀ binding, (convert binding).name = binding.name)
  (scope : Scope)

@[simp] theorem push_map : (scope.map convert).push = scope.push.map convert := rfl

/-- The built-in names stay as they are if their bindings do. -/
theorem map_builtin (same : ∀ binding ∈ builtinBindings, convert binding = binding) :
    builtin.map convert = builtin := by
  rw [builtin_eq, map, List.map_congr_left same, List.map_id']
  rfl

include named

theorem find?_map (table : Table) (name : String) :
    Table.find? (table.map convert) name = (table.find? name).map convert := by
  unfold Table.find?
  rw [List.find?_map]
  simp only [Function.comp_def, named]

theorem findLocal?_map (name : String) :
    (scope.map convert).findLocal? name = (scope.findLocal? name).map convert :=
  find?_map named scope.innermost name

theorem resolve?_map (name : String) :
    (scope.map convert).resolve? name = (scope.resolve? name).map convert := by
  show List.findSome? _ (List.map (List.map convert) (scope.innermost :: scope.enclosing)) = _
  rw [List.findSome?_map, resolve?]
  simp only [Function.comp_def, find?_map named, List.map_findSome?]

theorem define?_map (binding : Binding) :
    (scope.map convert).define? (convert binding) =
      (scope.define? binding).map (map convert) := by
  unfold define?
  rw [named, findLocal?_map named]
  cases scope.findLocal? binding.name with
  | some _ => rfl
  | none =>
      show some (Scope.mk (scope.innermost.map convert ++ [convert binding]) _) = _
      rw [← List.map_singleton, ← List.map_append]
      rfl

variable (spanned : ∀ binding, (convert binding).span = binding.span)

include spanned

/-- If spans are kept as well, the same names are refused for the same reasons. -/
theorem declare_map (name : Name) (binding : Binding) :
    (scope.map convert).declare name (convert binding) =
      ((scope.declare name binding).1.map convert, (scope.declare name binding).2) := by
  unfold declare
  rw [define?_map named, named, findLocal?_map named]
  cases scope.define? binding with
  | some extended => rfl
  | none =>
      cases scope.findLocal? binding.name with
      | none => rfl
      | some first => simp [spanned]

theorem declareAll_map (declared : List (Name × Binding)) :
    (scope.map convert).declareAll (declared.map fun entry => (entry.1, convert entry.2)) =
      ((scope.declareAll declared).1.map convert, (scope.declareAll declared).2) := by
  induction declared generalizing scope with
  | nil => rfl
  | cons first rest ih =>
      obtain ⟨name, binding⟩ := first
      rw [List.map_cons, declareAll, declareAll, declare_map named scope spanned]
      dsimp only
      rw [ih]

end Scope

end RapidLang
