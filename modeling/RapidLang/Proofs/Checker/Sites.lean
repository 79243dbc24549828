import RapidLang.Proofs.Checker.Walk

/-!
# Problems by the statements that have them

The checker comes to every statement of a routine once, whatever bodies it is nested in, with the
declarations in view that precede it there.
-/

set_option autoImplicit false

namespace RapidLang

/-! ## Statements and what they see -/

/-- A statement, and the declarations that are visible where it stands. -/
structure Site where
  statement : Stmt
  visible : Scope

namespace Stmt

/-- All statements in a body, at every depth. A nested body has a table of its own; what a statement
declares is visible to those behind it. -/
def sites (visible : Scope) : List Stmt → List Site
  | [] => []
  | first :: rest =>
    ⟨first, visible⟩
      :: (first.bodies.attach.flatMap fun nested =>
        sites (visible.enter nested.val.bindings) nested.val.statements)
      ++ sites (visible.extend first.declared) rest
termination_by body => sizeOf body
decreasing_by
  · exact sizeOf_lt_cons_of_mem_bodies nested.property rest
  · exact sizeOf_lt_cons first rest

variable (visible : Scope)

@[simp] theorem sites_nil : sites visible [] = [] := by
  rw [sites]

theorem sites_cons (first : Stmt) (rest : List Stmt) :
    sites visible (first :: rest) =
      ⟨first, visible⟩
        :: (first.bodies.flatMap fun nested =>
          sites (visible.enter nested.bindings) nested.statements)
        ++ sites (visible.extend first.declared) rest := by
  rw [sites, ← flatMap_bodies_attach]

theorem statements_sites (body : List Stmt) :
    (sites visible body).map Site.statement = all body := by
  induction body using body_induction generalizing visible with
  | nil => rw [sites_nil, all_nil]; rfl
  | cons first rest innerIH restIH =>
      have inner : ∀ nested ∈ first.bodies,
          (sites (visible.enter nested.bindings) nested.statements).map Site.statement =
            all nested.statements :=
        fun nested member => innerIH nested member _
      rw [sites_cons, all_cons, List.map_append, List.map_cons, restIH, List.map_flatMap,
        List.flatMap_congr inner]

/-- What is kept where a nested body is entered, and behind a declaration, holds of what is visible at
every statement. -/
theorem sites_kept (kept : Scope → Prop)
    (enter : ∀ (scope : Scope) (nested : NestedBody), kept scope → kept (scope.enter nested.bindings))
    (extend : ∀ (scope : Scope) (statement : Stmt), kept scope →
      kept (scope.extend statement.declared))
    (body : List Stmt) (begins : kept visible) : ∀ site ∈ sites visible body, kept site.visible := by
  induction body using body_induction generalizing visible with
  | nil => simp
  | cons first rest innerIH restIH =>
      rw [sites_cons, List.forall_mem_append, List.forall_mem_cons]
      refine ⟨⟨begins, fun site member => ?_⟩, restIH _ (extend _ _ begins)⟩
      obtain ⟨nested, inside, member⟩ := List.mem_flatMap.mp member
      exact innerIH nested inside _ (enter _ _ begins) site member

end Stmt

namespace Walk

variable {α : Type} {routine : RoutineKind} {walk : Scope → List Stmt → List α}
  {own : Scope → Stmt → List α}

/-- A walk gathers at each statement what can be said with the declarations that are visible
there. -/
theorem perm_sites (walks : Walk routine walk own) {visit : Site → List α}
    (visits : ∀ scope visible : Scope, scope.Alike visible → ∀ statement : Stmt,
      (own scope statement).Perm (visit ⟨statement, visible⟩))
    {scope visible : Scope} (alike : scope.Alike visible) (body : List Stmt) :
    (walk scope body).Perm ((Stmt.sites visible body).flatMap visit) := by
  refine walks.perm Scope.Alike (fun visible body => (Stmt.sites visible body).flatMap visit)
    (fun visible => by rw [Stmt.sites_nil]; rfl) ?_ body alike
  intro scope visible first rest alike
  exists fun nested => visible.enter nested.bindings, visible.extend first.declared
  refine ⟨fun nested _ => alike.enter nested.bindings,
    (Stmt.check_alike first).trans (alike.extend first.declared), ?_⟩
  rw [Stmt.sites_cons, List.flatMap_append, List.flatMap_cons, List.flatMap_assoc]
  exact ((visits scope visible alike first).symm.append_right _).append_right _

/-- A walk that needs no scope gathers what each statement has by itself. -/
theorem perm_all (walks : Walk routine walk own) {visit : Stmt → List α}
    (visits : ∀ scope statement, (own scope statement).Perm (visit statement)) (scope : Scope)
    (body : List Stmt) : (walk scope body).Perm ((Stmt.all body).flatMap visit) := by
  rw [← Stmt.statements_sites scope body, List.flatMap_map]
  exact walks.perm_sites (fun scope _ _ => visits scope) (.refl scope) body

end Walk

end RapidLang
