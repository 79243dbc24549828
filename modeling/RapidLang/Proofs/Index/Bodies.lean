import RapidLang.Proofs.Checker.Walk
import RapidLang.Proofs.Parser.Scattering.Statement

/-!
# Occurrences by bodies

Up to their order, the occurrences in a statement are those in its head, those in its expressions,
and those in its nested bodies, each of which has a region of its own.
-/

set_option autoImplicit false

namespace RapidLang

open Text

/-- The names in several expressions that may be missing. -/
theorem Expr.optionalOccurrences_eq (value : Option Expr) :
    Expr.optionalOccurrences value = value.toList.flatMap Expr.occurrences := by
  cases value <;> simp [Expr.optionalOccurrences]

namespace Stmt

/-- The region of what is declared in a nested body. -/
def regionOf (statement : Stmt) (nested : NestedBody) : Span :=
  match statement with
  | .for _ _ _ _ span | .block _ span => span
  | _ => extent nested.statements

/-- The occurrences in a statement outside its expressions and bodies. -/
def headOccurrences (region : Span) : Stmt → List Occurrence
  | .for counter _ _ _ span => [.declaration (.ofCounter counter span)]
  | .connect trap error _ => [.use error, .use trap]
  | .raise error _ => [.use error]
  | .data item span => [.use item.type, .declaration (.ofData region item span)]
  | .block _ _ | .assign _ _ _ | .expression _ _ | .conditional _ _ _ | .while _ _ _ | .return _ _
  | .move _ _ | .test _ _ _ _ => []

/-- The occurrences in the bodies of a statement. -/
def bodyOccurrences (statement : Stmt) : List Occurrence :=
  statement.bodies.flatMap fun nested =>
    allOccurrences (statement.regionOf nested) nested.statements

variable {region : Span}

theorem optionalOccurrences_eq (body : Option (List Stmt)) :
    Stmt.optionalOccurrences body =
      body.toList.flatMap fun body => allOccurrences (extent body) body := by
  cases body <;> simp [Stmt.optionalOccurrences]

theorem branchOccurrences_eq : Parser.branchOccurrences = fun branch =>
    branch.condition.occurrences ++ allOccurrences (extent branch.body) branch.body := by
  funext branch
  cases branch
  rfl

theorem armOccurrences_eq : Parser.armOccurrences = fun arm =>
    Expr.allOccurrences arm.values ++ allOccurrences (extent arm.body) arm.body := by
  funext arm
  cases arm
  rfl

/-- The occurrences in a statement are those in its head, its expressions and its bodies. -/
theorem occurrences_perm (region : Span) (statement : Stmt) :
    (statement.occurrences region).Perm
      (statement.headOccurrences region ++ statement.expressions.flatMap Expr.occurrences
        ++ statement.bodyOccurrences) := by
  cases statement with
  | block body =>
      rw [bodyOccurrences, bodies, List.flatMap_singleton]
      exact .refl _
  | «while» condition body =>
      rw [bodyOccurrences, bodies, List.flatMap_singleton, expressions, List.flatMap_singleton]
      exact .refl _
  | «for» counter first last body span =>
      rw [bodyOccurrences, bodies, List.flatMap_singleton, expressions, List.flatMap_cons,
        List.flatMap_singleton]
      exact List.perm_middle
  | conditional branches otherwise =>
      rw [bodyOccurrences, bodies, List.flatMap_map, expressions, List.flatMap_map, occurrences,
        Parser.allOccurrences_eq_flatMap_branch, optionalOccurrences_eq, branchOccurrences_eq]
      exact flatMap_bodies_perm branches _ Branch.body _ fun body =>
        allOccurrences (extent body) body
  | test subject arms default =>
      rw [bodyOccurrences, bodies, List.flatMap_map, expressions, List.flatMap_cons,
        List.flatMap_assoc, occurrences, Parser.allOccurrences_eq_flatMap_arm,
        optionalOccurrences_eq, armOccurrences_eq, headOccurrences, List.nil_append,
        List.append_assoc, List.append_assoc]
      simp only [← Parser.allOccurrences_eq_flatMap]
      exact (flatMap_bodies_perm arms _ Arm.body _ fun body =>
        allOccurrences (extent body) body).append_left _
  | data item =>
      rw [bodyOccurrences, bodies, List.flatMap_nil, List.append_nil, expressions, occurrences,
        DataItem.occurrences, Expr.optionalOccurrences_eq]
      exact List.Perm.cons _ (List.perm_append_comm)
  | assign | expression | «return» | move | connect | raise =>
      simp [occurrences, headOccurrences, expressions, bodyOccurrences, bodies, Move.occurrences,
        Parser.allOccurrences_eq_flatMap, Expr.optionalOccurrences_eq]

end Stmt

end RapidLang
