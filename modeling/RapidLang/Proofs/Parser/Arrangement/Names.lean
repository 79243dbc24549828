import RapidLang.Proofs.Parser.Arrangement.Program

/-!
# All names in expressions stand apart

A statement is arranged around its nested bodies, and these are made of statements. So the names in
the expressions of a whole program stand apart, however deep the statements that they are in.
-/

set_option autoImplicit false

namespace RapidLang

open Text

variable {named : Name → Prop}

/-! ## Statements -/

namespace Stmt

theorem Row.refines {body : List Stmt} (row : Row named body) :
    Refines (body.map Stmt.span) (stretch body) := by
  cases body with
  | nil => exact .nil
  | cons first rest =>
      have filled : ∀ statement ∈ first :: rest, statement.span.Filled :=
        fun statement member => (row.nested statement member).filled
      have within := within_extent_of_filled filled row.ordered
      exact .of_ordered (List.forall_mem_map.mpr filled) row.ordered (List.forall_mem_map.mpr within)

/-- The names in all statements of a body refine the statements that it consists of. -/
theorem marks_refine {body : List Stmt} (row : Row named body)
    (arranged : ∀ part ∈ all body, part.Arranged) :
    Refines ((all body).flatMap marks) (body.map Stmt.span) := by
  induction body using body_induction with
  | nil => rw [all_nil]; exact .nil
  | cons first rest innerIH restIH =>
      rw [all_cons, List.forall_mem_append, List.forall_mem_cons] at arranged
      obtain ⟨⟨own, inner⟩, behind⟩ := arranged
      obtain ⟨upper, inside, arrangement⟩ := own
      have below : ∀ nested ∈ first.bodies,
          Refines ((all nested.statements).flatMap marks) (stretch nested.statements) := by
        intro nested member
        have row' := row.head.row nested member
        have arranged' : ∀ part ∈ all nested.statements, part.Arranged :=
          fun part held => inner part (List.mem_flatMap.mpr ⟨nested, member, held⟩)
        exact (innerIH nested member row' arranged').trans row'.refines
      have names : ∀ span ∈ first.marks, span.Filled :=
        fun span member => (arrangement.spread.lie span (List.mem_append_left _ member)).1
      have whole := arrangement.spread.refine ((Refines.refl names).append (.flatMap below))
      rw [all_cons, List.flatMap_append, List.flatMap_cons, List.flatMap_assoc]
      exact (Refines.of_spread whole (le_refl _) (le_of_lt inside)).append (restIH row.tail behind)

end Stmt

/-! ## Declarations -/

/-- The places of the names in the expressions of a declaration. -/
def Decl.marks : Decl → List Span
  | .data item _ => item.initial.toList.flatMap Expr.marks
  | .proc _ _ body _ | .func _ _ _ body _ | .trap _ body _ => (Stmt.all body).flatMap Stmt.marks
  | .record _ _ _ => []

/-- The places of the names in the expressions of a program. -/
def Program.marks (program : Program) : List Span :=
  program.modules.flatMap fun content => content.declarations.flatMap Decl.marks

theorem Decl.marks_refine {tokens : List Token} {declaration : Decl}
    (nested : declaration.Nested named) (placed : declaration.Placed tokens) :
    Refines declaration.marks [declaration.span] := by
  have routine : ∀ {body : List Stmt} {span : Span}, span.Lists (body.map Stmt.span) →
      (∀ statement ∈ body, statement.Nested named) →
      (∀ statement ∈ Stmt.all body, statement.Placed tokens) →
      Refines ((Stmt.all body).flatMap Stmt.marks) [span] := by
    intro body span lists nested placed
    have statements := Stmt.marks_refine ⟨nested, lists.2⟩ fun part member =>
      (placed part member).arranged
    have filled : ∀ statement ∈ body, statement.span.Filled :=
      fun statement member => (nested statement member).filled
    exact statements.trans (.of_ordered (List.forall_mem_map.mpr filled) lists.2 lists.1.2)
  cases placed with
  | data spread => exact .of_spread spread (le_refl _) (le_refl _)
  | proc _ placed =>
      cases nested with
      | proc _ _ _ _ lists nested => exact routine lists nested placed
  | func _ placed =>
      cases nested with
      | func _ _ _ _ _ lists nested => exact routine lists nested placed
  | trap _ placed =>
      cases nested with
      | trap _ _ lists nested => exact routine lists nested placed
  | record => exact .nil

/-- No name in the expressions of a program is empty, and each stands apart from the others. -/
theorem Program.marks_apart {tokens : List Token} {program : Program} (nested : program.Nested named)
    (placed : ∀ content ∈ program.modules, ∀ declaration ∈ content.declarations,
      declaration.Placed tokens) :
    (∀ span ∈ program.marks, span.Filled) ∧ program.marks.Pairwise Span.Apart := by
  have modules : ∀ content ∈ program.modules,
      Refines (content.declarations.flatMap Decl.marks) [content.span] := by
    intro content member
    obtain ⟨_, _, lists, inside⟩ := nested.modules content member
    have declarations := Refines.gather fun declaration member' =>
      Decl.marks_refine (inside declaration member') (placed content member declaration member')
    have filled := fun declaration member' => (inside declaration member').filled
    exact declarations.trans (.of_ordered (List.forall_mem_map.mpr filled) lists.2 lists.1.2)
  have whole := Refines.gather modules
  exact ⟨fun span member => (whole.within span member).1, whole.apart (nested.ordered.imp .inl)⟩

end RapidLang
