import RapidLang.Syntax.Program

/-!
# Nested bodies

What a statement holds: expressions and a declaration of its own, and nested bodies, each with the
counter of the loop that it belongs to. A property of lists of statements follows by induction once
it passes from the nested bodies of a statement, and from the statements behind it, to the whole.
-/

set_option autoImplicit false

namespace RapidLang

/-- A body inside a statement. -/
structure NestedBody where
  /-- The counter of the loop whose body this is. -/
  counter : Option Name
  statements : List Stmt

namespace NestedBody

/-- The body of no loop that counts. -/
def plain (statements : List Stmt) : NestedBody :=
  ⟨none, statements⟩

end NestedBody

namespace Stmt

/-- The bodies that stand directly in a statement. -/
def bodies : Stmt → List NestedBody
  | .block body _ | .while _ body _ => [.plain body]
  | .for counter _ _ body _ => [⟨some counter, body⟩]
  | .conditional branches otherwise _ =>
    (branches.map Branch.body ++ otherwise.toList).map .plain
  | .test _ arms default _ => (arms.map Arm.body ++ default.toList).map .plain
  | .assign _ _ _ | .expression _ _ | .return _ _ | .move _ _ | .connect _ _ _ | .raise _ _
  | .data _ _ => []

/-- The expressions that stand directly in a statement. -/
def expressions : Stmt → List Expr
  | .assign target value _ => [target, value]
  | .expression value _ => [value]
  | .conditional branches _ _ => branches.map Branch.condition
  | .while condition _ _ => [condition]
  | .for _ first last _ _ => [first, last]
  | .return value _ => value.toList
  | .move operands _ =>
    [operands.target, operands.speed, operands.zone, operands.tool] ++ operands.workObject.toList
  | .test subject arms _ _ => subject :: arms.flatMap Arm.values
  | .data item _ => item.initial.toList
  | .block _ _ | .connect _ _ _ | .raise _ _ => []

/-- The data that a statement declares. -/
def item? : Stmt → Option DataItem
  | .data item _ => some item
  | .block _ _ | .assign _ _ _ | .expression _ _ | .conditional _ _ _ | .while _ _ _
  | .for _ _ _ _ _ | .return _ _ | .move _ _ | .test _ _ _ _ | .connect _ _ _ | .raise _ _ => none

/-- The names of the data that are declared directly among some statements. -/
def names (body : List Stmt) : List Name :=
  body.flatMap fun statement => statement.item?.toList.map DataItem.name

variable {statement : Stmt} {nested : NestedBody}

theorem mem_of_mem_map_plain {lists : List (List Stmt)}
    (member : nested ∈ lists.map .plain) : nested.statements ∈ lists := by
  obtain ⟨body, inside, same⟩ := List.mem_map.mp member
  rw [← same]
  exact inside

theorem sizeOf_lt_of_mem_bodies (member : nested ∈ statement.bodies) :
    sizeOf nested.statements < sizeOf statement := by
  cases statement with
  | block body | «while» _ body | «for» _ _ _ body =>
      rw [List.mem_singleton.mp member]
      simp [NestedBody.plain]
      try omega
  | conditional branches otherwise =>
      cases List.mem_append.mp (mem_of_mem_map_plain member) with
      | inl guarded =>
          obtain ⟨⟨condition, body, span⟩, inside, same⟩ := List.mem_map.mp guarded
          have smaller := List.sizeOf_lt_of_mem inside
          rw [← same]
          simp [Branch.body] at smaller ⊢
          omega
      | inr last =>
          obtain rfl := Option.mem_toList.mp last
          simp
          omega
  | test subject arms default =>
      cases List.mem_append.mp (mem_of_mem_map_plain member) with
      | inl selected =>
          obtain ⟨⟨values, body, span⟩, inside, same⟩ := List.mem_map.mp selected
          have smaller := List.sizeOf_lt_of_mem inside
          rw [← same]
          simp [Arm.body] at smaller ⊢
          omega
      | inr last =>
          obtain rfl := Option.mem_toList.mp last
          simp
          omega
  | _ => cases member

theorem sizeOf_lt_cons_of_mem_bodies (member : nested ∈ statement.bodies) (rest : List Stmt) :
    sizeOf nested.statements < sizeOf (statement :: rest) := by
  have inside := sizeOf_lt_of_mem_bodies member
  simp only [List.cons.sizeOf_spec]
  omega

theorem sizeOf_lt_cons (first : Stmt) (rest : List Stmt) : sizeOf rest < sizeOf (first :: rest) := by
  simp only [List.cons.sizeOf_spec]
  omega

/-- What is gathered from the bodies of a statement does not depend on how they are known to be
smaller. -/
theorem flatMap_bodies_attach {α : Type} (statement : Stmt) (gather : NestedBody → List α) :
    (statement.bodies.attach.flatMap fun nested => gather nested.val) =
      statement.bodies.flatMap gather := by
  refine (List.flatMap_subtype fun _ _ => rfl).trans ?_
  rw [List.unattach_attach]

/-- What passes from the bodies in the first statement and from the statements behind it to all of
them holds of every list of statements. -/
@[elab_as_elim]
theorem body_induction {motive : List Stmt → Prop} (nil : motive [])
    (cons : ∀ first rest, (∀ nested ∈ first.bodies, motive nested.statements) → motive rest →
      motive (first :: rest)) : ∀ body, motive body
  | [] => nil
  | first :: rest =>
    cons first rest (fun nested _ => body_induction nil cons nested.statements)
      (body_induction nil cons rest)
termination_by body => sizeOf body
decreasing_by
  · exact sizeOf_lt_cons_of_mem_bodies ‹_› rest
  · exact sizeOf_lt_cons first rest

/-- All statements in a body, at every depth. -/
def all : List Stmt → List Stmt
  | [] => []
  | first :: rest =>
    first :: (first.bodies.attach.flatMap fun nested => all nested.val.statements) ++ all rest
termination_by body => sizeOf body
decreasing_by
  · exact sizeOf_lt_cons_of_mem_bodies nested.property rest
  · exact sizeOf_lt_cons first rest

@[simp] theorem all_nil : all [] = [] := by
  rw [all]

theorem all_cons (first : Stmt) (rest : List Stmt) :
    all (first :: rest) =
      first :: (first.bodies.flatMap fun nested => all nested.statements) ++ all rest := by
  rw [all, ← flatMap_bodies_attach]

theorem all_append (front rest : List Stmt) : all (front ++ rest) = all front ++ all rest := by
  induction front with
  | nil => rw [all_nil, List.nil_append, List.nil_append]
  | cons first front ih => rw [List.cons_append, all_cons, all_cons, ih, List.append_assoc]

/-- The statements that stand directly in the bodies of a statement. -/
def children (statement : Stmt) : List Stmt :=
  statement.bodies.flatMap NestedBody.statements

theorem all_children (statement : Stmt) :
    all statement.children = statement.bodies.flatMap fun nested => all nested.statements := by
  rw [children]
  induction statement.bodies with
  | nil => exact all_nil
  | cons first rest ih => rw [List.flatMap_cons, all_append, ih, List.flatMap_cons]

/-- The statements at every depth are the statements of the body and those inside them. -/
theorem mem_all {body : List Stmt} {part : Stmt} :
    part ∈ all body ↔ ∃ statement ∈ body, part = statement ∨ part ∈ all statement.children := by
  induction body with
  | nil => simp
  | cons first rest ih =>
      rw [all_cons, ← all_children, List.mem_append, ih]
      simp only [List.mem_cons, exists_eq_or_imp]

end Stmt

end RapidLang
