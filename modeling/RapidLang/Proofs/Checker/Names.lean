import RapidLang.Proofs.Checker.Problems

/-!
# Problems with names

An expression uses names of data and of routines. Of the problems that the checker finds in a
statement outside its nested bodies, those that are about names are one for each use that is bound
to nothing, and at most one for a name that the statement declares again.
-/

set_option autoImplicit false

namespace RapidLang

mutual

/-- The names that are used in an expression. A component is selected by its type and is no use; the
name of a routine comes behind the arguments of the call. -/
def Expr.uses : Expr → List Use
  | .number _ _ | .truth _ _ | .string _ _ => []
  | .variable name => [.variable name]
  | .index base position _ => Expr.uses base ++ Expr.uses position
  | .component base _ _ => Expr.uses base
  | .call routine arguments _ => Expr.allUses arguments ++ [.routine routine]
  | .unary _ operand _ => Expr.uses operand
  | .binary _ left right _ => Expr.uses left ++ Expr.uses right

/-- The names that are used in several expressions. -/
def Expr.allUses : List Expr → List Use
  | [] => []
  | first :: rest => Expr.uses first ++ Expr.allUses rest

end

/-- The names that are used in a statement outside its nested bodies. -/
def Stmt.uses (statement : Stmt) : List Use :=
  Expr.allUses statement.expressions

/-- The problems of the uses that the scope does not bind. -/
def Scope.unbound (scope : Scope) (uses : List Use) : List Problem :=
  (uses.filter fun use => (scope.resolve? use.name.text).isNone).map Use.problem

/-- The problem with the name that a statement declares, if the table has it already. -/
def Scope.redeclared (scope : Scope) (statement : Stmt) : List Problem :=
  statement.item?.toList.flatMap fun item => (scope.declare item.name item.binding).2

namespace Code

/-- Is the code that of a name that is bound to nothing? -/
def isUnbound (code : Code) : Bool :=
  code == .undefinedVariable || code == .undefinedRoutine

/-- Is the code that of a name that is declared again? -/
def isRepeated (code : Code) : Bool :=
  code == .duplicateDefinition

end Code

/-! ## Uses -/

mutual

theorem Expr.uses_perm : ∀ expression : Expr,
    expression.uses.Perm (expression.mentions.filterMap Mention.use?)
  | .number _ _ | .truth _ _ | .string _ _ => .nil
  | .variable _ => .refl _
  | .index base position _ => by
      rw [Expr.uses, Expr.mentions, List.filterMap_append]
      exact (Expr.uses_perm base).append (Expr.uses_perm position)
  | .component base _ _ => by
      rw [Expr.uses, Expr.mentions, List.filterMap_append]
      exact (Expr.uses_perm base).trans (.of_eq (List.append_nil _).symm)
  | .call routine arguments _ => by
      rw [Expr.uses, Expr.mentions]
      exact (List.perm_append_singleton _ _).trans ((Expr.allUses_perm arguments).cons _)
  | .unary _ operand _ => Expr.uses_perm operand
  | .binary _ left right _ => by
      rw [Expr.uses, Expr.mentions, List.filterMap_append]
      exact (Expr.uses_perm left).append (Expr.uses_perm right)

theorem Expr.allUses_perm : ∀ expressions : List Expr,
    (Expr.allUses expressions).Perm ((Expr.allMentions expressions).filterMap Mention.use?)
  | [] => .nil
  | first :: rest => by
      rw [Expr.allUses, Expr.allMentions, List.filterMap_append]
      exact (Expr.uses_perm first).append (Expr.allUses_perm rest)

end

section Names

variable {scope : Scope} {routine : RoutineKind}

theorem unbound_append (first second : List Use) :
    scope.unbound (first ++ second) = scope.unbound first ++ scope.unbound second := by
  rw [Scope.unbound, List.filter_append, List.map_append]
  rfl

theorem unbound_flatMap {α : Type} (find : α → List Use) (items : List α) :
    scope.unbound (items.flatMap find) = items.flatMap fun item => scope.unbound (find item) := by
  rw [Scope.unbound, List.filter_flatMap, List.map_flatMap]
  rfl

/-! ## Unbound names -/

theorem withCode_isUnbound_problems (mention : Mention) :
    withCode Code.isUnbound (mention.problems scope) = scope.unbound mention.use?.toList := by
  cases mention with
  | use used =>
      rw [Mention.problems, Mention.use?, Option.toList_some, Scope.unbound, List.filter_singleton]
      cases scope.resolve? used.name.text with
      | some binding => rfl
      | none => cases used <;> rfl
  | selection base name =>
      rw [Mention.problems]
      split
      · rfl
      · apply withCode_eq_nil
        intro problem member
        rcases of_mem_typeOfComponent member with rfl | rfl <;> rfl

theorem withCode_isUnbound_problemsIn (expressions : List Expr) :
    (withCode Code.isUnbound (scope.problemsIn expressions)).Perm
      (scope.unbound (Expr.allUses expressions)) := by
  have uses := ((Expr.allUses_perm expressions).filter fun use =>
    (scope.resolve? use.name.text).isNone).map Use.problem
  rw [Expr.allMentions_eq, List.filterMap_eq_flatMap_toList] at uses
  apply (withCode_problemsIn expressions).trans
  simp only [withCode_isUnbound_problems]
  rw [← unbound_flatMap]
  exact uses.symm

theorem withCode_isUnbound_ownCheck (statement : Stmt) :
    (withCode Code.isUnbound (statement.ownCheck routine scope)).Perm
      (scope.unbound statement.uses) := by
  apply (Stmt.withCode_ownCheck_of_inside _ statement).trans (withCode_isUnbound_problemsIn _)
  rintro ⟨⟩ kept <;> first | rfl | cases kept

/-! ## Repeated names -/

theorem withCode_isRepeated_problemsIn (expressions : List Expr) :
    withCode Code.isRepeated (scope.problemsIn expressions) = [] :=
  withCode_problemsIn_eq_nil (Code.outside_of_beq rfl) expressions

theorem withCode_isRepeated_declareAll (declared : List (Name × Binding)) :
    withCode Code.isRepeated (scope.declareAll declared).2 = (scope.declareAll declared).2 :=
  withCode_eq_self fun _ member => beq_iff_eq.mpr (code_of_mem_declareAll member)

theorem withCode_isRepeated_ownCheck (statement : Stmt) :
    (withCode Code.isRepeated (statement.ownCheck routine scope)).Perm
      (scope.redeclared statement) := by
  have misuses : withCode Code.isRepeated (statement.misuses routine scope) =
      scope.redeclared statement := by
    cases statement with
    | data item =>
        have types : withCode Code.isRepeated (scope.checkType item.type) = [] :=
          withCode_eq_nil fun _ member => by rw [code_of_mem_checkType member]; rfl
        have names : withCode Code.isRepeated (scope.declare item.name item.binding).2 =
            (scope.declare item.name item.binding).2 :=
          withCode_eq_self fun _ member => beq_iff_eq.mpr (code_of_mem_declare member)
        rw [Stmt.misuses, withCode_append, types, names, List.nil_append]
        exact (List.flatMap_singleton _ _).symm
    | _ =>
        apply withCode_misuses_eq_nil
        simp [Stmt.misuseCodes, Code.isRepeated]
  rw [← misuses]
  exact Stmt.withCode_ownCheck_of_outside (Code.outside_of_beq rfl) statement

end Names

end RapidLang
