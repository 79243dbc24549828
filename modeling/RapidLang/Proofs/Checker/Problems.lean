import RapidLang.Proofs.Checker.Walk
import RapidLang.Proofs.Syntax.Arrangement

/-!
# What problems are about

The problems in an expression are those with the names in it: a use that is bound to nothing, or a
component that cannot be selected. A statement has the problems in its expressions, and what is wrong
with the statement itself. Which of these a problem is can be told from its code.
-/

set_option autoImplicit false

namespace RapidLang

/-! ## Problems in expressions -/

/-- The problem that the name is bound to nothing. -/
def Use.problem : Use → Problem
  | .variable name => .undefinedVariable name
  | .routine name => .undefinedRoutine name

/-- What is wrong with a name in an expression. -/
def Mention.problems (scope : Scope) : Mention → List Problem
  | .use used => (Typing.ofBinding (scope.resolve? used.name.text) used.problem).problems
  | .selection base name =>
    match (base.check scope).type with
    | none => []
    | some type => (scope.typeOfComponent type name).problems

/-- The problems in some expressions. -/
def Scope.problemsIn (scope : Scope) (expressions : List Expr) : List Problem :=
  expressions.flatMap fun expression => (expression.check scope).problems

section Expressions

variable {scope other : Scope}

mutual

/-- The problems in an expression are those with the names in it. -/
theorem Expr.check_perm : ∀ expression : Expr,
    (expression.check scope).problems.Perm (expression.mentions.flatMap (Mention.problems scope))
  | .number _ _ | .truth _ _ | .string _ _ => .nil
  | .variable name => by
      rw [Expr.mentions, List.flatMap_singleton]
      exact .refl _
  | .index base position _ => by
      rw [Expr.mentions, List.flatMap_append]
      exact (Expr.check_perm base).append (Expr.check_perm position)
  | .component base name _ => by
      rw [Expr.check, Expr.mentions, List.flatMap_append, List.flatMap_singleton, Mention.problems]
      dsimp only
      cases (base.check scope).type with
      | none =>
          rw [List.append_nil]
          exact Expr.check_perm base
      | some type => exact (Expr.check_perm base).append_right _
  | .call routine arguments _ => by
      rw [Expr.mentions, List.flatMap_cons]
      -- The checker looks the routine up behind the arguments.
      exact ((Expr.checkAll_perm arguments).append_right _).trans List.perm_append_comm
  | .unary _ operand _ => Expr.check_perm operand
  | .binary _ left right _ => by
      rw [Expr.mentions, List.flatMap_append]
      exact (Expr.check_perm left).append (Expr.check_perm right)

theorem Expr.checkAll_perm : ∀ expressions : List Expr,
    (Expr.checkAll scope expressions).Perm
      ((Expr.allMentions expressions).flatMap (Mention.problems scope))
  | [] => .nil
  | first :: rest => by
      rw [Expr.allMentions, List.flatMap_append]
      exact (Expr.check_perm first).append (Expr.checkAll_perm rest)

end

theorem Expr.checkAll_eq (expressions : List Expr) :
    Expr.checkAll scope expressions = scope.problemsIn expressions := by
  induction expressions with
  | nil => rfl
  | cons first rest ih => rw [Expr.checkAll, ih]; rfl

theorem Expr.checkOptional_eq (value : Option Expr) :
    Expr.checkOptional scope value = scope.problemsIn value.toList := by
  cases value with
  | none => rfl
  | some value => exact (List.flatMap_singleton _ _).symm

theorem Scope.Alike.problemsIn (alike : scope.Alike other) (expressions : List Expr) :
    scope.problemsIn expressions = other.problemsIn expressions := by
  rw [← Expr.checkAll_eq, alike.checkAll, Expr.checkAll_eq]

theorem Scope.problemsIn_perm (expressions : List Expr) :
    (scope.problemsIn expressions).Perm
      ((expressions.flatMap Expr.mentions).flatMap (Mention.problems scope)) := by
  rw [← Expr.checkAll_eq, ← Expr.allMentions_eq]
  exact Expr.checkAll_perm expressions

end Expressions

/-! ## What is wrong with a statement itself -/

/-- The problem that a condition is no truth value. -/
def Scope.wrongCondition (scope : Scope) (construct : ConditionKind) (condition : Expr) :
    List Problem :=
  match (condition.check scope).type with
  | some type => if type = boolType then [] else [.conditionNotBool construct type condition.span]
  | none => []

/-- The problem that a value is returned where none may be, or one of another type. -/
def Scope.wrongReturn (scope : Scope) (routine : RoutineKind) (value : Expr) (span : Text.Span) :
    List Problem :=
  match routine with
  | .proc => [.valueReturnedFromProc span]
  | .trap => [.valueReturnedFromTrap span]
  | .func type => mismatch (some type) (value.check scope).type fun expected found =>
      .returnMismatch expected found value.span

namespace Stmt

/-- The problems of a statement that are in none of its expressions, and in no nested body. -/
def misuses (routine : RoutineKind) (scope : Scope) : Stmt → List Problem
  | .assign target value span =>
    scope.checkTarget target
      ++ mismatch (target.check scope).type (value.check scope).type fun target value =>
        .assignmentMismatch target value span
  | .conditional branches _ _ =>
    branches.flatMap fun branch => scope.wrongCondition .if branch.condition
  | .while condition _ _ => scope.wrongCondition .while condition
  | .return (some value) span => scope.wrongReturn routine value span
  | .test subject arms _ _ =>
    arms.flatMap fun arm => arm.values.flatMap fun value =>
      mismatch (subject.check scope).type (value.check scope).type fun expected found =>
        .caseMismatch expected found value.span
  | .connect trap _ _ => scope.checkTrap trap
  | .data item _ => scope.checkType item.type ++ (scope.declare item.name item.binding).2
  | .block _ _ | .expression _ _ | .for _ _ _ _ _ | .return none _ | .move _ _ | .raise _ _ => []

/-- The problems of a statement outside its nested bodies are those in its expressions, and what is
wrong with the statement itself. -/
theorem ownCheck_perm (routine : RoutineKind) (scope : Scope) (statement : Stmt) :
    (statement.ownCheck routine scope).Perm
      (scope.problemsIn statement.expressions ++ statement.misuses routine scope) := by
  cases statement with
  | block | raise | connect => exact .refl _
  | assign target value =>
      simp only [ownCheck, Stmt.check, expressions, misuses, Scope.problemsIn, List.flatMap_cons,
        List.flatMap_nil, List.append_nil, List.append_assoc]
      exact .refl _
  | expression value =>
      rw [ownCheck, Stmt.check, expressions, misuses, Scope.problemsIn, List.flatMap_singleton,
        List.append_nil]
  | conditional branches =>
      rw [ownCheck, expressions, misuses, Scope.problemsIn, List.flatMap_map]
      exact (List.flatMap_append_perm branches _ _).symm
  | «while» condition =>
      rw [ownCheck, expressions, misuses, Scope.problemsIn, List.flatMap_singleton]
      exact .refl _
  | «for» counter first last =>
      rw [ownCheck, expressions, misuses, Scope.problemsIn, List.flatMap_cons,
        List.flatMap_singleton, List.append_nil]
  | «return» value span =>
      cases value with
      | none => exact .refl _
      | some value =>
          rw [expressions, Option.toList_some, misuses, Scope.problemsIn, List.flatMap_singleton]
          cases routine <;> exact .refl _
  | move operands =>
      rw [ownCheck, Stmt.check, expressions, misuses, List.append_nil, Expr.checkAll_eq,
        Expr.checkOptional_eq, Scope.problemsIn, Scope.problemsIn, Scope.problemsIn,
        List.flatMap_append]
  | test subject arms =>
      have values : (arms.flatMap fun arm =>
            scope.checkValues (subject.check scope).type arm.values).Perm
          (scope.problemsIn (arms.flatMap Arm.values)
            ++ misuses routine scope (.test subject arms none .origin)) := by
        refine .trans (.flatMap_left _ fun arm _ => (List.flatMap_append_perm arm.values _ _).symm) ?_
        rw [Scope.problemsIn, List.flatMap_assoc]
        exact (List.flatMap_append_perm arms _ _).symm
      rw [expressions, Scope.problemsIn, List.flatMap_cons, List.append_assoc]
      exact values.append_left _
  | data item =>
      rw [ownCheck, Stmt.check, expressions, misuses, Expr.checkOptional_eq, ← List.append_assoc]

end Stmt

/-! ## Codes -/

/-- Is the code that of a problem in an expression? -/
def Code.isInExpression : Code → Bool
  | .undefinedVariable | .undefinedRoutine | .notARecord | .unknownField => true
  | _ => false

theorem Code.outside_of_beq {code : Code} (outside : code.isInExpression = false) :
    ∀ other : Code, (other == code) = true → other.isInExpression = false :=
  fun _ same => beq_iff_eq.mp same ▸ outside

/-- The codes of what can be wrong with a statement itself. -/
def Stmt.misuseCodes : Stmt → List Code
  | .assign _ _ _ => [.assignToConstant, .typeMismatch]
  | .conditional _ _ _ | .while _ _ _ => [.nonBoolCondition]
  | .return _ _ => [.returnValueInProcedure, .returnTypeMismatch]
  | .test _ _ _ _ => [.typeMismatch]
  | .connect _ _ _ => [.undefinedTrap]
  | .data _ _ => [.unknownType, .duplicateDefinition]
  | .block _ _ | .expression _ _ | .for _ _ _ _ _ | .move _ _ | .raise _ _ => []

section Codes

variable {routine : RoutineKind} {scope : Scope} {problem : Problem}

/-- A component that cannot be selected is one of no record, or one that the record does not have. -/
theorem of_mem_typeOfComponent {type : String} {component : Name}
    (member : problem ∈ (scope.typeOfComponent type component).problems) :
    problem = .notARecord type component ∨ problem = .unknownComponent type component := by
  unfold Scope.typeOfComponent at member
  dsimp only at member
  split at member
  · split at member
    · cases member
    · exact .inr (List.mem_singleton.mp member)
  · split at member
    · split at member
      · cases member
      · exact .inr (List.mem_singleton.mp member)
    · exact .inl (List.mem_singleton.mp member)

theorem eq_of_mem_problems {used : Use} (member : problem ∈ (Mention.use used).problems scope) :
    problem = used.problem := by
  rw [Mention.problems] at member
  cases found : scope.resolve? used.name.text with
  | some binding => rw [found] at member; cases member
  | none => rw [found] at member; exact List.mem_singleton.mp member

/-- What is wrong with a mentioned name is that it is bound to nothing, or that it cannot be
selected. -/
theorem of_mem_problems {mention : Mention} (member : problem ∈ mention.problems scope) :
    (∃ used, mention = .use used ∧ problem = used.problem) ∨
      ∃ base name type, mention = .selection base name ∧
        (problem = .notARecord type name ∨ problem = .unknownComponent type name) := by
  cases mention with
  | use used => exact .inl ⟨used, rfl, eq_of_mem_problems member⟩
  | selection base name =>
      rw [Mention.problems] at member
      split at member
      · cases member
      · exact .inr ⟨base, name, _, rfl, of_mem_typeOfComponent member⟩

theorem isInExpression_of_mem_problems {mention : Mention}
    (member : problem ∈ mention.problems scope) : problem.code.isInExpression := by
  rcases of_mem_problems member with ⟨used, _, rfl⟩ | ⟨_, _, _, _, rfl | rfl⟩
  · cases used <;> rfl
  · rfl
  · rfl

theorem isInExpression_of_mem_problemsIn {expressions : List Expr}
    (member : problem ∈ scope.problemsIn expressions) : problem.code.isInExpression := by
  obtain ⟨mention, _, member⟩ :=
    List.mem_flatMap.mp ((Scope.problemsIn_perm expressions).mem_iff.mp member)
  exact isInExpression_of_mem_problems member

theorem of_mem_mismatch {expected found : Option String} {wrong : String → String → Problem}
    (member : problem ∈ mismatch expected found wrong) :
    ∃ expected found, problem = wrong expected found := by
  unfold mismatch at member
  split at member
  next =>
    split at member
    · cases member
    · exact ⟨_, _, List.mem_singleton.mp member⟩
  next => cases member

/-- Only a name can be one that may not be assigned to. -/
theorem of_mem_checkTarget {target : Expr} (member : problem ∈ scope.checkTarget target) :
    ∃ name isCounter, target = .variable name ∧ problem = .constantAssigned name isCounter := by
  unfold Scope.checkTarget at member
  split at member
  · split at member
    · split at member
      · exact ⟨_, _, rfl, List.mem_singleton.mp member⟩
      · cases member
    · cases member
  · cases member

theorem of_mem_wrongCondition {construct : ConditionKind} {condition : Expr}
    (member : problem ∈ scope.wrongCondition construct condition) :
    ∃ found, problem = .conditionNotBool construct found condition.span := by
  unfold Scope.wrongCondition at member
  split at member
  · split at member
    · cases member
    · exact ⟨_, List.mem_singleton.mp member⟩
  · cases member

theorem of_mem_checkTrap {trap : Name} (member : problem ∈ scope.checkTrap trap) :
    ∃ isDeclared, problem = .undefinedTrap trap isDeclared := by
  unfold Scope.checkTrap at member
  split at member
  · exact ⟨_, List.mem_singleton.mp member⟩
  · split at member
    · cases member
    · exact ⟨_, List.mem_singleton.mp member⟩

theorem of_mem_checkType {type : Name} (member : problem ∈ scope.checkType type) :
    problem = .unknownType type := by
  unfold Scope.checkType at member
  split at member
  · cases member
  · split at member
    · cases member
    · exact List.mem_singleton.mp member

/-- What is wrong with a declaration is that its name is declared again. -/
theorem of_mem_declare {name : Name} {binding : Binding}
    (member : problem ∈ (scope.declare name binding).2) :
    ∃ previous, problem = .alreadyDefined name previous := by
  unfold Scope.declare at member
  split at member
  · cases member
  · exact ⟨_, List.mem_singleton.mp member⟩

theorem of_mem_declareAll {declared : List (Name × Binding)}
    (member : problem ∈ (scope.declareAll declared).2) :
    ∃ name ∈ declared.map Prod.fst, ∃ previous, problem = .alreadyDefined name previous := by
  induction declared generalizing scope with
  | nil => cases member
  | cons first rest ih =>
      obtain ⟨name, binding⟩ := first
      cases List.mem_append.mp member with
      | inl own => exact ⟨name, List.mem_cons_self, of_mem_declare own⟩
      | inr behind =>
          obtain ⟨other, inside, again⟩ := ih behind
          exact ⟨other, List.mem_cons_of_mem name inside, again⟩

theorem code_of_mem_checkType {type : Name} (member : problem ∈ scope.checkType type) :
    problem.code = .unknownType := by
  rw [of_mem_checkType member]
  rfl

theorem code_of_mem_declare {name : Name} {binding : Binding}
    (member : problem ∈ (scope.declare name binding).2) : problem.code = .duplicateDefinition := by
  obtain ⟨_, rfl⟩ := of_mem_declare member
  rfl

theorem code_of_mem_declareAll {declared : List (Name × Binding)}
    (member : problem ∈ (scope.declareAll declared).2) : problem.code = .duplicateDefinition := by
  obtain ⟨_, _, _, rfl⟩ := of_mem_declareAll member
  rfl

theorem code_of_mem_misuses {statement : Stmt}
    (member : problem ∈ statement.misuses routine scope) :
    problem.code ∈ statement.misuseCodes := by
  cases statement with
  | assign target value span =>
      cases List.mem_append.mp member with
      | inl member =>
          obtain ⟨_, _, _, rfl⟩ := of_mem_checkTarget member
          exact List.mem_cons_self
      | inr member =>
          obtain ⟨_, _, rfl⟩ := of_mem_mismatch member
          exact List.mem_cons_of_mem _ List.mem_cons_self
  | conditional branches =>
      obtain ⟨branch, _, member⟩ := List.mem_flatMap.mp member
      obtain ⟨_, rfl⟩ := of_mem_wrongCondition member
      exact List.mem_cons_self
  | «while» condition =>
      obtain ⟨_, rfl⟩ := of_mem_wrongCondition member
      exact List.mem_cons_self
  | «return» value span =>
      cases value with
      | none => cases member
      | some value =>
          cases routine with
          | proc | trap => rw [List.mem_singleton.mp member]; exact List.mem_cons_self
          | func type =>
              obtain ⟨_, _, rfl⟩ := of_mem_mismatch member
              exact List.mem_cons_of_mem _ List.mem_cons_self
  | test subject arms =>
      obtain ⟨arm, _, member⟩ := List.mem_flatMap.mp member
      obtain ⟨value, _, member⟩ := List.mem_flatMap.mp member
      obtain ⟨_, _, rfl⟩ := of_mem_mismatch member
      exact List.mem_cons_self
  | connect trap =>
      obtain ⟨_, rfl⟩ := of_mem_checkTrap member
      exact List.mem_cons_self
  | data item =>
      cases List.mem_append.mp member with
      | inl member =>
          rw [code_of_mem_checkType member]
          exact List.mem_cons_self
      | inr member =>
          rw [code_of_mem_declare member]
          exact List.mem_cons_of_mem _ List.mem_cons_self
  | block | expression | «for» | move | raise => cases member

end Codes

/-! ## Problems with certain codes -/

/-- The problems with certain codes. -/
def withCode (keep : Code → Bool) (problems : List Problem) : List Problem :=
  problems.filter fun problem => keep problem.code

section WithCode

variable {keep : Code → Bool} {routine : RoutineKind} {scope : Scope}

@[simp] theorem withCode_nil : withCode keep [] = [] := rfl

@[simp] theorem withCode_append (first second : List Problem) :
    withCode keep (first ++ second) = withCode keep first ++ withCode keep second :=
  List.filter_append ..

theorem withCode_flatMap {α : Type} (find : α → List Problem) (items : List α) :
    withCode keep (items.flatMap find) = items.flatMap fun item => withCode keep (find item) :=
  List.filter_flatMap

theorem withCode_eq_nil {problems : List Problem}
    (silent : ∀ problem ∈ problems, keep problem.code = false) : withCode keep problems = [] :=
  List.filter_eq_nil_iff.mpr fun problem member => ne_true_of_eq_false (silent problem member)

theorem withCode_eq_self {problems : List Problem}
    (all : ∀ problem ∈ problems, keep problem.code = true) : withCode keep problems = problems :=
  List.filter_eq_self.mpr all

/-- The problems in expressions with certain codes are those with the names in them. -/
theorem withCode_problemsIn (expressions : List Expr) :
    (withCode keep (scope.problemsIn expressions)).Perm
      ((expressions.flatMap Expr.mentions).flatMap fun mention =>
        withCode keep (mention.problems scope)) := by
  rw [← withCode_flatMap]
  exact (Scope.problemsIn_perm expressions).filter _

theorem withCode_problemsIn_eq_nil
    (outside : ∀ code, keep code = true → code.isInExpression = false) (expressions : List Expr) :
    withCode keep (scope.problemsIn expressions) = [] := by
  apply withCode_eq_nil
  intro problem member
  by_contra kept
  have inside := isInExpression_of_mem_problemsIn member
  rw [outside _ (Bool.eq_true_of_not_eq_false kept)] at inside
  cases inside

theorem withCode_misuses_eq_nil {statement : Stmt}
    (other : ∀ code ∈ statement.misuseCodes, keep code = false) :
    withCode keep (statement.misuses routine scope) = [] :=
  withCode_eq_nil fun _ member => other _ (code_of_mem_misuses member)

namespace Stmt

/-- Of the problems of a statement, those with codes of problems in expressions are there. -/
theorem withCode_ownCheck_of_inside
    (inside : ∀ code, keep code = true → code.isInExpression = true) (statement : Stmt) :
    (withCode keep (statement.ownCheck routine scope)).Perm
      (withCode keep (scope.problemsIn statement.expressions)) := by
  have misuses : withCode keep (statement.misuses routine scope) = [] := by
    have outside : ∀ code ∈ statement.misuseCodes, code.isInExpression = false := by
      cases statement <;> simp [misuseCodes, Code.isInExpression]
    apply withCode_misuses_eq_nil
    intro code member
    by_contra kept
    have both := inside code (Bool.eq_true_of_not_eq_false kept)
    rw [outside code member] at both
    cases both
  have parts := (ownCheck_perm routine scope statement).filter fun problem => keep problem.code
  rwa [List.filter_append, show List.filter _ _ = [] from misuses, List.append_nil] at parts

/-- Of the problems of a statement, those with other codes are with the statement itself. -/
theorem withCode_ownCheck_of_outside
    (outside : ∀ code, keep code = true → code.isInExpression = false) (statement : Stmt) :
    (withCode keep (statement.ownCheck routine scope)).Perm
      (withCode keep (statement.misuses routine scope)) := by
  have parts := (ownCheck_perm routine scope statement).filter fun problem => keep problem.code
  rwa [List.filter_append,
    show List.filter _ _ = [] from withCode_problemsIn_eq_nil outside statement.expressions,
    List.nil_append] at parts

theorem walk_withCode (keep : Code → Bool) (routine : RoutineKind) :
    Walk routine (fun scope body => withCode keep (Stmt.checkBody routine scope body))
      (fun scope statement => withCode keep (statement.ownCheck routine scope)) :=
  (walk_checkBody routine).filter fun problem => keep problem.code

end Stmt

/-! ## Routines and modules -/

theorem withCode_declareAll_eq_nil (repeated : keep .duplicateDefinition = false)
    (declared : List (Name × Binding)) : withCode keep (scope.declareAll declared).2 = [] := by
  apply withCode_eq_nil
  intro problem member
  rw [code_of_mem_declareAll member, repeated]

theorem Scope.withCode_checkRoutine (repeated : keep .duplicateDefinition = false)
    (parameters : List Parameter) (body : List Stmt) :
    withCode keep (scope.checkRoutine routine parameters body) =
      withCode keep (Stmt.checkBody routine (scope.ofRoutine parameters) body) := by
  rw [Scope.checkRoutine_eq, withCode_append, withCode_declareAll_eq_nil repeated, List.nil_append]

/-- The warning about a function that returns nowhere is no problem in it. -/
theorem Decl.withCode_check_func (silent : keep .missingReturn = false) (type name : Name)
    (parameters : List Parameter) (body : List Stmt) (span : Text.Span) :
    withCode keep ((Decl.func type name parameters body span).check scope) =
      withCode keep (scope.checkRoutine (.func (normalizeType type.text)) parameters body) := by
  have warning : withCode keep (if Stmt.anyReturns body then [] else [.missingReturn name]) = [] := by
    apply withCode_eq_nil
    intro problem member
    split at member
    · cases member
    · rw [List.mem_singleton.mp member]; exact silent
  rw [Decl.check, withCode_append, warning, List.append_nil]

/-- Problems in a module stand in its declarations, or are that one of these is declared again, or
that its type is unknown. -/
theorem Module.withCode_check (unknown : keep .unknownType = false) (content : Module) :
    withCode keep content.check =
      withCode keep (Scope.builtin.push.declareAll (content.declarations.map
        fun declaration => (declaration.name, declaration.binding))).2
      ++ content.declarations.flatMap fun declaration =>
        withCode keep (declaration.check content.scope) := by
  have types : withCode keep (content.declarations.flatMap (Decl.checkType content.scope)) = [] := by
    apply withCode_eq_nil
    intro problem member
    obtain ⟨declaration, _, member⟩ := List.mem_flatMap.mp member
    cases declaration with
    | data item => rw [code_of_mem_checkType member, unknown]
    | _ => cases member
  rw [Module.check_eq, withCode_append, withCode_append, types, List.append_nil, withCode_flatMap]

theorem Module.withCode_check_inside (unknown : keep .unknownType = false)
    (repeated : keep .duplicateDefinition = false) (content : Module) :
    withCode keep content.check = content.declarations.flatMap fun declaration =>
      withCode keep (declaration.check content.scope) := by
  rw [Module.withCode_check unknown, withCode_declareAll_eq_nil repeated, List.nil_append]

end WithCode

end RapidLang
