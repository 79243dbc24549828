import RapidLang.Proofs.Checker.Chain

/-!
# Scopes that bind alike

Scopes are compared by what they bind, not by their tables: a second declaration of a name in a table
changes nothing. In scopes that bind alike an expression has the same type and the same problems.
-/

set_option autoImplicit false

namespace RapidLang

/-! ## Scopes -/

namespace Scope

/-- Opens a table with some bindings inside a scope. -/
def enter (scope : Scope) (bindings : List Binding) : Scope :=
  ⟨bindings, scope.innermost :: scope.enclosing⟩

/-- Adds bindings to the innermost table, behind those that it has. -/
def extend (scope : Scope) (bindings : List Binding) : Scope :=
  { scope with innermost := scope.innermost ++ bindings }

/-- Two scopes bind every name alike, in the innermost table as well as in all of them. -/
structure Alike (scope other : Scope) : Prop where
  own : ∀ name, scope.findLocal? name = other.findLocal? name
  all : ∀ name, scope.resolve? name = other.resolve? name

variable {scope other third : Scope}

theorem resolve?_enter (scope : Scope) (bindings : List Binding) (name : String) :
    (scope.enter bindings).resolve? name =
      (Table.find? bindings name).or (scope.resolve? name) := by
  rw [resolve?, List.findSome?_cons]
  cases found : Table.find? bindings name <;> simp [enter, found, resolve?]

theorem findLocal?_extend (scope : Scope) (bindings : List Binding) (name : String) :
    (scope.extend bindings).findLocal? name =
      (scope.findLocal? name).or (Table.find? bindings name) :=
  List.find?_append

theorem resolve?_extend (scope : Scope) (bindings : List Binding) (name : String) :
    (scope.extend bindings).resolve? name =
      (scope.findLocal? name).or ((Table.find? bindings name).or (scope.resolve? name)) := by
  have own := findLocal?_extend scope bindings name
  rw [findLocal?] at own
  rw [resolve?, resolve?, List.findSome?_cons, List.findSome?_cons, own]
  cases found : scope.findLocal? name with
  | none =>
      rw [findLocal?] at found
      cases Table.find? bindings name <;> simp [extend, found]
  | some binding => rfl

namespace Alike

theorem refl (scope : Scope) : scope.Alike scope :=
  ⟨fun _ => rfl, fun _ => rfl⟩

theorem symm (alike : scope.Alike other) : other.Alike scope :=
  ⟨fun name => (alike.own name).symm, fun name => (alike.all name).symm⟩

theorem trans (alike : scope.Alike other) (alike' : other.Alike third) : scope.Alike third :=
  ⟨fun name => (alike.own name).trans (alike'.own name),
    fun name => (alike.all name).trans (alike'.all name)⟩

theorem enter (alike : scope.Alike other) (bindings : List Binding) :
    (scope.enter bindings).Alike (other.enter bindings) := by
  constructor
  · exact fun _ => rfl
  · intro name
    rw [resolve?_enter, resolve?_enter, alike.all name]

theorem extend (alike : scope.Alike other) (bindings : List Binding) :
    (scope.extend bindings).Alike (other.extend bindings) := by
  constructor
  · intro name
    rw [findLocal?_extend, findLocal?_extend, alike.own name]
  · intro name
    rw [resolve?_extend, resolve?_extend, alike.own name, alike.all name]

end Alike

theorem resolve?_of_findLocal? {name : String} {binding : Binding}
    (found : scope.findLocal? name = some binding) : scope.resolve? name = some binding := by
  rw [findLocal?] at found
  rw [resolve?, List.findSome?_cons, found]

/-- A binding changes nothing in a table that has one of its name. -/
theorem alike_extend_of_taken {binding : Binding}
    (taken : scope.findLocal? binding.name ≠ none) : scope.Alike (scope.extend [binding]) := by
  have absent : ∀ name, scope.findLocal? name = none → Table.find? [binding] name = none := by
    intro name free
    have other : binding.name ≠ name := by
      rintro rfl
      exact taken free
    simp [Table.find?, other]
  constructor
  · intro name
    rw [findLocal?_extend]
    cases found : scope.findLocal? name with
    | none => rw [absent name found, Option.or_none]
    | some first => rfl
  · intro name
    rw [resolve?_extend]
    cases found : scope.findLocal? name with
    | none => rw [absent name found, Option.none_or, Option.none_or]
    | some first => exact resolve?_of_findLocal? found

/-- Declaring a name binds as if the binding were added. -/
theorem declare_alike (scope : Scope) (name : Name) (binding : Binding) :
    (scope.declare name binding).1.Alike (scope.extend [binding]) := by
  unfold declare
  split
  next extended defined =>
    obtain ⟨_, rfl⟩ := define?_eq_some defined
    exact .refl _
  next refused =>
    apply alike_extend_of_taken
    intro free
    simp [define?, free] at refused

theorem extend_nil (scope : Scope) : scope.extend [] = scope := by
  rw [extend, List.append_nil]

theorem alike_extend_nil (scope : Scope) : scope.Alike (scope.extend []) := by
  rw [extend_nil]
  exact .refl scope

theorem extend_extend (scope : Scope) (first second : List Binding) :
    (scope.extend first).extend second = scope.extend (first ++ second) := by
  rw [extend, extend, extend, List.append_assoc]

theorem declareAll_alike (scope : Scope) (declared : List (Name × Binding)) :
    (scope.declareAll declared).1.Alike (scope.extend (declared.map Prod.snd)) := by
  induction declared generalizing scope with
  | nil =>
      rw [List.map_nil, extend_nil]
      exact .refl _
  | cons first rest ih =>
      obtain ⟨name, binding⟩ := first
      have behind := (ih _).trans ((declare_alike scope name binding).extend (rest.map Prod.snd))
      rwa [extend_extend] at behind

end Scope

/-! ## Expressions in scopes that bind alike -/

namespace Scope

variable {scope other : Scope}

theorem Alike.typeOfComponent (alike : scope.Alike other) (type : String) (component : Name) :
    scope.typeOfComponent type component = other.typeOfComponent type component := by
  unfold Scope.typeOfComponent
  rw [alike.all type]

mutual

theorem Alike.check (alike : scope.Alike other) : ∀ expression : Expr,
    expression.check scope = expression.check other
  | .number _ _ | .truth _ _ | .string _ _ => rfl
  | .variable name => by rw [Expr.check, Expr.check, alike.all]
  | .index base position _ => by
      rw [Expr.check, Expr.check, alike.check base, alike.check position]
  | .component base name _ => by
      rw [Expr.check, Expr.check, alike.check base]
      simp only [alike.typeOfComponent]
  | .call routine arguments _ => by
      rw [Expr.check, Expr.check, alike.all, alike.checkAll arguments]
  | .unary _ operand _ => alike.check operand
  | .binary _ left right _ => by
      rw [Expr.check, Expr.check, alike.check left, alike.check right]

theorem Alike.checkAll (alike : scope.Alike other) : ∀ expressions : List Expr,
    Expr.checkAll scope expressions = Expr.checkAll other expressions
  | [] => rfl
  | first :: rest => by
      rw [Expr.checkAll, Expr.checkAll, alike.check first, alike.checkAll rest]

end

theorem Alike.checkOptional (alike : scope.Alike other) (value : Option Expr) :
    Expr.checkOptional scope value = Expr.checkOptional other value := by
  cases value with
  | none => rfl
  | some value => exact congrArg Typing.problems (alike.check value)

theorem Alike.checkType (alike : scope.Alike other) (type : Name) :
    scope.checkType type = other.checkType type := by
  unfold Scope.checkType
  rw [alike.all]

theorem Alike.checkTarget (alike : scope.Alike other) (target : Expr) :
    scope.checkTarget target = other.checkTarget target := by
  cases target with
  | «variable» name => rw [Scope.checkTarget, Scope.checkTarget, alike.all]
  | _ => rfl

theorem Alike.checkCondition (alike : scope.Alike other) (construct : ConditionKind)
    (condition : Expr) :
    scope.checkCondition construct condition = other.checkCondition construct condition := by
  rw [Scope.checkCondition, Scope.checkCondition, alike.check]

theorem Alike.checkReturn (alike : scope.Alike other) (routine : RoutineKind)
    (value : Option Expr) (span : Text.Span) :
    scope.checkReturn routine value span = other.checkReturn routine value span := by
  cases value with
  | none => rfl
  | some value => simp only [Scope.checkReturn, alike.check]

theorem Alike.checkValues (alike : scope.Alike other) (subject : Option String)
    (values : List Expr) : scope.checkValues subject values = other.checkValues subject values := by
  simp only [Scope.checkValues, alike.check]

theorem Alike.checkTrap (alike : scope.Alike other) (trap : Name) :
    scope.checkTrap trap = other.checkTrap trap := by
  rw [Scope.checkTrap, Scope.checkTrap, alike.all]

theorem Alike.declare (alike : scope.Alike other) (name : Name) (binding : Binding) :
    (scope.declare name binding).2 = (other.declare name binding).2 := by
  unfold Scope.declare define?
  rw [alike.own]
  cases other.findLocal? binding.name <;> rfl

theorem Alike.declareAll (alike : scope.Alike other) (declared : List (Name × Binding)) :
    (scope.declareAll declared).1.Alike (other.declareAll declared).1 ∧
      (scope.declareAll declared).2 = (other.declareAll declared).2 := by
  induction declared generalizing scope other with
  | nil => exact ⟨alike, rfl⟩
  | cons first rest ih =>
      obtain ⟨name, binding⟩ := first
      have after := ((scope.declare_alike name binding).trans (alike.extend [binding])).trans
        (other.declare_alike name binding).symm
      obtain ⟨behind, problems⟩ := ih after
      constructor
      · exact behind
      · rw [Scope.declareAll, Scope.declareAll]
        dsimp only
        rw [alike.declare name binding, problems]

end Scope

end RapidLang
