import RapidLang.Proofs.Checker.Conversion

/-!
# The letter case of built-in types

The names of built-in types may be written in any letter case. A program in which they are all
written in lower case is checked with the same problems in the same order, so that programs that
differ only in how they write these names have the same reports.
-/

set_option autoImplicit false

namespace RapidLang

open Text

/-! ## Programs in which built-in types are written in lower case -/

/-- The name of a type; if the type is built in, in lower case. -/
def Name.uncased (type : Name) : Name :=
  if asciiLower type.text ∈ builtinTypes then { type with text := asciiLower type.text } else type

/-- Data with the name of their type uncased. -/
def DataItem.uncased (item : DataItem) : DataItem :=
  { item with type := item.type.uncased }

mutual

/-- A statement with the types of all data in it uncased. -/
def Stmt.uncased : Stmt → Stmt
  | .block body span => .block (Stmt.uncasedAll body) span
  | .conditional branches otherwise span =>
    .conditional (Branch.uncasedAll branches) (Stmt.uncasedOptional otherwise) span
  | .while condition body span => .while condition (Stmt.uncasedAll body) span
  | .for counter first last body span => .for counter first last (Stmt.uncasedAll body) span
  | .test subject arms default span =>
    .test subject (Arm.uncasedAll arms) (Stmt.uncasedOptional default) span
  | .data item span => .data item.uncased span
  | statement@(.assign _ _ _) | statement@(.expression _ _) | statement@(.return _ _)
  | statement@(.move _ _) | statement@(.connect _ _ _) | statement@(.raise _ _) => statement

/-- Statements with the types of all data in them uncased. -/
def Stmt.uncasedAll : List Stmt → List Stmt
  | [] => []
  | first :: rest => first.uncased :: Stmt.uncasedAll rest

/-- A body that may be missing, with the types of all data in it uncased. -/
def Stmt.uncasedOptional : Option (List Stmt) → Option (List Stmt)
  | none => none
  | some body => some (Stmt.uncasedAll body)

/-- Branches with the types of all data in them uncased. -/
def Branch.uncasedAll : List Branch → List Branch
  | [] => []
  | .mk condition body span :: rest =>
    .mk condition (Stmt.uncasedAll body) span :: Branch.uncasedAll rest

/-- Arms with the types of all data in them uncased. -/
def Arm.uncasedAll : List Arm → List Arm
  | [] => []
  | .mk values body span :: rest => .mk values (Stmt.uncasedAll body) span :: Arm.uncasedAll rest

end

/-- A parameter with the name of its type uncased. -/
def Parameter.uncased (parameter : Parameter) : Parameter :=
  { parameter with type := parameter.type.uncased }

/-- A component with the name of its type uncased. -/
def Component.uncased (component : Component) : Component :=
  { component with type := component.type.uncased }

/-- A declaration with all names of types in it uncased. -/
def Decl.uncased : Decl → Decl
  | .data item span => .data item.uncased span
  | .proc name parameters body span =>
    .proc name (parameters.map Parameter.uncased) (Stmt.uncasedAll body) span
  | .func type name parameters body span =>
    .func type.uncased name (parameters.map Parameter.uncased) (Stmt.uncasedAll body) span
  | .record name components span => .record name (components.map Component.uncased) span
  | .trap name body span => .trap name (Stmt.uncasedAll body) span

/-- A module with all names of types in it uncased. -/
def Module.uncased (content : Module) : Module :=
  { content with declarations := content.declarations.map Decl.uncased }

/-- A program with all names of types in it uncased. -/
def Program.uncased (program : Program) : Program :=
  { program with modules := program.modules.map Module.uncased }

/-! ## Names of types -/

/-- The built-in types are in lower case. -/
theorem asciiLower_of_mem_builtinTypes : ∀ type ∈ builtinTypes, asciiLower type = type := by
  decide +kernel

/-- A name spells the built-in type that it is in lower case, if there is one. -/
theorem builtinType?_eq (name : String) :
    builtinType? name =
      if asciiLower name ∈ builtinTypes then some (asciiLower name) else none := by
  have spelled : ∀ type ∈ builtinTypes, sameWord type name ↔ type = asciiLower name := by
    intro type member
    rw [sameWord, asciiLower_of_mem_builtinTypes type member, beq_iff_eq]
  split
  next known =>
    have some : (builtinType? name).isSome :=
      List.find?_isSome.mpr ⟨asciiLower name, known, (spelled _ known).mpr rfl⟩
    obtain ⟨type, found⟩ := Option.isSome_iff_exists.mp some
    have same : sameWord type name := List.find?_some (p := fun type => sameWord type name) found
    rw [found, (spelled type (List.mem_of_find?_eq_some found)).mp same]
  next unknown =>
    apply List.find?_eq_none.mpr
    intro type member
    rw [spelled type member]
    rintro rfl
    exact unknown member

theorem isSome_builtinType? (name : String) :
    (builtinType? name).isSome ↔ asciiLower name ∈ builtinTypes := by
  rw [builtinType?_eq]
  split <;> simp_all

namespace Name

variable (type other : Name)

theorem uncased_of_isSome (known : (builtinType? type.text).isSome) :
    type.uncased = { type with text := asciiLower type.text } :=
  if_pos ((isSome_builtinType? _).mp known)

theorem uncased_of_eq_none (unknown : builtinType? type.text = none) : type.uncased = type := by
  apply if_neg
  rw [← isSome_builtinType?, unknown]
  exact Bool.false_ne_true

@[simp] theorem span_uncased : type.uncased.span = type.span := by
  unfold uncased
  split <;> rfl

@[simp] theorem builtinType?_uncased : builtinType? type.uncased.text = builtinType? type.text := by
  cases known : builtinType? type.text with
  | none => rw [uncased_of_eq_none type known, known]
  | some found =>
      have lower := (isSome_builtinType? type.text).mp (known ▸ rfl)
      have folded := asciiLower_of_mem_builtinTypes _ lower
      rw [uncased_of_isSome type (known ▸ rfl), ← known, builtinType?_eq, builtinType?_eq, folded]

@[simp] theorem normalizeType_uncased : normalizeType type.uncased.text = normalizeType type.text := by
  cases known : builtinType? type.text with
  | none => rw [uncased_of_eq_none type known]
  | some found => rw [normalizeType, normalizeType, builtinType?_uncased, known]; rfl

/-- Uncased, two names agree if they stand at the same place and are written alike, or both spell
one built-in type in some letter case. -/
theorem uncased_eq_iff :
    type.uncased = other.uncased ↔ type.span = other.span ∧
      (type.text = other.text ∨
        (builtinType? type.text).isSome ∧ sameWord type.text other.text) := by
  constructor
  · intro same
    have spans : type.span = other.span := by
      rw [← span_uncased type, same, span_uncased]
    have known : builtinType? type.text = builtinType? other.text := by
      rw [← builtinType?_uncased type, same, builtinType?_uncased]
    refine ⟨spans, ?_⟩
    cases found : builtinType? type.text with
    | none =>
        rw [uncased_of_eq_none type found, uncased_of_eq_none other (known ▸ found)] at same
        exact .inl (congrArg text same)
    | some builtin =>
        rw [uncased_of_isSome type (found ▸ rfl), uncased_of_isSome other (known ▸ found ▸ rfl),
          mk.injEq] at same
        exact .inr ⟨rfl, beq_iff_eq.mpr same.1⟩
  · rintro ⟨spans, written | ⟨known, same⟩⟩
    · rw [show type = other by cases type; cases other; cases written; cases spans; rfl]
    · have same : asciiLower type.text = asciiLower other.text := beq_iff_eq.mp same
      have known' : (builtinType? other.text).isSome := by
        rw [isSome_builtinType?, ← same, ← isSome_builtinType?]
        exact known
      rw [uncased_of_isSome type known, uncased_of_isSome other known', same, spans]

end Name

theorem DataItem.binding_uncased (item : DataItem) : item.uncased.binding = item.binding := by
  rw [binding, binding, uncased, Name.normalizeType_uncased]
  rfl

theorem Parameter.binding_uncased (parameter : Parameter) :
    parameter.uncased.binding = parameter.binding := by
  rw [binding, binding, uncased, Name.normalizeType_uncased]

/-! ## Scopes -/

/-- The origin of a name, with the names of types in it uncased. -/
def Origin.uncased : Origin → Origin
  | .record components => .record (components.map Component.uncased)
  | origin => origin

/-- A binding with the types of a record's components uncased. -/
def Binding.uncased (binding : Binding) : Binding :=
  { binding with origin := binding.origin.uncased }

/-- A scope with the types of all components uncased. -/
def Scope.uncased (scope : Scope) : Scope :=
  scope.map Binding.uncased

section Bindings

variable (binding : Binding)

theorem Binding.name_uncased : binding.uncased.name = binding.name := rfl

theorem Binding.span_uncased : binding.uncased.span = binding.span := rfl

@[simp] theorem isRecord_uncased : binding.uncased.isRecord = binding.isRecord := by
  obtain ⟨_, _, _, origin, _⟩ := binding
  cases origin <;> rfl

@[simp] theorem isTrap_uncased : binding.uncased.isTrap = binding.isTrap := by
  obtain ⟨_, _, _, origin, _⟩ := binding
  cases origin <;> rfl

@[simp] theorem isCounter_uncased :
    (binding.uncased.origin == .counter) = (binding.origin == .counter) := by
  obtain ⟨_, _, _, origin, _⟩ := binding
  cases origin <;> rfl

theorem uncased_of_mem_builtinBindings (member : binding ∈ builtinBindings) :
    binding.uncased = binding := by
  obtain ⟨_, _, _, rfl⟩ := Scope.eq_builtin_of_mem member
  rfl

theorem Decl.binding_uncased (declaration : Decl) :
    declaration.uncased.binding = declaration.binding.uncased := by
  cases declaration with
  | data item => exact item.binding_uncased
  | func type => rw [uncased, binding, binding, Name.normalizeType_uncased]; rfl
  | _ => rfl

end Bindings

namespace Scope

variable (scope : Scope)

@[simp] theorem push_uncased : scope.uncased.push = scope.push.uncased := rfl

theorem uncased_builtin : builtin.uncased = builtin :=
  map_builtin uncased_of_mem_builtinBindings

theorem resolve?_uncased (name : String) :
    scope.uncased.resolve? name = (scope.resolve? name).map Binding.uncased :=
  resolve?_map Binding.name_uncased scope name

theorem declare_uncased (name : Name) (binding : Binding) :
    scope.uncased.declare name binding.uncased =
      ((scope.declare name binding).1.uncased, (scope.declare name binding).2) :=
  declare_map Binding.name_uncased scope Binding.span_uncased name binding

theorem declareAll_uncased (declared : List (Name × Binding)) :
    scope.uncased.declareAll (declared.map fun entry => (entry.1, entry.2.uncased)) =
      ((scope.declareAll declared).1.uncased, (scope.declareAll declared).2) :=
  declareAll_map Binding.name_uncased scope Binding.span_uncased declared

theorem type_component_uncased (components : List Component) (name : String) :
    (((components.map Component.uncased).find? fun entry => entry.name.text == name).map
        fun entry => normalizeType entry.type.text) =
      (components.find? fun entry => entry.name.text == name).map fun entry =>
        normalizeType entry.type.text := by
  rw [List.find?_map, Option.map_map]
  simp only [Function.comp_def, Component.uncased, Name.normalizeType_uncased]

theorem typeOfComponent_uncased (type : String) (component : Name) :
    scope.uncased.typeOfComponent type component = scope.typeOfComponent type component := by
  unfold typeOfComponent
  rw [resolve?_uncased]
  cases builtinComponents? type with
  | some components => rfl
  | none =>
      cases scope.resolve? type with
      | none => rfl
      | some binding =>
          obtain ⟨_, _, _, origin, _⟩ := binding
          cases origin with
          | record components =>
              simp only [Option.map_some, Binding.uncased, Origin.uncased, type_component_uncased]
          | _ => rfl

end Scope

/-! ## Expressions -/

section Expressions

variable (scope : Scope)

theorem Typing.ofBinding_uncased (binding : Option Binding) (unbound : Problem) :
    Typing.ofBinding (binding.map Binding.uncased) unbound = Typing.ofBinding binding unbound := by
  cases binding <;> rfl

mutual

theorem check_uncased : ∀ value : Expr, value.check scope.uncased = value.check scope
  | .number _ _ | .truth _ _ | .string _ _ => rfl
  | .variable name => by
      rw [Expr.check, Expr.check, Scope.resolve?_uncased, Typing.ofBinding_uncased]
  | .index base position _ => by
      rw [Expr.check, Expr.check, check_uncased base, check_uncased position]
  | .component base name _ => by
      rw [Expr.check, Expr.check, check_uncased base]
      simp only [Scope.typeOfComponent_uncased]
  | .call routine arguments _ => by
      rw [Expr.check, Expr.check, Scope.resolve?_uncased, Typing.ofBinding_uncased,
        checkAll_uncased arguments]
  | .unary _ operand _ => check_uncased operand
  | .binary _ left right _ => by
      rw [Expr.check, Expr.check, check_uncased left, check_uncased right]

theorem checkAll_uncased : ∀ values : List Expr,
    Expr.checkAll scope.uncased values = Expr.checkAll scope values
  | [] => rfl
  | first :: rest => by
      rw [Expr.checkAll, Expr.checkAll, check_uncased first, checkAll_uncased rest]

end

theorem checkOptional_uncased (value : Option Expr) :
    Expr.checkOptional scope.uncased value = Expr.checkOptional scope value := by
  cases value with
  | none => rfl
  | some value => exact congrArg Typing.problems (check_uncased scope value)

/-! ## Statements -/

theorem checkType_uncased (type : Name) :
    scope.uncased.checkType type.uncased = scope.checkType type := by
  cases known : builtinType? type.text with
  | some builtin => simp [Scope.checkType, known]
  | none =>
      -- A name that is no built-in type stays as it is, and so does the problem that quotes it.
      have record : ((scope.resolve? type.text).map Binding.uncased).any Binding.isRecord =
          (scope.resolve? type.text).any Binding.isRecord := by
        cases scope.resolve? type.text <;> simp
      rw [type.uncased_of_eq_none known, Scope.checkType, Scope.checkType, Scope.resolve?_uncased,
        record]

theorem checkTarget_uncased (target : Expr) :
    scope.uncased.checkTarget target = scope.checkTarget target := by
  cases target with
  | «variable» name =>
      rw [Scope.checkTarget, Scope.checkTarget, Scope.resolve?_uncased]
      cases scope.resolve? name.text with
      | none => rfl
      | some binding => simp only [Option.map_some, isCounter_uncased]; rfl
  | _ => rfl

theorem checkCondition_uncased (construct : ConditionKind) (condition : Expr) :
    scope.uncased.checkCondition construct condition = scope.checkCondition construct condition := by
  rw [Scope.checkCondition, Scope.checkCondition, check_uncased]

theorem checkReturn_uncased (routine : RoutineKind) (value : Option Expr) (span : Span) :
    scope.uncased.checkReturn routine value span = scope.checkReturn routine value span := by
  cases value with
  | none => rfl
  | some value => simp only [Scope.checkReturn, check_uncased]

theorem checkValues_uncased (subject : Option String) (values : List Expr) :
    scope.uncased.checkValues subject values = scope.checkValues subject values := by
  simp only [Scope.checkValues, check_uncased]

theorem checkTrap_uncased (trap : Name) : scope.uncased.checkTrap trap = scope.checkTrap trap := by
  rw [Scope.checkTrap, Scope.checkTrap, Scope.resolve?_uncased]
  cases scope.resolve? trap.text with
  | none => rfl
  | some binding => simp only [Option.map_some, isTrap_uncased]

end Expressions

mutual

theorem check_uncased_stmt (routine : RoutineKind) (scope : Scope) (statement : Stmt) :
    Stmt.check routine scope.uncased statement.uncased =
      ((Stmt.check routine scope statement).1.uncased, (Stmt.check routine scope statement).2) := by
  cases statement with
  | block body =>
      rw [Stmt.uncased, Stmt.check, Stmt.check, Scope.push_uncased, checkBody_uncased routine _ body]
  | conditional branches otherwise =>
      rw [Stmt.uncased, Stmt.check, Stmt.check, checkAll_uncased_branches routine scope branches,
        checkOptional_uncased_body routine scope otherwise]
  | «while» condition body =>
      rw [Stmt.uncased, Stmt.check, Stmt.check, checkCondition_uncased, Scope.push_uncased,
        checkBody_uncased routine _ body]
  | «for» counter first last body =>
      have declared := scope.push.declare_uncased counter (counterBinding counter)
      rw [Stmt.uncased, Stmt.check, Stmt.check, check_uncased, check_uncased, Scope.push_uncased,
        show counterBinding counter = (counterBinding counter).uncased from rfl, declared]
      dsimp only
      rw [checkBody_uncased routine _ body]
      rfl
  | test subject arms default =>
      rw [Stmt.uncased, Stmt.check, Stmt.check, check_uncased]
      dsimp only
      rw [checkAll_uncased_arms routine scope _ arms, checkOptional_uncased_body routine scope default]
  | data item =>
      have declared := scope.declare_uncased item.name item.binding
      have bound : item.uncased.binding = item.binding.uncased := item.binding_uncased
      rw [Stmt.uncased, Stmt.check, Stmt.check, bound]
      dsimp only [DataItem.uncased]
      rw [declared, checkOptional_uncased, checkType_uncased]
  | assign target value span =>
      rw [Stmt.uncased, Stmt.check, Stmt.check, check_uncased, check_uncased, checkTarget_uncased]
  | expression value => rw [Stmt.uncased, Stmt.check, Stmt.check, check_uncased]
  | «return» value span => rw [Stmt.uncased, Stmt.check, Stmt.check, checkReturn_uncased]
  | move operands =>
      rw [Stmt.uncased, Stmt.check, Stmt.check, checkAll_uncased, checkOptional_uncased]
  | connect trap => rw [Stmt.uncased, Stmt.check, Stmt.check, checkTrap_uncased]
  | raise => rfl

theorem checkBody_uncased (routine : RoutineKind) (scope : Scope) (body : List Stmt) :
    Stmt.checkBody routine scope.uncased (Stmt.uncasedAll body) =
      Stmt.checkBody routine scope body := by
  cases body with
  | nil => rfl
  | cons first rest =>
      rw [Stmt.uncasedAll, Stmt.checkBody, Stmt.checkBody, check_uncased_stmt routine scope first]
      dsimp only
      rw [checkBody_uncased routine _ rest]

theorem checkOptional_uncased_body (routine : RoutineKind) (scope : Scope)
    (body : Option (List Stmt)) :
    Stmt.checkOptional routine scope.uncased (Stmt.uncasedOptional body) =
      Stmt.checkOptional routine scope body := by
  cases body with
  | none => rfl
  | some body =>
      rw [Stmt.uncasedOptional, Stmt.checkOptional, Stmt.checkOptional, Scope.push_uncased,
        checkBody_uncased routine _ body]

theorem checkAll_uncased_branches (routine : RoutineKind) (scope : Scope) (branches : List Branch) :
    Branch.checkAll routine scope.uncased (Branch.uncasedAll branches) =
      Branch.checkAll routine scope branches := by
  cases branches with
  | nil => rfl
  | cons first rest =>
      obtain ⟨condition, body, span⟩ := first
      rw [Branch.uncasedAll, Branch.checkAll, Branch.checkAll, checkCondition_uncased,
        Scope.push_uncased, checkBody_uncased routine _ body,
        checkAll_uncased_branches routine scope rest]

theorem checkAll_uncased_arms (routine : RoutineKind) (scope : Scope) (subject : Option String)
    (arms : List Arm) :
    Arm.checkAll routine scope.uncased subject (Arm.uncasedAll arms) =
      Arm.checkAll routine scope subject arms := by
  cases arms with
  | nil => rfl
  | cons first rest =>
      obtain ⟨values, body, span⟩ := first
      rw [Arm.uncasedAll, Arm.checkAll, Arm.checkAll, checkValues_uncased, Scope.push_uncased,
        checkBody_uncased routine _ body, checkAll_uncased_arms routine scope subject rest]

end

/-! ## Returns -/

mutual

theorem returns_uncased (statement : Stmt) : statement.uncased.returns = statement.returns := by
  cases statement with
  | block body | «while» condition body | «for» counter first last body =>
      rw [Stmt.uncased, Stmt.returns, Stmt.returns, anyReturns_uncased body]
  | conditional branches otherwise =>
      rw [Stmt.uncased, Stmt.returns, Stmt.returns, anyReturns_uncased_branches branches,
        optionalReturns_uncased otherwise]
  | test subject arms default =>
      rw [Stmt.uncased, Stmt.returns, Stmt.returns, anyReturns_uncased_arms arms,
        optionalReturns_uncased default]
  | assign | expression | «return» | move | connect | raise | data => rfl

theorem anyReturns_uncased (body : List Stmt) :
    Stmt.anyReturns (Stmt.uncasedAll body) = Stmt.anyReturns body := by
  cases body with
  | nil => rfl
  | cons first rest =>
      rw [Stmt.uncasedAll, Stmt.anyReturns, Stmt.anyReturns, returns_uncased first,
        anyReturns_uncased rest]

theorem optionalReturns_uncased (body : Option (List Stmt)) :
    Stmt.optionalReturns (Stmt.uncasedOptional body) = Stmt.optionalReturns body := by
  cases body with
  | none => rfl
  | some body => exact anyReturns_uncased body

theorem anyReturns_uncased_branches (branches : List Branch) :
    Branch.anyReturns (Branch.uncasedAll branches) = Branch.anyReturns branches := by
  cases branches with
  | nil => rfl
  | cons first rest =>
      obtain ⟨condition, body, span⟩ := first
      rw [Branch.uncasedAll, Branch.anyReturns, Branch.anyReturns, anyReturns_uncased body,
        anyReturns_uncased_branches rest]

theorem anyReturns_uncased_arms (arms : List Arm) :
    Arm.anyReturns (Arm.uncasedAll arms) = Arm.anyReturns arms := by
  cases arms with
  | nil => rfl
  | cons first rest =>
      obtain ⟨values, body, span⟩ := first
      rw [Arm.uncasedAll, Arm.anyReturns, Arm.anyReturns, anyReturns_uncased body,
        anyReturns_uncased_arms rest]

end

/-! ## Programs -/

theorem checkRoutine_uncased (scope : Scope) (routine : RoutineKind) (parameters : List Parameter)
    (body : List Stmt) :
    scope.uncased.checkRoutine routine (parameters.map Parameter.uncased) (Stmt.uncasedAll body) =
      scope.checkRoutine routine parameters body := by
  have bindings : ((parameters.map Parameter.uncased).map fun parameter =>
        (parameter.name, parameter.binding)) =
      (parameters.map fun parameter => (parameter.name, parameter.binding)).map fun entry =>
        (entry.1, entry.2.uncased) := by
    rw [List.map_map, List.map_map]
    apply List.map_congr_left
    exact fun parameter _ => congrArg (Prod.mk _) parameter.binding_uncased
  unfold Scope.checkRoutine
  rw [bindings, Scope.push_uncased, Scope.declareAll_uncased]
  dsimp only
  rw [checkBody_uncased]

namespace Decl

variable (scope : Scope) (declaration : Decl)

theorem name_uncased : declaration.uncased.name = declaration.name := by
  cases declaration <;> rfl

theorem checkType_uncased :
    declaration.uncased.checkType scope.uncased = declaration.checkType scope := by
  cases declaration with
  | data item => exact RapidLang.checkType_uncased scope item.type
  | _ => rfl

theorem check_uncased : declaration.uncased.check scope.uncased = declaration.check scope := by
  cases declaration with
  | data item => exact checkOptional_uncased scope item.initial
  | proc _ parameters body => exact checkRoutine_uncased scope .proc parameters body
  | func type name parameters body =>
      rw [uncased, check, check, checkRoutine_uncased, anyReturns_uncased,
        Name.normalizeType_uncased]
  | record => rfl
  | trap _ body => exact checkRoutine_uncased scope .trap [] body

end Decl

theorem Module.check_uncased (content : Module) : content.uncased.check = content.check := by
  have bindings : ((content.declarations.map Decl.uncased).map fun declaration =>
        (declaration.name, declaration.binding)) =
      (content.declarations.map fun declaration => (declaration.name, declaration.binding)).map
        fun entry => (entry.1, entry.2.uncased) := by
    rw [List.map_map, List.map_map]
    apply List.map_congr_left
    intro declaration _
    exact Prod.ext declaration.name_uncased declaration.binding_uncased
  have declared := Scope.builtin.push.declareAll_uncased
    (content.declarations.map fun declaration => (declaration.name, declaration.binding))
  rw [← Scope.push_uncased, Scope.uncased_builtin, ← bindings] at declared
  unfold Module.check Module.uncased
  dsimp only
  rw [declared, List.flatMap_map, List.flatMap_map]
  simp only [Decl.checkType_uncased, Decl.check_uncased]

theorem Program.check_uncased (program : Program) : program.uncased.check = program.check := by
  rw [check, check, uncased, List.flatMap_map]
  simp only [Module.check_uncased]

/-- Programs that differ only in the letter case in which the names of built-in types are written, in
declarations of data, parameters, results and components, have the same reports in the same order. -/
theorem type_case_decides_nothing {program other : Program}
    (same : program.uncased = other.uncased) : program.diagnostics = other.diagnostics := by
  rw [Program.diagnostics, Program.diagnostics, ← program.check_uncased, same, other.check_uncased]

/-- A program that writes the type of numbers, and that of truth values, wherever a type may stand.
Its function returns a number in the place of a truth value. -/
def typedProgram (number truth : String) : Program :=
  let name (text : String) : Name := ⟨text, .origin⟩
  let selected : Expr := .component (.variable (name "v")) (name "f") .origin
  { modules := [
      { name := name "M"
        declarations :=
          [.record (name "r") [⟨name number, name "f", .origin⟩] .origin,
            .data ⟨.var, name "r", name "v", none⟩ .origin,
            .data ⟨.var, name number, name "x", none⟩ .origin,
            .func (name truth) (name "g") [⟨.input, name number, name "p", .origin⟩]
              [.data ⟨.var, name number, name "y", none⟩ .origin,
                .assign (.variable (name "y")) selected .origin,
                .assign (.variable (name "y")) (.variable (name "p")) .origin,
                .return (some (.variable (name "y"))) .origin] .origin]
        span := .origin }]
    span := .origin }

theorem type_case_decides_nothing_for_typedProgram :
    (typedProgram "NUM" "Bool").diagnostics.length = 1 ∧
      (typedProgram "NUM" "Bool").uncased = (typedProgram "num" "bOOl").uncased ∧
      (typedProgram "NUM" "Bool").diagnostics = (typedProgram "num" "bOOl").diagnostics := by
  have same : (typedProgram "NUM" "Bool").uncased = (typedProgram "num" "bOOl").uncased := by
    have upper : (⟨"NUM", .origin⟩ : Name).uncased = ⟨"num", .origin⟩ := by decide +kernel
    have lower : (⟨"num", .origin⟩ : Name).uncased = ⟨"num", .origin⟩ := by decide +kernel
    have mixed : (⟨"Bool", .origin⟩ : Name).uncased = (⟨"bOOl", .origin⟩ : Name).uncased := by
      decide +kernel
    simp only [typedProgram, Program.uncased, Module.uncased, List.map_cons, List.map_nil,
      Decl.uncased, Parameter.uncased, Component.uncased, DataItem.uncased, Stmt.uncasedAll,
      Stmt.uncased, upper, lower, mixed]
  exact ⟨by decide +kernel, same, type_case_decides_nothing same⟩

end RapidLang
