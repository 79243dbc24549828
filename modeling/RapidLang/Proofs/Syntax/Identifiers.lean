import RapidLang.Proofs.Syntax.Arrangement

/-!
# Identifiers

Every name in a tree, with what it stands for there. The names in a statement are gathered from its
head and from its expressions, those in a body from the statements at every depth.
-/

set_option autoImplicit false

namespace RapidLang

/-- What a name stands for where it stands. -/
inductive Role where
  | module
  | data
  | routine
  | record
  | trap
  | parameter
  | localData
  | counter
  | component
  | selection
  | use
  deriving DecidableEq, Repr

/-- A name of a tree. -/
structure Identifier where
  name : Name
  role : Role
  deriving DecidableEq, Repr

/-! ## Gathering -/

def Mention.identifier : Mention → Identifier
  | .use used => ⟨used.name, .use⟩
  | .selection _ name => ⟨name, .selection⟩

def Expr.identifiers (expression : Expr) : List Identifier :=
  expression.mentions.map Mention.identifier

/-- The names in the declaration of a data item outside its initial value. -/
def DataItem.identifiers (role : Role) (item : DataItem) : List Identifier :=
  [⟨item.type, .use⟩, ⟨item.name, role⟩]

namespace Stmt

/-- The names in a statement outside its expressions and bodies. -/
def headIdentifiers : Stmt → List Identifier
  | .for counter _ _ _ _ => [⟨counter, .counter⟩]
  | .connect trap error _ => [⟨trap, .use⟩, ⟨error, .use⟩]
  | .raise error _ => [⟨error, .use⟩]
  | .data item _ => item.identifiers .localData
  | .block _ _ | .assign _ _ _ | .expression _ _ | .conditional _ _ _ | .while _ _ _ | .return _ _
  | .move _ _ | .test _ _ _ _ => []

/-- The names in a statement outside its bodies. -/
def identifiers (statement : Stmt) : List Identifier :=
  statement.headIdentifiers ++ statement.expressions.flatMap Expr.identifiers

/-- The names in a body, at every depth. -/
def allIdentifiers (body : List Stmt) : List Identifier :=
  (all body).flatMap identifiers

theorem allIdentifiers_nil : allIdentifiers [] = [] := by
  rw [allIdentifiers, all_nil, List.flatMap_nil]

theorem allIdentifiers_cons (first : Stmt) (rest : List Stmt) :
    allIdentifiers (first :: rest) = first.identifiers
      ++ (first.bodies.flatMap fun nested => allIdentifiers nested.statements)
      ++ allIdentifiers rest := by
  rw [allIdentifiers, all_cons, List.flatMap_append, List.flatMap_cons, List.flatMap_assoc]
  rfl

end Stmt

def Parameter.identifiers (parameter : Parameter) : List Identifier :=
  [⟨parameter.type, .use⟩, ⟨parameter.name, .parameter⟩]

def Component.identifiers (component : Component) : List Identifier :=
  [⟨component.type, .use⟩, ⟨component.name, .component⟩]

def Decl.identifiers : Decl → List Identifier
  | .data item _ => item.identifiers .data ++ item.initial.toList.flatMap Expr.identifiers
  | .proc name parameters body _ =>
    ⟨name, .routine⟩ :: parameters.flatMap Parameter.identifiers ++ Stmt.allIdentifiers body
  | .func type name parameters body _ =>
    ⟨type, .use⟩ :: ⟨name, .routine⟩ :: parameters.flatMap Parameter.identifiers
      ++ Stmt.allIdentifiers body
  | .record name components _ => ⟨name, .record⟩ :: components.flatMap Component.identifiers
  | .trap name body _ => ⟨name, .trap⟩ :: Stmt.allIdentifiers body

def Module.identifiers (content : Module) : List Identifier :=
  ⟨content.name, .module⟩ :: content.declarations.flatMap Decl.identifiers

/-- The names in a program. -/
def Program.identifiers (program : Program) : List Identifier :=
  program.modules.flatMap Module.identifiers

/-! ## Names of a tree with nested spans -/

section Nested

variable {named : Name → Prop}

/-- All the names are as they should be. -/
def Identifier.AllNested (named : Name → Prop) (identifiers : List Identifier) : Prop :=
  ∀ identifier ∈ identifiers, identifier.name.Nested named

open Identifier

namespace Identifier.AllNested

variable {first rest : List Identifier}

theorem nil : AllNested named [] :=
  fun _ member => absurd member List.not_mem_nil

theorem cons {name : Name} {role : Role} (nested : name.Nested named)
    (others : AllNested named rest) : AllNested named (⟨name, role⟩ :: rest) :=
  List.forall_mem_cons.mpr ⟨nested, others⟩

theorem append (nested : AllNested named first) (nested' : AllNested named rest) :
    AllNested named (first ++ rest) :=
  List.forall_mem_append.mpr ⟨nested, nested'⟩

theorem flatMap {α : Type} {items : List α} {gather : α → List Identifier}
    (each : ∀ item ∈ items, AllNested named (gather item)) :
    AllNested named (items.flatMap gather) := by
  intro identifier member
  obtain ⟨item, inside, member⟩ := List.mem_flatMap.mp member
  exact each item inside identifier member

end Identifier.AllNested

theorem Expr.Nested.identifiers {expression : Expr} (nested : expression.Nested named) :
    AllNested named expression.identifiers := by
  induction nested with
  | number | truth | string => exact .nil
  | «variable» name => exact .cons name .nil
  | index _ _ _ baseIH positionIH | binary _ _ _ baseIH positionIH =>
      rw [Expr.identifiers, Expr.mentions, List.map_append]
      exact .append baseIH positionIH
  | component _ _ name baseIH =>
      rw [Expr.identifiers, Expr.mentions, List.map_append]
      exact .append baseIH (.cons name .nil)
  | call _ routine _ _ argumentIH =>
      rw [Expr.identifiers, Expr.mentions, Expr.allMentions_eq, List.map_cons, List.map_flatMap]
      exact .cons routine (.flatMap argumentIH)
  | unary _ _ operandIH => exact operandIH

theorem DataItem.Nested.identifiers {item : DataItem} {span : Text.Span} {role : Role}
    (nested : item.Nested named span) : AllNested named (item.identifiers role) :=
  .cons nested.type (.cons nested.name .nil)

/-- The expressions of a statement with nested spans have nested spans. -/
theorem Stmt.Nested.expressions {statement : Stmt} (nested : statement.Nested named) :
    ∀ expression ∈ statement.expressions, expression.Nested named := by
  cases nested with
  | assign _ target value => simp [Stmt.expressions, target, value]
  | expression _ value | «while» _ value => simp [Stmt.expressions, value]
  | conditional _ branches =>
      refine List.forall_mem_map.mpr fun branch member => ?_
      cases branches branch member with
      | mk _ condition => exact condition
  | «for» _ _ first last => simp [Stmt.expressions, first, last]
  | «return» _ value =>
      exact fun expression member => (value expression (Option.mem_toList.mp member)).2
  | move move =>
      refine List.forall_mem_append.mpr ⟨?_, ?_⟩
      · simp [move.target, move.speed, move.zone, move.tool]
      · exact fun expression member =>
          (move.workObject expression (Option.mem_toList.mp member)).2
  | test _ subject _ arms =>
      refine List.forall_mem_cons.mpr ⟨subject, fun expression member => ?_⟩
      obtain ⟨arm, inside, member⟩ := List.mem_flatMap.mp member
      cases arms arm inside with
      | mk _ values => exact values expression member
  | data item =>
      exact fun expression member => (item.initial expression (Option.mem_toList.mp member)).2
  | block | connect | raise => exact fun _ member => absurd member List.not_mem_nil

theorem Stmt.Nested.identifiers {statement : Stmt} (nested : statement.Nested named) :
    AllNested named statement.identifiers := by
  have values : AllNested named (statement.expressions.flatMap Expr.identifiers) :=
    .flatMap fun expression member => (nested.expressions expression member).identifiers
  refine .append ?_ values
  cases nested with
  | «for» _ counter => exact .cons counter .nil
  | connect _ trap error => exact .cons trap (.cons error .nil)
  | raise _ error => exact .cons error .nil
  | data item => exact item.identifiers
  | _ => exact .nil

theorem Stmt.Row.identifiers {body : List Stmt} (row : Row named body) :
    AllNested named (allIdentifiers body) := by
  induction body using Stmt.body_induction with
  | nil =>
      rw [allIdentifiers_nil]
      exact .nil
  | cons first rest innerIH restIH =>
      rw [allIdentifiers_cons]
      have bodies := fun nested member => innerIH nested member (row.head.row nested member)
      exact .append (.append row.head.identifiers (.flatMap bodies)) (restIH row.tail)

theorem Decl.Nested.identifiers {declaration : Decl} (nested : declaration.Nested named) :
    AllNested named declaration.identifiers := by
  have parameter : ∀ parameter : Parameter, parameter.Nested named →
      AllNested named parameter.identifiers :=
    fun _ nested => .cons nested.type (.cons nested.name .nil)
  cases nested with
  | data item =>
      refine .append item.identifiers (.flatMap fun expression member => ?_)
      exact (item.initial expression (Option.mem_toList.mp member)).2.identifiers
  | proc _ name _ parameters lists body =>
      exact .append (.cons name (.flatMap fun _ member => parameter _ (parameters _ member)))
        (Stmt.Row.identifiers ⟨body, lists.2⟩)
  | func _ type name _ parameters lists body =>
      exact .append
        (.cons type (.cons name (.flatMap fun _ member => parameter _ (parameters _ member))))
        (Stmt.Row.identifiers ⟨body, lists.2⟩)
  | record _ name _ components =>
      refine .cons name (.flatMap fun component member => ?_)
      obtain ⟨_, type, own⟩ := components component member
      exact .cons type (.cons own .nil)
  | trap _ name lists body => exact .cons name (Stmt.Row.identifiers ⟨body, lists.2⟩)

/-- All names of a program with nested spans are as they should be. -/
theorem Program.Nested.identifiers {program : Program} (nested : program.Nested named) :
    AllNested named program.identifiers := by
  refine .flatMap fun content member => ?_
  obtain ⟨_, name, _, declarations⟩ := nested.modules content member
  exact .cons name (.flatMap fun declaration inside => (declarations declaration inside).identifiers)

end Nested

end RapidLang
