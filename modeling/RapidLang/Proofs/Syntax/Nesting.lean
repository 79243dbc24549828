import RapidLang.Proofs.Text.Span
import RapidLang.Syntax.Program

/-!
# Trees with nested spans

In a tree with nested spans every node has a span that is not empty and lies within the span of
the node above it, and what a list holds stands in order. What is required of the names is left
open; of a tree that was read from a text it is that the text at the span of a name is the name.
-/

set_option autoImplicit false

namespace RapidLang

open Text

/-- The span is not empty and holds others, which stand in order. -/
def Text.Span.Lists (span : Span) (parts : List Span) : Prop :=
  span.Holds parts ∧ parts.Pairwise Span.Before

theorem Text.Span.Lists.within {span : Span} {α : Type} {place : α → Span} {values : List α}
    (lists : span.Lists (values.map place)) : ∀ value ∈ values, (place value).Within span :=
  List.forall_mem_map.mp lists.1.2

variable (named : Name → Prop)

/-- The span of the name is not empty, and the name is as it should be. -/
def Name.Nested (name : Name) : Prop :=
  name.span.Filled ∧ named name

/-! ## Expressions -/

/-- The spans of the expression are nested. -/
inductive Expr.Nested : Expr → Prop where
  | number {value : Binary64} {span : Span} : span.Filled → Expr.Nested (.number value span)
  | truth {value : Bool} {span : Span} : span.Filled → Expr.Nested (.truth value span)
  | string {value : String} {span : Span} : span.Filled → Expr.Nested (.string value span)
  | variable {name : Name} : name.Nested named → Expr.Nested (.variable name)
  | index {base position : Expr} {span : Span} :
      span.Holds [base.span, position.span] → Expr.Nested base → Expr.Nested position →
      Expr.Nested (.index base position span)
  | component {base : Expr} {name : Name} {span : Span} :
      span.Holds [base.span, name.span] → Expr.Nested base → name.Nested named →
      Expr.Nested (.component base name span)
  | call {routine : Name} {arguments : List Expr} {span : Span} :
      span.Holds [routine.span] → routine.Nested named → span.Lists (arguments.map Expr.span) →
      (∀ argument ∈ arguments, Expr.Nested argument) → Expr.Nested (.call routine arguments span)
  | unary {operator : UnaryOperator} {operand : Expr} {span : Span} :
      span.Holds [operand.span] → Expr.Nested operand → Expr.Nested (.unary operator operand span)
  | binary {operator : BinaryOperator} {left right : Expr} {span : Span} :
      span.Lists [left.span, right.span] → Expr.Nested left → Expr.Nested right →
      Expr.Nested (.binary operator left right span)

/-! ## Statements -/

/-- The parts of the data item lie within a span, with nested spans. -/
structure DataItem.Nested (span : Span) (item : DataItem) : Prop where
  holds : span.Holds [item.type.span, item.name.span]
  type : item.type.Nested named
  name : item.name.Nested named
  initial : ∀ value ∈ item.initial, value.span.Within span ∧ value.Nested named

/-- The operands of the motion lie within a span, with nested spans. -/
structure Move.Nested (span : Span) (move : Move) : Prop where
  holds : span.Holds [move.target.span, move.speed.span, move.zone.span, move.tool.span]
  target : move.target.Nested named
  speed : move.speed.Nested named
  zone : move.zone.Nested named
  tool : move.tool.Nested named
  workObject : ∀ value ∈ move.workObject, value.span.Within span ∧ value.Nested named

mutual

/-- The spans of the statement are nested. -/
inductive Stmt.Nested : Stmt → Prop where
  | block {body : List Stmt} {span : Span} :
      span.Lists (body.map Stmt.span) → (∀ statement ∈ body, Stmt.Nested statement) →
      Stmt.Nested (.block body span)
  | assign {target value : Expr} {span : Span} :
      span.Holds [target.span, value.span] → target.Nested named → value.Nested named →
      Stmt.Nested (.assign target value span)
  | expression {value : Expr} {span : Span} :
      span.Holds [value.span] → value.Nested named → Stmt.Nested (.expression value span)
  | conditional {branches : List Branch} {otherwise : Option (List Stmt)} {span : Span} :
      span.Lists (branches.map Branch.span) → (∀ branch ∈ branches, Branch.Nested branch) →
      (∀ body ∈ otherwise, span.Lists (body.map Stmt.span)) →
      (∀ body ∈ otherwise, ∀ statement ∈ body, Stmt.Nested statement) →
      Stmt.Nested (.conditional branches otherwise span)
  | while {condition : Expr} {body : List Stmt} {span : Span} :
      span.Holds [condition.span] → condition.Nested named → span.Lists (body.map Stmt.span) →
      (∀ statement ∈ body, Stmt.Nested statement) → Stmt.Nested (.while condition body span)
  | for {counter : Name} {first last : Expr} {body : List Stmt} {span : Span} :
      span.Holds [counter.span, first.span, last.span] → counter.Nested named →
      first.Nested named → last.Nested named → span.Lists (body.map Stmt.span) →
      (∀ statement ∈ body, Stmt.Nested statement) →
      Stmt.Nested (.for counter first last body span)
  | return {value : Option Expr} {span : Span} :
      span.Filled → (∀ expression ∈ value, expression.span.Within span ∧ expression.Nested named) →
      Stmt.Nested (.return value span)
  | move {move : Move} {span : Span} : move.Nested named span → Stmt.Nested (.move move span)
  | test {subject : Expr} {arms : List Arm} {default : Option (List Stmt)} {span : Span} :
      span.Holds [subject.span] → subject.Nested named → span.Lists (arms.map Arm.span) →
      (∀ arm ∈ arms, Arm.Nested arm) → (∀ body ∈ default, span.Lists (body.map Stmt.span)) →
      (∀ body ∈ default, ∀ statement ∈ body, Stmt.Nested statement) →
      Stmt.Nested (.test subject arms default span)
  | connect {trap error : Name} {span : Span} :
      span.Holds [trap.span, error.span] → trap.Nested named → error.Nested named →
      Stmt.Nested (.connect trap error span)
  | raise {error : Name} {span : Span} :
      span.Holds [error.span] → error.Nested named → Stmt.Nested (.raise error span)
  | data {item : DataItem} {span : Span} :
      item.Nested named span → Stmt.Nested (.data item span)

/-- The spans of the branch are nested. -/
inductive Branch.Nested : Branch → Prop where
  | mk {condition : Expr} {body : List Stmt} {span : Span} :
      span.Holds [condition.span] → condition.Nested named → span.Lists (body.map Stmt.span) →
      (∀ statement ∈ body, Stmt.Nested statement) → Branch.Nested (.mk condition body span)

/-- The spans of the arm are nested. -/
inductive Arm.Nested : Arm → Prop where
  | mk {values : List Expr} {body : List Stmt} {span : Span} :
      span.Lists (values.map Expr.span) → (∀ value ∈ values, value.Nested named) →
      span.Lists (body.map Stmt.span) → (∀ statement ∈ body, Stmt.Nested statement) →
      Arm.Nested (.mk values body span)

end

/-! ## Programs -/

/-- The spans of the parameter are nested. -/
structure Parameter.Nested (parameter : Parameter) : Prop where
  holds : parameter.span.Holds [parameter.type.span, parameter.name.span]
  type : parameter.type.Nested named
  name : parameter.name.Nested named

/-- The spans of the component are nested. -/
structure Component.Nested (component : Component) : Prop where
  holds : component.span.Holds [component.type.span, component.name.span]
  type : component.type.Nested named
  name : component.name.Nested named

/-- The spans of the declaration are nested. -/
inductive Decl.Nested : Decl → Prop where
  | data {item : DataItem} {span : Span} : item.Nested named span → Decl.Nested (.data item span)
  | proc {name : Name} {parameters : List Parameter} {body : List Stmt} {span : Span} :
      span.Holds [name.span] → name.Nested named →
      span.Lists (parameters.map Parameter.span) → (∀ parameter ∈ parameters, parameter.Nested named) →
      span.Lists (body.map Stmt.span) → (∀ statement ∈ body, statement.Nested named) →
      Decl.Nested (.proc name parameters body span)
  | func {type name : Name} {parameters : List Parameter} {body : List Stmt} {span : Span} :
      span.Holds [type.span, name.span] → type.Nested named → name.Nested named →
      span.Lists (parameters.map Parameter.span) → (∀ parameter ∈ parameters, parameter.Nested named) →
      span.Lists (body.map Stmt.span) → (∀ statement ∈ body, statement.Nested named) →
      Decl.Nested (.func type name parameters body span)
  | record {name : Name} {components : List Component} {span : Span} :
      span.Holds [name.span] → name.Nested named → span.Lists (components.map Component.span) →
      (∀ component ∈ components, component.Nested named) →
      Decl.Nested (.record name components span)
  | trap {name : Name} {body : List Stmt} {span : Span} :
      span.Holds [name.span] → name.Nested named → span.Lists (body.map Stmt.span) →
      (∀ statement ∈ body, statement.Nested named) → Decl.Nested (.trap name body span)

/-- The spans of the module are nested. -/
structure Module.Nested (content : Module) : Prop where
  holds : content.span.Holds [content.name.span]
  name : content.name.Nested named
  lists : content.span.Lists (content.declarations.map Decl.span)
  declarations : ∀ declaration ∈ content.declarations, declaration.Nested named

/-- The spans of the program are nested. A program without modules has an empty span. -/
structure Program.Nested (program : Program) : Prop where
  within : ∀ content ∈ program.modules, content.span.Within program.span
  ordered : (program.modules.map Module.span).Pairwise Span.Before
  modules : ∀ content ∈ program.modules, content.Nested named

/-! ## Names of declarations -/

namespace Decl.Nested

variable {named : Name → Prop} {declaration : Decl}

theorem filled (nested : declaration.Nested named) : declaration.span.Filled := by
  cases nested with
  | data nested => exact nested.holds.1
  | proc holds _ _ _ _ _ => exact holds.1
  | func holds _ _ _ _ _ _ => exact holds.1
  | record holds _ _ _ => exact holds.1
  | trap holds _ _ _ => exact holds.1

theorem name (nested : declaration.Nested named) :
    declaration.name.span.Within declaration.span ∧ declaration.name.span.Filled := by
  cases nested with
  | data nested => exact ⟨nested.holds.2 _ (by simp [Decl.name]), nested.name.1⟩
  | proc holds name _ _ _ _ => exact ⟨holds.2 _ (by simp [Decl.name]), name.1⟩
  | func holds _ name _ _ _ _ => exact ⟨holds.2 _ (by simp [Decl.name]), name.1⟩
  | record holds name _ _ => exact ⟨holds.2 _ (by simp [Decl.name]), name.1⟩
  | trap holds name _ _ => exact ⟨holds.2 _ (by simp [Decl.name]), name.1⟩

end Decl.Nested

end RapidLang
