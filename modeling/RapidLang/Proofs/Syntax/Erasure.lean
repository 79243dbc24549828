import Mathlib.Logic.Basic
import RapidLang.Syntax.Parser.Program

/-!
# Trees without places

Erasing puts the empty span at the beginning of a text in the place of every span. Two values are
equal up to spans if they are equal once erased. What a program says, and how it is laid out, does
not depend on its spans.
-/

set_option autoImplicit false

namespace RapidLang

open Text

/-- Values whose spans can be erased. -/
class Erasable (α : Type) where
  erase : α → α

export Erasable (erase)

instance : Erasable Unit := ⟨id⟩

instance : Erasable Bool := ⟨id⟩

instance : Erasable TokenKind := ⟨id⟩

instance : Erasable Span := ⟨fun _ => .origin⟩

instance : Erasable Token := ⟨fun token => { token with span := .origin }⟩

instance : Erasable Name := ⟨fun name => { name with span := .origin }⟩

instance {α : Type} [Erasable α] : Erasable (List α) := ⟨List.map erase⟩

instance {α : Type} [Erasable α] : Erasable (Option α) := ⟨Option.map erase⟩

instance {α β : Type} [Erasable α] [Erasable β] : Erasable (α × β) := ⟨Prod.map erase erase⟩

section Containers

variable {α β : Type} [Erasable α] [Erasable β]

@[simp] theorem erase_nil : erase ([] : List α) = [] := rfl

@[simp] theorem erase_cons (first : α) (rest : List α) :
    erase (first :: rest) = erase first :: erase rest := rfl

@[simp] theorem erase_append (left right : List α) :
    erase (left ++ right) = erase left ++ erase right :=
  List.map_append

@[simp] theorem erase_reverse (items : List α) : erase items.reverse = (erase items).reverse :=
  List.map_reverse

@[simp] theorem erase_none : erase (none : Option α) = none := rfl

@[simp] theorem erase_some (value : α) : erase (some value) = some (erase value) := rfl

@[simp] theorem erase_pair (first : α) (second : β) :
    erase (first, second) = (erase first, erase second) := rfl

@[simp] theorem erase_unit (value : Unit) : erase value = value := rfl

@[simp] theorem erase_bool (value : Bool) : erase value = value := rfl

@[simp] theorem erase_kind (kind : TokenKind) : erase kind = kind := rfl

@[simp] theorem erase_span (span : Span) : erase span = .origin := rfl

@[simp] theorem erase_token (token : Token) : erase token = ⟨token.kind, token.text, .origin⟩ := rfl

@[simp] theorem erase_name (name : Name) : erase name = ⟨name.text, .origin⟩ := rfl

end Containers

/-! ## Expressions -/

mutual

/-- An expression without its spans. -/
def Expr.erase : Expr → Expr
  | .number value _ => .number value .origin
  | .truth value _ => .truth value .origin
  | .string value _ => .string value .origin
  | .variable name => .variable (RapidLang.erase name)
  | .index base position _ => .index base.erase position.erase .origin
  | .component base name _ => .component base.erase (RapidLang.erase name) .origin
  | .call routine arguments _ =>
    .call (RapidLang.erase routine) (Expr.eraseAll arguments) .origin
  | .unary operator operand _ => .unary operator operand.erase .origin
  | .binary operator left right _ => .binary operator left.erase right.erase .origin

/-- Several expressions without their spans. -/
def Expr.eraseAll : List Expr → List Expr
  | [] => []
  | first :: rest => first.erase :: Expr.eraseAll rest

end

instance : Erasable Expr := ⟨Expr.erase⟩

theorem Expr.eraseAll_eq (expressions : List Expr) :
    Expr.eraseAll expressions = RapidLang.erase expressions := by
  induction expressions with
  | nil => rfl
  | cons first rest ih => exact congrArg (first.erase :: ·) ih

section Expressions

variable (text : String) (name : Name) (base left right : Expr) (span : Span)

@[simp] theorem erase_number (value : Binary64) :
    erase (Expr.number value span) = .number value .origin := rfl

@[simp] theorem erase_truth (value : Bool) :
    erase (Expr.truth value span) = .truth value .origin := rfl

@[simp] theorem erase_string : erase (Expr.string text span) = .string text .origin := rfl

@[simp] theorem erase_variable : erase (Expr.variable name) = .variable (erase name) := rfl

@[simp] theorem erase_index :
    erase (Expr.index base right span) = .index (erase base) (erase right) .origin := rfl

@[simp] theorem erase_component :
    erase (Expr.component base name span) = .component (erase base) (erase name) .origin := rfl

@[simp] theorem erase_call (arguments : List Expr) :
    erase (Expr.call name arguments span) = .call (erase name) (erase arguments) .origin :=
  congrArg (Expr.call _ · _) (Expr.eraseAll_eq arguments)

@[simp] theorem erase_unary (operator : UnaryOperator) :
    erase (Expr.unary operator base span) = .unary operator (erase base) .origin := rfl

@[simp] theorem erase_binary (operator : BinaryOperator) :
    erase (Expr.binary operator left right span) =
      .binary operator (erase left) (erase right) .origin := rfl

@[simp] theorem erase_join (operator : BinaryOperator) :
    erase (left.join operator right) = .binary operator (erase left) (erase right) .origin := rfl

@[simp] theorem erase_select :
    erase (base.select name) = .component (erase base) (erase name) .origin := rfl

end Expressions

/-! ## Statements -/

/-- A data item without its spans. -/
def DataItem.erase (item : DataItem) : DataItem :=
  ⟨item.storage, RapidLang.erase item.type, RapidLang.erase item.name,
    RapidLang.erase item.initial⟩

instance : Erasable DataItem := ⟨DataItem.erase⟩

/-- A motion without its spans. -/
def Move.erase (move : Move) : Move :=
  ⟨move.motion, move.target.erase, move.speed.erase, move.zone.erase, move.tool.erase,
    RapidLang.erase move.workObject⟩

mutual

/-- A statement without its spans. -/
def Stmt.erase : Stmt → Stmt
  | .block body _ => .block (Stmt.eraseAll body) .origin
  | .assign target value _ => .assign target.erase value.erase .origin
  | .expression value _ => .expression value.erase .origin
  | .conditional branches otherwise _ =>
    .conditional (Branch.eraseAll branches) (Stmt.eraseOptional otherwise) .origin
  | .while condition body _ => .while condition.erase (Stmt.eraseAll body) .origin
  | .for counter first last body _ =>
    .for (RapidLang.erase counter) first.erase last.erase (Stmt.eraseAll body) .origin
  | .return value _ => .return (RapidLang.erase value) .origin
  | .move move _ => .move move.erase .origin
  | .test subject arms default _ =>
    .test subject.erase (Arm.eraseAll arms) (Stmt.eraseOptional default) .origin
  | .connect trap error _ => .connect (RapidLang.erase trap) (RapidLang.erase error) .origin
  | .raise error _ => .raise (RapidLang.erase error) .origin
  | .data item _ => .data item.erase .origin

/-- Several statements without their spans. -/
def Stmt.eraseAll : List Stmt → List Stmt
  | [] => []
  | first :: rest => first.erase :: Stmt.eraseAll rest

/-- Statements that may be missing, without their spans. -/
def Stmt.eraseOptional : Option (List Stmt) → Option (List Stmt)
  | none => none
  | some body => some (Stmt.eraseAll body)

/-- A branch without its spans. -/
def Branch.erase : Branch → Branch
  | .mk condition body _ => .mk condition.erase (Stmt.eraseAll body) .origin

/-- Several branches without their spans. -/
def Branch.eraseAll : List Branch → List Branch
  | [] => []
  | first :: rest => first.erase :: Branch.eraseAll rest

/-- An arm without its spans. -/
def Arm.erase : Arm → Arm
  | .mk values body _ => .mk (Expr.eraseAll values) (Stmt.eraseAll body) .origin

/-- Several arms without their spans. -/
def Arm.eraseAll : List Arm → List Arm
  | [] => []
  | first :: rest => first.erase :: Arm.eraseAll rest

end

instance : Erasable Stmt := ⟨Stmt.erase⟩

instance : Erasable Branch := ⟨Branch.erase⟩

instance : Erasable Arm := ⟨Arm.erase⟩

theorem Stmt.eraseAll_eq (statements : List Stmt) :
    Stmt.eraseAll statements = RapidLang.erase statements := by
  induction statements with
  | nil => rfl
  | cons first rest ih => exact congrArg (first.erase :: ·) ih

theorem Stmt.eraseOptional_eq (body : Option (List Stmt)) :
    Stmt.eraseOptional body = RapidLang.erase body := by
  cases body with
  | none => rfl
  | some body => exact congrArg some (Stmt.eraseAll_eq body)

theorem Branch.eraseAll_eq (branches : List Branch) :
    Branch.eraseAll branches = RapidLang.erase branches := by
  induction branches with
  | nil => rfl
  | cons first rest ih => exact congrArg (first.erase :: ·) ih

theorem Arm.eraseAll_eq (arms : List Arm) : Arm.eraseAll arms = RapidLang.erase arms := by
  induction arms with
  | nil => rfl
  | cons first rest ih => exact congrArg (first.erase :: ·) ih

section Statements

variable (name other : Name) (first second : Expr) (body : List Stmt)
  (optional : Option (List Stmt)) (span : Span)

@[simp] theorem erase_block : erase (Stmt.block body span) = .block (erase body) .origin :=
  congrArg (Stmt.block · _) (Stmt.eraseAll_eq body)

@[simp] theorem erase_assign :
    erase (Stmt.assign first second span) = .assign (erase first) (erase second) .origin := rfl

@[simp] theorem erase_expression :
    erase (Stmt.expression first span) = .expression (erase first) .origin := rfl

@[simp] theorem erase_conditional (branches : List Branch) :
    erase (Stmt.conditional branches optional span) =
      .conditional (erase branches) (erase optional) .origin :=
  congrArg₂ (Stmt.conditional · · _) (Branch.eraseAll_eq branches) (Stmt.eraseOptional_eq optional)

@[simp] theorem erase_while :
    erase (Stmt.while first body span) = .while (erase first) (erase body) .origin :=
  congrArg (Stmt.while _ · _) (Stmt.eraseAll_eq body)

@[simp] theorem erase_for :
    erase (Stmt.for name first second body span) =
      .for (erase name) (erase first) (erase second) (erase body) .origin :=
  congrArg (Stmt.for _ _ _ · _) (Stmt.eraseAll_eq body)

@[simp] theorem erase_return (value : Option Expr) :
    erase (Stmt.return value span) = .return (erase value) .origin := rfl

@[simp] theorem erase_move (motion : Motion) (target speed zone tool : Expr)
    (workObject : Option Expr) :
    erase (Stmt.move ⟨motion, target, speed, zone, tool, workObject⟩ span) =
      .move ⟨motion, erase target, erase speed, erase zone, erase tool, erase workObject⟩
        .origin := rfl

@[simp] theorem erase_test (arms : List Arm) :
    erase (Stmt.test first arms optional span) =
      .test (erase first) (erase arms) (erase optional) .origin :=
  congrArg₂ (Stmt.test _ · · _) (Arm.eraseAll_eq arms) (Stmt.eraseOptional_eq optional)

@[simp] theorem erase_connect :
    erase (Stmt.connect name other span) = .connect (erase name) (erase other) .origin := rfl

@[simp] theorem erase_raise : erase (Stmt.raise name span) = .raise (erase name) .origin := rfl

@[simp] theorem erase_data (item : DataItem) :
    erase (Stmt.data item span) = .data (erase item) .origin := rfl

@[simp] theorem erase_dataItem (storage : Storage) (initial : Option Expr) :
    erase (⟨storage, name, other, initial⟩ : DataItem) =
      ⟨storage, erase name, erase other, erase initial⟩ := rfl

@[simp] theorem erase_branch :
    erase (Branch.mk first body span) = .mk (erase first) (erase body) .origin :=
  congrArg (Branch.mk _ · _) (Stmt.eraseAll_eq body)

@[simp] theorem erase_arm (values : List Expr) :
    erase (Arm.mk values body span) = .mk (erase values) (erase body) .origin :=
  congrArg₂ (Arm.mk · · _) (Expr.eraseAll_eq values) (Stmt.eraseAll_eq body)

end Statements

/-- A part of a selection without its spans. -/
def Parser.TestPart.erase : Parser.TestPart → Parser.TestPart
  | .arm content => .arm content.erase
  | .default body => .default (Stmt.eraseAll body)

instance : Erasable Parser.TestPart := ⟨Parser.TestPart.erase⟩

@[simp] theorem erase_testPart_arm (arm : Arm) :
    erase (Parser.TestPart.arm arm) = .arm (erase arm) := rfl

@[simp] theorem erase_testPart_default (body : List Stmt) :
    erase (Parser.TestPart.default body) = .default (erase body) :=
  congrArg Parser.TestPart.default (Stmt.eraseAll_eq body)

/-! ## Programs -/

instance : Erasable Parameter :=
  ⟨fun parameter => ⟨parameter.mode, erase parameter.type, erase parameter.name, .origin⟩⟩

instance : Erasable Component :=
  ⟨fun component => ⟨erase component.type, erase component.name, .origin⟩⟩

/-- A declaration without its spans. -/
def Decl.erase : Decl → Decl
  | .data item _ => .data item.erase .origin
  | .proc name parameters body _ =>
    .proc (RapidLang.erase name) (RapidLang.erase parameters) (Stmt.eraseAll body) .origin
  | .func type name parameters body _ =>
    .func (RapidLang.erase type) (RapidLang.erase name) (RapidLang.erase parameters)
      (Stmt.eraseAll body) .origin
  | .record name components _ =>
    .record (RapidLang.erase name) (RapidLang.erase components) .origin
  | .trap name body _ => .trap (RapidLang.erase name) (Stmt.eraseAll body) .origin

instance : Erasable Decl := ⟨Decl.erase⟩

/-- A module without its spans. -/
def Module.erase (content : Module) : Module :=
  ⟨RapidLang.erase content.name, RapidLang.erase content.declarations, .origin⟩

instance : Erasable Module := ⟨Module.erase⟩

/-- A program without its spans. -/
def Program.erase (program : Program) : Program :=
  ⟨RapidLang.erase program.modules, .origin⟩

instance : Erasable Program := ⟨Program.erase⟩

section Programs

variable (type name : Name) (parameters : List Parameter) (body : List Stmt) (span : Span)

@[simp] theorem erase_parameter (mode : ParameterMode) :
    erase (⟨mode, type, name, span⟩ : Parameter) = ⟨mode, erase type, erase name, .origin⟩ := rfl

@[simp] theorem erase_recordComponent :
    erase (⟨type, name, span⟩ : Component) = ⟨erase type, erase name, .origin⟩ := rfl

@[simp] theorem erase_dataDeclaration (item : DataItem) :
    erase (Decl.data item span) = .data (erase item) .origin := rfl

@[simp] theorem erase_proc :
    erase (Decl.proc name parameters body span) =
      .proc (erase name) (erase parameters) (erase body) .origin :=
  congrArg (Decl.proc _ _ · _) (Stmt.eraseAll_eq body)

@[simp] theorem erase_func :
    erase (Decl.func type name parameters body span) =
      .func (erase type) (erase name) (erase parameters) (erase body) .origin :=
  congrArg (Decl.func _ _ _ · _) (Stmt.eraseAll_eq body)

@[simp] theorem erase_record (components : List Component) :
    erase (Decl.record name components span) =
      .record (erase name) (erase components) .origin := rfl

@[simp] theorem erase_trap :
    erase (Decl.trap name body span) = .trap (erase name) (erase body) .origin :=
  congrArg (Decl.trap _ · _) (Stmt.eraseAll_eq body)

@[simp] theorem erase_module (declarations : List Decl) :
    erase (⟨name, declarations, span⟩ : Module) = ⟨erase name, erase declarations, .origin⟩ := rfl

@[simp] theorem erase_program (modules : List Module) :
    erase (⟨modules, span⟩ : Program) = ⟨erase modules, .origin⟩ := rfl

end Programs

end RapidLang
