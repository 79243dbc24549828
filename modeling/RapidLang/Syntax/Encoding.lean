import RapidLang.Json.Basic
import RapidLang.Syntax.Program

/-!
# Trees as JSON

The published form of a syntax tree. A node with alternatives is an object whose only key names
the alternative, or the bare name if the alternative holds nothing. How spans and numbers are
written is left to the caller.
-/

set_option autoImplicit false

namespace RapidLang

open Text

structure TreeEncoding where
  span : Span → Json
  number : Binary64 → Json

def encodePosition (position : Position) : Json :=
  .object [("line", .ofNat position.line), ("col", .ofNat position.column)]

def encodeSpan (span : Span) : Json :=
  .object [("start", encodePosition span.start), ("end", encodePosition span.stop)]

namespace TreeEncoding

def standard : TreeEncoding :=
  ⟨encodeSpan, .float⟩

def alternative (name : String) (content : Json) : Json :=
  .object [(name, content)]

def node (encoding : TreeEncoding) (kind : Json) (span : Span) : Json :=
  .object [("kind", kind), ("span", encoding.span span)]

def name (encoding : TreeEncoding) (name : Name) : Json :=
  .object [("name", .string name.text), ("span", encoding.span name.span)]

def unaryOperator : UnaryOperator → Json
  | .not => .string "Not"
  | .plus => .string "Plus"
  | .minus => .string "Minus"

def binaryOperator : BinaryOperator → Json
  | .add => .string "Add"
  | .subtract => .string "Sub"
  | .multiply => .string "Mul"
  | .divide => .string "Div"
  | .equal => .string "Eq"
  | .notEqual => .string "Neq"
  | .less => .string "Lt"
  | .greater => .string "Gt"
  | .lessEqual => .string "Le"
  | .greaterEqual => .string "Ge"
  | .and => .string "And"
  | .or => .string "Or"

mutual

def expr (encoding : TreeEncoding) : Expr → Json
  | .number value span => encoding.node (alternative "Number" (encoding.number value)) span
  | .truth value span => encoding.node (alternative "Bool" (.bool value)) span
  | .string value span => encoding.node (alternative "String" (.string value)) span
  | .variable name =>
    encoding.node (alternative "Var" (encoding.name name)) name.span
  | .index base position span =>
    encoding.node (alternative "Index" (.object
      [("base", encoding.expr base), ("index", encoding.expr position)])) span
  | .component base component span =>
    encoding.node (alternative "Field" (.object
      [("base", encoding.expr base), ("field", encoding.name component)])) span
  | .call routine arguments span =>
    encoding.node (alternative "Call" (.object
      [("name", encoding.name routine), ("args", .array (encoding.exprs arguments))])) span
  | .unary operator operand span =>
    encoding.node (alternative "Unary" (.object
      [("op", unaryOperator operator), ("operand", encoding.expr operand)])) span
  | .binary operator left right span =>
    encoding.node (alternative "Binary" (.object
      [("op", binaryOperator operator), ("left", encoding.expr left),
        ("right", encoding.expr right)])) span

def exprs (encoding : TreeEncoding) : List Expr → List Json
  | [] => []
  | first :: rest => encoding.expr first :: encoding.exprs rest

end

def storage : Storage → Json
  | .var => .string "Var"
  | .pers => .string "Pers"
  | .const => .string "Const"

def dataItem (encoding : TreeEncoding) (item : DataItem) : Json :=
  .object [("storage", storage item.storage), ("ty", encoding.name item.type),
    ("name", encoding.name item.name), ("init", .optional encoding.expr item.initial)]

def motion : Motion → Json
  | .joint => .string "Joint"
  | .linear => .string "Linear"
  | .circular => .string "Circular"

def move (encoding : TreeEncoding) (move : Move) : Json :=
  .object [("kind", motion move.motion), ("target", encoding.expr move.target),
    ("speed", encoding.expr move.speed), ("zone", encoding.expr move.zone),
    ("tool", encoding.expr move.tool), ("wobj", .optional encoding.expr move.workObject)]

mutual

def stmt (encoding : TreeEncoding) : Stmt → Json
  | .block body span => encoding.node (alternative "Block" (.array (encoding.stmts body))) span
  | .assign target value span =>
    encoding.node (alternative "Assign" (.object
      [("target", encoding.expr target), ("value", encoding.expr value)])) span
  | .expression value span => encoding.node (alternative "Expr" (encoding.expr value)) span
  | .conditional branches otherwise span =>
    encoding.node (alternative "If" (.object
      [("branches", .array (encoding.branches branches)),
        ("else_body", encoding.optionalBody otherwise)])) span
  | .while condition body span =>
    encoding.node (alternative "While" (.object
      [("cond", encoding.expr condition), ("body", .array (encoding.stmts body))])) span
  | .for counter first last body span =>
    encoding.node (alternative "For" (.object
      [("var", encoding.name counter), ("from", encoding.expr first), ("to", encoding.expr last),
        ("body", .array (encoding.stmts body))])) span
  | .return value span =>
    encoding.node (alternative "Return" (.optional encoding.expr value)) span
  | .move move span => encoding.node (alternative "Move" (encoding.move move)) span
  | .test subject arms default span =>
    encoding.node (alternative "Test" (.object
      [("subject", encoding.expr subject), ("cases", .array (encoding.arms arms)),
        ("default", encoding.optionalBody default)])) span
  | .connect trap error span =>
    encoding.node (alternative "Connect" (.object
      [("trap", encoding.name trap), ("error", encoding.name error)])) span
  | .raise error span => encoding.node (alternative "Raise" (encoding.name error)) span
  | .data item span => encoding.node (alternative "Local" (encoding.dataItem item)) span

def stmts (encoding : TreeEncoding) : List Stmt → List Json
  | [] => []
  | first :: rest => encoding.stmt first :: encoding.stmts rest

def optionalBody (encoding : TreeEncoding) : Option (List Stmt) → Json
  | none => .null
  | some body => .array (encoding.stmts body)

def branch (encoding : TreeEncoding) : Branch → Json
  | .mk condition body span =>
    .object [("cond", encoding.expr condition), ("body", .array (encoding.stmts body)),
      ("span", encoding.span span)]

def branches (encoding : TreeEncoding) : List Branch → List Json
  | [] => []
  | first :: rest => encoding.branch first :: encoding.branches rest

def arm (encoding : TreeEncoding) : Arm → Json
  | .mk values body span =>
    .object [("values", .array (encoding.exprs values)), ("body", .array (encoding.stmts body)),
      ("span", encoding.span span)]

def arms (encoding : TreeEncoding) : List Arm → List Json
  | [] => []
  | first :: rest => encoding.arm first :: encoding.arms rest

end

def parameterMode : ParameterMode → Json
  | .input => .string "In"
  | .inOut => .string "InOut"
  | .var => .string "Var"
  | .pers => .string "Pers"

def parameter (encoding : TreeEncoding) (parameter : Parameter) : Json :=
  .object [("mode", parameterMode parameter.mode), ("ty", encoding.name parameter.type),
    ("name", encoding.name parameter.name), ("span", encoding.span parameter.span)]

def component (encoding : TreeEncoding) (component : Component) : Json :=
  .object [("ty", encoding.name component.type), ("name", encoding.name component.name),
    ("span", encoding.span component.span)]

def decl (encoding : TreeEncoding) : Decl → Json
  | .data item span => encoding.node (alternative "Var" (encoding.dataItem item)) span
  | .proc name parameters body span =>
    encoding.node (alternative "Proc" (.object
      [("name", encoding.name name), ("params", .list encoding.parameter parameters),
        ("body", .array (encoding.stmts body))])) span
  | .func type name parameters body span =>
    encoding.node (alternative "Func" (.object
      [("return_ty", encoding.name type), ("name", encoding.name name),
        ("params", .list encoding.parameter parameters),
        ("body", .array (encoding.stmts body))])) span
  | .record name components span =>
    encoding.node (alternative "Record" (.object
      [("name", encoding.name name), ("fields", .list encoding.component components)])) span
  | .trap name body span =>
    encoding.node (alternative "Trap" (.object
      [("name", encoding.name name), ("body", .array (encoding.stmts body))])) span

def moduleTree (encoding : TreeEncoding) (content : Module) : Json :=
  .object
    [("name", encoding.name content.name), ("decls", .list encoding.decl content.declarations),
      ("span", encoding.span content.span)]

def program (encoding : TreeEncoding) (program : Program) : Json :=
  .object [("modules", .list encoding.moduleTree program.modules),
    ("span", encoding.span program.span)]

end TreeEncoding

end RapidLang
