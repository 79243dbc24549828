import RapidLang.Syntax.Expression

/-!
# Statements, declarations and programs

The tree of a program: modules hold declarations, routines hold statements.
-/

set_option autoImplicit false

namespace RapidLang

open Text

inductive Storage where
  | var
  | pers
  | const
  deriving DecidableEq, Repr

def Storage.word : Storage → String
  | .var => "VAR"
  | .pers => "PERS"
  | .const => "CONST"

structure DataItem where
  storage : Storage
  type : Name
  name : Name
  initial : Option Expr
  deriving Repr

def DataItem.isConstant (item : DataItem) : Bool :=
  item.storage == .const

inductive Motion where
  | joint
  | linear
  | circular
  deriving DecidableEq, Repr

def Motion.instruction : Motion → String
  | .joint => "MoveJ"
  | .linear => "MoveL"
  | .circular => "MoveC"

/-- A motion with its operands; the work object is an optional argument. -/
structure Move where
  motion : Motion
  target : Expr
  speed : Expr
  zone : Expr
  tool : Expr
  workObject : Option Expr
  deriving Repr

mutual

/-- A statement. A block is not written in sources; programs may build it. -/
inductive Stmt where
  | block (body : List Stmt) (span : Span)
  | assign (target value : Expr) (span : Span)
  | expression (value : Expr) (span : Span)
  | conditional (branches : List Branch) (otherwise : Option (List Stmt)) (span : Span)
  | «while» (condition : Expr) (body : List Stmt) (span : Span)
  | «for» (counter : Name) (first last : Expr) (body : List Stmt) (span : Span)
  | «return» (value : Option Expr) (span : Span)
  | move (move : Move) (span : Span)
  | test (subject : Expr) (arms : List Arm) (default : Option (List Stmt)) (span : Span)
  | connect (trap error : Name) (span : Span)
  | raise (error : Name) (span : Span)
  | data (item : DataItem) (span : Span)

/-- A condition with the statements that it guards. -/
inductive Branch where
  | mk (condition : Expr) (body : List Stmt) (span : Span)

/-- The values of a selection with the statements that they select. -/
inductive Arm where
  | mk (values : List Expr) (body : List Stmt) (span : Span)

end

def Stmt.span : Stmt → Span
  | .block _ span | .assign _ _ span | .expression _ span | .conditional _ _ span
  | .while _ _ span | .for _ _ _ _ span | .return _ span | .move _ span | .test _ _ _ span
  | .connect _ _ span | .raise _ span | .data _ span => span

namespace Branch

def condition : Branch → Expr
  | .mk condition _ _ => condition

def body : Branch → List Stmt
  | .mk _ body _ => body

def span : Branch → Span
  | .mk _ _ span => span

end Branch

namespace Arm

def values : Arm → List Expr
  | .mk values _ _ => values

def body : Arm → List Stmt
  | .mk _ body _ => body

def span : Arm → Span
  | .mk _ _ span => span

end Arm

inductive ParameterMode where
  | input
  | inOut
  | var
  | pers
  deriving DecidableEq, Repr

def ParameterMode.word? : ParameterMode → Option String
  | .input => none
  | .inOut => some "INOUT"
  | .var => some "VAR"
  | .pers => some "PERS"

structure Parameter where
  mode : ParameterMode
  type : Name
  name : Name
  span : Span
  deriving DecidableEq, Repr

structure Component where
  type : Name
  name : Name
  span : Span
  deriving DecidableEq, Repr

inductive Decl where
  | data (item : DataItem) (span : Span)
  | proc (name : Name) (parameters : List Parameter) (body : List Stmt) (span : Span)
  | func (type name : Name) (parameters : List Parameter) (body : List Stmt) (span : Span)
  | record (name : Name) (components : List Component) (span : Span)
  | trap (name : Name) (body : List Stmt) (span : Span)

namespace Decl

def name : Decl → Name
  | .data item _ => item.name
  | .proc name _ _ _ | .func _ name _ _ _ | .record name _ _ | .trap name _ _ => name

def span : Decl → Span
  | .data _ span | .proc _ _ _ span | .func _ _ _ _ span | .record _ _ span
  | .trap _ _ span => span

end Decl

structure Module where
  name : Name
  declarations : List Decl
  span : Span

structure Program where
  modules : List Module
  span : Span

end RapidLang
