import RapidLang.Number.Binary64
import RapidLang.Text.Position

/-!
# Expressions

The tree of an expression. Each node carries the span it was read from; a variable has the span of
its name.
-/

set_option autoImplicit false

namespace RapidLang

open Text

/-- A name as it stands in the source. -/
structure Name where
  text : String
  span : Span
  deriving DecidableEq, Repr

inductive UnaryOperator where
  | not
  | plus
  | minus
  deriving DecidableEq, Repr

inductive BinaryOperator where
  | add
  | subtract
  | multiply
  | divide
  | equal
  | notEqual
  | less
  | greater
  | lessEqual
  | greaterEqual
  | and
  | or
  deriving DecidableEq, Repr

def UnaryOperator.spelling : UnaryOperator → String
  | .not => "NOT"
  | .plus => "+"
  | .minus => "-"

namespace BinaryOperator

def spelling : BinaryOperator → String
  | .add => "+"
  | .subtract => "-"
  | .multiply => "*"
  | .divide => "/"
  | .equal => "="
  | .notEqual => "<>"
  | .less => "<"
  | .greater => ">"
  | .lessEqual => "<="
  | .greaterEqual => ">="
  | .and => "AND"
  | .or => "OR"

/-- How tightly an operator binds; the operators of one level are read from left to right. -/
def precedence : BinaryOperator → Nat
  | .or => 1
  | .and => 2
  | .equal | .notEqual => 3
  | .less | .greater | .lessEqual | .greaterEqual => 4
  | .add | .subtract => 5
  | .multiply | .divide => 6

def isArithmetic : BinaryOperator → Bool
  | .add | .subtract | .multiply | .divide => true
  | _ => false

end BinaryOperator

inductive Expr where
  | number (value : Binary64) (span : Span)
  | truth (value : Bool) (span : Span)
  | string (value : String) (span : Span)
  | variable (name : Name)
  | index (base position : Expr) (span : Span)
  | component (base : Expr) (name : Name) (span : Span)
  | call (routine : Name) (arguments : List Expr) (span : Span)
  | unary (operator : UnaryOperator) (operand : Expr) (span : Span)
  | binary (operator : BinaryOperator) (left right : Expr) (span : Span)
  deriving Repr

namespace Expr

def span : Expr → Span
  | .number _ span | .truth _ span | .string _ span | .index _ _ span | .component _ _ span
  | .call _ _ span | .unary _ _ span | .binary _ _ _ span => span
  | .variable name => name.span

def join (operator : BinaryOperator) (left right : Expr) : Expr :=
  .binary operator left right (left.span.merge right.span)

def select (base : Expr) (name : Name) : Expr :=
  .component base name (base.span.merge name.span)

end Expr

end RapidLang
