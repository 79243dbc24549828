import RapidLang.Number.Decimal
import RapidLang.Syntax.Expression

/-!
# Writing expressions

An expression is written on one line, with parentheses only where the tree would be read
differently without them.
-/

set_option autoImplicit false

namespace RapidLang

namespace Expr

/-- The precedence of an expression that is no binary operation; it is above all others. -/
def atomPrecedence : Nat := 7

/-- How tightly the outermost operation of an expression binds. -/
def precedence : Expr → Nat
  | .binary operator _ _ _ => operator.precedence
  | _ => atomPrecedence

def parenthesize (needed : Bool) (text : String) : String :=
  if needed then "(" ++ text ++ ")" else text

def unaryText : UnaryOperator → String
  | .not => "NOT "
  | operator => operator.spelling

mutual

def render : Expr → String
  | .number value _ => value.sourceText
  | .truth value _ => if value then "TRUE" else "FALSE"
  | .string value _ => "\"" ++ value ++ "\""
  | .variable name => name.text
  | .index base position _ => render base ++ "[" ++ render position ++ "]"
  | .component base name _ => render base ++ "." ++ name.text
  | .call routine arguments _ =>
    routine.text ++ "(" ++ ", ".intercalate (renderAll arguments) ++ ")"
  | .unary operator operand _ =>
    unaryText operator
      ++ parenthesize (operand.precedence != atomPrecedence) (render operand)
  | .binary operator left right _ =>
    parenthesize (left.precedence < operator.precedence) (render left)
      ++ " " ++ operator.spelling ++ " "
      ++ parenthesize (right.precedence ≤ operator.precedence) (render right)

def renderAll : List Expr → List String
  | [] => []
  | first :: rest => render first :: renderAll rest

end

end Expr

end RapidLang
