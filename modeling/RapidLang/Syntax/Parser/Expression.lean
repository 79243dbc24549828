import RapidLang.Number.Decimal
import RapidLang.Syntax.Parser.Cursor

/-!
# Reading expressions

One reader for each level of precedence. The operators of a level are read from left to right and
take the next tighter level as their operands. Every reader below the top is given the reader for
a whole expression; the top ties the knot.
-/

set_option autoImplicit false

namespace RapidLang.Parser

open Text

def splitDots : List Char → List (List Char)
  | [] => [[]]
  | c :: rest =>
    if c = '.' then [] :: splitDots rest
    else
      match splitDots rest with
      | first :: others => (c :: first) :: others
      | [] => [[c]]

/-- The parts of a dotted word as names, from a position on. -/
def placeParts (position : Position) : List (List Char) → List Name
  | [] => []
  | part :: rest =>
    ⟨String.ofList part, ⟨position, position.right part.length⟩⟩
      :: placeParts (position.right (part.length + 1)) rest

def dottedNames (token : Token) : List Name :=
  placeParts token.span.start (splitDots token.text.toList)

/-- The names that a dotted word stands for, none of which may be empty. -/
def names? (token : Token) : Option (List Name) :=
  let names := dottedNames token
  if names.any fun name => name.text.isEmpty then none else some names

def takeNames : Reader (List Name) :=
  takeAs .malformedName names?

def operation (operator? : TokenKind → Option BinaryOperator) (operand : Reader Expr)
    (left : Expr) : Reader Expr := do
  let token ← take
  let right ← operand
  match operator? token.kind with
  | some operator => return left.join operator right
  | none => return left

def level (operator? : TokenKind → Option BinaryOperator) (operand : Reader Expr) :
    Reader Expr := do
  let first ← operand
  Reader.steps (fun kind => (operator? kind).isSome) (operation operator? operand) first

def arguments (expression : Reader Expr) : Reader (List Expr) := do
  if (← peekKind) = .rightParen then return []
  else commaSeparated expression

/-- Does the token begin what may follow an expression that begins with a name? -/
def startsSuffix : TokenKind → Bool
  | .leftParen | .leftBracket | .dot => true
  | _ => false

def callSuffix (expression : Reader Expr) (routine : Name) : Reader Expr := do
  let _ ← take
  let arguments ← arguments expression
  let close ← expect .rightParen
  return .call routine arguments (routine.span.merge close.span)

def indexSuffix (expression : Reader Expr) (base : Expr) : Reader Expr := do
  let _ ← take
  let position ← expression
  let close ← expect .rightBracket
  return .index base position (base.span.merge close.span)

/-- Reads components; reserved words may be their names. -/
def componentSuffix (base : Expr) : Reader Expr := do
  let _ ← take
  let kind ← peekKind
  if kind = .identifier || kind.isReserved then
    return (← takeNames).foldl Expr.select base
  else fail (.noName .component)

def suffix (expression : Reader Expr) (base : Expr) : Reader Expr := do
  match ← peekKind with
  | .leftParen =>
    match base with
    | .variable name => callSuffix expression name
    | _ => fail .invalidCall
  | .leftBracket => indexSuffix expression base
  | .dot => componentSuffix base
  | _ => return base

/-- The names in a word before a token of a kind. A dotted word before a parenthesis is one name,
that of a routine. -/
def headNames? (token : Token) (next : TokenKind) : Option (List Name) :=
  if token.text.toList.contains '.' && next == .leftParen then some [⟨token.text, token.span⟩]
  else names? token

def headNames : Reader (List Name) :=
  .require .malformedName do
    let token ← take
    let next ← peekKind
    return headNames? token next

/-- The first name is a variable, and the others are components. -/
def headOf? : List Name → Option Expr
  | head :: components => some (components.foldl Expr.select (.variable head))
  | [] => none

def chainHead : Reader Expr :=
  .require .noHead do
    let names ← headNames
    return headOf? names

def nameChain (expression : Reader Expr) : Reader Expr := do
  let head ← chainHead
  Reader.steps startsSuffix (suffix expression) head

def number? (token : Token) : Option Expr :=
  (Binary64.read? token.text).map fun value => .number value token.span

def numberLiteral : Reader Expr :=
  takeAs .invalidNumber number?

/-- Reads an expression in parentheses, which leave no trace in the tree. -/
def parenthesized (expression : Reader Expr) : Reader Expr := do
  let _ ← take
  let inner ← expression
  let _ ← expect .rightParen
  return inner

def primary (expression : Reader Expr) : Reader Expr := do
  match ← peekKind with
  | .number => numberLiteral
  | .true => return .truth true (← take).span
  | .false => return .truth false (← take).span
  | .string =>
    let token ← take
    return .string token.text token.span
  | .leftParen => parenthesized expression
  | .identifier => nameChain expression
  | _ => fail .noExpression

def unaryOperator? : TokenKind → Option UnaryOperator
  | .not => some .not
  | .minus => some .minus
  | .plus => some .plus
  | _ => none

def applySign (sign : Token) (operand : Expr) : Expr :=
  match unaryOperator? sign.kind with
  | some operator => .unary operator operand (sign.span.merge operand.span)
  | none => operand

def unary (expression : Reader Expr) : Reader Expr := do
  let signs ← repeatWhile (fun kind => (unaryOperator? kind).isSome) take
  let operand ← primary expression
  return signs.foldr applySign operand

def productOperator? : TokenKind → Option BinaryOperator
  | .star => some .multiply
  | .slash => some .divide
  | _ => none

def sumOperator? : TokenKind → Option BinaryOperator
  | .plus => some .add
  | .minus => some .subtract
  | _ => none

def comparisonOperator? : TokenKind → Option BinaryOperator
  | .less => some .less
  | .lessEqual => some .lessEqual
  | .greater => some .greater
  | .greaterEqual => some .greaterEqual
  | _ => none

def equalityOperator? : TokenKind → Option BinaryOperator
  | .equal => some .equal
  | .notEqual => some .notEqual
  | _ => none

def conjunctionOperator? : TokenKind → Option BinaryOperator
  | .and => some .and
  | _ => none

def disjunctionOperator? : TokenKind → Option BinaryOperator
  | .or => some .or
  | _ => none

/-- Reads an expression, given the reader for the expressions inside its brackets. -/
def expressionWith (expression : Reader Expr) : Reader Expr :=
  level disjunctionOperator? <| level conjunctionOperator? <| level equalityOperator? <|
    level comparisonOperator? <| level sumOperator? <| level productOperator? <|
      unary expression

def expression : Reader Expr :=
  Reader.knot .noExpression expressionWith

end RapidLang.Parser
