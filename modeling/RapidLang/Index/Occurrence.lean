import RapidLang.Index.Symbol

/-!
# Occurrences of names

The names that stand in a program, each with the symbol that it declares, if it stands in a
declaration. Names of modules, names of record components and selected components are not among
them.
-/

set_option autoImplicit false

namespace RapidLang

open Text

structure Occurrence where
  name : Name
  /-- The symbol that is declared here. -/
  declares : Option Symbol
  deriving DecidableEq, Repr

namespace Occurrence

def use (name : Name) : Occurrence := ⟨name, none⟩

def declaration (symbol : Symbol) : Occurrence := ⟨symbol.name, some symbol⟩

def isDeclaration (occurrence : Occurrence) : Bool :=
  occurrence.declares.isSome

end Occurrence

mutual

def Expr.occurrences : Expr → List Occurrence
  | .number _ _ | .truth _ _ | .string _ _ => []
  | .variable name => [.use name]
  | .index base position _ => Expr.occurrences base ++ Expr.occurrences position
  | .component base _ _ => Expr.occurrences base
  | .call routine arguments _ => .use routine :: Expr.allOccurrences arguments
  | .unary _ operand _ => Expr.occurrences operand
  | .binary _ left right _ => Expr.occurrences left ++ Expr.occurrences right

def Expr.allOccurrences : List Expr → List Occurrence
  | [] => []
  | first :: rest => Expr.occurrences first ++ Expr.allOccurrences rest

end

def Expr.optionalOccurrences : Option Expr → List Occurrence
  | some value => value.occurrences
  | none => []

def DataItem.occurrences (item : DataItem) : List Occurrence :=
  .use item.type :: Expr.optionalOccurrences item.initial

def Move.occurrences (move : Move) : List Occurrence :=
  Expr.allOccurrences [move.target, move.speed, move.zone, move.tool]
    ++ Expr.optionalOccurrences move.workObject

/-- The stretch from the first to the last of some statements. -/
def Stmt.extent (body : List Stmt) : Span :=
  match body.head?, body.getLast? with
  | some first, some last => first.span.merge last.span
  | _, _ => .origin

mutual

/-- The names in a statement of a body that extends over a region. -/
def Stmt.occurrences (region : Span) : Stmt → List Occurrence
  | .block body span => Stmt.allOccurrences span body
  | .assign target value _ => target.occurrences ++ value.occurrences
  | .expression value _ => value.occurrences
  | .conditional branches otherwise _ =>
    Branch.allOccurrences branches ++ Stmt.optionalOccurrences otherwise
  | .while condition body _ =>
    condition.occurrences ++ Stmt.allOccurrences (Stmt.extent body) body
  | .for counter first last body span =>
    first.occurrences ++ last.occurrences
      ++ .declaration (.ofCounter counter span) :: Stmt.allOccurrences span body
  | .return value _ => Expr.optionalOccurrences value
  | .move move _ => move.occurrences
  | .test subject arms default _ =>
    subject.occurrences ++ Arm.allOccurrences arms ++ Stmt.optionalOccurrences default
  | .connect trap error _ => [.use error, .use trap]
  | .raise error _ => [.use error]
  | .data item span => item.occurrences ++ [.declaration (.ofData region item span)]

/-- The names in the statements of a body that extends over a region. -/
def Stmt.allOccurrences (region : Span) : List Stmt → List Occurrence
  | [] => []
  | first :: rest => Stmt.occurrences region first ++ Stmt.allOccurrences region rest

def Stmt.optionalOccurrences : Option (List Stmt) → List Occurrence
  | none => []
  | some body => Stmt.allOccurrences (Stmt.extent body) body

def Branch.allOccurrences : List Branch → List Occurrence
  | [] => []
  | .mk condition body _ :: rest =>
    condition.occurrences ++ Stmt.allOccurrences (Stmt.extent body) body
      ++ Branch.allOccurrences rest

def Arm.allOccurrences : List Arm → List Occurrence
  | [] => []
  | .mk values body _ :: rest =>
    Expr.allOccurrences values ++ Stmt.allOccurrences (Stmt.extent body) body
      ++ Arm.allOccurrences rest

end

def Parameter.occurrences (routine : Span) (parameter : Parameter) : List Occurrence :=
  [.use parameter.type, .declaration (.ofParameter routine parameter)]

def routineOccurrences (parameters : List Parameter) (body : List Stmt) (routine : Span) :
    List Occurrence :=
  parameters.flatMap (Parameter.occurrences routine) ++ Stmt.allOccurrences routine body

/-- The names in a declaration of a module, without the name that it declares. -/
def Decl.innerOccurrences : Decl → List Occurrence
  | .data item _ => item.occurrences
  | .proc _ parameters body span => routineOccurrences parameters body span
  | .func type _ parameters body span =>
    .use type :: routineOccurrences parameters body span
  | .record _ components _ => components.map fun component => .use component.type
  | .trap _ body span => routineOccurrences [] body span

/-- The names in a program: first those that modules declare, then all others. -/
def Program.occurrences (program : Program) : List Occurrence :=
  let declarations := program.modules.flatMap Module.declarations
  declarations.map (fun declaration => .declaration (.ofDecl declaration))
    ++ declarations.flatMap Decl.innerOccurrences

end RapidLang
