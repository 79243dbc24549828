import RapidLang.Syntax.Heading

/-!
# Symbols

A symbol is a name that a program declares, with what an editor shows of it and the region in which
it can be named.
-/

set_option autoImplicit false

namespace RapidLang

open Text

inductive SymbolKind where
  | data
  | constant
  | procedure
  | function
  | trap
  | record
  | parameter
  | localData
  | counter
  deriving DecidableEq, Repr

namespace SymbolKind

def describe : SymbolKind → String
  | .data => "data"
  | .constant => "constant"
  | .procedure => "procedure"
  | .function => "function"
  | .trap => "trap"
  | .record => "record"
  | .parameter => "parameter"
  | .localData => "local data"
  | .counter => "loop variable"

def isRoutine : SymbolKind → Bool
  | .procedure | .function | .trap => true
  | _ => false

end SymbolKind

structure Symbol where
  name : Name
  kind : SymbolKind
  /-- The declaration as a whole. -/
  extent : Span
  /-- The region in which a local name is visible; names of modules are visible everywhere. -/
  scope : Option Span
  /-- The line that introduces the name. -/
  heading : String
  deriving DecidableEq, Repr

namespace Symbol

/-- Is this a local name whose region holds the position? -/
def isLocalAt (symbol : Symbol) (position : Position) : Bool :=
  symbol.scope.any fun region => region.contains position

def isVisibleAt (symbol : Symbol) (position : Position) : Bool :=
  symbol.scope.all fun region => region.contains position

/-- Does the region of the first symbol begin after that of the second? -/
def beginsAfter (left right : Symbol) : Bool :=
  match left.scope, right.scope with
  | some region, some other => other.start < region.start
  | _, _ => false

def ofDecl (declaration : Decl) : Symbol :=
  let kind : SymbolKind := match declaration with
    | .data item _ => if item.isConstant then .constant else .data
    | .proc _ _ _ _ => .procedure
    | .func _ _ _ _ _ => .function
    | .record _ _ _ => .record
    | .trap _ _ _ => .trap
  ⟨declaration.name, kind, declaration.span, none, declaration.heading⟩

/-- The symbol of a parameter, which is visible in the whole routine. -/
def ofParameter (routine : Span) (parameter : Parameter) : Symbol :=
  ⟨parameter.name, .parameter, parameter.span, some routine, parameter.heading⟩

/-- The symbol of data declared in a body, which is visible in the whole body. -/
def ofData (body : Span) (item : DataItem) (statement : Span) : Symbol :=
  ⟨item.name, .localData, statement, some body, item.heading⟩

/-- The symbol of the counter of a loop, which is visible in the loop. -/
def ofCounter (counter : Name) (loop : Span) : Symbol :=
  ⟨counter, .counter, loop, some loop, counterHeading counter⟩

end Symbol

end RapidLang
