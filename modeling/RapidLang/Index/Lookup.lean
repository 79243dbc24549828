import RapidLang.Index.Basic

/-!
# Looking up names

Which name stands under a cursor, which declaration a name refers to, and where else the same
declaration is referred to.
-/

set_option autoImplicit false

namespace RapidLang

open Text

structure Usage where
  name : String
  /-- The name in its declaration, if the program declares it. -/
  declaration : Option Span
  /-- The uses, without declarations. -/
  uses : List Span
  deriving DecidableEq, Repr

/-- Of the symbols, the one whose region begins last, and of several such the last one. -/
def Symbol.innermost? : List Symbol → Option Symbol
  | [] => none
  | first :: rest =>
    match innermost? rest with
    | some inner => some (if first.beginsAfter inner then first else inner)
    | none => some first

namespace Index

/-- The name under the cursor: the one whose letters hold it, or else one that ends there. -/
def occurrenceAt? (index : Index) (position : Position) : Option Occurrence :=
  let covers (occurrence : Occurrence) : Bool :=
    let span := occurrence.name.span
    span.start ≤ position && position < span.stop
  let touches (occurrence : Occurrence) : Bool := occurrence.name.span.contains position
  (index.occurrences.find? covers).or (index.occurrences.find? touches)

/-- What a name refers to when it stands at a position: the innermost local declaration whose
region holds the position, or else the first one of a module. -/
def resolve? (index : Index) (name : String) (position : Position) : Option Symbol :=
  let named := index.symbols.filter fun symbol => symbol.name.text == name
  let visible := named.filter fun symbol => symbol.isLocalAt position
  (Symbol.innermost? visible).or (named.find? fun symbol => symbol.scope.isNone)

def referent? (index : Index) (occurrence : Occurrence) : Option Symbol :=
  index.resolve? occurrence.name.text occurrence.name.span.start

def symbolAt? (index : Index) (position : Position) : Option Symbol :=
  (index.occurrenceAt? position).bind index.referent?

/-- The occurrences of a name that refer to the same declaration as a given one, or like it to
none. -/
def related (index : Index) (occurrence : Occurrence) : List Occurrence :=
  let declaration (other : Occurrence) : Option Span :=
    (index.referent? other).map fun symbol => symbol.name.span
  index.occurrences.filter fun other =>
    other.name.text == occurrence.name.text && declaration other == declaration occurrence

/-- The occurrences that refer to the same declaration as the name under the cursor, with or
without declarations. -/
def occurrencesAt (index : Index) (position : Position) (declarations : Bool) :
    List Occurrence :=
  match index.occurrenceAt? position with
  | some occurrence =>
    (index.related occurrence).filter fun other => declarations || !other.isDeclaration
  | none => []

def usageAt? (index : Index) (position : Position) : Option Usage :=
  (index.occurrenceAt? position).map fun occurrence =>
    { name := occurrence.name.text
      declaration := (index.referent? occurrence).map fun symbol => symbol.name.span
      uses := (index.occurrencesAt position false).map fun other => other.name.span }

end Index

end RapidLang
