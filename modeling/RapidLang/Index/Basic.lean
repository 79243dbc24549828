import RapidLang.Index.Occurrence
import RapidLang.Text.LowerCase

/-!
# The index of a program

The symbols that a program declares and the occurrences of its names, and how they are listed: by
position, or by name for those that begin with some letters.
-/

set_option autoImplicit false

namespace RapidLang

open Text

structure Index where
  /-- The declared symbols, those of modules first. -/
  symbols : List Symbol
  /-- The names that stand in the program, in ascending order of position. -/
  occurrences : List Occurrence

/-- Does the first name stand before the second one, or at the same place? -/
def Name.precedes (left right : Name) : Bool :=
  left.span.start ≤ right.span.start

/-- Are the names in alphabetical order, or equal and in ascending order of position? -/
def Name.sortsBefore (left right : Name) : Bool :=
  left.text < right.text || (left.text == right.text && left.precedes right)

/-- Does a text begin with some letters, in any letter case? -/
def beginsWith (letters text : String) : Bool :=
  (lowerCase letters).toList.isPrefixOf (lowerCase text).toList

namespace Symbol

def byPosition (symbols : List Symbol) : List Symbol :=
  symbols.mergeSort fun left right => left.name.precedes right.name

/-- Symbols in alphabetical order; those of one name in ascending order of position. -/
def byName (symbols : List Symbol) : List Symbol :=
  symbols.mergeSort fun left right => left.name.sortsBefore right.name

end Symbol

namespace Index

def ofProgram (program : Program) : Index :=
  let occurrences := program.occurrences
  { symbols := occurrences.filterMap Occurrence.declares
    occurrences := occurrences.mergeSort fun left right => left.name.precedes right.name }

def symbolsByPosition (index : Index) : List Symbol :=
  Symbol.byPosition index.symbols

/-- The symbols whose names begin with some letters, in any letter case, sorted by name. -/
def symbolsStartingWith (index : Index) (letters : String) : List Symbol :=
  Symbol.byName (index.symbols.filter fun symbol => beginsWith letters symbol.name.text)

end Index

end RapidLang
