/-!
# Layout settings

What a user may choose about the layout of a program.
-/

set_option autoImplicit false

namespace RapidLang

inductive Indent where
  | spaces (count : Nat)
  | tab
  deriving DecidableEq, Repr

namespace Indent

def unit : Indent → List Char
  | spaces count => List.replicate count ' '
  | tab => ['\t']

/-- The columns of one level when the width of a line is measured; a tab counts as one. -/
def width (indent : Indent) : Nat :=
  indent.unit.length

end Indent

structure LayoutConfig where
  /-- How one level of indentation is written. -/
  indent : Indent := .spaces 4
  /-- A list of arguments is broken where its line would be wider than this. -/
  maxWidth : Nat := 100
  /-- Does the text end with a line feed? -/
  trailingNewline : Bool := true
  /-- May lists of arguments be broken at all? -/
  breakLongLists : Bool := true
  /-- Are routines and records set apart from their neighbours by a blank line? -/
  blankLinesBetweenItems : Bool := true
  deriving DecidableEq, Repr

def LayoutConfig.forEditor (tabSize : Nat) (insertSpaces : Bool) : LayoutConfig :=
  { indent := if insertSpaces then .spaces tabSize else .tab }

end RapidLang
