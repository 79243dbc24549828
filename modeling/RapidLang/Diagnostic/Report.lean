import RapidLang.Diagnostic.Basic
import RapidLang.Text.LineIndex

/-!
# Reports

The parts of a printed report on a diagnostic: its heading, the place it names and the help that
closes it. The place is counted in printed lines, which end at every character that a terminal
breaks a line at, and not only at a line feed.
-/

set_option autoImplicit false

namespace RapidLang

open Text

/-- The characters that end a printed line. A carriage return and the line feed after it end one
line together. -/
def isPrintedLineEnd (c : Char) : Bool :=
  c == '\n' || c == '\r' || c == '\x0b' || c == '\x0c' || c == '\u0085' || c == '\u2028'
    || c == '\u2029'

/-- The offsets at which printed lines start after the first, for characters that begin at
`offset`. A line end at the very end of the text opens no further line. -/
def printedLineStartsFrom (offset : Nat) : List Char → List Nat
  | [] => []
  | [_] => []
  | '\r' :: '\n' :: rest =>
    match rest with
    | [] => []
    | _ :: _ => (offset + 2) :: printedLineStartsFrom (offset + 2) rest
  | c :: d :: rest =>
    if isPrintedLineEnd c then (offset + 1) :: printedLineStartsFrom (offset + 1) (d :: rest)
    else printedLineStartsFrom (offset + 1) (d :: rest)

/-- The printed line and column of a character offset, both counted from one. -/
def printedPosition (characters : List Char) (offset : Nat) : Position :=
  let upTo := (0 :: printedLineStartsFrom 0 characters).takeWhile (· ≤ offset)
  ⟨upTo.length, offset - upTo.getLastD 0 + 1⟩

namespace Diagnostic

def reportWord : Severity → String
  | .info => "Advice"
  | .warning => "Warning"
  | .error => "Error"

def reportHeading (diagnostic : Diagnostic) : String :=
  let code := match diagnostic.code with
    | some code => "[" ++ code.number ++ "] "
    | none => ""
  code ++ reportWord diagnostic.severity ++ ": " ++ diagnostic.message

/-- The place that a report names: file, printed line and column. An empty text has no place. -/
def reportPlace (diagnostic : Diagnostic) (file source : String) : Option String :=
  match source.toList with
  | [] => none
  | characters =>
    let offset := ((LineIndex.ofChars characters).range diagnostic.span).1
    some (file ++ ":" ++ (printedPosition characters offset).render)

/-- The help that closes a report: the diagnostic's own, or else what its code suggests. -/
def reportHelp (diagnostic : Diagnostic) : Option String :=
  match diagnostic.help with
  | some help => some help
  | none => diagnostic.code.bind Code.suggestion

end Diagnostic

end RapidLang
