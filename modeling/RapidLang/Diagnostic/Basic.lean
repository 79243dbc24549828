import RapidLang.Diagnostic.Code
import RapidLang.Text.Position

/-!
# Diagnostics

A diagnostic is a message about a span of the text, with the stage that found it. Lists of
diagnostics are shown in the order in which their spans start; diagnostics that start at the same
place keep the order in which they were found.
-/

set_option autoImplicit false

namespace RapidLang

open Text

inductive Severity where
  | info
  | warning
  | error
  deriving DecidableEq, Repr

def Severity.word : Severity → String
  | .info => "info"
  | .warning => "warning"
  | .error => "error"

inductive Stage where
  | lexer
  | parser
  | semantic
  deriving DecidableEq, Repr

structure Label where
  span : Span
  message : String
  deriving DecidableEq, Repr

structure Diagnostic where
  severity : Severity
  stage : Stage
  code : Option Code
  message : String
  span : Span
  labels : List Label
  help : Option String
  deriving DecidableEq, Repr

namespace Diagnostic

/-- Is the diagnostic an error, and not merely a warning or a note? -/
def isError (diagnostic : Diagnostic) : Bool :=
  diagnostic.severity == .error

/-- The diagnostic on one line: where it starts, its severity and code, and its message. -/
def render (diagnostic : Diagnostic) : String :=
  let code := match diagnostic.code with
    | some code => "[" ++ code.number ++ "]"
    | none => ""
  diagnostic.span.start.render ++ ": " ++ diagnostic.severity.word ++ code ++ ": "
    ++ diagnostic.message

/-- Puts a diagnostic before the first one that starts later. -/
def insertByStart (diagnostic : Diagnostic) : List Diagnostic → List Diagnostic
  | [] => [diagnostic]
  | first :: rest =>
    if diagnostic.span.start ≤ first.span.start then diagnostic :: first :: rest
    else first :: insertByStart diagnostic rest

/-- The diagnostics in the order in which they start; those that start together stay in order. -/
def sortByStart (diagnostics : List Diagnostic) : List Diagnostic :=
  diagnostics.foldr insertByStart []

end Diagnostic

end RapidLang
