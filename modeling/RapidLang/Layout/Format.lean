import RapidLang.Layout.Program
import RapidLang.Syntax.Parser.Program

/-!
# Formatting

A program is printed anew from its tree. A text that the lexer had to repair, or that does not
parse, is refused.
-/

set_option autoImplicit false

namespace RapidLang

def Program.format (config : LayoutConfig) (program : Program) : String :=
  Printer.print config program.layout

/-- Why a text cannot be formatted: the first problem that the lexer found, or the syntax error. -/
inductive FormatError where
  | lexical (diagnostic : Diagnostic)
  | syntactic (diagnostic : Diagnostic)

def FormatError.message : FormatError → String
  | .lexical diagnostic =>
    "lexical error at " ++ diagnostic.span.render ++ ": " ++ diagnostic.message
  | .syntactic diagnostic =>
    "syntax error at " ++ diagnostic.span.render ++ ": " ++ diagnostic.message

/-- The report on a text that has no program, should the parser not have told why. -/
def unexplainedFailure : Diagnostic :=
  { severity := .error
    stage := .parser
    code := none
    message := "source could not be parsed"
    span := .origin
    labels := []
    help := none }

def format (config : LayoutConfig) (source : String) : Except FormatError String :=
  let parsed := Parsed.ofString source
  match parsed.firstError? .lexer with
  | some diagnostic => .error (.lexical diagnostic)
  | none =>
    match parsed.program with
    | some program => .ok (program.format config)
    | none => .error (.syntactic ((parsed.firstError? .parser).getD unexplainedFailure))

def isFormatted (config : LayoutConfig) (source : String) : Except FormatError Bool :=
  (format config source).map (· == source)

end RapidLang
