import RapidLang.CommandLine.Arguments
import RapidLang.CommandLine.Formatting
import RapidLang.CommandLine.Inspection

/-!
# Running commands

What each command does with what stands at its path. A command changes nothing by itself: it tells
what is to be printed and written.
-/

set_option autoImplicit false

namespace RapidLang

def withSource (file : String) (content : PathContent) (step : String → Outcome) : Outcome :=
  match content.read with
  | .ok source => step source
  | .error error => .failed ("cannot read " ++ file ++ ": " ++ error.message)

namespace Command

/-- The path that a command works on; serving an editor needs none. -/
def path? : Command → Option String
  | .check file _ | .formatFile file _ _ | .formatCheck file _ | .symbols file | .tree file =>
    some file
  | .formatDirectory directory _ _ => some directory
  | .serve => none

/-- What a command does, given what stands at its path. Serving an editor is no single step and does
nothing here. -/
def run (command : Command) (verbose : Bool) (content : PathContent) : Outcome :=
  match command with
  | .check file json =>
    withSource file content fun source => checkSource file source json verbose
  | .symbols file => withSource file content (listSymbols file)
  | .tree file => withSource file content (printTree file)
  | .formatFile file write width => formatOne file write (.indented width) content
  | .formatCheck file width => checkFormat file (.indented width) content
  | .formatDirectory directory write width =>
    formatAll directory write (.indented width) content
  | .serve => {}

end Command

def usageText : String :=
  "Usage: rapid [-v] [-q] <COMMAND>\n\n"
    ++ "  check FILE [--json]                    report the diagnostics of a module\n"
    ++ "  fmt file FILE [-w] [--indent N]        format a module\n"
    ++ "  fmt check FILE [--indent N]            fail if a module is not formatted\n"
    ++ "  fmt dir DIR [-w] [--indent N]          format all modules of a directory\n"
    ++ "  symbols FILE                           list the declarations of a module\n"
    ++ "  ast FILE                               print the syntax tree of a module\n"
    ++ "  lsp                                    serve an editor\n"

namespace NoCommand

def message (version : String) : NoCommand → Message
  | .help => .result usageText
  | .version => .result ("rapid " ++ version ++ "\n")
  | .misuse => .note usageText

def status : NoCommand → Nat
  | .help | .version => 0
  | .misuse => 2

end NoCommand

end RapidLang
