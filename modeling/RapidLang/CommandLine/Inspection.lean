import RapidLang.Analysis
import RapidLang.CommandLine.Outcome
import RapidLang.Diagnostic.Encoding
import RapidLang.Diagnostic.Report
import RapidLang.Index.Basic
import RapidLang.Json.Printer
import RapidLang.Syntax.Encoding

/-!
# Commands that inspect a source

Reporting its diagnostics, listing its declarations and printing its tree. The last two need a tree
and fail where there is none.
-/

set_option autoImplicit false

namespace RapidLang

def Diagnostic.report (diagnostic : Diagnostic) (file source : String) : String :=
  let place := match diagnostic.reportPlace file source with
    | some place => "\n  at " ++ place
    | none => ""
  let help := match diagnostic.reportHelp with
    | some help => "\n  help: " ++ help
    | none => ""
  diagnostic.reportHeading ++ place ++ help

namespace Analysis

def reports (analysis : Analysis) (file source : String) : List Message :=
  analysis.diagnostics.map fun diagnostic => .note (diagnostic.report file source)

def encode (analysis : Analysis) (file : String) : Json :=
  .object
    [("diagnostics", .list Diagnostic.encode analysis.diagnostics),
      ("errors", .ofNat (analysis.count .error)), ("file", .string file),
      ("warnings", .ofNat (analysis.count .warning))]

/-- The outcome of a command that needs a tree, where there is none. -/
def withoutTree (analysis : Analysis) (file source : String) : Outcome :=
  { messages := analysis.reports file source
    failure := some "the file has syntax errors" }

end Analysis

/-- Reports the diagnostics of a source. It fails if there are errors, and not for warnings. -/
def checkSource (file source : String) (json verbose : Bool) : Outcome :=
  let analysis := Analysis.ofString source
  let errors := analysis.count .error
  let warnings := analysis.count .warning
  let parsed := match analysis.program with
    | some program => [Message.info ("Parsed " ++ counted program.modules.length "module")]
    | none => []
  let shown :=
    if json then [.result ((analysis.encode file).pretty ++ "\n")]
    else analysis.reports file source ++ (if verbose then parsed else [])
  if 0 < errors then
    { messages := shown
      failure := some (counted errors "error" ++ ", " ++ counted warnings "warning" ++ " found") }
  else if json then { messages := shown }
  else if 0 < warnings then
    { messages := shown ++ [.warning (counted warnings "warning" ++ " found")] }
  else { messages := shown ++ [.success "OK - No errors found"] }

/-- The line that lists a symbol; local names are set in. -/
def Symbol.listed (symbol : Symbol) : String :=
  padLeft 5 symbol.name.span.start.render ++ "  " ++ padRight 14 symbol.kind.describe ++ " "
    ++ (if symbol.scope.isSome then "  " else "") ++ symbol.heading ++ "\n"

def listSymbols (file source : String) : Outcome :=
  let analysis := Analysis.ofString source
  match analysis.program with
  | some program =>
    let symbols := (Index.ofProgram program).symbolsByPosition
    { messages := [.result (String.join (symbols.map Symbol.listed))] }
  | none => analysis.withoutTree file source

def printTree (file source : String) : Outcome :=
  let analysis := Analysis.ofString source
  match analysis.program with
  | some program =>
    { messages := [.result ((TreeEncoding.standard.program program).pretty ++ "\n")] }
  | none => analysis.withoutTree file source

end RapidLang
