import RapidLang.Checker.Program
import RapidLang.Syntax.Parser.Program

/-!
# Analysis of a text

The whole way from a text to its diagnostics: the lexer, the parser and, if there is a tree, the
checker. The diagnostics are sorted by the place at which they start.
-/

set_option autoImplicit false

namespace RapidLang

/-- What is known about a text: its tree, unless there is a syntax error, and its diagnostics. -/
structure Analysis where
  program : Option Program
  diagnostics : List Diagnostic

namespace Analysis

def ofString (source : String) : Analysis :=
  let lexed := Lexed.ofString source
  let parsed := Parsed.ofTokens lexed.tokens
  let semantic := match parsed.program with
    | some program => program.diagnostics
    | none => []
  ⟨parsed.program,
    Diagnostic.sortByStart (lexed.diagnostics ++ parsed.diagnostics ++ semantic)⟩

def count (analysis : Analysis) (severity : Severity) : Nat :=
  analysis.diagnostics.countP fun diagnostic => diagnostic.severity == severity

def hasErrors (analysis : Analysis) : Bool :=
  analysis.diagnostics.any Diagnostic.isError

end Analysis

end RapidLang
