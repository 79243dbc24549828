import RapidLang.Diagnostic.Basic
import RapidLang.Json.Basic

/-!
# Diagnostics as JSON

The published form of a diagnostic. Members stand in alphabetical order; those without a value are
left out.
-/

set_option autoImplicit false

namespace RapidLang

open Text

def Severity.name : Severity → String
  | .info => "Info"
  | .warning => "Warning"
  | .error => "Error"

def Stage.name : Stage → String
  | .lexer => "Lexer"
  | .parser => "Parser"
  | .semantic => "Semantic"

namespace Diagnostic

def encodePlace (position : Position) : Json :=
  .object [("col", .ofNat position.column), ("line", .ofNat position.line)]

def encodeStretch (span : Span) : Json :=
  .object [("end", encodePlace span.stop), ("start", encodePlace span.start)]

def encodeLabel (label : Label) : Json :=
  .object [("message", .string label.message), ("span", encodeStretch label.span)]

def encode (diagnostic : Diagnostic) : Json :=
  let labels : Option (List Label) :=
    if diagnostic.labels.isEmpty then none else some diagnostic.labels
  .object
    (Json.member? "code" (fun code => .string code.number) diagnostic.code
      ++ Json.member? "help" .string diagnostic.help
      ++ [("kind", .string diagnostic.stage.name)]
      ++ Json.member? "labels" (Json.list encodeLabel) labels
      ++ [("message", .string diagnostic.message),
        ("severity", .string diagnostic.severity.name),
        ("span", encodeStretch diagnostic.span)])

end Diagnostic

end RapidLang
