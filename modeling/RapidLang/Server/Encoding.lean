import RapidLang.Json.Basic
import RapidLang.Server.Message

/-!
# Messages as JSON

The published form of what the server sends. Members without a value are left out.
-/

set_option autoImplicit false

namespace RapidLang

open Text

namespace Json

def ofPlace (place : Nat × Nat) : Json :=
  .object [("line", .ofNat place.1), ("character", .ofNat place.2)]

def ofSpan (span : Span) : Json :=
  let (start, stop) := span.toEditor
  .object [("start", ofPlace start), ("end", ofPlace stop)]

def ofLocation (uri : String) (span : Span) : Json :=
  .object [("uri", .string uri), ("range", ofSpan span)]

end Json

def Severity.number : Severity → Nat
  | .error => 1
  | .warning => 2
  | .info => 3

namespace Diagnostic

def messageWithHelp (diagnostic : Diagnostic) : String :=
  match diagnostic.help with
  | some help => diagnostic.message ++ "\nhelp: " ++ help
  | none => diagnostic.message

def encodeRelated (uri : String) (label : Label) : Json :=
  .object [("location", .ofLocation uri label.span), ("message", .string label.message)]

def encodeFor (uri : String) (diagnostic : Diagnostic) : Json :=
  let related : Option (List Label) :=
    if diagnostic.labels.isEmpty then none else some diagnostic.labels
  .object
    ([("range", .ofSpan diagnostic.span), ("severity", .ofNat diagnostic.severity.number)]
      ++ Json.member? "code" (fun code => .string code.number) diagnostic.code
      ++ [("source", .string "rapid"), ("message", .string diagnostic.messageWithHelp)]
      ++ Json.member? "relatedInformation" (Json.list (encodeRelated uri)) related)

end Diagnostic

namespace Announcement

def method : Announcement → String
  | .ready => "window/logMessage"
  | .diagnostics _ _ => "textDocument/publishDiagnostics"

def parameters : Announcement → Json
  | .ready =>
    .object [("type", .ofNat 3), ("message", .string "RAPID language server initialized")]
  | .diagnostics uri found =>
    .object [("uri", .string uri), ("diagnostics", .list (Diagnostic.encodeFor uri) found)]

end Announcement

def CompletionKind.number : CompletionKind → Nat
  | .keyword => 14
  | .type => 7
  | .variable => 6
  | .function => 3
  | .record => 22
  | .skeleton => 15

def Completion.encode (completion : Completion) : Json :=
  .object
    ([("label", .string completion.label), ("kind", .ofNat completion.kind.number)]
      ++ Json.member? "detail" .string completion.detail
      ++ [("insertText", .string completion.insertion), ("insertTextFormat", .ofNat 1)])

def Hover.encode (hover : Hover) : Json :=
  .object [("contents", .object [("kind", .string "markdown"), ("value", .string hover.text)]),
    ("range", .ofSpan hover.span)]

def Edit.encode (edit : Edit) : Json :=
  .object [("range", .ofSpan edit.span), ("newText", .string edit.text)]

def OutlineKind.number : OutlineKind → Nat
  | .module => 2
  | .component => 8
  | .routine => 12
  | .variable => 13
  | .constant => 14
  | .record => 23
  | .trap => 24

mutual

def Outline.encode : Outline → Json
  | .entry name kind detail extent children =>
    .object
      ([("name", .string name.text)] ++ Json.member? "detail" .string detail
        ++ [("kind", .ofNat kind.number), ("range", .ofSpan extent),
          ("selectionRange", .ofSpan name.span)]
        ++ Outline.encodeChildren children)

def Outline.encodeChildren : Option (List Outline) → List (String × Json)
  | some entries => [("children", .array (Outline.encodeAll entries))]
  | none => []

def Outline.encodeAll : List Outline → List Json
  | [] => []
  | first :: rest => Outline.encode first :: Outline.encodeAll rest

end

def serverCapabilities : Json :=
  let sync : Json := .object
    [("openClose", .bool true), ("change", .ofNat 1),
      ("save", .object [("includeText", .bool true)])]
  let completion : Json := .object
    [("resolveProvider", .bool false), ("triggerCharacters", .array [.string "."])]
  let legend : Json := .object
    [("tokenTypes", .list (fun named => .string named.name) SemanticType.all),
      ("tokenModifiers", .list .string modifierNames)]
  let tokens : Json := .object
    [("legend", legend), ("range", .bool false), ("full", .bool true)]
  .object
    [("textDocumentSync", sync), ("hoverProvider", .bool true), ("completionProvider", completion),
      ("definitionProvider", .bool true), ("referencesProvider", .bool true),
      ("documentSymbolProvider", .bool true), ("documentFormattingProvider", .bool true),
      ("semanticTokensProvider", tokens)]

def toolVersion : String := "0.3.0"

def serverInfo : Json :=
  .object [("name", .string "rapid-lsp"), ("version", .string toolVersion)]

def Answer.encode : Answer → Json
  | .nothing => .null
  | .capabilities =>
    .object [("capabilities", serverCapabilities), ("serverInfo", serverInfo)]
  | .hover shown => shown.encode
  | .completions items => .list Completion.encode items
  | .location uri span => .ofLocation uri span
  | .locations uri spans => .list (Json.ofLocation uri) spans
  | .edit replacement => .array [replacement.encode]
  | .outline entries => .array (Outline.encodeAll entries)
  | .semanticTokens tokens =>
    .object [("data", .list .ofNat (tokens.flatMap RelativeToken.numbers))]

end RapidLang
