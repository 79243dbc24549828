import RapidLang.Server.Handshake
import RapidLang.Server.Message

/-!
# Parameters of messages

The shapes of what requests and notifications are sent with, and what is taken from them. A value is
first read with its shape, so that everything that is taken from it is there.
-/

set_option autoImplicit false

namespace RapidLang

def documentName : Json.Shape :=
  .record "TextDocumentIdentifier" [.required "uri" .address]

def placeShape : Json.Shape :=
  .record "Position" [.required "line" .natural, .required "character" .natural]

def rangeShape : Json.Shape :=
  .record "Range" [.required "start" placeShape, .required "end" placeShape]

def progressToken : Json.Shape :=
  .alternatives "NumberOrString" [.integer, .text]

def progressPart : Json.Shape :=
  .record "WorkDoneProgressParams" [.optional "workDoneToken" progressToken]

def partialResultPart : Json.Shape :=
  .record "PartialResultParams" [.optional "partialResultToken" progressToken]

def placePart : Json.Shape :=
  .record "TextDocumentPositionParams"
    [.required "textDocument" documentName, .required "position" placeShape]

def formattingOptions : Json.Shape :=
  .merged "FormattingOptions"
    [.required "tabSize" .natural, .required "insertSpaces" .truth,
      .optional "trimTrailingWhitespace" .truth, .optional "insertFinalNewline" .truth,
      .optional "trimFinalNewlines" .truth]
    []

/-- A form of messages: what they must look like, and what is taken from them. -/
structure MessageForm (α : Type) where
  shape : Json.Shape
  take? : Json → Option α

namespace Json

def at? (json : Json) : List String → Option Json
  | [] => some json
  | key :: rest => (json.get? key).bind fun inner => inner.at? rest

def uri? (parameters : Json) : Option String :=
  (parameters.at? ["textDocument", "uri"]).bind string?

def caret? (parameters : Json) : Option Caret := do
  let uri ← parameters.uri?
  let line ← (← parameters.at? ["position", "line"]).nat?
  let character ← (← parameters.at? ["position", "character"]).nat?
  return ⟨uri, line, character⟩

end Json

def requestForms : List (String × MessageForm Request) :=
  [("initialize", ⟨Handshake.introduction, fun _ => some .handshake⟩),
    ("textDocument/hover",
      ⟨.merged "HoverParams" [] [placePart, progressPart],
        fun parameters => parameters.caret?.map .hover⟩),
    ("textDocument/completion",
      ⟨.merged "CompletionParams"
          [.optional "context"
            (.record "CompletionContext"
              [.required "triggerKind" .integer, .optional "triggerCharacter" .text])]
          [placePart, progressPart, partialResultPart],
        fun parameters => parameters.caret?.map .completion⟩),
    ("textDocument/definition",
      ⟨.merged "GotoDefinitionParams" [] [placePart, progressPart, partialResultPart],
        fun parameters => parameters.caret?.map .definition⟩),
    ("textDocument/references",
      ⟨.merged "ReferenceParams"
          [.required "context"
            (.record "ReferenceContext" [.required "includeDeclaration" .truth])]
          [placePart, progressPart, partialResultPart],
        fun parameters => do
          let declarations ← (← parameters.at? ["context", "includeDeclaration"]).bool?
          return .references (← parameters.caret?) declarations⟩),
    ("textDocument/formatting",
      ⟨.merged "DocumentFormattingParams"
          [.required "textDocument" documentName, .required "options" formattingOptions]
          [progressPart],
        fun parameters => do
          let tabSize ← (← parameters.at? ["options", "tabSize"]).nat?
          let insertSpaces ← (← parameters.at? ["options", "insertSpaces"]).bool?
          return .formatting (← parameters.uri?) tabSize insertSpaces⟩),
    ("textDocument/documentSymbol",
      ⟨.merged "DocumentSymbolParams" [.required "textDocument" documentName]
          [progressPart, partialResultPart],
        fun parameters => parameters.uri?.map .outline⟩),
    ("textDocument/semanticTokens/full",
      ⟨.merged "SemanticTokensParams" [.required "textDocument" documentName]
          [progressPart, partialResultPart],
        fun parameters => parameters.uri?.map .semanticTokens⟩)]

/-- The requests that exist but that the server has no answer to. -/
def unsupportedMethods : List String :=
  ["textDocument/willSaveWaitUntil", "textDocument/declaration", "textDocument/typeDefinition",
    "textDocument/implementation", "textDocument/prepareCallHierarchy",
    "callHierarchy/incomingCalls", "callHierarchy/outgoingCalls",
    "textDocument/prepareTypeHierarchy", "typeHierarchy/supertypes", "typeHierarchy/subtypes",
    "textDocument/documentHighlight", "textDocument/documentLink", "documentLink/resolve",
    "textDocument/codeLens", "codeLens/resolve", "textDocument/foldingRange",
    "textDocument/selectionRange", "textDocument/semanticTokens/full/delta",
    "textDocument/semanticTokens/range", "textDocument/inlineValue", "textDocument/inlayHint",
    "inlayHint/resolve", "textDocument/moniker", "completionItem/resolve",
    "textDocument/diagnostic", "workspace/diagnostic", "textDocument/signatureHelp",
    "textDocument/codeAction", "codeAction/resolve", "textDocument/documentColor",
    "textDocument/colorPresentation", "textDocument/rangeFormatting",
    "textDocument/onTypeFormatting", "textDocument/rename", "textDocument/prepareRename",
    "textDocument/linkedEditingRange", "workspace/symbol", "workspaceSymbol/resolve",
    "workspace/willCreateFiles", "workspace/willRenameFiles", "workspace/willDeleteFiles",
    "workspace/executeCommand"]

def changeTexts? (parameters : Json) : Option (List String) := do
  let changes ← (← parameters.get? "contentChanges").items?
  changes.mapM fun change => (change.get? "text").bind Json.string?

/-- The notifications that the server takes note of while it is running, by method. -/
def notificationForms : List (String × MessageForm Notification) :=
  [("initialized", ⟨.record "InitializedParams" [], fun _ => some .initialized⟩),
    ("textDocument/didOpen",
      ⟨.record "DidOpenTextDocumentParams"
          [.required "textDocument"
            (.record "TextDocumentItem"
              [.required "uri" .address, .required "languageId" .text,
                .required "version" .integer, .required "text" .text])],
        fun parameters => do
          let text ← (← parameters.at? ["textDocument", "text"]).string?
          return .opened (← parameters.uri?) text⟩),
    ("textDocument/didChange",
      ⟨.record "DidChangeTextDocumentParams"
          [.required "textDocument"
              (.record "VersionedTextDocumentIdentifier"
                [.required "uri" .address, .required "version" .integer]),
            .required "contentChanges"
              (.list (.record "TextDocumentContentChangeEvent"
                [.optional "range" rangeShape, .optional "rangeLength" .natural,
                  .required "text" .text]))],
        fun parameters => do
          return .changed (← parameters.uri?) (← changeTexts? parameters)⟩),
    ("textDocument/didSave",
      ⟨.record "DidSaveTextDocumentParams"
          [.required "textDocument" documentName, .optional "text" .text],
        fun parameters => do
          return .saved (← parameters.uri?) ((parameters.get? "text").bind Json.string?)⟩),
    ("textDocument/didClose",
      ⟨.record "DidCloseTextDocumentParams" [.required "textDocument" documentName],
        fun parameters => parameters.uri?.map .closed⟩)]

/-- The notifications that exist but that the server takes no note of. -/
def ignoredNotifications : List String :=
  ["textDocument/willSave", "workspace/didChangeConfiguration",
    "workspace/didChangeWorkspaceFolders", "workspace/didCreateFiles",
    "workspace/didRenameFiles", "workspace/didDeleteFiles", "workspace/didChangeWatchedFiles"]

namespace MessageForm

def read {α : Type} (form : MessageForm α) (parameters : Json) : Except String α :=
  match form.shape.read parameters with
  | .ok plain =>
    match form.take? plain with
    | some taken => .ok taken
    | none => .error "invalid params"
  | .error misfit => .error misfit.message

end MessageForm

/-- Reads a request. The one to shut down has no parameters, all others have. -/
def Request.read (method : String) (parameters : Option Json) : Except Refusal Request :=
  if method = "shutdown" then
    match parameters with
    | some given => .error (.invalidParameters ("Unexpected params: " ++ given.compact))
    | none => .ok .shutdown
  else
    match requestForms.lookup method, parameters with
    | some form, some given => (form.read given).mapError .invalidParameters
    | some _, none => .error (.invalidParameters "Missing params field")
    | none, _ =>
      if !unsupportedMethods.contains method then .error (.unknownMethod method)
      else if parameters.isSome then .error .unsupportedMethod
      else .error (.invalidParameters "Missing params field")

/-- Reads a notification. Unknown ones and those that do not say what they are about are ignored. -/
def Notification.read? (method : String) (parameters : Option Json) : Option Notification :=
  if method = "exit" then some .exit
  else do
    let form ← notificationForms.lookup method
    (form.read (← parameters)).toOption

end RapidLang
