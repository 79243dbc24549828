import RapidLang.Json.Shape

/-!
# The introduction of an editor

What an editor says of itself in the message that begins a session. The server uses none of it, but
it answers only an introduction that has the right shape.
-/

set_option autoImplicit false

namespace RapidLang.Handshake

def flagRecord (name : String) (keys : List String) : Json.Shape :=
  .record name (Json.Field.flags keys)

def registration : Json.Shape :=
  flagRecord "DynamicRegistrationClientCapabilities" ["dynamicRegistration"]

def textList (name key : String) : Json.Shape :=
  .record name [.required key (.list .text)]

/-- The values of a feature that is known by numbers; they need not be given. -/
def numberSet (name : String) : Json.Shape :=
  .record name [.optional "valueSet" (.list .integer)]

def tagSupport : Json.Shape :=
  .orTruth (.record "TagSupport" [.required "valueSet" (.list .integer)])

def markupKinds : Json.Shape :=
  .list (.word ["plaintext", "markdown"])

def workspaceEdit : Json.Shape :=
  .record "WorkspaceEditClientCapabilities"
    [.optional "documentChanges" .truth,
      .optional "resourceOperations" (.list (.word ["create", "rename", "delete"])),
      .optional "failureHandling"
        (.word ["abort", "transactional", "textOnlyTransactional", "undo"]),
      .optional "normalizesLineEndings" .truth,
      .optional "changeAnnotationSupport"
        (flagRecord "ChangeAnnotationWorkspaceEditClientCapabilities" ["groupsOnLabel"])]

def workspaceSymbol : Json.Shape :=
  .record "WorkspaceSymbolClientCapabilities"
    [.optional "dynamicRegistration" .truth,
      .optional "symbolKind" (numberSet "SymbolKindCapability"),
      .trailing "tagSupport" tagSupport,
      .optional "resolveSupport"
        (textList "WorkspaceSymbolResolveSupportCapability" "properties")]

def workspace : Json.Shape :=
  .record "WorkspaceClientCapabilities"
    [.optional "applyEdit" .truth,
      .optional "workspaceEdit" workspaceEdit,
      .optional "didChangeConfiguration" registration,
      .optional "didChangeWatchedFiles"
        (flagRecord "DidChangeWatchedFilesClientCapabilities"
          ["dynamicRegistration", "relativePatternSupport"]),
      .optional "symbol" workspaceSymbol,
      .optional "executeCommand" registration,
      .optional "workspaceFolders" .truth,
      .optional "configuration" .truth,
      .optional "semanticTokens"
        (flagRecord "SemanticTokensWorkspaceClientCapabilities" ["refreshSupport"]),
      .optional "codeLens" (flagRecord "CodeLensWorkspaceClientCapabilities" ["refreshSupport"]),
      .optional "fileOperations"
        (flagRecord "WorkspaceFileOperationsClientCapabilities"
          ["dynamicRegistration", "didCreate", "willCreate", "didRename", "willRename",
            "didDelete", "willDelete"]),
      .optional "inlineValue"
        (flagRecord "InlineValueWorkspaceClientCapabilities" ["refreshSupport"]),
      .optional "inlayHint" (flagRecord "InlayHintWorkspaceClientCapabilities" ["refreshSupport"]),
      .optional "diagnostic"
        (flagRecord "DiagnosticWorkspaceClientCapabilities" ["refreshSupport"])]

def completionItem : Json.Shape :=
  .record "CompletionItemCapability"
    [.optional "snippetSupport" .truth,
      .optional "commitCharactersSupport" .truth,
      .optional "documentationFormat" markupKinds,
      .optional "deprecatedSupport" .truth,
      .optional "preselectSupport" .truth,
      .trailing "tagSupport" tagSupport,
      .optional "insertReplaceSupport" .truth,
      .optional "resolveSupport" (textList "CompletionItemCapabilityResolveSupport" "properties"),
      .optional "insertTextModeSupport"
        (.record "InsertTextModeSupport" [.required "valueSet" (.list .integer)]),
      .optional "labelDetailsSupport" .truth]

def completion : Json.Shape :=
  .record "CompletionClientCapabilities"
    [.optional "dynamicRegistration" .truth,
      .optional "completionItem" completionItem,
      .optional "completionItemKind" (numberSet "CompletionItemKindCapability"),
      .optional "contextSupport" .truth,
      .optional "insertTextMode" .integer,
      .optional "completionList"
        (.record "CompletionListCapability" [.optional "itemDefaults" (.list .text)])]

def signatureHelp : Json.Shape :=
  .record "SignatureHelpClientCapabilities"
    [.optional "dynamicRegistration" .truth,
      .optional "signatureInformation"
        (.record "SignatureInformationSettings"
          [.optional "documentationFormat" markupKinds,
            .optional "parameterInformation"
              (flagRecord "ParameterInformationSettings" ["labelOffsetSupport"]),
            .optional "activeParameterSupport" .truth]),
      .optional "contextSupport" .truth]

def documentSymbol : Json.Shape :=
  .record "DocumentSymbolClientCapabilities"
    [.optional "dynamicRegistration" .truth,
      .optional "symbolKind" (numberSet "SymbolKindCapability"),
      .optional "hierarchicalDocumentSymbolSupport" .truth,
      .trailing "tagSupport" tagSupport]

def goto : Json.Shape :=
  flagRecord "GotoCapability" ["dynamicRegistration", "linkSupport"]

def codeAction : Json.Shape :=
  .record "CodeActionClientCapabilities"
    [.optional "dynamicRegistration" .truth,
      .optional "codeActionLiteralSupport"
        (.record "CodeActionLiteralSupport"
          [.required "codeActionKind" (textList "CodeActionKindLiteralSupport" "valueSet")]),
      .optional "isPreferredSupport" .truth,
      .optional "disabledSupport" .truth,
      .optional "dataSupport" .truth,
      .optional "resolveSupport" (textList "CodeActionCapabilityResolveSupport" "properties"),
      .optional "honorsChangeAnnotations" .truth]

def rename : Json.Shape :=
  .record "RenameClientCapabilities"
    [.optional "dynamicRegistration" .truth,
      .optional "prepareSupport" .truth,
      .optional "prepareSupportDefaultBehavior" .integer,
      .optional "honorsChangeAnnotations" .truth]

def publishDiagnostics : Json.Shape :=
  .record "PublishDiagnosticsClientCapabilities"
    [.optional "relatedInformation" .truth,
      .trailing "tagSupport" tagSupport,
      .optional "versionSupport" .truth,
      .optional "codeDescriptionSupport" .truth,
      .optional "dataSupport" .truth]

def foldingRange : Json.Shape :=
  .record "FoldingRangeClientCapabilities"
    [.optional "dynamicRegistration" .truth,
      .optional "rangeLimit" .natural,
      .optional "lineFoldingOnly" .truth,
      .optional "foldingRangeKind"
        (.record "FoldingRangeKindCapability"
          [.optional "valueSet" (.list (.word ["comment", "imports", "region"]))]),
      .optional "foldingRange" (flagRecord "FoldingRangeCapability" ["collapsedText"])]

def semanticTokens : Json.Shape :=
  .record "SemanticTokensClientCapabilities"
    [.optional "dynamicRegistration" .truth,
      .required "requests"
        (.record "SemanticTokensClientCapabilitiesRequests"
          [.optional "range" .truth,
            .optional "full"
              (.alternatives "SemanticTokensFullOptions"
                [.truth, .merged "SemanticTokensFullOptions" [.optional "delta" .truth] []])]),
      .required "tokenTypes" (.list .text),
      .required "tokenModifiers" (.list .text),
      .required "formats" (.list .text),
      .optional "overlappingTokenSupport" .truth,
      .optional "multilineTokenSupport" .truth,
      .optional "serverCancelSupport" .truth,
      .optional "augmentsSyntaxTokens" .truth]

def inlayHint : Json.Shape :=
  .record "InlayHintClientCapabilities"
    [.optional "dynamicRegistration" .truth,
      .optional "resolveSupport" (textList "InlayHintResolveClientCapabilities" "properties")]

def textDocument : Json.Shape :=
  .record "TextDocumentClientCapabilities"
    [.optional "synchronization"
        (flagRecord "TextDocumentSyncClientCapabilities"
          ["dynamicRegistration", "willSave", "willSaveWaitUntil", "didSave"]),
      .optional "completion" completion,
      .optional "hover"
        (.record "HoverClientCapabilities"
          [.optional "dynamicRegistration" .truth, .optional "contentFormat" markupKinds]),
      .optional "signatureHelp" signatureHelp,
      .optional "references" registration,
      .optional "documentHighlight" registration,
      .optional "documentSymbol" documentSymbol,
      .optional "formatting" registration,
      .optional "rangeFormatting" registration,
      .optional "onTypeFormatting" registration,
      .optional "declaration" goto,
      .optional "definition" goto,
      .optional "typeDefinition" goto,
      .optional "implementation" goto,
      .optional "codeAction" codeAction,
      .optional "codeLens" registration,
      .optional "documentLink"
        (flagRecord "DocumentLinkClientCapabilities" ["dynamicRegistration", "tooltipSupport"]),
      .optional "colorProvider" registration,
      .optional "rename" rename,
      .optional "publishDiagnostics" publishDiagnostics,
      .optional "foldingRange" foldingRange,
      .optional "selectionRange"
        (flagRecord "SelectionRangeClientCapabilities" ["dynamicRegistration"]),
      .optional "linkedEditingRange" registration,
      .optional "callHierarchy" registration,
      .optional "semanticTokens" semanticTokens,
      .optional "moniker" registration,
      .optional "typeHierarchy" registration,
      .optional "inlineValue" registration,
      .optional "inlayHint" inlayHint,
      .optional "diagnostic"
        (flagRecord "DiagnosticClientCapabilities"
          ["dynamicRegistration", "relatedDocumentSupport"])]

def window : Json.Shape :=
  .record "WindowClientCapabilities"
    [.optional "workDoneProgress" .truth,
      .optional "showMessage"
        (.record "ShowMessageRequestClientCapabilities"
          [.optional "messageActionItem"
            (flagRecord "MessageActionItemCapabilities" ["additionalPropertiesSupport"])]),
      .optional "showDocument"
        (.record "ShowDocumentClientCapabilities" [.required "support" .truth])]

def general : Json.Shape :=
  .record "GeneralClientCapabilities"
    [.optional "regularExpressions"
        (.record "RegularExpressionsClientCapabilities"
          [.required "engine" .text, .optional "version" .text]),
      .optional "markdown"
        (.record "MarkdownClientCapabilities"
          [.required "parser" .text, .optional "version" .text,
            .optional "allowedTags" (.list .text)]),
      .optional "staleRequestSupport"
        (.record "StaleRequestSupportClientCapabilities"
          [.required "cancel" .truth, .required "retryOnContentModified" (.list .text)]),
      .optional "positionEncodings" (.list .text)]

def capabilities : Json.Shape :=
  .record "ClientCapabilities"
    [.optional "workspace" workspace,
      .optional "textDocument" textDocument,
      .optional "window" window,
      .optional "general" general,
      .optional "experimental" .any]

def introduction : Json.Shape :=
  .record "InitializeParams"
    [.optional "processId" .natural,
      .optional "rootPath" .text,
      .trailing "rootUri" .address,
      .optional "initializationOptions" .any,
      .required "capabilities" capabilities,
      .trailing "trace" (.word ["off", "messages", "verbose"]),
      .optional "workspaceFolders"
        (.list (.record "WorkspaceFolder" [.required "uri" .address, .required "name" .text])),
      .optional "clientInfo"
        (.record "ClientInfo" [.required "name" .text, .optional "version" .text]),
      .optional "locale" .text]

end RapidLang.Handshake
