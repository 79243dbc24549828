import RapidLang.Editor.Completion
import RapidLang.Editor.Edit
import RapidLang.Editor.Hover
import RapidLang.Editor.Outline
import RapidLang.Editor.SemanticToken

/-!
# Messages between editor and server

What an editor asks of the language server and tells it, and what the server answers and sends of
its own accord.
-/

set_option autoImplicit false

namespace RapidLang

open Text

/-- A place in an open document: line and character, both counted from zero. -/
structure Caret where
  uri : String
  line : Nat
  character : Nat
  deriving DecidableEq, Repr

def Caret.position (caret : Caret) : Position :=
  .ofEditor caret.line caret.character

inductive Request where
  | handshake
  | shutdown
  | hover (caret : Caret)
  | completion (caret : Caret)
  | definition (caret : Caret)
  | references (caret : Caret) (declarations : Bool)
  | formatting (uri : String) (tabSize : Nat) (insertSpaces : Bool)
  | outline (uri : String)
  | semanticTokens (uri : String)
  deriving DecidableEq, Repr

inductive Notification where
  | initialized
  | opened (uri text : String)
  /-- A document has changed; each change is the whole new text. -/
  | changed (uri : String) (texts : List String)
  /-- A document was saved; the text may be left out. -/
  | saved (uri : String) (text : Option String)
  | closed (uri : String)
  | exit
  deriving DecidableEq, Repr

inductive Answer where
  | nothing
  | capabilities
  | hover (hover : Hover)
  | completions (items : List Completion)
  | location (uri : String) (span : Span)
  | locations (uri : String) (spans : List Span)
  | edit (edit : Edit)
  | outline (entries : List Outline)
  | semanticTokens (tokens : List RelativeToken)
  deriving Repr

inductive Refusal where
  /-- The editor has not introduced itself yet. -/
  | notInitialized
  /-- The server has been shut down, or the editor introduces itself again. -/
  | invalidRequest
  /-- There is no such request. -/
  | unknownMethod (method : String)
  /-- There is such a request, but the server has no answer to it. -/
  | unsupportedMethod
  /-- The request does not say what is asked. -/
  | invalidParameters (reason : String)
  /-- The message is no JSON text. -/
  | unreadable
  deriving DecidableEq, Repr

namespace Refusal

def code : Refusal → Int
  | .notInitialized => -32002
  | .invalidRequest => -32600
  | .unknownMethod _ | .unsupportedMethod => -32601
  | .invalidParameters _ => -32602
  | .unreadable => -32700

def message : Refusal → String
  | .notInitialized => "Server not initialized"
  | .invalidRequest => "Invalid request"
  | .unknownMethod _ | .unsupportedMethod => "Method not found"
  | .invalidParameters reason => reason
  | .unreadable => "Parse error"

end Refusal

inductive Announcement where
  /-- The server is ready. -/
  | ready
  /-- The diagnostics of a document, which replace those sent before. -/
  | diagnostics (uri : String) (diagnostics : List Diagnostic)
  deriving DecidableEq, Repr

end RapidLang
