import RapidLang.Server.Message

/-!
# Sessions

The state of the language server between messages: how far the session has come, and the open
documents. Every text that the editor reports opens a document or updates it, and the diagnostics
of the document are sent.
-/

set_option autoImplicit false

namespace RapidLang

open Text

inductive Phase where
  | starting
  | running
  | shutDown
  | ended
  deriving DecidableEq, Repr

structure Session where
  phase : Phase
  /-- The open documents by their names. -/
  documents : List (String × Document)

namespace Session

def start : Session := ⟨.starting, []⟩

def document? (session : Session) (uri : String) : Option Document :=
  session.documents.lookup uri

def close (session : Session) (uri : String) : Session :=
  { session with documents := session.documents.filter fun entry => entry.1 != uri }

/-- Keeps a document under a name, whether one was open before or not. -/
def store (session : Session) (uri : String) (document : Document) : Session :=
  { session with documents := (uri, document) :: (session.close uri).documents }

/-- Keeps a text, in the document that is open under the name or in a new one, and sends its
diagnostics. -/
def publish (session : Session) (uri text : String) : Session × List Announcement :=
  let document := match session.document? uri with
    | some document => document.update text
    | none => .ofString text
  (session.store uri document, [.diagnostics uri document.analysis.diagnostics])

/-- What a notification does while the session is running. Of several changes the last one counts;
without a change, or without a text, nothing happens. -/
def accept (session : Session) : Notification → Session × List Announcement
  | .initialized => (session, [.ready])
  | .opened uri text => session.publish uri text
  | .changed uri texts =>
    match texts.getLast? with
    | some text => session.publish uri text
    | none => (session, [])
  | .saved uri text =>
    match text with
    | some text => session.publish uri text
    | none => (session, [])
  | .closed uri => (session.close uri, [.diagnostics uri []])
  | .exit => ({ session with phase := .ended }, [])

/-- Takes a notification. Unless the session is running, only its end is taken note of. -/
def notify (session : Session) (notification : Notification) : Session × List Announcement :=
  match session.phase, notification with
  | .running, _ => session.accept notification
  | _, .exit => ({ session with phase := .ended }, [])
  | _, _ => (session, [])

/-- An answer about an open document; there is none about other documents. -/
def about (session : Session) (uri : String) (answer? : Document → Option Answer) : Answer :=
  ((session.document? uri).bind answer?).getD .nothing

/-- Where the name under the cursor is referred to; no answer if it is nowhere. -/
def references? (document : Document) (caret : Caret) (declarations : Bool) :
    Option Answer :=
  document.index.bind fun index =>
    match index.occurrencesAt caret.position declarations with
    | [] => none
    | occurrences =>
      some (.locations caret.uri (occurrences.map fun occurrence => occurrence.name.span))

def answer (session : Session) : Request → Answer
  | .handshake => .capabilities
  | .shutdown => .nothing
  | .hover caret =>
    session.about caret.uri fun document =>
      (document.hoverAt? caret.position).map .hover
  | .completion caret =>
    session.about caret.uri fun document =>
      some (.completions (completionsAt document.index document.characters caret.position))
  | .definition caret =>
    session.about caret.uri fun document =>
      (document.symbolAt? caret.position).map fun symbol =>
        .location caret.uri symbol.name.span
  | .references caret declarations =>
    session.about caret.uri fun document => references? document caret declarations
  | .formatting uri tabSize insertSpaces =>
    session.about uri fun document =>
      (document.formattingEdit? (.forEditor tabSize insertSpaces)).map .edit
  | .outline uri =>
    session.about uri fun document => document.outline?.map .outline
  | .semanticTokens uri =>
    session.about uri fun document =>
      some (.semanticTokens
        (SemanticToken.relative (semanticTokens document.index document.characters)))

/-- Takes a request. The session begins with the first one, which introduces the editor, and
nothing is answered after it has been shut down. -/
def request (session : Session) (request : Request) : Session × Except Refusal Answer :=
  match session.phase, request with
  | .starting, .handshake =>
    ({ session with phase := .running }, .ok (session.answer .handshake))
  | .starting, _ => (session, .error .notInitialized)
  | .running, .handshake => (session, .error .invalidRequest)
  | .running, .shutdown =>
    ({ session with phase := .shutDown }, .ok (session.answer .shutdown))
  | .running, _ => (session, .ok (session.answer request))
  | _, _ => (session, .error .invalidRequest)

end Session

end RapidLang
