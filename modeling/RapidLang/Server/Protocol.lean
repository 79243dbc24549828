import RapidLang.Json.Printer
import RapidLang.Json.Reader
import RapidLang.Server.Encoding
import RapidLang.Server.Parameters
import RapidLang.Server.Session

/-!
# The wire protocol

Messages are JSON objects, or arrays of their parts. One with an identifier is a request and is
answered; one without is a notification. Answers of the editor are ignored, and something that is no
message ends the session. On the wire each message follows a header that gives its length in bytes.
-/

set_option autoImplicit false

namespace RapidLang

inductive Incoming where
  /-- An answer. The server asks nothing, so that answers are ignored. -/
  | answer
  /-- A request, or a notification if there is no identifier. -/
  | call (method : String) (parameters identifier : Option Json)

namespace Incoming

def isVersion : Json → Bool
  | .string version => version == "2.0"
  | _ => false

def isIdentifier : Json → Bool
  | .null | .string _ => true
  | .integer value => -0x8000000000000000 ≤ value && value < 0x8000000000000000
  | _ => false

/-- Does an answer say with the value why there is no result? -/
def isFailure (json : Json) : Bool :=
  let shape : Json.Shape := .record "Error"
    [.required "code" (.whole (-0x8000000000000000) 0x7FFFFFFFFFFFFFFF "i64"),
      .required "message" .text, .optional "data" .any]
  (shape.read json).isOk
    && json.members.all fun member => ["code", "message", "data"].contains member.1

/-- Is an object an answer? It names what it answers, and has a result or an error. -/
def isAnswer (message : Json) : Bool :=
  (message.get? "id").any isIdentifier
    && ((message.get? "result").isSome || (message.get? "error").any isFailure)

/-- A message from its parts. Without a method it has an empty one. -/
def ofParts? (version method parameters identifier : Option Json) : Option Incoming := do
  let method ← match method with
    | some given => given.string?
    | none => some ""
  if version.any isVersion && identifier.all isIdentifier then
    some (.call method parameters identifier)
  else none

/-- Reads a message: an object, or an array of its parts. -/
def read? (message : Json) : Option Incoming :=
  match message with
  | .object _ =>
    if (message.get? "jsonrpc").any isVersion && isAnswer message then some .answer
    else
      ofParts? (message.get? "jsonrpc") (message.get? "method") (message.get? "params")
        (message.get? "id")
  | .array parts =>
    if 4 < parts.length then none else ofParts? parts[0]? parts[1]? parts[2]? parts[3]?
  | _ => none

end Incoming

def nestingLimit : Nat := 127

def isNotification (method : String) : Bool :=
  ["exit", "$/cancelRequest"].contains method || (notificationForms.lookup method).isSome
    || ignoredNotifications.contains method

def Refusal.encode (refusal : Refusal) : Json :=
  let data := match refusal with
    | .unknownMethod method => [("data", Json.string method)]
    | _ => []
  .object ([("code", .integer refusal.code), ("message", .string refusal.message)] ++ data)

def reply (identifier : Json) : Except Refusal Answer → Json
  | .ok answer =>
    .object [("jsonrpc", .string "2.0"), ("result", answer.encode), ("id", identifier)]
  | .error refusal =>
    .object [("jsonrpc", .string "2.0"), ("error", refusal.encode), ("id", identifier)]

def Announcement.encode (announcement : Announcement) : Json :=
  .object [("jsonrpc", .string "2.0"), ("method", .string announcement.method),
    ("params", announcement.parameters)]

namespace Session

/-- Takes a request that cannot be read. A method that does not exist is always refused as such; any
other request is refused like a readable one while the session is not running. The session is shut
down even by a request that cannot be read. -/
def refuse (session : Session) (method : String) (refusal : Refusal) :
    Session × Except Refusal Answer :=
  match refusal, session.phase with
  | .unknownMethod _, _ => (session, .error refusal)
  | _, .starting =>
    (session, .error (if method = "initialize" then refusal else .notInitialized))
  | _, .running =>
    if method = "initialize" then (session, .error .invalidRequest)
    else if method = "shutdown" then ({ session with phase := .shutDown }, .error refusal)
    else (session, .error refusal)
  | _, _ => (session, .error .invalidRequest)

/-- Takes a notification that wants an answer. It does nothing, unless it ends the session, and is
refused. Asking to give up a request is refused in the same way at any time. -/
def misused (session : Session) (method : String) (identifier : Json) : Session × List Json :=
  if method = "exit" then ({ session with phase := .ended }, [])
  else if session.phase = .starting && method != "$/cancelRequest" then
    (session, [reply identifier (.error .notInitialized)])
  else (session, [reply identifier (.error .invalidRequest)])

/-- Takes a message that wants an answer. Messages that need not be understood are not answered if
they are not. -/
def receiveRequest (session : Session) (method : String) (parameters : Option Json)
    (identifier : Json) : Session × List Json :=
  if isNotification method then session.misused method identifier
  else
    let (next, answer) := match Request.read method parameters with
      | .ok request => session.request request
      | .error refusal => session.refuse method refusal
    match answer with
    | .error (.unknownMethod _) =>
      if method.startsWith "$/" then (next, []) else (next, [reply identifier answer])
    | _ => (next, [reply identifier answer])

/-- Takes a message that wants no answer. A request without an answer does nothing but shut a
running session down. -/
def receiveNotification (session : Session) (method : String) (parameters : Option Json) :
    Session × List Json :=
  match Notification.read? method parameters with
  | some notification =>
    let (next, announcements) := session.notify notification
    (next, announcements.map Announcement.encode)
  | none =>
    if method = "shutdown" && session.phase = .running then
      ({ session with phase := .shutDown }, [])
    else (session, [])

/-- Refuses something that is no message, and ends the session. -/
def abandon (session : Session) (refusal : Refusal) : Session × List Json :=
  ({ session with phase := .ended }, [reply .null (.error refusal)])

def receive (session : Session) (message : Json) : Session × List Json :=
  if session.phase = .ended then (session, [])
  else if nestingLimit < message.depth then session.abandon .unreadable
  else
    match Incoming.read? message with
    | some .answer => (session, [])
    | some (.call method parameters (some identifier)) =>
      session.receiveRequest method parameters identifier
    | some (.call method parameters none) => session.receiveNotification method parameters
    | none => session.abandon .invalidRequest

def receiveText (session : Session) (text : String) : Session × List String :=
  let (next, messages) := match Json.read? text with
    | some message => session.receive message
    | none => session.abandon .unreadable
  (next, messages.map Json.compact)

/-- Takes messages one after the other; gives all messages to send. -/
def receiveAll (session : Session) : List Json → Session × List Json
  | [] => (session, [])
  | message :: rest =>
    let (next, messages) := session.receive message
    let (last, others) := next.receiveAll rest
    (last, messages ++ others)

end Session

def frame (message : String) : String :=
  "Content-Length: " ++ toString message.utf8ByteSize ++ "\r\n\r\n" ++ message

/-- The length that a line of a header gives, if it gives one. -/
def contentLength? (line : String) : Option Nat :=
  let lowered := (Text.asciiLower line).toList
  let field := "content-length:".toList
  if field.isPrefixOf lowered then
    (String.ofList (lowered.drop field.length)).trimAscii.toString.toNat?
  else none

end RapidLang
