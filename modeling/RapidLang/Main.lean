import RapidLang.CommandLine.Run
import RapidLang.Server.Protocol

/-!
# The command line program

Looks at the path of a command, runs the command and carries out what it tells; or serves an editor
over the standard input and output.
-/

set_option autoImplicit false

namespace RapidLang

def readErrorOf : IO.Error → ReadError
  | .noFileOrDirectory .. => .notFound
  | .inappropriateType .. => .notDirectory
  | error => .other (toString error)

def readFileText (path : String) : IO (Except ReadError String) := do
  try
    let bytes ← IO.FS.readBinFile path
    return readText (bytes.toList.map UInt8.toNat)
  catch error => return .error (readErrorOf error)

/-- The module files below a directory with their texts; `above` are the names on the way there. -/
partial def readDirectory (directory : String) (above : List String) :
    IO (List FileBelow) := do
  let mut found := []
  for entry in ← ((← IO.currentDir) / directory).readDir do
    let path := pathBelow directory [entry.fileName]
    let place := above ++ [entry.fileName]
    if ← entry.path.isDir then found := found ++ (← readDirectory path place)
    else if isModuleFile entry.fileName then found := found ++ [⟨place, ← readFileText path⟩]
  return found

/-- What stands at the path of a command. Only a command on directories looks into one. -/
def lookFor (command : Command) (path : String) : IO PathContent := do
  if path.isEmpty then return .missing .notFound
  if ← ((← IO.currentDir) / path).isDir then
    match command with
    | .formatDirectory .. => return .directory (← readDirectory path [])
    | _ => return .directory []
  match ← readFileText path with
  | .error .notFound => return .missing .notFound
  | .error .notDirectory => return .missing .notDirectory
  | read => return .file read

def printMessage (message : Message) : IO Unit := do
  IO.print message.output
  IO.eprint message.errorOutput

def perform (invocation : Invocation) (path : String) : IO UInt32 := do
  let content ← lookFor invocation.command path
  let outcome := invocation.command.run invocation.verbose content
  for (file, text) in outcome.writes do
    IO.FS.writeFile file text
  for message in outcome.printed invocation.quiet do
    printMessage message
  return outcome.status.toUInt32

/-- Reads the header of a message; gives the length of the message, or nothing at the end of the
input. -/
partial def readHeader (input : IO.FS.Stream) (length : Nat) : IO (Option Nat) := do
  let line ← input.getLine
  if line.isEmpty then return none
  if line.trimAscii.isEmpty then return some length
  readHeader input ((contentLength? line).getD length)

/-- Reads a number of bytes, or fewer at the end of the input. -/
partial def readBytes (input : IO.FS.Stream) (count : Nat) (read : ByteArray) : IO ByteArray := do
  if count = 0 then return read
  let more ← input.read count.toUSize
  if more.isEmpty then return read
  readBytes input (count - more.size) (read ++ more)

/-- Serves an editor until the input or the session ends. -/
partial def serve (input output : IO.FS.Stream) (session : Session) : IO Unit := do
  if session.phase == .ended then return
  let some length ← readHeader input 0 | return
  let bytes ← readBytes input length .empty
  let (next, texts) := session.receiveText (Text.decodeUtf8 (bytes.toList.map UInt8.toNat))
  for text in texts do
    output.putStr (frame text)
  output.flush
  serve input output next

end RapidLang

open RapidLang in
def main (arguments : List String) : IO UInt32 := do
  match Invocation.ofArguments arguments with
  | .error stop =>
    printMessage (stop.message toolVersion)
    return stop.status.toUInt32
  | .ok invocation =>
    match invocation.command.path? with
    | some path => perform invocation path
    | none =>
      serve (← IO.getStdin) (← IO.getStdout) .start
      return 0
