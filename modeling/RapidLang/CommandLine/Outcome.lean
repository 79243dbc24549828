/-!
# Outcomes of commands

What a command prints, what it writes and whether it fails. Results and good news go to the standard
output, all else to the error output; the words in front of a message are coloured.
-/

set_option autoImplicit false

namespace RapidLang

inductive Message where
  /-- A result, printed as it is. -/
  | result (text : String)
  | success (text : String)
  | info (text : String)
  | warning (text : String)
  | error (text : String)
  /-- An explanation for a human reader. -/
  | note (text : String)
  deriving DecidableEq, Repr

def paint (color : Nat) (text : String) : String :=
  "\x1b[" ++ toString color ++ "m" ++ text ++ "\x1b[0m"

namespace Message

/-- A message as it is printed, without the end of its line. -/
def render : Message → String
  | .result text => text
  | .success text => paint 32 text
  | .info text => paint 34 "info:" ++ " " ++ text
  | .warning text => paint 33 "warning:" ++ " " ++ text
  | .error text => paint 31 "error:" ++ " " ++ text
  | .note text => text

def output (message : Message) : String :=
  match message with
  | .result text => text
  | .success _ | .info _ => message.render ++ "\n"
  | _ => ""

def errorOutput (message : Message) : String :=
  match message with
  | .warning _ | .error _ | .note _ => message.render ++ "\n"
  | _ => ""

def isComplaint : Message → Bool
  | .warning _ | .error _ => true
  | _ => false

end Message

structure Outcome where
  messages : List Message := []
  /-- The texts to be written, with the paths of the files. -/
  writes : List (String × String) := []
  /-- Why the command fails, if it does. -/
  failure : Option String := none
  deriving DecidableEq, Repr

namespace Outcome

def failed (reason : String) : Outcome :=
  { failure := some reason }

/-- What is printed; a quiet command does not say why it failed. -/
def printed (outcome : Outcome) (quiet : Bool) : List Message :=
  match outcome.failure with
  | some reason => outcome.messages ++ (if quiet then [] else [.error reason])
  | none => outcome.messages

def status (outcome : Outcome) : Nat :=
  if outcome.failure.isSome then 1 else 0

end Outcome

/-- A number of things, with the noun in the singular or plural. -/
def counted (count : Nat) (noun : String) : String :=
  toString count ++ " " ++ noun ++ (if count = 1 then "" else "s")

def padLeft (width : Nat) (text : String) : String :=
  "".pushn ' ' (width - text.length) ++ text

def padRight (width : Nat) (text : String) : String :=
  text.pushn ' ' (width - text.length)

end RapidLang
