import RapidLang.Checker.Builtin
import RapidLang.Editor.Document

/-!
# Hovering

What an editor shows of the name under a cursor: its declaration, or what is built in under that
name. The text is Markdown.
-/

set_option autoImplicit false

namespace RapidLang

open Text

structure Hover where
  text : String
  span : Span
  deriving DecidableEq, Repr

def inlineCode (text : String) : String :=
  "`" ++ text ++ "`"

/-- What is shown of a declared name: its kind and the line that introduces it. -/
def Symbol.hover (symbol : Symbol) : Hover :=
  ⟨"**" ++ symbol.kind.describe ++ "** " ++ inlineCode symbol.name.text ++ "\n\n```rapid\n"
      ++ symbol.heading ++ "\n```",
    symbol.name.span⟩

def builtinTypeText (type : String) : String :=
  "**built-in type** " ++ inlineCode type

def builtinRoutineText (name : String) : Option String → String
  | some type => "**built-in function** " ++ inlineCode name ++ " → " ++ inlineCode type
  | none => "**built-in procedure** " ++ inlineCode name

def predefinedDataText (name type : String) : String :=
  "**predefined data** " ++ inlineCode name ++ ": " ++ inlineCode type

/-- What is shown of a word that is built in. A word that has several meanings is taken as a type
first, then as a routine. -/
def builtinText? (word : String) : Option String :=
  ((builtinType? word).map builtinTypeText).or
    (((builtinRoutines.lookup word).map (builtinRoutineText word)).or
      ((predefinedData.lookup word).map (predefinedDataText word)))

namespace Document

def identifierAt? (document : Document) (cursor : Position) : Option Token :=
  (Lexed.ofString document.text).tokens.find? fun token =>
    token.kind == .identifier && token.span.contains cursor

def hoverAt? (document : Document) (cursor : Position) : Option Hover :=
  match document.symbolAt? cursor with
  | some symbol => some symbol.hover
  | none =>
    (document.identifierAt? cursor).bind fun token =>
      (builtinText? token.text).map fun text => ⟨text, token.span⟩

end Document

end RapidLang
