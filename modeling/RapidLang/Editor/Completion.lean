import RapidLang.Checker.Builtin
import RapidLang.Index.Basic
import RapidLang.Text.LineIndex
import RapidLang.Text.Numeric
import RapidLang.Text.UpperCase

/-!
# Completions

What an editor may offer at a cursor: reserved words, built-in types, the visible names of the
program, built-in routines and data, and skeletons of constructs. The word before the cursor selects
among them without regard to letter case; each label is offered once.
-/

set_option autoImplicit false

namespace RapidLang

open Text

inductive CompletionKind where
  | keyword
  | type
  | variable
  | function
  | record
  | skeleton
  deriving DecidableEq, Repr

structure Completion where
  label : String
  kind : CompletionKind
  /-- The text to insert. -/
  insertion : String
  detail : Option String
  deriving DecidableEq, Repr

/-- The reserved words in the order and spelling in which they are offered. -/
def offeredWords : List String :=
  ["MODULE", "ENDMODULE", "PROC", "ENDPROC", "FUNC", "ENDFUNC", "TRAP", "ENDTRAP", "RECORD",
    "ENDRECORD", "VAR", "PERS", "CONST", "IF", "THEN", "ELSEIF", "ELSE", "ENDIF", "FOR", "FROM",
    "TO", "ENDFOR", "WHILE", "ENDWHILE", "TEST", "CASE", "DEFAULT", "ENDTEST", "CONNECT", "WITH",
    "RAISE", "RETURN", "AND", "OR", "NOT", "TRUE", "FALSE", "MoveJ", "MoveL", "MoveC"]

def skeletons : List (String × String) :=
  [("IF ... THEN ... ENDIF", "IF  THEN\n    \nENDIF"),
    ("WHILE ... ENDWHILE", "WHILE \n    \nENDWHILE"),
    ("FOR i FROM 1 TO 10 ... ENDFOR", "FOR i FROM 1 TO 10\n    \nENDFOR"),
    ("TEST ... CASE ... ENDTEST", "TEST \n    CASE :\n        \nENDTEST"),
    ("PROC main() ... ENDPROC", "PROC main()\n    \nENDPROC"),
    ("FUNC num MyFunc() ... ENDFUNC", "FUNC num MyFunc()\n    RETURN 0;\nENDFUNC"),
    ("RECORD ... ENDRECORD", "RECORD \n    num ;\nENDRECORD")]

/-- May the character stand in a word that is being typed? -/
def isTypedCharacter (c : Char) : Bool :=
  isAlphanumeric c || c == '_'

/-- The word that ends at the cursor, if there is one. -/
def wordBefore? (characters : List Char) (cursor : Position) : Option String :=
  (lineText? characters cursor.line).bind fun line =>
    let before := line.take (cursor.column - 1)
    match before.reverse.takeWhile isTypedCharacter with
    | [] => none
    | letters => some (String.ofList letters.reverse)

def occursIn (part : List Char) : List Char → Bool
  | [] => part.isEmpty
  | c :: rest => part.isPrefixOf (c :: rest) || occursIn part rest

/-- Does a label hold the letters somewhere, in any letter case? -/
def mentions (letters label : String) : Bool :=
  occursIn (upperCase letters).toList (upperCase label).toList

namespace Completion

def plain (label : String) (kind : CompletionKind) (detail : Option String) : Completion :=
  ⟨label, kind, label, detail⟩

def ofSymbol (symbol : Symbol) : Completion :=
  let kind : CompletionKind :=
    if symbol.kind.isRoutine then .function
    else if symbol.kind = .record then .record
    else .variable
  plain symbol.name.text kind (some symbol.heading)

def ofRoutine (routine : String × Option String) : Completion :=
  let detail := match routine.2 with
    | some type => "built-in function -> " ++ type
    | none => "built-in procedure"
  plain routine.1 .function (some detail)

/-- The completions, without those whose label was offered before. -/
def distinct : List Completion → List Completion
  | [] => []
  | first :: rest => first :: (distinct rest).filter fun other => other.label != first.label

end Completion

/-- The symbols of a program that can be named at the cursor, selected by the letters before it. -/
def offeredSymbols (index : Option Index) (letters : String) (cursor : Position) : List Symbol :=
  match index with
  | some index =>
    (index.symbolsStartingWith letters).filter fun symbol => symbol.isVisibleAt cursor
  | none => []

/-- What may be inserted at a cursor. Without an index no names of the program are offered. -/
def completionsAt (index : Option Index) (characters : List Char) (cursor : Position) :
    List Completion :=
  let letters := (wordBefore? characters cursor).getD ""
  let fits := beginsWith letters
  Completion.distinct
    ((offeredWords.filter fits).map (fun word => .plain word .keyword none)
      ++ (builtinTypes.filter fits).map (fun type => .plain type .type (some "built-in type"))
      ++ (offeredSymbols index letters cursor).map .ofSymbol
      ++ (builtinRoutines.filter fun routine => fits routine.1).map .ofRoutine
      ++ (predefinedData.filter fun item => fits item.1).map
        (fun item => .plain item.1 .variable (some item.2))
      ++ (skeletons.filter fun skeleton => mentions letters skeleton.1).map
        (fun skeleton => ⟨skeleton.1, .skeleton, skeleton.2, none⟩))

end RapidLang
