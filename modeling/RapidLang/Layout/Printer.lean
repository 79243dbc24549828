import RapidLang.Layout.Config

/-!
# Printing with indentation

A text is described by steps: write something, end the line, open or close a level of indentation.
The printer carries them out under given settings. A line is indented by the level that is open
when something is first written on it, so empty lines hold no blanks.
-/

set_option autoImplicit false

namespace RapidLang

/-- The state of the printer. Characters are kept last one first. -/
structure Printer where
  config : LayoutConfig
  /-- The finished part of the text. -/
  written : List Char := []
  /-- The line in progress, without its indentation. -/
  line : List Char := []
  /-- The level of the line in progress, once something stands on it. -/
  lineLevel : Option Nat := none
  /-- The open level. -/
  level : Nat := 0

/-- One step in the description of a text. -/
inductive LayoutStep where
  /-- Write on the line in progress. -/
  | write (text : String)
  /-- End the line in progress. -/
  | endLine
  /-- Leave a blank line, unless there is one already or the text has not begun. -/
  | blankLine
  /-- Leave a blank line if items are to be set apart. -/
  | itemGap
  /-- Open a level. -/
  | indent
  /-- Close a level. -/
  | dedent
  /-- Write a list, on one line if it fits there with one more character. -/
  | list (items : List String)
  deriving DecidableEq, Repr

namespace Printer

def margin (config : LayoutConfig) (level : Nat) : List Char :=
  (List.replicate level config.indent.unit).flatten

def write (printer : Printer) (text : String) : Printer :=
  if text.isEmpty then printer
  else
    { printer with
      lineLevel := some (printer.lineLevel.getD printer.level)
      line := text.toList.reverse ++ printer.line }

/-- Moves the line in progress, if something stands on it, to the finished part. -/
def flush (printer : Printer) : Printer :=
  match printer.lineLevel with
  | none => printer
  | some level =>
    { printer with
      written := printer.line ++ margin printer.config level ++ printer.written
      line := []
      lineLevel := none }

def endLine (printer : Printer) : Printer :=
  let flushed := printer.flush
  { flushed with written := '\n' :: flushed.written }

def writeLine (printer : Printer) (text : String) : Printer :=
  (printer.write text).endLine

/-- Leaves a blank line, unless there is one already or the text has not begun. -/
def blankLine (printer : Printer) : Printer :=
  let flushed := printer.flush
  match flushed.written with
  | [] => flushed
  | '\n' :: '\n' :: _ => flushed
  | written => { flushed with written := '\n' :: written }

def indent (printer : Printer) : Printer :=
  { printer with level := printer.level + 1 }

def dedent (printer : Printer) : Printer :=
  { printer with level := printer.level - 1 }

def lineWidth (printer : Printer) : Nat :=
  printer.lineLevel.getD printer.level * printer.config.indent.width + printer.line.length

def wouldExceed (printer : Printer) (length : Nat) : Bool :=
  printer.config.maxWidth < printer.lineWidth + length

/-- Writes the items of a list with a comma after each but the last, each on a line of its own. -/
def writeBroken (printer : Printer) : List String → Printer
  | [] => printer
  | [last] => printer.write last
  | first :: rest => writeBroken ((printer.write first).write ",").endLine rest

/-- Writes a list on one line, or with each item on a line of its own if it has several and would
be too wide. -/
def writeList (printer : Printer) (items : List String) : Printer :=
  let joined := ", ".intercalate items
  let fits := !printer.wouldExceed (joined.length + 1)
  if fits || !printer.config.breakLongLists || items.length < 2 then printer.write joined
  else (printer.indent.writeBroken items).dedent

def step (printer : Printer) : LayoutStep → Printer
  | .write text => printer.write text
  | .endLine => printer.endLine
  | .blankLine => printer.blankLine
  | .itemGap => if printer.config.blankLinesBetweenItems then printer.blankLine else printer
  | .indent => printer.indent
  | .dedent => printer.dedent
  | .list items => printer.writeList items

/-- The text: without line feeds at its end, or with just one if the settings ask for it and there
is any text. -/
def finish (printer : Printer) : String :=
  let body := printer.flush.written.dropWhile (· == '\n')
  let ended := if printer.config.trailingNewline && !body.isEmpty then '\n' :: body else body
  String.ofList ended.reverse

def print (config : LayoutConfig) (steps : List LayoutStep) : String :=
  (steps.foldl step { config }).finish

end Printer

end RapidLang
