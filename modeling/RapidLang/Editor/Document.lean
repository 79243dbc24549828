import RapidLang.Analysis
import RapidLang.Index.Lookup
import RapidLang.Text.LineIndex

/-!
# Documents

A text that is open in an editor, with everything that is derived from it. With each new text of a
document all of it is derived anew, so that nothing of an older version stays.
-/

set_option autoImplicit false

namespace RapidLang

open Text

structure Document where
  text : String
  lines : LineIndex
  analysis : Analysis
  /-- The names of the program; a text with a syntax error has none. -/
  index : Option Index

namespace Document

def ofString (text : String) : Document :=
  let analysis := Analysis.ofString text
  { text
    lines := LineIndex.ofString text
    analysis
    index := analysis.program.map Index.ofProgram }

def update (document : Document) (text : String) : Document :=
  let analysis := Analysis.ofString text
  { document with
    text
    lines := LineIndex.ofString text
    analysis
    index := analysis.program.map Index.ofProgram }

def characters (document : Document) : List Char :=
  document.text.toList

def textAt (document : Document) (span : Span) : String :=
  String.ofList (slice document.characters (document.lines.range span))

def symbolAt? (document : Document) (cursor : Position) : Option Symbol :=
  document.index.bind fun index => index.symbolAt? cursor

end Document

end RapidLang
