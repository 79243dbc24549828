import RapidLang.Editor.Document
import RapidLang.Layout.Format

/-!
# Edits

Formatting as an edit: the whole text is replaced, unless it has no valid syntax or would stay as it
is.
-/

set_option autoImplicit false

namespace RapidLang

open Text

structure Edit where
  span : Span
  text : String
  deriving DecidableEq, Repr

namespace Document

def wholeSpan (document : Document) : Span :=
  ⟨Position.start, document.lines.endPosition⟩

/-- The edit that formats a document, if there is something to change. -/
def formattingEdit? (document : Document) (config : LayoutConfig) : Option Edit :=
  match format config document.text with
  | .ok text => if text = document.text then none else some ⟨document.wholeSpan, text⟩
  | .error _ => none

end Document

end RapidLang
