import RapidLang.Syntax.Program

/-!
# Headings

The line that introduces a declaration: its words, types and names, without what follows.
-/

set_option autoImplicit false

namespace RapidLang

/-- How a data item is introduced, up to its initial value. -/
def DataItem.heading (item : DataItem) : String :=
  item.storage.word ++ " " ++ item.type.text ++ " " ++ item.name.text

def Parameter.heading (parameter : Parameter) : String :=
  let mode := match parameter.mode.word? with
    | some word => word ++ " "
    | none => ""
  mode ++ parameter.type.text ++ " " ++ parameter.name.text

def Parameter.headings (parameters : List Parameter) : String :=
  "(" ++ ", ".intercalate (parameters.map Parameter.heading) ++ ")"

/-- The line that introduces a declaration; for data, the part before the initial value. -/
def Decl.heading : Decl → String
  | .data item _ => item.heading
  | .proc name parameters _ _ => "PROC " ++ name.text ++ Parameter.headings parameters
  | .func type name parameters _ _ =>
    "FUNC " ++ type.text ++ " " ++ name.text ++ Parameter.headings parameters
  | .record name _ _ => "RECORD " ++ name.text
  | .trap name _ _ => "TRAP " ++ name.text

/-- The words that introduce a counting loop, up to its bounds. -/
def counterHeading (counter : Name) : String :=
  "FOR " ++ counter.text

end RapidLang
