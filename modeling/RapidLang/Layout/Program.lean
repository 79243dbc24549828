import RapidLang.Layout.Expression
import RapidLang.Layout.Printer
import RapidLang.Syntax.Heading

/-!
# The layout of programs

How a program is described to the printer: reserved words in upper case, one statement a line,
bodies indented, and a blank line between declarations unless both are data.
-/

set_option autoImplicit false

namespace RapidLang

namespace LayoutStep

def line (text : String) : List LayoutStep :=
  [.write text, .endLine]

def indented (steps : List LayoutStep) : List LayoutStep :=
  .indent :: steps ++ [.dedent]

end LayoutStep

open LayoutStep

def DataItem.layout (item : DataItem) : List LayoutStep :=
  let initial := match item.initial with
    | some value => " := " ++ value.render
    | none => ""
  line (item.heading ++ initial ++ ";")

/-- The operands of a motion; the work object belongs to the last one. -/
def Move.operands (move : Move) : List String :=
  let workObject := match move.workObject with
    | some value => "\\WObj:=" ++ value.render
    | none => ""
  [move.target.render, move.speed.render, move.zone.render, move.tool.render ++ workObject]

/-- May the arguments of a call stand without parentheses? Not if the first one would then be
read as part of an expression that begins with the name. -/
def standsBare (routine : Name) (arguments : List String) : Bool :=
  match arguments with
  | [] => false
  | first :: _ =>
    !routine.text.toList.contains '.' &&
      match first.toList with
      | c :: _ => c != '(' && c != '-' && c != '+'
      | [] => true

/-- A statement that is an expression; a call is written without parentheses where it may be. -/
def Expr.layoutStatement (value : Expr) : List LayoutStep :=
  match value with
  | .call routine arguments _ =>
    let texts := Expr.renderAll arguments
    if standsBare routine texts then
      [.write (routine.text ++ " "), .list texts, .write ";", .endLine]
    else line (value.render ++ ";")
  | _ => line (value.render ++ ";")

mutual

def Stmt.layout : Stmt → List LayoutStep
  | .block body _ => Stmt.layoutAll body
  | .assign target value _ => line (target.render ++ " := " ++ value.render ++ ";")
  | .expression value _ => value.layoutStatement
  | .conditional branches otherwise _ =>
    Branch.layoutAll "IF " branches ++ Stmt.layoutOptional "ELSE" otherwise ++ line "ENDIF"
  | .while condition body _ =>
    line ("WHILE " ++ condition.render) ++ indented (Stmt.layoutAll body) ++ line "ENDWHILE"
  | .for counter first last body _ =>
    line (counterHeading counter ++ " FROM " ++ first.render ++ " TO " ++ last.render)
      ++ indented (Stmt.layoutAll body) ++ line "ENDFOR"
  | .return value _ =>
    match value with
    | some value => line ("RETURN " ++ value.render ++ ";")
    | none => line "RETURN;"
  | .move move _ =>
    [.write (move.motion.instruction ++ " "), .list move.operands, .write ";", .endLine]
  | .test subject arms default _ =>
    line ("TEST " ++ subject.render)
      ++ indented (Arm.layoutAll arms ++ Stmt.layoutOptional "DEFAULT:" default)
      ++ line "ENDTEST"
  | .connect trap error _ => line ("CONNECT " ++ trap.text ++ " WITH " ++ error.text ++ ";")
  | .raise error _ => line ("RAISE " ++ error.text ++ ";")
  | .data item _ => item.layout

def Stmt.layoutAll : List Stmt → List LayoutStep
  | [] => []
  | first :: rest => Stmt.layout first ++ Stmt.layoutAll rest

def Stmt.layoutOptional (heading : String) : Option (List Stmt) → List LayoutStep
  | none => []
  | some body => line heading ++ indented (Stmt.layoutAll body)

def Branch.layout (word : String) : Branch → List LayoutStep
  | .mk condition body _ =>
    line (word ++ condition.render ++ " THEN") ++ indented (Stmt.layoutAll body)

/-- The lines of several branches; the first one begins with the given word. -/
def Branch.layoutAll (word : String) : List Branch → List LayoutStep
  | [] => []
  | first :: rest => Branch.layout word first ++ Branch.layoutAll "ELSEIF " rest

def Arm.layout : Arm → List LayoutStep
  | .mk values body _ =>
    line ("CASE " ++ ", ".intercalate (Expr.renderAll values) ++ ":")
      ++ indented (Stmt.layoutAll body)

def Arm.layoutAll : List Arm → List LayoutStep
  | [] => []
  | first :: rest => Arm.layout first ++ Arm.layoutAll rest

end

def Component.layout (component : Component) : List LayoutStep :=
  line (component.type.text ++ " " ++ component.name.text ++ ";")

namespace Decl

def layout (declaration : Decl) : List LayoutStep :=
  match declaration with
  | .data item _ => item.layout
  | .proc _ _ body _ =>
    line declaration.heading ++ indented (Stmt.layoutAll body) ++ line "ENDPROC"
  | .func _ _ _ body _ =>
    line declaration.heading ++ indented (Stmt.layoutAll body) ++ line "ENDFUNC"
  | .trap _ body _ =>
    line declaration.heading ++ indented (Stmt.layoutAll body) ++ line "ENDTRAP"
  | .record _ components _ =>
    line declaration.heading ++ indented (components.flatMap Component.layout)
      ++ line "ENDRECORD"

def isData : Decl → Bool
  | .data _ _ => true
  | _ => false

def gap (previous next : Decl) : List LayoutStep :=
  if previous.isData && next.isData then [] else [.itemGap]

def layoutAfter (previous : Decl) : List Decl → List LayoutStep
  | [] => []
  | next :: rest => gap previous next ++ layout next ++ layoutAfter next rest

def layoutAll : List Decl → List LayoutStep
  | [] => []
  | first :: rest => layout first ++ layoutAfter first rest

end Decl

namespace Module

def layout (content : Module) : List LayoutStep :=
  line ("MODULE " ++ content.name.text) ++ indented (Decl.layoutAll content.declarations)
    ++ line "ENDMODULE"

/-- The lines of several modules, with a blank line between them. -/
def layoutAll : List Module → List LayoutStep
  | [] => []
  | [last] => layout last
  | first :: rest => layout first ++ .blankLine :: layoutAll rest

end Module

def Program.layout (program : Program) : List LayoutStep :=
  Module.layoutAll program.modules

end RapidLang
