import RapidLang.Editor.Document

/-!
# Outlines

The tree of declarations that an editor shows beside a text: modules, their declarations, and the
components of records.
-/

set_option autoImplicit false

namespace RapidLang

open Text

inductive OutlineKind where
  | module
  | component
  | routine
  | variable
  | constant
  | record
  | trap
  deriving DecidableEq, Repr

/-- An entry of an outline. Only modules and records can have entries below them. -/
inductive Outline where
  | entry (name : Name) (kind : OutlineKind) (detail : Option String) (extent : Span)
    (children : Option (List Outline))
  deriving Repr

def Component.outline (component : Component) : Outline :=
  .entry component.name .component (some component.type.text) component.span none

def Decl.outlineKind : Decl → OutlineKind
  | .data item _ => if item.isConstant then .constant else .variable
  | .proc _ _ _ _ | .func _ _ _ _ _ => .routine
  | .record _ _ _ => .record
  | .trap _ _ _ => .trap

/-- The line shown with a name: the kind and heading of its symbol, if the name refers to its own
declaration. -/
def Index.outlineDetail? (index : Index) (name : Name) : Option String :=
  match index.resolve? name.text name.span.start with
  | some symbol =>
    if symbol.name.span = name.span then some (symbol.kind.describe ++ " · " ++ symbol.heading)
    else none
  | none => none

def Decl.outline (index : Option Index) (declaration : Decl) : Outline :=
  let children := match declaration with
    | .record _ components _ => some (components.map Component.outline)
    | _ => none
  let name := declaration.name
  .entry name declaration.outlineKind (index.bind fun index => index.outlineDetail? name)
    declaration.span children

def Module.outline (index : Option Index) (content : Module) : Outline :=
  .entry content.name .module none content.span
    (some (content.declarations.map (Decl.outline index)))

/-- The outline of a document; a text with a syntax error has none. -/
def Document.outline? (document : Document) : Option (List Outline) :=
  document.analysis.program.map fun program =>
    program.modules.map (Module.outline document.index)

end RapidLang
