import RapidLang.Editor.Outline
import RapidLang.Proofs.Parser.Nesting.Source

/-!
# Nested spans in documents

The tree of a document has nested spans, and so has the outline that an editor shows: the name of
an entry lies in the entry, and so do the entries below it, in lines and characters counted from
zero.
-/

set_option autoImplicit false

namespace RapidLang

open Text

/-! ## What editors see of spans -/

namespace Text.Span

/-- What an editor sees of the span lies within what it sees of another one. -/
def EditorWithin (inner outer : Span) : Prop :=
  EditorLe outer.toEditor.1 inner.toEditor.1 ∧ EditorLe inner.toEditor.2 outer.toEditor.2

variable {inner outer : Span}

theorem Within.line_le (within : inner.Within outer) : outer.start.line ≤ inner.start.line := by
  have starts := Position.le_iff.mp within.1
  omega

/-- From the first line on, editors see spans within the same spans. -/
theorem Within.toEditor (within : inner.Within outer) (filled : inner.Filled)
    (inside : 1 ≤ outer.start.line) : inner.EditorWithin outer := by
  have starts := within.line_le
  have stops := Position.lt_iff.mp filled
  exact ⟨Position.toEditor_le inside within.1, Position.toEditor_le (by omega) within.2⟩

end Text.Span

/-! ## Outlines -/

namespace Outline

/-- The span of an entry. -/
def extent : Outline → Span
  | .entry _ _ _ extent _ => extent

/-- The name of the entry lies in the entry, and so do the entries below it. -/
inductive Nested : Outline → Prop where
  | entry {name : Name} {kind : OutlineKind} {detail : Option String} {extent : Span}
      {children : Option (List Outline)} :
      name.span.EditorWithin extent →
      (∀ entries ∈ children, ∀ child ∈ entries, child.extent.EditorWithin extent) →
      (∀ entries ∈ children, ∀ child ∈ entries, Nested child) →
      Nested (.entry name kind detail extent children)

end Outline

variable {named : Name → Prop}

theorem Component.Nested.outline {component : Component} (nested : component.Nested named)
    (inside : 1 ≤ component.span.start.line) : component.outline.Nested := by
  have within := nested.holds.2 component.name.span (by simp)
  exact .entry (within.toEditor nested.name.1 inside) (fun _ none => nomatch none)
    (fun _ none => nomatch none)

namespace Decl.Nested

variable {declaration : Decl}

theorem outline (nested : declaration.Nested named) (index : Option Index)
    (inside : 1 ≤ declaration.span.start.line) : (declaration.outline index).Nested := by
  obtain ⟨within, filled⟩ := nested.name
  cases nested with
  | record _ _ lists components =>
      have held := List.forall_mem_map.mp lists.1.2
      apply Outline.Nested.entry (within.toEditor filled inside)
      · rintro _ ⟨⟩ _ listed
        obtain ⟨component, member, rfl⟩ := List.mem_map.mp listed
        exact (held component member).toEditor (components component member).holds.1 inside
      · rintro _ ⟨⟩ _ listed
        obtain ⟨component, member, rfl⟩ := List.mem_map.mp listed
        have line := (held component member).line_le
        exact (components component member).outline (le_trans inside line)
  | data | proc | func | trap =>
      exact .entry (within.toEditor filled inside) (fun _ none => nomatch none)
        (fun _ none => nomatch none)

end Decl.Nested

theorem Module.Nested.outline {content : Module} (nested : content.Nested named)
    (index : Option Index) (inside : 1 ≤ content.span.start.line) :
    (content.outline index).Nested := by
  have within := nested.holds.2 content.name.span (by simp)
  have held : ∀ declaration ∈ content.declarations, declaration.span.Within content.span :=
    List.forall_mem_map.mp nested.lists.1.2
  apply Outline.Nested.entry (within.toEditor nested.name.1 inside)
  · rintro _ ⟨⟩ _ listed
    obtain ⟨declaration, member, rfl⟩ := List.mem_map.mp listed
    exact (held declaration member).toEditor (nested.declarations declaration member).filled inside
  · rintro _ ⟨⟩ _ listed
    obtain ⟨declaration, member, rfl⟩ := List.mem_map.mp listed
    have line := (held declaration member).line_le
    exact (nested.declarations declaration member).outline index (le_trans inside line)

/-! ## Documents -/

namespace Document

/-- The text of the document has the name at its span. -/
def Spells (document : Document) (name : Name) : Prop :=
  document.textAt name.span = name.text

/-- The tree of a document is what the parser makes of the tokens of the text. -/
theorem accepted {source : String} {program : Program}
    (parsed : (Document.ofString source).analysis.program = some program) :
    Program.ofTokens (Lexed.ofString source).tokens = .ok program :=
  Parser.ofTokens_of_parsed parsed

/-- The index of a document is that of its tree. -/
theorem index_of_parsed {source : String} {program : Program}
    (parsed : (Document.ofString source).analysis.program = some program) :
    (Document.ofString source).index = some (Index.ofProgram program) := by
  show (Document.ofString source).analysis.program.map Index.ofProgram = _
  rw [parsed]
  rfl

/-- A document with a program has a tree with exact and nested spans, and an outline with nested
ranges. -/
theorem spans_nested {source : String} {program : Program}
    (parsed : (Document.ofString source).analysis.program = some program) :
    program.Nested (Document.ofString source).Spells ∧
      ∃ entries, (Document.ofString source).outline? = some entries ∧
        ∀ entry ∈ entries, entry.Nested := by
  obtain ⟨nested, starts⟩ := Parser.nested_of_ok (accepted parsed)
  refine ⟨nested, program.modules.map (Module.outline (Document.ofString source).index), ?_, ?_⟩
  · rw [outline?, parsed]
    rfl
  · intro entry listed
    obtain ⟨content, member, rfl⟩ := List.mem_map.mp listed
    have line : Position.start.line ≤ content.span.start.line := by
      have := Position.le_iff.mp (starts content member)
      omega
    exact (nested.modules content member).outline _ line

/-- A program with a record and a function. -/
def recordAndFunction : String :=
  "MODULE M RECORD r num a; ENDRECORD FUNC bool f(num x) RETURN NOT TRUE; ENDFUNC ENDMODULE"

theorem spans_nested_for_recordAndFunction :
    ∃ program, (Document.ofString recordAndFunction).analysis.program = some program ∧
      program.Nested (Document.ofString recordAndFunction).Spells ∧
      ∃ entries, (Document.ofString recordAndFunction).outline? = some entries ∧
        ∀ entry ∈ entries, entry.Nested := by
  have isSome : (Document.ofString recordAndFunction).analysis.program.isSome := by decide +kernel
  obtain ⟨program, parsed⟩ := Option.isSome_iff_exists.mp isSome
  exact ⟨program, parsed, spans_nested parsed⟩

end Document

end RapidLang
