import RapidLang.Editor.Hover
import RapidLang.Editor.Outline
import RapidLang.Proofs.Index.Declared

/-!
# Asking on a declaration

What an editor shows where a name is declared is about one symbol: the definition, the text that is
shown, the references, and the line in the outline. It is the symbol that is declared there, unless
another one of the name displaces it.
-/

set_option autoImplicit false

namespace RapidLang

open Text

namespace Index

variable {index : Index} {program : Program} {symbol found : Symbol}
  {occurrence other : Occurrence}

/-- The references of an occurrence are the occurrences of its name that refer to the same symbol. -/
theorem mem_related_of_referent
    (unique : ∀ symbol ∈ index.symbols, ∀ other ∈ index.symbols,
      symbol.name.span.start = other.name.span.start → symbol = other)
    (refers : index.referent? occurrence = some found) :
    other ∈ index.related occurrence ↔ other ∈ index.occurrences ∧
      other.name.text = occurrence.name.text ∧ index.referent? other = some found := by
  rw [mem_related, target?, target?, refers, Option.map_some]
  refine and_congr_right fun _ => and_congr_right fun _ => ?_
  constructor
  · intro same
    obtain ⟨symbol, refers', span⟩ := Option.map_eq_some_iff.mp same
    rw [refers', unique symbol (mem_of_resolve? refers').1 found (mem_of_resolve? refers).1
      (congrArg Span.start span)]
  · intro refers'
    rw [refers', Option.map_some]

/-- In the outline a declaration has a line if the index finds its own symbol. -/
theorem outlineDetail?_of_resolve?
    (resolved : index.resolve? symbol.name.text symbol.name.span.start = some found)
    (unique : found.name.span = symbol.name.span → found = symbol) :
    index.outlineDetail? symbol.name =
      if found = symbol then some (symbol.kind.describe ++ " · " ++ symbol.heading) else none := by
  unfold outlineDetail?
  rw [resolved]
  dsimp only
  by_cases same : found = symbol
  · subst same
    rw [if_pos rfl, if_pos rfl]
  · rw [if_neg same, if_neg fun span => same (unique span)]

end Index

namespace Document

variable {source : String} {program : Program} {symbol : Symbol}

/-- Where a symbol is declared, the index looks up its name. -/
theorem symbolAt?_of_symbol (parsed : (Document.ofString source).analysis.program = some program)
    (listed : symbol ∈ (Index.ofProgram program).symbols) :
    (Document.ofString source).symbolAt? symbol.name.span.start =
      (Index.ofProgram program).resolve? symbol.name.text symbol.name.span.start := by
  obtain ⟨occurrence, here, name, _⟩ := Program.occurrence_of_symbol (accepted parsed) listed
  rw [symbolAt?, index_of_parsed parsed, Option.bind_some, Index.symbolAt?, here, ← name]
  rfl

/-- In a document without diagnostics, where a symbol is declared some symbol of the name is found: the
symbol itself unless another one displaces it, and else one that does. What is shown there, the
references and the outline are about the symbol that is found. A local symbol whose region is overhung
by that of another one of the name is left out. -/
theorem declaration_leads_to
    (parsed : (Document.ofString source).analysis.program = some program)
    (clean : (Document.ofString source).analysis.diagnostics = [])
    (listed : symbol ∈ (Index.ofProgram program).symbols)
    (plain : ∀ other ∈ (Index.ofProgram program).symbols, ¬other.Overhangs symbol) :
    ∃ found ∈ (Index.ofProgram program).symbols,
      (Document.ofString source).symbolAt? symbol.name.span.start = some found ∧
      (found = symbol ∨ program.Displaces found symbol) ∧
      ((∃ other ∈ (Index.ofProgram program).symbols, program.Displaces other symbol) →
        found ≠ symbol) ∧
      (Document.ofString source).hoverAt? symbol.name.span.start = some found.hover ∧
      (∀ occurrence,
        occurrence ∈ (Index.ofProgram program).occurrencesAt symbol.name.span.start true ↔
          occurrence ∈ (Index.ofProgram program).occurrences ∧
            occurrence.name.text = symbol.name.text ∧
            (Index.ofProgram program).referent? occurrence = some found) ∧
      (Index.ofProgram program).outlineDetail? symbol.name =
        if found = symbol then some (symbol.kind.describe ++ " · " ++ symbol.heading) else none := by
  have accepted := accepted parsed
  have clean := check_eq_nil parsed clean
  obtain ⟨occurrence, here, name, _⟩ := Program.occurrence_of_symbol accepted listed
  obtain ⟨found, listed', resolved, leads, displaced⟩ : ∃ found ∈ (Index.ofProgram program).symbols,
      (Index.ofProgram program).resolve? symbol.name.text symbol.name.span.start = some found ∧
      (found = symbol ∨ program.Displaces found symbol) ∧
      ((∃ other ∈ (Index.ofProgram program).symbols, program.Displaces other symbol) →
        found ≠ symbol) := by
    cases scope : symbol.scope with
    | none => exact Program.resolve?_of_top accepted clean listed scope
    | some region =>
        have itself := Program.resolve?_of_local accepted clean listed scope plain
        refine ⟨symbol, listed, itself, .inl rfl, ?_⟩
        rintro ⟨other, _, displaces⟩
        cases scope.symm.trans displaces.top
  have leads_to := (symbolAt?_of_symbol parsed listed).trans resolved
  have refers : (Index.ofProgram program).referent? occurrence = some found := by
    rw [Index.referent?, name]
    exact resolved
  have unique : ∀ first ∈ (Index.ofProgram program).symbols,
      ∀ other ∈ (Index.ofProgram program).symbols,
        first.name.span.start = other.name.span.start → first = other :=
    fun _ member _ member' => Program.symbol_unique accepted member member'
  refine ⟨found, listed', leads_to, leads, displaced, ?_, ?_, ?_⟩
  · rw [hoverAt?, leads_to]
  · intro other
    rw [Index.occurrencesAt_true here, ← name]
    exact Index.mem_related_of_referent unique refers
  · exact Index.outlineDetail?_of_resolve? resolved fun span =>
      unique found listed' symbol listed (congrArg Span.start span)

/-- A program that declares the name of the data of a module again in a procedure. -/
def redeclaredData : String :=
  "MODULE M VAR num x; PROC p(num y) VAR num x; x := y; ENDPROC ENDMODULE"

/-- The declaration in the module leads to itself. -/
theorem declaration_leads_to_of_redeclaredData :
    ∃ program, (Document.ofString redeclaredData).analysis.program = some program ∧
      ∃ symbol ∈ (Index.ofProgram program).symbols, symbol.name.span.start = ⟨1, 18⟩ ∧
        (Document.ofString redeclaredData).symbolAt? symbol.name.span.start = some symbol ∧
        (Document.ofString redeclaredData).hoverAt? symbol.name.span.start = some symbol.hover := by
  have clean : (Document.ofString redeclaredData).analysis.diagnostics = [] := by decide +kernel
  have meets : ((Document.ofString redeclaredData).analysis.program.any fun program =>
      decide (∃ symbol ∈ (Index.ofProgram program).symbols, symbol.name.span.start = ⟨1, 18⟩ ∧
        (∀ other ∈ (Index.ofProgram program).symbols, ¬other.Overhangs symbol) ∧
        ∀ other ∈ (Index.ofProgram program).symbols, ¬program.Displaces other symbol)) = true := by
    decide +kernel
  obtain ⟨program, parsed, meets⟩ := (Option.any_eq_true _ _).mp meets
  obtain ⟨symbol, listed, place, plain, stays⟩ := of_decide_eq_true meets
  obtain ⟨found, listed', leads_to, leads, _, hover, _⟩ :=
    declaration_leads_to parsed clean listed plain
  have same : found = symbol := leads.resolve_right (stays found listed')
  subst same
  exact ⟨program, parsed, found, listed, place, leads_to, hover⟩

/-- A procedure with a parameter of its own name. -/
def ownParameter : String :=
  "MODULE M PROC p(num p) ENDPROC ENDMODULE"

/-- The declaration of the procedure leads to the parameter. -/
theorem declaration_of_ownParameter :
    (Document.ofString ownParameter).analysis.diagnostics = [] ∧
      ∃ program, (Document.ofString ownParameter).analysis.program = some program ∧
        ∃ symbol ∈ (Index.ofProgram program).symbols,
          symbol.name.span = ⟨⟨1, 15⟩, ⟨1, 16⟩⟩ ∧
          ((Document.ofString ownParameter).symbolAt? symbol.name.span.start).map
            (fun found => found.name.span) = some ⟨⟨1, 21⟩, ⟨1, 22⟩⟩ := by
  refine ⟨by decide +kernel, ?_⟩
  have meets : ((Document.ofString ownParameter).analysis.program.any fun program =>
      decide (∃ symbol ∈ (Index.ofProgram program).symbols,
        symbol.name.span = ⟨⟨1, 15⟩, ⟨1, 16⟩⟩ ∧
        ((Index.ofProgram program).resolve? symbol.name.text symbol.name.span.start).map
          (fun found => found.name.span) = some ⟨⟨1, 21⟩, ⟨1, 22⟩⟩)) = true := by
    decide +kernel
  obtain ⟨program, parsed, meets⟩ := (Option.any_eq_true _ _).mp meets
  obtain ⟨symbol, listed, place, found⟩ := of_decide_eq_true meets
  refine ⟨program, parsed, symbol, listed, place, ?_⟩
  rw [symbolAt?_of_symbol parsed listed]
  exact found

end Document

end RapidLang
