import RapidLang.Editor.Completion
import RapidLang.Proofs.Editor.Nesting
import RapidLang.Proofs.Index.Visibility

/-!
# Completions offer what the checker accepts

A name that the checker has bound is offered as a completion wherever the cursor touches it, if the
word before the cursor is the beginning of the name. Declared names are offered because their
symbols stand in the index and are visible there, built-in names at every place.
-/

set_option autoImplicit false

namespace RapidLang

open Text

namespace Completion

variable {completions others : List Completion} {label : String}

/-- Some completion has the label. -/
def Offers (completions : List Completion) (label : String) : Prop :=
  ∃ completion ∈ completions, completion.label = label

theorem Offers.mono (offers : Offers completions label) (more : completions ⊆ others) :
    Offers others label := by
  obtain ⟨completion, member, same⟩ := offers
  exact ⟨completion, more member, same⟩

/-- No label gets lost when later completions with the same label are dropped. -/
theorem Offers.distinct (offers : Offers completions label) :
    Offers (distinct completions) label := by
  induction completions with
  | nil =>
      obtain ⟨_, member, _⟩ := offers
      cases member
  | cons first rest ih =>
      obtain ⟨completion, member, same⟩ := offers
      by_cases own : first.label = label
      · exact ⟨first, List.mem_cons_self, own⟩
      · have later : completion ∈ rest := by
          rcases List.mem_cons.mp member with rfl | later
          · exact absurd same own
          · exact later
        obtain ⟨kept, member', same'⟩ := ih ⟨completion, later, same⟩
        have different : (kept.label != first.label) = true :=
          bne_iff_ne.mpr fun equal => own (equal.symm.trans same')
        exact ⟨kept, List.mem_cons_of_mem _ (List.mem_filter.mpr ⟨member', different⟩), same'⟩

end Completion

section Offered

variable {index : Index} {characters : List Char} {cursor : Position} {symbol : Symbol}
  {binding : Binding}

/-- Every text begins with no letters. -/
theorem beginsWith_empty (text : String) : beginsWith "" text = true := by
  have none : (lowerCase "").toList = [] := by decide +kernel
  rw [beginsWith, none]
  rfl

theorem beginsWith_wordBefore {text : String}
    (fits : ∀ word ∈ wordBefore? characters cursor, beginsWith word text = true) :
    beginsWith ((wordBefore? characters cursor).getD "") text = true := by
  cases written : wordBefore? characters cursor with
  | none => exact beginsWith_empty text
  | some word => exact fits word written

/-- A visible symbol is offered. -/
theorem completionsAt_offers_symbol (listed : symbol ∈ index.symbols)
    (visible : symbol.isVisibleAt cursor = true)
    (fits : ∀ word ∈ wordBefore? characters cursor, beginsWith word symbol.name.text = true) :
    Completion.Offers (completionsAt (some index) characters cursor) symbol.name.text := by
  have offered : symbol ∈ offeredSymbols (some index)
      ((wordBefore? characters cursor).getD "") cursor :=
    List.mem_filter.mpr ⟨List.mem_mergeSort.mpr
      (List.mem_filter.mpr ⟨listed, beginsWith_wordBefore fits⟩), visible⟩
  have among : Completion.Offers
      ((offeredSymbols (some index) ((wordBefore? characters cursor).getD "") cursor).map
        .ofSymbol) symbol.name.text :=
    ⟨.ofSymbol symbol, List.mem_map_of_mem offered, rfl⟩
  apply Completion.Offers.distinct
  apply among.mono
  intro completion member
  simp only [List.mem_append]
  exact .inl (.inl (.inl (.inr member)))

/-- A built-in routine is offered. -/
theorem completionsAt_offers_routine (index : Option Index) {routine : String × Option String}
    (known : routine ∈ builtinRoutines)
    (fits : ∀ word ∈ wordBefore? characters cursor, beginsWith word routine.1 = true) :
    Completion.Offers (completionsAt index characters cursor) routine.1 := by
  let letters := (wordBefore? characters cursor).getD ""
  have selected : routine ∈ builtinRoutines.filter fun routine => beginsWith letters routine.1 :=
    List.mem_filter.mpr ⟨known, beginsWith_wordBefore fits⟩
  have among : Completion.Offers ((builtinRoutines.filter fun routine =>
      beginsWith letters routine.1).map .ofRoutine) routine.1 :=
    ⟨.ofRoutine routine, List.mem_map_of_mem selected, rfl⟩
  apply Completion.Offers.distinct
  apply among.mono
  intro completion member
  simp only [List.mem_append]
  exact .inl (.inl (.inr member))

/-- A predefined data item is offered. -/
theorem completionsAt_offers_datum (index : Option Index) {item : String × String}
    (known : item ∈ predefinedData)
    (fits : ∀ word ∈ wordBefore? characters cursor, beginsWith word item.1 = true) :
    Completion.Offers (completionsAt index characters cursor) item.1 := by
  let letters := (wordBefore? characters cursor).getD ""
  have selected : item ∈ predefinedData.filter fun item => beginsWith letters item.1 :=
    List.mem_filter.mpr ⟨known, beginsWith_wordBefore fits⟩
  have among : Completion.Offers ((predefinedData.filter fun item => beginsWith letters item.1).map
      fun item => .plain item.1 .variable (some item.2)) item.1 :=
    ⟨.plain item.1 .variable (some item.2), List.mem_map.mpr ⟨item, selected, rfl⟩, rfl⟩
  apply Completion.Offers.distinct
  apply among.mono
  intro completion member
  simp only [List.mem_append]
  exact .inl (.inr member)

/-- A built-in name is offered. -/
theorem completionsAt_offers_builtin (index : Option Index) (known : binding ∈ builtinBindings)
    (fits : ∀ word ∈ wordBefore? characters cursor, beginsWith word binding.name = true) :
    Completion.Offers (completionsAt index characters cursor) binding.name := by
  rw [builtinBindings, List.mem_append, List.mem_map, List.mem_map] at known
  rcases known with ⟨routine, member, rfl⟩ | ⟨item, member, rfl⟩
  · exact completionsAt_offers_routine index member fits
  · exact completionsAt_offers_datum index member fits

end Offered

namespace Document

/-- Every name that the checker binds is offered at the name, wherever the cursor touches it and
the word before the cursor is its beginning. -/
theorem completions_offer_bound {source : String} {program : Program} {lookup : Lookup}
    {binding : Binding} {cursor : Position}
    (parsed : (Document.ofString source).analysis.program = some program)
    (looked : lookup ∈ program.lookups) (bound : lookup.binding? = some binding)
    (start : lookup.name.span.start ≤ cursor) (stop : cursor ≤ lookup.name.span.stop)
    (fits : ∀ word ∈ wordBefore? source.toList cursor,
      beginsWith word lookup.name.text = true) :
    ∃ completion ∈ completionsAt (Document.ofString source).index source.toList cursor,
      completion.label = lookup.name.text := by
  have indexed : (Document.ofString source).index = some (Index.ofProgram program) := by
    show (Document.ofString source).analysis.program.map Index.ofProgram = _
    rw [parsed]
    rfl
  obtain ⟨nested, _⟩ := Parser.nested_of_ok (accepted parsed)
  obtain ⟨_, chain, shows, listed, _, holds⟩ := Program.lookups_stand nested lookup looked
  rcases shows.resolve? lookup.name.text with ⟨symbol, _, named, front, back, split, _⟩ | builtin
  · have member : symbol ∈ chain := split ▸ List.mem_append_right _ List.mem_cons_self
    have visible : symbol.isVisibleAt cursor = true := by
      rw [Symbol.isVisibleAt, Option.all_eq_true]
      intro region own
      have within := holds symbol member region own
      simp only [Span.contains, Bool.and_eq_true, decide_eq_true_eq]
      exact ⟨le_trans within.1 start, le_trans stop within.2⟩
    rw [indexed, ← named]
    exact completionsAt_offers_symbol (listed.subset member) visible (named ▸ fits)
  · rw [Lookup.binding?, builtin.2] at bound
    obtain ⟨same, known⟩ := Scope.mem_of_resolve?_builtin bound
    rw [← same]
    exact completionsAt_offers_builtin _ known (same ▸ fits)

/-- A procedure that uses its parameter. -/
def parameterInUse : String :=
  "MODULE M PROC p(num speed) Incr speed; ENDPROC ENDMODULE"

/-- Behind the first three letters of the parameter, all conditions are met. -/
theorem completions_offer_bound_for_parameterInUse :
    ∃ completion ∈ completionsAt (Document.ofString parameterInUse).index parameterInUse.toList
        ⟨1, 36⟩, completion.label = "speed" := by
  have meets : ((Document.ofString parameterInUse).analysis.program.any fun program =>
      program.lookups.any fun lookup =>
        lookup.name.text == "speed" && lookup.binding?.isSome
          && decide (lookup.name.span.start ≤ ⟨1, 36⟩) && decide (⟨1, 36⟩ ≤ lookup.name.span.stop)
          && (wordBefore? parameterInUse.toList ⟨1, 36⟩).all fun word =>
            beginsWith word lookup.name.text) = true := by
    decide +kernel
  obtain ⟨program, parsed, meets⟩ := (Option.any_eq_true _ _).mp meets
  obtain ⟨lookup, looked, meets⟩ := List.any_eq_true.mp meets
  simp only [Bool.and_eq_true, beq_iff_eq, decide_eq_true_eq, Option.all_eq_true] at meets
  obtain ⟨⟨⟨⟨named, isSome⟩, start⟩, stop⟩, fits⟩ := meets
  obtain ⟨binding, bound⟩ := Option.isSome_iff_exists.mp isSome
  rw [← named]
  exact completions_offer_bound parsed looked bound start stop fits

end Document

end RapidLang
