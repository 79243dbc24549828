import RapidLang.Proofs.Editor.Nesting
import RapidLang.Proofs.Index.Bodies
import RapidLang.Proofs.Index.Listing
import RapidLang.Proofs.Syntax.Identifiers

/-!
# Entries of an index

The occurrences that are gathered from a program are its names, each once, without those of modules
and components. They stand in the order of the text and do not overlap.
-/

set_option autoImplicit false

namespace RapidLang

open Text

/-! ## Names and occurrences -/

/-- Does a name declare something where it stands? Names that an index leaves out have no answer. -/
def Role.declares? : Role → Option Bool
  | .data | .routine | .record | .trap | .parameter | .localData | .counter => some true
  | .use => some false
  | .module | .component | .selection => none

/-- What an index has to say about a name. -/
def Identifier.entry? (identifier : Identifier) : Option (Name × Bool) :=
  identifier.role.declares?.map fun declares => (identifier.name, declares)

/-- What an index says about an occurrence. -/
def Occurrence.entry (occurrence : Occurrence) : Name × Bool :=
  (occurrence.name, occurrence.isDeclaration)

/-- The occurrences are the names that an index does not leave out, in some order. -/
def Enters (occurrences : List Occurrence) (identifiers : List Identifier) : Prop :=
  (occurrences.map Occurrence.entry).Perm (identifiers.filterMap Identifier.entry?)

namespace Enters

variable {first rest others : List Occurrence} {first' rest' : List Identifier}

theorem append (enters : Enters first first') (enters' : Enters rest rest') :
    Enters (first ++ rest) (first' ++ rest') := by
  rw [Enters, List.map_append, List.filterMap_append]
  exact List.Perm.append enters enters'

theorem flatMap {α : Type} {items : List α} {gather : α → List Occurrence}
    {gather' : α → List Identifier} (each : ∀ item ∈ items, Enters (gather item) (gather' item)) :
    Enters (items.flatMap gather) (items.flatMap gather') := by
  rw [Enters, List.map_flatMap, List.filterMap_flatMap]
  exact List.Perm.flatMap_left items each

theorem of_perm (same : first.Perm others) (enters : Enters others first') : Enters first first' :=
  (same.map Occurrence.entry).trans enters

end Enters

theorem Expr.enters (expression : Expr) :
    Enters expression.occurrences expression.identifiers := by
  have each : ∀ mention : Mention, mention.identifier.entry? =
      mention.use?.map fun used => used.occurrence.entry := by
    rintro (_ | _) <;> rfl
  rw [Enters, Expr.occurrences_eq, Expr.identifiers, List.map_map, List.map_filterMap,
    List.filterMap_map]
  exact .of_eq (List.filterMap_congr fun mention _ => (each mention).symm)

theorem Expr.enters_optional (value : Option Expr) :
    Enters (Expr.optionalOccurrences value) (value.toList.flatMap Expr.identifiers) := by
  rw [Expr.optionalOccurrences_eq]
  exact .flatMap fun expression _ => expression.enters

theorem Stmt.headEnters (region : Span) (statement : Stmt) :
    Enters (statement.headOccurrences region) statement.headIdentifiers := by
  cases statement with
  | connect trap error => exact List.Perm.swap (trap, false) (error, false) []
  | _ => exact List.Perm.refl _

/-- The occurrences in a body are the names in the statements at every depth. -/
theorem Stmt.enters (region : Span) (body : List Stmt) :
    Enters (allOccurrences region body) (allIdentifiers body) := by
  induction body using Stmt.body_induction generalizing region with
  | nil =>
      rw [allIdentifiers_nil]
      exact List.Perm.nil
  | cons first rest innerIH restIH =>
      rw [allIdentifiers_cons, allOccurrences]
      have head : Enters (first.headOccurrences region
          ++ first.expressions.flatMap Expr.occurrences) first.identifiers :=
        (first.headEnters region).append (.flatMap fun expression _ => expression.enters)
      have bodies : Enters first.bodyOccurrences
          (first.bodies.flatMap fun nested => allIdentifiers nested.statements) :=
        .flatMap fun nested member => innerIH nested member _
      exact (Enters.of_perm (first.occurrences_perm region) (head.append bodies)).append
        (restIH region)

theorem routine_enters (parameters : List Parameter) (body : List Stmt) (region : Span) :
    Enters (routineOccurrences parameters body region)
      (parameters.flatMap Parameter.identifiers ++ Stmt.allIdentifiers body) :=
  .append (.flatMap fun _ _ => List.Perm.refl _) (Stmt.enters region body)

theorem Decl.enters (declaration : Decl) :
    Enters declaration.allOccurrences declaration.identifiers := by
  cases declaration with
  | data item span =>
      have head : Enters [.declaration (.ofDecl (.data item span)), .use item.type]
          (item.identifiers .data) := List.Perm.swap (item.type, false) (item.name, true) []
      exact head.append (Expr.enters_optional item.initial)
  | proc name parameters body span =>
      exact (routine_enters parameters body span).cons (name, true)
  | func type name parameters body span =>
      have inner := ((routine_enters parameters body span).cons (name, true)).cons (type, false)
      exact (List.Perm.swap (type, false) (name, true) _).trans inner
  | record name components span =>
      have inner : Enters (components.map fun component => .use component.type)
          (components.flatMap Component.identifiers) := by
        rw [← List.flatMap_singleton' (components.map _), List.flatMap_map]
        exact .flatMap fun _ _ => List.Perm.refl _
      exact inner.cons (name, true)
  | trap name body span => exact (routine_enters [] body span).cons (name, true)

theorem Program.enters (program : Program) :
    Enters program.occurrences program.identifiers := by
  apply Enters.of_perm program.occurrences_perm.symm
  refine .flatMap fun content _ => ?_
  exact Enters.flatMap fun declaration _ => declaration.enters

/-! ## The occurrences of an index -/

section Occurrences

variable {source : String} {program : Program} {lower upper : Position}

/-- The occurrences of an index stand one behind the other. -/
theorem Scattered.ordered (scattered : Scattered lower upper program.occurrences) :
    (Index.ofProgram program).occurrences.Pairwise
      fun first second => first.name.span.Before second.name.span := by
  have scattered' : Scattered lower upper (Index.ofProgram program).occurrences :=
    scattered.perm (List.mergeSort_perm _ _).symm
  refine (scattered.ascending.and scattered'.apart).imp_of_mem ?_
  rintro first second _ member ⟨starts, before | before⟩
  · exact before
  · have filled : second.name.span.start < second.name.span.stop :=
      (scattered'.lie second member).filled
    have before : second.name.span.stop ≤ first.name.span.start := before
    exact absurd (lt_of_lt_of_le filled before) (lt_asymm starts)

theorem Enters.exists_identifier {occurrences : List Occurrence} {identifiers : List Identifier}
    (enters : Enters occurrences identifiers) {occurrence : Occurrence}
    (member : occurrence ∈ occurrences) :
    ∃ identifier ∈ identifiers, identifier.name = occurrence.name := by
  have entered := (List.Perm.mem_iff enters).mp (List.mem_map_of_mem member)
  obtain ⟨identifier, inside, entry⟩ := List.mem_filterMap.mp entered
  obtain ⟨declares, _, same⟩ := Option.map_eq_some_iff.mp entry
  exact ⟨identifier, inside, congrArg Prod.fst same⟩

/-- An index has one entry for each name of the program that is not the name of a module or of a
component, and the entry tells whether the name is declared there. The entries stand in the order of
the text, each at its name, and do not overlap. -/
theorem Index.entries_of_parsed
    (parsed : (Document.ofString source).analysis.program = some program) :
    Enters (ofProgram program).occurrences program.identifiers ∧
      ((ofProgram program).occurrences.Pairwise fun first second =>
        first.name.span.start < second.name.span.start ∧
          first.name.span.Before second.name.span) ∧
      ∀ occurrence ∈ (ofProgram program).occurrences, occurrence.name.span.Filled ∧
        (Document.ofString source).textAt occurrence.name.span = occurrence.name.text := by
  obtain ⟨_, _, scattered⟩ := Parser.scattered_of_ok (Document.accepted parsed)
  have enters : Enters (ofProgram program).occurrences program.identifiers :=
    .of_perm (List.mergeSort_perm _ _) program.enters
  refine ⟨enters, scattered.ascending.and scattered.ordered, fun occurrence member => ?_⟩
  obtain ⟨identifier, inside, same⟩ := enters.exists_identifier member
  have nested := (Parser.nested_of_ok (Document.accepted parsed)).1.identifiers identifier inside
  rw [same] at nested
  exact nested

/-- A program with a name of every role. -/
def everyRole : String :=
  "MODULE M RECORD r num a; ENDRECORD VAR r d; TRAP t RETURN; ENDTRAP " ++
  "FUNC num f(num x) VAR num y; FOR i FROM 1 TO d.a y := x; ENDFOR RETURN y; ENDFUNC ENDMODULE"

theorem Index.entries_of_everyRole :
    ∃ program, (Document.ofString everyRole).analysis.program = some program ∧
      Enters (ofProgram program).occurrences program.identifiers ∧
      ∀ occurrence ∈ (ofProgram program).occurrences, occurrence.name.span.Filled ∧
        (Document.ofString everyRole).textAt occurrence.name.span = occurrence.name.text := by
  have isSome : (Document.ofString everyRole).analysis.program.isSome := by decide +kernel
  obtain ⟨program, parsed⟩ := Option.isSome_iff_exists.mp isSome
  obtain ⟨enters, _, stands⟩ := entries_of_parsed parsed
  exact ⟨program, parsed, enters, stands⟩

end Occurrences

end RapidLang
