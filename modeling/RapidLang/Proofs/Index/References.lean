import RapidLang.Proofs.Index.Listing

/-!
# References of a name

Occurrences are related if they have the same text and refer to the same declaration. This is an
equivalence, and at the first letter of an occurrence the index finds that occurrence. So the lists
of references divide the occurrences of a program into classes.
-/

set_option autoImplicit false

namespace RapidLang

open Text

namespace Index

section Related

variable {index : Index} {occurrence other : Occurrence} {position : Position}

/-- Where the name is declared that an occurrence refers to. -/
def target? (index : Index) (occurrence : Occurrence) : Option Span :=
  (index.referent? occurrence).map fun symbol => symbol.name.span

theorem related_eq (index : Index) (occurrence : Occurrence) :
    index.related occurrence = index.occurrences.filter fun other =>
      other.name.text == occurrence.name.text && index.target? other == index.target? occurrence :=
  rfl

theorem mem_related : other ∈ index.related occurrence ↔ other ∈ index.occurrences ∧
    other.name.text = occurrence.name.text ∧ index.target? other = index.target? occurrence := by
  rw [related_eq, List.mem_filter, Bool.and_eq_true, beq_iff_eq, beq_iff_eq]

/-- Related occurrences have the same references. -/
theorem related_congr (member : other ∈ index.related occurrence) :
    index.related other = index.related occurrence := by
  obtain ⟨_, text, target⟩ := mem_related.mp member
  rw [related_eq, related_eq, text, target]

theorem mem_related_self (member : occurrence ∈ index.occurrences) :
    occurrence ∈ index.related occurrence :=
  mem_related.mpr ⟨member, rfl, rfl⟩

theorem related_eq_or_disjoint (occurrence other : Occurrence) :
    index.related occurrence = index.related other ∨
      (index.related occurrence).Disjoint (index.related other) := by
  by_cases shared : ∃ common ∈ index.related occurrence, common ∈ index.related other
  · obtain ⟨common, member, member'⟩ := shared
    exact .inl ((related_congr member).symm.trans (related_congr member'))
  · refine .inr fun common member member' => shared ⟨common, member, member'⟩

theorem mem_of_occurrenceAt? (found : index.occurrenceAt? position = some occurrence) :
    occurrence ∈ index.occurrences := by
  rcases Option.or_eq_some_iff.mp found with covers | ⟨_, touches⟩
  · exact List.mem_of_find?_eq_some covers
  · exact List.mem_of_find?_eq_some touches

theorem occurrencesAt_true (found : index.occurrenceAt? position = some occurrence) :
    index.occurrencesAt position true = index.related occurrence := by
  simp [occurrencesAt, found]

/-- Without declarations the list is the same one, less the declarations. -/
theorem occurrencesAt_false (index : Index) (position : Position) :
    index.occurrencesAt position false =
      (index.occurrencesAt position true).filter fun other => !other.isDeclaration := by
  unfold occurrencesAt
  cases index.occurrenceAt? position with
  | none => rfl
  | some occurrence => simp

theorem occurrencesAt_eq_or_disjoint (index : Index) (position place : Position) :
    index.occurrencesAt position true = index.occurrencesAt place true ∨
      (index.occurrencesAt position true).Disjoint (index.occurrencesAt place true) := by
  cases found : index.occurrenceAt? position with
  | none =>
      refine .inr fun _ member => ?_
      rw [occurrencesAt, found] at member
      cases member
  | some occurrence =>
      cases found' : index.occurrenceAt? place with
      | none =>
          refine .inr fun _ _ member => ?_
          rw [occurrencesAt, found'] at member
          cases member
      | some other =>
          rw [occurrencesAt_true found, occurrencesAt_true found']
          exact related_eq_or_disjoint occurrence other

end Related

section Classes

variable {source : String} {program : Program} {occurrence : Occurrence} {position : Position}

/-- The references of a name hold the name, are in strict order, and are found from each of them;
the references of two names are the same, or no occurrence is among both. Without declarations they
are the same less the declarations. -/
theorem references_partition (parsed : (Parsed.ofString source).program = some program)
    (found : (ofProgram program).occurrenceAt? position = some occurrence) :
    occurrence ∈ (ofProgram program).occurrencesAt position true ∧
      ((ofProgram program).occurrencesAt position true).Pairwise
        (fun first second => first.name.span.start < second.name.span.start) ∧
      (∀ member ∈ (ofProgram program).occurrencesAt position true,
        (ofProgram program).occurrencesAt member.name.span.start true =
          (ofProgram program).occurrencesAt position true) ∧
      (∀ place, (ofProgram program).occurrencesAt position true =
          (ofProgram program).occurrencesAt place true ∨
        ((ofProgram program).occurrencesAt position true).Disjoint
          ((ofProgram program).occurrencesAt place true)) ∧
      (ofProgram program).occurrencesAt position false =
        ((ofProgram program).occurrencesAt position true).filter
          fun other => !other.isDeclaration := by
  obtain ⟨_, _, scattered⟩ := Parser.scattered_of_ok (Parser.ofTokens_of_parsed parsed)
  have held := mem_of_occurrenceAt? found
  refine ⟨?_, ?_, ?_, occurrencesAt_eq_or_disjoint _ position, occurrencesAt_false _ position⟩
  · rw [occurrencesAt_true found]
    exact mem_related_self held
  · rw [occurrencesAt_true found]
    exact scattered.ascending.sublist List.filter_sublist
  · intro member listed
    rw [occurrencesAt_true found] at listed ⊢
    have inside : member ∈ program.occurrences := List.mem_mergeSort.mp (mem_related.mp listed).1
    rw [occurrencesAt_true (occurrenceAt?_start scattered inside)]
    exact related_congr listed

/-- A procedure that uses a local name inside a branch and the name of the module behind it. -/
def shadowedUse : String :=
  "MODULE M VAR num x; PROC p() IF TRUE THEN VAR num x; x := x; ENDIF x := 1; ENDPROC ENDMODULE"

theorem references_partition_of_shadowedUse :
    ∃ program, (Parsed.ofString shadowedUse).program = some program ∧
      ∃ occurrence, (ofProgram program).occurrenceAt? ⟨1, 68⟩ = some occurrence ∧
        occurrence ∈ (ofProgram program).occurrencesAt ⟨1, 68⟩ true ∧
        ∀ member ∈ (ofProgram program).occurrencesAt ⟨1, 68⟩ true,
          (ofProgram program).occurrencesAt member.name.span.start true =
            (ofProgram program).occurrencesAt ⟨1, 68⟩ true := by
  have meets : ((Parsed.ofString shadowedUse).program.any fun program =>
      decide (∃ occurrence ∈ program.occurrences, occurrence.name.span.start = ⟨1, 68⟩)) =
      true := by
    decide +kernel
  obtain ⟨program, parsed, meets⟩ := (Option.any_eq_true _ _).mp meets
  obtain ⟨occurrence, member, starts⟩ := of_decide_eq_true meets
  obtain ⟨_, _, scattered⟩ := Parser.scattered_of_ok (Parser.ofTokens_of_parsed parsed)
  have found := occurrenceAt?_start scattered member
  rw [starts] at found
  obtain ⟨held, _, again, _⟩ := references_partition parsed found
  exact ⟨program, parsed, occurrence, found, held, again⟩

end Classes

end Index

end RapidLang
