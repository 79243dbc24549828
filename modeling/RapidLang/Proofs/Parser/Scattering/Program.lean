import RapidLang.Proofs.Parser.Nesting.Source
import RapidLang.Proofs.Parser.Scattering.Statement

/-!
# The names in programs stand apart

The occurrences in a program that is read from a text are not empty, and each of them stands apart
from the others.
-/

set_option autoImplicit false

namespace RapidLang

open Text

/-- The names in a declaration of a module, with the name that it declares. -/
def Decl.allOccurrences (declaration : Decl) : List Occurrence :=
  .declaration (.ofDecl declaration) :: declaration.innerOccurrences

/-- The types of the components of a record. -/
def componentOccurrences (components : List Component) : List Occurrence :=
  components.map fun component => .use component.type

theorem flatMap_allOccurrences_perm (declarations : List Decl) :
    (declarations.flatMap Decl.allOccurrences).Perm
      (declarations.map (fun declaration => .declaration (.ofDecl declaration))
        ++ declarations.flatMap Decl.innerOccurrences) := by
  induction declarations with
  | nil => exact .refl _
  | cons first rest ih =>
      rw [List.flatMap_cons, List.flatMap_cons, List.map_cons, List.cons_append]
      apply List.Perm.cons
      apply (ih.append_left first.innerOccurrences).trans
      rw [← List.append_assoc, ← List.append_assoc]
      exact List.perm_append_comm.append_right _

/-- A program has the names of all its declarations. -/
theorem Program.occurrences_perm (program : Program) :
    (program.modules.flatMap fun content => content.declarations.flatMap Decl.allOccurrences).Perm
      program.occurrences := by
  rw [← List.flatMap_assoc]
  exact flatMap_allOccurrences_perm _

namespace Parser

open Reader

variable {named : Name → Prop} {cursor : Cursor}

/-! ## Parameters and components -/

theorem parameter_scatters (routine : Span) :
    parameter.Scatters named (Parameter.occurrences routine) := by
  intro cursor
  unfold parameter
  apply Reads.peek_bind
  apply Reads.bind takeMode_reads
  rintro mode here - - ⟨passed, _⟩
  apply Reads.expectName_bind
  intro opens₁ closes₁ type
  apply Reads.expectName_bind
  intro opens₂ closes₂ name
  apply Reads.pure
  generalize cursor.current.span.merge _ = span
  have declared : Scattered _ _ [.declaration (.ofParameter routine
      ⟨mode, ⟨here.current.text, here.current.span⟩, _, span⟩)] := .declaration name
  have whole := (Scattered.use type).append declared (by order) (by order) (by order)
  exact whole.widen (by order) (by order)

theorem parameters_scatters :
    parameters.Reads named cursor fun values behind => ∀ routine,
      Scattered cursor.here behind.here (values.flatMap (Parameter.occurrences routine)) := by
  apply Reads.all
  intro routine
  unfold parameters
  apply Reads.accept_bind
  · intro opens closes
    have list : parameterList.Reads named cursor.advance fun values behind =>
        Scattered cursor.advance.here behind.here
          (values.flatMap (Parameter.occurrences routine)) := by
      unfold parameterList
      apply Reads.peekKind_bind
      split
      · exact .pure .nil
      · exact .scatterCommas (parameter_scatters routine)
    apply Reads.bind list
    intro values here _ _ scattered
    apply Reads.expect_bind (by decide)
    intro opens' closes'
    exact .pure (scattered.widen (by order) (by order))
  · exact .pure .nil

theorem component_scatters :
    component.Scatters named fun value => componentOccurrences [value] := by
  intro cursor
  unfold component
  apply Reads.expectName_bind
  intro opens closes type
  apply Reads.expectName_bind
  intro opens₁ closes₁ name
  exact .pure ((Scattered.use type).widen (le_refl _) (by order))

theorem optionalComponent_scatters :
    optionalComponent.Scatters named fun found => componentOccurrences found.toList := by
  intro cursor
  unfold optionalComponent
  apply Reads.peekKind_bind
  split
  · exact .pure .nil
  · apply Reads.bind (component_scatters _)
    intro value behind _ _ scattered
    exact .pure scattered

theorem componentOccurrences_filterMap (found : List (Option Component)) :
    componentOccurrences (found.filterMap id) =
      found.flatMap fun value => componentOccurrences value.toList := by
  induction found with
  | nil => rfl
  | cons first rest ih =>
      rw [List.flatMap_cons, ← ih]
      cases first <;> rfl

theorem componentList_scatters :
    componentList.Scatters named componentOccurrences := by
  intro cursor
  unfold componentList
  apply Reads.bind (optionalComponent_scatters _)
  intro found here passed _ first
  cases found with
  | none => exact .pure .nil
  | some value =>
      have once : (Parser.take >>= fun _ => optionalComponent).Scatters named
          fun found => componentOccurrences found.toList := by
        intro cursor
        apply Reads.take_bind
        intro opens closes
        apply (optionalComponent_scatters _).mono
        intro found behind _ scattered
        exact scattered.widen (by order) (le_refl _)
      apply Reads.bind (.scatterWhile once)
      intro others behind passed' _ scattered
      apply Reads.pure
      rw [← componentOccurrences_filterMap] at scattered
      exact first.append scattered (le_refl _) passed passed'

theorem componentOccurrences_eq_flatMap (components : List Component) :
    componentOccurrences components =
      components.flatMap fun component => componentOccurrences [component] :=
  List.map_eq_flatMap

/-! ## Declarations -/

theorem recordDeclaration_scatters : recordDeclaration.Scatters named Decl.allOccurrences := by
  intro cursor
  unfold recordDeclaration
  apply Reads.take_bind
  intro opens closes
  apply Reads.expectName_bind
  intro opens₁ closes₁ name
  apply Reads.accept_bind
  · intro opens₂ closes₂
    apply Reads.bind (componentList_scatters _)
    intro components here₃ passed₃ _ scattered
    apply Reads.expect_bind (by decide)
    intro opens₄ closes₄
    apply Reads.expect_bind (by decide)
    intro opens₅ closes₅
    apply Reads.pure
    generalize cursor.current.span.merge _ = span
    have declared : Scattered _ _ [.declaration (.ofDecl (.record _ components span))] :=
      .declaration name
    have whole := declared.append scattered (by order) (by order) (by order)
    exact whole.widen (by order) (by order)
  · have once : (component >>= fun value => expect .semicolon >>= fun _ => pure value).Scatters
        named fun value => componentOccurrences [value] := by
      intro cursor
      apply Reads.bind (component_scatters cursor)
      intro value here _ _ scattered
      apply Reads.expect_bind (by decide)
      intro opens closes
      exact .pure (scattered.widen (le_refl _) (by order))
    apply Reads.bind (.scatterWhile once)
    intro components here₂ passed₂ _ scattered
    apply Reads.expect_bind (by decide)
    intro opens₃ closes₃
    apply Reads.pure
    rw [← componentOccurrences_eq_flatMap] at scattered
    generalize cursor.current.span.merge _ = span
    have declared : Scattered _ _ [.declaration (.ofDecl (.record _ components span))] :=
      .declaration name
    have whole := declared.append scattered (by order) (by order) (by order)
    exact whole.widen (by order) (by order)

theorem procDeclaration_scatters : procDeclaration.Scatters named Decl.allOccurrences := by
  intro cursor
  unfold procDeclaration
  apply Reads.take_bind
  intro opens closes
  apply Reads.expectName_bind
  intro opens₁ closes₁ name
  apply Reads.bind parameters_scatters
  intro parameters here₂ passed₂ _ scattered
  apply Reads.bind (body_scatters statement_scatters _)
  intro statements here₃ passed₃ _ scattered'
  apply Reads.expect_bind (by decide)
  intro opens₄ closes₄
  apply Reads.pure
  generalize cursor.current.span.merge _ = span
  have declared : Scattered _ _ [.declaration (.ofDecl (.proc _ parameters statements span))] :=
    .declaration name
  have inner := (scattered span).append (scattered' span) (by order) (by order) (by order)
  have whole := declared.append inner (by order) (by order) (by order)
  exact whole.widen (by order) (by order)

theorem funcDeclaration_scatters : funcDeclaration.Scatters named Decl.allOccurrences := by
  intro cursor
  unfold funcDeclaration
  apply Reads.take_bind
  intro opens closes
  apply Reads.expectName_bind
  intro opens₁ closes₁ type
  apply Reads.expectName_bind
  intro opens₂ closes₂ name
  apply Reads.bind parameters_scatters
  intro parameters here₃ passed₃ _ scattered
  apply Reads.bind (body_scatters statement_scatters _)
  intro statements here₄ passed₄ _ scattered'
  apply Reads.expect_bind (by decide)
  intro opens₅ closes₅
  apply Reads.pure
  generalize cursor.current.span.merge _ = span
  have declared : Scattered _ _ [.declaration (.ofDecl
      (.func ⟨cursor.advance.current.text, cursor.advance.current.span⟩ _ parameters statements
        span))] := .declaration name
  have inner := (scattered span).append (scattered' span) (by order) (by order) (by order)
  have heading := (Scattered.use type).append declared (by order) (by order) (by order)
  have whole := heading.append inner (by order) (by order) (by order)
  exact (whole.widen (by order) (by order)).perm (.swap _ _ _)

theorem trapDeclaration_scatters : trapDeclaration.Scatters named Decl.allOccurrences := by
  intro cursor
  unfold trapDeclaration
  apply Reads.take_bind
  intro opens closes
  apply Reads.expectName_bind
  intro opens₁ closes₁ name
  apply Reads.bind (body_scatters statement_scatters _)
  intro statements here₂ passed₂ _ scattered
  apply Reads.expect_bind (by decide)
  intro opens₃ closes₃
  apply Reads.pure
  generalize cursor.current.span.merge _ = span
  have declared : Scattered _ _ [.declaration (.ofDecl (.trap _ statements span))] :=
    .declaration name
  have whole := declared.append (scattered span) (by order) (by order) (by order)
  exact whole.widen (by order) (by order)

theorem declaration_scatters : declaration.Scatters named Decl.allOccurrences := by
  intro cursor
  unfold declaration
  apply Reads.peekKind_bind
  have data : (dataItem >>= fun result => pure (Decl.data result.1 result.2)).Reads named cursor
      fun value behind => Scattered cursor.here behind.here value.allOccurrences := by
    apply Reads.bind dataItem_scatters
    intro result behind _ _ scattered
    have whole := scattered (.ofDecl (.data result.1 result.2)) rfl
    exact .pure (whole.perm List.perm_append_comm)
  split
  iterate 3 exact data
  · exact procDeclaration_scatters cursor
  · exact funcDeclaration_scatters cursor
  · exact recordDeclaration_scatters cursor
  · exact trapDeclaration_scatters cursor
  · exact .fail

/-! ## Modules and programs -/

theorem module_scatters :
    «module».Scatters named fun content => content.declarations.flatMap Decl.allOccurrences := by
  intro cursor
  unfold «module»
  apply Reads.expect_bind (by decide)
  intro opens closes
  apply Reads.expectName_bind
  intro opens₁ closes₁ name
  apply Reads.bind (.scatterWhile declaration_scatters)
  intro declarations here₂ passed₂ _ scattered
  apply Reads.expect_bind (by decide)
  intro opens₃ closes₃
  exact .pure (scattered.widen (by order) (by order))

theorem program_scatters : program.Scatters named Program.occurrences := by
  intro cursor
  unfold program
  apply Reads.peek_bind
  apply Reads.bind (.scatterWhile module_scatters)
  intro modules behind passed _ scattered
  apply Reads.pure
  exact scattered.perm (Program.occurrences_perm ⟨modules, _⟩)

/-- The names in a program that is read from a text stand in the text, apart from each other. -/
theorem scattered_of_ok {characters : List Char} {program : Program}
    (accepted : Program.ofTokens (Lexed.ofChars characters).tokens = .ok program) :
    ∃ lower upper, Scattered lower upper program.occurrences := by
  obtain ⟨_, outcome⟩ := Reader.run_of_read accepted
  exact ⟨_, _, (program_scatters _).ends (laid_tokens characters) _ _ outcome⟩

end Parser

end RapidLang
