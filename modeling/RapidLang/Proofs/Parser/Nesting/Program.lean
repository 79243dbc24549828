import RapidLang.Proofs.Parser.Nesting.Statement
import RapidLang.Syntax.Parser.Program

/-!
# Programs with nested spans

Every reader of declarations and modules makes them with nested spans from tokens that are laid
out, and so does the reader of programs.
-/

set_option autoImplicit false

namespace RapidLang

open Text

variable {named : Name → Prop}

namespace Parser

open Reader

variable {cursor : Cursor}

/-! ## Parameters and components -/

theorem takeMode_reads : takeMode.Reads named cursor
    fun _ behind => cursor.here ≤ behind.here ∧ cursor.edge ≤ behind.edge := by
  constructor
  intro laid value behind outcome
  exact laid.le_of_reaches (Reader.reaches_of_ok outcome)

theorem parameter_reads : parameter.ReadsNode named := by
  intro cursor
  unfold parameter
  apply Reads.peek_bind
  apply Reads.bind takeMode_reads
  intro mode here passed edge _
  apply Reads.expectName_bind
  intro opens₁ closes₁ type
  apply Reads.expectName_bind
  intro opens₂ closes₂ name
  apply Reads.pure
  show Sits named cursor.here here.advance.advance.here
    (⟨mode, _, _, cursor.current.span.merge here.advance.current.span⟩ : Parameter)
  rw [Cursor.merge_current (by order) (by order)]
  constructor
  · exact le_refl _
  · exact closes₂
  · constructor
    · exact .cons (type.within (by order) (by order)) <| .cons (name.within (by order) (le_refl _)) <|
        .nil (show cursor.here < here.advance.edge by order)
    · exact type.nested
    · exact name.nested

theorem parameterList_reads : parameterList.Reads named cursor
    fun values behind => SitAll named cursor.here behind.here values := by
  unfold parameterList
  apply Reads.peekKind_bind
  split
  · exact .pure .nil
  · exact .commaSeparated parameter_reads

theorem parameters_reads : parameters.Reads named cursor
    fun values behind => SitAll named cursor.here behind.here values := by
  unfold parameters
  apply Reads.accept_bind
  · intro opens closes
    apply Reads.bind parameterList_reads
    intro values here _ _ all
    apply Reads.expect_bind (by decide)
    intro opens' closes'
    exact .pure (all.widen (by order) (by order))
  · exact .pure .nil

theorem component_reads : component.ReadsNode named := by
  intro cursor
  unfold component
  apply Reads.expectName_bind
  intro opens closes type
  apply Reads.expectName_bind
  intro opens₁ closes₁ name
  apply Reads.pure
  show Sits named cursor.here cursor.advance.advance.here
    (⟨_, _, cursor.current.span.merge cursor.advance.current.span⟩ : Component)
  rw [Cursor.merge_current (by order) (by order)]
  constructor
  · exact le_refl _
  · exact closes₁
  · constructor
    · exact .cons (type.within (by order) (by order)) <| .cons (name.within (by order) (le_refl _)) <|
        .nil (show cursor.here < cursor.advance.edge by order)
    · exact type.nested
    · exact name.nested

theorem optionalComponent_reads : optionalComponent.Reads named cursor
    fun found behind => ∀ value ∈ found, Sits named cursor.here behind.here value := by
  unfold optionalComponent
  apply Reads.peekKind_bind
  split
  · exact .pure fun _ member => nomatch member
  · apply Reads.bind (component_reads _)
    intro value behind _ _ sits
    apply Reads.pure
    rintro _ ⟨⟩
    exact sits

theorem componentList_reads : componentList.Reads named cursor
    fun values behind => SitAll named cursor.here behind.here values := by
  unfold componentList
  apply Reads.bind optionalComponent_reads
  intro found here passed _ first
  cases found with
  | none => exact .pure .nil
  | some value =>
      apply Reads.bind
      · apply Reads.repeatWhile_of
          fun (values : List (Option Component)) behind =>
            SitAll named here.here behind.here (values.filterMap id)
        · exact .nil
        · intro values here' later all
          apply Reads.take_bind
          intro opens closes
          apply optionalComponent_reads.mono
          intro found behind passed sits
          rw [List.filterMap_append]
          apply all.append _ later (by order)
          cases found with
          | none => exact .nil
          | some value => exact .one ((sits value rfl).widen (by order) (le_refl _))
      · intro others behind passed' _ all
        exact .pure ((SitAll.one (first value rfl)).append all passed passed')

/-! ## Declarations -/

theorem blockComponent_reads :
    (component >>= fun value => expect .semicolon >>= fun _ => pure value).ReadsNode named := by
  intro cursor
  apply Reads.bind (component_reads cursor)
  intro value here _ _ sits
  apply Reads.expect_bind (by decide)
  intro opens closes
  exact .pure (sits.widen (le_refl _) (by order))

theorem recordDeclaration_reads : recordDeclaration.ReadsNode named := by
  intro cursor
  unfold recordDeclaration
  apply Reads.take_bind
  intro opens closes
  apply Reads.expectName_bind
  intro opens₁ closes₁ name
  apply Reads.accept_bind
  · intro opens₂ closes₂
    apply Reads.bind componentList_reads
    intro components here₃ passed₃ _ all
    apply Reads.expect_bind (by decide)
    intro opens₄ closes₄
    apply Reads.expect_bind (by decide)
    intro opens₅ closes₅
    apply Reads.pure
    rw [Cursor.merge_current (by order) (by order)]
    constructor
    · exact le_refl _
    · exact closes₅
    · apply Decl.Nested.record
      · exact .cons (name.within (by order) (by order)) (.nil (show cursor.here < Cursor.edge _ by order))
      · exact name.nested
      · exact all.lists (by order) (by order) (by order)
      · exact all.nested
  · apply Reads.bind (.repeatWhile (blockComponent_reads))
    intro components here₂ passed₂ _ all
    apply Reads.expect_bind (by decide)
    intro opens₃ closes₃
    apply Reads.pure
    rw [Cursor.merge_current (by order) (by order)]
    constructor
    · exact le_refl _
    · exact closes₃
    · apply Decl.Nested.record
      · exact .cons (name.within (by order) (by order)) (.nil (show cursor.here < here₂.edge by order))
      · exact name.nested
      · exact all.lists (by order) (by order) (by order)
      · exact all.nested

theorem procDeclaration_reads : procDeclaration.ReadsNode named := by
  intro cursor
  unfold procDeclaration
  apply Reads.take_bind
  intro opens closes
  apply Reads.expectName_bind
  intro opens₁ closes₁ name
  apply Reads.bind parameters_reads
  intro parameters here₂ passed₂ _ all
  apply Reads.bind (body_reads statement_reads _)
  intro statements here₃ passed₃ _ all'
  apply Reads.expect_bind (by decide)
  intro opens₄ closes₄
  apply Reads.pure
  rw [Cursor.merge_current (by order) (by order)]
  constructor
  · exact le_refl _
  · exact closes₄
  · apply Decl.Nested.proc
    · exact .cons (name.within (by order) (by order)) (.nil (show cursor.here < here₃.edge by order))
    · exact name.nested
    · exact all.lists (by order) (by order) (by order)
    · exact all.nested
    · exact all'.lists (by order) (by order) (by order)
    · exact all'.nested

theorem funcDeclaration_reads : funcDeclaration.ReadsNode named := by
  intro cursor
  unfold funcDeclaration
  apply Reads.take_bind
  intro opens closes
  apply Reads.expectName_bind
  intro opens₁ closes₁ type
  apply Reads.expectName_bind
  intro opens₂ closes₂ name
  apply Reads.bind parameters_reads
  intro parameters here₃ passed₃ _ all
  apply Reads.bind (body_reads statement_reads _)
  intro statements here₄ passed₄ _ all'
  apply Reads.expect_bind (by decide)
  intro opens₅ closes₅
  apply Reads.pure
  rw [Cursor.merge_current (by order) (by order)]
  constructor
  · exact le_refl _
  · exact closes₅
  · apply Decl.Nested.func
    · exact .cons (type.within (by order) (by order)) <| .cons (name.within (by order) (by order)) <|
        .nil (show cursor.here < here₄.edge by order)
    · exact type.nested
    · exact name.nested
    · exact all.lists (by order) (by order) (by order)
    · exact all.nested
    · exact all'.lists (by order) (by order) (by order)
    · exact all'.nested

theorem trapDeclaration_reads : trapDeclaration.ReadsNode named := by
  intro cursor
  unfold trapDeclaration
  apply Reads.take_bind
  intro opens closes
  apply Reads.expectName_bind
  intro opens₁ closes₁ name
  apply Reads.bind (body_reads statement_reads _)
  intro statements here₂ passed₂ _ all
  apply Reads.expect_bind (by decide)
  intro opens₃ closes₃
  apply Reads.pure
  rw [Cursor.merge_current (by order) (by order)]
  constructor
  · exact le_refl _
  · exact closes₃
  · apply Decl.Nested.trap
    · exact .cons (name.within (by order) (by order)) (.nil (show cursor.here < here₂.edge by order))
    · exact name.nested
    · exact all.lists (by order) (by order) (by order)
    · exact all.nested

theorem declaration_reads : declaration.ReadsNode named := by
  intro cursor
  unfold declaration
  apply Reads.peekKind_bind
  have data : (dataItem >>= fun result => pure (Decl.data result.1 result.2)).Reads named cursor
      fun value behind => Sits named cursor.here behind.here value := by
    apply Reads.bind (dataItem_reads cursor)
    intro result behind _ _ sits
    exact .pure ⟨sits.lower_le, sits.le_upper, .data sits.nested⟩
  split
  iterate 3 exact data
  · exact procDeclaration_reads cursor
  · exact funcDeclaration_reads cursor
  · exact recordDeclaration_reads cursor
  · exact trapDeclaration_reads cursor
  · exact .fail

/-! ## Modules and programs -/

theorem module_reads : «module».ReadsNode named := by
  intro cursor
  unfold «module»
  apply Reads.expect_bind (by decide)
  intro opens closes
  apply Reads.expectName_bind
  intro opens₁ closes₁ name
  apply Reads.bind (.repeatWhile declaration_reads)
  intro declarations here₂ passed₂ _ all
  apply Reads.expect_bind (by decide)
  intro opens₃ closes₃
  apply Reads.pure
  rw [Cursor.merge_current (by order) (by order)]
  constructor
  · exact le_refl _
  · exact closes₃
  · constructor
    · exact .cons (name.within (by order) (by order)) (.nil (show cursor.here < here₂.edge by order))
    · exact name.nested
    · exact all.lists (by order) (by order) (by order)
    · exact all.nested

/-- A program has nested spans, and its modules lie where its tokens are. -/
theorem program_reads : program.Reads named cursor
    fun value behind => value.Nested named ∧
      ∀ content ∈ value.modules, Sits named cursor.here behind.here content := by
  unfold program
  apply Reads.peek_bind
  apply Reads.bind (.repeatWhile module_reads)
  intro modules behind passed _ all
  apply Reads.pure
  refine ⟨⟨?_, all.ordered, all.nested⟩, all.sits⟩
  intro content member
  rcases modules.eq_nil_or_concat with rfl | ⟨front, last, rfl⟩
  · cases member
  · rw [List.concat_eq_append] at all member ⊢
    have filled := (all.sits last (by simp)).nested.holds.1
    have within := (all.upto_last filled).sits content member
    have first := (all.sits content member).lower_le
    simp only [List.getLast?_append, List.getLast?_singleton, Option.some_or]
    exact ⟨le_trans (min_le_left _ _) first, le_trans within.le_upper (le_max_right _ _)⟩

end Parser

end RapidLang
