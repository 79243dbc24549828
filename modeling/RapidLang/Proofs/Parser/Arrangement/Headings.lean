import RapidLang.Proofs.Parser.Arrangement.Program

/-!
# Headings stand in front of bodies

A declaration begins with a word, behind which stands the name that it declares. The names in the
heading of a routine, and the counter of a loop, stand in front of the statements of the body.
-/

set_option autoImplicit false

namespace RapidLang

open Text

/-- The span begins in front of the name, and some statements stand behind the name. -/
structure Name.Heads (name : Name) (span : Span) (body : List Stmt) : Prop where
  opens : span.start < name.span.start
  before : ∀ statement ∈ body, name.span.Before statement.span

/-- What a statement declares itself heads it. -/
def Stmt.Headed : Stmt → Prop
  | .data item span => item.name.Heads span []
  | .for counter _ _ body span => counter.Heads span body
  | _ => True

namespace Decl

def parameters : Decl → List Parameter
  | .proc _ parameters _ _ | .func _ _ parameters _ _ => parameters
  | .data _ _ | .record _ _ _ | .trap _ _ _ => []

def body : Decl → List Stmt
  | .proc _ _ body _ | .func _ _ _ body _ | .trap _ body _ => body
  | .data _ _ | .record _ _ _ => []

/-- The names that stand in the heading of a declaration, without types. -/
def headNames (declaration : Decl) : List Name :=
  declaration.name :: declaration.parameters.map Parameter.name

/-- The names in the heading of the declaration head it, and so it is at every depth of its body. -/
structure Headed (declaration : Decl) : Prop where
  heads : ∀ name ∈ declaration.headNames, name.Heads declaration.span declaration.body
  parts : ∀ part ∈ Stmt.all declaration.body, part.Headed

/-- Without a body the name is all that matters. -/
theorem Headed.of_name {declaration : Decl} (parameters : declaration.parameters = [])
    (body : declaration.body = []) (opens : declaration.span.start < declaration.name.span.start) :
    declaration.Headed := by
  constructor
  · intro name member
    rw [headNames, parameters] at member
    rw [List.mem_singleton.mp member, body]
    exact ⟨opens, fun _ member => absurd member List.not_mem_nil⟩
  · rw [body, Stmt.all_nil]
    exact fun _ member => absurd member List.not_mem_nil

end Decl

namespace Parser

open Reader

variable {named : Name → Prop} {cursor : Cursor}

/-! ## Statements -/

/-- A token that is not the end of input takes room. -/
theorem Reader.Reads.take_bind_of {α : Type} {next : Token → Reader α} {good : α → Cursor → Prop}
    (inside : cursor.kind ≠ .endOfInput)
    (onward : cursor.here < cursor.edge → cursor.edge ≤ cursor.advance.here →
      (next cursor.current).Reads named cursor.advance good) :
    (Parser.take >>= next).Reads named cursor good :=
  .of_laid fun laid => .take_bind fun _ closes => onward (laid.here_lt_edge inside) closes

theorem dataItem_heads : dataItem.Reads named cursor
    fun result _ => result.2.start < result.1.name.span.start := by
  unfold dataItem
  apply Reads.take_bind
  intro opens closes
  apply Reads.expectName_bind
  intro opens₁ closes₁ _
  apply Reads.expectName_bind
  intro opens₂ closes₂ _
  apply Reads.bind (.optional expression_reads)
  intro initial here passed edge _
  apply Reads.expect_bind (by decide)
  intro opens₃ closes₃
  apply Reads.pure
  rw [Cursor.merge_current (by order) (by order)]
  show cursor.here < cursor.advance.advance.here
  order

theorem forLoop_headed {statement : Reader Stmt} (inner : statement.ReadsNode named)
    (word : cursor.kind = .for) :
    (forLoop statement).Reads named cursor fun value _ => value.Headed := by
  unfold forLoop
  apply Reads.take_bind_of (by rw [word]; decide)
  intro opens closes
  apply Reads.expectName_bind
  intro opens₁ closes₁ _
  apply Reads.expect_bind (by decide)
  intro opens₂ closes₂
  apply Reads.bind (expression_reads _)
  intro first here₃ passed₃ _ _
  apply Reads.expect_bind (by decide)
  intro opens₄ closes₄
  apply Reads.bind (expression_reads _)
  intro last here₅ passed₅ _ _
  apply Reads.bind (body_reads inner _)
  intro statements here₆ passed₆ _ all
  apply Reads.expect_bind (by decide)
  intro opens₇ closes₇
  apply Reads.pure
  rw [Cursor.merge_current (by order) (by order)]
  constructor
  · show cursor.here < cursor.advance.here
    order
  · intro statement member
    have starts : here₅.here ≤ statement.span.start := (all.sits statement member).lower_le
    show cursor.advance.edge ≤ statement.span.start
    order

theorem statementWith_headed {statement : Reader Stmt} (inner : statement.ReadsNode named) :
    (statementWith statement).Reads named cursor fun value _ => value.Headed := by
  unfold statementWith
  apply Reads.peekKind_bind
  have data : (dataItem >>= fun result => pure (Stmt.data result.1 result.2)).Reads named cursor
      fun value _ => value.Headed := by
    apply Reads.bind dataItem_heads
    intro result _ _ _ opens
    exact .pure ⟨opens, fun _ member => absurd member List.not_mem_nil⟩
  split
  · unfold conditional
    iterate 5
      apply Reads.bind_behind
      intro _ _ _
    exact .pure trivial
  · unfold whileLoop
    iterate 4
      apply Reads.bind_behind
      intro _ _ _
    exact .pure trivial
  next word => exact forLoop_headed inner word
  · unfold returnStatement
    iterate 3
      apply Reads.bind_behind
      intro _ _ _
    exact .pure trivial
  iterate 3
    unfold moveStatement
    iterate 10
      apply Reads.bind_behind
      intro _ _ _
    exact .pure trivial
  · unfold testStatement
    iterate 4
      apply Reads.bind_behind
      intro _ _ _
    exact .pure trivial
  · unfold connectStatement
    iterate 5
      apply Reads.bind_behind
      intro _ _ _
    exact .pure trivial
  · unfold raiseStatement
    iterate 3
      apply Reads.bind_behind
      intro _ _ _
    exact .pure trivial
  iterate 3 exact data
  · unfold simpleStatement
    iterate 3
      apply Reads.bind_behind
      intro _ _ _
    split
    all_goals
      iterate 2
        apply Reads.bind_behind
        intro _ _ _
      exact .pure trivial

/-! ## Declarations -/

theorem statements_headed {closes : TokenKind → Bool} :
    (body statement closes).Reads named cursor fun values _ => ∀ part ∈ Stmt.all values, part.Headed :=
  body_every (fun _ headed => headed) fun _ inner _ => statementWith_headed inner

/-- A routine is headed if its statements stand behind the names in its heading. -/
theorem routine_headed {start : Cursor} {last : TokenKind} (heads : List Name)
    (build : List Stmt → Span → Decl)
    (builds : ∀ {statements span}, (∀ name ∈ heads, name.Heads span statements) →
      (∀ part ∈ Stmt.all statements, part.Headed) → (build statements span).Headed)
    (inside : last ≠ .endOfInput) (behind : start.here ≤ cursor.here)
    (edge : start.edge ≤ cursor.here)
    (sit : ∀ name ∈ heads, start.here < name.span.start ∧ name.span.stop ≤ cursor.here) :
    (body statement (· == last) >>= fun statements => expect last >>= fun close =>
        pure (build statements (start.current.span.merge close.span))).Reads named cursor
      fun value _ => value.Headed := by
  apply Reads.bind ((body_reads statement_reads _).and statements_headed)
  rintro statements here passed _ ⟨all, headed⟩
  apply Reads.expect_bind inside
  intro opens closes
  apply Reads.pure
  rw [Cursor.merge_current (by order) (by order)]
  refine builds (fun name member => ?_) headed
  obtain ⟨starts, stops⟩ := sit name member
  exact ⟨starts, fun value among => le_trans stops (all.sits value among).lower_le⟩

theorem parameters_behind : parameters.Reads named cursor fun values behind =>
    ∀ name ∈ values.map Parameter.name,
      cursor.here ≤ name.span.start ∧ name.span.stop ≤ behind.here := by
  apply parameters_reads.mono
  intro values behind _ all
  refine List.forall_mem_map.mpr fun parameter member => ?_
  have sits := all.sits parameter member
  have within := sits.nested.holds.2 parameter.name.span (by simp)
  exact ⟨le_trans sits.lower_le within.1, le_trans within.2 sits.le_upper⟩

theorem procDeclaration_headed (word : cursor.kind = .proc) :
    procDeclaration.Reads named cursor fun value _ => value.Headed := by
  unfold procDeclaration
  apply Reads.take_bind_of (by rw [word]; decide)
  intro opens closes
  apply Reads.expectName_bind
  intro opens₁ closes₁ _
  apply Reads.bind parameters_behind
  intro parameters here passed _ sit
  apply routine_headed (_ :: parameters.map Parameter.name) (Decl.proc _ parameters)
    (fun heads parts => ⟨heads, parts⟩) (by decide) (by order) (by order)
  refine List.forall_mem_cons.mpr ⟨⟨?_, ?_⟩, fun name member => ?_⟩
  · show cursor.here < cursor.advance.here
    order
  · show cursor.advance.edge ≤ here.here
    order
  · obtain ⟨starts, stops⟩ := sit name member
    exact ⟨by order, stops⟩

theorem funcDeclaration_headed :
    funcDeclaration.Reads named cursor fun value _ => value.Headed := by
  unfold funcDeclaration
  apply Reads.take_bind
  intro opens closes
  apply Reads.expectName_bind
  intro opens₁ closes₁ _
  apply Reads.expectName_bind
  intro opens₂ closes₂ _
  apply Reads.bind parameters_behind
  intro parameters here passed _ sit
  apply routine_headed (_ :: parameters.map Parameter.name) (Decl.func _ _ parameters)
    (fun heads parts => ⟨heads, parts⟩) (by decide) (by order) (by order)
  refine List.forall_mem_cons.mpr ⟨⟨?_, ?_⟩, fun name member => ?_⟩
  · show cursor.here < cursor.advance.advance.here
    order
  · show cursor.advance.advance.edge ≤ here.here
    order
  · obtain ⟨starts, stops⟩ := sit name member
    exact ⟨by order, stops⟩

theorem trapDeclaration_headed (word : cursor.kind = .trap) :
    trapDeclaration.Reads named cursor fun value _ => value.Headed := by
  unfold trapDeclaration
  apply Reads.take_bind_of (by rw [word]; decide)
  intro opens closes
  apply Reads.expectName_bind
  intro opens₁ closes₁ _
  apply routine_headed [_] (Decl.trap _) (fun heads parts => ⟨heads, parts⟩) (by decide)
    (by order) (by order)
  exact List.forall_mem_singleton.mpr
    ⟨show cursor.here < cursor.advance.here by order, closes₁⟩

theorem recordDeclaration_headed (word : cursor.kind = .record) :
    recordDeclaration.Reads named cursor fun value _ => value.Headed := by
  unfold recordDeclaration
  apply Reads.take_bind_of (by rw [word]; decide)
  intro opens closes
  apply Reads.expectName_bind
  intro opens₁ closes₁ _
  apply Reads.accept_bind
  · intro opens₂ closes₂
    apply Reads.bind componentList_reads
    intro components here₃ passed₃ _ _
    apply Reads.expect_bind (by decide)
    intro opens₄ closes₄
    apply Reads.expect_bind (by decide)
    intro opens₅ closes₅
    apply Reads.pure
    rw [Cursor.merge_current (by order) (by order)]
    exact .of_name rfl rfl (show cursor.here < cursor.advance.here by order)
  · apply Reads.bind (.repeatWhile blockComponent_reads)
    intro components here₂ passed₂ _ _
    apply Reads.expect_bind (by decide)
    intro opens₃ closes₃
    apply Reads.pure
    rw [Cursor.merge_current (by order) (by order)]
    exact .of_name rfl rfl (show cursor.here < cursor.advance.here by order)

theorem declaration_headed : declaration.Reads named cursor fun value _ => value.Headed := by
  unfold declaration
  apply Reads.peekKind_bind
  have data : (dataItem >>= fun result => pure (Decl.data result.1 result.2)).Reads named cursor
      fun value _ => value.Headed := by
    apply Reads.bind dataItem_heads
    intro result _ _ _ opens
    exact .pure (.of_name rfl rfl opens)
  split
  iterate 3 exact data
  next word => exact procDeclaration_headed word
  · exact funcDeclaration_headed
  next word => exact recordDeclaration_headed word
  next word => exact trapDeclaration_headed word
  · exact .fail

/-! ## Programs -/

theorem module_headed : «module».Reads named cursor
    fun content _ => ∀ declaration ∈ content.declarations, declaration.Headed := by
  unfold «module»
  iterate 2
    apply Reads.bind_behind
    intro _ _ _
  apply Reads.bind
  · exact .repeatWhile_each (fun _ declaration => declaration.Headed) (fun _ headed => headed)
      fun _ => declaration_headed
  intro declarations _ _ _ headed
  apply Reads.bind_behind
  intro _ _ _
  exact .pure headed

theorem program_headed : program.Reads named cursor fun value _ =>
    ∀ content ∈ value.modules, ∀ declaration ∈ content.declarations, declaration.Headed := by
  unfold program
  apply Reads.peek_bind
  apply Reads.bind
  · exact .repeatWhile_each
      (fun _ (content : Module) => ∀ declaration ∈ content.declarations, declaration.Headed)
      (fun _ headed => headed) fun _ => module_headed
  intro modules _ _ _ headed
  exact .pure headed

/-- The declarations of a program that is read from a text are headed. -/
theorem headed_of_ok {characters : List Char} {program : Program}
    (accepted : Program.ofTokens (Lexed.ofChars characters).tokens = .ok program) :
    ∀ content ∈ program.modules, ∀ declaration ∈ content.declarations, declaration.Headed := by
  obtain ⟨_, outcome⟩ := Reader.run_of_read accepted
  exact program_headed.ends (laid_tokens characters) _ _ outcome

end Parser

end RapidLang
