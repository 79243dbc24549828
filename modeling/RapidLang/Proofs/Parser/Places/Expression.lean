import RapidLang.Proofs.Parser.Nesting.Expression

/-!
# The spans of expressions

The span of an expression is that of a token or a name, or it is merged from such spans. So it fits
whatever they all fit and what merging keeps.
-/

set_option autoImplicit false

namespace RapidLang

open Text

/-- What two spans fit, the span that is merged from them fits. -/
def Text.Span.Merging (fits : Span → Prop) : Prop :=
  ∀ {left right : Span}, fits left → fits right → fits (left.merge right)

/-- The span of a name fits. -/
def Name.Fits (fits : Span → Prop) (name : Name) : Prop :=
  fits name.span

namespace Parser

open Reader

variable {α β : Type} {fits : Span → Prop} {named : Name → Prop} {cursor behind : Cursor}

/-! ## Tokens whose spans fit -/

/-- The spans of the tokens at a cursor and of the end of input fit. -/
structure Cursor.Fits (fits : Span → Prop) (cursor : Cursor) : Prop where
  tokens : ∀ token ∈ cursor.rest, fits token.span
  stop : fits cursor.stop.span

namespace Cursor.Fits

theorem of_reaches (fit : cursor.Fits fits) (reaches : cursor.Reaches behind) :
    behind.Fits fits where
  tokens token member := fit.tokens token (reaches.1.subset member)
  stop := reaches.2 ▸ fit.stop

theorem advance (fit : cursor.Fits fits) : cursor.advance.Fits fits :=
  fit.of_reaches (.advance cursor)

theorem current (fit : cursor.Fits fits) : fits cursor.current.span := by
  cases remaining : cursor.rest with
  | nil =>
      rw [Cursor.current, remaining]
      exact fit.stop
  | cons first rest =>
      rw [Cursor.current, remaining]
      exact fit.tokens first (remaining ▸ List.mem_cons_self)

end Cursor.Fits

/-- Behind a reader the spans still fit. -/
theorem Reader.Reads.bind_fits {reader : Reader β} {next : β → Reader α}
    {good : α → Cursor → Prop} {good' : β → Prop} (fit : cursor.Fits fits)
    (first : reader.Reads named cursor fun value _ => good' value)
    (onward : ∀ value behind, behind.Fits fits → good' value →
      (next value).Reads named behind good) :
    (reader >>= next).Reads named cursor good := by
  apply bind first.passing
  rintro value behind - - ⟨holds, reaches⟩
  exact onward value behind (fit.of_reaches reaches) holds

namespace Reader.Reads

variable {item : Reader α} {good : α → Prop}

/-- What holds of every item that is read where spans fit holds of all items of a repetition. -/
theorem repeatWhile_fits {continues : TokenKind → Bool} (fit : cursor.Fits fits)
    (once : ∀ here : Cursor, here.Fits fits → item.Reads named here fun value _ => good value) :
    (Parser.repeatWhile continues item).Reads named cursor
      fun values _ => ∀ value ∈ values, good value := by
  have each : (Parser.repeatWhile continues item).Reads named cursor
      fun values _ => ∀ value ∈ values, cursor.Fits fits → good value := by
    apply repeatWhile_each fun here value => here.Fits fits → good value
    · exact fun reaches holds fit => holds (fit.of_reaches reaches)
    · exact fun here => ⟨fun laid value behind outcome fit =>
        (once here fit).ends laid value behind outcome⟩
  exact each.mono fun _ _ _ holds value member => holds value member fit

theorem commaSeparated_fits (fit : cursor.Fits fits)
    (once : ∀ here : Cursor, here.Fits fits → item.Reads named here fun value _ => good value) :
    (Parser.commaSeparated item).Reads named cursor
      fun values _ => ∀ value ∈ values, good value := by
  unfold Parser.commaSeparated
  apply bind_fits fit (once cursor fit)
  intro first here fit' holds
  apply bind (repeatWhile_fits fit' fun here fit => .take_bind fun _ _ => once _ fit.advance)
  intro others behind _ _ holds'
  exact pure (List.forall_mem_cons.mpr ⟨holds, holds'⟩)

theorem optionalAfter_fits {kind : TokenKind} (fit : cursor.Fits fits)
    (once : ∀ here : Cursor, here.Fits fits → item.Reads named here fun value _ => good value) :
    (Parser.optionalAfter kind item).Reads named cursor
      fun found _ => ∀ value ∈ found, good value := by
  apply optionalAfter
  · intro _
    apply (once _ fit.advance).mono
    rintro value _ - holds _ ⟨⟩
    exact holds
  · exact fun _ member => nomatch member

end Reader.Reads

/-- Where the spans of the tokens fit, so does the span of the expression that the reader ends
with. -/
def Reader.Fits (fits : Span → Prop) (reader : Reader Expr) : Prop :=
  ∀ cursor : Cursor, cursor.Fits fits →
    reader.Reads (Name.Fits fits) cursor fun value _ => fits value.span

/-- What is kept by every step holds behind a repetition. -/
theorem Reader.Reads.steps_fits {continues : TokenKind → Bool} {step : Expr → Reader Expr}
    {start : Expr} (fit : cursor.Fits fits) (begins : fits start.span)
    (kept : ∀ value (here : Cursor), here.Fits fits → fits value.span →
      (step value).Reads named here fun value _ => fits value.span) :
    (Reader.steps continues step start).Reads named cursor fun value _ => fits value.span := by
  apply (Reads.steps (fun (value : Expr) here => here.Fits fits ∧ fits value.span)
    ⟨fit, begins⟩ _).mono
  · exact fun _ _ _ holds => holds.2
  · rintro value here - ⟨fit', holds⟩
    apply (kept value here fit' holds).passing.mono
    rintro value behind - ⟨holds', reaches⟩
    exact ⟨fit'.of_reaches reaches, holds'⟩

/-! ## Expressions -/

section

variable {expression : Reader Expr} (merging : Span.Merging fits)

include merging

theorem fits_foldl_select {base : Expr} {names : List Name} (first : fits base.span)
    (components : ∀ name ∈ names, fits name.span) : fits (names.foldl Expr.select base).span := by
  induction names generalizing base with
  | nil => exact first
  | cons name names ih =>
      rw [List.forall_mem_cons] at components
      exact ih (merging first components.1) components.2

theorem fits_foldr_applySign {operand : Expr} {signs : List Token} (inner : fits operand.span)
    (before : ∀ sign ∈ signs, fits sign.span) : fits (signs.foldr applySign operand).span := by
  induction signs with
  | nil => exact inner
  | cons sign signs ih =>
      rw [List.forall_mem_cons] at before
      rw [List.foldr_cons, applySign]
      split
      · exact merging before.1 (ih before.2)
      · exact ih before.2

theorem operation_fits {operator? : TokenKind → Option BinaryOperator} {operand : Reader Expr}
    (inner : operand.Fits fits) {left : Expr} (fit : cursor.Fits fits) (first : fits left.span) :
    (operation operator? operand left).Reads (Name.Fits fits) cursor
      fun value _ => fits value.span := by
  unfold operation
  apply Reads.take_bind
  intro _ _
  apply Reads.bind_fits fit.advance (inner _ fit.advance)
  intro right behind _ second
  split
  · exact .pure (merging first second)
  · exact .pure first

theorem level_fits {operator? : TokenKind → Option BinaryOperator} {operand : Reader Expr}
    (inner : operand.Fits fits) : (level operator? operand).Fits fits := by
  intro cursor fit
  unfold level
  apply Reads.bind_fits fit (inner cursor fit)
  intro first behind fit' holds
  exact .steps_fits fit' holds fun _ _ => operation_fits merging inner

theorem suffix_fits {base : Expr} (fit : cursor.Fits fits) (first : fits base.span) :
    (suffix expression base).Reads (Name.Fits fits) cursor fun value _ => fits value.span := by
  -- A call and an index end with the bracket that closes them.
  have closed : ∀ {kind : TokenKind} {value : Token → Expr} {here : Cursor},
      kind ≠ .endOfInput → cursor.advance.Reaches here →
      (∀ close, (value close).span = base.span.merge close.span) →
      (do return value (← expect kind)).Reads (Name.Fits fits) here
        fun value _ => fits value.span := by
    intro kind value here inside reaches same
    apply Reads.expect_bind inside
    intro _ _
    apply Reads.pure
    rw [same]
    exact merging first (fit.advance.of_reaches reaches).current
  unfold suffix
  apply Reads.peekKind_bind
  split
  next =>
    split
    next name =>
      unfold callSuffix
      apply Reads.take_bind
      intro _ _
      apply Reads.bind_behind
      intro values here reaches
      exact closed (by decide) reaches fun _ => rfl
    next => exact .fail
  next =>
    unfold indexSuffix
    apply Reads.take_bind
    intro _ _
    apply Reads.bind_behind
    intro position here reaches
    exact closed (by decide) reaches fun _ => rfl
  next =>
    unfold componentSuffix
    apply Reads.take_bind
    intro _ _
    apply Reads.peekKind_bind
    split
    next word =>
      apply Reads.bind (takeNames_reads (by simpa using word))
      intro names behind _ _ components
      exact .pure (fits_foldl_select merging first
        fun name member => (components name member).nested.2)
    next => exact .fail
  next => exact .pure first

theorem chainHead_fits (fit : cursor.Fits fits) (word : cursor.kind = .identifier) :
    chainHead.Reads (Name.Fits fits) cursor fun value _ => fits value.span := by
  apply chainHead_reads_of word
  · intro name same _
    exact same ▸ fit.current
  · intro head components _ sits
    rw [List.forall_mem_cons] at sits
    exact fits_foldl_select merging sits.1.nested.2
      fun name member => (sits.2 name member).nested.2

theorem primary_fits (inner : expression.Fits fits) : (primary expression).Fits fits := by
  intro cursor fit
  unfold primary
  apply Reads.peekKind_bind
  split
  next =>
    apply Reads.takeAs
    intro _ _ value found
    obtain ⟨number, _, rfl⟩ := number?_eq_some found
    exact fit.current
  iterate 3 exact .take_bind fun _ _ => .pure fit.current
  next =>
    unfold parenthesized
    apply Reads.take_bind
    intro _ _
    apply Reads.bind_fits fit.advance (inner _ fit.advance)
    intro value here _ holds
    exact .expect_bind (by decide) fun _ _ => .pure holds
  next found =>
    unfold nameChain
    apply Reads.bind_fits fit (chainHead_fits merging fit found)
    intro head behind fit' holds
    exact .steps_fits fit' holds fun _ _ => suffix_fits merging
  next => exact .fail

theorem unary_fits (inner : expression.Fits fits) : (unary expression).Fits fits := by
  intro cursor fit
  have sign : ∀ here : Cursor, here.Fits fits →
      take.Reads (Name.Fits fits) here fun sign _ => fits sign.span :=
    fun here fit => ⟨fun _ _ _ outcome => by cases outcome; exact fit.current⟩
  unfold unary
  apply Reads.bind_fits fit (.repeatWhile_fits fit sign)
  intro signs here fit' before
  apply Reads.bind_fits fit' (primary_fits merging inner here fit')
  intro operand behind _ holds
  exact .pure (fits_foldr_applySign merging holds before)

theorem expressionWith_fits (inner : expression.Fits fits) :
    (expressionWith expression).Fits fits := by
  unfold expressionWith
  exact level_fits merging <| level_fits merging <| level_fits merging <| level_fits merging <|
    level_fits merging <| level_fits merging <| unary_fits merging inner

end

/-- The span of an expression fits what the spans of its tokens and names fit. -/
theorem expression_fits (merging : Span.Merging fits) : expression.Fits fits := by
  have every : ∀ cursor : Cursor, Parser.expression.Reads (Name.Fits fits) cursor
      fun value _ => cursor.Fits fits → fits value.span := by
    apply Reads.knot
    intro reader inner here
    have fits_inner : reader.Fits fits :=
      fun cursor fit => (inner cursor).mono fun _ _ _ holds => holds fit
    exact ⟨fun laid value behind outcome fit =>
      (expressionWith_fits merging fits_inner here fit).ends laid value behind outcome⟩
  exact fun cursor fit => (every cursor).mono fun _ _ _ holds => holds fit

end Parser

end RapidLang
