import RapidLang.Proofs.Parser.Takes

/-!
# What readers make of lexemes, if they accept them

`Reader.Ends` states what a reader ends with, if it ends at all, and under which condition it does.
One rule for each way of putting readers together carries such statements from the parts to the
whole; where the condition does not hold, one part that fails is enough.
-/

set_option autoImplicit false

namespace RapidLang.Parser

open Grammar Reader

/-- If the reader ends at the cursor, it does so with a value of which `good` holds, before the
lexemes `rest`; and if `sure` holds, it ends. -/
structure Reader.Ends {α : Type} (reader : Reader α) (sure : Prop) (cursor : Cursor)
    (good : α → Prop) (rest : List Lexeme) : Prop where
  right : ∀ value behind, reader.run cursor = .ok (value, behind) →
    good value ∧ behind.lexemes = rest
  total : sure → ∃ value behind, reader.run cursor = .ok (value, behind)

variable {α β : Type} {sure : Prop} {cursor : Cursor} {good : α → Prop} {rest : List Lexeme}

/-- What a reader takes is settled. -/
theorem Reader.Takes.right {reader : Reader α} {value : α} {behind : Cursor}
    (takes : reader.Takes cursor good rest) (outcome : reader.run cursor = .ok (value, behind)) :
    good value ∧ behind.lexemes = rest := by
  obtain ⟨value', behind', outcome', holds, left⟩ := takes
  rw [outcome'] at outcome
  cases outcome
  exact ⟨holds, left⟩

theorem Reader.Takes.unique {reader : Reader α} {good' : α → Prop} {rest' : List Lexeme}
    (takes : reader.Takes cursor good rest) (other : reader.Takes cursor good' rest') :
    rest = rest' := by
  obtain ⟨_, _, outcome, _, left⟩ := other
  exact (takes.right outcome).2.symm.trans left

namespace Reader.Ends

theorem of_takes {reader : Reader α} (takes : reader.Takes cursor good rest) :
    reader.Ends sure cursor good rest := by
  refine ⟨fun _ _ outcome => takes.right outcome, fun _ => ?_⟩
  obtain ⟨value, behind, outcome, _⟩ := takes
  exact ⟨value, behind, outcome⟩

theorem takes {reader : Reader α} (ends : reader.Ends True cursor good rest) :
    reader.Takes cursor good rest := by
  obtain ⟨value, behind, outcome⟩ := ends.total trivial
  exact ⟨value, behind, outcome, ends.right value behind outcome⟩

/-- Nothing is claimed of a reader that fails, unless it has to end. -/
theorem of_error {reader : Reader α} {failure : SyntaxError × Cursor}
    (failed : reader.run cursor = .error failure) (unsure : ¬sure) :
    reader.Ends sure cursor good rest := by
  refine ⟨fun value behind outcome => ?_, fun holds => absurd holds unsure⟩
  rw [failed] at outcome
  cases outcome

theorem congr {reader reader' : Reader α} {behind : Cursor}
    (same : reader.run cursor = reader'.run behind) (ends : reader'.Ends sure behind good rest) :
    reader.Ends sure cursor good rest := by
  refine ⟨fun value last outcome => ends.right value last (same ▸ outcome), fun holds => ?_⟩
  obtain ⟨value, last, outcome⟩ := ends.total holds
  exact ⟨value, last, same.trans outcome⟩

theorem mono {reader : Reader α} {good' : α → Prop} (ends : reader.Ends sure cursor good rest)
    (kept : ∀ value, good value → good' value) : reader.Ends sure cursor good' rest := by
  refine ⟨fun value behind outcome => ?_, ends.total⟩
  obtain ⟨holds, left⟩ := ends.right value behind outcome
  exact ⟨kept value holds, left⟩

theorem pure {value : α} (holds : good value) (left : cursor.lexemes = rest) :
    (pure value : Reader α).Ends sure cursor good rest :=
  of_takes (.pure holds left)

theorem bind_near {reader : Reader β} {next : β → Reader α} {good' : β → Prop}
    {more : List Lexeme} (first : reader.Ends sure cursor good' more)
    (onward : ∀ value behind, behind.left ≤ cursor.left → good' value → behind.lexemes = more →
      (next value).Ends sure behind good rest) : (reader >>= next).Ends sure cursor good rest := by
  cases outcome : reader.run cursor with
  | error failure =>
      refine of_error (run_bind_of_error outcome) fun holds => ?_
      obtain ⟨_, _, outcome'⟩ := first.total holds
      rw [outcome] at outcome'
      cases outcome'
  | ok result =>
      obtain ⟨value, behind⟩ := result
      obtain ⟨holds, left⟩ := first.right value behind outcome
      have nearer := (reaches_of_ok outcome).left_le
      exact congr (run_bind_of_ok outcome) (onward value behind nearer holds left)

theorem bind {reader : Reader β} {next : β → Reader α} {good' : β → Prop} {more : List Lexeme}
    (first : reader.Ends sure cursor good' more)
    (onward : ∀ value behind, good' value → behind.lexemes = more →
      (next value).Ends sure behind good rest) : (reader >>= next).Ends sure cursor good rest :=
  bind_near first fun value behind _ holds left => onward value behind holds left

theorem peek_bind {next : Token → Reader α}
    (onward : (next cursor.current).Ends sure cursor good rest) :
    (peek >>= next).Ends sure cursor good rest :=
  congr (run_bind_of_ok rfl) onward

theorem peekKind_bind {next : TokenKind → Reader α}
    (onward : (next cursor.kind).Ends sure cursor good rest) :
    (peekKind >>= next).Ends sure cursor good rest :=
  congr (run_bind_of_ok run_peekKind) onward

theorem take_bind {next : Token → Reader α} {first : Lexeme} {more : List Lexeme}
    (split : cursor.lexemes = first :: more)
    (onward : ∀ token behind, token.lexeme = first → behind.lexemes = more →
      (next token).Ends sure behind good rest) : (take >>= next).Ends sure cursor good rest := by
  obtain ⟨here, left⟩ := Cursor.current_of_lexemes split
  exact congr (run_bind_of_ok run_take) (onward _ _ here left)

theorem expect_bind {kind : TokenKind} {next : Token → Reader α} {first : Lexeme}
    {more : List Lexeme} (split : cursor.lexemes = first :: more) (found : first.kind = kind)
    (onward : ∀ token behind, token.lexeme = first → behind.lexemes = more →
      (next token).Ends sure behind good rest) :
    (expect kind >>= next).Ends sure cursor good rest := by
  obtain ⟨here, left⟩ := Cursor.current_of_lexemes split
  refine congr (run_bind_of_ok (run_expect_of_eq ?_)) (onward _ _ here left)
  rw [Cursor.kind_of_lexemes split, found]

theorem expectName_bind {role : NameRole} {next : Name → Reader α} {first : Lexeme}
    {more : List Lexeme} (split : cursor.lexemes = first :: more)
    (found : first.kind = .identifier)
    (onward : ∀ name behind, erase name = ⟨first.text, .origin⟩ → behind.lexemes = more →
      (next name).Ends sure behind good rest) :
    (expectName role >>= next).Ends sure cursor good rest := by
  obtain ⟨here, left⟩ := Cursor.current_of_lexemes split
  refine congr (run_bind_of_ok (run_expectName_of_eq ?_)) (onward _ _ ?_ left)
  · rw [Cursor.kind_of_lexemes split, found]
  · rw [← here]
    rfl

theorem optionalAfter_some {kind : TokenKind} {item : Reader α} {first : Lexeme}
    {more : List Lexeme} (split : cursor.lexemes = first :: more) (found : first.kind = kind)
    (ends : ∀ behind, behind.lexemes = more → item.Ends sure behind good rest) :
    (optionalAfter kind item).Ends sure cursor (fun value => ∃ content, value = some content ∧
      good content) rest := by
  obtain ⟨_, left⟩ := Cursor.current_of_lexemes split
  unfold optionalAfter
  refine congr (run_bind_of_ok (run_accept_of_eq ?_)) (bind (ends _ left) ?_)
  · rw [Cursor.kind_of_lexemes split, found]
  · intro value last holds left
    exact pure ⟨value, rfl, holds⟩ left

theorem knot {fault : Fault} {step : Reader α → Reader α}
    (ends : (Reader.unroll fault step (cursor.left + 1)).Ends sure cursor good rest) :
    (Reader.knot fault step).Ends sure cursor good rest :=
  ⟨ends.right, ends.total⟩

/-! ### Repetition -/

section Repetition

variable {continues : TokenKind → Bool} {item : Reader β} {reversed : List β}

theorem collect_stop {good : List β → Prop} (stop : continues (nextKind cursor.lexemes) = false)
    (holds : good reversed) :
    (collect continues item reversed).Ends sure cursor good cursor.lexemes :=
  of_takes (.collect_stop stop holds)

/-- One item of a repetition, and then the others. -/
theorem collect_next {good : List β → Prop} {good' : β → Prop} {more : List Lexeme}
    (admitted : continues (nextKind cursor.lexemes)) (once : item.Ends sure cursor good' more)
    (shorter : more.length < cursor.lexemes.length)
    (onward : ∀ next behind, good' next → behind.lexemes = more →
      (collect continues item (next :: reversed)).Ends sure behind good rest) :
    (collect continues item reversed).Ends sure cursor good rest := by
  rw [← Cursor.kind_eq_nextKind] at admitted
  cases outcome : item.run cursor with
  | error failure =>
      have failed : (item >>= fun read => Pure.pure (read :: reversed)).run cursor =
          .error failure := run_bind_of_error outcome
      refine of_error (run_steps_of_error admitted failed) fun holds => ?_
      obtain ⟨_, _, outcome'⟩ := once.total holds
      rw [outcome] at outcome'
      cases outcome'
  | ok result =>
      obtain ⟨next, behind⟩ := result
      obtain ⟨holds, left⟩ := once.right next behind outcome
      have extended : (item >>= fun read => Pure.pure (read :: reversed)).run cursor =
          .ok (next :: reversed, behind) := run_bind_of_ok outcome
      rw [← left, Cursor.length_lexemes, Cursor.length_lexemes] at shorter
      exact congr (run_steps_of_ok admitted extended shorter) (onward next behind holds left)

theorem repeatWhile_of_collect {kept : List β → Prop}
    (ends : (collect continues item []).Ends sure cursor (fun reversed => kept reversed.reverse)
      rest) : (repeatWhile continues item).Ends sure cursor kept rest := by
  unfold repeatWhile
  exact bind ends fun reversed behind holds left => pure holds left

/-- A repetition fails with its first item. -/
theorem repeatWhile_of_error {good : List β → Prop} {failure : SyntaxError × Cursor}
    (admitted : continues cursor.kind) (failed : item.run cursor = .error failure)
    (unsure : ¬sure) :
    (repeatWhile continues item).Ends sure cursor good rest := by
  have failed' : (item >>= fun read => Pure.pure (read :: [])).run cursor = .error failure :=
    run_bind_of_error failed
  unfold repeatWhile
  exact of_error (run_bind_of_error (run_steps_of_error admitted failed')) unsure

end Repetition

/-! ### Lists of phrases -/

section Lists

variable [Erasable β] {phrase : List Lexeme → β → Prop} {item : Reader β} {lexemes : List Lexeme}
  {values : List β} {more : List Lexeme} {continues : TokenKind → Bool}

/-- Whatever a repetition does behind phrases that it has read, it does before them. Behind each of
them stands another one or what stands behind them all. -/
theorem collect_many {goal : List β → Prop} {last : List Lexeme}
    (list : Many phrase lexemes values)
    (starts : ∀ front value, phrase front value →
      front ≠ [] ∧ ∀ behind, continues (nextKind (front ++ behind))) :
    ∀ (more : List Lexeme), cursor.lexemes = lexemes ++ more →
      (∀ here front value behind, here.left ≤ cursor.left → phrase front value →
        here.lexemes = front ++ behind → continues (nextKind behind) ∨ behind = more →
        item.Ends sure here (fun read => erase read = value) behind) →
      (∀ reversed behind, erase reversed.reverse = values → behind.lexemes = more →
        (collect continues item reversed).Ends sure behind goal last) →
      (collect continues item []).Ends sure cursor goal last := by
  induction list with
  | nil => exact fun more split _ onward => onward [] cursor rfl split
  | snoc _ holds ih =>
      intro more split reads onward
      have split' := split.trans (List.append_assoc _ _ _)
      obtain ⟨some, admitted⟩ := starts _ _ holds
      refine ih _ split' (fun here front value behind near phrase left next => ?_)
        fun reversed behind same left => ?_
      · refine reads here front value behind near phrase left ?_
        rcases next with next | rfl
        · exact .inl next
        · exact .inl (admitted more)
      · have near : behind.left ≤ cursor.left := Cursor.left_le_of_append split' left
        refine collect_next (left ▸ admitted more)
          (reads behind _ _ more near holds left (.inr rfl)) ?_ ?_
        · rw [left, List.length_append]
          have := List.length_pos_iff.mpr some
          omega
        · intro next behind' same' left'
          exact onward _ behind' (by simp [same, same']) left'

/-- Phrases one after the other are read from left to right. -/
theorem many (list : Many phrase lexemes values) (split : cursor.lexemes = lexemes ++ more)
    (starts : ∀ front value, phrase front value →
      front ≠ [] ∧ ∀ behind, continues (nextKind (front ++ behind)))
    (reads : ∀ here front value behind, here.left ≤ cursor.left → phrase front value →
      here.lexemes = front ++ behind → continues (nextKind behind) ∨ behind = more →
      item.Ends sure here (fun read => erase read = value) behind)
    (stop : continues (nextKind more) = false) :
    (repeatWhile continues item).Ends sure cursor (fun read => erase read = values) more := by
  refine repeatWhile_of_collect (collect_many list starts more split reads
    fun reversed behind same left => ?_)
  rw [← left] at stop ⊢
  exact collect_stop stop same

end Lists

end Reader.Ends

/-! ### Lists of phrases that readers take -/

namespace Reader.Takes

variable [Erasable β] {phrase : List Lexeme → β → Prop} {item : Reader β} {lexemes : List Lexeme}
  {values : List β} {more : List Lexeme} {continues : TokenKind → Bool}

/-- `Ends.collect_many` for readers that are known to end. -/
theorem collect_many {goal : List β → Prop} {last : List Lexeme}
    (list : Many phrase lexemes values) (split : cursor.lexemes = lexemes ++ more)
    (starts : ∀ front value, phrase front value →
      front ≠ [] ∧ ∀ behind, continues (nextKind (front ++ behind)))
    (reads : ∀ here front value behind, here.left ≤ cursor.left → phrase front value →
      here.lexemes = front ++ behind → continues (nextKind behind) ∨ behind = more →
      item.Takes here (fun read => erase read = value) behind)
    (onward : ∀ reversed behind, erase reversed.reverse = values → behind.lexemes = more →
      (collect continues item reversed).Takes behind goal last) :
    (collect continues item []).Takes cursor goal last :=
  Ends.takes (.collect_many list starts more split
    (fun here front value behind near holds left next =>
      .of_takes (reads here front value behind near holds left next))
    fun reversed behind same left => .of_takes (onward reversed behind same left))

/-- `Ends.many` for readers that are known to end. -/
theorem many (list : Many phrase lexemes values) (split : cursor.lexemes = lexemes ++ more)
    (starts : ∀ front value, phrase front value →
      front ≠ [] ∧ ∀ behind, continues (nextKind (front ++ behind)))
    (reads : ∀ here front value behind, here.left ≤ cursor.left → phrase front value →
      here.lexemes = front ++ behind → continues (nextKind behind) ∨ behind = more →
      item.Takes here (fun read => erase read = value) behind)
    (stop : continues (nextKind more) = false) :
    (repeatWhile continues item).Takes cursor (fun read => erase read = values) more :=
  Ends.takes (.many list split starts (fun here front value behind near holds left next =>
    .of_takes (reads here front value behind near holds left next)) stop)

/-- Phrases with commas between them are read from left to right. Behind each of them stands a comma
or what stands behind the whole list. -/
theorem separated (list : Separated phrase lexemes values)
    (split : cursor.lexemes = lexemes ++ more)
    (reads : ∀ here front value behind, here.left ≤ cursor.left → phrase front value →
      here.lexemes = front ++ behind → nextKind behind = .comma ∨ behind = more →
      item.Takes here (fun read => erase read = value) behind)
    (stop : nextKind more ≠ .comma) :
    (commaSeparated item).Takes cursor (fun read => erase read = values) more := by
  obtain ⟨front, rest, first, others, rfl, rfl, holds, list⟩ := list.split
  rw [List.append_assoc] at split
  have next : nextKind (rest ++ more) = .comma ∨ rest ++ more = more := by
    rcases list.starts (· = .comma) (by decide) (fun _ _ phrase => phrase.starts) with rfl | comma
    · exact .inr rfl
    · exact .inl (by rw [nextKind_append (by rw [comma]; decide), comma])
  unfold commaSeparated
  refine bind_near (reads cursor front first _ (Nat.le_refl _) holds split next)
    fun read here near same left => ?_
  have others' : (repeatWhile (· == .comma) (take >>= fun _ => item)).Takes here
      (fun read => erase read = others) more := by
    refine many list left (fun _ _ phrase => phrase.comma_first) ?_ (by simpa using stop)
    rintro there _ value behind nearer ⟨comma, rest, rfl, kind, holds⟩ split' next
    refine take_bind split' fun _ here' _ left' => ?_
    have near' := Nat.le_of_lt (Cursor.left_lt_of_cons split' left')
    exact reads here' rest value behind (Nat.le_trans near' (Nat.le_trans nearer near)) holds left'
      (next.imp beq_iff_eq.mp id)
  exact bind others' fun _ _ same' left => pure (by rw [erase_cons, same, same']) left

end Reader.Takes

end RapidLang.Parser
