import RapidLang.Proofs.Parser.Run

/-!
# Readers that succeed

`Reader.Takes` states that a reader ends with a value and leaves certain lexemes. One rule for each
way of putting readers together carries such statements from the parts to the whole.
-/

set_option autoImplicit false

namespace RapidLang.Parser

open Grammar Reader

/-- At a cursor the reader ends with a value of which `good` holds, before the lexemes `rest`. -/
def Reader.Takes {α : Type} (reader : Reader α) (cursor : Cursor) (good : α → Prop)
    (rest : List Lexeme) : Prop :=
  ∃ value behind, reader.run cursor = .ok (value, behind) ∧ good value ∧ behind.lexemes = rest

variable {α β : Type} {cursor : Cursor} {good : α → Prop} {rest : List Lexeme}

theorem Cursor.kind_of_lexemes {first : Lexeme} {more : List Lexeme}
    (split : cursor.lexemes = first :: more) : cursor.kind = first.kind := by
  rw [kind_eq_nextKind, split, nextKind]

/-- Behind some lexemes no more are left than before them. -/
theorem Cursor.left_le_of_append {here : Cursor} {front more : List Lexeme}
    (split : cursor.lexemes = front ++ more) (left : here.lexemes = more) :
    here.left ≤ cursor.left := by
  rw [← length_lexemes, ← length_lexemes, left, split, List.length_append]
  exact Nat.le_add_left _ _

/-- Behind a lexeme fewer are left than before it. -/
theorem Cursor.left_lt_of_cons {here : Cursor} {first : Lexeme} {more : List Lexeme}
    (split : cursor.lexemes = first :: more) (left : here.lexemes = more) :
    here.left < cursor.left := by
  rw [← length_lexemes, ← length_lexemes, left, split]
  exact Nat.lt_succ_self _

namespace Reader.Takes

theorem congr {reader reader' : Reader α} {behind : Cursor}
    (same : reader.run cursor = reader'.run behind) (takes : reader'.Takes behind good rest) :
    reader.Takes cursor good rest := by
  unfold Reader.Takes
  rwa [same]

theorem mono {reader : Reader α} {good' : α → Prop} (takes : reader.Takes cursor good rest)
    (kept : ∀ value, good value → good' value) : reader.Takes cursor good' rest := by
  obtain ⟨value, behind, outcome, holds, left⟩ := takes
  exact ⟨value, behind, outcome, kept value holds, left⟩

theorem pure {value : α} (holds : good value) (left : cursor.lexemes = rest) :
    (pure value : Reader α).Takes cursor good rest :=
  ⟨value, cursor, rfl, holds, left⟩

theorem bind_near {reader : Reader β} {next : β → Reader α} {good' : β → Prop}
    {more : List Lexeme} (first : reader.Takes cursor good' more)
    (onward : ∀ value behind, behind.left ≤ cursor.left → good' value → behind.lexemes = more →
      (next value).Takes behind good rest) : (reader >>= next).Takes cursor good rest := by
  obtain ⟨value, behind, outcome, holds, left⟩ := first
  have nearer := (reaches_of_ok outcome).left_le
  exact congr (run_bind_of_ok outcome) (onward value behind nearer holds left)

theorem bind {reader : Reader β} {next : β → Reader α} {good' : β → Prop} {more : List Lexeme}
    (first : reader.Takes cursor good' more)
    (onward : ∀ value behind, good' value → behind.lexemes = more →
      (next value).Takes behind good rest) : (reader >>= next).Takes cursor good rest :=
  bind_near first fun value behind _ holds left => onward value behind holds left

theorem peek_bind {next : Token → Reader α}
    (onward : (next cursor.current).Takes cursor good rest) :
    (peek >>= next).Takes cursor good rest :=
  onward

theorem peekKind_bind {next : TokenKind → Reader α}
    (onward : (next cursor.kind).Takes cursor good rest) :
    (peekKind >>= next).Takes cursor good rest :=
  onward

theorem take_bind {next : Token → Reader α} {first : Lexeme} {more : List Lexeme}
    (split : cursor.lexemes = first :: more)
    (onward : ∀ token behind, token.lexeme = first → behind.lexemes = more →
      (next token).Takes behind good rest) : (take >>= next).Takes cursor good rest := by
  obtain ⟨here, left⟩ := Cursor.current_of_lexemes split
  exact congr (run_bind_of_ok run_take) (onward _ _ here left)

theorem expect_bind {kind : TokenKind} {next : Token → Reader α} {first : Lexeme}
    {more : List Lexeme} (split : cursor.lexemes = first :: more) (found : first.kind = kind)
    (onward : ∀ token behind, token.lexeme = first → behind.lexemes = more →
      (next token).Takes behind good rest) : (expect kind >>= next).Takes cursor good rest := by
  obtain ⟨here, left⟩ := Cursor.current_of_lexemes split
  refine congr (run_bind_of_ok (run_expect_of_eq ?_)) (onward _ _ here left)
  rw [Cursor.kind_of_lexemes split, found]

theorem expectName_bind {role : NameRole} {next : Name → Reader α} {first : Lexeme}
    {more : List Lexeme} (split : cursor.lexemes = first :: more)
    (found : first.kind = .identifier)
    (onward : ∀ name behind, erase name = ⟨first.text, .origin⟩ → behind.lexemes = more →
      (next name).Takes behind good rest) : (expectName role >>= next).Takes cursor good rest := by
  obtain ⟨here, left⟩ := Cursor.current_of_lexemes split
  refine congr (run_bind_of_ok (run_expectName_of_eq ?_)) (onward _ _ ?_ left)
  · rw [Cursor.kind_of_lexemes split, found]
  · rw [← here]
    rfl

theorem accept_bind {kind : TokenKind} {next : Bool → Reader α} {first : Lexeme}
    {more : List Lexeme} (split : cursor.lexemes = first :: more) (found : first.kind = kind)
    (onward : ∀ behind, behind.lexemes = more → (next true).Takes behind good rest) :
    (accept kind >>= next).Takes cursor good rest := by
  obtain ⟨here, left⟩ := Cursor.current_of_lexemes split
  refine congr (run_bind_of_ok (run_accept_of_eq ?_)) (onward _ left)
  rw [Cursor.kind_of_lexemes split, found]

theorem accept_bind_of_ne {kind : TokenKind} {next : Bool → Reader α}
    (other : nextKind cursor.lexemes ≠ kind) (onward : (next false).Takes cursor good rest) :
    (accept kind >>= next).Takes cursor good rest := by
  rw [← Cursor.kind_eq_nextKind] at other
  exact congr (run_bind_of_ok (run_accept_of_ne other)) onward

theorem optionalAfter_some {kind : TokenKind} {item : Reader α} {first : Lexeme}
    {more : List Lexeme} (split : cursor.lexemes = first :: more) (found : first.kind = kind)
    (takes : ∀ behind, behind.lexemes = more → item.Takes behind good rest) :
    (optionalAfter kind item).Takes cursor (fun value => ∃ content, value = some content ∧
      good content) rest := by
  unfold optionalAfter
  refine accept_bind split found fun behind left => bind (takes behind left) ?_
  intro value last holds left
  exact pure ⟨value, rfl, holds⟩ left

theorem optionalAfter_none {kind : TokenKind} {item : Reader α} {good : Option α → Prop}
    (other : nextKind cursor.lexemes ≠ kind) (holds : good none) :
    (optionalAfter kind item).Takes cursor good cursor.lexemes := by
  unfold optionalAfter
  exact accept_bind_of_ne other (pure holds rfl)

theorem knot {fault : Fault} {step : Reader α → Reader α}
    (takes : (Reader.unroll fault step (cursor.left + 1)).Takes cursor good rest) :
    (Reader.knot fault step).Takes cursor good rest :=
  takes

/-! ### Repetition -/

section Steps

variable {continues : TokenKind → Bool} {step : α → Reader α} {value : α}

theorem steps_stop (stop : continues (nextKind cursor.lexemes) = false) (holds : good value) :
    (Reader.steps continues step value).Takes cursor good cursor.lexemes := by
  rw [← Cursor.kind_eq_nextKind] at stop
  exact ⟨value, cursor, run_steps_of_stop stop, holds, rfl⟩

/-- One step of a repetition, and then the others. -/
theorem steps_next {good' : α → Prop} {more : List Lexeme}
    (admitted : continues (nextKind cursor.lexemes)) (once : (step value).Takes cursor good' more)
    (shorter : more.length < cursor.lexemes.length)
    (onward : ∀ next behind, good' next → behind.lexemes = more →
      (Reader.steps continues step next).Takes behind good rest) :
    (Reader.steps continues step value).Takes cursor good rest := by
  obtain ⟨next, behind, outcome, holds, left⟩ := once
  rw [← Cursor.kind_eq_nextKind] at admitted
  rw [← left, Cursor.length_lexemes, Cursor.length_lexemes] at shorter
  exact congr (run_steps_of_ok admitted outcome shorter) (onward next behind holds left)

end Steps

section Collect

variable {continues : TokenKind → Bool} {item : Reader β} {reversed : List β}
  {good : List β → Prop}

theorem collect_stop (stop : continues (nextKind cursor.lexemes) = false) (holds : good reversed) :
    (collect continues item reversed).Takes cursor good cursor.lexemes :=
  steps_stop stop holds

/-- One item of a repetition, and then the others. -/
theorem collect_next {good' : β → Prop} {more : List Lexeme}
    (admitted : continues (nextKind cursor.lexemes)) (once : item.Takes cursor good' more)
    (shorter : more.length < cursor.lexemes.length)
    (onward : ∀ next behind, good' next → behind.lexemes = more →
      (collect continues item (next :: reversed)).Takes behind good rest) :
    (collect continues item reversed).Takes cursor good rest := by
  have extended : (item >>= fun next => Pure.pure (next :: reversed)).Takes cursor
      (fun items => ∃ next, items = next :: reversed ∧ good' next) more :=
    bind once fun next behind holds left => pure ⟨next, rfl, holds⟩ left
  refine steps_next admitted extended shorter ?_
  rintro _ behind ⟨next, rfl, holds⟩ left
  exact onward next behind holds left

theorem repeatWhile_of_collect {kept : List β → Prop}
    (takes : (collect continues item []).Takes cursor (fun reversed => kept reversed.reverse) rest) :
    (repeatWhile continues item).Takes cursor kept rest := by
  unfold repeatWhile
  exact bind takes fun reversed behind holds left => pure holds left

end Collect

end Reader.Takes

end RapidLang.Parser
