import RapidLang.Proofs.Parser.Run
import RapidLang.Proofs.Syntax.Erasure

/-!
# Readers that do not see spans

Two cursors are twins if the same kinds and texts stand before them, whatever the spans are. Two
readers are twins if at twin cursors they end alike, but for the spans in what they read. One rule
for each way of putting readers together carries this from the parts to the whole.
-/

set_option autoImplicit false

namespace RapidLang.Parser

open Reader

instance : Erasable ParameterMode := ⟨id⟩

@[simp] theorem erase_mode (mode : ParameterMode) : erase mode = mode := rfl

theorem erase_token_eq_iff (token other : Token) :
    erase token = erase other ↔ token.lexeme = other.lexeme := by
  simp [Token.lexeme]

/-! ## Twin cursors -/

namespace Cursor

/-- The same kinds and texts stand before the cursors. -/
structure Twin (cursor other : Cursor) : Prop where
  rest : cursor.rest.map Token.lexeme = other.rest.map Token.lexeme
  stop : cursor.stop.lexeme = other.stop.lexeme

namespace Twin

variable {cursor other : Cursor}

private theorem headD_lexeme {tokens more : List Token} {stop last : Token}
    (same : tokens.map Token.lexeme = more.map Token.lexeme) (ends : stop.lexeme = last.lexeme) :
    (tokens.headD stop).lexeme = (more.headD last).lexeme := by
  cases tokens with
  | nil =>
      rw [List.map_nil, eq_comm, List.map_eq_nil_iff] at same
      rw [same]
      exact ends
  | cons first rest =>
      cases more with
      | nil => cases same
      | cons first' rest' => exact (List.cons.inj same).1

theorem current (twin : cursor.Twin other) : cursor.current.lexeme = other.current.lexeme :=
  headD_lexeme twin.rest twin.stop

theorem kind (twin : cursor.Twin other) : cursor.kind = other.kind :=
  congrArg Lexeme.kind twin.current

theorem left (twin : cursor.Twin other) : cursor.left = other.left := by
  rw [← length_lexemes, ← length_lexemes]
  exact congrArg List.length twin.rest

theorem advance (twin : cursor.Twin other) : cursor.advance.Twin other.advance where
  rest := by
    show cursor.rest.tail.map Token.lexeme = other.rest.tail.map Token.lexeme
    rw [List.map_tail, List.map_tail, twin.rest]
  stop := twin.stop

end Twin

end Cursor

/-! ## Twin outcomes -/

/-- The errors have the same cause, at tokens with the same kind and text in the same place. -/
structure SyntaxError.Twin (error other : SyntaxError) : Prop where
  fault : error.fault = other.fault
  lexeme : error.token.lexeme = other.token.lexeme
  left : error.left = other.left

theorem Cursor.Twin.offence {cursor other : Cursor} (twin : cursor.Twin other) (fault : Fault) :
    (cursor.offence fault).Twin (other.offence fault) :=
  ⟨rfl, twin.current, twin.left⟩

/-- The outcomes are alike but for the spans in what was read. -/
inductive Outcome.Twin {α : Type} [Erasable α] : Outcome α → Outcome α → Prop where
  | ok {value value' : α} {behind behind' : Cursor} : erase value = erase value' →
      behind.Twin behind' → Outcome.Twin (.ok (value, behind)) (.ok (value', behind'))
  | error {failure failure' : SyntaxError × Cursor} : failure.1.Twin failure'.1 →
      Outcome.Twin (.error failure) (.error failure')

/-- At twin cursors the readers have twin outcomes. -/
def Reader.Twin {α : Type} [Erasable α] (reader reader' : Reader α) : Prop :=
  ∀ cursor other : Cursor, cursor.Twin other → (reader.run cursor).Twin (reader'.run other)

namespace Reader.Twin

variable {α β : Type} [Erasable α] [Erasable β]

theorem pure {value value' : α} (same : erase value = erase value') :
    (pure value : Reader α).Twin (Pure.pure value') :=
  fun _ _ twin => .ok same twin

theorem fail {fault : Fault} : (fail fault : Reader α).Twin (Parser.fail fault) :=
  fun _ _ twin => .error (twin.offence fault)

/-- Both readers succeed or both fail. -/
theorem outcomes {reader reader' : Reader α} (readers : reader.Twin reader')
    {cursor other : Cursor} (twin : cursor.Twin other) :
    (∃ value value' behind behind', reader.run cursor = .ok (value, behind) ∧
      reader'.run other = .ok (value', behind') ∧ erase value = erase value' ∧
      behind.Twin behind') ∨
    ∃ failure failure', reader.run cursor = .error failure ∧
      reader'.run other = .error failure' ∧ failure.1.Twin failure'.1 := by
  have outcomes := readers cursor other twin
  generalize reader.run cursor = outcome at outcomes
  generalize reader'.run other = outcome' at outcomes
  cases outcomes with
  | ok same behind => exact .inl ⟨_, _, _, _, rfl, rfl, same, behind⟩
  | error errors => exact .inr ⟨_, _, rfl, rfl, errors⟩

theorem bind {reader reader' : Reader β} {next next' : β → Reader α}
    (first : reader.Twin reader')
    (onward : ∀ value value', erase value = erase value' → (next value).Twin (next' value')) :
    (reader >>= next).Twin (reader' >>= next') := by
  intro cursor other twin
  rcases first.outcomes twin with
    ⟨value, value', behind, behind', outcome, outcome', same, twin'⟩ |
    ⟨failure, failure', outcome, outcome', errors⟩
  · rw [run_bind_of_ok outcome, run_bind_of_ok outcome']
    exact onward value value' same behind behind' twin'
  · rw [run_bind_of_error outcome, run_bind_of_error outcome']
    exact .error errors

theorem require {fault : Fault} {reader reader' : Reader (Option α)} (readers : reader.Twin reader') :
    (require fault reader).Twin (Reader.require fault reader') := by
  intro cursor other twin
  rcases readers.outcomes twin with
    ⟨found, found', behind, behind', outcome, outcome', same, twin'⟩ |
    ⟨failure, failure', outcome, outcome', errors⟩
  · cases found with
    | none =>
        cases found' with
        | none =>
            rw [run_require_of_none outcome, run_require_of_none outcome']
            exact .error (twin.offence fault)
        | some value' => cases same
    | some value =>
        cases found' with
        | none => cases same
        | some value' =>
            rw [run_require_of_some outcome, run_require_of_some outcome']
            exact .ok (Option.some.inj same) twin'
  · rw [run_require_of_error outcome, run_require_of_error outcome']
    exact .error errors

/-! ### Tokens -/

/-- Tokens of one kind and text differ in their spans only. -/
private theorem of_lexeme {next next' : Token → Reader α}
    (onward : ∀ kind text span span',
      (next ⟨kind, text, span⟩).Twin (next' ⟨kind, text, span'⟩))
    {token token' : Token} (same : token.lexeme = token'.lexeme) :
    (next token).Twin (next' token') := by
  obtain ⟨kind, text, span⟩ := token
  obtain ⟨kind', text', span'⟩ := token'
  cases same
  exact onward kind text span span'

theorem peek_bind {next next' : Token → Reader α}
    (onward : ∀ kind text span span',
      (next ⟨kind, text, span⟩).Twin (next' ⟨kind, text, span'⟩)) :
    (peek >>= next).Twin (peek >>= next') :=
  fun cursor other twin => of_lexeme onward twin.current cursor other twin

theorem take_bind {next next' : Token → Reader α}
    (onward : ∀ kind text span span',
      (next ⟨kind, text, span⟩).Twin (next' ⟨kind, text, span'⟩)) :
    (take >>= next).Twin (take >>= next') :=
  fun cursor other twin =>
    of_lexeme onward twin.current cursor.advance other.advance twin.advance

theorem peekKind_bind {next next' : TokenKind → Reader α}
    (onward : ∀ kind, (next kind).Twin (next' kind)) :
    (peekKind >>= next).Twin (peekKind >>= next') := by
  intro cursor other twin
  rw [run_bind_of_ok run_peekKind, run_bind_of_ok run_peekKind, twin.kind]
  exact onward other.kind cursor other twin

theorem take : take.Twin Parser.take :=
  fun _ _ twin => .ok ((erase_token_eq_iff _ _).mpr twin.current) twin.advance

theorem takeAs {fault : Fault} {meaning? : Token → Option α}
    (meanings : ∀ kind text span span',
      erase (meaning? ⟨kind, text, span⟩) = erase (meaning? ⟨kind, text, span'⟩)) :
    (takeAs fault meaning?).Twin (Parser.takeAs fault meaning?) := by
  apply require
  apply take_bind
  intro kind text span span'
  exact pure (meanings kind text span span')

theorem accept {kind : TokenKind} : (accept kind).Twin (Parser.accept kind) := by
  unfold Parser.accept
  apply peekKind_bind
  intro next
  split
  · exact bind take fun _ _ _ => pure rfl
  · exact pure rfl

theorem accept_bind {kind : TokenKind} {next next' : Bool → Reader α}
    (onward : ∀ here, (next here).Twin (next' here)) :
    (Parser.accept kind >>= next).Twin (Parser.accept kind >>= next') := by
  apply bind accept
  intro here here' same
  cases same
  exact onward here

theorem expect {kind : TokenKind} : (expect kind).Twin (Parser.expect kind) := by
  unfold Parser.expect
  apply peekKind_bind
  intro next
  split
  · exact take
  · exact fail

theorem expect_bind {kind : TokenKind} {next next' : Token → Reader α}
    (onward : ∀ kind text span span',
      (next ⟨kind, text, span⟩).Twin (next' ⟨kind, text, span'⟩)) :
    (Parser.expect kind >>= next).Twin (Parser.expect kind >>= next') := by
  apply bind expect
  intro token token' same
  exact of_lexeme onward ((erase_token_eq_iff _ _).mp same)

theorem expectName_bind {role : NameRole} {next next' : Name → Reader α}
    (onward : ∀ text span span', (next ⟨text, span⟩).Twin (next' ⟨text, span'⟩)) :
    (expectName role >>= next).Twin (expectName role >>= next') := by
  have named : (expectName role).Twin (expectName role) := by
    unfold expectName
    apply peekKind_bind
    intro kind
    split
    · apply take_bind
      intro _ _ _ _
      exact pure rfl
    · exact fail
  apply bind named
  rintro ⟨text, span⟩ ⟨text', span'⟩ same
  cases same
  exact onward text span span'

/-! ### Repetition -/

theorem steps {continues : TokenKind → Bool} {step step' : α → Reader α}
    (once : ∀ value value', erase value = erase value' → (step value).Twin (step' value'))
    {value value' : α} (same : erase value = erase value') :
    (Reader.steps continues step value).Twin (Reader.steps continues step' value') := by
  -- The induction is on the tokens left before the first of the two cursors.
  have passing : ∀ count value value' (cursor other : Cursor), cursor.left = count →
      erase value = erase value' → cursor.Twin other →
      ((Reader.steps continues step value).run cursor).Twin
        ((Reader.steps continues step' value').run other) := by
    intro count
    induction count using Nat.strongRecOn with
    | ind count ih =>
        intro value value' cursor other size same twin
        by_cases admitted : continues cursor.kind
        · have admitted' : continues other.kind := twin.kind ▸ admitted
          rcases (once value value' same).outcomes twin with
            ⟨next, next', behind, behind', outcome, outcome', read, twin'⟩ |
            ⟨failure, failure', outcome, outcome', errors⟩
          · by_cases shorter : behind.left < cursor.left
            · have shorter' : behind'.left < other.left := by
                rwa [← twin'.left, ← twin.left]
              rw [run_steps_of_ok admitted outcome shorter,
                run_steps_of_ok admitted' outcome' shorter']
              exact ih behind.left (size ▸ shorter) next next' behind behind' rfl read twin'
            · have last' : ¬behind'.left < other.left := by
                rwa [← twin'.left, ← twin.left]
              rw [run_steps_of_last admitted outcome shorter,
                run_steps_of_last admitted' outcome' last']
              exact .ok read twin'
          · rw [run_steps_of_error admitted outcome, run_steps_of_error admitted' outcome']
            exact .error errors
        · have stop : continues cursor.kind = false := by simpa using admitted
          rw [run_steps_of_stop stop, run_steps_of_stop (twin.kind ▸ stop)]
          exact .ok same twin
  intro cursor other twin
  exact passing cursor.left value value' cursor other rfl same twin

theorem repeatWhile {continues : TokenKind → Bool} {item : Reader α} (once : item.Twin item) :
    (repeatWhile continues item).Twin (Parser.repeatWhile continues item) := by
  unfold Parser.repeatWhile collect
  apply bind
  · apply steps _ rfl
    intro items items' same
    apply bind once
    intro value value' read
    exact pure (by rw [erase_cons, erase_cons, read, same])
  · intro items items' same
    exact pure (by rw [erase_reverse, erase_reverse, same])

theorem commaSeparated {item : Reader α} (once : item.Twin item) :
    (commaSeparated item).Twin (Parser.commaSeparated item) := by
  unfold Parser.commaSeparated
  apply bind once
  intro first first' same
  apply bind
  · apply repeatWhile
    apply take_bind
    intro _ _ _ _
    exact once
  · intro others others' same'
    exact pure (by rw [erase_cons, erase_cons, same, same'])

theorem optionalAfter {kind : TokenKind} {item : Reader α} (once : item.Twin item) :
    (optionalAfter kind item).Twin (Parser.optionalAfter kind item) := by
  unfold Parser.optionalAfter
  apply accept_bind
  intro here
  cases here with
  | true =>
      apply bind once
      intro value value' same
      exact pure (congrArg some same)
  | false => exact pure rfl

theorem knot {fault : Fault} {step : Reader α → Reader α}
    (kept : ∀ reader : Reader α, reader.Twin reader → (step reader).Twin (step reader)) :
    (Reader.knot fault step).Twin (Reader.knot fault step) := by
  have unrolled : ∀ depth, (Reader.unroll fault step depth).Twin
      (Reader.unroll fault step depth) := by
    intro depth
    induction depth with
    | zero => exact fail
    | succ depth ih => exact kept _ ih
  intro cursor other twin
  show ((Reader.unroll fault step (cursor.left + 1)).run cursor).Twin
    ((Reader.unroll fault step (other.left + 1)).run other)
  rw [twin.left]
  exact unrolled _ cursor other twin

end Reader.Twin

end RapidLang.Parser
