import RapidLang.Proofs.Parser.Run

/-!
# What readers make of the lexemes before them

`Reader.Meets` states what a reader does at one cursor: which lexemes it has read when it ends with
a value, and which ones when it fails. One rule for each way of putting readers together carries
such statements from the parts to the whole.
-/

set_option autoImplicit false

namespace RapidLang.Parser

open Grammar Reader

/-! ## Outcomes at a cursor -/

/-- At a cursor the reader ends with a value for which `good` holds of the lexemes that it read, or
it fails and `bad` holds of the lexemes before the error. -/
def Reader.Meets {α : Type} (reader : Reader α) (cursor : Cursor)
    (good : List Lexeme → α → Cursor → Prop) (bad : List Lexeme → Prop) : Prop :=
  match reader.run cursor with
  | .ok (value, behind) =>
    ∃ read, cursor.lexemes = read ++ behind.lexemes ∧ good read value behind
  | .error (error, _) =>
    ∃ read rest, cursor.lexemes = read ++ rest ∧ rest.length = error.left ∧ bad read

variable {α β : Type} {cursor : Cursor}

namespace Reader.Meets

variable {good : List Lexeme → α → Cursor → Prop} {bad : List Lexeme → Prop}

theorem ok {reader : Reader α} {value : α} {behind : Cursor}
    (meets : reader.Meets cursor good bad) (outcome : reader.run cursor = .ok (value, behind)) :
    ∃ read, cursor.lexemes = read ++ behind.lexemes ∧ good read value behind := by
  simpa [Reader.Meets, outcome] using meets

theorem error {reader : Reader α} {error : SyntaxError} {behind : Cursor}
    (meets : reader.Meets cursor good bad) (outcome : reader.run cursor = .error (error, behind)) :
    ∃ read rest, cursor.lexemes = read ++ rest ∧ rest.length = error.left ∧ bad read := by
  simpa [Reader.Meets, outcome] using meets

theorem congr {reader reader' : Reader α} (same : reader.run cursor = reader'.run cursor)
    (meets : reader'.Meets cursor good bad) : reader.Meets cursor good bad := by
  unfold Reader.Meets at meets ⊢
  rwa [same]

/-- A reader that goes on as another one at a later cursor. -/
theorem later {reader reader' : Reader α} {behind : Cursor} (read : List Lexeme)
    (same : reader.run cursor = reader'.run behind)
    (split : cursor.lexemes = read ++ behind.lexemes)
    (meets : reader'.Meets behind (fun more => good (read ++ more)) (fun more => bad (read ++ more))) :
    reader.Meets cursor good bad := by
  unfold Reader.Meets at meets ⊢
  rw [same]
  split at meets
  · obtain ⟨more, split', holds⟩ := meets
    exact ⟨read ++ more, by rw [split, split', List.append_assoc], holds⟩
  · obtain ⟨more, rest, split', left, holds⟩ := meets
    exact ⟨read ++ more, rest, by rw [split, split', List.append_assoc], left, holds⟩

theorem of_ok {reader : Reader α} {value : α} {behind : Cursor} {read : List Lexeme}
    (outcome : reader.run cursor = .ok (value, behind))
    (split : cursor.lexemes = read ++ behind.lexemes) (holds : good read value behind) :
    reader.Meets cursor good bad := by
  unfold Reader.Meets
  rw [outcome]
  exact ⟨read, split, holds⟩

theorem of_error {reader : Reader α} {error : SyntaxError} {behind : Cursor}
    {read rest : List Lexeme} (outcome : reader.run cursor = .error (error, behind))
    (split : cursor.lexemes = read ++ rest) (left : rest.length = error.left) (holds : bad read) :
    reader.Meets cursor good bad := by
  unfold Reader.Meets
  rw [outcome]
  exact ⟨read, rest, split, left, holds⟩

theorem mono {reader : Reader α} {good' : List Lexeme → α → Cursor → Prop}
    {bad' : List Lexeme → Prop} (meets : reader.Meets cursor good bad)
    (goods : ∀ read value behind, cursor.lexemes = read ++ behind.lexemes →
      good read value behind → good' read value behind)
    (bads : ∀ read, bad read → bad' read) : reader.Meets cursor good' bad' := by
  unfold Reader.Meets at meets ⊢
  split at meets
  · obtain ⟨read, split, holds⟩ := meets
    exact ⟨read, split, goods _ _ _ split holds⟩
  · obtain ⟨read, rest, split, left, holds⟩ := meets
    exact ⟨read, rest, split, left, bads _ holds⟩

theorem bind {reader : Reader α} {next : α → Reader β} {bad' : List Lexeme → Prop}
    {good' : List Lexeme → β → Cursor → Prop} (first : reader.Meets cursor good bad)
    (fails : ∀ read rest, cursor.lexemes = read ++ rest → bad read → bad' read)
    (onward : ∀ read value behind, cursor.lexemes = read ++ behind.lexemes →
      good read value behind →
      (next value).Meets behind (fun more => good' (read ++ more)) (fun more => bad' (read ++ more))) :
    (reader >>= next).Meets cursor good' bad' := by
  cases outcome : reader.run cursor with
  | error failure =>
      obtain ⟨read, rest, split, left, holds⟩ := first.error outcome
      exact of_error (run_bind_of_error outcome) split left (fails read rest split holds)
  | ok result =>
      obtain ⟨read, split, holds⟩ := first.ok outcome
      exact later read (run_bind_of_ok outcome) split (onward read _ _ split holds)

theorem pure {value : α} (holds : good [] value cursor) :
    (pure value : Reader α).Meets cursor good bad :=
  ⟨[], rfl, holds⟩

theorem fail {fault : Fault} (holds : bad []) : (fail fault : Reader α).Meets cursor good bad :=
  ⟨[], cursor.lexemes, rfl, cursor.length_lexemes, holds⟩

/-- A reader that yields nothing fails with all of what it read still to be read. -/
theorem require {fault : Fault} {reader : Reader (Option α)}
    {good' : List Lexeme → Option α → Cursor → Prop} (meets : reader.Meets cursor good' bad)
    (some : ∀ read value behind, cursor.lexemes = read ++ behind.lexemes →
      good' read (some value) behind → good read value behind)
    (none : ∀ read behind, good' read none behind → bad []) :
    (Reader.require fault reader).Meets cursor good bad := by
  cases outcome : reader.run cursor with
  | error failure =>
      obtain ⟨read, rest, split, left, holds⟩ := meets.error outcome
      exact of_error (run_require_of_error outcome) split left holds
  | ok result =>
      obtain ⟨found, behind⟩ := result
      obtain ⟨read, split, holds⟩ := meets.ok outcome
      cases found with
      | none =>
          refine of_error (run_require_of_none outcome) (List.nil_append _).symm ?_
            (none read behind holds)
          exact cursor.length_lexemes
      | some value =>
          unfold Reader.Meets
          rw [run_require_of_some outcome]
          exact ⟨read, split, some read value behind split holds⟩

theorem delay {reader : Unit → Reader α} (meets : (reader ()).Meets cursor good bad) :
    (Reader.delay reader).Meets cursor good bad :=
  meets

theorem take {good : List Lexeme → Token → Cursor → Prop} (inside : cursor.kind ≠ .endOfInput)
    (holds : good [cursor.current.lexeme] cursor.current cursor.advance) :
    Parser.take.Meets cursor good bad :=
  ⟨[cursor.current.lexeme], Cursor.lexemes_eq_cons inside, holds⟩

theorem takeAs {fault : Fault} {meaning? : Token → Option α} (inside : cursor.kind ≠ .endOfInput)
    (fails : bad [])
    (holds : ∀ value, meaning? cursor.current = some value →
      good [cursor.current.lexeme] value cursor.advance) :
    (Parser.takeAs fault meaning?).Meets cursor good bad := by
  cases found : meaning? cursor.current with
  | none =>
      exact of_error (run_takeAs_of_none found) (List.nil_append _).symm cursor.length_lexemes fails
  | some value =>
      exact of_ok (run_takeAs_of_some found) (Cursor.lexemes_eq_cons inside) (holds value found)

theorem take_bind {next : Token → Reader α} (inside : cursor.kind ≠ .endOfInput)
    (onward : (next cursor.current).Meets cursor.advance
      (fun more => good (cursor.current.lexeme :: more))
      (fun more => bad (cursor.current.lexeme :: more))) :
    (Parser.take >>= next).Meets cursor good bad := by
  exact later [cursor.current.lexeme] (run_bind_of_ok run_take) (Cursor.lexemes_eq_cons inside) onward

theorem peek_bind {next : Token → Reader α} (onward : (next cursor.current).Meets cursor good bad) :
    (peek >>= next).Meets cursor good bad :=
  onward

theorem peekKind_bind {next : TokenKind → Reader α}
    (onward : (next cursor.kind).Meets cursor good bad) :
    (peekKind >>= next).Meets cursor good bad :=
  onward

theorem accept_bind {kind : TokenKind} {next : Bool → Reader α} (inside : kind ≠ .endOfInput)
    (present : cursor.current.lexeme.kind = kind → (next true).Meets cursor.advance
      (fun more => good (cursor.current.lexeme :: more))
      (fun more => bad (cursor.current.lexeme :: more)))
    (absent : cursor.kind ≠ kind → (next false).Meets cursor good bad) :
    (accept kind >>= next).Meets cursor good bad := by
  by_cases here : cursor.kind = kind
  · exact later [cursor.current.lexeme] (run_bind_of_ok (run_accept_of_eq here))
      (Cursor.lexemes_eq_cons (here ▸ inside)) (present here)
  · exact congr (run_bind_of_ok (run_accept_of_ne here)) (absent here)

theorem expect_bind {kind : TokenKind} {next : Token → Reader α} (inside : kind ≠ .endOfInput)
    (fails : bad [])
    (onward : cursor.current.lexeme.kind = kind → (next cursor.current).Meets cursor.advance
      (fun more => good (cursor.current.lexeme :: more))
      (fun more => bad (cursor.current.lexeme :: more))) :
    (expect kind >>= next).Meets cursor good bad := by
  by_cases here : cursor.kind = kind
  · exact later [cursor.current.lexeme] (run_bind_of_ok (run_expect_of_eq here))
      (Cursor.lexemes_eq_cons (here ▸ inside)) (onward here)
  · exact of_error (run_bind_of_error (run_expect_of_ne here)) (List.nil_append _).symm
      cursor.length_lexemes fails

theorem expectName_bind {role : NameRole} {next : Name → Reader α} (fails : bad [])
    (onward : cursor.current.lexeme.kind = .identifier →
      (next ⟨cursor.current.text, cursor.current.span⟩).Meets cursor.advance
        (fun more => good (cursor.current.lexeme :: more))
        (fun more => bad (cursor.current.lexeme :: more))) :
    (expectName role >>= next).Meets cursor good bad := by
  by_cases here : cursor.kind = .identifier
  · exact later [cursor.current.lexeme] (run_bind_of_ok (run_expectName_of_eq here))
      (Cursor.lexemes_eq_cons (by rw [here]; decide)) (onward here)
  · exact of_error (run_bind_of_error (run_expectName_of_ne here)) (List.nil_append _).symm
      cursor.length_lexemes fails

theorem optionalAfter {kind : TokenKind} {item : Reader α}
    {good : List Lexeme → Option α → Cursor → Prop} (inside : kind ≠ .endOfInput)
    (present : cursor.current.lexeme.kind = kind → item.Meets cursor.advance
      (fun more value => good (cursor.current.lexeme :: more) (some value))
      (fun more => bad (cursor.current.lexeme :: more)))
    (absent : cursor.kind ≠ kind → good [] none cursor) :
    (optionalAfter kind item).Meets cursor good bad := by
  unfold Parser.optionalAfter
  refine accept_bind inside (fun here => ?_) (fun here => pure (absent here))
  refine bind (present here) (fun _ _ _ holds => holds) ?_
  intro read value behind _ holds
  exact pure (by simpa using holds)

/-! ### Repetition -/

/-- What holds before a repetition and is kept by each step that takes a token holds behind it,
and the next token then admits no further step. -/
theorem steps (good : List Lexeme → α → Cursor → Prop) {continues : TokenKind → Bool}
    {step : α → Reader α} {start : α} (initial : good [] start cursor)
    (kept : ∀ read value here, good read value here → continues here.kind →
      (step value).Meets here (fun more next behind => more ≠ [] ∧ good (read ++ more) next behind)
        (fun more => bad (read ++ more))) :
    (Reader.steps continues step start).Meets cursor
      (fun read value behind => good read value behind ∧ continues behind.kind = false) bad := by
  -- The induction is on the tokens left, over every state that the repetition passes through.
  have passing : ∀ count read value here, here.left = count → good read value here →
      (Reader.steps continues step value).Meets here
        (fun more value behind => good (read ++ more) value behind ∧
          continues behind.kind = false)
        (fun more => bad (read ++ more)) := by
    intro count
    induction count using Nat.strongRecOn with
    | ind count ih =>
        intro read value here size holds
        by_cases admitted : continues here.kind
        · have once := kept read value here holds admitted
          cases outcome : (step value).run here with
          | error failure =>
              obtain ⟨more, rest, split, left, fails⟩ := once.error outcome
              exact of_error (run_steps_of_error admitted outcome) split left fails
          | ok result =>
              obtain ⟨more, split, some, holds'⟩ := once.ok outcome
              have shorter := Cursor.left_lt_of_lexemes split some
              refine later more (run_steps_of_ok admitted outcome shorter) split ?_
              simpa only [List.append_assoc] using
                ih result.2.left (size ▸ shorter) (read ++ more) result.1 result.2 rfl holds'
        · have stop : continues here.kind = false := by simpa using admitted
          refine congr (run_steps_of_stop stop) (pure ⟨?_, stop⟩)
          simpa using holds
  simpa using passing cursor.left [] start cursor rfl initial

theorem repeatWhile (many : List Lexeme → List α → Cursor → Prop) {continues : TokenKind → Bool}
    {item : Reader α} (initial : many [] [] cursor)
    (kept : ∀ read values here, many read values here → continues here.kind →
      item.Meets here
        (fun more value behind => more ≠ [] ∧ many (read ++ more) (values ++ [value]) behind)
        (fun more => bad (read ++ more))) :
    (repeatWhile continues item).Meets cursor
      (fun read values behind => many read values behind ∧ continues behind.kind = false) bad := by
  unfold Parser.repeatWhile collect
  refine bind (steps (fun read reversed here => many read reversed.reverse here) initial ?_)
    (fun _ _ _ fails => fails) ?_
  · intro read reversed here holds admitted
    refine bind (kept read reversed.reverse here holds admitted) (fun _ _ _ fails => fails) ?_
    rintro more value behind _ ⟨some, holds'⟩
    exact pure (by simpa using ⟨some, holds'⟩)
  · rintro read reversed behind _ holds
    exact pure (by simpa using holds)

theorem commaSeparated (list : List Lexeme → List α → Cursor → Prop) {item : Reader α}
    (first : item.Meets cursor (fun read value behind => list read [value] behind) bad)
    (more : ∀ read values here, list read values here →
      here.current.lexeme.kind = .comma →
      item.Meets here.advance
        (fun more value behind =>
          list (read ++ here.current.lexeme :: more) (values ++ [value]) behind)
        (fun more => bad (read ++ here.current.lexeme :: more))) :
    (commaSeparated item).Meets cursor
      (fun read values behind => list read values behind ∧ behind.kind ≠ .comma) bad := by
  unfold Parser.commaSeparated
  refine bind first (fun _ _ _ fails => fails) ?_
  intro read value behind _ holds
  refine bind (repeatWhile (fun more others here => list (read ++ more) (value :: others) here)
    (by simpa using holds) ?_) (fun _ _ _ fails => fails) ?_
  · intro read' others here holds' comma
    have comma : here.kind = .comma := by simpa using comma
    refine take_bind (by rw [comma]; decide) ?_
    refine (more _ _ _ holds' comma).mono ?_ ?_
    · intro last next behind' _ found
      exact ⟨by simp, by simpa [List.append_assoc] using found⟩
    · intro last fails
      simpa [List.append_assoc] using fails
  · rintro read' others behind' _ ⟨holds', stops⟩
    exact pure ⟨by simpa using holds', by simpa using stops⟩

/-! ### Recursion -/

/-- What holds of failing at once, and is kept by the step of a recursion, holds of the recursive
reader. -/
theorem knot {fault : Fault} {step : Reader α → Reader α} (fails : bad [])
    (kept : ∀ reader : Reader α, (∀ here, reader.Meets here good bad) →
      ∀ here, (step reader).Meets here good bad) (cursor : Cursor) :
    (Reader.knot fault step).Meets cursor good bad := by
  have unrolled : ∀ depth here, (Reader.unroll fault step depth).Meets here good bad := by
    intro depth
    induction depth with
    | zero => exact fun here => fail fails
    | succ depth ih => exact fun here => delay (kept _ ih here)
  exact unrolled (cursor.left + 1) cursor

end Reader.Meets

end RapidLang.Parser
