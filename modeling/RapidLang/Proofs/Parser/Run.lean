import Mathlib.Data.List.TakeWhile
import RapidLang.Proofs.Grammar.Program
import RapidLang.Syntax.Parser.Program

/-!
# Running readers

What stands before a cursor as lexemes, and what each way of putting readers together does when it
is run at a cursor.
-/

set_option autoImplicit false

namespace RapidLang.Parser

open Grammar

/-! ## Lexemes before a cursor -/

namespace Cursor

/-- The lexemes still to be read, without the end of input. -/
def lexemes (cursor : Cursor) : List Lexeme :=
  cursor.rest.map Token.lexeme

/-- The kind of the next token. -/
def kind (cursor : Cursor) : TokenKind :=
  cursor.current.kind

/-- The mode that the parameter at a cursor begins with. -/
def mode (cursor : Cursor) : ParameterMode :=
  modeOf cursor.current cursor.advance.current

theorem length_lexemes (cursor : Cursor) : cursor.lexemes.length = cursor.left := by
  rw [lexemes, List.length_map, cursor.left_eq]

theorem kind_eq_nextKind (cursor : Cursor) : cursor.kind = nextKind cursor.lexemes := by
  cases remaining : cursor.rest with
  | nil => simp [kind, current, lexemes, remaining, nextKind, cursor.stop_kind]
  | cons first rest => simp [kind, current, lexemes, remaining, nextKind, Token.lexeme]

theorem lexemes_ne_nil {cursor : Cursor} (inside : cursor.kind ≠ .endOfInput) :
    cursor.lexemes ≠ [] := by
  intro empty
  exact inside (by rw [kind_eq_nextKind, empty, nextKind])

theorem left_eq_zero {cursor : Cursor} (finished : cursor.kind = .endOfInput) : cursor.left = 0 := by
  rw [left_eq]
  cases remaining : cursor.rest with
  | nil => rfl
  | cons first rest =>
      have inside := cursor.rest_kind first (remaining ▸ List.mem_cons_self)
      rw [kind, current, remaining] at finished
      exact absurd finished inside

theorem left_pos {cursor : Cursor} (inside : cursor.kind ≠ .endOfInput) : 0 < cursor.left := by
  rw [← length_lexemes]
  exact List.length_pos_iff.mpr (lexemes_ne_nil inside)

theorem lexemes_eq_cons {cursor : Cursor} (inside : cursor.kind ≠ .endOfInput) :
    cursor.lexemes = cursor.current.lexeme :: cursor.advance.lexemes := by
  cases remaining : cursor.rest with
  | nil => exact absurd (by simp [kind, current, remaining, cursor.stop_kind]) inside
  | cons first rest => simp [lexemes, current, advance, remaining]

theorem following_eq {cursor : Cursor} (inside : cursor.kind ≠ .endOfInput) :
    cursor.following = cursor.advance.current := by
  cases remaining : cursor.rest with
  | nil => exact absurd (by simp [kind, current, remaining, cursor.stop_kind]) inside
  | cons first rest => simp [following, current, advance, remaining]

theorem current_of_lexemes {cursor : Cursor} {first : Lexeme} {rest : List Lexeme}
    (split : cursor.lexemes = first :: rest) :
    cursor.current.lexeme = first ∧ cursor.advance.lexemes = rest := by
  cases remaining : cursor.rest with
  | nil => simp [lexemes, remaining] at split
  | cons token tokens => simpa [lexemes, current, advance, remaining] using split

theorem Reaches.left_le {cursor later : Cursor} (reaches : cursor.Reaches later) :
    later.left ≤ cursor.left := by
  rw [left_eq, left_eq]
  exact reaches.1.length_le

theorem left_lt_of_lexemes {cursor later : Cursor} {read : List Lexeme}
    (split : cursor.lexemes = read ++ later.lexemes) (some : read ≠ []) :
    later.left < cursor.left := by
  have lengths := congrArg List.length split
  rw [List.length_append, length_lexemes, length_lexemes] at lengths
  have := List.length_pos_iff.mpr some
  omega

end Cursor

/-! ## Runs -/

namespace Reader

variable {α β : Type} {cursor behind : Cursor}

theorem run_pure (value : α) : (pure value : Reader α).run cursor = .ok (value, cursor) := rfl

theorem run_bind_of_ok {reader : Reader α} {next : α → Reader β} {value : α}
    (outcome : reader.run cursor = .ok (value, behind)) :
    (reader >>= next).run cursor = (next value).run behind := by
  show (Reader.bind reader next).run cursor = _
  simp only [Reader.bind, outcome]

/-- Where a reader ends is no earlier than where it began. -/
theorem reaches_of_ok {reader : Reader α} {value : α}
    (outcome : reader.run cursor = .ok (value, behind)) : cursor.Reaches behind := by
  have follows := reader.forward cursor
  rwa [outcome] at follows

/-- An error concerns a token no earlier than where the reader began, and it fails no earlier than
at that one. -/
theorem follows_of_error {reader : Reader α} {error : SyntaxError}
    (outcome : reader.run cursor = .error (error, behind)) :
    ∃ before : Cursor, cursor.Reaches before ∧ before.Reaches behind ∧
      error = before.offence error.fault := by
  have follows := reader.forward cursor
  rwa [outcome] at follows

theorem run_bind_of_error {reader : Reader α} {next : α → Reader β} {failure : SyntaxError × Cursor}
    (outcome : reader.run cursor = .error failure) :
    (reader >>= next).run cursor = .error failure := by
  show (Reader.bind reader next).run cursor = _
  simp only [Reader.bind, outcome]

theorem run_require_of_some {fault : Fault} {reader : Reader (Option α)} {value : α}
    (outcome : reader.run cursor = .ok (some value, behind)) :
    (require fault reader).run cursor = .ok (value, behind) := by
  simp only [require, outcome]

theorem run_require_of_none {fault : Fault} {reader : Reader (Option α)}
    (outcome : reader.run cursor = .ok (none, behind)) :
    (require fault reader).run cursor =
      .error (cursor.offence fault, behind.report (cursor.offence fault)) := by
  simp only [require, outcome]

theorem run_require_of_error {fault : Fault} {reader : Reader (Option α)}
    {failure : SyntaxError × Cursor} (outcome : reader.run cursor = .error failure) :
    (require fault reader).run cursor = .error failure := by
  simp only [require, outcome]

theorem run_peekKind : peekKind.run cursor = .ok (cursor.kind, cursor) := rfl

theorem run_take : take.run cursor = .ok (cursor.current, cursor.advance) := rfl

theorem run_takeAs_of_some {fault : Fault} {meaning? : Token → Option α} {value : α}
    (found : meaning? cursor.current = some value) :
    (takeAs fault meaning?).run cursor = .ok (value, cursor.advance) := by
  apply run_require_of_some
  rw [run_bind_of_ok run_take, found]
  rfl

theorem run_takeAs_of_none {fault : Fault} {meaning? : Token → Option α}
    (missing : meaning? cursor.current = none) :
    (takeAs fault meaning?).run cursor =
      .error (cursor.offence fault, cursor.advance.report (cursor.offence fault)) := by
  apply run_require_of_none
  rw [run_bind_of_ok run_take, missing]
  rfl

theorem run_headNames_of_some {names : List Name}
    (found : headNames? cursor.current cursor.advance.kind = some names) :
    headNames.run cursor = .ok (names, cursor.advance) := by
  apply run_require_of_some
  rw [run_bind_of_ok run_take, run_bind_of_ok run_peekKind, found]
  rfl

theorem run_headNames_of_none (missing : headNames? cursor.current cursor.advance.kind = none) :
    headNames.run cursor = .error
      (cursor.offence .malformedName, cursor.advance.report (cursor.offence .malformedName)) := by
  apply run_require_of_none
  rw [run_bind_of_ok run_take, run_bind_of_ok run_peekKind, missing]
  rfl

theorem run_chainHead_of_some {names : List Name} {value : Expr}
    (found : headNames? cursor.current cursor.advance.kind = some names)
    (whole : headOf? names = some value) :
    chainHead.run cursor = .ok (value, cursor.advance) := by
  apply run_require_of_some
  rw [run_bind_of_ok (run_headNames_of_some found), whole]
  rfl

theorem run_chainHead_of_none (missing : headNames? cursor.current cursor.advance.kind = none) :
    chainHead.run cursor = .error
      (cursor.offence .malformedName, cursor.advance.report (cursor.offence .malformedName)) := by
  apply run_require_of_error
  rw [run_bind_of_error (run_headNames_of_none missing)]

theorem run_accept_of_eq {kind : TokenKind} (here : cursor.kind = kind) :
    (accept kind).run cursor = .ok (true, cursor.advance) := by
  rw [accept, run_bind_of_ok run_peekKind, if_pos here]
  rfl

theorem run_accept_of_ne {kind : TokenKind} (here : cursor.kind ≠ kind) :
    (accept kind).run cursor = .ok (false, cursor) := by
  rw [accept, run_bind_of_ok run_peekKind, if_neg here]
  rfl

theorem run_expect_of_eq {kind : TokenKind} (here : cursor.kind = kind) :
    (expect kind).run cursor = .ok (cursor.current, cursor.advance) := by
  rw [expect, run_bind_of_ok run_peekKind, if_pos here]
  rfl

theorem run_expect_of_ne {kind : TokenKind} (here : cursor.kind ≠ kind) :
    (expect kind).run cursor = (fail (.noToken kind) : Reader Token).run cursor := by
  rw [expect, run_bind_of_ok run_peekKind, if_neg here]

theorem run_expectName_of_eq {role : NameRole} (here : cursor.kind = .identifier) :
    (expectName role).run cursor =
      .ok (⟨cursor.current.text, cursor.current.span⟩, cursor.advance) := by
  rw [expectName, run_bind_of_ok run_peekKind, if_pos here]
  rfl

theorem run_expectName_of_ne {role : NameRole} (here : cursor.kind ≠ .identifier) :
    (expectName role).run cursor = (fail (.noName role) : Reader Name).run cursor := by
  rw [expectName, run_bind_of_ok run_peekKind, if_neg here]

section Steps

variable {continues : TokenKind → Bool} {step : α → Reader α} {value : α}

theorem run_steps_of_stop (stop : continues cursor.kind = false) :
    (steps continues step value).run cursor = .ok (value, cursor) := by
  show stepsFrom continues step value cursor = _
  rw [stepsFrom]
  exact if_neg (Bool.not_eq_true _ ▸ stop)

theorem run_steps_of_error {failure : SyntaxError × Cursor} (admitted : continues cursor.kind)
    (outcome : (step value).run cursor = .error failure) :
    (steps continues step value).run cursor = .error failure := by
  show stepsFrom continues step value cursor = _
  rw [stepsFrom, outcome]
  exact if_pos admitted

theorem run_steps_of_ok {next : α} (admitted : continues cursor.kind)
    (outcome : (step value).run cursor = .ok (next, behind)) (shorter : behind.left < cursor.left) :
    (steps continues step value).run cursor = (steps continues step next).run behind := by
  show stepsFrom continues step value cursor = stepsFrom continues step next behind
  rw [stepsFrom, outcome]
  exact (if_pos admitted).trans (if_pos shorter)

theorem run_steps_of_last {next : α} (admitted : continues cursor.kind)
    (outcome : (step value).run cursor = .ok (next, behind)) (last : ¬ behind.left < cursor.left) :
    (steps continues step value).run cursor = .ok (next, behind) := by
  show stepsFrom continues step value cursor = _
  rw [stepsFrom, outcome]
  exact (if_pos admitted).trans (if_neg last)

end Steps

/-! ## Modes -/

/-- The token behind the next one decides on the mode of a parameter only where a word is next. -/
theorem modeOf_congr {token following following' : Token}
    (same : token.kind = .identifier → following = following') :
    modeOf token following = modeOf token following' := by
  unfold modeOf
  split
  next => rfl
  next => rfl
  next kind => rw [same kind]
  next => rfl

theorem mode_eq_input_of_endOfInput {current following : Token}
    (finished : current.kind = .endOfInput) : modeOf current following = .input := by
  simp [modeOf, finished]

/-- What stands behind the end of input has no part in the mode of a parameter. -/
theorem modeOf_following (cursor : Cursor) :
    modeOf cursor.current cursor.following = cursor.mode := by
  apply modeOf_congr
  intro word
  apply Cursor.following_eq
  rw [Cursor.kind, word]
  decide

theorem run_takeMode_of_input (unwritten : cursor.mode = .input) :
    takeMode.run cursor = .ok (.input, cursor) := by
  show Reader.run (if modeOf cursor.current cursor.following = .input then _ else _) cursor = _
  rw [modeOf_following, if_pos unwritten, unwritten]
  rfl

theorem run_takeMode_of_ne (written : cursor.mode ≠ .input) :
    takeMode.run cursor = .ok (cursor.mode, cursor.advance) := by
  show Reader.run (if modeOf cursor.current cursor.following = .input then _ else _) cursor = _
  rw [modeOf_following, if_neg written]
  rfl

/-! ## Whole lists of tokens -/

end Reader

theorem exists_completed_eq_append (tokens : List Token) :
    ∃ behind, completed tokens = tokens ++ behind := by
  unfold completed
  split
  next last _ =>
    split
    · exact ⟨[], (List.append_nil tokens).symm⟩
    · exact ⟨_, rfl⟩
  next empty =>
    rw [List.getLast?_eq_none_iff.mp empty]
    exact ⟨_, rfl⟩

theorem exists_endOfInput_completed (tokens : List Token) :
    ∃ token ∈ completed tokens, token.kind = .endOfInput := by
  unfold completed
  split
  next last final =>
    split
    next finished => exact ⟨last, List.mem_of_getLast? final, finished⟩
    next => exact ⟨_, List.mem_concat_self, rfl⟩
  next => exact ⟨_, List.mem_singleton_self _, rfl⟩

namespace Cursor

/-- What is read is what stands before the first end of input. -/
theorem rest_ofTokens (tokens : List Token) :
    (ofTokens tokens).rest = tokens.takeWhile fun token => token.kind != .endOfInput := by
  show (completed tokens).takeWhile _ = _
  unfold completed
  split
  next last _ =>
    split
    next => rfl
    next =>
      rw [List.takeWhile_append]
      split
      next whole =>
        rw [(List.takeWhile_prefix _).eq_of_length whole]
        exact List.append_nil tokens
      next => rfl
  next empty =>
    rw [List.getLast?_eq_none_iff.mp empty]
    rfl

theorem lexemes_ofTokens (tokens : List Token) : (ofTokens tokens).lexemes = lexemesOf tokens :=
  congrArg (List.map Token.lexeme) (rest_ofTokens tokens)

/-- The completed tokens are those to be read, the first end of input and what stands behind it. -/
theorem completed_eq (tokens : List Token) :
    completed tokens =
      (ofTokens tokens).rest ++ (ofTokens tokens).stop :: (ofTokens tokens).beyond := by
  obtain ⟨token, member, finished⟩ := exists_endOfInput_completed tokens
  have split := List.takeWhile_append_dropWhile (p := fun token : Token => token.kind != .endOfInput)
    (l := completed tokens)
  show _ = List.takeWhile _ _ ++ List.headD _ _ :: List.tail _
  cases remaining : (completed tokens).dropWhile fun token => token.kind != .endOfInput with
  | nil =>
      have inside := List.dropWhile_eq_nil_iff.mp remaining token member
      simp [finished] at inside
  | cons stop beyond =>
      rw [remaining] at split
      exact split.symm

/-- The end of input is the first one among the tokens, if there is one. -/
theorem stop_ofTokens {tokens : List Token} {stop : Token}
    (found : tokens.find? (fun token => token.kind == .endOfInput) = some stop) :
    (Cursor.ofTokens tokens).stop = stop := by
  obtain ⟨finished, front, behind, split, inside⟩ := List.find?_eq_some_iff_append.mp found
  obtain ⟨more, whole⟩ := exists_completed_eq_append tokens
  replace inside : ∀ token ∈ front, token.kind != .endOfInput := inside
  have before : (Cursor.ofTokens tokens).rest = front := by
    rw [rest_ofTokens, split, List.takeWhile_append_of_pos inside, List.takeWhile_cons_of_neg
      (by simpa using finished), List.append_nil]
  have same : front ++ stop :: (behind ++ more) =
      front ++ (Cursor.ofTokens tokens).stop :: (Cursor.ofTokens tokens).beyond := by
    rw [← before, ← completed_eq, whole, before, split, List.append_assoc, List.cons_append]
  exact (List.cons.inj (List.append_cancel_left same)).1.symm

end Cursor

namespace Reader

section Read

variable {α : Type} {tokens : List Token} {reader : Reader α} {value : α} {error : SyntaxError}
  {behind : Cursor}

theorem read_of_ok (outcome : reader.run (Cursor.ofTokens tokens) = .ok (value, behind)) :
    reader.read tokens = .ok value := by
  rw [read, outcome]

theorem read_of_error (outcome : reader.run (Cursor.ofTokens tokens) = .error (error, behind)) :
    reader.read tokens = .error error := by
  rw [read, outcome]

theorem run_of_read (accepted : reader.read tokens = .ok value) :
    ∃ behind, reader.run (Cursor.ofTokens tokens) = .ok (value, behind) := by
  rw [read] at accepted
  split at accepted
  next behind outcome =>
    cases accepted
    exact ⟨behind, outcome⟩
  next => cases accepted

theorem run_of_read_error (failed : reader.read tokens = .error error) :
    ∃ behind, reader.run (Cursor.ofTokens tokens) = .error (error, behind) := by
  rw [read] at failed
  split at failed
  next => cases failed
  next behind outcome =>
    cases failed
    exact ⟨behind, outcome⟩

end Read

end Reader

/-- What a text parses to is read from its tokens. -/
theorem ofTokens_of_parsed {source : String} {program : Program}
    (parsed : (Parsed.ofString source).program = some program) :
    Program.ofTokens (Lexed.ofString source).tokens = .ok program := by
  have tree : (Parser.program.run
      (Cursor.ofTokens (Lexed.ofString source).tokens)).value? = some program := parsed
  cases outcome : Parser.program.run (Cursor.ofTokens (Lexed.ofString source).tokens) with
  | error failure =>
      rw [outcome] at tree
      cases tree
  | ok result =>
      rw [outcome] at tree
      cases tree
      exact Reader.read_of_ok outcome

end RapidLang.Parser
