import RapidLang.Proofs.Parser.Loops

/-!
# What readers report

The reports on a cursor are those of the errors that were met. A reader that ends with a value adds
none, and one that fails adds that of its own error, however deep down it was met and whatever was
read between.
-/

set_option autoImplicit false

namespace RapidLang.Parser

open Reader

variable {α β : Type}

/-- A value leaves the reports as they were, and an error adds its own one. -/
def Outcome.Reports (reported : List Diagnostic) : Outcome α → Prop
  | .ok (_, behind) => behind.reported = reported
  | .error (error, behind) => behind.reported = reported ++ [error.diagnostic]

def Reader.Reports (reader : Reader α) : Prop :=
  ∀ cursor : Cursor, (reader.run cursor).Reports cursor.reported

namespace Reader.Reports

variable {reader : Reader α} {cursor behind : Cursor}

theorem ok {value : α} (reports : reader.Reports)
    (outcome : reader.run cursor = .ok (value, behind)) : behind.reported = cursor.reported := by
  have here := reports cursor
  rwa [outcome] at here

theorem error {error : SyntaxError} (reports : reader.Reports)
    (outcome : reader.run cursor = .error (error, behind)) :
    behind.reported = cursor.reported ++ [error.diagnostic] := by
  have here := reports cursor
  rwa [outcome] at here

theorem pure {value : α} : (pure value : Reader α).Reports :=
  fun _ => rfl

theorem fail {fault : Fault} : (fail fault : Reader α).Reports :=
  fun _ => rfl

theorem peek : Parser.peek.Reports :=
  fun _ => rfl

theorem peekFollowing : Parser.peekFollowing.Reports :=
  fun _ => rfl

theorem take : Parser.take.Reports :=
  fun _ => rfl

/-- An error of the first reader is not reported again, and one of the second is the first to be. -/
theorem bind {first : Reader β} {next : β → Reader α} (before : first.Reports)
    (onward : ∀ value, (next value).Reports) : (first >>= next).Reports := by
  intro cursor
  cases outcome : first.run cursor with
  | error failure =>
      rw [run_bind_of_error outcome]
      exact before.error outcome
  | ok result =>
      rw [run_bind_of_ok outcome, ← before.ok outcome]
      exact onward result.1 result.2

theorem require {fault : Fault} {inner : Reader (Option α)} (reports : inner.Reports) :
    (require fault inner).Reports := by
  intro cursor
  cases outcome : inner.run cursor with
  | error failure =>
      rw [run_require_of_error outcome]
      exact reports.error outcome
  | ok result =>
      obtain ⟨found, behind⟩ := result
      cases found with
      | none =>
          rw [run_require_of_none outcome, ← reports.ok outcome]
          rfl
      | some value =>
          rw [run_require_of_some outcome]
          exact reports.ok outcome

/-- The rounds of a loop hand on the reports, and the one that fails adds to them. -/
theorem steps {continues : TokenKind → Bool} {step : α → Reader α}
    (each : ∀ value, (step value).Reports) (value : α) :
    (Reader.steps continues step value).Reports := by
  intro cursor
  -- The induction is on the tokens left before the round.
  induction size : cursor.left using Nat.strongRecOn generalizing value cursor with
  | ind size ih =>
      subst size
      by_cases admitted : continues cursor.kind
      · cases outcome : (step value).run cursor with
        | error failure =>
            rw [run_steps_of_error admitted outcome]
            exact (each value).error outcome
        | ok result =>
            obtain ⟨next, behind⟩ := result
            by_cases shorter : behind.left < cursor.left
            · rw [run_steps_of_ok admitted outcome shorter, ← (each value).ok outcome]
              exact ih behind.left shorter next behind rfl
            · rw [run_steps_of_last admitted outcome shorter]
              exact (each value).ok outcome
      · have stop : continues cursor.kind = false := by simpa using admitted
        rw [run_steps_of_stop stop]
        exact rfl

end Reader.Reports

/-- Whatever is put together from readers of single tokens reports the error that it fails with, and
no other. -/
theorem Reader.LoopsEnd.reports {reader : Reader α} (ends : reader.LoopsEnd) : reader.Reports := by
  induction ends with
  | pure => exact .pure
  | fail => exact .fail
  | peek => exact .peek
  | peekFollowing => exact .peekFollowing
  | take => exact .take
  | bind _ _ first onward => exact .bind first onward
  | require _ inner => exact .require inner
  | steps _ _ each => exact .steps each _
  | delay _ inner => exact inner
  | knot _ unrolled => exact fun cursor => unrolled (cursor.left + 1) cursor

theorem program_reports : program.Reports :=
  program_loopsEnd.reports

section Program

variable {tokens : List Token} {program : Program} {error : SyntaxError}

/-- Where the tokens form a program, nothing is reported. -/
theorem reported_of_ok {behind : Cursor}
    (outcome : Parser.program.run (.ofTokens tokens) = .ok (program, behind)) :
    behind.reported = [] :=
  program_reports.ok outcome

/-- Else the error is, once. -/
theorem reported_of_error {behind : Cursor}
    (outcome : Parser.program.run (.ofTokens tokens) = .error (error, behind)) :
    behind.reported = [error.diagnostic] :=
  program_reports.error outcome

end Program

end RapidLang.Parser
