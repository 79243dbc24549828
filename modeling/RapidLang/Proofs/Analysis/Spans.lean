import RapidLang.Proofs.Checker.Erasure
import RapidLang.Proofs.Parser.FirstError
import RapidLang.Proofs.Parser.Twins.Program

/-!
# What spans decide

Spans are carried along to tell where something stands. Neither whether tokens form a program, nor
which one, nor what is reported depends on them.
-/

set_option autoImplicit false

namespace RapidLang

open RapidLang.Parser

/-- Lists of tokens with the same kinds and texts form the same program up to spans, or they have
the same syntax error at the same place. -/
theorem ofTokens_of_lexemes {tokens other : List Token}
    (same : tokens.map Token.lexeme = other.map Token.lexeme) :
    (∃ program program', Program.ofTokens tokens = .ok program ∧
      Program.ofTokens other = .ok program' ∧ erase program = erase program') ∨
    ∃ error error' index, Program.ofTokens tokens = .error error ∧
      Program.ofTokens other = .error error' ∧
      error.message = error'.message ∧ error.code = error'.code ∧
      error.place tokens = index ∧ error'.place other = index := by
  have twin := Cursor.twin_ofTokens same
  rcases program_twin.outcomes twin with
    ⟨program, program', behind, behind', outcome, outcome', alike, _⟩ |
    ⟨⟨error, _⟩, ⟨error', _⟩, outcome, outcome', errors⟩
  · exact .inl ⟨program, program', Reader.read_of_ok outcome, Reader.read_of_ok outcome', alike⟩
  · obtain ⟨message, code⟩ := errors.report
    refine .inr ⟨error, error', _, Reader.read_of_error outcome, Reader.read_of_error outcome',
      message, code, rfl, ?_⟩
    rw [SyntaxError.place, SyntaxError.place, twin.left, errors.left]

/-- An error stands at the token of its place. -/
theorem getElem?_place {tokens : List Token} {error : SyntaxError}
    (failed : Program.ofTokens tokens = .error error) :
    (completed tokens)[error.place tokens]? = some error.token := by
  have near : error.place tokens ≤ (Cursor.ofTokens tokens).left := Nat.sub_le _ _
  rw [getElem?_completed near, (token_of_failed failed).1]

/-- Layout has no part in parsing or checking. Lists of tokens that differ in spans only are read
alike: to programs that differ in spans only, or to the same error at the token of the same index.
Programs that differ in spans only have reports that say the same, one by one. -/
theorem spans_decide_nothing (tokens other : List Token) (program program' : Program)
    (lexemes : tokens.map Token.lexeme = other.map Token.lexeme)
    (alike : erase program = erase program') :
    ((∃ read read', Program.ofTokens tokens = .ok read ∧ Program.ofTokens other = .ok read' ∧
        erase read = erase read') ∨
      ∃ error error' index, Program.ofTokens tokens = .error error ∧
        Program.ofTokens other = .error error' ∧
        error.message = error'.message ∧ error.code = error'.code ∧
        error.place tokens = index ∧ (completed tokens)[index]? = some error.token ∧
        error'.place other = index ∧ (completed other)[index]? = some error'.token) ∧
      List.Forall₂ Diagnostic.SaysSame program.diagnostics program'.diagnostics := by
  refine ⟨?_, forall₂_diagnostics alike⟩
  rcases ofTokens_of_lexemes lexemes with accepted | refused
  · exact .inl accepted
  · obtain ⟨error, error', index, failed, failed', message, code, place, place'⟩ := refused
    refine .inr ⟨error, error', index, failed, failed', message, code, place, ?_, place', ?_⟩
    · rw [← place]
      exact getElem?_place failed
    · rw [← place']
      exact getElem?_place failed'

/-- A place other than the beginning. -/
def elsewhere : Text.Span :=
  ⟨⟨7, 3⟩, ⟨7, 4⟩⟩

/-- The tokens of `bareDeclaration`, standing elsewhere. -/
def movedDeclaration : List Token :=
  [⟨.module, "MODULE", elsewhere⟩, ⟨.identifier, "M", elsewhere⟩, ⟨.var, "VAR", elsewhere⟩,
    ⟨.semicolon, ";", elsewhere⟩]

/-- A function without a return, all of it at one span. -/
def mutedFunction (span : Text.Span) : Program :=
  ⟨[⟨⟨"M", span⟩, [.func ⟨"num", span⟩ ⟨"f", span⟩ [] [] span], span⟩], span⟩

theorem spans_decide_nothing_for_movedDeclaration :
    ((∃ read read', Program.ofTokens bareDeclaration = .ok read ∧
        Program.ofTokens movedDeclaration = .ok read' ∧ erase read = erase read') ∨
      ∃ error error' index, Program.ofTokens bareDeclaration = .error error ∧
        Program.ofTokens movedDeclaration = .error error' ∧
        error.message = error'.message ∧ error.code = error'.code ∧
        error.place bareDeclaration = index ∧
        (completed bareDeclaration)[index]? = some error.token ∧
        error'.place movedDeclaration = index ∧
        (completed movedDeclaration)[index]? = some error'.token) ∧
      List.Forall₂ Diagnostic.SaysSame (mutedFunction .origin).diagnostics
        (mutedFunction elsewhere).diagnostics := by
  have lexemes : bareDeclaration.map Token.lexeme = movedDeclaration.map Token.lexeme := rfl
  have alike : erase (mutedFunction .origin) = erase (mutedFunction elsewhere) := rfl
  exact spans_decide_nothing bareDeclaration movedDeclaration (mutedFunction .origin)
    (mutedFunction elsewhere) lexemes alike

end RapidLang
