import RapidLang.Proofs.Parser.Inside
import RapidLang.Proofs.Parser.Locality.Program

/-!
# Where a syntax error is reported

An error is reported at the first token that no program can have in its place. The tokens before it
begin some program, and what follows it, but for one token, has no part in the report.
-/

set_option autoImplicit false

namespace RapidLang.Parser

open Text Grammar

variable {tokens other : List Token} {index : Nat}

/-! ## Tokens by place -/

/-- The place of the token that an error is reported at. -/
def SyntaxError.place (error : SyntaxError) (tokens : List Token) : Nat :=
  (Cursor.ofTokens tokens).left - error.left

/-- Up to the end of input the tokens behind the first cursor are the completed ones. -/
theorem getElem?_completed (near : index ≤ (Cursor.ofTokens tokens).left) :
    (completed tokens)[index]? = some ((Cursor.ofTokens tokens).token index) := by
  rw [Cursor.completed_eq]
  rw [Cursor.left_eq] at near
  rcases Nat.lt_or_eq_of_le near with inside | rfl
  · rw [List.getElem?_append_left inside, Cursor.token,
      List.getD_eq_getElem?_getD, List.getElem?_eq_getElem inside, Option.getD_some]
  · rw [List.getElem?_append_right (Nat.le_refl _), Cursor.token]
    simp

theorem take_completed (near : index ≤ (Cursor.ofTokens tokens).left) :
    (completed tokens).take index = (Cursor.ofTokens tokens).rest.take index := by
  rw [Cursor.left_eq] at near
  rw [Cursor.completed_eq, List.take_append_of_le_length near]

namespace Cursor

variable {cursor : Cursor}

/-- Only the end of input is of its kind. -/
theorem left_le_of_token_kind (finished : (cursor.token index).kind = .endOfInput) :
    cursor.left ≤ index := by
  rw [left_eq]
  by_contra inside
  rw [Nat.not_le] at inside
  rw [token, List.getD_eq_getElem?_getD, List.getElem?_eq_getElem inside] at finished
  exact cursor.rest_kind _ (List.getElem_mem inside) finished

theorem token_of_left_le (behind : cursor.left ≤ index) : cursor.token index = cursor.stop := by
  rw [left_eq] at behind
  rw [token, List.getD_eq_getElem?_getD, List.getElem?_eq_none behind, Option.getD_none]

theorem kind_token_left (cursor : Cursor) : (cursor.token cursor.left).kind = .endOfInput := by
  rw [token_of_left_le (Nat.le_refl _), cursor.stop_kind]

end Cursor

/-- Tokens that are completed alike up to a place have as many before their end, or they reach at
least as far as that place. -/
theorem le_left_of_same (near : index ≤ (Cursor.ofTokens tokens).left)
    (same : ∀ i ≤ index, (completed other)[i]? = (completed tokens)[i]?) :
    index ≤ (Cursor.ofTokens other).left := by
  by_contra short
  rw [Nat.not_le] at short
  have here := same _ (Nat.le_of_lt short)
  rw [getElem?_completed (Nat.le_refl _), getElem?_completed (by omega), Option.some.injEq] at here
  have finished := here ▸ (Cursor.ofTokens other).kind_token_left
  have := Cursor.left_le_of_token_kind finished
  omega

theorem agree_of_same (near : index ≤ (Cursor.ofTokens tokens).left)
    (same : ∀ i ≤ index, (completed other)[i]? = (completed tokens)[i]?) :
    Cursor.Agree (index + 1) (Cursor.ofTokens tokens) (Cursor.ofTokens other) := by
  have near' := le_left_of_same near same
  intro i below
  have here := same i (Nat.le_of_lt_succ below)
  rw [getElem?_completed (by omega), getElem?_completed (by omega), Option.some.injEq] at here
  exact here.symm

/-- Behind the end of input there is nothing more to compare. -/
theorem agree_of_finished (finished : ((Cursor.ofTokens tokens).token index).kind = .endOfInput)
    (agree : Cursor.Agree (index + 1) (Cursor.ofTokens tokens) (Cursor.ofTokens other)) :
    Cursor.Agree (index + 2) (Cursor.ofTokens tokens) (Cursor.ofTokens other) := by
  intro i below
  rcases Nat.lt_or_eq_of_le (Nat.le_of_lt_succ below) with inside | rfl
  · exact agree i inside
  · have last := agree index (Nat.lt_succ_self _)
    have behind := Cursor.left_le_of_token_kind finished
    have behind' := Cursor.left_le_of_token_kind (last ▸ finished)
    rw [Cursor.token_of_left_le behind, Cursor.token_of_left_le behind'] at last
    rwa [Cursor.token_of_left_le (by omega), Cursor.token_of_left_le (by omega)]

/-! ## The report -/

/-- The error concerns the token at its place, and counts the tokens from that one on. -/
theorem token_of_failed {α : Type} {reader : Reader α} {error : SyntaxError}
    (failed : reader.read tokens = .error error) :
    error.token = (Cursor.ofTokens tokens).token (error.place tokens) ∧
      error.left ≤ (Cursor.ofTokens tokens).left := by
  obtain ⟨behind, outcome⟩ := Reader.run_of_read_error failed
  obtain ⟨before, reaches, _, offence⟩ := Reader.follows_of_error outcome
  have token := congrArg SyntaxError.token offence
  have left := congrArg SyntaxError.left offence
  replace token : error.token = before.current := token
  replace left : error.left = before.left := left
  have here := reaches.token 0
  rw [Cursor.token_zero, Nat.add_zero, ← left, ← token] at here
  exact ⟨here, (Nat.le_of_eq left).trans reaches.left_le⟩

/-- The tokens before an error begin a program. -/
theorem completable_of_failed {error : SyntaxError}
    (failed : Program.ofTokens tokens = .error error) :
    ∃ more program, Program.ofTokens ((completed tokens).take (error.place tokens) ++ more) =
      .ok program := by
  obtain ⟨behind, outcome⟩ := Reader.run_of_read_error failed
  obtain ⟨read, rest, split, left, more, tree, phrase⟩ := (program_meets _).error outcome
  have near : error.place tokens ≤ (Cursor.ofTokens tokens).left := Nat.sub_le _ _
  have length : read.length = error.place tokens := by
    have lengths := congrArg List.length split
    rw [List.length_append, Cursor.length_lexemes] at lengths
    rw [SyntaxError.place]
    omega
  have front : ((Cursor.ofTokens tokens).rest.take (error.place tokens)).map Token.lexeme = read := by
    rw [List.map_take, ← length]
    replace split : (Cursor.ofTokens tokens).rest.map Token.lexeme = read ++ _ := split
    rw [split, List.take_left]
  let written := more.map fun lexeme => (⟨lexeme.kind, lexeme.text, .origin⟩ : Token)
  have back : written.map Token.lexeme = more := by
    simp [written, Token.lexeme, Function.comp_def]
  have whole : ((completed tokens).take (error.place tokens) ++ written).map Token.lexeme =
      read ++ more := by
    rw [take_completed near, List.map_append, front, back]
  obtain ⟨program, accepted, _⟩ := ofTokens_of_lexemes (whole ▸ phrase)
  exact ⟨written, program, accepted⟩

/-- Tokens that agree up to one behind an error fail in the same place with the same cause. -/
theorem failed_of_agree {error : SyntaxError} (failed : Program.ofTokens tokens = .error error)
    (agree : Cursor.Agree (error.place tokens + 2) (Cursor.ofTokens tokens)
      (Cursor.ofTokens other)) :
    ∃ error', Program.ofTokens other = .error error' ∧ error'.fault = error.fault ∧
      error'.place other = error.place tokens := by
  obtain ⟨behind, outcome⟩ := Reader.run_of_read_error failed
  have alike : program.Alike program (Cursor.ofTokens tokens) (Cursor.ofTokens other) :=
    program_alike
  unfold Reader.Alike at alike
  rw [outcome] at alike
  obtain ⟨error', behind', outcome', fault, passed⟩ := (alike agree).error
  exact ⟨error', Reader.read_of_error outcome', fault, passed.symm⟩

/-- What is reported of an error depends on its cause and on its token. -/
theorem report_of_same {error error' : SyntaxError} (fault : error'.fault = error.fault)
    (token : error'.token = error.token) :
    error'.message = error.message ∧ error'.code = error.code ∧ error'.span = error.span := by
  simp only [SyntaxError.message, SyntaxError.code, SyntaxError.span, fault, token, and_self]

/-- A syntax error is reported at the first token that cannot be part of any program. The tokens
before it can be continued to a program; and all tokens that agree with these up to one behind it,
or up to it if it is the end of input, have the same error. -/
theorem error_at_first_offender (tokens : List Token) (error : SyntaxError)
    (failed : Program.ofTokens tokens = .error error) :
    (completed tokens)[error.place tokens]? = some error.token ∧
      (∃ more program, Program.ofTokens ((completed tokens).take (error.place tokens) ++ more) =
        .ok program) ∧
      ∀ other : List Token,
        (∀ i ≤ if error.token.kind = .endOfInput then error.place tokens
          else error.place tokens + 1, (completed other)[i]? = (completed tokens)[i]?) →
        ∃ error', Program.ofTokens other = .error error' ∧ error'.message = error.message ∧
          error'.code = error.code ∧ error'.span = error.span := by
  have near : error.place tokens ≤ (Cursor.ofTokens tokens).left := Nat.sub_le _ _
  have current := (token_of_failed failed).1
  refine ⟨?_, completable_of_failed failed, fun other same => ?_⟩
  · rw [getElem?_completed near, current]
  · have agree : Cursor.Agree (error.place tokens + 2) (Cursor.ofTokens tokens)
        (Cursor.ofTokens other) := by
      by_cases finished : error.token.kind = .endOfInput
      · rw [if_pos finished] at same
        exact agree_of_finished (current ▸ finished) (agree_of_same near same)
      · rw [if_neg finished] at same
        refine agree_of_same ?_ same
        rw [current] at finished
        refine Nat.lt_of_le_of_ne near fun last => finished ?_
        rw [last]
        exact Cursor.kind_token_left _
    obtain ⟨error', failed', fault, place⟩ := failed_of_agree failed agree
    refine ⟨error', failed', report_of_same fault ?_⟩
    rw [current, agree _ (by omega), (token_of_failed failed').1, place]

/-- The word VAR without a type and a name behind it. -/
def bareDeclaration : List Token :=
  [⟨.module, "MODULE", .origin⟩, ⟨.identifier, "M", .origin⟩, ⟨.var, "VAR", .origin⟩,
    ⟨.semicolon, ";", .origin⟩]

theorem error_at_semicolon :
    ∃ error, Program.ofTokens bareDeclaration = .error error ∧ error.place bareDeclaration = 3 ∧
      (completed bareDeclaration)[error.place bareDeclaration]? = some error.token ∧
      (∃ more program, Program.ofTokens
        ((completed bareDeclaration).take (error.place bareDeclaration) ++ more) = .ok program) ∧
      ∀ other : List Token,
        (∀ i ≤ if error.token.kind = .endOfInput then error.place bareDeclaration
          else error.place bareDeclaration + 1,
          (completed other)[i]? = (completed bareDeclaration)[i]?) →
        ∃ error', Program.ofTokens other = .error error' ∧ error'.message = error.message ∧
          error'.code = error.code ∧ error'.span = error.span := by
  have placed : (match Program.ofTokens bareDeclaration with
      | .error error => error.place bareDeclaration == 3
      | .ok _ => false) = true := by
    decide +kernel
  cases outcome : Program.ofTokens bareDeclaration with
  | error error =>
      rw [outcome] at placed
      exact ⟨error, rfl, beq_iff_eq.mp placed, error_at_first_offender _ error outcome⟩
  | ok program =>
      rw [outcome] at placed
      cases placed

end RapidLang.Parser
