import Mathlib.Data.List.TakeWhile
import RapidLang.Proofs.Parser.FirstError
import RapidLang.Proofs.Parser.Loops

/-!
# Places in a list of tokens

A cursor stands before one token of a list, or at its end. Readers move it forward, but never past
the first end of input. What stands behind that one stays on the cursor; as no reader lets it decide
anything, it does not matter. Every reader for a part of a program takes a token, so the loops of the
parser end within the tokens of the list.
-/

set_option autoImplicit false

namespace RapidLang.Parser

open Reader

variable {α : Type} {tokens : List Token} {place : Nat} {cursor later : Cursor}

/-! ## Places -/

/-- The place of the first end of input, or that behind the last token if there is none. -/
def endPlace (tokens : List Token) : Nat :=
  tokens.findIdx fun token => token.kind == .endOfInput

theorem endPlace_le_length (tokens : List Token) : endPlace tokens ≤ tokens.length :=
  List.findIdx_le_length

/-- The cursor stands at a place in the tokens, no later than at the first end of input. -/
structure Cursor.StandsAt (cursor : Cursor) (tokens : List Token) (place : Nat) : Prop where
  inside : place ≤ endPlace tokens
  rest : cursor.rest = (tokens.take (endPlace tokens)).drop place
  stop : cursor.stop = (Cursor.ofTokens tokens).stop
  beyond : cursor.beyond = (Cursor.ofTokens tokens).beyond

namespace Cursor

theorem rest_ofTokens_eq_take (tokens : List Token) :
    (Cursor.ofTokens tokens).rest = tokens.take (endPlace tokens) := by
  rw [rest_ofTokens, List.takeWhile_eq_take_findIdx_not]
  simp only [endPlace, bne, Bool.not_not]

theorem left_ofTokens (tokens : List Token) : (Cursor.ofTokens tokens).left = endPlace tokens := by
  rw [left_eq, rest_ofTokens_eq_take, List.length_take_of_le (endPlace_le_length tokens)]

namespace StandsAt

theorem start (tokens : List Token) : (Cursor.ofTokens tokens).StandsAt tokens 0 :=
  ⟨Nat.zero_le _, rest_ofTokens_eq_take tokens, rfl, rfl⟩

/-- The tokens left are those between the place and the first end of input. -/
theorem left (stands : cursor.StandsAt tokens place) : place + cursor.left = endPlace tokens := by
  rw [left_eq, stands.rest, List.length_drop, List.length_take_of_le (endPlace_le_length tokens)]
  exact Nat.add_sub_of_le stands.inside

theorem reaches (stands : cursor.StandsAt tokens place) :
    (Cursor.ofTokens tokens).Reaches cursor := by
  refine ⟨?_, stands.stop, stands.beyond⟩
  rw [stands.rest, rest_ofTokens_eq_take]
  exact List.drop_suffix _ _

theorem of_reaches (reaches : (Cursor.ofTokens tokens).Reaches cursor) :
    cursor.StandsAt tokens (endPlace tokens - cursor.left) := by
  refine ⟨Nat.sub_le _ _, ?_, reaches.stop, reaches.beyond⟩
  have rest := List.suffix_iff_eq_drop.mp reaches.rest
  rw [← left_eq, ← left_eq, left_ofTokens, rest_ofTokens_eq_take] at rest
  exact rest

/-- What stands at the place is the next token. -/
theorem current (stands : cursor.StandsAt tokens place) :
    cursor.current = tokens[place]?.getD (Cursor.ofTokens tokens).stop := by
  rw [Cursor.current, stands.rest, stands.stop, List.headD_eq_head?_getD, List.head?_drop,
    List.getElem?_take]
  split
  · rfl
  · have last : place = endPlace tokens := by
      have := stands.inside
      omega
    rw [last, Option.getD_none, endPlace, ← List.find?_eq_getElem?_findIdx]
    cases found : tokens.find? fun token => token.kind == .endOfInput with
    | none => rfl
    | some stop => exact stop_ofTokens found

/-- Wherever a reader ends or fails, the cursor then stands in the tokens, and no earlier. -/
theorem run (stands : cursor.StandsAt tokens place) (reader : Reader α) :
    ∃ place', place ≤ place' ∧ (Outcome.cursor (reader.run cursor)).StandsAt tokens place' := by
  have moved := (reader.forward cursor).cursor
  refine ⟨_, ?_, .of_reaches (stands.reaches.trans moved)⟩
  have fewer := moved.left_le
  have before := stands.left
  omega

end StandsAt

end Cursor

/-- Where the reader ends with a value, it has moved the cursor forward by a token or more. -/
def Reader.MovesOn (reader : Reader α) (tokens : List Token) : Prop :=
  ∀ place cursor value behind, cursor.StandsAt tokens place →
    reader.run cursor = .ok (value, behind) →
    ∃ place', place < place' ∧ behind.StandsAt tokens place'

theorem Reader.MovesOn.of_advances {reader : Reader α}
    (advances : ∀ cursor, reader.Advances cursor) : reader.MovesOn tokens := by
  intro place cursor value behind stands outcome
  have fewer := advances cursor value behind outcome
  refine ⟨_, ?_, .of_reaches (stands.reaches.trans (reaches_of_ok outcome))⟩
  have before := stands.left
  omega

/-! ## What stands behind the end of input -/

/-- A reader that is settled by the tokens before it reads the same where those are the same. -/
theorem Reader.read_eq_of_token {reader : Reader α} {other : List Token}
    (alike : reader.Alike reader (Cursor.ofTokens tokens) (Cursor.ofTokens other))
    (left : (Cursor.ofTokens tokens).left = (Cursor.ofTokens other).left)
    (same : ∀ place, (Cursor.ofTokens tokens).token place = (Cursor.ofTokens other).token place) :
    reader.read tokens = reader.read other := by
  have outcomes := alike fun place _ => same place
  cases outcome : reader.run (Cursor.ofTokens tokens) with
  | ok result =>
      obtain ⟨value, behind⟩ := result
      rw [outcome] at outcomes
      obtain ⟨behind', outcome', _⟩ := outcomes.ok
      rw [read_of_ok outcome, read_of_ok outcome']
  | error failure =>
      obtain ⟨error, behind⟩ := failure
      rw [outcome] at outcomes
      obtain ⟨error', behind', outcome', fault, place⟩ := outcomes.error
      replace place : error.place tokens = error'.place other := place
      obtain ⟨token, inside⟩ := token_of_failed (read_of_error outcome)
      obtain ⟨token', inside'⟩ := token_of_failed (read_of_error outcome')
      have tokens' : error'.token = error.token := by
        rw [token', token, place, same]
      have lefts : error'.left = error.left := by
        unfold SyntaxError.place at place
        omega
      rw [read_of_error outcome, read_of_error outcome']
      obtain ⟨_, _, _⟩ := error
      obtain ⟨_, _, _⟩ := error'
      cases fault
      cases tokens'
      cases lefts
      rfl

section Settled

variable {stop : Token}

/-- What is read, and the first end of input, do not depend on what stands behind that. -/
theorem Cursor.ofTokens_append (ends : stop.kind = .endOfInput)
    (front behind behind' : List Token) :
    (ofTokens (front ++ stop :: behind')).rest = (ofTokens (front ++ stop :: behind)).rest ∧
      (ofTokens (front ++ stop :: behind')).stop = (ofTokens (front ++ stop :: behind)).stop := by
  have first : ∀ more, ∃ last, (front ++ stop :: more).find? (·.kind == .endOfInput) = some last ∧
      (front ++ [stop]).find? (·.kind == .endOfInput) = some last := by
    intro more
    cases found : front.find? (·.kind == .endOfInput) <;> simp [List.find?_append, found, ends]
  constructor
  · rw [rest_ofTokens, rest_ofTokens, List.takeWhile_append, List.takeWhile_append]
    simp [ends]
  · obtain ⟨last, found, same⟩ := first behind
    obtain ⟨last', found', same'⟩ := first behind'
    rw [stop_ofTokens found, stop_ofTokens found']
    exact Option.some.inj (same'.symm.trans same)

theorem Reader.read_append {front behind behind' : List Token} {reader : Reader α}
    (ends : stop.kind = .endOfInput)
    (alike : ∀ cursor other, reader.Alike reader cursor other) :
    reader.read (front ++ stop :: behind') = reader.read (front ++ stop :: behind) := by
  obtain ⟨rest, last⟩ := Cursor.ofTokens_append ends front behind behind'
  refine read_eq_of_token (alike _ _) ?_ ?_
  · rw [Cursor.left_eq, Cursor.left_eq, rest]
  · intro place
    rw [Cursor.token, Cursor.token, rest, last]

end Settled

/-! ## The parser -/

/-- How the parser goes through a list of tokens. -/
structure Bounded (tokens : List Token) : Prop where
  start : (Cursor.ofTokens tokens).StandsAt tokens 0
  /-- What is read next is the token at the place of the cursor. -/
  current : ∀ place (cursor : Cursor), cursor.StandsAt tokens place →
    cursor.current = tokens[place]?.getD (Cursor.ofTokens tokens).stop
  /-- Every cursor that can be reached stands in the tokens. -/
  reached : ∀ cursor, (Cursor.ofTokens tokens).Reaches cursor →
    ∃ place, cursor.StandsAt tokens place
  /-- No reader moves the cursor back or out of the tokens, not even one that fails. -/
  stays : ∀ {α : Type} (reader : Reader α) place cursor, cursor.StandsAt tokens place →
    ∃ place', place ≤ place' ∧ (Outcome.cursor (reader.run cursor)).StandsAt tokens place'
  modules : «module».MovesOn tokens
  declarations : declaration.MovesOn tokens
  components : component.MovesOn tokens
  /-- Statements move on at the top and, whatever reads those inside them, at every depth. -/
  statements : statement.MovesOn tokens ∧ ∀ inner, (statementWith inner).MovesOn tokens
  expressions : expression.MovesOn tokens ∧ ∀ inner, (expressionWith inner).MovesOn tokens
  /-- What stands behind an end of input has no influence. -/
  settled : ∀ front stop behind, tokens = front ++ stop :: behind → stop.kind = .endOfInput →
    ∀ behind', Program.ofTokens (front ++ stop :: behind') = Program.ofTokens tokens ∧
      Expr.ofTokens (front ++ stop :: behind') = Expr.ofTokens tokens
  /-- Every loop ends after no more rounds than tokens are left where it begins. -/
  loops : program.LoopsEnd ∧ expression.LoopsEnd
  left : ∀ place (cursor : Cursor), cursor.StandsAt tokens place →
    place + cursor.left = endPlace tokens
  few : endPlace tokens ≤ tokens.length

/-- The parser makes progress in every list of tokens, with or without an end of input, and stays
within it. -/
theorem parser_bounded (tokens : List Token) : Bounded tokens where
  start := .start tokens
  current _ _ stands := stands.current
  reached _ reaches := ⟨_, .of_reaches reaches⟩
  stays reader _ _ stands := stands.run reader
  modules := .of_advances fun _ => module_advances
  declarations := .of_advances fun _ => declaration_advances
  components := .of_advances fun _ => component_advances
  statements := ⟨.of_advances fun _ => statement_advances,
    fun inner => .of_advances fun _ => statementWith_advances inner⟩
  expressions := ⟨.of_advances fun _ => expression_advances,
    fun inner => .of_advances fun _ => expressionWith_advances inner⟩
  settled front stop behind split ends behind' := by
    rw [split]
    exact ⟨Reader.read_append ends fun _ _ => program_alike,
      Reader.read_append ends fun _ _ => expression_alike⟩
  loops := ⟨program_loopsEnd, expression_loopsEnd⟩
  left _ _ stands := stands.left
  few := endPlace_le_length tokens

end RapidLang.Parser
