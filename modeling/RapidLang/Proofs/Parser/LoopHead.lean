import RapidLang.Proofs.Grammar.Juxtaposition
import RapidLang.Proofs.Parser.Completeness.Expression

/-!
# Expressions that run on

The reader of expressions takes as much as it can. Behind an expression that does not end there, it
takes the next expression as well or fails; in no case does it stop between the two.
-/

set_option autoImplicit false

namespace RapidLang.Parser

open Grammar Reader

variable {cursor behind : Cursor} {head next rest : List Lexeme} {mark : Lexeme}
  {first second value : Expr} {tail last : Tail}

namespace Cursor

theorem inside_lexemes (cursor : Cursor) : ∀ lexeme ∈ cursor.lexemes, lexeme.kind ≠ .endOfInput := by
  intro lexeme member
  obtain ⟨token, inside, rfl⟩ := List.mem_map.mp member
  exact cursor.rest_kind token inside

theorem exists_of_inside {lexemes : List Lexeme}
    (inside : ∀ lexeme ∈ lexemes, lexeme.kind ≠ .endOfInput) :
    ∃ cursor : Cursor, cursor.lexemes = lexemes := by
  refine ⟨{ rest := lexemes.map fun lexeme => ⟨lexeme.kind, lexeme.text, .origin⟩
            stop := .endAt .start
            beyond := []
            reported := []
            rest_kind := by simpa using inside
            stop_kind := rfl }, ?_⟩
  rw [Cursor.lexemes, List.map_map]
  exact List.map_id' lexemes

end Cursor

/-- Where no expression begins the reader of expressions fails. -/
theorem expression_fails (apart : startsExpression cursor.kind = false) :
    ∃ failure, expression.run cursor = .error failure := by
  cases outcome : expression.run cursor with
  | error failure => exact ⟨failure, rfl⟩
  | ok result =>
      obtain ⟨read, split, tail, operation, _⟩ := (expression_meets cursor).ok outcome
      rw [Cursor.kind_eq_nextKind, split, nextKind_append_of_starts operation.starts,
        operation.starts] at apart
      cases apart

/-- An expression that ends before what stands behind it is no part of a longer one. -/
theorem eq_nil_of_stops (inside : ∀ lexeme ∈ head ++ next, lexeme.kind ≠ .endOfInput)
    (whole : Expression (head ++ next) second last) (part : Expression head first tail)
    (stops : Stops 1 tail (nextKind next)) : next = [] := by
  obtain ⟨cursor, split⟩ := Cursor.exists_of_inside inside
  have all := expression_takes [] whole (split.trans (List.append_nil _).symm)
    (.of_plain rfl rfl)
  exact (expression_takes next part split stops).unique all

/-- A parenthesis behind an expression that ends in a chain does not end a part of it. -/
theorem not_stops_within (inside : ∀ lexeme ∈ head ++ next, lexeme.kind ≠ .endOfInput)
    (whole : Expression (head ++ next) second .chain) (part : Expression head first tail)
    (opens : nextKind rest = .leftParen) : ¬Stops 1 tail (nextKind (next ++ rest)) := by
  intro stops
  -- An index in the place of the parenthesis would belong to the whole expression.
  obtain ⟨_, indexed⟩ := whole.extend_index (Lexeme.kind_ofKind .leftBracket) (Operation.sample 1)
    (Lexeme.kind_ofKind .rightBracket)
  rw [List.append_assoc] at indexed
  have inside' : ∀ lexeme ∈ head ++ (next ++ Lexeme.ofKind .leftBracket ::
      ([Lexeme.ofKind .identifier] ++ [Lexeme.ofKind .rightBracket])), lexeme.kind ≠ .endOfInput := by
    rw [← List.append_assoc]
    exact List.forall_mem_append.mpr ⟨inside, by simp [Lexeme.ofKind]⟩
  refine absurd (eq_nil_of_stops inside' indexed part ?_) (by simp)
  cases next with
  | nil =>
      rw [List.nil_append, opens] at stops
      exact ⟨fun _ found => (nomatch found), fun chained => absurd (stops.2 chained) (by decide)⟩
  | cons lexeme next => exact stops

/-- Behind an expression that ends in a chain, but in no single word, the reader does not stop
before a parenthesis. -/
theorem not_ok_of_closed (before : Expression head first .chain)
    (closed : Place.scan .operand head = some .closed) (opens : nextKind rest = .leftParen)
    (split : cursor.lexemes = head ++ rest) : expression.run cursor ≠ .ok (value, behind) := by
  intro outcome
  obtain ⟨read, split', tail, operation, stops⟩ := (expression_meets cursor).ok outcome
  rw [Cursor.kind_eq_nextKind] at stops
  have inside : ∀ lexeme ∈ head, lexeme.kind ≠ .endOfInput := fun lexeme member =>
    cursor.inside_lexemes lexeme (split ▸ List.mem_append_left rest member)
  obtain ⟨more, rfl, same⟩ | ⟨more, rfl, same⟩ :=
    List.append_eq_append_iff.mp (split'.symm.trans split)
  · rw [same] at stops
    exact not_stops_within inside before operation opens stops
  · cases more with
    | nil =>
        rw [List.append_nil] at operation
        rw [List.nil_append] at same
        have inside' : ∀ lexeme ∈ head ++ [], lexeme.kind ≠ .endOfInput := by simpa using inside
        refine not_stops_within inside' (by simpa using before) operation opens ?_
        rwa [List.nil_append, same]
    | cons lexeme more =>
        rw [same] at opens
        exact operation.not_prefix closed opens

/-- Where an expression does not end before the next one, the reader leaves nothing of either. -/
theorem expression_overruns (before : Expression head first tail)
    (after : Expression next second last) (runs : ¬Stops 1 tail (nextKind next))
    (plain : IsPlain mark.kind) (split : cursor.lexemes = head ++ (next ++ mark :: rest))
    (outcome : expression.run cursor = .ok (value, behind)) : behind.lexemes = mark :: rest := by
  have both : ∀ {whole : Expr} {last : Tail}, Expression (head ++ next) whole last →
      behind.lexemes = mark :: rest := fun operation =>
    ((expression_takes (mark :: rest) operation (by simpa using split) plain.stops).right outcome).2
  by_cases signed : ∃ operator, binaryOperator? (nextKind next) = some operator
  · obtain ⟨operator, selected⟩ := signed
    obtain ⟨_, _, joined⟩ := before.absorb_sign after selected
    exact both joined
  · obtain ⟨rfl, suffix⟩ : tail = .chain ∧ startsSuffix (nextKind next) = true := by
      by_contra ends
      refine runs ⟨fun operator found => absurd ⟨operator, found⟩ signed, fun chained => ?_⟩
      by_contra suffix
      exact ends ⟨chained, by simpa using suffix⟩
    have opens : nextKind next = .leftParen := by
      have starts := after.starts
      generalize nextKind next = kind at starts suffix
      cases kind <;> first | rfl | (exfalso; revert starts; decide) | cases suffix
    obtain ⟨place, scans, rfl | rfl⟩ := before.scan
    · obtain ⟨_, _, joined⟩ := before.absorb_call scans after opens
      exact both joined
    · refine absurd outcome (not_ok_of_closed before scans ?_ split)
      rw [nextKind_append_of_starts after.starts, opens]

end RapidLang.Parser
