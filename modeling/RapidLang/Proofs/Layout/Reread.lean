import RapidLang.Proofs.Layout.Format
import RapidLang.Proofs.Parser.Nesting.Source

/-!
# A single expression read back

The printed text of an expression is read back as this expression, if all its numbers are finite.
These are the numbers of its tree; as the tree holds every number that was read, no number of the
text was out of range either.
-/

set_option autoImplicit false

namespace RapidLang

open Text Grammar RapidLang.Parser

/-! ## Finite trees -/

mutual

/-- Are all numbers in the expression finite? -/
def Expr.isFinite : Expr → Bool
  | .number value _ => value.isFinite
  | .truth _ _ | .string _ _ | .variable _ => true
  | .index base position _ => base.isFinite && position.isFinite
  | .component base _ _ => base.isFinite
  | .call _ arguments _ => Expr.areFinite arguments
  | .unary _ operand _ => operand.isFinite
  | .binary _ left right _ => left.isFinite && right.isFinite

/-- Are all numbers in the expressions finite? -/
def Expr.areFinite : List Expr → Bool
  | [] => true
  | first :: rest => first.isFinite && Expr.areFinite rest

end

namespace Expr

mutual

theorem isFinite_erase : ∀ tree : Expr, tree.erase.isFinite = tree.isFinite
  | .number _ _ | .truth _ _ | .string _ _ | .variable _ => rfl
  | .index base position _ => by
      simp only [Expr.erase, isFinite, isFinite_erase base, isFinite_erase position]
  | .component base _ _ => by
      simp only [Expr.erase, isFinite, isFinite_erase base]
  | .call _ arguments _ => by
      simp only [Expr.erase, isFinite, areFinite_eraseAll arguments]
  | .unary _ operand _ => by
      simp only [Expr.erase, isFinite, isFinite_erase operand]
  | .binary _ left right _ => by
      simp only [Expr.erase, isFinite, isFinite_erase left, isFinite_erase right]

theorem areFinite_eraseAll : ∀ trees : List Expr, areFinite (eraseAll trees) = areFinite trees
  | [] => rfl
  | first :: rest => by
      simp only [eraseAll, areFinite, isFinite_erase first, areFinite_eraseAll rest]

end

theorem areFinite_snoc (values : List Expr) (last : Expr) :
    areFinite (values ++ [last]) = (areFinite values && last.isFinite) := by
  induction values with
  | nil => simp [areFinite]
  | cons first rest ih => simp [areFinite, ih, Bool.and_assoc]

theorem isFinite_selectAll (base : Expr) (parts : List String) :
    (selectAll base parts).isFinite = base.isFinite := by
  induction parts generalizing base with
  | nil => rfl
  | cons part parts ih => exact ih (.component base ⟨part, .origin⟩ .origin)

end Expr

/-! ## Numbers in range -/

theorem inRange_nil : InRange [] :=
  fun _ member => absurd member List.not_mem_nil

theorem inRange_append {front rest : List Lexeme} :
    InRange (front ++ rest) ↔ InRange front ∧ InRange rest :=
  List.forall_mem_append

theorem inRange_cons {first : Lexeme} {rest : List Lexeme} (other : first.kind ≠ .number) :
    InRange (first :: rest) ↔ InRange rest := by
  rw [InRange, List.forall_mem_cons]
  exact and_iff_right fun kind => absurd kind other

namespace Grammar

mutual

/-- What a finite expression was read from has no number out of range. -/
theorem Operation.inRange : ∀ {level : Nat} {lexemes : List Lexeme} {tree : Expr} {tail : Tail},
    Operation level lexemes tree tail → tree.isFinite → InRange lexemes
  | _, _, _, _, .operand operand, finite => operand.inRange finite
  | _, _, _, _, .binary selected _ left right, finite => by
      obtain ⟨finite, finite'⟩ := Bool.and_eq_true_iff.mp finite
      refine inRange_append.mpr ⟨left.inRange finite, (inRange_cons ?_).mpr (right.inRange finite')⟩
      intro number
      rw [number] at selected
      cases selected

theorem Unary.inRange : ∀ {lexemes : List Lexeme} {tree : Expr} {tail : Tail},
    Unary lexemes tree tail → tree.isFinite → InRange lexemes
  | _, _, _, .operand primary, finite => primary.inRange finite
  | _, _, _, .operator selected operand, finite => by
      refine (inRange_cons ?_).mpr (operand.inRange finite)
      intro number
      rw [number] at selected
      cases selected

theorem Primary.inRange : ∀ {lexemes : List Lexeme} {tree : Expr} {tail : Tail},
    Primary lexemes tree tail → tree.isFinite → InRange lexemes
  | _, _, _, .number _ found, finite => by
      intro lexeme member _
      rw [List.mem_singleton.mp member, found]
      exact finite
  | _, _, _, .true kind, _ | _, _, _, .false kind, _ | _, _, _, .string kind, _ =>
      (inRange_cons (by rw [kind]; decide)).mpr inRange_nil
  | _, _, _, .parenthesized opening operation close, finite => by
      refine (inRange_cons (by rw [opening]; decide)).mpr ?_
      refine inRange_append.mpr ⟨operation.inRange finite, ?_⟩
      exact (inRange_cons (by rw [close]; decide)).mpr inRange_nil
  | _, _, _, .chain chain, finite => chain.inRange finite

theorem Chain.inRange : ∀ {lexemes : List Lexeme} {tree : Expr}, Chain lexemes tree →
    tree.isFinite → InRange lexemes
  | _, _, .name kind _ _, _ => (inRange_cons (by rw [kind]; decide)).mpr inRange_nil
  | _, _, .call word _ opening list close, finite => by
      refine (inRange_cons (by rw [word]; decide)).mpr ?_
      refine (inRange_cons (by rw [opening]; decide)).mpr ?_
      refine inRange_append.mpr ⟨list.inRange finite, ?_⟩
      exact (inRange_cons (by rw [close]; decide)).mpr inRange_nil
  | _, _, .index base opening position close, finite => by
      obtain ⟨finite, finite'⟩ := Bool.and_eq_true_iff.mp finite
      refine inRange_append.mpr ⟨base.inRange finite, ?_⟩
      refine (inRange_cons (by rw [opening]; decide)).mpr ?_
      refine inRange_append.mpr ⟨position.inRange finite', ?_⟩
      exact (inRange_cons (by rw [close]; decide)).mpr inRange_nil
  | _, _, .component base dot word _, finite => by
      rw [Expr.isFinite_selectAll] at finite
      refine inRange_append.mpr ⟨base.inRange finite, ?_⟩
      refine (inRange_cons (by rw [dot]; decide)).mpr ?_
      refine (inRange_cons fun number => ?_).mpr inRange_nil
      rw [number] at word
      exact absurd word (by decide)

theorem Arguments.inRange : ∀ {lexemes : List Lexeme} {values : List Expr},
    Arguments lexemes values → Expr.areFinite values → InRange lexemes
  | _, _, .none, _ => inRange_nil
  | _, _, .some list, finite => list.inRange finite

theorem CommaList.inRange : ∀ {lexemes : List Lexeme} {values : List Expr},
    CommaList lexemes values → Expr.areFinite values → InRange lexemes
  | _, _, .one operation, finite => operation.inRange (Bool.and_eq_true_iff.mp finite).1
  | _, _, .more list comma operation, finite => by
      obtain ⟨finite, finite'⟩ := Bool.and_eq_true_iff.mp
        ((Expr.areFinite_snoc _ _).symm.trans finite)
      refine inRange_append.mpr ⟨list.inRange finite, ?_⟩
      exact (inRange_cons (by rw [comma]; decide)).mpr (operation.inRange finite')

end

end Grammar

/-! ## The text of an expression -/

namespace Parser

/-- The tokens that the reader takes from a text form the expression that it makes of them. -/
theorem expression_taken {source : String} {value : Expr} {behind : Cursor}
    (accepted : expression.run (.ofTokens (Lexed.ofString source).tokens) = .ok (value, behind)) :
    ∃ taken tail, (Lexed.ofString source).tokens = taken ++ (behind.rest ++ [behind.stop]) ∧
      Expression (taken.map Token.lexeme) value.erase tail ∧
      ∀ lexeme ∈ taken.map Token.lexeme, Written lexeme := by
  obtain ⟨⟨taken, passed⟩, stop, _⟩ := Reader.reaches_of_ok accepted
  obtain ⟨lexemes, split, tail, operation, _⟩ := (expression_meets _).ok accepted
  have read : taken.map Token.lexeme = lexemes := by
    rw [Cursor.lexemes, ← passed, List.map_append] at split
    exact List.append_cancel_right split
  obtain ⟨rest, stop'⟩ := ofTokens_ofChars source.toList
  refine ⟨taken, tail, ?_, read ▸ operation, fun lexeme member => ?_⟩
  · rw [← List.append_assoc, passed, stop]
    show _ = (Cursor.ofTokens (Lexed.ofChars source.toList).tokens).rest ++
      [(Cursor.ofTokens (Lexed.ofChars source.toList).tokens).stop]
    rw [rest, stop']
    rfl
  · refine (lexemesOf_tokens source).2 lexeme ?_
    rw [← Cursor.lexemes_ofTokens, split, ← read]
    exact List.mem_append_left _ member

/-- The reader takes the printed text of an expression with finite numbers to its end, and makes
the same expression of it up to spans. The lexer reports nothing about it, whatever it reported
about the text that the expression was read from. -/
theorem expression_reread (source : String) (value : Expr) (behind : Cursor)
    (accepted : expression.run (.ofTokens (Lexed.ofString source).tokens) = .ok (value, behind))
    (finite : value.isFinite) :
    (Lexed.ofString value.render).diagnostics = [] ∧
      ∃ read last,
        expression.run (.ofTokens (Lexed.ofString value.render).tokens) = .ok (read, last) ∧
          last.current.kind = .endOfInput ∧ erase read = erase value := by
  obtain ⟨taken, tail, _, operation, written⟩ := expression_taken accepted
  have inRange := operation.inRange (value.isFinite_erase.trans finite)
  obtain ⟨read, printed⟩ := operation.printed (fit_of_inRange written fun _ : True => inRange)
  obtain ⟨lexemes, spells, phrase⟩ := printed.expression
  rw [printed.rereads.same trivial] at phrase
  rw [value.render_erase] at spells
  obtain ⟨clean, lexed⟩ := spells.lexes.lexed
  have split : (Cursor.ofTokens (Lexed.ofString value.render).tokens).lexemes = lexemes ++ [] := by
    rw [Cursor.lexemes_ofTokens, lexed, List.append_nil]
  obtain ⟨other, last, outcome, same, left⟩ :=
    expression_takes [] phrase split (.of_plain rfl rfl)
  refine ⟨clean, other, last, outcome, ?_, same⟩
  have ended := Cursor.kind_eq_nextKind last
  rwa [left] at ended

/-- An operand with a reserved word as a component, which it has only behind a dot of its own. -/
def selectedFromCall : String :=
  "NOT ((f(1.50,(\"s\")) . trap . x)>= -a) ;"

/-- The operand as it is printed. -/
def printedSelectedFromCall : String :=
  "NOT (f(1.5, \"s\").trap.x >= -a)"

theorem expression_reread_of_selectedFromCall :
    ∃ value behind read last,
      expression.run (.ofTokens (Lexed.ofString selectedFromCall).tokens) = .ok (value, behind) ∧
      value.isFinite ∧ value.render = printedSelectedFromCall ∧
      expression.run (.ofTokens (Lexed.ofString printedSelectedFromCall).tokens) =
        .ok (read, last) ∧ erase read = erase value := by
  have found : (expression.run (.ofTokens (Lexed.ofString selectedFromCall).tokens)).toOption.map
      (fun read => (read.1.render, read.1.isFinite)) = some (printedSelectedFromCall, true) := by
    decide +kernel
  obtain ⟨⟨value, behind⟩, outcome, facts⟩ := Option.map_eq_some_iff.mp found
  obtain ⟨render, finite⟩ := Prod.mk.inj facts
  have accepted := Except.ok_of_toOption outcome
  obtain ⟨_, read, last, outcome', _, same⟩ :=
    expression_reread selectedFromCall value behind accepted finite
  rw [render] at outcome'
  exact ⟨value, behind, read, last, accepted, finite, render, outcome', same⟩

end Parser

end RapidLang
