import RapidLang.Proofs.Layout.CleanLayout
import RapidLang.Proofs.Syntax.Shape

/-!
# The shape of what is read

The printer writes names, strings and numbers as they stand in the tree, without escapes, and what
follows an expression in brackets or behind a dot without parentheses around the expression. It is
right only on shaped trees, and the parser makes no others from a source text.
-/

set_option autoImplicit false

namespace RapidLang

open Text Grammar RapidLang.Parser

/-! ## Parts of words -/

theorem dot_not_mem_of_mem_splitDots {chars part : List Char} (member : part ∈ splitDots chars) :
    '.' ∉ part := by
  induction chars generalizing part with
  | nil =>
      rw [splitDots, List.mem_singleton] at member
      simp [member]
  | cons c rest ih =>
      obtain ⟨first, others, split⟩ := List.exists_cons_of_ne_nil (splitDots_ne_nil rest)
      by_cases dot : c = '.'
      · rw [splitDots, if_pos dot] at member
        obtain rfl | behind := List.mem_cons.mp member
        · exact List.not_mem_nil
        · exact ih behind
      · rw [splitDots, if_neg dot, split] at member
        rw [split] at ih
        obtain rfl | behind := List.mem_cons.mp member
        · exact List.not_mem_cons_of_ne_of_not_mem (Ne.symm dot) (ih List.mem_cons_self)
        · exact ih (List.mem_cons_of_mem _ behind)

theorem isPart_of_mem_nameParts {word part : String} (filled : "" ∉ nameParts word)
    (member : part ∈ nameParts word) : IsPart part := by
  constructor
  · rintro rfl
    exact filled member
  · obtain ⟨chars, split, rfl⟩ := List.mem_map.mp member
    rw [String.toList_ofList]
    exact dot_not_mem_of_mem_splitDots split

/-! ## Expressions -/

namespace Expr

theorem shaped_number {literal : Lexeme} {value : Binary64} (written : Written literal)
    (kind : literal.kind = .number) (found : Binary64.read? literal.text = some value) :
    (number value .origin).Shaped := by
  obtain ⟨c, rest, starts, digit⟩ := written.startsWithDigit kind
  obtain rfl | ⟨significand, exponent, -, rfl⟩ := Binary64.read?_cases starts digit found
  · exact .number rfl
  · exact .number rfl

/-- Components selected from a chain form a chain. -/
theorem shaped_selectAll {base : Expr} {parts : List String} (chain : base.isChain)
    (shaped : base.Shaped) (each : ∀ part ∈ parts, IsPart part) :
    (selectAll base parts).isChain ∧ (selectAll base parts).Shaped := by
  induction parts generalizing base with
  | nil => exact ⟨chain, shaped⟩
  | cons part parts ih =>
      obtain ⟨here, behind⟩ := List.forall_mem_cons.mp each
      exact ih rfl (.component chain shaped here) behind

end Expr

section Phrases

open RapidLang.Expr

mutual

theorem Grammar.Operation.shaped : ∀ {level : Nat} {lexemes : List Lexeme} {tree : Expr}
    {tail : Tail}, Operation level lexemes tree tail → (∀ lexeme ∈ lexemes, Written lexeme) →
    tree.Shaped
  | _, _, _, _, .operand operand, written => operand.shaped written
  | _, _, _, _, .binary _ _ left right, written =>
      .binary (left.shaped (all_of_subset written (by simp +contextual)))
        (right.shaped (all_of_subset written (by simp +contextual)))

theorem Grammar.Unary.shaped : ∀ {lexemes : List Lexeme} {tree : Expr} {tail : Tail},
    Unary lexemes tree tail → (∀ lexeme ∈ lexemes, Written lexeme) → tree.Shaped
  | _, _, _, .operand primary, written => primary.shaped written
  | _, _, _, .operator _ operand, written =>
      .unary (operand.shaped (all_of_subset written (by simp +contextual)))

theorem Grammar.Primary.shaped : ∀ {lexemes : List Lexeme} {tree : Expr} {tail : Tail},
    Primary lexemes tree tail → (∀ lexeme ∈ lexemes, Written lexeme) → tree.Shaped
  | _, _, _, .number kind found, written => shaped_number (written _ (by simp)) kind found
  | _, _, _, .true _, _ | _, _, _, .false _, _ => .truth
  | _, _, _, .string kind, written => by
      obtain ⟨quote, newline⟩ := (written _ (by simp)).plainString kind
      exact .string quote newline
  | _, _, _, .parenthesized _ operation _, written =>
      operation.shaped (all_of_subset written (by simp +contextual))
  | _, _, _, .chain chain, written => (chain.shaped written).2

/-- A chain is nothing else in the tree either, so calls, indices and components may follow it. -/
theorem Grammar.Chain.shaped : ∀ {lexemes : List Lexeme} {tree : Expr}, Chain lexemes tree →
    (∀ lexeme ∈ lexemes, Written lexeme) → tree.isChain ∧ tree.Shaped
  | _, _, .name _ parts filled, _ => by
      have each : ∀ part ∈ nameParts _, IsPart part :=
        fun _ member => isPart_of_mem_nameParts filled member
      rw [parts, List.forall_mem_cons] at each
      exact shaped_selectAll rfl (.variable each.1) each.2
  | _, _, .call _ _ _ list _, written =>
      ⟨rfl, .call (list.shaped (all_of_subset written (by simp +contextual)))⟩
  | _, _, .index base _ position _, written => by
      obtain ⟨chain, shaped⟩ := base.shaped (all_of_subset written (by simp +contextual))
      exact ⟨rfl, .index chain shaped
        (position.shaped (all_of_subset written (by simp +contextual)))⟩
  | _, _, .component base _ _ filled, written => by
      obtain ⟨chain, shaped⟩ := base.shaped (all_of_subset written (by simp +contextual))
      exact shaped_selectAll chain shaped fun _ member => isPart_of_mem_nameParts filled member

theorem Grammar.Arguments.shaped : ∀ {lexemes : List Lexeme} {values : List Expr},
    Arguments lexemes values → (∀ lexeme ∈ lexemes, Written lexeme) →
    ∀ value ∈ values, value.Shaped
  | _, _, .none, _ => fun _ member => absurd member List.not_mem_nil
  | _, _, .some list, written => list.shaped written

theorem Grammar.CommaList.shaped : ∀ {lexemes : List Lexeme} {values : List Expr},
    CommaList lexemes values → (∀ lexeme ∈ lexemes, Written lexeme) →
    ∀ value ∈ values, value.Shaped
  | _, _, .one operation, written => List.forall_mem_singleton.mpr (operation.shaped written)
  | _, _, .more earlier _ operation, written =>
      List.forall_mem_append.mpr
        ⟨earlier.shaped (all_of_subset written (by simp +contextual)),
          List.forall_mem_singleton.mpr
            (operation.shaped (all_of_subset written (by simp +contextual)))⟩

end

theorem Grammar.CommaList.ne_nil {lexemes : List Lexeme} {values : List Expr}
    (list : CommaList lexemes values) : values ≠ [] := by
  cases list <;> simp

/-! ## Statements -/

theorem Grammar.Initial.shaped {lexemes : List Lexeme} {value : Option Expr}
    (initial : Initial lexemes value) (written : ∀ lexeme ∈ lexemes, Written lexeme) :
    ∀ tree ∈ value, tree.Shaped := by
  cases initial with
  | none => nofun
  | some _ operation =>
      rintro _ ⟨⟩
      exact operation.shaped (all_of_subset written (by simp +contextual))

theorem Grammar.Switches.shaped {lexemes : List Lexeme} {value : Option Expr}
    (switches : Switches lexemes value) (written : ∀ lexeme ∈ lexemes, Written lexeme) :
    ∀ tree ∈ value, tree.Shaped := by
  induction switches with
  | none => nofun
  | more _ _ _ initial ih =>
      split
      · exact initial.shaped (all_of_subset written (by simp +contextual))
      · exact ih (all_of_subset written (by simp +contextual))

theorem Grammar.DataDeclaration.shaped {lexemes : List Lexeme} {item : DataItem}
    (declaration : DataDeclaration lexemes item) (written : ∀ lexeme ∈ lexemes, Written lexeme) :
    ∀ tree ∈ item.initial, tree.Shaped := by
  cases declaration with
  | mk _ _ _ value _ => exact value.shaped (all_of_subset written (by simp +contextual))

namespace Stmt

/-- What a statement without statements inside it needs. -/
theorem AllShaped.plain {statement : Stmt} (bodies : statement.bodies = [])
    (spelled : statement.IsSpelled)
    (expressions : ∀ expression ∈ statement.expressions, expression.Shaped) :
    AllShaped [statement] := by
  refine .one ⟨spelled, expressions⟩ ?_
  rw [bodies]
  exact fun _ member => absurd member List.not_mem_nil

theorem allShaped_plain {bodies : List (List Stmt)} {last : Option (List Stmt)}
    (each : ∀ body ∈ bodies, AllShaped body) (otherwise : ∀ body ∈ last, AllShaped body) :
    ∀ nested ∈ (bodies ++ last.toList).map NestedBody.plain, AllShaped nested.statements := by
  intro nested member
  obtain inside | behind := List.mem_append.mp (mem_of_mem_map_plain member)
  · exact each _ inside
  · exact otherwise _ (Option.mem_toList.mp behind)

end Stmt

open Stmt

mutual

theorem Grammar.Statement.shaped : ∀ {lexemes : List Lexeme} {tree : Stmt}, Statement lexemes tree →
    (∀ lexeme ∈ lexemes, Written lexeme) → AllShaped [tree]
  | _, _, .assign left _ right _, written => by
      have target := left.shaped (all_of_subset written (by simp +contextual))
      have value := right.shaped (all_of_subset written (by simp +contextual))
      exact .plain rfl trivial (by simp [Stmt.expressions, target, value])
  | _, _, .expression operation _, written => by
      have value := operation.shaped (all_of_subset written (by simp +contextual))
      exact .plain rfl trivial (List.forall_mem_singleton.mpr value)
  | _, _, .call _ _ _ list _, written => by
      have values := list.shaped (all_of_subset written (by simp +contextual))
      exact .plain rfl trivial (List.forall_mem_singleton.mpr (.call values))
  | _, _, .conditional list last _, written => by
      have branches := list.shaped (all_of_subset written (by simp +contextual))
      have otherwise := last.shaped (all_of_subset written (by simp +contextual))
      have conditions := List.forall_mem_map.mpr fun branch member => (branches branch member).1
      have bodies := List.forall_mem_map.mpr fun branch member => (branches branch member).2
      exact .one ⟨list.ne_nil, conditions⟩ (allShaped_plain bodies otherwise)
  | _, _, .while _ operation _ body _, written => by
      have head := operation.shaped (all_of_subset written (by simp +contextual))
      have inner := body.shaped (all_of_subset written (by simp +contextual))
      exact .one ⟨trivial, List.forall_mem_singleton.mpr head⟩ (List.forall_mem_singleton.mpr inner)
  | _, _, .for _ _ _ low _ high _ body _, written => by
      have first := low.shaped (all_of_subset written (by simp +contextual))
      have last := high.shaped (all_of_subset written (by simp +contextual))
      have inner := body.shaped (all_of_subset written (by simp +contextual))
      exact .one ⟨trivial, by simp [Stmt.expressions, first, last]⟩
        (List.forall_mem_singleton.mpr inner)
  | _, _, .returnNone _ _, _ => .plain rfl trivial fun _ member => absurd member List.not_mem_nil
  | _, _, .returnSome _ operation _, written => by
      have value := operation.shaped (all_of_subset written (by simp +contextual))
      exact .plain rfl trivial (List.forall_mem_singleton.mpr value)
  | _, _, .move _ first _ second _ third _ fourth switches _, written => by
      have target := first.shaped (all_of_subset written (by simp +contextual))
      have speed := second.shaped (all_of_subset written (by simp +contextual))
      have zone := third.shaped (all_of_subset written (by simp +contextual))
      have tool := fourth.shaped (all_of_subset written (by simp +contextual))
      have workObject := switches.shaped (all_of_subset written (by simp +contextual))
      exact .plain rfl trivial (by simpa [Stmt.expressions, target, speed, zone, tool])
  | _, _, .test _ operation selection _, written => by
      have subject := operation.shaped (all_of_subset written (by simp +contextual))
      obtain ⟨arms, default⟩ := selection.shaped (all_of_subset written (by simp +contextual))
      have values := List.forall_mem_flatMap.mpr fun arm member => (arms arm member).2.1
      have bodies := List.forall_mem_map.mpr fun arm member => (arms arm member).2.2
      exact .one ⟨fun arm member => (arms arm member).1, List.forall_mem_cons.mpr ⟨subject, values⟩⟩
        (allShaped_plain bodies default)
  | _, _, .connect _ _ _ _ _, _ | _, _, .raise _ _ _, _ =>
      .plain rfl trivial fun _ member => absurd member List.not_mem_nil
  | _, _, .data declaration, written => by
      have initial := declaration.shaped written
      exact .plain rfl trivial (by simpa [Stmt.expressions])

theorem Grammar.Body.shaped : ∀ {lexemes : List Lexeme} {trees : List Stmt}, Body lexemes trees →
    (∀ lexeme ∈ lexemes, Written lexeme) → AllShaped trees
  | _, _, .nil, _ => allShaped_nil
  | _, _, .snoc earlier statement, written =>
      (earlier.shaped (all_of_subset written (by simp +contextual))).append
        (statement.shaped (all_of_subset written (by simp +contextual)))

theorem Grammar.Guarded.shaped : ∀ {kind : TokenKind} {lexemes : List Lexeme} {branch : Branch},
    Guarded kind lexemes branch → (∀ lexeme ∈ lexemes, Written lexeme) →
    branch.condition.Shaped ∧ AllShaped branch.body
  | _, _, _, .mk _ operation _ body, written =>
      ⟨operation.shaped (all_of_subset written (by simp +contextual)),
        body.shaped (all_of_subset written (by simp +contextual))⟩

theorem Grammar.Branches.shaped : ∀ {lexemes : List Lexeme} {branches : List Branch},
    Branches lexemes branches → (∀ lexeme ∈ lexemes, Written lexeme) →
    ∀ branch ∈ branches, branch.condition.Shaped ∧ AllShaped branch.body
  | _, _, .first guarded, written => List.forall_mem_singleton.mpr (guarded.shaped written)
  | _, _, .more earlier guarded, written =>
      List.forall_mem_append.mpr
        ⟨earlier.shaped (all_of_subset written (by simp +contextual)),
          List.forall_mem_singleton.mpr
            (guarded.shaped (all_of_subset written (by simp +contextual)))⟩

theorem Grammar.Otherwise.shaped : ∀ {lexemes : List Lexeme} {body : Option (List Stmt)},
    Otherwise lexemes body → (∀ lexeme ∈ lexemes, Written lexeme) →
    ∀ statements ∈ body, AllShaped statements
  | _, _, .none, _ => nofun
  | _, _, .some _ body, written => by
      rintro _ ⟨⟩
      exact body.shaped (all_of_subset written (by simp +contextual))

theorem Grammar.Selection.shaped : ∀ {lexemes : List Lexeme} {arms : List Arm}
    {default : Option (List Stmt)}, Selection lexemes arms default →
    (∀ lexeme ∈ lexemes, Written lexeme) →
    (∀ arm ∈ arms, arm.values ≠ [] ∧ (∀ value ∈ arm.values, value.Shaped) ∧ AllShaped arm.body) ∧
      ∀ statements ∈ default, AllShaped statements
  | _, _, _, .none, _ => ⟨fun _ member => absurd member List.not_mem_nil, nofun⟩
  | _, _, _, .arm earlier _ list _ body, written => by
      obtain ⟨arms, default⟩ := earlier.shaped (all_of_subset written (by simp +contextual))
      have values := list.shaped (all_of_subset written (by simp +contextual))
      have inner := body.shaped (all_of_subset written (by simp +contextual))
      exact ⟨List.forall_mem_append.mpr
        ⟨arms, List.forall_mem_singleton.mpr ⟨list.ne_nil, values, inner⟩⟩, default⟩
  | _, _, _, .default earlier _ _ body, written => by
      obtain ⟨arms, -⟩ := earlier.shaped (all_of_subset written (by simp +contextual))
      refine ⟨arms, ?_⟩
      rintro _ ⟨⟩
      exact body.shaped (all_of_subset written (by simp +contextual))

end

/-! ## Programs -/

theorem Grammar.ParameterPhrase.shaped {lexemes : List Lexeme} {parameter : Parameter}
    (phrase : ParameterPhrase lexemes parameter) : parameter.Shaped := by
  cases phrase with
  | @input type _ kind other _ =>
      intro _
      simpa [isInOut, kind] using other
  | inOut | var | pers =>
      intro without
      cases without

theorem Grammar.Parameters.shaped {lexemes : List Lexeme} {parameters : List Parameter}
    (phrase : Parameters lexemes parameters) : ∀ parameter ∈ parameters, parameter.Shaped := by
  cases phrase with
  | missing => exact fun _ member => absurd member List.not_mem_nil
  | none => exact fun _ member => absurd member List.not_mem_nil
  | some _ list _ => exact list.forall fun _ _ _ phrase => phrase.shaped

theorem Grammar.Declaration.shaped {lexemes : List Lexeme} {tree : Decl}
    (declaration : Declaration lexemes tree) (written : ∀ lexeme ∈ lexemes, Written lexeme) :
    tree.Shaped := by
  have unset : ∀ value : Expr, value ∈ none → value.Shaped := nofun
  have without : ∀ parameter : Parameter, parameter ∈ [] → parameter.Shaped :=
    fun _ member => absurd member List.not_mem_nil
  cases declaration with
  | data data => exact ⟨data.shaped written, without, allShaped_nil⟩
  | proc _ _ rest | func _ _ _ rest =>
      cases rest with
      | mk list body _ _ =>
          exact ⟨unset, list.shaped, body.shaped (all_of_subset written (by simp +contextual))⟩
  | trap _ _ body _ =>
      exact ⟨unset, without, body.shaped (all_of_subset written (by simp +contextual))⟩
  | recordList | recordBlock => exact ⟨unset, without, allShaped_nil⟩

theorem Grammar.ProgramPhrase.shaped {lexemes : List Lexeme} {tree : Program}
    (phrase : ProgramPhrase lexemes tree) (written : ∀ lexeme ∈ lexemes, Written lexeme) :
    tree.Shaped := by
  cases phrase with
  | mk list =>
      refine list.forall fun part content within phrase => ?_
      cases phrase with
      | mk _ _ declarations _ =>
          refine declarations.forall fun part' declaration within' phrase => phrase.shaped ?_
          exact all_of_subset written fun lexeme member =>
            within lexeme (by simp [within' lexeme member])

end Phrases

/-- Every program that the parser makes of a source text is shaped. -/
theorem Parser.shaped_of_ok {source : String} {program : Program}
    (accepted : Program.ofTokens (Lexed.ofString source).tokens = .ok program) :
    program.Shaped :=
  .of_erase ((phrase_of_ofTokens accepted).shaped (lexemesOf_tokens source).2)

/-- A program with components, indices and calls behind each other, in a selection. -/
def chainsInSelection : String :=
  "MODULE M PERS num n := 1.5; PROC p(INOUT pose q, num k) TEST k CASE 1, n + 2: " ++
    "IF q.trans.x > f(k)[1].to THEN w \"s\", -k; ENDIF ENDTEST ENDPROC ENDMODULE"

theorem Parser.shaped_of_ok_of_chains :
    ∃ program, Program.ofTokens (Lexed.ofString chainsInSelection).tokens = .ok program ∧
      program.Shaped := by
  obtain ⟨program, accepted⟩ := Option.isSome_iff_exists.mp
    (show (Program.ofTokens (Lexed.ofString chainsInSelection).tokens).toOption.isSome by
      decide +kernel)
  have accepted := Except.ok_of_toOption accepted
  exact ⟨program, accepted, Parser.shaped_of_ok accepted⟩

end RapidLang
