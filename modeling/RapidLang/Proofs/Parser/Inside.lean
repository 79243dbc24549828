import Mathlib.Data.List.TakeWhile
import RapidLang.Proofs.Parser.Acceptance

/-!
# The end of input is in no phrase

Every lexeme of a phrase is of some other kind than the end of input. Tokens with the lexemes of a
program are therefore read to their end.
-/

set_option autoImplicit false

namespace RapidLang.Grammar

open RapidLang.Parser

/-- None of the lexemes is the end of input. -/
def Inside (lexemes : List Lexeme) : Prop :=
  ∀ lexeme ∈ lexemes, lexeme.kind ≠ .endOfInput

namespace Inside

variable {first : Lexeme} {lexemes front rest : List Lexeme}

theorem nil : Inside [] :=
  fun _ member => nomatch member

theorem cons (here : first.kind ≠ .endOfInput) (behind : Inside lexemes) :
    Inside (first :: lexemes) :=
  List.forall_mem_cons.mpr ⟨here, behind⟩

theorem append (before : Inside front) (behind : Inside rest) : Inside (front ++ rest) :=
  List.forall_mem_append.mpr ⟨before, behind⟩

theorem one (here : first.kind ≠ .endOfInput) : Inside [first] :=
  cons here nil

end Inside

theorem ne_of_kind {lexeme : Lexeme} {kind : TokenKind} (same : lexeme.kind = kind)
    (other : kind != .endOfInput) : lexeme.kind ≠ .endOfInput :=
  same ▸ bne_iff_ne.mp other

mutual

theorem Operation.inside : ∀ {level : Nat} {lexemes : List Lexeme} {tree : Expr} {tail : Tail},
    Operation level lexemes tree tail → Inside lexemes
  | _, _, _, _, .operand unary => unary.inside
  | _, _, _, _, .binary selected _ left right => by
      refine left.inside.append (.cons ?_ right.inside)
      intro finished
      rw [finished] at selected
      cases selected

theorem Unary.inside : ∀ {lexemes : List Lexeme} {tree : Expr} {tail : Tail},
    Unary lexemes tree tail → Inside lexemes
  | _, _, _, .operand primary => primary.inside
  | _, _, _, .operator selected unary => by
      refine .cons ?_ unary.inside
      intro finished
      rw [finished] at selected
      cases selected

theorem Primary.inside : ∀ {lexemes : List Lexeme} {tree : Expr} {tail : Tail},
    Primary lexemes tree tail → Inside lexemes
  | _, _, _, .number kind _ | _, _, _, .true kind | _, _, _, .false kind | _, _, _, .string kind =>
      .one (ne_of_kind kind rfl)
  | _, _, _, .parenthesized kind operation kind' =>
      .cons (ne_of_kind kind rfl) (operation.inside.append (.one (ne_of_kind kind' rfl)))
  | _, _, _, .chain chain => chain.inside

theorem Chain.inside : ∀ {lexemes : List Lexeme} {tree : Expr}, Chain lexemes tree → Inside lexemes
  | _, _, .name kind _ _ => .one (ne_of_kind kind rfl)
  | _, _, .call kind _ kind' list kind'' =>
      .cons (ne_of_kind kind rfl) (.cons (ne_of_kind kind' rfl)
        (list.inside.append (.one (ne_of_kind kind'' rfl))))
  | _, _, .index base kind operation kind' =>
      base.inside.append (.cons (ne_of_kind kind rfl)
        (operation.inside.append (.one (ne_of_kind kind' rfl))))
  | _, _, .component base kind kind' _ => by
      refine base.inside.append (.cons (ne_of_kind kind rfl) (.one ?_))
      intro finished
      rw [finished] at kind'
      revert kind'
      decide

theorem Arguments.inside : ∀ {lexemes : List Lexeme} {values : List Expr},
    Arguments lexemes values → Inside lexemes
  | _, _, .none => .nil
  | _, _, .some list => list.inside

theorem CommaList.inside : ∀ {lexemes : List Lexeme} {values : List Expr},
    CommaList lexemes values → Inside lexemes
  | _, _, .one operation => operation.inside
  | _, _, .more list kind operation =>
      list.inside.append (.cons (ne_of_kind kind rfl) operation.inside)

end

theorem Initial.inside {lexemes : List Lexeme} {value : Option Expr}
    (initial : Initial lexemes value) : Inside lexemes := by
  cases initial with
  | none => exact .nil
  | some kind operation => exact .cons (ne_of_kind kind rfl) operation.inside

theorem ne_of_storage {lexeme : Lexeme} {storage : Storage}
    (named : storage? lexeme.kind = some storage) : lexeme.kind ≠ .endOfInput := by
  intro finished
  rw [finished] at named
  cases named

theorem DataDeclaration.inside {lexemes : List Lexeme} {item : DataItem}
    (declaration : DataDeclaration lexemes item) : Inside lexemes := by
  cases declaration with
  | mk opening typed named initial kind =>
      exact .cons (ne_of_storage opening) (.cons (ne_of_kind typed rfl) (.cons (ne_of_kind named rfl)
        (initial.inside.append (.one (ne_of_kind kind rfl)))))

theorem Switches.inside {lexemes : List Lexeme} {value : Option Expr}
    (switches : Switches lexemes value) : Inside lexemes := by
  induction switches with
  | none => exact .nil
  | more _ kind named initial ih =>
      exact ih.append (.cons (ne_of_kind kind rfl) (.cons (ne_of_kind named rfl) initial.inside))

mutual

theorem Statement.inside : ∀ {lexemes : List Lexeme} {tree : Stmt},
    Statement lexemes tree → Inside lexemes
  | _, _, .assign target mark value kind =>
      target.inside.append (.cons (ne_of_kind mark rfl) (value.inside.append (.one (ne_of_kind kind rfl))))
  | _, _, .expression operation kind => operation.inside.append (.one (ne_of_kind kind rfl))
  | _, _, .call operation _ _ list kind =>
      operation.inside.append (list.inside.append (.one (ne_of_kind kind rfl)))
  | _, _, .conditional list last kind =>
      list.inside.append (last.inside.append (.one (ne_of_kind kind rfl)))
  | _, _, .while opening operation _ list kind =>
      .cons (ne_of_kind opening rfl)
        (operation.inside.append (list.inside.append (.one (ne_of_kind kind rfl))))
  | _, _, .for opening named from' lower to' upper _ list kind =>
      .cons (ne_of_kind opening rfl) (.cons (ne_of_kind named rfl) (.cons (ne_of_kind from' rfl)
        (lower.inside.append (.cons (ne_of_kind to' rfl)
          (upper.inside.append (list.inside.append (.one (ne_of_kind kind rfl))))))))
  | _, _, .returnNone opening kind => .cons (ne_of_kind opening rfl) (.one (ne_of_kind kind rfl))
  | _, _, .returnSome opening operation kind =>
      .cons (ne_of_kind opening rfl) (operation.inside.append (.one (ne_of_kind kind rfl)))
  | _, _, .move opening first kind₁ second kind₂ third kind₃ fourth options kind₄ => by
      refine .cons ?_ (first.inside.append (.cons (ne_of_kind kind₁ rfl)
        (second.inside.append (.cons (ne_of_kind kind₂ rfl) (third.inside.append
          (.cons (ne_of_kind kind₃ rfl) (fourth.inside.append
            (options.inside.append (.one (ne_of_kind kind₄ rfl))))))))))
      intro finished
      rw [finished] at opening
      cases opening
  | _, _, .test opening operation selection kind =>
      .cons (ne_of_kind opening rfl)
        (operation.inside.append (selection.inside.append (.one (ne_of_kind kind rfl))))
  | _, _, .connect opening trap link error kind =>
      .cons (ne_of_kind opening rfl) (.cons (ne_of_kind trap rfl) (.cons (ne_of_kind link rfl)
        (.cons (ne_of_kind error rfl) (.one (ne_of_kind kind rfl)))))
  | _, _, .raise opening error kind =>
      .cons (ne_of_kind opening rfl) (.cons (ne_of_kind error rfl) (.one (ne_of_kind kind rfl)))
  | _, _, .data declaration => declaration.inside

theorem Body.inside : ∀ {lexemes : List Lexeme} {statements : List Stmt},
    Body lexemes statements → Inside lexemes
  | _, _, .nil => .nil
  | _, _, .snoc earlier statement => earlier.inside.append statement.inside

theorem Guarded.inside : ∀ {kind : TokenKind} {lexemes : List Lexeme} {branch : Branch},
    Guarded kind lexemes branch → kind ≠ .endOfInput → Inside lexemes
  | _, _, _, .mk opening operation link list, other =>
      .cons (ne_of_kind opening (bne_iff_ne.mpr other))
        (operation.inside.append (.cons (ne_of_kind link rfl) list.inside))

theorem Branches.inside : ∀ {lexemes : List Lexeme} {branches : List Branch},
    Branches lexemes branches → Inside lexemes
  | _, _, .first guarded => guarded.inside (by decide)
  | _, _, .more earlier guarded => earlier.inside.append (guarded.inside (by decide))

theorem Otherwise.inside : ∀ {lexemes : List Lexeme} {body : Option (List Stmt)},
    Otherwise lexemes body → Inside lexemes
  | _, _, .none => .nil
  | _, _, .some kind list => .cons (ne_of_kind kind rfl) list.inside

theorem Selection.inside : ∀ {lexemes : List Lexeme} {arms : List Arm}
    {default : Option (List Stmt)}, Selection lexemes arms default → Inside lexemes
  | _, _, _, .none => .nil
  | _, _, _, .arm earlier kind list colon body =>
      earlier.inside.append (.cons (ne_of_kind kind rfl)
        (list.inside.append (.cons (ne_of_kind colon rfl) body.inside)))
  | _, _, _, .default earlier kind colon body =>
      earlier.inside.append (.cons (ne_of_kind kind rfl) (.cons (ne_of_kind colon rfl) body.inside))

end

theorem ParameterPhrase.inside {lexemes : List Lexeme} {tree : Parameter}
    (phrase : ParameterPhrase lexemes tree) : Inside lexemes := by
  cases phrase with
  | input typed _ named => exact .cons (ne_of_kind typed rfl) (.one (ne_of_kind named rfl))
  | inOut word typed named =>
      exact .cons (ne_of_kind (isInOut_iff.mp word).1 rfl) (.cons (ne_of_kind typed rfl)
        (.one (ne_of_kind named rfl)))
  | var kind typed named | pers kind typed named =>
      exact .cons (ne_of_kind kind rfl) (.cons (ne_of_kind typed rfl) (.one (ne_of_kind named rfl)))

section Lists

variable {α : Type} {phrase : List Lexeme → α → Prop} {lexemes : List Lexeme} {values : List α}

theorem Many.inside (many : Many phrase lexemes values)
    (each : ∀ lexemes value, phrase lexemes value → Inside lexemes) : Inside lexemes := by
  induction many with
  | nil => exact .nil
  | snoc _ holds ih => exact ih.append (each _ _ holds)

theorem Separated.inside (list : Separated phrase lexemes values)
    (each : ∀ lexemes value, phrase lexemes value → Inside lexemes) : Inside lexemes := by
  induction list with
  | one holds => exact each _ _ holds
  | more _ kind holds ih => exact ih.append (.cons (ne_of_kind kind rfl) (each _ _ holds))

end Lists

theorem Parameters.inside {lexemes : List Lexeme} {values : List Parameter}
    (list : Parameters lexemes values) : Inside lexemes := by
  cases list with
  | missing => exact .nil
  | none kind kind' => exact .cons (ne_of_kind kind rfl) (.one (ne_of_kind kind' rfl))
  | some kind list kind' =>
      exact .cons (ne_of_kind kind rfl) ((list.inside fun _ _ phrase => phrase.inside).append
        (.one (ne_of_kind kind' rfl)))

theorem RoutineRest.inside {closing : TokenKind} {lexemes : List Lexeme}
    {values : List Parameter} {body : List Stmt} (rest : RoutineRest closing lexemes values body)
    (other : closing ≠ .endOfInput) : Inside lexemes := by
  cases rest with
  | mk list body kind _ =>
      exact list.inside.append (body.inside.append (.one (ne_of_kind kind (bne_iff_ne.mpr other))))

theorem ComponentPhrase.inside {lexemes : List Lexeme} {component : Component}
    (phrase : ComponentPhrase lexemes component) : Inside lexemes := by
  cases phrase with
  | mk typed named => exact .cons (ne_of_kind typed rfl) (.one (ne_of_kind named rfl))

theorem ComponentLine.inside {lexemes : List Lexeme} {component : Component}
    (line : ComponentLine lexemes component) : Inside lexemes := by
  cases line with
  | mk phrase kind => exact phrase.inside.append (.one (ne_of_kind kind rfl))

theorem ComponentList.inside {lexemes : List Lexeme} {components : List Component}
    (list : ComponentList lexemes components) : Inside lexemes := by
  cases list with
  | none => exact .nil
  | some list => exact list.inside fun _ _ phrase => phrase.inside
  | trailing list kind =>
      exact (list.inside fun _ _ phrase => phrase.inside).append (.one (ne_of_kind kind rfl))

theorem Declaration.inside {lexemes : List Lexeme} {tree : Decl}
    (declaration : Declaration lexemes tree) : Inside lexemes := by
  cases declaration with
  | data data => exact data.inside
  | proc kind named rest =>
      exact .cons (ne_of_kind kind rfl) (.cons (ne_of_kind named rfl) (rest.inside (by decide)))
  | func kind typed named rest =>
      exact .cons (ne_of_kind kind rfl) (.cons (ne_of_kind typed rfl) (.cons (ne_of_kind named rfl)
        (rest.inside (by decide))))
  | trap kind named body kind' =>
      exact .cons (ne_of_kind kind rfl) (.cons (ne_of_kind named rfl)
        (body.inside.append (.one (ne_of_kind kind' rfl))))
  | recordList kind named left list right kind' =>
      exact .cons (ne_of_kind kind rfl) (.cons (ne_of_kind named rfl) (.cons (ne_of_kind left rfl)
        (list.inside.append (.cons (ne_of_kind right rfl) (.one (ne_of_kind kind' rfl))))))
  | recordBlock kind named list kind' =>
      exact .cons (ne_of_kind kind rfl) (.cons (ne_of_kind named rfl)
        ((list.inside fun _ _ line => line.inside).append (.one (ne_of_kind kind' rfl))))

theorem ModulePhrase.inside {lexemes : List Lexeme} {content : Module}
    (phrase : ModulePhrase lexemes content) : Inside lexemes := by
  cases phrase with
  | mk kind named list kind' =>
      exact .cons (ne_of_kind kind rfl) (.cons (ne_of_kind named rfl)
        ((list.inside fun _ _ declaration => declaration.inside).append (.one (ne_of_kind kind' rfl))))

/-- No lexeme of a program is the end of input. -/
theorem ProgramPhrase.inside {lexemes : List Lexeme} {program : Program}
    (phrase : ProgramPhrase lexemes program) : Inside lexemes := by
  cases phrase with
  | mk list => exact list.inside fun _ _ phrase => phrase.inside

end RapidLang.Grammar

namespace RapidLang.Parser

open Grammar

/-- Tokens that have all the lexemes of a program are accepted. -/
theorem ofTokens_of_lexemes {tokens : List Token} {tree : Program}
    (phrase : ProgramPhrase (tokens.map Token.lexeme) tree) :
    ∃ program, Program.ofTokens tokens = .ok program ∧ erase program = tree := by
  have whole : lexemesOf tokens = tokens.map Token.lexeme := by
    rw [lexemesOf, List.takeWhile_eq_self_iff.mpr]
    intro token member
    simpa using phrase.inside token.lexeme (List.mem_map_of_mem member)
  exact ofTokens_of_phrase (whole ▸ phrase)

end RapidLang.Parser
