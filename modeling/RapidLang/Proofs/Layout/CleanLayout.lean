import RapidLang.Proofs.Layout.Format
import RapidLang.Proofs.Layout.Lines

/-!
# Clean layouts

Programs that the parser made are described by neat steps: each line that they write begins and
ends with a visible character, and each level that they open is closed. Whatever the settings, the
formatted text is therefore clean.
-/

set_option autoImplicit false

namespace RapidLang

open Text Grammar RapidLang.Parser

/-! ## Texts of a line -/

section Texts

variable {text more : String}

theorem Opens.put (opens : Opens text.toList) (within : '\n' ∉ more.toList) :
    Opens (text ++ more).toList := by
  rw [String.toList_append]
  exact opens.append within

theorem Opens.finish (opens : Opens text.toList) (closes : Closes more.toList) :
    Inline (text ++ more).toList := by
  rw [String.toList_append]
  exact opens.close closes

/-- Two texts of a line with something between them. -/
theorem Inline.around {between : String} (first : Inline text.toList)
    (within : '\n' ∉ between.toList) (second : Inline more.toList) :
    Inline (text ++ between ++ more).toList :=
  (first.1.put within).finish second.2

/-- What holds of no white space holds of visible characters only. -/
theorem isWhite_eq_false {property : Char → Bool} (none : whiteSpace.all (!property ·)) {c : Char}
    (holds : property c) : isWhite c = false := by
  rw [isWhite, ← Bool.not_eq_true, List.contains_iff_mem]
  intro white
  simpa [holds] using List.all_eq_true.mp none c white

theorem IsWord.inline (word : IsWord text.toList) : Inline text.toList := by
  apply Inline.of_inked word.ne_nil
  intro c member
  have continues : continuesWord c := by
    obtain ⟨first, rest, split, starts, continues⟩ := word
    rw [split] at member
    cases List.mem_cons.mp member with
    | inl first => exact first ▸ continuesWord_of_start starts
    | inr later => exact continues c later
  exact isWhite_eq_false (by decide +kernel) continues

theorem Written.inline {word : Lexeme} (written : Written word)
    (kind : word.kind = .identifier ∨ word.kind.isReserved) : Inline word.text.toList :=
  (written.isWord kind).1.inline

theorem Binary64.IsNumeral.inline (numeral : IsNumeral text.toList) : Inline text.toList := by
  have digit : ∀ c : Char, c.isDigit → isWhite c = false := fun _ =>
    isWhite_eq_false (by decide +kernel)
  cases numeral with
  | inl integer => exact .of_inked integer.1 fun c member => digit c (integer.2 c member)
  | inr decimal =>
      obtain ⟨whole, fraction, split, filled, -, digits, digits'⟩ := decimal
      rw [split]
      apply Inline.of_inked (by simp)
      intro c member
      rw [List.mem_append, List.mem_cons] at member
      obtain before | rfl | behind := member
      · exact digit c (digits c before)
      · decide
      · exact digit c (digits' c behind)

end Texts

/-! ## Expressions -/

namespace Expr

/-- The text of the expression may be all that stands on a line, and as a statement the expression
is described by neat steps. -/
structure Tidy (tree : Expr) : Prop where
  inline : Inline tree.render.toList
  statement : Neat tree.layoutStatement

variable {tree other : Expr}

theorem neat_line (inline : Inline tree.render.toList) :
    Neat (LayoutStep.line (tree.render ++ ";")) :=
  .line (inline.1.finish (by decide))

theorem Tidy.of_plain (plain : tree.isCall = false) (inline : Inline tree.render.toList) :
    tree.Tidy := by
  constructor
  · exact inline
  · rw [layoutStatement_of_plain plain]
    exact neat_line inline

theorem inline_parenthesize (inline : Inline tree.render.toList) (needed : Bool) :
    Inline (parenthesize needed tree.render).toList := by
  cases needed with
  | false => exact inline
  | true =>
      have opening : Opens "(".toList := by decide
      exact (opening.put inline.1.2).finish (by decide)

theorem tidy_number {literal : Lexeme} {value : Binary64} (written : Written literal)
    (kind : literal.kind = .number) (found : Binary64.read? literal.text = some value) :
    (number value .origin).Tidy := by
  obtain ⟨c, rest, starts, digit⟩ := written.startsWithDigit kind
  apply Tidy.of_plain rfl
  obtain rfl | ⟨significand, exponent, normal, rfl⟩ := Binary64.read?_cases starts digit found
  · decide
  · exact (Binary64.read?_sourceText normal).1.inline

theorem tidy_truth (value : Bool) : (truth value .origin).Tidy := by
  apply Tidy.of_plain rfl
  cases value <;> decide

theorem tidy_string {text : String} (within : '\n' ∉ text.toList) :
    (string text .origin).Tidy := by
  have quote : Inline "\"".toList := by decide
  exact .of_plain rfl (quote.around within quote)

theorem tidy_name {word : Lexeme} {head : String} {components : List String}
    (written : Written word) (kind : word.kind = .identifier)
    (parts : nameParts word.text = head :: components) :
    (Grammar.selectAll (.variable ⟨head, .origin⟩) components).Tidy := by
  have first : («variable» ⟨head, .origin⟩).IsLink := ⟨rfl, rfl, rfl⟩
  apply Tidy.of_plain (first.selectAll components).plain
  rw [render_selectAll_variable parts]
  exact written.inline (.inl kind)

theorem Tidy.component (tidy : tree.Tidy) {word : Lexeme} (written : Written word)
    (kind : word.kind = .identifier ∨ word.kind.isReserved) :
    (Grammar.selectAll tree (nameParts word.text)).Tidy := by
  apply Tidy.of_plain (isLink_nameParts tree word.text).plain
  rw [render_selectAll]
  exact tidy.inline.around (by decide) (written.inline kind)

theorem Tidy.index (tidy : tree.Tidy) (tidy' : other.Tidy) : (index tree other .origin).Tidy :=
  .of_plain rfl (((tidy.inline.1.put (by decide)).put tidy'.inline.1.2).finish (by decide))

theorem Tidy.unary (tidy : tree.Tidy) (operator : UnaryOperator) :
    (unary operator tree .origin).Tidy := by
  have opens : Opens (unaryText operator).toList := by
    cases operator <;> decide
  exact .of_plain rfl (opens.finish (inline_parenthesize tidy.inline _).2)

theorem Tidy.binary (tidy : tree.Tidy) (tidy' : other.Tidy) (operator : BinaryOperator) :
    (binary operator tree other .origin).Tidy := by
  have within : '\n' ∉ operator.spelling.toList := by
    cases operator <;> decide
  have left := inline_parenthesize tidy.inline (tree.precedence < operator.precedence)
  have right := inline_parenthesize tidy'.inline (other.precedence ≤ operator.precedence)
  exact .of_plain rfl ((((left.1.put (by decide)).put within).put (by decide)).finish right.2)

theorem inline_renderAll {values : List Expr} (tidy : ∀ value ∈ values, value.Tidy) :
    ∀ text ∈ renderAll values, Inline text.toList := by
  rw [renderAll_eq_map]
  exact List.forall_mem_map.mpr fun value member => (tidy value member).inline

theorem tidy_call {word : Lexeme} {values : List Expr} (written : Written word)
    (kind : word.kind = .identifier) (tidy : ∀ value ∈ values, value.Tidy) :
    (call ⟨word.text, .origin⟩ values .origin).Tidy := by
  have name := written.inline (.inl kind)
  have items := inline_renderAll tidy
  have within := newline_not_mem_joined fun text member => (items text member).1.2
  have inline : Inline (call ⟨word.text, .origin⟩ values .origin).render.toList :=
    ((name.1.put (by decide)).put within).finish (by decide)
  constructor
  · exact inline
  · unfold layoutStatement
    dsimp only
    split
    · exact .listed (name.1.put (by decide)) items
    · exact neat_line inline

end Expr

section Phrases

open RapidLang.Expr

mutual

theorem Grammar.Operation.tidy : ∀ {level : Nat} {lexemes : List Lexeme} {tree : Expr}
    {tail : Tail}, Operation level lexemes tree tail → (∀ lexeme ∈ lexemes, Written lexeme) →
    tree.Tidy
  | _, _, _, _, .operand operand, written => operand.tidy written
  | _, _, _, _, @Operation.binary _ _ _ _ operator _ _ _ _ _ _ left right, written =>
      (left.tidy (all_of_subset written (by simp +contextual))).binary
        (right.tidy (all_of_subset written (by simp +contextual))) operator

theorem Grammar.Unary.tidy : ∀ {lexemes : List Lexeme} {tree : Expr} {tail : Tail},
    Unary lexemes tree tail → (∀ lexeme ∈ lexemes, Written lexeme) → tree.Tidy
  | _, _, _, .operand primary, written => primary.tidy written
  | _, _, _, @Unary.operator _ operator _ _ _ _ operand, written =>
      (operand.tidy (all_of_subset written (by simp +contextual))).unary operator

theorem Grammar.Primary.tidy : ∀ {lexemes : List Lexeme} {tree : Expr} {tail : Tail},
    Primary lexemes tree tail → (∀ lexeme ∈ lexemes, Written lexeme) → tree.Tidy
  | _, _, _, .number kind found, written => tidy_number (written _ (by simp)) kind found
  | _, _, _, .true _, _ => tidy_truth true
  | _, _, _, .false _, _ => tidy_truth false
  | _, _, _, .string kind, written => tidy_string ((written _ (by simp)).plainString kind).2
  | _, _, _, .parenthesized _ operation _, written =>
      operation.tidy (all_of_subset written (by simp +contextual))
  | _, _, _, .chain chain, written => chain.tidy written

theorem Grammar.Chain.tidy : ∀ {lexemes : List Lexeme} {tree : Expr}, Chain lexemes tree →
    (∀ lexeme ∈ lexemes, Written lexeme) → tree.Tidy
  | _, _, .name kind parts _, written => tidy_name (written _ (by simp)) kind parts
  | _, _, .call kind _ _ list _, written =>
      tidy_call (written _ (by simp)) kind
        (list.tidy (all_of_subset written (by simp +contextual)))
  | _, _, .index base _ position _, written =>
      (base.tidy (all_of_subset written (by simp +contextual))).index
        (position.tidy (all_of_subset written (by simp +contextual)))
  | _, _, .component base _ kind _, written =>
      (base.tidy (all_of_subset written (by simp +contextual))).component
        (written _ (by simp)) kind

theorem Grammar.Arguments.tidy : ∀ {lexemes : List Lexeme} {values : List Expr},
    Arguments lexemes values → (∀ lexeme ∈ lexemes, Written lexeme) →
    ∀ value ∈ values, value.Tidy
  | _, _, .none, _ => fun _ member => absurd member List.not_mem_nil
  | _, _, .some list, written => list.tidy written

theorem Grammar.CommaList.tidy : ∀ {lexemes : List Lexeme} {values : List Expr},
    CommaList lexemes values → (∀ lexeme ∈ lexemes, Written lexeme) →
    ∀ value ∈ values, value.Tidy
  | _, _, .one operation, written => List.forall_mem_singleton.mpr (operation.tidy written)
  | _, _, .more earlier _ operation, written =>
      List.forall_mem_append.mpr
        ⟨earlier.tidy (all_of_subset written (by simp +contextual)),
          List.forall_mem_singleton.mpr
            (operation.tidy (all_of_subset written (by simp +contextual)))⟩

end

/-! ## Statements -/

/-- An indented part between two lines. -/
theorem Neat.bracketed {steps : List LayoutStep} {text close : String} (neat : Neat steps)
    (opening : Inline text.toList) (closing : Inline close.toList) :
    Neat (LayoutStep.line text ++ LayoutStep.indented steps ++ LayoutStep.line close) :=
  ((line opening).append neat.indented).append (line closing)

theorem Grammar.Initial.tidy {lexemes : List Lexeme} {value : Option Expr}
    (initial : Initial lexemes value) (written : ∀ lexeme ∈ lexemes, Written lexeme) :
    ∀ tree ∈ value, tree.Tidy := by
  cases initial with
  | none => nofun
  | some _ operation =>
      rintro _ ⟨⟩
      exact operation.tidy (all_of_subset written (by simp +contextual))

theorem Grammar.Switches.tidy {lexemes : List Lexeme} {value : Option Expr}
    (switches : Switches lexemes value) (written : ∀ lexeme ∈ lexemes, Written lexeme) :
    ∀ tree ∈ value, tree.Tidy := by
  induction switches with
  | none => nofun
  | more _ _ _ initial ih =>
      split
      · exact initial.tidy (all_of_subset written (by simp +contextual))
      · exact ih (all_of_subset written (by simp +contextual))

theorem Grammar.DataDeclaration.neat {lexemes : List Lexeme} {item : DataItem}
    (declaration : DataDeclaration lexemes item) (written : ∀ lexeme ∈ lexemes, Written lexeme) :
    Neat item.layout := by
  cases declaration with
  | @mk opening type name close storage _ initial _ typed named value _ =>
      have word : Opens (storage.word ++ " ").toList := by
        cases storage <;> decide
      have type' := (written type (by simp)).inline (.inl typed)
      have name' := (written name (by simp)).inline (.inl named)
      have heading := (word.finish type'.2).around (by decide : '\n' ∉ " ".toList) name'
      have tidy := value.tidy (all_of_subset written (by simp +contextual))
      cases value with
      | none => exact .line ((heading.1.put (by decide : '\n' ∉ "".toList)).finish (by decide))
      | some =>
          have initial : ∀ value : Expr, value.Tidy → '\n' ∉ (" := " ++ value.render).toList := by
            intro value tidy
            rw [String.toList_append, List.mem_append, not_or]
            exact ⟨by decide, tidy.inline.1.2⟩
          exact .line ((heading.1.put (initial _ (tidy _ rfl))).finish (by decide))

namespace Stmt

theorem neat_move {motion : Motion} {target speed zone tool : Expr} {workObject : Option Expr}
    (goal : target.Tidy) (pace : speed.Tidy) (area : zone.Tidy) (gear : tool.Tidy)
    (object : ∀ tree ∈ workObject, tree.Tidy) :
    Neat (layout (.move ⟨motion, target, speed, zone, tool, workObject⟩ .origin)) := by
  have opens : Opens (motion.instruction ++ " ").toList := by
    cases motion <;> decide
  have last : Inline (tool.render ++ workObjectText workObject).toList := by
    cases workObject with
    | none => simpa [workObjectText] using gear.inline
    | some value =>
        have text := gear.inline.around (by decide : '\n' ∉ "\\WObj:=".toList)
          (object value rfl).inline
        rwa [String.append_assoc] at text
  rw [layout, operands_eq]
  apply Neat.listed opens
  rw [List.forall_mem_cons, List.forall_mem_cons, List.forall_mem_cons, List.forall_mem_singleton]
  exact ⟨goal.inline, pace.inline, area.inline, last⟩

/-- The lines of a body that may be missing. -/
theorem neat_layoutOptional {heading : String} (inline : Inline heading.toList)
    {body : Option (List Stmt)} (neat : ∀ statements ∈ body, Neat (layoutAll statements)) :
    Neat (layoutOptional heading body) := by
  cases body with
  | none => exact .nil
  | some statements => exact .append (.line inline) (neat statements rfl).indented

end Stmt

theorem Grammar.Branches.ne_nil {lexemes : List Lexeme} {branches : List Branch}
    (list : Branches lexemes branches) : branches ≠ [] := by
  cases list <;> simp

open Stmt

mutual

theorem Grammar.Statement.neat : ∀ {lexemes : List Lexeme} {tree : Stmt}, Statement lexemes tree →
    (∀ lexeme ∈ lexemes, Written lexeme) → Neat tree.layout
  | _, _, .assign left _ right _, written => by
      have target := left.tidy (all_of_subset written (by simp +contextual))
      have value := right.tidy (all_of_subset written (by simp +contextual))
      exact .line ((target.inline.around (by decide) value.inline).1.finish (by decide))
  | _, _, .expression operation _, written =>
      (operation.tidy (all_of_subset written (by simp +contextual))).statement
  | _, _, .call operation _ _ list _, written => by
      obtain ⟨word, member, kind, rfl⟩ := operation.word_of_variable rfl
      have tidy := list.tidy (all_of_subset written (by simp +contextual))
      exact (tidy_call (written word (by simp [member])) kind tidy).statement
  | _, _, .conditional list last _, written => by
      have branches := list.neat (all_of_subset written (by simp +contextual))
      have otherwise := last.neat (all_of_subset written (by simp +contextual))
      have closing : Inline "ENDIF".toList := by decide
      exact (branches.append (neat_layoutOptional (by decide) otherwise)).append (.line closing)
  | _, _, .while _ operation _ body _, written => by
      have head := operation.tidy (all_of_subset written (by simp +contextual))
      have neat := body.neat (all_of_subset written (by simp +contextual))
      have opening : Opens "WHILE ".toList := by decide
      exact neat.bracketed (opening.finish head.inline.2) (by decide)
  | _, _, .for _ kind _ low _ high _ body _, written => by
      have counter := (written _ (by simp)).inline (.inl kind)
      have first := low.tidy (all_of_subset written (by simp +contextual))
      have last := high.tidy (all_of_subset written (by simp +contextual))
      have neat := body.neat (all_of_subset written (by simp +contextual))
      have opening : Opens "FOR ".toList := by decide
      have start := (opening.finish counter.2).around (by decide : '\n' ∉ " FROM ".toList)
        first.inline
      have bounds := start.around (by decide : '\n' ∉ " TO ".toList) last.inline
      exact neat.bracketed bounds (by decide)
  | _, _, .returnNone _ _, _ => .line (by decide)
  | _, _, .returnSome _ operation _, written => by
      have value := operation.tidy (all_of_subset written (by simp +contextual))
      have opening : Opens "RETURN ".toList := by decide
      exact .line ((opening.put value.inline.1.2).finish (by decide))
  | _, _, .move _ first _ second _ third _ fourth switches _, written =>
      neat_move (first.tidy (all_of_subset written (by simp +contextual)))
        (second.tidy (all_of_subset written (by simp +contextual)))
        (third.tidy (all_of_subset written (by simp +contextual)))
        (fourth.tidy (all_of_subset written (by simp +contextual)))
        (switches.tidy (all_of_subset written (by simp +contextual)))
  | _, _, .test _ operation selection _, written => by
      have subject := operation.tidy (all_of_subset written (by simp +contextual))
      obtain ⟨arms, default⟩ := selection.neat (all_of_subset written (by simp +contextual))
      have opening : Opens "TEST ".toList := by decide
      exact (arms.append (neat_layoutOptional (by decide) default)).bracketed
        (opening.finish subject.inline.2) (by decide)
  | _, _, .connect _ kind _ kind' _, written => by
      have trap := (written _ (by simp)).inline (.inl kind)
      have error := (written _ (by simp)).inline (.inl kind')
      have opening : Opens "CONNECT ".toList := by decide
      have pair := (opening.finish trap.2).around (by decide : '\n' ∉ " WITH ".toList) error
      exact .line (pair.1.finish (by decide))
  | _, _, .raise _ kind _, written => by
      have error := (written _ (by simp)).inline (.inl kind)
      have opening : Opens "RAISE ".toList := by decide
      exact .line ((opening.put error.1.2).finish (by decide))
  | _, _, .data declaration, written => declaration.neat written

theorem Grammar.Body.neat : ∀ {lexemes : List Lexeme} {trees : List Stmt}, Body lexemes trees →
    (∀ lexeme ∈ lexemes, Written lexeme) → Neat (Stmt.layoutAll trees)
  | _, _, .nil, _ => .nil
  | _, _, .snoc earlier statement, written => by
      rw [Stmt.layoutAll_snoc]
      exact (earlier.neat (all_of_subset written (by simp +contextual))).append
        (statement.neat (all_of_subset written (by simp +contextual)))

theorem Grammar.Guarded.neat : ∀ {kind : TokenKind} {lexemes : List Lexeme} {tree : Branch},
    Guarded kind lexemes tree → (∀ lexeme ∈ lexemes, Written lexeme) →
    ∀ word : String, Opens word.toList → Neat (tree.layout word)
  | _, _, _, .mk _ operation _ body, written, _, opens => by
      have head := operation.tidy (all_of_subset written (by simp +contextual))
      have neat := body.neat (all_of_subset written (by simp +contextual))
      exact .append (.line ((opens.put head.inline.1.2).finish (by decide))) neat.indented

theorem Grammar.Branches.neat : ∀ {lexemes : List Lexeme} {trees : List Branch},
    Branches lexemes trees → (∀ lexeme ∈ lexemes, Written lexeme) →
    Neat (Branch.layoutAll "IF " trees)
  | _, _, .first guarded, written => (guarded.neat written "IF " (by decide)).append .nil
  | _, _, .more earlier guarded, written => by
      rw [Branch.layoutAll_snoc earlier.ne_nil]
      exact (earlier.neat (all_of_subset written (by simp +contextual))).append
        (guarded.neat (all_of_subset written (by simp +contextual)) "ELSEIF " (by decide))

theorem Grammar.Otherwise.neat : ∀ {lexemes : List Lexeme} {tree : Option (List Stmt)},
    Otherwise lexemes tree → (∀ lexeme ∈ lexemes, Written lexeme) →
    ∀ statements ∈ tree, Neat (Stmt.layoutAll statements)
  | _, _, .none, _ => nofun
  | _, _, .some _ body, written => by
      rintro _ ⟨⟩
      exact body.neat (all_of_subset written (by simp +contextual))

theorem Grammar.Selection.neat : ∀ {lexemes : List Lexeme} {arms : List Arm}
    {default : Option (List Stmt)}, Selection lexemes arms default →
    (∀ lexeme ∈ lexemes, Written lexeme) →
    Neat (Arm.layoutAll arms) ∧ ∀ statements ∈ default, Neat (Stmt.layoutAll statements)
  | _, _, _, .none, _ => ⟨.nil, nofun⟩
  | _, _, _, .arm earlier _ list _ body, written => by
      obtain ⟨arms, default⟩ := earlier.neat (all_of_subset written (by simp +contextual))
      have items := inline_renderAll (list.tidy (all_of_subset written (by simp +contextual)))
      have within := newline_not_mem_joined fun text member => (items text member).1.2
      have neat := body.neat (all_of_subset written (by simp +contextual))
      have opening : Opens "CASE ".toList := by decide
      rw [Arm.layoutAll_snoc]
      exact ⟨arms.append (.append (.line ((opening.put within).finish (by decide)))
        neat.indented), default⟩
  | _, _, _, .default earlier _ _ body, written => by
      obtain ⟨arms, _⟩ := earlier.neat (all_of_subset written (by simp +contextual))
      constructor
      · exact arms
      · rintro _ ⟨⟩
        exact body.neat (all_of_subset written (by simp +contextual))

end

/-! ## Declarations -/

theorem Parameter.inline_heading {mode : ParameterMode} {type name : Lexeme} (written : Written type)
    (typed : type.kind = .identifier) (written' : Written name) (named : name.kind = .identifier) :
    Inline (Parameter.heading
      ⟨mode, ⟨type.text, .origin⟩, ⟨name.text, .origin⟩, .origin⟩).toList := by
  have type' := written.inline (.inl typed)
  have name' := written'.inline (.inl named)
  have pair := type'.around (by decide : '\n' ∉ " ".toList) name'
  have behind : ∀ word : String, Opens word.toList →
      Inline (word ++ type.text ++ " " ++ name.text).toList := fun _ opens =>
    (opens.finish type'.2).around (by decide) name'
  cases mode with
  | input => simpa [heading, ParameterMode.word?] using pair
  | inOut => exact behind "INOUT " (by decide)
  | var => exact behind "VAR " (by decide)
  | pers => exact behind "PERS " (by decide)

theorem Grammar.ParameterPhrase.inline {lexemes : List Lexeme} {parameter : Parameter}
    (phrase : ParameterPhrase lexemes parameter) (written : ∀ lexeme ∈ lexemes, Written lexeme) :
    Inline parameter.heading.toList := by
  cases phrase with
  | input typed _ named | inOut _ typed named | var _ typed named | pers _ typed named =>
      exact Parameter.inline_heading (written _ (by simp)) typed (written _ (by simp)) named

/-- The parameters of a routine close the line that its words open. -/
theorem Grammar.Parameters.inline {text : String} {lexemes : List Lexeme}
    {parameters : List Parameter} (phrase : Parameters lexemes parameters)
    (written : ∀ lexeme ∈ lexemes, Written lexeme) (opens : Opens text.toList) :
    Inline (text ++ Parameter.headings parameters).toList := by
  have each : ∀ parameter ∈ parameters, Inline parameter.heading.toList := by
    cases phrase with
    | missing => exact fun _ member => absurd member List.not_mem_nil
    | none => exact fun _ member => absurd member List.not_mem_nil
    | some _ list _ =>
        exact list.forall fun part parameter within phrase =>
          phrase.inline (all_of_subset written fun lexeme member => by simp [within lexeme member])
  have within : ∀ heading ∈ parameters.map Parameter.heading, '\n' ∉ heading.toList :=
    List.forall_mem_map.mpr fun parameter member => (each parameter member).1.2
  have opening : Opens "(".toList := by decide
  exact opens.finish ((opening.put (newline_not_mem_joined within)).finish (by decide)).2

theorem Grammar.ComponentPhrase.neat {lexemes : List Lexeme} {component : Component}
    (phrase : ComponentPhrase lexemes component) (written : ∀ lexeme ∈ lexemes, Written lexeme) :
    Neat component.layout := by
  cases phrase with
  | @mk type name typed named =>
      have type' := (written type (by simp)).inline (.inl typed)
      have name' := (written name (by simp)).inline (.inl named)
      exact .line ((type'.around (by decide) name').1.finish (by decide))

theorem Neat.flatMap {α : Type} {layout : α → List LayoutStep} {values : List α}
    (each : ∀ value ∈ values, Neat (layout value)) : Neat (values.flatMap layout) := by
  induction values with
  | nil => exact .nil
  | cons first rest ih =>
      obtain ⟨here, behind⟩ := List.forall_mem_cons.mp each
      exact here.append (ih behind)

theorem Grammar.ComponentList.neat {lexemes : List Lexeme} {components : List Component}
    (list : ComponentList lexemes components) (written : ∀ lexeme ∈ lexemes, Written lexeme) :
    ∀ component ∈ components, Neat component.layout := by
  cases list with
  | none => exact fun _ member => absurd member List.not_mem_nil
  | some list =>
      exact list.forall fun part component within phrase =>
        phrase.neat (all_of_subset written within)
  | trailing list _ =>
      exact list.forall fun part component within phrase =>
        phrase.neat (all_of_subset written fun lexeme member => by simp [within lexeme member])

theorem Grammar.ComponentLine.neat {lexemes : List Lexeme} {component : Component}
    (line : ComponentLine lexemes component) (written : ∀ lexeme ∈ lexemes, Written lexeme) :
    Neat component.layout := by
  cases line with
  | mk phrase _ => exact phrase.neat (all_of_subset written fun _ => List.mem_append_left _)

theorem Grammar.Declaration.neat {lexemes : List Lexeme} {tree : Decl}
    (declaration : Declaration lexemes tree) (written : ∀ lexeme ∈ lexemes, Written lexeme) :
    Neat tree.layout := by
  cases declaration with
  | data data => exact data.neat written
  | proc _ named rest =>
      cases rest with
      | mk list body _ _ =>
          have name := (written _ (by simp)).inline (.inl named)
          have opening : Opens "PROC ".toList := by decide
          have heading := list.inline (all_of_subset written (by simp +contextual))
            (opening.put name.1.2)
          have neat := body.neat (all_of_subset written (by simp +contextual))
          exact neat.bracketed heading (by decide)
  | func _ typed named rest =>
      cases rest with
      | mk list body _ _ =>
          have type := (written _ (by simp)).inline (.inl typed)
          have name := (written _ (by simp)).inline (.inl named)
          have opening : Opens "FUNC ".toList := by decide
          have words := (opening.finish type.2).around (by decide : '\n' ∉ " ".toList) name
          have heading := list.inline (all_of_subset written (by simp +contextual)) words.1
          have neat := body.neat (all_of_subset written (by simp +contextual))
          exact neat.bracketed heading (by decide)
  | trap _ named body _ =>
      have name := (written _ (by simp)).inline (.inl named)
      have opening : Opens "TRAP ".toList := by decide
      have neat := body.neat (all_of_subset written (by simp +contextual))
      exact neat.bracketed (opening.finish name.2) (by decide)
  | recordList _ named _ list _ _ =>
      have name := (written _ (by simp)).inline (.inl named)
      have opening : Opens "RECORD ".toList := by decide
      have neat := Neat.flatMap (list.neat (all_of_subset written (by simp +contextual)))
      exact neat.bracketed (opening.finish name.2) (by decide)
  | recordBlock _ named list _ =>
      have name := (written _ (by simp)).inline (.inl named)
      have opening : Opens "RECORD ".toList := by decide
      have each : ∀ component : Component, component ∈ _ → Neat component.layout :=
        list.forall fun part component within line => line.neat <|
          all_of_subset written fun lexeme member => by simp [within lexeme member]
      exact (Neat.flatMap each).bracketed (opening.finish name.2) (by decide)

theorem Decl.neat_gap (previous next : Decl) : Neat (gap previous next) := by
  unfold gap
  split
  · exact .nil
  · exact .itemGap

theorem Decl.neat_layoutAfter (previous : Decl) {declarations : List Decl}
    (each : ∀ declaration ∈ declarations, Neat declaration.layout) :
    Neat (layoutAfter previous declarations) := by
  induction declarations generalizing previous with
  | nil => exact .nil
  | cons next rest ih =>
      obtain ⟨here, behind⟩ := List.forall_mem_cons.mp each
      exact ((neat_gap previous next).append here).append (ih next behind)

theorem Decl.neat_layoutAll {declarations : List Decl}
    (each : ∀ declaration ∈ declarations, Neat declaration.layout) :
    Neat (layoutAll declarations) := by
  cases declarations with
  | nil => exact .nil
  | cons first rest =>
      obtain ⟨here, behind⟩ := List.forall_mem_cons.mp each
      exact here.append (neat_layoutAfter first behind)

theorem Grammar.ModulePhrase.neat {lexemes : List Lexeme} {tree : Module}
    (phrase : ModulePhrase lexemes tree) (written : ∀ lexeme ∈ lexemes, Written lexeme) :
    Neat tree.layout := by
  cases phrase with
  | mk _ named list _ =>
      have name := (written _ (by simp)).inline (.inl named)
      have opening : Opens "MODULE ".toList := by decide
      have each : ∀ declaration : Decl, declaration ∈ _ → Neat declaration.layout :=
        list.forall fun part declaration within phrase => phrase.neat <|
          all_of_subset written fun lexeme member => by simp [within lexeme member]
      exact (Decl.neat_layoutAll each).bracketed (opening.finish name.2) (by decide)

theorem Grammar.ProgramPhrase.neat {lexemes : List Lexeme} {tree : Program}
    (phrase : ProgramPhrase lexemes tree) (written : ∀ lexeme ∈ lexemes, Written lexeme) :
    Neat tree.layout := by
  cases phrase with
  | @mk modules list =>
      have each : ∀ content ∈ modules, Neat content.layout :=
        list.forall fun part content within phrase => phrase.neat (all_of_subset written within)
      cases modules with
      | nil => exact .nil
      | cons first rest =>
          obtain ⟨here, behind⟩ := List.forall_mem_cons.mp each
          rw [Program.layout, Module.layoutAll_cons]
          exact here.append <| Neat.flatMap fun content member =>
            Neat.blankLine.append (behind content member)

end Phrases

/-! ## Whole texts -/

theorem Program.neat_layout {source : String} {program : Program}
    (accepted : Program.ofTokens (Lexed.ofString source).tokens = .ok program) :
    Neat program.layout := by
  have neat := (phrase_of_ofTokens accepted).neat (lexemesOf_tokens source).2
  have same : (RapidLang.erase program).layout = program.layout := program.layout_erase
  rwa [same] at neat

theorem Program.endLine_mem_layout {program : Program} (filled : program.modules ≠ []) :
    .endLine ∈ program.layout := by
  obtain ⟨first, rest, modules⟩ := List.exists_cons_of_ne_nil filled
  rw [layout, modules, Module.layoutAll_cons]
  simp [Module.layout, LayoutStep.line]

/-- Under every setting a program that the parser made is printed as an empty text if it has no
modules, and otherwise as a text with a clean layout. On the way no level is closed where none is
open, and in the end none is open. -/
theorem format_isClean (config : LayoutConfig) (source : String) (program : Program)
    (accepted : Program.ofTokens (Lexed.ofString source).tokens = .ok program) :
    (program.format config = "" ↔ program.modules = []) ∧
      (program.modules ≠ [] → CleanLayout config (program.format config)) ∧
      Printer.ClosesOpened { config } program.layout ∧
      (program.layout.foldl Printer.step { config }).level = 0 := by
  have neat := Program.neat_layout accepted
  have blank : Printer.Holds config { config } [] [] := ⟨rfl, rfl, rfl, by simp, nofun⟩
  obtain ⟨lines, holds, many⟩ := neat.holds blank
  obtain ⟨level, opened⟩ := neat.balanced { config }
  have clean : program.modules ≠ [] → CleanLayout config (program.format config) := by
    intro filled
    have ended := List.count_pos_iff.mpr (Program.endLine_mem_layout filled)
    rw [List.length_nil, Nat.zero_add] at many
    cases lines using List.reverseRecOn with
    | nil => exact absurd (Nat.lt_of_lt_of_le ended many) (Nat.lt_irrefl 0)
    | append_singleton front last => exact holds.cleanLayout
  have empty : program.modules = [] → program.format config = "" := by
    intro none
    rw [Program.format, Program.layout, none]
    exact blank.finish_nil
  refine ⟨⟨fun text => ?_, empty⟩, clean, opened, level⟩
  by_contra filled
  exact (clean filled).filled text

theorem format_isClean_of_callInLoop :
    ∃ program, Program.ofTokens (Lexed.ofString callInLoop).tokens = .ok program ∧
      program.format narrowLayout = narrowCallInLoop ∧
      CleanLayout narrowLayout narrowCallInLoop := by
  have formatted := Except.ok_of_toOption format_callInLoop.1
  obtain ⟨_, program, accepted, printed⟩ :=
    (format_eq_ok_iff narrowLayout callInLoop narrowCallInLoop).mp formatted
  obtain ⟨empty, clean, _⟩ := format_isClean narrowLayout callInLoop program accepted
  rw [printed] at empty clean
  exact ⟨program, accepted, printed, clean fun none => absurd (empty.mpr none) (by decide)⟩

end RapidLang
