import RapidLang.Proofs.Layout.Reread

/-!
# Printed parentheses

No text of an expression has fewer tokens or fewer parentheses than its printed text. An operand
that the printer puts in parentheses binds too loosely to stand where it does, so that the grammar
has it there in parentheses only; and a chain of names that is printed as one word cannot have been
less than that.
-/

set_option autoImplicit false

namespace RapidLang

open Text Grammar RapidLang.Parser

/-! ## Counting lexemes -/

/-- How many of the lexemes are opening parentheses. -/
def openings (lexemes : List Lexeme) : Nat :=
  lexemes.countP (·.kind == .leftParen)

theorem openings_append (front rest : List Lexeme) :
    openings (front ++ rest) = openings front + openings rest :=
  List.countP_append

theorem openings_cons (first : Lexeme) (rest : List Lexeme) :
    openings (first :: rest) = openings [first] + openings rest :=
  openings_append [first] rest

/-- With as many pairs of parentheses added, some lexemes are still no more than others, and have
no more opening parentheses. -/
structure Spares (pairs : Nat) (fewer more : List Lexeme) : Prop where
  length : fewer.length + 2 * pairs ≤ more.length
  opening : openings fewer + pairs ≤ openings more

namespace Spares

variable {pairs : Nat} {fewer more front front' : List Lexeme} {first second close : Lexeme}

theorem nil : Spares 0 [] [] :=
  ⟨Nat.le_refl _, Nat.le_refl _⟩

theorem mono {lower : Nat} (spares : Spares pairs fewer more) (below : lower ≤ pairs) :
    Spares lower fewer more := by
  obtain ⟨length, opening⟩ := spares
  exact ⟨by omega, by omega⟩

theorem append (spares : Spares 0 front front') (behind : Spares 0 fewer more) :
    Spares 0 (front ++ fewer) (front' ++ more) := by
  obtain ⟨length, opening⟩ := spares
  obtain ⟨length', opening'⟩ := behind
  constructor
  · rw [List.length_append, List.length_append]
    omega
  · rw [openings_append, openings_append]
    omega

theorem cons (kind : first.kind = .leftParen → second.kind = .leftParen)
    (spares : Spares 0 fewer more) : Spares 0 (first :: fewer) (second :: more) := by
  have single : openings [first] ≤ openings [second] := by
    by_cases opening : first.kind = .leftParen
    · simp [openings, opening, kind opening]
    · simp [openings, opening]
  have spares' : Spares 0 [first] [second] := ⟨Nat.le_refl _, single⟩
  exact spares'.append spares

/-- It does no harm if the others are still more. -/
theorem grow (spares : Spares pairs fewer more) (rest : List Lexeme) :
    Spares pairs fewer (more ++ rest) := by
  obtain ⟨length, opening⟩ := spares
  constructor
  · rw [List.length_append]
    omega
  · rw [openings_append]
    omega

theorem one (kind : first.kind ≠ .leftParen) : Spares 0 [first] [second] :=
  .cons (absurd · kind) .nil

/-- Parentheses that are left out are one pair. -/
theorem unparenthesized (kind : first.kind = .leftParen) (spares : Spares 0 fewer more) :
    Spares 1 fewer (first :: (more ++ [close])) := by
  obtain ⟨length, opening⟩ := spares
  have single : openings [first] = 1 := by simp [openings, kind]
  constructor
  · rw [List.length_cons, List.length_append, List.length_singleton]
    omega
  · rw [openings_cons, openings_append, single]
    omega

/-- A pair of parentheses that is spared may be put back. -/
theorem parenthesized (kind : first.kind = .leftParen) (close' : close.kind ≠ .leftParen)
    (spares : Spares 1 fewer more) : Spares 0 (first :: (fewer ++ [close])) more := by
  obtain ⟨length, opening⟩ := spares
  have single : openings [first] = 1 := by simp [openings, kind]
  have single' : openings [close] = 0 := by simp [openings, close']
  constructor
  · rw [List.length_cons, List.length_append, List.length_singleton]
    omega
  · rw [openings_cons, openings_append, single, single']
    omega

end Spares

/-! ## Printed within some lexemes -/

/-- The printed text of an expression spares the lexemes what is needed around it on a level. -/
def PrintedWithin (level : Nat) (tree : Expr) (lexemes : List Lexeme) : Prop :=
  ∃ printed, Spells tree.render printed ∧
    Spares (if tree.precedence < level then 1 else 0) printed lexemes

namespace PrintedWithin

variable {level lower : Nat} {tree : Expr} {lexemes : List Lexeme}

theorem mono (within : PrintedWithin level tree lexemes) (below : lower ≤ level) :
    PrintedWithin lower tree lexemes := by
  obtain ⟨printed, spells, spares⟩ := within
  refine ⟨printed, spells, spares.mono ?_⟩
  split
  · rw [if_pos (by omega)]
  · exact Nat.zero_le _

theorem of_atom {printed : List Lexeme} (atom : tree.precedence = Expr.atomPrecedence)
    (spells : Spells tree.render printed) (spares : Spares 0 printed lexemes) :
    PrintedWithin Expr.atomPrecedence tree lexemes :=
  ⟨printed, spells, by rwa [if_neg (by omega)]⟩

/-- With the parentheses that it needs on the level, the expression still has no more lexemes. -/
theorem parenthesize (within : PrintedWithin level tree lexemes) {needed : Bool}
    (loose : needed = true ↔ tree.precedence < level) :
    ∃ printed, Spells (Expr.parenthesize needed tree.render) printed ∧
      Spares 0 printed lexemes := by
  obtain ⟨printed, spells, spares⟩ := within
  cases needed with
  | false =>
      rw [if_neg (by simpa using loose)] at spares
      exact ⟨printed, spells, spares⟩
  | true =>
      rw [if_pos (loose.mp rfl)] at spares
      exact ⟨_, Spells.parenthesized spells.lexes, spares.parenthesized rfl (by decide)⟩

end PrintedWithin

/-- The printed text of an expression that begins with a name has no more lexemes than given, also
with a dot and a word behind it, which may be one with the last word before. -/
structure ChainWithin (tree : Expr) (lexemes : List Lexeme) : Prop where
  atom : tree.precedence = Expr.atomPrecedence
  chain : ∃ printed, Spells tree.render printed ∧ Spares 0 printed lexemes
  longer : ∀ word : String, IsWord word.toList → ∀ dot part : Lexeme,
    ∃ printed, Spells (tree.render ++ "." ++ word) printed ∧
      Spares 0 printed (lexemes ++ [dot, part])

/-- The printed texts of several expressions have no more lexemes than given. -/
def ListWithin (values : List Expr) (lexemes : List Lexeme) : Prop :=
  ∃ printed, ListLexes (Expr.renderAll values) printed ∧ Spares 0 printed lexemes

namespace ChainWithin

variable {tree : Expr} {lexemes : List Lexeme}

/-- Behind a bracket the dot and the word stay apart. -/
theorem of_sealed {printed : List Lexeme} (atom : tree.precedence = Expr.atomPrecedence)
    (spells : Spells tree.render printed) (complete : isSealed tree.render.toList)
    (spares : Spares 0 printed lexemes) : ChainWithin tree lexemes := by
  refine ⟨atom, ⟨printed, spells, spares⟩, fun word word' dot part => ?_⟩
  refine ⟨_, spells.component complete word', spares.append ?_⟩
  exact .cons (fun mark => nomatch mark) (.one (kind_wordLexeme_ne _ (by decide)))

theorem name {word : Lexeme} (written : Written word) (kind : word.kind = .identifier)
    (atom : tree.precedence = Expr.atomPrecedence) (render : tree.render = word.text) :
    ChainWithin tree [word] := by
  refine ⟨atom, ⟨[word], ?_, .one (by rw [kind]; decide)⟩, fun more word' dot part => ?_⟩
  · rw [render]
    exact .of_written written (.inl kind)
  · rw [render]
    have single : Spares 0 [wordLexeme (word.text ++ "." ++ more).toList] [word] :=
      .one (kind_wordLexeme_ne _ (by decide))
    exact ⟨_, .dotted written kind word', single.grow [dot, part]⟩

theorem component {word : Lexeme} (base : ChainWithin tree lexemes)
    (word' : IsWord word.text.toList) (dot : Lexeme) :
    ChainWithin (selectAll tree (nameParts word.text)) (lexemes ++ [dot, word]) := by
  have link := Expr.isLink_nameParts tree word.text
  refine ⟨link.precedence, ?_, fun more word'' dot' part => ?_⟩
  · rw [render_selectAll]
    exact base.longer word.text word' dot word
  · -- A word behind the last one makes a longer word with it, which the base was ready for.
    have joined : IsWord (word.text ++ "." ++ more).toList := by
      simpa using word'.append_dot word''
    obtain ⟨printed, spells, spares⟩ := base.longer _ joined dot word
    refine ⟨printed, ?_, spares.grow [dot', part]⟩
    rw [render_selectAll]
    simpa [String.append_assoc] using spells

theorem call {word opening close : Lexeme} {values : List Expr} {printed : List Lexeme}
    (written : Written word) (kind : word.kind = .identifier) (opening' : opening.kind = .leftParen)
    (arguments : Lexes (", ".intercalate (Expr.renderAll values)).toList printed)
    (spares : Spares 0 printed lexemes) :
    ChainWithin (.call ⟨word.text, .origin⟩ values .origin)
      (word :: opening :: (lexemes ++ [close])) := by
  have name := Spells.of_written written (.inl kind)
  obtain ⟨spells, complete⟩ : Spells (Expr.call ⟨word.text, .origin⟩ values .origin).render
        ([word] ++ ⟨.leftParen, "("⟩ :: (printed ++ [⟨.rightParen, ")"⟩])) ∧
      isSealed (Expr.call ⟨word.text, .origin⟩ values .origin).render.toList :=
    name.enclose (by decide) arguments (by decide)
  refine .of_sealed rfl spells complete (.cons id (.cons (fun _ => opening') ?_))
  exact spares.append (.one (by decide))

theorem index {position : Expr} {inner : List Lexeme} {opening close : Lexeme}
    (base : ChainWithin tree lexemes) (within : PrintedWithin 1 position inner) :
    ChainWithin (.index tree position .origin) (lexemes ++ opening :: (inner ++ [close])) := by
  obtain ⟨printed, spells, spares⟩ := base.chain
  obtain ⟨printed', spells', spares'⟩ := within
  obtain ⟨whole, complete⟩ : Spells (Expr.index tree position .origin).render
        (printed ++ ⟨.leftBracket, "["⟩ :: (printed' ++ [⟨.rightBracket, "]"⟩])) ∧
      isSealed (Expr.index tree position .origin).render.toList :=
    spells.enclose (by decide) spells'.lexes (by decide)
  refine .of_sealed rfl whole complete (spares.append (.cons (fun mark => nomatch mark) ?_))
  exact (spares'.mono (Nat.zero_le _)).append (.one (by decide))

end ChainWithin

theorem ListWithin.one {value : Expr} {lexemes : List Lexeme}
    (within : PrintedWithin 1 value lexemes) : ListWithin [value] lexemes := by
  obtain ⟨printed, spells, spares⟩ := within
  exact ⟨printed, .one spells.lexes spells.filled, spares.mono (Nat.zero_le _)⟩

theorem ListWithin.snoc {values : List Expr} {value : Expr} {earlier lexemes : List Lexeme}
    {comma : Lexeme} (list : ListWithin values earlier) (within : PrintedWithin 1 value lexemes) :
    ListWithin (values ++ [value]) (earlier ++ comma :: lexemes) := by
  obtain ⟨printed, list, spares⟩ := list
  obtain ⟨printed', spells, spares'⟩ := within
  refine ⟨printed ++ ⟨.comma, ","⟩ :: printed', ?_, ?_⟩
  · have whole := list.snoc spells.lexes spells.filled
    simpa [Expr.renderAll_eq_map] using whole
  · exact spares.append (.cons (fun mark => nomatch mark) (spares'.mono (Nat.zero_le _)))

/-! ## The expressions of a text -/

theorem Expr.precedence_le_atomPrecedence (tree : Expr) : tree.precedence ≤ atomPrecedence := by
  cases tree with
  | binary operator => exact Nat.le_succ_of_le (precedence_le operator)
  | _ => exact Nat.le_refl _

theorem PrintedWithin.unary {tree : Expr} {lexemes : List Lexeme} {sign : Lexeme}
    (within : PrintedWithin Expr.atomPrecedence tree lexemes) (operator : UnaryOperator) :
    PrintedWithin Expr.atomPrecedence (.unary operator tree .origin) (sign :: lexemes) := by
  have loose : (tree.precedence != Expr.atomPrecedence) = true ↔
      tree.precedence < Expr.atomPrecedence := by
    have := tree.precedence_le_atomPrecedence
    simp only [bne_iff_ne]
    omega
  obtain ⟨printed, spells, spares⟩ := within.parenthesize loose
  refine .of_atom rfl (Spells.signed operator spells.lexes) (.cons (fun mark => ?_) spares)
  cases operator <;> cases mark

theorem PrintedWithin.binary {level : Nat} {left right : Expr} {lexemes rest : List Lexeme}
    {sign : Lexeme} {operator : BinaryOperator} (tight : level ≤ operator.precedence)
    (within : PrintedWithin operator.precedence left lexemes)
    (within' : PrintedWithin (operator.precedence + 1) right rest) :
    PrintedWithin level (.binary operator left right .origin) (lexemes ++ sign :: rest) := by
  obtain ⟨printed, spells, spares⟩ := within.parenthesize decide_eq_true_iff
  obtain ⟨printed', spells', spares'⟩ :=
    within'.parenthesize (decide_eq_true_iff.trans Nat.lt_succ_iff.symm)
  refine ⟨_, .operated operator spells spells'.lexes, ?_⟩
  have tight' : ¬(Expr.binary operator left right .origin).precedence < level :=
    Nat.not_lt.mpr tight
  rw [if_neg tight']
  refine spares.append (.cons (fun mark => ?_) spares')
  cases operator <;> cases mark

theorem printedWithin_number {literal : Lexeme} {value : Binary64} (written : Written literal)
    (kind : literal.kind = .number) (found : Binary64.read? literal.text = some value) :
    PrintedWithin Expr.atomPrecedence (.number value .origin) [literal] := by
  obtain ⟨_, spells⟩ | ⟨_, spells, _⟩ := Spells.number written kind found
  · exact .of_atom rfl spells (.one (by decide))
  · exact .of_atom rfl spells (.one (fun mark => nomatch mark))

namespace Grammar

mutual

/-- The printed text of an expression of a text has no more lexemes than it was read from. -/
theorem Operation.printedWithin : ∀ {level : Nat} {lexemes : List Lexeme} {tree : Expr}
    {tail : Tail}, Operation level lexemes tree tail → level ≤ Expr.atomPrecedence →
    (∀ lexeme ∈ lexemes, Written lexeme) → PrintedWithin level tree lexemes
  | _, _, _, _, .operand operand, below, written => (operand.printedWithin written).mono below
  | _, _, _, _, @Operation.binary _ _ _ _ operator _ _ _ _ _ tight left right, _, written => by
      have below := precedence_le operator
      refine .binary tight (left.printedWithin (Nat.le_succ_of_le below) ?_)
        (right.printedWithin (Nat.succ_le_succ below) ?_)
      · exact all_of_subset written (by simp +contextual)
      · exact all_of_subset written (by simp +contextual)

theorem Unary.printedWithin : ∀ {lexemes : List Lexeme} {tree : Expr} {tail : Tail},
    Unary lexemes tree tail → (∀ lexeme ∈ lexemes, Written lexeme) →
    PrintedWithin Expr.atomPrecedence tree lexemes
  | _, _, _, .operand primary, written => primary.printedWithin written
  | _, _, _, .operator _ operand, written =>
      .unary (operand.printedWithin (all_of_subset written (by simp +contextual))) _

theorem Primary.printedWithin : ∀ {lexemes : List Lexeme} {tree : Expr} {tail : Tail},
    Primary lexemes tree tail → (∀ lexeme ∈ lexemes, Written lexeme) →
    PrintedWithin Expr.atomPrecedence tree lexemes
  | _, _, _, .number kind found, written => printedWithin_number (written _ (by simp)) kind found
  | _, _, _, .true _, _ => .of_atom rfl (.truth true) (.one (by decide))
  | _, _, _, .false _, _ => .of_atom rfl (.truth false) (.one (by decide))
  | _, _, _, .string kind, written => by
      obtain ⟨noQuote, noNewline⟩ := (written _ (by simp)).plainString kind
      exact .of_atom rfl (.string noQuote noNewline) (.one (fun mark => nomatch mark))
  | _, _, _, .parenthesized opening operation _, written => by
      obtain ⟨printed, spells, spares⟩ :=
        operation.printedWithin (by decide) (all_of_subset written (by simp +contextual))
      -- Nothing binds too loosely for the inside of parentheses, so that this pair is spared.
      refine ⟨printed, spells, ((spares.mono (Nat.zero_le _)).unparenthesized opening).mono ?_⟩
      split <;> omega
  | _, _, _, .chain chain, written => by
      obtain ⟨atom, ⟨_, spells, spares⟩, _⟩ := chain.printedWithin written
      exact .of_atom atom spells spares

theorem Chain.printedWithin : ∀ {lexemes : List Lexeme} {tree : Expr}, Chain lexemes tree →
    (∀ lexeme ∈ lexemes, Written lexeme) → ChainWithin tree lexemes
  | _, _, @Chain.name _ head _ kind parts _, written => by
      have first : (Expr.variable ⟨head, .origin⟩).IsLink := ⟨rfl, rfl, rfl⟩
      exact .name (written _ (by simp)) kind (first.selectAll _).precedence
        (render_selectAll_variable parts)
  | _, _, .call kind _ opening list _, written => by
      obtain ⟨printed, lexes, spares⟩ :=
        list.printedWithin (all_of_subset written (by simp +contextual))
      exact .call (written _ (by simp)) kind opening lexes spares
  | _, _, .index base _ position _, written => by
      have within := base.printedWithin (all_of_subset written (by simp +contextual))
      exact within.index
        (position.printedWithin (by decide) (all_of_subset written (by simp +contextual)))
  | _, _, .component base _ kind _, written => by
      have within := base.printedWithin (all_of_subset written (by simp +contextual))
      exact within.component ((written _ (by simp)).isWord kind).1 _

theorem Arguments.printedWithin : ∀ {lexemes : List Lexeme} {values : List Expr},
    Arguments lexemes values → (∀ lexeme ∈ lexemes, Written lexeme) →
    ∃ printed, Lexes (", ".intercalate (Expr.renderAll values)).toList printed ∧
      Spares 0 printed lexemes
  | _, _, .none, _ => ⟨[], by decide, .nil⟩
  | _, _, .some list, written => by
      obtain ⟨printed, list, spares⟩ := list.printedWithin written
      exact ⟨printed, list.joined, spares⟩

theorem CommaList.printedWithin : ∀ {lexemes : List Lexeme} {values : List Expr},
    CommaList lexemes values → (∀ lexeme ∈ lexemes, Written lexeme) → ListWithin values lexemes
  | _, _, .one operation, written => .one (operation.printedWithin (by decide) written)
  | _, _, .more list _ operation, written => by
      have earlier := list.printedWithin (all_of_subset written (by simp +contextual))
      exact earlier.snoc
        (operation.printedWithin (by decide) (all_of_subset written (by simp +contextual)))

end

end Grammar

namespace Parser

/-- The printed text of an expression has no more tokens before its end than were taken from the
text that the expression was read from, and no more opening parentheses. -/
theorem expression_printed_spares (source : String) (value : Expr) (behind : Cursor)
    (accepted : expression.run (.ofTokens (Lexed.ofString source).tokens) = .ok (value, behind)) :
    ∃ taken, (Lexed.ofString source).tokens = taken ++ (behind.rest ++ [behind.stop]) ∧
      (Lexed.ofString value.render).tokens.countP (·.kind != .endOfInput) ≤ taken.length ∧
      (Lexed.ofString value.render).tokens.countP (·.kind == .leftParen) ≤
        taken.countP (·.kind == .leftParen) := by
  obtain ⟨taken, tail, whole, operation, written⟩ := expression_taken accepted
  obtain ⟨printed, spells, length, opening⟩ := operation.printedWithin (by decide) written
  rw [value.render_erase] at spells
  have counted : ∀ property : Lexeme → Bool,
      (Lexed.ofString value.render).tokens.countP (property ∘ Token.lexeme) =
        printed.countP property + [⟨.endOfInput, ""⟩].countP property := by
    intro property
    rw [← List.countP_map, spells.lexes.map_lexeme_tokens, List.countP_append]
  refine ⟨taken, whole, ?_, ?_⟩
  · have ended : [Lexeme.mk .endOfInput ""].countP (·.kind != .endOfInput) = 0 := by decide
    have inside : printed.countP (·.kind != .endOfInput) ≤ printed.length :=
      List.countP_le_length
    refine (counted (·.kind != .endOfInput)).trans_le ?_
    rw [List.length_map] at length
    omega
  · have ended : [Lexeme.mk .endOfInput ""].countP (·.kind == .leftParen) = 0 := by decide
    refine (counted (·.kind == .leftParen)).trans_le ?_
    rw [openings, openings, List.countP_map] at opening
    rw [ended]
    exact Nat.le_of_add_right_le opening

/-- A product with parentheses that it does not need. -/
def looseProduct : String :=
  "((a+b))*-(c . d);"

/-- The product as it is printed. -/
def printedProduct : String :=
  "(a + b) * -c.d"

theorem expression_printed_spares_of_looseProduct :
    ∃ value behind taken,
      expression.run (.ofTokens (Lexed.ofString looseProduct).tokens) = .ok (value, behind) ∧
      value.render = printedProduct ∧
      (Lexed.ofString looseProduct).tokens = taken ++ (behind.rest ++ [behind.stop]) ∧
      (Lexed.ofString printedProduct).tokens.countP (·.kind != .endOfInput) ≤ taken.length ∧
      (Lexed.ofString printedProduct).tokens.countP (·.kind == .leftParen) ≤
        taken.countP (·.kind == .leftParen) := by
  have found : (expression.run (.ofTokens (Lexed.ofString looseProduct).tokens)).toOption.map
      (fun read => read.1.render) = some printedProduct := by
    decide +kernel
  obtain ⟨⟨value, behind⟩, outcome, render⟩ := Option.map_eq_some_iff.mp found
  have accepted := Except.ok_of_toOption outcome
  obtain ⟨taken, whole, tokens, opening⟩ :=
    expression_printed_spares looseProduct value behind accepted
  replace render : value.render = printedProduct := render
  rw [render] at tokens opening
  exact ⟨value, behind, taken, accepted, render, whole, tokens, opening⟩

end Parser

end RapidLang
