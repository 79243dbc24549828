import RapidLang.Proofs.Grammar.Juxtaposition
import RapidLang.Proofs.Grammar.Loose
import RapidLang.Proofs.Layout.Spelling
import RapidLang.Proofs.Parser.Completeness.Expression

/-!
# Expressions read back

The printed text of an expression is read as an expression that is printed alike. It is the same
one unless a number was out of range: that is printed as a word, and read back as a name.
-/

set_option autoImplicit false

namespace RapidLang

open Text Grammar RapidLang.Parser

namespace Expr

/-! ## Expressions that are printed alike -/

/-- How the printed text of an expression ends. -/
def layoutTail : Expr → Tail
  | .number value _ => if value.isFinite then .closed else .chain
  | .truth _ _ | .string _ _ => .closed
  | .variable _ | .index _ _ _ | .component _ _ _ | .call _ _ _ => .chain
  | .unary _ operand _ =>
    if operand.precedence != atomPrecedence then .closed else operand.layoutTail
  | .binary operator _ right _ =>
    if right.precedence ≤ operator.precedence then .closed else right.layoutTail

/-- Is the expression a call? -/
def isCall : Expr → Bool
  | .call _ _ _ => true
  | _ => false

theorem layoutStatement_of_plain {tree : Expr} (plain : tree.isCall = false) :
    tree.layoutStatement = LayoutStep.line (tree.render ++ ";") := by
  cases tree <;> first | rfl | cases plain

/-- One expression is printed like another one, and if nothing was out of range it is the same. -/
structure Rereads (exact : Prop) (tree read : Expr) : Prop where
  render : read.render = tree.render
  precedence : read.precedence = tree.precedence
  statement : read.layoutStatement = tree.layoutStatement
  same : exact → read = tree

variable {exact : Prop} {tree read : Expr}

theorem Rereads.refl (tree : Expr) : Rereads exact tree tree :=
  ⟨rfl, rfl, rfl, fun _ => rfl⟩

theorem Rereads.of_plain (plain : tree.isCall = false) (plain' : read.isCall = false)
    (render : read.render = tree.render) (precedence : read.precedence = tree.precedence)
    (same : exact → read = tree) : Rereads exact tree read := by
  refine ⟨render, precedence, ?_, same⟩
  rw [layoutStatement_of_plain plain, layoutStatement_of_plain plain', render]

end Expr

/-! ## Before the first statement of a loop -/

/-- May a head with the given tail stand before a statement that begins with the character? -/
def endsBefore (tail : Tail) : Option Char → Bool
  | some '(' => tail != .chain
  | some '-' | some '+' => false
  | _ => true

/-- The lexemes begin with one that ends every head, or with an expression whose first character
is known. -/
def Entry (first : Option Char) (lexemes : List Lexeme) : Prop :=
  IsPlain (nextKind lexemes) ∨
    OpensSimple lexemes ∧ ∃ c, first = some c ∧ opensWith c (nextKind lexemes)

/-- A statement that begins with the text of an expression. -/
theorem Spells.entry {text : String} {front rest : List Lexeme} {mark : Lexeme} {tree : Expr}
    {tail : Tail} (spells : Spells text front) (operation : Expression front tree tail)
    (kind : mark.kind = .assign ∨ mark.kind = .semicolon) :
    Entry text.toList.head? (front ++ mark :: rest) := by
  obtain ⟨c, first, opens⟩ := spells.opens
  refine .inr ⟨⟨front, rest, mark, tree, tail, rfl, operation, kind⟩, c, first, ?_⟩
  rwa [nextKind_append spells.inside]

/-- An expression with a semicolon behind it is printed as a statement. -/
theorem Spells.statement {tree read : Expr} {lexemes : List Lexeme} {tail : Tail}
    (spells : Spells tree.render lexemes) (operation : Expression lexemes read tail) :
    ∃ lexemes, Lays (LayoutStep.line (tree.render ++ ";")) lexemes ∧
      Statement lexemes (.expression read .origin) ∧ Entry tree.render.toList.head? lexemes :=
  ⟨_, spells.lexes.closed, .expression operation rfl, spells.entry operation (.inr rfl)⟩

namespace Expr

/-- What the printed text of an expression is read back as, as a part of another expression and as
a statement of its own. -/
structure Printed (exact : Prop) (tree read : Expr) : Prop where
  rereads : Rereads exact tree read
  phrase : ∃ lexemes, Spells tree.render lexemes ∧
    Operation tree.precedence lexemes read tree.layoutTail
  statement : ∃ lexemes, Lays tree.layoutStatement lexemes ∧
    Statement lexemes (.expression read .origin) ∧ Entry tree.render.toList.head? lexemes

theorem one_le_precedence (tree : Expr) : 1 ≤ tree.precedence := by
  cases tree with
  | binary operator => exact Grammar.one_le_precedence operator
  | _ => exact Nat.le_of_ble_eq_true rfl

namespace Printed

variable {exact : Prop} {tree read : Expr}

theorem of_plain {lexemes : List Lexeme} (plain : tree.isCall = false)
    (rereads : Rereads exact tree read) (spells : Spells tree.render lexemes)
    (operation : Operation tree.precedence lexemes read tree.layoutTail) :
    Printed exact tree read := by
  refine ⟨rereads, ⟨lexemes, spells, operation⟩, ?_⟩
  rw [layoutStatement_of_plain plain]
  exact spells.statement (operation.weaken tree.one_le_precedence)

theorem expression (printed : Printed exact tree read) :
    ∃ lexemes, Spells tree.render lexemes ∧ Expression lexemes read tree.layoutTail := by
  obtain ⟨lexemes, spells, operation⟩ := printed.phrase
  exact ⟨lexemes, spells, operation.weaken tree.one_le_precedence⟩

/-- With parentheses where its operator binds too loosely, an expression is an operand. -/
theorem parenthesize (printed : Printed exact tree read) (level : Nat) (needed : Bool)
    (tight : needed = false → level ≤ tree.precedence) :
    ∃ lexemes, Spells (Expr.parenthesize needed tree.render) lexemes ∧
      Operation level lexemes read (if needed then .closed else tree.layoutTail) := by
  obtain ⟨lexemes, spells, operation⟩ := printed.phrase
  cases needed with
  | false => exact ⟨lexemes, spells, operation.weaken (tight rfl)⟩
  | true =>
      refine ⟨_, Spells.parenthesized spells.lexes, .operand (.operand ?_)⟩
      exact .parenthesized rfl (operation.weaken tree.one_le_precedence) rfl

end Printed

variable {exact : Prop} {tree read : Expr}

/-! ## Lists -/

theorem renderAll_eq_map (values : List Expr) : renderAll values = values.map render := by
  induction values with
  | nil => rfl
  | cons first rest ih => exact congrArg (first.render :: ·) ih

/-- What the printed texts of several expressions are read back as. -/
structure ListPrinted (exact : Prop) (values reads : List Expr) (lexemes : List Lexeme) : Prop where
  list : ListLexes (renderAll values) lexemes
  phrase : CommaList lexemes reads
  render : renderAll reads = renderAll values
  same : exact → reads = values
  opens : ∃ text texts c, renderAll values = text :: texts ∧ text.toList.head? = some c ∧
    opensWith c (nextKind lexemes)

theorem ListPrinted.one (printed : Printed exact tree read) :
    ∃ lexemes, ListPrinted exact [tree] [read] lexemes := by
  obtain ⟨lexemes, spells, operation⟩ := printed.expression
  obtain ⟨c, first, opens⟩ := spells.opens
  refine ⟨lexemes, .one spells.lexes spells.filled, .one operation, ?_, fun holds => ?_, ?_⟩
  · simp only [renderAll, printed.rereads.render]
  · rw [printed.rereads.same holds]
  · exact ⟨_, [], c, rfl, first, opens⟩

theorem ListPrinted.snoc {values reads : List Expr} {lexemes : List Lexeme}
    (list : ListPrinted exact values reads lexemes) (printed : Printed exact tree read) :
    ∃ lexemes, ListPrinted exact (values ++ [tree]) (reads ++ [read]) lexemes := by
  obtain ⟨rest, spells, operation⟩ := printed.expression
  obtain ⟨text, texts, c, split, first, opens⟩ := list.opens
  have render := list.render
  simp only [renderAll_eq_map] at split render
  refine ⟨lexemes ++ ⟨.comma, ","⟩ :: rest, ?_, .more list.phrase rfl operation, ?_,
    fun holds => ?_, text, texts ++ [tree.render], c, ?_, first, ?_⟩
  · have whole := list.list.snoc spells.lexes spells.filled
    simpa [renderAll_eq_map] using whole
  · simp [renderAll_eq_map, render, printed.rereads.render]
  · rw [list.same holds, printed.rereads.same holds]
  · simp [renderAll_eq_map, split]
  · rwa [nextKind_append_of_starts list.phrase.starts]

/-- What the printed arguments of a call are read back as. -/
def ArgumentsPrinted (exact : Prop) (values reads : List Expr) : Prop :=
  values = [] ∧ reads = [] ∨ ∃ lexemes, ListPrinted exact values reads lexemes

/-! ## Names and what follows them -/

/-- What the printed text of an expression that begins with a name is read back as, also with
components behind it. -/
structure ChainPrinted (exact : Prop) (tree read : Expr) : Prop where
  printed : Printed exact tree read
  chain : ∃ lexemes, Spells tree.render lexemes ∧ Chain lexemes read
  longer : ∀ word : String, IsWord word.toList → "" ∉ nameParts word →
    ∃ lexemes, Spells (tree.render ++ "." ++ word) lexemes ∧
      Chain lexemes (selectAll read (nameParts word))

/-- The expression is no call and ends in a chain. -/
structure IsLink (tree : Expr) : Prop where
  precedence : tree.precedence = atomPrecedence
  tail : tree.layoutTail = .chain
  plain : tree.isCall = false

theorem IsLink.selectAll {base : Expr} (link : base.IsLink) (parts : List String) :
    (selectAll base parts).IsLink := by
  induction parts generalizing base with
  | nil => exact link
  | cons part parts ih => exact ih ⟨rfl, rfl, rfl⟩

theorem isLink_selectAll {parts : List String} (some : parts ≠ []) (base : Expr) :
    (Grammar.selectAll base parts).IsLink := by
  cases parts with
  | nil => exact absurd rfl some
  | cons part parts =>
      have first : (component base ⟨part, .origin⟩ .origin).IsLink := ⟨rfl, rfl, rfl⟩
      exact first.selectAll parts

theorem isLink_nameParts (base : Expr) (word : String) :
    (Grammar.selectAll base (nameParts word)).IsLink :=
  isLink_selectAll (mt List.map_eq_nil_iff.mp (splitDots_ne_nil _)) base

theorem IsLink.printed (link : tree.IsLink) {lexemes : List Lexeme}
    (rereads : Rereads exact tree read) (spells : Spells tree.render lexemes)
    (chain : Chain lexemes read) : Printed exact tree read := by
  refine .of_plain link.plain rereads spells ?_
  rw [link.tail]
  exact .operand (.operand (.chain chain))

/-- A dot and a word behind a bracket. -/
theorem chain_component {text : String} {lexemes : List Lexeme} (spells : Spells text lexemes)
    (complete : isSealed text.toList) (chain : Chain lexemes read) {word : String}
    (word' : IsWord word.toList) (named : "" ∉ nameParts word) :
    ∃ lexemes, Spells (text ++ "." ++ word) lexemes ∧
      Chain lexemes (Grammar.selectAll read (nameParts word)) := by
  have same : (wordLexeme word.toList).text = word := String.ofList_toList
  have whole : Chain (lexemes ++ [⟨.dot, "."⟩, wordLexeme word.toList])
      (Grammar.selectAll read (nameParts (wordLexeme word.toList).text)) :=
    .component chain rfl (kind_wordLexeme word.toList) (by rwa [same])
  rw [same] at whole
  exact ⟨_, spells.component complete word', whole⟩

theorem chainPrinted_name {word : Lexeme} {head : String} {components : List String}
    (written : Written word) (kind : word.kind = .identifier)
    (parts : nameParts word.text = head :: components) (named : "" ∉ nameParts word.text) :
    ChainPrinted exact (Grammar.selectAll (.variable ⟨head, .origin⟩) components)
      (Grammar.selectAll (.variable ⟨head, .origin⟩) components) := by
  have render := render_selectAll_variable parts
  have first : («variable» ⟨head, .origin⟩).IsLink := ⟨rfl, rfl, rfl⟩
  have link := first.selectAll components
  have spells := Spells.of_written written (.inl kind)
  have chain := Chain.name kind parts named
  refine ⟨link.printed (.refl _) (render ▸ spells) chain, ⟨_, render ▸ spells, chain⟩, ?_⟩
  intro more word' named'
  have spells' := Spells.dotted written kind word'
  have kind' := kind_wordLexeme_of_dot (show '.' ∈ (word.text ++ "." ++ more).toList by simp)
  have text : (wordLexeme (word.text ++ "." ++ more).toList).text = word.text ++ "." ++ more :=
    String.ofList_toList
  generalize wordLexeme (word.text ++ "." ++ more).toList = lexeme at spells' kind' text
  have parts' : nameParts lexeme.text = head :: (components ++ nameParts more) := by
    rw [text, nameParts_append_dot, parts, List.cons_append]
  have named'' : "" ∉ nameParts lexeme.text := by
    rw [text, nameParts_append_dot, List.mem_append, not_or]
    exact ⟨named, named'⟩
  have longer := Chain.name kind' parts' named''
  rw [Grammar.selectAll, List.foldl_append] at longer
  exact ⟨[lexeme], by rwa [render], longer⟩

/-! ## Calls -/

theorem ArgumentsPrinted.render {values reads : List Expr}
    (arguments : ArgumentsPrinted exact values reads) : renderAll reads = renderAll values := by
  obtain ⟨rfl, rfl⟩ | ⟨_, list⟩ := arguments
  · rfl
  · exact list.render

theorem ArgumentsPrinted.same {values reads : List Expr}
    (arguments : ArgumentsPrinted exact values reads) (holds : exact) : reads = values := by
  obtain ⟨rfl, rfl⟩ | ⟨_, list⟩ := arguments
  · rfl
  · exact list.same holds

theorem ArgumentsPrinted.lexes {values reads : List Expr}
    (arguments : ArgumentsPrinted exact values reads) :
    ∃ lexemes, Lexes (", ".intercalate (renderAll values)).toList lexemes ∧
      Arguments lexemes reads := by
  obtain ⟨rfl, rfl⟩ | ⟨lexemes, list⟩ := arguments
  · exact ⟨[], by decide, .none⟩
  · exact ⟨lexemes, list.list.joined, .some list.phrase⟩

/-- What may begin an argument of a call without parentheses belongs to no expression before it. -/
theorem startsArgument_of_opensWith {c : Char} {kind : TokenKind} (starts : startsExpression kind)
    (opens : opensWith c kind) (bare : (c != '(' && c != '-' && c != '+') = true) :
    startsArgument kind ∧ Stops 1 .chain kind := by
  simp only [Bool.and_eq_true, bne_iff_ne] at bare
  obtain ⟨⟨parenthesis, minus⟩, plus⟩ := bare
  have apart : (c == '(') = false ∧ (c == '-') = false ∧ (c == '+') = false :=
    ⟨beq_eq_false_iff_ne.mpr parenthesis, beq_eq_false_iff_ne.mpr minus,
      beq_eq_false_iff_ne.mpr plus⟩
  rw [opensWith, apart.1, apart.2.1, apart.2.2] at opens
  cases kind <;> first
    | exact absurd starts (by decide)
    | exact absurd opens (by decide)
    | exact ⟨rfl, .of_plain rfl rfl⟩

/-- A call whose arguments may stand bare is printed as such a statement. -/
theorem statement_of_bare {word : Lexeme} (written : Written word) (kind : word.kind = .identifier)
    {values reads : List Expr} (arguments : ArgumentsPrinted exact values reads)
    (bare : standsBare ⟨word.text, .origin⟩ (renderAll values)) :
    ∃ lexemes, Lays [.write (word.text ++ " "), .list (renderAll values), .write ";", .endLine]
        lexemes ∧
      Statement lexemes (.expression (.call ⟨word.text, .origin⟩ reads .origin) .origin) ∧
      nextKind lexemes = .identifier := by
  obtain ⟨rfl, rfl⟩ | ⟨lexemes, list⟩ := arguments
  · cases bare
  obtain ⟨text, texts, c, split, first, opens⟩ := list.opens
  rw [split, standsBare, Bool.and_eq_true] at bare
  obtain ⟨plain, bare⟩ := bare
  replace plain : '.' ∉ word.text.toList := by simpa using plain
  replace bare : (c != '(' && c != '-' && c != '+') = true := by
    cases chars : text.toList with
    | nil =>
        rw [chars] at first
        cases first
    | cons d rest =>
        rw [chars] at first bare
        cases first
        exact bare
  obtain ⟨starts, stops⟩ := startsArgument_of_opensWith list.phrase.starts opens bare
  have spells := Spells.of_written written (.inl kind)
  have blanks : Separates " " [] := by decide
  have named : word.text ≠ "" := by
    rintro empty
    exact spells.filled (by rw [empty]; rfl)
  refine ⟨_, .listed (spells.put blanks.1 (.inr blanks.2.1)).lexes
    (spells.put blanks.1 (.inr blanks.2.1)).filled
    (spells.lexes.isSealed_put blanks) list.list, ?_, kind⟩
  exact .call (.operand (.operand (.chain (.word kind plain named)))) stops starts list.phrase rfl

theorem chainPrinted_call {word : Lexeme} (written : Written word) (kind : word.kind = .identifier)
    {values reads : List Expr} (arguments : ArgumentsPrinted exact values reads) :
    ChainPrinted exact (.call ⟨word.text, .origin⟩ values .origin)
      (.call ⟨word.text, .origin⟩ reads .origin) := by
  obtain ⟨lexemes, lexes, phrase⟩ := arguments.lexes
  have name := Spells.of_written written (.inl kind)
  have named : word.text ≠ "" := by
    rintro empty
    exact name.filled (by rw [empty]; rfl)
  obtain ⟨spells, complete⟩ : Spells (Expr.call ⟨word.text, .origin⟩ values .origin).render
        ([word] ++ ⟨.leftParen, "("⟩ :: (lexemes ++ [⟨.rightParen, ")"⟩])) ∧
      isSealed (Expr.call ⟨word.text, .origin⟩ values .origin).render.toList :=
    name.enclose (by decide) lexes (by decide)
  have chain : Chain ([word] ++ ⟨.leftParen, "("⟩ :: (lexemes ++ [⟨.rightParen, ")"⟩]))
      (.call ⟨word.text, .origin⟩ reads .origin) := .call kind named rfl phrase rfl
  have rereads : Rereads exact (.call ⟨word.text, .origin⟩ values .origin)
      (.call ⟨word.text, .origin⟩ reads .origin) := by
    refine ⟨?_, rfl, ?_, fun holds => by rw [arguments.same holds]⟩
    · simp only [Expr.render, arguments.render]
    · simp only [layoutStatement, Expr.render, arguments.render]
  have operation : Operation atomPrecedence _ _ .chain := .operand (.operand (.chain chain))
  refine ⟨⟨rereads, ⟨_, spells, operation⟩, ?_⟩, ⟨_, spells, chain⟩, fun more word' named' =>
    chain_component spells complete chain word' named'⟩
  simp only [layoutStatement]
  split
  · next bare =>
      obtain ⟨_, lays, statement, starts⟩ := statement_of_bare written kind arguments bare
      exact ⟨_, lays, statement, .inl (by rw [starts]; exact ⟨rfl, rfl⟩)⟩
  · exact spells.statement (operation.weaken (by decide))

/-! ## Indices and components -/

theorem ChainPrinted.index {position place : Expr} (base : ChainPrinted exact tree read)
    (inner : Printed exact position place) :
    ChainPrinted exact (.index tree position .origin) (.index read place .origin) := by
  obtain ⟨lexemes, spells, chain⟩ := base.chain
  obtain ⟨rest, spells', operation⟩ := inner.expression
  obtain ⟨whole, complete⟩ : Spells (Expr.index tree position .origin).render
        (lexemes ++ ⟨.leftBracket, "["⟩ :: (rest ++ [⟨.rightBracket, "]"⟩])) ∧
      isSealed (Expr.index tree position .origin).render.toList :=
    spells.enclose (by decide) spells'.lexes (by decide)
  have chain' : Chain (lexemes ++ ⟨.leftBracket, "["⟩ :: (rest ++ [⟨.rightBracket, "]"⟩]))
      (.index read place .origin) := .index chain rfl operation rfl
  have link : (Expr.index tree position .origin).IsLink := ⟨rfl, rfl, rfl⟩
  have rereads : Rereads exact (.index tree position .origin) (.index read place .origin) := by
    refine .of_plain rfl rfl ?_ rfl fun holds => ?_
    · simp only [Expr.render, base.printed.rereads.render, inner.rereads.render]
    · rw [base.printed.rereads.same holds, inner.rereads.same holds]
  exact ⟨link.printed rereads whole chain', ⟨_, whole, chain'⟩, fun word word' named =>
    chain_component whole complete chain' word' named⟩

theorem ChainPrinted.component {word : String} (base : ChainPrinted exact tree read)
    (word' : IsWord word.toList) (named : "" ∉ nameParts word) :
    ChainPrinted exact (Grammar.selectAll tree (nameParts word))
      (Grammar.selectAll read (nameParts word)) := by
  obtain ⟨lexemes, spells, chain⟩ := base.longer word word' named
  have link := isLink_nameParts tree word
  have link' := isLink_nameParts read word
  have rereads : Rereads exact (Grammar.selectAll tree (nameParts word))
      (Grammar.selectAll read (nameParts word)) := by
    refine .of_plain link.plain link'.plain ?_ (link'.precedence.trans link.precedence.symm)
      fun holds => by rw [base.printed.rereads.same holds]
    rw [render_selectAll, render_selectAll, base.printed.rereads.render]
  rw [← render_selectAll] at spells
  refine ⟨link.printed rereads spells chain, ⟨lexemes, spells, chain⟩, fun more word'' named' => ?_⟩
  have joined : IsWord (word ++ "." ++ more).toList := by
    simpa using word'.append_dot word''
  have named'' : "" ∉ nameParts (word ++ "." ++ more) := by
    rw [nameParts_append_dot, List.mem_append, not_or]
    exact ⟨named, named'⟩
  obtain ⟨lexemes', spells', chain'⟩ := base.longer _ joined named''
  rw [nameParts_append_dot, Grammar.selectAll, List.foldl_append] at chain'
  refine ⟨lexemes', ?_, chain'⟩
  rw [render_selectAll]
  simpa [String.append_assoc] using spells'

/-! ## Numbers, strings and truth values -/

theorem printed_number {literal : Lexeme} {value : Binary64} (fit : Fit exact literal)
    (kind : literal.kind = .number) (found : Binary64.read? literal.text = some value) :
    ∃ read, Printed exact (.number value .origin) read := by
  obtain ⟨rfl, spells⟩ | ⟨finite, spells, reads⟩ := Spells.number fit.1 kind found
  · -- A number out of range is printed as a word.
    have chain : Chain [⟨.identifier, "inf"⟩] (.variable ⟨"inf", .origin⟩) :=
      .word rfl (by decide) (by decide)
    refine ⟨.variable ⟨"inf", .origin⟩, .of_plain rfl (.of_plain rfl rfl rfl rfl fun holds => ?_)
      spells (.operand (.operand (.chain chain)))⟩
    cases fit.2 holds kind _ found
  · have tail : (Expr.number value .origin).layoutTail = .closed := if_pos finite
    refine ⟨_, .of_plain rfl (.refl _) spells ?_⟩
    rw [tail]
    exact .operand (.operand (.number rfl reads))

theorem printed_truth (value : Bool) :
    Printed exact (.truth value .origin) (.truth value .origin) := by
  refine .of_plain rfl (.refl _) (.truth value) ?_
  cases value with
  | true => exact .operand (.operand (.true rfl))
  | false => exact .operand (.operand (.false rfl))

theorem printed_string {text : String} (noQuote : '"' ∉ text.toList)
    (noNewline : '\n' ∉ text.toList) :
    Printed exact (.string text .origin) (.string text .origin) :=
  .of_plain rfl (.refl _) (.string noQuote noNewline) (.operand (.operand (.string rfl)))

/-! ## Operators -/

theorem Printed.unary (printed : Printed exact tree read) (operator : UnaryOperator) :
    Printed exact (.unary operator tree .origin) (.unary operator read .origin) := by
  obtain ⟨lexemes, spells, operation⟩ :=
    printed.parenthesize atomPrecedence (tree.precedence != atomPrecedence) fun exactly =>
      Nat.le_of_eq (bne_eq_false_iff_eq.mp exactly).symm
  have operand := operation.unary_of_tight (by decide)
  refine .of_plain rfl ?_ (.signed operator spells.lexes) (.operand (.operator ?_ operand))
  · refine .of_plain rfl rfl ?_ rfl fun holds => by rw [printed.rereads.same holds]
    simp only [Expr.render, printed.rereads.render, printed.rereads.precedence]
  · cases operator <;> rfl

theorem Printed.binary {other read' : Expr} (left : Printed exact tree read)
    (right : Printed exact other read') (operator : BinaryOperator) :
    Printed exact (.binary operator tree other .origin) (.binary operator read read' .origin) := by
  obtain ⟨lexemes, spells, operation⟩ :=
    left.parenthesize operator.precedence (tree.precedence < operator.precedence)
      fun tight => by simpa using tight
  obtain ⟨rest, spells', operation'⟩ :=
    right.parenthesize (operator.precedence + 1)
      (other.precedence ≤ operator.precedence) fun tight => by
        simpa [Nat.succ_le_iff] using tight
  refine .of_plain rfl ?_ (.operated operator spells spells'.lexes) ?_
  · refine .of_plain rfl rfl ?_ rfl fun holds => by
      rw [left.rereads.same holds, right.rereads.same holds]
    simp only [Expr.render, left.rereads.render, left.rereads.precedence, right.rereads.render,
      right.rereads.precedence]
  · simp only [decide_eq_true_eq] at operation'
    exact .binary (binaryOperator?_lexeme operator) (Nat.le_refl _) operation operation'

end Expr

/-! ## The expressions of a text -/

section Phrases

variable {exact : Prop}

open RapidLang.Expr

/-- What holds of lexemes holds of a part of them. -/
theorem all_of_subset {property : Lexeme → Prop} {lexemes part : List Lexeme}
    (all : ∀ lexeme ∈ lexemes, property lexeme) (within : ∀ lexeme ∈ part, lexeme ∈ lexemes) :
    ∀ lexeme ∈ part, property lexeme :=
  fun lexeme member => all lexeme (within lexeme member)

mutual

/-- The printed text of an expression of a text is read back. -/
theorem Grammar.Operation.printed : ∀ {level : Nat} {lexemes : List Lexeme} {tree : Expr}
    {tail : Tail}, Operation level lexemes tree tail → (∀ lexeme ∈ lexemes, Fit exact lexeme) →
    ∃ read, Printed exact tree read
  | _, _, _, _, .operand operand, fit => operand.printed fit
  | _, _, _, _, @Operation.binary _ _ _ _ operator _ _ _ _ _ _ left right, fit => by
      obtain ⟨read, left⟩ := left.printed (all_of_subset fit (by simp +contextual))
      obtain ⟨read', right⟩ := right.printed (all_of_subset fit (by simp +contextual))
      exact ⟨_, left.binary right operator⟩

theorem Grammar.Unary.printed : ∀ {lexemes : List Lexeme} {tree : Expr} {tail : Tail},
    Unary lexemes tree tail → (∀ lexeme ∈ lexemes, Fit exact lexeme) →
    ∃ read, Printed exact tree read
  | _, _, _, .operand primary, fit => primary.printed fit
  | _, _, _, @Unary.operator _ operator _ _ _ _ operand, fit => by
      obtain ⟨read, printed⟩ := operand.printed (all_of_subset fit (by simp +contextual))
      exact ⟨_, printed.unary operator⟩

theorem Grammar.Primary.printed : ∀ {lexemes : List Lexeme} {tree : Expr} {tail : Tail},
    Primary lexemes tree tail → (∀ lexeme ∈ lexemes, Fit exact lexeme) →
    ∃ read, Printed exact tree read
  | _, _, _, .number kind found, fit => printed_number (fit _ (by simp)) kind found
  | _, _, _, .true _, _ => ⟨_, printed_truth true⟩
  | _, _, _, .false _, _ => ⟨_, printed_truth false⟩
  | _, _, _, .string kind, fit => by
      obtain ⟨noQuote, noNewline⟩ := (fit _ (by simp)).1.plainString kind
      exact ⟨_, printed_string noQuote noNewline⟩
  | _, _, _, .parenthesized _ operation _, fit =>
      operation.printed (all_of_subset fit (by simp +contextual))
  | _, _, _, .chain chain, fit => by
      obtain ⟨read, printed⟩ := chain.printed fit
      exact ⟨read, printed.printed⟩

theorem Grammar.Chain.printed : ∀ {lexemes : List Lexeme} {tree : Expr}, Chain lexemes tree →
    (∀ lexeme ∈ lexemes, Fit exact lexeme) → ∃ read, ChainPrinted exact tree read
  | _, _, .name kind parts named, fit =>
      ⟨_, chainPrinted_name (fit _ (by simp)).1 kind parts named⟩
  | _, _, .call kind _ _ list _, fit => by
      obtain ⟨reads, arguments⟩ := list.printed (all_of_subset fit (by simp +contextual))
      exact ⟨_, chainPrinted_call (fit _ (by simp)).1 kind arguments⟩
  | _, _, .index base _ position _, fit => by
      obtain ⟨read, base⟩ := base.printed (all_of_subset fit (by simp +contextual))
      obtain ⟨place, inner⟩ := position.printed (all_of_subset fit (by simp +contextual))
      exact ⟨_, base.index inner⟩
  | _, _, .component base _ kind named, fit => by
      obtain ⟨read, base⟩ := base.printed (all_of_subset fit (by simp +contextual))
      exact ⟨_, base.component ((fit _ (by simp)).1.isWord kind).1 named⟩

theorem Grammar.Arguments.printed : ∀ {lexemes : List Lexeme} {values : List Expr},
    Arguments lexemes values → (∀ lexeme ∈ lexemes, Fit exact lexeme) →
    ∃ reads, ArgumentsPrinted exact values reads
  | _, _, .none, _ => ⟨[], .inl ⟨rfl, rfl⟩⟩
  | _, _, .some list, fit => by
      obtain ⟨reads, lexemes, list⟩ := list.printed fit
      exact ⟨reads, .inr ⟨lexemes, list⟩⟩

theorem Grammar.CommaList.printed : ∀ {lexemes : List Lexeme} {values : List Expr},
    CommaList lexemes values → (∀ lexeme ∈ lexemes, Fit exact lexeme) →
    ∃ reads lexemes, ListPrinted exact values reads lexemes
  | _, _, .one operation, fit => by
      obtain ⟨read, printed⟩ := operation.printed fit
      exact ⟨[read], ListPrinted.one printed⟩
  | _, _, .more earlier _ operation, fit => by
      obtain ⟨reads, lexemes, list⟩ := earlier.printed (all_of_subset fit (by simp +contextual))
      obtain ⟨read, printed⟩ := operation.printed (all_of_subset fit (by simp +contextual))
      exact ⟨reads ++ [read], list.snoc printed⟩

end

end Phrases

end RapidLang
