import RapidLang.Proofs.Parser.Phrases.Expression
import RapidLang.Proofs.Parser.Ends

/-!
# Expressions of the grammar are read

The reader of expressions takes every expression of the grammar that the next lexeme does not
belong to, with the tree that the grammar gives it.
-/

set_option autoImplicit false

namespace RapidLang

namespace Parser

open Grammar Reader

/-- At cursors with fewer lexemes left than a bound, the reader takes every operation of a level
that ends before the next lexeme. -/
def TakesOperations (level bound : Nat) (reader : Reader Expr) : Prop :=
  ∀ ⦃cursor : Cursor⦄ ⦃lexemes : List Lexeme⦄ ⦃tree : Expr⦄ ⦃tail : Tail⦄ (more : List Lexeme),
    cursor.left < bound → Operation level lexemes tree tail → cursor.lexemes = lexemes ++ more →
    Stops level tail (nextKind more) → reader.Takes cursor (fun read => erase read = tree) more

variable {reader : Reader Expr} {bound : Nat} {cursor : Cursor} {goal : Expr → Prop}
  {last : List Lexeme}

/-! ## Names -/

theorem takeNames_takes {word : Lexeme} {more : List Lexeme} (split : cursor.lexemes = word :: more)
    (named : "" ∉ nameParts word.text) :
    takeNames.Takes cursor (fun names => names.map Name.text = nameParts word.text) more := by
  obtain ⟨rfl, left⟩ := Cursor.current_of_lexemes split
  have found : names? cursor.current = some (dottedNames cursor.current) :=
    names?_eq_some_iff.mpr ⟨named, rfl⟩
  exact ⟨_, _, run_takeAs_of_some found, map_text_dottedNames _, left⟩

/-- A word that is not a routine before its arguments is a name with components. -/
theorem chainHead_takes_names {word : Lexeme} {head : String} {components : List String}
    {more : List Lexeme} (split : cursor.lexemes = word :: more)
    (parts : nameParts word.text = head :: components) (named : "" ∉ nameParts word.text)
    (apart : '.' ∈ word.text.toList → nextKind more ≠ .leftParen) :
    chainHead.Takes cursor
      (fun read => erase read = selectAll (.variable ⟨head, .origin⟩) components) more := by
  obtain ⟨rfl, left⟩ := Cursor.current_of_lexemes split
  replace parts : nameParts cursor.current.text = head :: components := parts
  have texts := (map_text_dottedNames cursor.current).trans parts
  obtain ⟨name, names, word, rfl, rfl⟩ := List.map_eq_cons_iff.mp texts
  have found : headNames? cursor.current cursor.advance.kind = some (name :: names) := by
    rw [← word]
    refine headNames?_of_names named fun dotted => ?_
    rw [Cursor.kind_eq_nextKind, left]
    exact apart dotted
  exact ⟨_, _, run_chainHead_of_some found rfl, erase_foldl_select names (.variable name), left⟩

/-- A word before a parenthesis is the name of a routine. -/
theorem chainHead_takes_routine {word : Lexeme} {more : List Lexeme}
    (split : cursor.lexemes = word :: more) (some : word.text ≠ "")
    (opening : nextKind more = .leftParen) :
    chainHead.Takes cursor (fun read => erase read = .variable ⟨word.text, .origin⟩) more := by
  by_cases dotted : '.' ∈ word.text.toList
  · obtain ⟨rfl, left⟩ := Cursor.current_of_lexemes split
    rw [← left, ← Cursor.kind_eq_nextKind] at opening
    exact ⟨_, _, run_chainHead_of_some (headNames?_of_routine dotted opening) rfl, rfl, left⟩
  · have parts := nameParts_of_not_mem dotted
    refine chainHead_takes_names split parts ?_ (fun member => absurd member dotted)
    rw [parts]
    exact fun member => some (List.mem_singleton.mp member).symm

/-! ## Calls, indices and components -/

theorem CommaList.separated {phrase : List Lexeme → Expr → Prop} :
    ∀ {lexemes : List Lexeme} {values : List Expr}, CommaList lexemes values →
    (∀ lexemes value tail, Operation 1 lexemes value tail → phrase lexemes value) →
    Separated phrase lexemes values
  | _, _, .one operation, each => .one (each _ _ _ operation)
  | _, _, .more list comma operation, each =>
      .more (CommaList.separated list each) comma (each _ _ _ operation)

/-- A kind of token that belongs to no expression before it. -/
def IsPlain (kind : TokenKind) : Prop :=
  binaryOperator? kind = none ∧ startsSuffix kind = false

theorem IsPlain.stops {level : Nat} {tail : Tail} {kind : TokenKind} (plain : IsPlain kind) :
    Stops level tail kind :=
  .of_plain plain.1 plain.2

theorem commaSeparated_takes (inner : TakesOperations 1 bound reader) {lexemes more : List Lexeme}
    {values : List Expr} (near : cursor.left < bound) (list : CommaList lexemes values)
    (split : cursor.lexemes = lexemes ++ more) (plain : IsPlain (nextKind more))
    (stop : nextKind more ≠ .comma) :
    (commaSeparated reader).Takes cursor (fun read => erase read = values) more := by
  have operations : Separated (fun lexemes value => ∃ tail, Operation 1 lexemes value tail)
      lexemes values := CommaList.separated list fun _ _ tail operation => ⟨tail, operation⟩
  refine .separated operations split ?_ stop
  rintro here front value behind nearer ⟨tail, operation⟩ split' next
  refine inner behind (Nat.lt_of_le_of_lt nearer near) operation split' ?_
  rcases next with comma | rfl
  · rw [comma]
    exact .of_plain rfl rfl
  · exact plain.stops

theorem arguments_takes (inner : TakesOperations 1 bound reader) {lexemes more : List Lexeme}
    {values : List Expr} (near : cursor.left < bound) (list : Arguments lexemes values)
    (split : cursor.lexemes = lexemes ++ more) (close : nextKind more = .rightParen) :
    (arguments reader).Takes cursor (fun read => erase read = values) more := by
  unfold Parser.arguments
  refine .peekKind_bind ?_
  cases list with
  | none =>
      rw [if_pos (by rw [Cursor.kind_eq_nextKind, split]; exact close)]
      exact .pure rfl split
  | some list =>
      rw [if_neg]
      · refine commaSeparated_takes inner near list split ?_ ?_
        · rw [close]
          exact ⟨rfl, rfl⟩
        · rw [close]
          decide
      · rw [Cursor.kind_eq_nextKind, split, nextKind_append_of_starts list.starts]
        intro same
        have starts := list.starts
        rw [same] at starts
        cases starts

theorem callSuffix_takes (inner : TakesOperations 1 bound reader) {opening close : Lexeme}
    {lexemes more : List Lexeme} {values : List Expr} {name : Name} (near : cursor.left ≤ bound)
    (list : Arguments lexemes values) (kind : close.kind = .rightParen)
    (split : cursor.lexemes = opening :: (lexemes ++ close :: more)) :
    (callSuffix reader name).Takes cursor
      (fun read => erase read = .call (erase name) values .origin) more := by
  unfold callSuffix
  refine .take_bind split fun _ here _ left => ?_
  have nearer := Nat.lt_of_lt_of_le (Cursor.left_lt_of_cons split left) near
  refine .bind (arguments_takes inner nearer list left kind) fun read behind same left => ?_
  refine .expect_bind left kind fun _ _ _ left => .pure ?_ left
  rw [erase_call, same]

theorem indexSuffix_takes (inner : TakesOperations 1 bound reader) {opening close : Lexeme}
    {position more : List Lexeme} {base place : Expr} {tail : Tail} (near : cursor.left ≤ bound)
    (operation : Operation 1 position place tail) (kind : close.kind = .rightBracket)
    (split : cursor.lexemes = opening :: (position ++ close :: more)) :
    (indexSuffix reader base).Takes cursor
      (fun read => erase read = .index (erase base) place .origin) more := by
  unfold indexSuffix
  refine .take_bind split fun _ here _ left => ?_
  have nearer := Nat.lt_of_lt_of_le (Cursor.left_lt_of_cons split left) near
  have stops : Stops 1 tail (nextKind (close :: more)) := by
    rw [nextKind, kind]
    exact .of_plain rfl rfl
  refine .bind (inner _ nearer operation left stops) fun read behind same left => ?_
  refine .expect_bind left kind fun _ _ _ left => .pure ?_ left
  rw [erase_index, same]

theorem componentSuffix_takes {dot word : Lexeme} {more : List Lexeme} {base : Expr}
    (kind : word.kind = .identifier ∨ word.kind.isReserved) (named : "" ∉ nameParts word.text)
    (split : cursor.lexemes = dot :: word :: more) :
    (componentSuffix base).Takes cursor
      (fun read => erase read = selectAll (erase base) (nameParts word.text)) more := by
  unfold componentSuffix
  refine .take_bind split fun _ here _ left => .peekKind_bind ?_
  rw [if_pos]
  · refine .bind (takeNames_takes left named) fun names behind texts left => .pure ?_ left
    rw [erase_foldl_select, texts]
  · rw [Cursor.kind_of_lexemes left]
    simpa using kind

theorem length_lt_bracketed {opening close : Lexeme} {inner more : List Lexeme} :
    more.length < (opening :: (inner ++ close :: more)).length := by
  simp only [List.length_cons, List.length_append]
  omega

/-- Whatever the reader of a chain does behind what the chain is so far, it does before it. -/
theorem nameChain_passes (inner : TakesOperations 1 bound reader) :
    ∀ {lexemes : List Lexeme} {tree : Expr}, Chain lexemes tree →
      ∀ {cursor : Cursor} (more : List Lexeme), cursor.left ≤ bound →
      cursor.lexemes = lexemes ++ more → nextKind more ≠ .leftParen →
      (∀ value behind, erase value = tree → behind.lexemes = more →
        (Reader.steps startsSuffix (suffix reader) value).Takes behind goal last) →
      (nameChain reader).Takes cursor goal last
  | _, _, .name _ parts named, _, _, _, split, apart, onward => by
      exact .bind (chainHead_takes_names split parts named fun _ => apart) onward
  | _, _, @Chain.call word opening close lexemes values _ named kind list kind', cursor, more, near,
      split, _, onward => by
      replace split : cursor.lexemes = word :: opening :: (lexemes ++ close :: more) := by
        simpa using split
      refine .bind (chainHead_takes_routine split named kind) fun head here same left => ?_
      have near' := Nat.le_trans (Nat.le_of_lt (Cursor.left_lt_of_cons split left)) near
      cases head with
      | «variable» name =>
          refine .steps_next ?_ ?_ ?_ onward
          · rw [left]
            exact congrArg startsSuffix kind
          · unfold suffix
            refine .peekKind_bind ?_
            rw [Cursor.kind_of_lexemes left, kind]
            refine (callSuffix_takes inner near' list kind' left).mono fun read same' => ?_
            rw [same', Expr.variable.inj same]
          · rw [left]
            exact length_lt_bracketed
      | _ => cases same
  | _, _, @Chain.index base position opening close tree place tail chain kind operation kind',
      cursor, more, near, split, _, onward => by
      replace split : cursor.lexemes = base ++ opening :: (position ++ close :: more) := by
        simpa using split
      have apart : nextKind (opening :: (position ++ close :: more)) ≠ .leftParen := by
        show opening.kind ≠ .leftParen
        rw [kind]
        decide
      refine nameChain_passes inner chain _ near split apart fun value here same left => ?_
      have near' := Nat.le_trans (Cursor.left_le_of_append split left) near
      refine .steps_next ?_ ?_ ?_ onward
      · rw [left]
        exact congrArg startsSuffix kind
      · unfold suffix
        refine .peekKind_bind ?_
        rw [Cursor.kind_of_lexemes left, kind]
        exact same ▸ indexSuffix_takes inner near' operation kind' left
      · rw [left]
        exact length_lt_bracketed
  | _, _, @Chain.component base dot word tree chain kind kind' named, cursor, more, near, split, _,
      onward => by
      replace split : cursor.lexemes = base ++ dot :: word :: more := by simpa using split
      have apart : nextKind (dot :: word :: more) ≠ .leftParen := by
        show dot.kind ≠ .leftParen
        rw [kind]
        decide
      refine nameChain_passes inner chain _ near split apart fun value here same left => ?_
      refine .steps_next ?_ ?_ ?_ onward
      · rw [left]
        exact congrArg startsSuffix kind
      · unfold suffix
        refine .peekKind_bind ?_
        rw [Cursor.kind_of_lexemes left, kind]
        exact same ▸ componentSuffix_takes kind' named left
      · rw [left]
        exact Nat.lt_succ_of_lt (Nat.lt_succ_self _)

theorem nameChain_takes (inner : TakesOperations 1 bound reader) {lexemes more : List Lexeme}
    {tree : Expr} (near : cursor.left ≤ bound) (chain : Chain lexemes tree)
    (split : cursor.lexemes = lexemes ++ more) (stops : startsSuffix (nextKind more) = false) :
    (nameChain reader).Takes cursor (fun read => erase read = tree) more := by
  refine nameChain_passes inner chain more near split ?_ fun value behind same left => ?_
  · intro opening
    rw [opening] at stops
    cases stops
  · rw [← left] at stops ⊢
    exact .steps_stop stops same

/-! ## Operands -/

theorem primary_takes (inner : TakesOperations 1 bound reader) {lexemes more : List Lexeme}
    {tree : Expr} {tail : Tail} (near : cursor.left ≤ bound) (primary : Primary lexemes tree tail)
    (split : cursor.lexemes = lexemes ++ more)
    (stops : tail = .chain → startsSuffix (nextKind more) = false) :
    (Parser.primary reader).Takes cursor (fun read => erase read = tree) more := by
  unfold Parser.primary
  refine .peekKind_bind ?_
  cases primary with
  | @number word value kind found =>
      obtain ⟨rfl, left⟩ := Cursor.current_of_lexemes split
      rw [Cursor.kind_of_lexemes split, kind]
      replace found : Binary64.read? cursor.current.text = some value := found
      have number : number? cursor.current = some (.number value cursor.current.span) := by
        rw [number?, found]
        rfl
      exact ⟨_, _, run_takeAs_of_some number, rfl, left⟩
  | true kind =>
      rw [Cursor.kind_of_lexemes split, kind]
      exact .take_bind split fun _ _ _ left => .pure rfl left
  | false kind =>
      rw [Cursor.kind_of_lexemes split, kind]
      exact .take_bind split fun _ _ _ left => .pure rfl left
  | string kind =>
      rw [Cursor.kind_of_lexemes split, kind]
      exact .take_bind split fun _ _ same left => .pure (by rw [← same]; rfl) left
  | @parenthesized opening close lexemes tree tail kind operation kind' =>
      rw [Cursor.kind_of_lexemes split, kind]
      replace split : cursor.lexemes = opening :: (lexemes ++ close :: more) := by
        simpa using split
      refine .take_bind split fun _ here _ left => ?_
      have nearer := Nat.lt_of_lt_of_le (Cursor.left_lt_of_cons split left) near
      have stops' : Stops 1 tail (nextKind (close :: more)) := by
        rw [nextKind, kind']
        exact .of_plain rfl rfl
      refine .bind (inner _ nearer operation left stops') fun read behind same left => ?_
      exact .expect_bind left kind' fun _ _ _ left => .pure same left
  | chain chain =>
      rw [Cursor.kind_eq_nextKind, split,
        nextKind_append (by rw [chain.starts]; decide), chain.starts]
      exact nameChain_takes inner near chain split (stops rfl)

/-- The operators before an operand, which make the tree from the operand. -/
theorem signs_take : ∀ {lexemes : List Lexeme} {tree : Expr} {tail : Tail},
    Unary lexemes tree tail → ∀ more : List Lexeme,
    ∃ operand inner, Primary operand inner tail ∧
      ∀ {cursor : Cursor} (reversed : List Token), cursor.lexemes = lexemes ++ more →
        (collect (fun kind => (unaryOperator? kind).isSome) take reversed).Takes cursor
          (fun taken => ∃ signs : List Token, taken = signs.reverse ++ reversed ∧
            ∀ value, erase value = inner → erase (signs.foldr applySign value) = tree)
          (operand ++ more)
  | lexemes, tree, _, .operand primary, more => by
      refine ⟨lexemes, tree, primary, fun reversed split => ?_⟩
      rw [← split]
      refine .collect_stop ?_ ⟨[], rfl, fun value same => same⟩
      rw [split, nextKind_append_of_starts primary.starts, primary.noSign]
      rfl
  | _, _, _, @Unary.operator sign operator lexemes tree tail selected unary, more => by
      obtain ⟨operand, inner, primary, takes⟩ := signs_take unary more
      refine ⟨operand, inner, primary, fun {cursor} reversed split => ?_⟩
      have once : take.Takes cursor (fun token => token.lexeme = sign) (lexemes ++ more) := by
        obtain ⟨here, left⟩ := Cursor.current_of_lexemes split
        exact ⟨_, _, rfl, here, left⟩
      refine .collect_next ?_ once ?_ fun token behind same left => ?_
      · rw [split]
        exact Option.isSome_of_eq_some selected
      · rw [split]
        exact Nat.lt_succ_self _
      · refine (takes (token :: reversed) left).mono ?_
        rintro _ ⟨signs, rfl, trees⟩
        refine ⟨token :: signs, by simp, fun value same' => ?_⟩
        have selected : unaryOperator? token.kind = some operator := by
          rwa [← same] at selected
        rw [List.foldr_cons, erase_applySign selected, trees value same']

theorem unary_takes (inner : TakesOperations 1 bound reader) {lexemes more : List Lexeme}
    {tree : Expr} {tail : Tail} (near : cursor.left ≤ bound) (operation : Unary lexemes tree tail)
    (split : cursor.lexemes = lexemes ++ more)
    (stops : tail = .chain → startsSuffix (nextKind more) = false) :
    (unary reader).Takes cursor (fun read => erase read = tree) more := by
  obtain ⟨operand, tree', primary, takes⟩ := signs_take operation more
  unfold unary
  have signs : (repeatWhile (fun kind => (unaryOperator? kind).isSome) take).Takes cursor
      (fun signs => ∀ value, erase value = tree' → erase (signs.foldr applySign value) = tree)
      (operand ++ more) := by
    refine .repeatWhile_of_collect ((takes [] split).mono ?_)
    rintro _ ⟨signs, rfl, trees⟩
    simpa using trees
  refine .bind_near signs fun signs here nearer trees left => ?_
  refine .bind (primary_takes inner (Nat.le_trans nearer near) primary left stops)
    fun value behind same left => ?_
  exact .pure (trees value same) left

/-! ## Operators between operands -/

variable {operator? : TokenKind → Option BinaryOperator} {operand : Reader Expr} {precedence : Nat}

/-- Whatever the reader of a level does behind an operation that it has read, it does before it. -/
theorem level_passes
    (selects : ∀ kind,
      operator? kind = (binaryOperator? kind).filter (·.precedence = precedence))
    (tighter : TakesOperations (precedence + 1) bound operand) :
    ∀ {level : Nat} {lexemes : List Lexeme} {tree : Expr} {tail : Tail},
      Operation level lexemes tree tail → level = precedence →
      ∀ {cursor : Cursor} (more : List Lexeme), cursor.left < bound →
      cursor.lexemes = lexemes ++ more → Stops (precedence + 1) tail (nextKind more) →
      ∀ {goal : Expr → Prop} {last : List Lexeme},
      (∀ value behind, erase value = tree → behind.lexemes = more →
        (Reader.steps (fun kind => (operator? kind).isSome) (operation operator? operand)
          value).Takes behind goal last) →
      (Parser.level operator? operand).Takes cursor goal last
  | _, _, _, _, .operand unary, _, _, more, near, split, stops, _, _, onward => by
      exact .bind (tighter more near (.operand unary) split stops) onward
  | _, _, _, _, @Operation.binary level left right sign operator first second inner tail selected
      tight before behind, same, cursor, more, near, split, stops, goal, last, onward => by
      by_cases here : operator.precedence = precedence
      · have split' : cursor.lexemes = left ++ sign :: (right ++ more) := by simpa using split
        have stops' : Stops (precedence + 1) inner (nextKind (sign :: (right ++ more))) :=
          .of_operator selected (Nat.lt_succ_of_le (Nat.le_of_eq here))
        refine level_passes selects tighter before here _ near split' stops'
          fun value middle same left => ?_
        have near' := Nat.lt_of_le_of_lt (Cursor.left_le_of_append split' left) near
        have found : operator? sign.kind = some operator := by
          simp [selects, selected, Option.filter, here]
        have once : (operation operator? operand value).Takes middle
            (fun joined => erase joined = .binary operator first second .origin) more := by
          unfold Parser.operation
          refine .take_bind left fun token here' same' left' => ?_
          have near'' := Nat.lt_trans (Cursor.left_lt_of_cons left left') near'
          refine .bind (tighter more near'' (here ▸ behind) left' stops)
            fun other last' same'' left'' => ?_
          rw [← same'] at found
          replace found : operator? token.kind = some operator := found
          rw [found]
          exact .pure (by rw [erase_join, same, same'']) left''
        refine .steps_next ?_ once ?_ onward
        · rw [left]
          exact Option.isSome_of_eq_some found
        · rw [left, List.length_cons, List.length_append]
          exact Nat.lt_succ_of_le (Nat.le_add_left _ _)
      · have tighter' : precedence + 1 ≤ operator.precedence :=
          Nat.lt_of_le_of_ne (same ▸ tight) (Ne.symm here)
        exact .bind (tighter more near (.binary selected tighter' before behind) split stops) onward

theorem level_takes
    (selects : ∀ kind,
      operator? kind = (binaryOperator? kind).filter (·.precedence = precedence))
    (tighter : TakesOperations (precedence + 1) bound operand) :
    TakesOperations precedence bound (level operator? operand) := by
  intro cursor lexemes tree tail more near whole split stops
  have looser : Stops (precedence + 1) tail (nextKind more) :=
    ⟨fun operator found => Nat.lt_succ_of_lt (stops.1 operator found), stops.2⟩
  refine level_passes selects tighter whole rfl more near split looser
    fun value behind same left => ?_
  rw [← left]
  refine .steps_stop ?_ same
  rw [left, selects]
  cases found : binaryOperator? (nextKind more) with
  | none => rfl
  | some operator => simp [Nat.ne_of_lt (stops.1 operator found)]

theorem expressionWith_takes (inner : TakesOperations 1 bound reader) :
    TakesOperations 1 (bound + 1) (expressionWith reader) := by
  have operands : TakesOperations 7 (bound + 1) (unary reader) := by
    intro cursor lexemes tree tail more near whole split stops
    have operand := whole.unary_of_tight (Nat.lt_succ_self _)
    exact unary_takes inner (Nat.le_of_lt_succ near) operand split stops.2
  unfold expressionWith
  repeat refine level_takes (by intro kind; cases kind <;> rfl) ?_
  exact operands

/-- The reader of expressions takes every expression that ends before the next lexeme. -/
theorem expression_takes {lexemes : List Lexeme} {tree : Expr} {tail : Tail} (more : List Lexeme)
    (whole : Expression lexemes tree tail) (split : cursor.lexemes = lexemes ++ more)
    (stops : Stops 1 tail (nextKind more)) :
    expression.Takes cursor (fun read => erase read = tree) more := by
  have unrolled : ∀ bound,
      TakesOperations 1 bound (Reader.unroll .noExpression expressionWith bound) := by
    intro bound
    induction bound with
    | zero => exact fun _ _ _ _ _ near => absurd near (Nat.not_lt_zero _)
    | succ bound ih => exact expressionWith_takes ih
  exact .knot (unrolled (cursor.left + 1) more (Nat.lt_succ_self _) whole split stops)

theorem expression_takesOperations (bound : Nat) : TakesOperations 1 bound expression :=
  fun _ _ _ _ more _ whole split stops => expression_takes more whole split stops

end Parser

end RapidLang
