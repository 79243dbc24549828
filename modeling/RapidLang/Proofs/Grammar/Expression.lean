import Mathlib.Data.List.Induction
import RapidLang.Proofs.Syntax.Erasure

/-!
# The grammar of expressions

Which lexemes form which expression. A lexeme is a token without its place, and the trees of the
grammar carry the empty span at the beginning everywhere. The relations say nothing of how a text
is read; where a phrase could be read in two ways, a condition on the lexeme behind it decides.
-/

set_option autoImplicit false

namespace RapidLang

/-- A token without its place. -/
structure Lexeme where
  kind : TokenKind
  text : String
  deriving DecidableEq, Repr

/-- Some lexeme of a kind. -/
def Lexeme.ofKind (kind : TokenKind) : Lexeme :=
  ⟨kind, "x"⟩

theorem Lexeme.kind_ofKind (kind : TokenKind) : (Lexeme.ofKind kind).kind = kind := rfl

/-- What a token is, wherever it stands. -/
def Token.lexeme (token : Token) : Lexeme :=
  ⟨token.kind, token.text⟩

@[simp] theorem Token.lexeme_kind (token : Token) : token.lexeme.kind = token.kind := rfl

@[simp] theorem Token.lexeme_text (token : Token) : token.lexeme.text = token.text := rfl

/-- The lexemes of tokens, up to the first end of input. -/
def lexemesOf (tokens : List Token) : List Lexeme :=
  (tokens.takeWhile fun token => token.kind != .endOfInput).map Token.lexeme

theorem lexemesOf_eq_takeWhile (tokens : List Token) :
    lexemesOf tokens = (tokens.map Token.lexeme).takeWhile (·.kind != .endOfInput) := by
  rw [lexemesOf, List.takeWhile_map]
  rfl

namespace Grammar

open Text RapidLang.Parser

/-- The kind of the first lexeme, or that of the end of input. -/
def nextKind : List Lexeme → TokenKind
  | [] => .endOfInput
  | first :: _ => first.kind

/-- The binary operator that a kind of token denotes. -/
def binaryOperator? : TokenKind → Option BinaryOperator
  | .or => some .or
  | .and => some .and
  | .equal => some .equal
  | .notEqual => some .notEqual
  | .less => some .less
  | .lessEqual => some .lessEqual
  | .greater => some .greater
  | .greaterEqual => some .greaterEqual
  | .plus => some .add
  | .minus => some .subtract
  | .star => some .multiply
  | .slash => some .divide
  | _ => none

/-- How an expression ends: in a chain that begins with a name, so that a bracket or a dot behind it
would belong to it, or in some other way. -/
inductive Tail where
  | closed
  | chain
  deriving DecidableEq, Repr

/-- Does an expression end before a token of the kind? Its operators bind at least as tightly as
the level. -/
def Stops (level : Nat) (tail : Tail) (next : TokenKind) : Prop :=
  (∀ operator, binaryOperator? next = some operator → operator.precedence < level) ∧
    (tail = .chain → startsSuffix next = false)

theorem precedence_le (operator : BinaryOperator) : operator.precedence ≤ 6 := by
  cases operator <;> decide

theorem one_le_precedence (operator : BinaryOperator) : 1 ≤ operator.precedence := by
  cases operator <;> decide

theorem Stops.of_plain {level : Nat} {tail : Tail} {kind : TokenKind}
    (noOperator : binaryOperator? kind = none) (noSuffix : startsSuffix kind = false) :
    Stops level tail kind :=
  ⟨fun _ found => by simp [noOperator] at found, fun _ => noSuffix⟩

/-- An operator ends the operands that bind more tightly. -/
theorem Stops.of_operator {level : Nat} {tail : Tail} {kind : TokenKind}
    {operator : BinaryOperator} (selected : binaryOperator? kind = some operator)
    (looser : operator.precedence < level) : Stops level tail kind := by
  refine ⟨fun other found => ?_, fun _ => ?_⟩
  · rw [selected] at found
    cases found
    exact looser
  · cases kind <;> first | rfl | cases selected

/-- The parts of a word between its dots. -/
def nameParts (word : String) : List String :=
  (splitDots word.toList).map String.ofList

/-- The components with the given names, one selected from the other. -/
def selectAll (base : Expr) (parts : List String) : Expr :=
  parts.foldl (fun base part => .component base ⟨part, .origin⟩ .origin) base

mutual

/-- Operands joined by operators that bind at least as tightly as a level. Among operators of one
level the last one is outermost. -/
inductive Operation : Nat → List Lexeme → Expr → Tail → Prop where
  | operand {level : Nat} {lexemes : List Lexeme} {tree : Expr} {tail : Tail} :
      Unary lexemes tree tail → Operation level lexemes tree tail
  | binary {level : Nat} {left right : List Lexeme} {sign : Lexeme} {operator : BinaryOperator}
      {first second : Expr} {inner tail : Tail} :
      binaryOperator? sign.kind = some operator → level ≤ operator.precedence →
      Operation operator.precedence left first inner →
      Operation (operator.precedence + 1) right second tail →
      Operation level (left ++ sign :: right) (.binary operator first second .origin) tail

/-- An operand with the operators before it. -/
inductive Unary : List Lexeme → Expr → Tail → Prop where
  | operand {lexemes : List Lexeme} {tree : Expr} {tail : Tail} :
      Primary lexemes tree tail → Unary lexemes tree tail
  | operator {sign : Lexeme} {operator : UnaryOperator} {lexemes : List Lexeme} {tree : Expr}
      {tail : Tail} :
      unaryOperator? sign.kind = some operator → Unary lexemes tree tail →
      Unary (sign :: lexemes) (.unary operator tree .origin) tail

/-- An operand without operators. Parentheses leave no trace in the tree. -/
inductive Primary : List Lexeme → Expr → Tail → Prop where
  | number {literal : Lexeme} {value : Binary64} :
      literal.kind = .number → Binary64.read? literal.text = some value →
      Primary [literal] (.number value .origin) .closed
  | true {literal : Lexeme} :
      literal.kind = .true → Primary [literal] (.truth Bool.true .origin) .closed
  | false {literal : Lexeme} :
      literal.kind = .false → Primary [literal] (.truth Bool.false .origin) .closed
  | string {literal : Lexeme} :
      literal.kind = .string → Primary [literal] (.string literal.text .origin) .closed
  | parenthesized {opening close : Lexeme} {lexemes : List Lexeme} {tree : Expr} {tail : Tail} :
      opening.kind = .leftParen → Operation 1 lexemes tree tail → close.kind = .rightParen →
      Primary (opening :: (lexemes ++ [close])) tree .closed
  | chain {lexemes : List Lexeme} {tree : Expr} :
      Chain lexemes tree → Primary lexemes tree .chain

/-- A name with the calls, indices and components behind it. A dotted word stands for a name with
components, but as a whole for the name of a routine if a parenthesis follows it. -/
inductive Chain : List Lexeme → Expr → Prop where
  | name {word : Lexeme} {head : String} {components : List String} :
      word.kind = .identifier → nameParts word.text = head :: components →
      "" ∉ nameParts word.text →
      Chain [word] (selectAll (.variable ⟨head, .origin⟩) components)
  | call {word opening close : Lexeme} {lexemes : List Lexeme} {values : List Expr} :
      word.kind = .identifier → word.text ≠ "" → opening.kind = .leftParen →
      Arguments lexemes values → close.kind = .rightParen →
      Chain (word :: opening :: (lexemes ++ [close])) (.call ⟨word.text, .origin⟩ values .origin)
  | index {base position : List Lexeme} {opening close : Lexeme} {tree place : Expr} {tail : Tail} :
      Chain base tree → opening.kind = .leftBracket → Operation 1 position place tail →
      close.kind = .rightBracket →
      Chain (base ++ opening :: (position ++ [close])) (.index tree place .origin)
  | component {base : List Lexeme} {dot word : Lexeme} {tree : Expr} :
      Chain base tree → dot.kind = .dot → word.kind = .identifier ∨ word.kind.isReserved →
      "" ∉ nameParts word.text →
      Chain (base ++ [dot, word]) (selectAll tree (nameParts word.text))

/-- The arguments between the parentheses of a call. -/
inductive Arguments : List Lexeme → List Expr → Prop where
  | none : Arguments [] []
  | some {lexemes : List Lexeme} {values : List Expr} :
      CommaList lexemes values → Arguments lexemes values

/-- Expressions with commas between them, at least one. -/
inductive CommaList : List Lexeme → List Expr → Prop where
  | one {lexemes : List Lexeme} {value : Expr} {tail : Tail} :
      Operation 1 lexemes value tail → CommaList lexemes [value]
  | more {earlier lexemes : List Lexeme} {comma : Lexeme} {values : List Expr} {value : Expr}
      {tail : Tail} :
      CommaList earlier values → comma.kind = .comma → Operation 1 lexemes value tail →
      CommaList (earlier ++ comma :: lexemes) (values ++ [value])

end

/-- An expression. -/
abbrev Expression : List Lexeme → Expr → Tail → Prop :=
  Operation 1

/-! ## Facts about phrases -/

theorem Operation.weaken {level lower : Nat} {lexemes : List Lexeme} {tree : Expr} {tail : Tail}
    (operation : Operation level lexemes tree tail) (below : lower ≤ level) :
    Operation lower lexemes tree tail := by
  cases operation with
  | operand unary => exact .operand unary
  | binary selected tight left right => exact .binary selected (Nat.le_trans below tight) left right

/-- No operator binds tightly enough to stand in an operand. -/
theorem Operation.unary_of_tight {level : Nat} {lexemes : List Lexeme} {tree : Expr}
    {tail : Tail} (operation : Operation level lexemes tree tail) (tight : 6 < level) :
    Unary lexemes tree tail := by
  cases operation with
  | operand unary => exact unary
  | binary _ below _ _ =>
      exact absurd (precedence_le _) (Nat.not_le.mpr (Nat.lt_of_lt_of_le tight below))

/-- Does a token of the kind begin an expression? -/
def startsExpression (kind : TokenKind) : Bool :=
  (unaryOperator? kind).isSome ||
    match kind with
    | .number | .true | .false | .string | .leftParen | .identifier => true
    | _ => false

theorem nextKind_append {front rest : List Lexeme} (some : nextKind front ≠ .endOfInput) :
    nextKind (front ++ rest) = nextKind front := by
  cases front with
  | nil => exact absurd rfl some
  | cons first front => rfl

theorem ne_nil_of_nextKind {lexemes : List Lexeme} {kind : TokenKind}
    (starts : nextKind lexemes = kind) (inside : kind ≠ .endOfInput) : lexemes ≠ [] := by
  rintro rfl
  exact inside starts.symm

theorem ne_endOfInput_of_startsExpression {kind : TokenKind} (starts : startsExpression kind) :
    kind ≠ .endOfInput := by
  rintro rfl
  simp [startsExpression, unaryOperator?] at starts

theorem nextKind_append_of_starts {front rest : List Lexeme}
    (starts : startsExpression (nextKind front)) : nextKind (front ++ rest) = nextKind front :=
  nextKind_append (ne_endOfInput_of_startsExpression starts)

theorem Chain.starts : ∀ {lexemes : List Lexeme} {tree : Expr}, Chain lexemes tree →
    nextKind lexemes = .identifier
  | _, _, .name word _ _ => word
  | _, _, .call word _ _ _ _ => word
  | _, _, .index base _ _ _ | _, _, .component base _ _ _ => by
      rw [nextKind_append (by rw [base.starts]; decide), base.starts]

theorem Primary.starts {lexemes : List Lexeme} {tree : Expr} {tail : Tail}
    (primary : Primary lexemes tree tail) : startsExpression (nextKind lexemes) := by
  cases primary with
  | chain chain => rw [chain.starts]; rfl
  | number kind _ | true kind | false kind | string kind | parenthesized kind _ _ =>
      simp [nextKind, kind, startsExpression]

theorem Primary.noSign {lexemes : List Lexeme} {tree : Expr} {tail : Tail}
    (primary : Primary lexemes tree tail) : unaryOperator? (nextKind lexemes) = none := by
  cases primary with
  | chain chain => rw [chain.starts]; rfl
  | number kind _ | true kind | false kind | string kind | parenthesized kind _ _ =>
      simp [nextKind, kind, unaryOperator?]

theorem Unary.starts {lexemes : List Lexeme} {tree : Expr} {tail : Tail}
    (unary : Unary lexemes tree tail) : startsExpression (nextKind lexemes) := by
  cases unary with
  | operand primary => exact primary.starts
  | operator sign _ => simp [nextKind, startsExpression, sign]

theorem Operation.starts : ∀ {level : Nat} {lexemes : List Lexeme} {tree : Expr} {tail : Tail},
    Operation level lexemes tree tail → startsExpression (nextKind lexemes)
  | _, _, _, _, .operand unary => unary.starts
  | _, _, _, _, .binary _ _ left _ => by
      rw [nextKind_append_of_starts left.starts]
      exact left.starts

theorem Operation.ne_nil {level : Nat} {lexemes : List Lexeme} {tree : Expr} {tail : Tail}
    (operation : Operation level lexemes tree tail) : lexemes ≠ [] :=
  ne_nil_of_nextKind rfl (ne_endOfInput_of_startsExpression operation.starts)

theorem CommaList.starts : ∀ {lexemes : List Lexeme} {values : List Expr},
    CommaList lexemes values → startsExpression (nextKind lexemes)
  | _, _, .one operation => operation.starts
  | _, _, .more list _ _ => by
      rw [nextKind_append_of_starts list.starts]
      exact list.starts

/-! ## Dotted words -/

theorem splitDots_ne_nil (chars : List Char) : splitDots chars ≠ [] := by
  fun_induction splitDots chars <;> simp

theorem splitDots_of_not_mem {chars : List Char} (plain : '.' ∉ chars) :
    splitDots chars = [chars] := by
  induction chars with
  | nil => rfl
  | cons c rest ih =>
      rw [List.mem_cons, not_or] at plain
      rw [splitDots, if_neg (Ne.symm plain.1), ih plain.2]

theorem intercalate_splitDots (text : List Char) : ['.'].intercalate (splitDots text) = text := by
  induction text with
  | nil => rfl
  | cons c rest ih =>
      cases parts : splitDots rest with
      | nil => exact absurd parts (splitDots_ne_nil rest)
      | cons first others =>
          rw [parts] at ih
          by_cases dot : c = '.'
          · rw [splitDots, if_pos dot, parts, List.intercalate_cons_cons, ih, dot]
            rfl
          · rw [splitDots, if_neg dot, parts]
            cases others with
            | nil => simpa using ih
            | cons second others =>
                rw [List.intercalate_cons_cons] at ih ⊢
                rw [← ih]
                rfl

theorem splitDots_append_dot (front rest : List Char) :
    splitDots (front ++ '.' :: rest) = splitDots front ++ splitDots rest := by
  induction front with
  | nil => simp [splitDots]
  | cons c front ih =>
      by_cases dot : c = '.'
      · simp [splitDots, dot, ih]
      · cases parts : splitDots front with
        | nil => exact absurd parts (splitDots_ne_nil front)
        | cons first others => simp [splitDots, dot, ih, parts]

theorem not_mem_of_splitDots_singleton {chars part : List Char}
    (single : splitDots chars = [part]) : '.' ∉ chars := by
  intro member
  obtain ⟨front, rest, rfl⟩ := List.append_of_mem member
  have lengths := congrArg List.length single
  rw [splitDots_append_dot, List.length_append] at lengths
  have := List.length_pos_iff.mpr (splitDots_ne_nil front)
  have := List.length_pos_iff.mpr (splitDots_ne_nil rest)
  simp at lengths
  omega

theorem nameParts_of_not_mem {word : String} (plain : '.' ∉ word.toList) :
    nameParts word = [word] := by
  simp [nameParts, splitDots_of_not_mem plain]

theorem eq_of_nameParts_singleton {word part : String} (single : nameParts word = [part]) :
    part = word := by
  obtain ⟨chars, split, rfl⟩ := List.map_eq_singleton_iff.mp single
  have plain := not_mem_of_splitDots_singleton split
  rw [splitDots_of_not_mem plain] at split
  cases split
  exact String.ofList_toList

theorem selectAll_eq_variable {base : Expr} {parts : List String} {name : Name}
    (same : selectAll base parts = .variable name) : base = .variable name ∧ parts = [] := by
  cases parts using List.reverseRecOn with
  | nil => exact ⟨same, rfl⟩
  | append_singleton parts last =>
      rw [selectAll, List.foldl_append] at same
      cases same

/-- A chain that is no more than a name is one word. -/
theorem Chain.of_variable {lexemes : List Lexeme} {tree : Expr} {name : Name}
    (chain : Chain lexemes tree) (plain : tree = .variable name) :
    ∃ word, lexemes = [word] ∧ word.kind = .identifier ∧ name = ⟨word.text, .origin⟩ ∧
      word.text ≠ "" := by
  cases chain with
  | @name word head components kind parts some =>
      obtain ⟨same, rfl⟩ := selectAll_eq_variable plain
      cases same
      obtain rfl := eq_of_nameParts_singleton parts
      refine ⟨word, rfl, kind, rfl, fun empty => some ?_⟩
      rw [parts, empty]
      exact List.mem_singleton.mpr rfl
  | call | index => cases plain
  | component _ _ _ _ =>
      obtain ⟨_, parts⟩ := selectAll_eq_variable plain
      exact absurd (List.map_eq_nil_iff.mp parts) (splitDots_ne_nil _)

/-- A word without dots is a name. -/
theorem Chain.word {word : Lexeme} (kind : word.kind = .identifier) (plain : '.' ∉ word.text.toList)
    (some : word.text ≠ "") : Chain [word] (.variable ⟨word.text, .origin⟩) := by
  have parts := nameParts_of_not_mem plain
  refine @Chain.name _ _ [] kind parts ?_
  rw [parts]
  exact fun member => some (List.mem_singleton.mp member).symm

/-- Some name is an expression on every level. -/
theorem Operation.sample (level : Nat) :
    Operation level [Lexeme.ofKind .identifier] (.variable ⟨"x", .origin⟩) .chain :=
  .operand (.operand (.chain (.word rfl (by decide) (by decide))))

end Grammar

end RapidLang
