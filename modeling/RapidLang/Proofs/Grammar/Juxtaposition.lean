import RapidLang.Proofs.Grammar.Statement

/-!
# Expressions that stand one behind the other

An expression with no closing word behind it goes on with what follows if that begins with a sign,
or with a parenthesis behind a name. The two then form one expression, or none does: which of both
depends on the last lexeme of the first one, and a scan of its lexemes tells.
-/

set_option autoImplicit false

namespace RapidLang.Grammar

open RapidLang.Parser

/-! ## Operations put together -/

/-- An operator and an operand of its own can stand behind every operation that binds no more
loosely. -/
theorem Operation.push {sign : Lexeme} {operator : BinaryOperator} {behind : List Lexeme}
    {second : Expr} {last : Tail} :
    ∀ {level : Nat} {lexemes : List Lexeme} {tree : Expr} {tail : Tail},
      Operation level lexemes tree tail → binaryOperator? sign.kind = some operator →
      level ≤ operator.precedence → Operation (operator.precedence + 1) behind second last →
      ∃ whole, Operation level (lexemes ++ sign :: behind) whole last
  | _, _, _, _, .operand unary, selected, tight, joined =>
      ⟨_, .binary selected tight (.operand unary) joined⟩
  | _, _, _, _, @Operation.binary _ left right sign' operator' _ _ _ _ selected' tight' before after,
      selected, tight, joined => by
      by_cases loose : operator'.precedence < operator.precedence
      · obtain ⟨inner, pushed⟩ := after.push selected loose joined
        rw [List.append_assoc, List.cons_append]
        exact ⟨_, .binary selected' tight' before pushed⟩
      · exact ⟨_, .binary selected tight
          (.binary selected' (Nat.not_lt.mp loose) before after) joined⟩

/-- If an expression in front can take in every operand that begins with some kind of lexeme, it can
take in every operation that does. -/
theorem Operation.absorb {front : List Lexeme} {kind : TokenKind} (inside : kind ≠ .endOfInput)
    (absorbs : ∀ {lexemes : List Lexeme} {tree : Expr} {tail : Tail}, Unary lexemes tree tail →
      nextKind lexemes = kind → ∃ whole last, Operation 1 (front ++ lexemes) whole last) :
    ∀ {level : Nat} {lexemes : List Lexeme} {tree : Expr} {tail : Tail},
      Operation level lexemes tree tail → nextKind lexemes = kind →
      ∃ whole last, Operation 1 (front ++ lexemes) whole last
  | _, _, _, _, .operand unary, starts => absorbs unary starts
  | _, _, _, _, @Operation.binary _ left right sign operator _ _ _ _ selected _ before after,
      starts => by
      rw [nextKind_append_of_starts before.starts] at starts
      obtain ⟨_, _, absorbed⟩ := Operation.absorb inside absorbs before starts
      obtain ⟨whole, pushed⟩ := absorbed.push selected (one_le_precedence operator) after
      rw [← List.append_assoc]
      exact ⟨whole, _, pushed⟩

/-- An operator with which an operand begins is a sign. -/
theorem isSome_unaryOperator? {kind : TokenKind} {operator : BinaryOperator}
    (selected : binaryOperator? kind = some operator) (starts : startsExpression kind) :
    (unaryOperator? kind).isSome := by
  cases kind <;> first | rfl | exact absurd starts (by decide) | cases selected

/-- An expression takes in what begins with a sign. -/
theorem Operation.absorb_sign {front lexemes : List Lexeme} {first tree : Expr} {tail last : Tail}
    {operator : BinaryOperator} (before : Operation 1 front first tail)
    (behind : Operation 1 lexemes tree last)
    (signed : binaryOperator? (nextKind lexemes) = some operator) :
    ∃ whole last, Operation 1 (front ++ lexemes) whole last := by
  have inside : nextKind lexemes ≠ .endOfInput := ne_endOfInput_of_startsExpression behind.starts
  refine Operation.absorb inside ?_ behind rfl
  intro lexemes' tree' tail' unary starts
  rw [← starts] at signed
  cases unary with
  | operand primary =>
      have sign := isSome_unaryOperator? signed primary.starts
      rw [primary.noSign] at sign
      cases sign
  | operator _ inner =>
      obtain ⟨whole, pushed⟩ := before.push signed (one_le_precedence operator) (.operand inner)
      exact ⟨whole, _, pushed⟩

/-! ## Scanning an expression -/

/-- Where in an expression a scan has come to. -/
inductive Place where
  /-- An operand is missing. -/
  | operand
  /-- Behind a word with which a chain begins. -/
  | word
  /-- Behind any other end of an operand. -/
  | closed
  /-- Behind the dot before a component. -/
  | dot
  deriving DecidableEq, Repr

namespace Place

/-- The place behind a lexeme of some kind, if one may stand there. -/
def step : Place → TokenKind → Option Place
  | .operand, .identifier => some .word
  | .operand, .number | .operand, .string | .operand, .true | .operand, .false
  | .operand, .rightParen => some .closed
  | .operand, .leftParen | .operand, .not | .operand, .plus | .operand, .minus => some .operand
  | .operand, _ => none
  | .dot, kind => if kind = .identifier ∨ kind.isReserved then some .closed else none
  | .word, .leftParen => some .operand
  | .closed, .leftParen => none
  | _, .leftBracket | _, .comma => some .operand
  | _, .rightParen | _, .rightBracket => some .closed
  | _, .dot => some .dot
  | _, kind => if (binaryOperator? kind).isSome then some .operand else none

/-- The place behind some lexemes. -/
def scan : Place → List Lexeme → Option Place
  | place, [] => some place
  | place, first :: rest => (place.step first.kind).bind fun next => next.scan rest

/-- Is an operand complete here? -/
def IsEnd (place : Place) : Prop :=
  place = .word ∨ place = .closed

variable {place : Place} {first : Lexeme} {front rest : List Lexeme} {kind : TokenKind}

theorem scan_append : place.scan (front ++ rest) =
    (place.scan front).bind fun next => next.scan rest := by
  induction front generalizing place with
  | nil => rfl
  | cons first front ih =>
      show (place.step first.kind).bind (fun next => next.scan (front ++ rest)) = _
      rw [scan, Option.bind_assoc]
      congr
      funext next
      exact ih

theorem scan_cons {next : Place} (steps : place.step first.kind = some next) :
    place.scan (first :: rest) = next.scan rest := by
  rw [scan, steps]
  rfl

theorem step_sign {operator : UnaryOperator} (selected : unaryOperator? kind = some operator) :
    step .operand kind = some .operand := by
  cases kind <;> first | rfl | cases selected

theorem IsEnd.step_operator {operator : BinaryOperator} (ended : place.IsEnd)
    (selected : binaryOperator? kind = some operator) : place.step kind = some .operand := by
  rcases ended with rfl | rfl <;> cases kind <;> first | rfl | cases selected

theorem IsEnd.step_close (ended : place.IsEnd)
    (closes : kind = .rightParen ∨ kind = .rightBracket) : place.step kind = some .closed := by
  rcases ended with rfl | rfl <;> rcases closes with rfl | rfl <;> rfl

theorem IsEnd.step_next (ended : place.IsEnd)
    (opens : kind = .leftBracket ∨ kind = .comma) : place.step kind = some .operand := by
  rcases ended with rfl | rfl <;> rcases opens with rfl | rfl <;> rfl

theorem IsEnd.step_dot (ended : place.IsEnd) : place.step .dot = some .dot := by
  rcases ended with rfl | rfl <;> rfl

/-- What has ended an operand is put behind what has begun one. -/
theorem IsEnd.scan_close {lexemes : List Lexeme} {close : Lexeme} {last : Place}
    (scans : place.scan lexemes = some last) (ended : last.IsEnd)
    (closes : close.kind = .rightParen ∨ close.kind = .rightBracket) :
    place.scan (lexemes ++ [close]) = some .closed := by
  rw [scan_append, scans, Option.bind_some, scan_cons (ended.step_close closes)]
  rfl

end Place

open Place

mutual

/-- A scan gets through every operation, up to the end of an operand. -/
theorem Operation.scan : ∀ {level : Nat} {lexemes : List Lexeme} {tree : Expr} {tail : Tail},
    Operation level lexemes tree tail →
    ∃ last, Place.scan .operand lexemes = some last ∧ last.IsEnd
  | _, _, _, _, .operand unary => unary.scan
  | _, _, _, _, .binary selected _ left right => by
      obtain ⟨middle, scans, ended⟩ := left.scan
      rw [scan_append, scans, Option.bind_some, scan_cons (ended.step_operator selected)]
      exact right.scan

theorem Unary.scan : ∀ {lexemes : List Lexeme} {tree : Expr} {tail : Tail},
    Unary lexemes tree tail → ∃ last, Place.scan .operand lexemes = some last ∧ last.IsEnd
  | _, _, _, .operand primary => primary.scan
  | _, _, _, .operator selected unary => by
      rw [scan_cons (step_sign selected)]
      exact unary.scan

theorem Primary.scan : ∀ {lexemes : List Lexeme} {tree : Expr} {tail : Tail},
    Primary lexemes tree tail → ∃ last, Place.scan .operand lexemes = some last ∧ last.IsEnd
  | _, _, _, .number kind _ | _, _, _, .true kind | _, _, _, .false kind | _, _, _, .string kind =>
      ⟨.closed, by simp [Place.scan, kind, step], .inr rfl⟩
  | _, _, _, .parenthesized kind operation kind' => by
      obtain ⟨last, scans, ended⟩ := operation.scan
      have steps : step .operand _ = some Place.operand := congrArg (step .operand) kind
      rw [scan_cons steps]
      exact ⟨.closed, IsEnd.scan_close scans ended (.inl kind'), .inr rfl⟩
  | _, _, _, .chain chain => chain.scan

theorem Chain.scan : ∀ {lexemes : List Lexeme} {tree : Expr}, Chain lexemes tree →
    ∃ last, Place.scan .operand lexemes = some last ∧ last.IsEnd
  | _, _, .name kind _ _ => ⟨.word, by simp [Place.scan, kind, step], .inl rfl⟩
  | _, _, .call kind _ kind' list kind'' => by
      obtain ⟨last, scans, closes⟩ := list.scan
      have steps : step .operand _ = some Place.word := congrArg (step .operand) kind
      have steps' : step .word _ = some Place.operand := congrArg (step .word) kind'
      rw [scan_cons steps, scan_cons steps', scan_append, scans, Option.bind_some, Place.scan, kind'',
        closes]
      exact ⟨.closed, rfl, .inr rfl⟩
  | _, _, .index base kind operation kind' => by
      obtain ⟨middle, scans, ended⟩ := base.scan
      obtain ⟨last, scans', ended'⟩ := operation.scan
      rw [scan_append, scans, Option.bind_some, scan_cons (ended.step_next (.inl kind))]
      exact ⟨.closed, IsEnd.scan_close scans' ended' (.inr kind'), .inr rfl⟩
  | _, _, .component base kind kind' _ => by
      obtain ⟨middle, scans, ended⟩ := base.scan
      rw [scan_append, scans, Option.bind_some, scan_cons (kind ▸ ended.step_dot)]
      exact ⟨.closed, by simp [Place.scan, step, kind'], .inr rfl⟩

theorem Arguments.scan : ∀ {lexemes : List Lexeme} {values : List Expr}, Arguments lexemes values →
    ∃ last, Place.scan .operand lexemes = some last ∧ last.step .rightParen = some .closed
  | _, _, .none => ⟨.operand, rfl, rfl⟩
  | _, _, .some list => by
      obtain ⟨last, scans, ended⟩ := list.scan
      exact ⟨last, scans, ended.step_close (.inl rfl)⟩

theorem CommaList.scan : ∀ {lexemes : List Lexeme} {values : List Expr}, CommaList lexemes values →
    ∃ last, Place.scan .operand lexemes = some last ∧ last.IsEnd
  | _, _, .one operation => operation.scan
  | _, _, .more earlier kind operation => by
      obtain ⟨middle, scans, ended⟩ := earlier.scan
      rw [scan_append, scans, Option.bind_some, scan_cons (ended.step_next (.inr kind))]
      exact operation.scan

end

/-! ## Longer chains -/

/-- A chain that ends in a word is that word. -/
theorem Chain.of_scan_word {lexemes : List Lexeme} {tree : Expr} (chain : Chain lexemes tree)
    (scans : Place.scan .operand lexemes = some .word) :
    ∃ word, lexemes = [word] ∧ word.kind = .identifier ∧ word.text ≠ "" := by
  have closed : ∀ {place : Place} {kind : TokenKind}, place.step kind = some .word →
      kind = .identifier ∧ place = .operand := by
    intro place kind steps
    cases place <;> cases kind <;> first | exact ⟨rfl, rfl⟩ | cases steps
  -- In every other form the last lexeme is a bracket or stands behind a dot.
  have last : ∀ {front : List Lexeme} {word : Lexeme},
      Place.scan .operand (front ++ [word]) = some .word →
      word.kind = .identifier ∧ Place.scan .operand front = some .operand := by
    intro front word scans
    rw [scan_append, Option.bind_eq_some_iff] at scans
    obtain ⟨place, before, scans⟩ := scans
    rw [Place.scan, Option.bind_eq_some_iff] at scans
    obtain ⟨next, steps, same⟩ := scans
    cases same
    obtain ⟨kind, rfl⟩ := closed steps
    exact ⟨kind, before⟩
  cases chain with
  | @name word _ _ kind parts some =>
      refine ⟨word, rfl, kind, fun empty => some ?_⟩
      rw [empty]
      decide
  | @call word opening close values _ _ _ _ _ kind =>
      have kind' := (@last (word :: opening :: values) close scans).1
      rw [kind] at kind'
      cases kind'
  | @index base position opening close _ _ _ _ _ _ kind =>
      rw [← List.cons_append, ← List.append_assoc] at scans
      have kind' := (last scans).1
      rw [kind] at kind'
      cases kind'
  | @component base dot word _ _ kind =>
      rw [List.append_cons] at scans
      have before := (last scans).2
      rw [scan_append, Option.bind_eq_some_iff] at before
      obtain ⟨place, _, steps⟩ := before
      rw [Place.scan, kind, Option.bind_eq_some_iff] at steps
      obtain ⟨next, steps, same⟩ := steps
      cases same
      cases place <;> cases steps

section Extension

variable {suffix : List Lexeme} {place : Place}

theorem Unary.extend (longer : ∀ {lexemes : List Lexeme} {tree : Expr}, Chain lexemes tree →
      Place.scan .operand lexemes = some place → ∃ whole, Chain (lexemes ++ suffix) whole) :
    ∀ {lexemes : List Lexeme} {tree : Expr} {tail : Tail}, Unary lexemes tree tail →
      tail = .chain → Place.scan .operand lexemes = some place →
      ∃ whole, Unary (lexemes ++ suffix) whole .chain
  | _, _, _, .operand primary, chained, scans => by
      cases primary with
      | chain chain =>
          obtain ⟨whole, extended⟩ := longer chain scans
          exact ⟨whole, .operand (.chain extended)⟩
      | _ => cases chained
  | _, _, _, .operator selected unary, chained, scans => by
      rw [scan_cons (step_sign selected)] at scans
      obtain ⟨whole, extended⟩ := Unary.extend longer unary chained scans
      exact ⟨_, .operator selected extended⟩

/-- If the chains that end in some place can be longer by a suffix, so can the operations that end
in a chain there. -/
theorem Operation.extend (longer : ∀ {lexemes : List Lexeme} {tree : Expr}, Chain lexemes tree →
      Place.scan .operand lexemes = some place → ∃ whole, Chain (lexemes ++ suffix) whole) :
    ∀ {level : Nat} {lexemes : List Lexeme} {tree : Expr} {tail : Tail},
      Operation level lexemes tree tail → tail = .chain →
      Place.scan .operand lexemes = some place →
      ∃ whole, Operation level (lexemes ++ suffix) whole .chain
  | _, _, _, _, .operand unary, chained, scans => by
      obtain ⟨whole, extended⟩ := unary.extend longer chained scans
      exact ⟨whole, .operand extended⟩
  | _, _, _, _, .binary selected tight left right, chained, scans => by
      obtain ⟨middle, scans', ended⟩ := left.scan
      rw [scan_append, scans', Option.bind_some, scan_cons (ended.step_operator selected)] at scans
      obtain ⟨_, extended⟩ := Operation.extend longer right chained scans
      rw [List.append_assoc, List.cons_append]
      exact ⟨_, .binary selected tight left extended⟩

end Extension

section Suffixes

variable {front lexemes : List Lexeme} {first tree : Expr} {last : Tail}

/-- Behind a name an expression takes in what begins with a parenthesis: it becomes a call. -/
theorem Operation.absorb_call (before : Operation 1 front first .chain)
    (named : Place.scan .operand front = some .word) (behind : Operation 1 lexemes tree last)
    (opens : nextKind lexemes = .leftParen) :
    ∃ whole last, Operation 1 (front ++ lexemes) whole last := by
  refine Operation.absorb (by decide) ?_ behind opens
  intro lexemes' tree' tail' unary starts
  cases unary with
  | operator selected _ =>
      rw [show Lexeme.kind _ = _ from starts] at selected
      cases selected
  | operand primary =>
      cases primary with
      | parenthesized kind operation kind' =>
          obtain ⟨whole, extended⟩ := before.extend (fun chain scans => by
            obtain ⟨word, rfl, identifier, some⟩ := chain.of_scan_word scans
            exact ⟨_, .call identifier some kind (.some (.one operation)) kind'⟩) rfl named
          exact ⟨whole, _, extended⟩
      | chain chain =>
          rw [chain.starts] at starts
          cases starts
      | number kind _ | true kind | false kind | string kind =>
          rw [nextKind, kind] at starts
          cases starts

/-- An expression that ends in a chain can be longer by an index. -/
theorem Operation.extend_index {opening close : Lexeme} (before : Operation 1 front first .chain)
    (kind : opening.kind = .leftBracket) (position : Operation 1 lexemes tree last)
    (kind' : close.kind = .rightBracket) :
    ∃ whole, Operation 1 (front ++ opening :: (lexemes ++ [close])) whole .chain := by
  obtain ⟨place, scans, _⟩ := before.scan
  exact before.extend (fun chain _ => ⟨_, .index chain kind position kind'⟩) rfl scans

/-- Behind an expression that ends in no single word, a parenthesis is part of no expression. -/
theorem Operation.not_prefix {opening : Lexeme} {behind : List Lexeme} {level : Nat} {whole : Expr}
    (scans : Place.scan .operand front = some .closed) (kind : opening.kind = .leftParen) :
    ¬Operation level (front ++ opening :: behind) whole last := by
  intro operation
  obtain ⟨_, through, _⟩ := operation.scan
  rw [scan_append, scans, Option.bind_some, Place.scan, kind] at through
  cases through

end Suffixes

end RapidLang.Grammar
