import RapidLang.Proofs.Parser.Inside
import RapidLang.Proofs.Parser.LoopHead
import RapidLang.Token.Lexer

/-!
# Calls with and without parentheses

A routine is called by its name with the arguments in parentheses or, in a statement, right behind
it. Both forms are read as the same call, wherever the tokens stand, if the first argument begins
with a lexeme that cannot belong to the name in front of it.
-/

set_option autoImplicit false

namespace RapidLang

namespace Grammar

open Text RapidLang.Parser

/-- Does a token of the kind begin an argument of a call without parentheses? A parenthesis does
not: behind a name it opens the parentheses of the call. -/
def opensBareArgument : TokenKind → Bool
  | .number | .string | .identifier | .true | .false | .not => true
  | _ => false

/-- Does a token of the kind end an argument? -/
def endsArgument : TokenKind → Bool
  | .comma | .semicolon | .rightParen => true
  | _ => false

/-- Arguments one after the other, each of the others with a comma before it. -/
def spread (first : List Lexeme) (others : List (Lexeme × List Lexeme)) : List Lexeme :=
  first ++ others.flatMap fun other => other.1 :: other.2

theorem spread_append_singleton (first : List Lexeme) (others : List (Lexeme × List Lexeme))
    (last : Lexeme × List Lexeme) :
    spread first (others ++ [last]) = spread first others ++ last.1 :: last.2 := by
  simp [spread]

theorem stops_of_opensBareArgument {kind : TokenKind} (opens : opensBareArgument kind) :
    Stops 1 .chain kind ∧ startsArgument kind ∧ kind ≠ .endOfInput := by
  cases kind <;> first | exact ⟨.of_plain rfl rfl, rfl, by decide⟩ | cases opens

/-- The statement that calls a routine with some values, without places. -/
def callStatement (routine : String) (values : List Expr) : Stmt :=
  .expression (.call ⟨routine, .origin⟩ values .origin) .origin

section Forms

variable {name stop : Lexeme} {lexemes : List Lexeme} {values : List Expr}

theorem Statement.bareCall (named : name.kind = .identifier) (plain : '.' ∉ name.text.toList)
    (filled : name.text ≠ "") (opens : opensBareArgument (nextKind lexemes))
    (list : CommaList lexemes values) (ends : stop.kind = .semicolon) :
    Statement (name :: (lexemes ++ [stop])) (callStatement name.text values) := by
  have routine : Expression [name] (.variable ⟨name.text, .origin⟩) .chain :=
    .operand (.operand (.chain (.word named plain filled)))
  obtain ⟨stops, starts, -⟩ := stops_of_opensBareArgument opens
  exact .call routine stops starts list ends

theorem Statement.closedCall {opening close : Lexeme} (named : name.kind = .identifier)
    (filled : name.text ≠ "") (opens : opening.kind = .leftParen) (list : CommaList lexemes values)
    (closes : close.kind = .rightParen) (ends : stop.kind = .semicolon) :
    Statement (name :: opening :: (lexemes ++ [close]) ++ [stop])
      (callStatement name.text values) :=
  .expression (.operand (.operand (.chain (.call named filled opens (.some list) closes)))) ends

end Forms

end Grammar

namespace Parser

open Grammar Reader

/-! ## Arguments -/

/-- Before a lexeme that ends an argument, all of these lexemes are read as an expression. -/
def IsArgument (lexemes : List Lexeme) : Prop :=
  ∃ (cursor behind : Cursor) (value : Expr) (follower : Lexeme) (more : List Lexeme),
    endsArgument follower.kind ∧ cursor.lexemes = lexemes ++ follower :: more ∧
      expression.run cursor = .ok (value, behind) ∧ behind.lexemes = follower :: more

/-- The arguments are the expressions: what is read as one before some lexeme that ends an argument
is read so before each of them. -/
theorem isArgument_iff {lexemes : List Lexeme} :
    IsArgument lexemes ↔ ∃ tree tail, Expression lexemes tree tail := by
  constructor
  · rintro ⟨cursor, behind, value, follower, more, -, split, outcome, left⟩
    obtain ⟨read, split', tail, phrase, -⟩ := (expression_meets cursor).ok outcome
    rw [split, left] at split'
    obtain rfl := List.append_cancel_right split'
    exact ⟨_, tail, phrase⟩
  · rintro ⟨tree, tail, phrase⟩
    have inside : Inside (lexemes ++ [Lexeme.ofKind .semicolon]) :=
      phrase.inside.append (.one (by decide))
    obtain ⟨cursor, split⟩ := Cursor.exists_of_inside inside
    obtain ⟨value, behind, outcome, -, left⟩ := expression_takes _ phrase split (.of_plain rfl rfl)
    exact ⟨cursor, behind, value, .ofKind .semicolon, [], rfl, split, outcome, left⟩

theorem exists_commaList_spread {first : List Lexeme} {others : List (Lexeme × List Lexeme)}
    (one : IsArgument first) (each : ∀ other ∈ others, other.1.kind = .comma ∧ IsArgument other.2) :
    ∃ values, values.length = others.length + 1 ∧ CommaList (spread first others) values := by
  obtain ⟨value, tail, phrase⟩ := isArgument_iff.mp one
  -- The grammar takes the last argument off, so the others are counted from behind.
  induction others using List.reverseRecOn with
  | nil => exact ⟨[value], rfl, by simpa [spread] using CommaList.one phrase⟩
  | append_singleton others last ih =>
      obtain ⟨values, count, list⟩ :=
        ih fun other member => each other (List.mem_append_left _ member)
      obtain ⟨comma, argument⟩ := each last (List.mem_append_right _ (List.mem_singleton.mpr rfl))
      obtain ⟨value', tail', phrase'⟩ := isArgument_iff.mp argument
      refine ⟨values ++ [value'], by simp [count], ?_⟩
      rw [spread_append_singleton]
      exact .more list comma phrase'

/-! ## The two forms -/

/-- A call without parentheses and the same call with them are both read to their end. Up to
places they are one statement, which calls the routine with a value for each argument. -/
theorem statement_callForms {name opening close stop stop' : Lexeme} {first : List Lexeme}
    {others : List (Lexeme × List Lexeme)} {rest rest' : List Lexeme} {bare closed : Cursor}
    (named : name.kind = .identifier) (plain : '.' ∉ name.text.toList) (filled : name.text ≠ "")
    (opens : opensBareArgument (nextKind first)) (one : IsArgument first)
    (each : ∀ other ∈ others, other.1.kind = .comma ∧ IsArgument other.2)
    (opening_kind : opening.kind = .leftParen) (close_kind : close.kind = .rightParen)
    (stop_kind : stop.kind = .semicolon) (stop_kind' : stop'.kind = .semicolon)
    (bare_split : bare.lexemes = name :: (spread first others ++ stop :: rest))
    (closed_split : closed.lexemes =
      name :: opening :: (spread first others ++ close :: stop' :: rest')) :
    ∃ values : List Expr, values.length = others.length + 1 ∧
      statement.Takes bare (fun read => erase read = callStatement name.text values) rest ∧
      statement.Takes closed (fun read => erase read = callStatement name.text values) rest' := by
  obtain ⟨values, count, list⟩ := exists_commaList_spread one each
  have inside := (stops_of_opensBareArgument opens).2.2
  have opens' : opensBareArgument (nextKind (spread first others)) := by
    rwa [spread, nextKind_append inside]
  refine ⟨values, count, ?_, ?_⟩
  · have whole := Statement.bareCall named plain filled opens' list stop_kind
    exact statement_takes rest whole (by simpa using bare_split)
  · have whole := Statement.closedCall named filled opening_kind list close_kind stop_kind'
    exact statement_takes rest' whole (by simpa using closed_split)

/-- A call without parentheses whose arguments have signs of their own. -/
def bareSignedCall : String :=
  "w NOT ready, -x;"

/-- The same call with parentheses. -/
def closedSignedCall : String :=
  "w(NOT ready, -x);"

theorem statement_callForms_of_signs :
    ∃ values : List Expr, values.length = 2 ∧
      statement.Takes (.ofTokens (Lexed.ofString bareSignedCall).tokens)
        (fun read => erase read = callStatement "w" values) [] ∧
      statement.Takes (.ofTokens (Lexed.ofString closedSignedCall).tokens)
        (fun read => erase read = callStatement "w" values) [] := by
  have word (name : String) (plain : '.' ∉ name.toList) (filled : name ≠ "") :
      Unary [⟨.identifier, name⟩] (.variable ⟨name, .origin⟩) .chain :=
    .operand (.chain (.word rfl plain filled))
  have first : IsArgument [⟨.not, "NOT"⟩, ⟨.identifier, "ready"⟩] :=
    isArgument_iff.mpr ⟨_, _, .operand (.operator rfl (word "ready" (by decide) (by decide)))⟩
  have second : IsArgument [⟨.minus, "-"⟩, ⟨.identifier, "x"⟩] :=
    isArgument_iff.mpr ⟨_, _, .operand (.operator rfl (word "x" (by decide) (by decide)))⟩
  have others : ∀ other ∈ [((⟨.comma, ","⟩ : Lexeme), [⟨.minus, "-"⟩, ⟨.identifier, "x"⟩])],
      other.1.kind = .comma ∧ IsArgument other.2 := by
    intro other member
    rw [List.mem_singleton.mp member]
    exact ⟨rfl, second⟩
  exact @statement_callForms ⟨.identifier, "w"⟩ ⟨.leftParen, "("⟩ ⟨.rightParen, ")"⟩
    ⟨.semicolon, ";"⟩ ⟨.semicolon, ";"⟩ _ _ [] [] _ _ rfl (by decide) (by decide) rfl first others
    rfl rfl rfl rfl (by decide +kernel) (by decide +kernel)

/-- The name of a routine is a word that may not be empty. With an empty one, which no source text
has, neither form of a call is read. -/
theorem statement_callForms_unnamed :
    let name : Lexeme := ⟨.identifier, ""⟩
    let argument : Lexeme := ⟨.number, "1"⟩
    let token (kind : TokenKind) (text : String) : Token := ⟨kind, text, .origin⟩
    let bare := Cursor.ofTokens
      [token .identifier "", token .number "1", token .semicolon ";"]
    let closed := Cursor.ofTokens
      [token .identifier "", token .leftParen "(", token .number "1", token .rightParen ")",
        token .semicolon ";"]
    name.kind = .identifier ∧ '.' ∉ name.text.toList ∧ opensBareArgument argument.kind ∧
      IsArgument [argument] ∧
      bare.lexemes = name :: (spread [argument] [] ++ [⟨.semicolon, ";"⟩]) ∧
      closed.lexemes = name :: ⟨.leftParen, "("⟩ ::
        (spread [argument] [] ++ [⟨.rightParen, ")"⟩, ⟨.semicolon, ";"⟩]) ∧
      (statement.run bare).toOption.isNone ∧ (statement.run closed).toOption.isNone := by
  have number : IsArgument [⟨.number, "1"⟩] := by
    obtain ⟨value, found⟩ := Option.isSome_iff_exists.mp
      (show (Binary64.read? "1").isSome by decide +kernel)
    exact isArgument_iff.mpr ⟨_, _, .operand (.operand (.number rfl found))⟩
  exact ⟨rfl, by decide, rfl, number, by decide +kernel, by decide +kernel, by decide +kernel,
    by decide +kernel⟩

end Parser

end RapidLang
