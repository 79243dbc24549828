import RapidLang.Diagnostic.Basic
import RapidLang.Syntax.Program
import RapidLang.Token.Basic

/-!
# Reading tokens

A cursor stands before the tokens that have not been read, and carries what has been reported so
far. Readers take tokens from a cursor and give back a value, or the first error they meet, and the
cursor where they ended. An error is kept as its cause and the token that it concerns; its wording,
code and span follow from these. Failing puts the report of the error on the cursor.
-/

set_option autoImplicit false

namespace RapidLang.Parser

open Text

/-- Tokens with an end of input at last. Where the last one is none, one is put where that ends. -/
def completed (tokens : List Token) : List Token :=
  match tokens.getLast? with
  | some last =>
    if last.kind = .endOfInput then tokens else tokens ++ [Token.endAt last.span.stop]
  | none => [Token.endAt Position.start]

/-- The tokens still to be read and how many they are, the first end of input, and the tokens behind
that. The cursor never moves past the end of input. -/
structure Cursor where
  rest : List Token
  stop : Token
  beyond : List Token
  reported : List Diagnostic
  rest_kind : ∀ token ∈ rest, token.kind ≠ .endOfInput
  stop_kind : stop.kind = .endOfInput
  left : Nat := rest.length
  left_eq : left = rest.length := by rfl

namespace Cursor

def ofTokens (tokens : List Token) : Cursor :=
  let whole := completed tokens
  let behind := whole.dropWhile fun token => token.kind != .endOfInput
  { rest := whole.takeWhile fun token => token.kind != .endOfInput
    stop := behind.headD (Token.endAt Position.start)
    beyond := behind.tail
    reported := []
    rest_kind := by
      intro token member
      simpa using List.all_eq_true.mp List.all_takeWhile token member
    stop_kind := by
      cases remaining : behind with
      | nil => rfl
      | cons stop beyond =>
          have stopped := List.head_dropWhile_not (fun token : Token => token.kind != .endOfInput)
            (remaining ▸ List.cons_ne_nil stop beyond)
          simpa [behind, remaining] using stopped }

def current (cursor : Cursor) : Token :=
  cursor.rest.headD cursor.stop

/-- The token after the next one. Behind the last token of all it is that token again. -/
def following (cursor : Cursor) : Token :=
  match cursor.rest with
  | [] => cursor.beyond.headD cursor.stop
  | _ :: rest => rest.headD cursor.stop

def advance (cursor : Cursor) : Cursor :=
  { cursor with
    rest := cursor.rest.tail
    rest_kind := fun token member => cursor.rest_kind token (List.mem_of_mem_tail member)
    left := cursor.left - 1
    left_eq := by simp [cursor.left_eq] }

/-- The other cursor stands in the same tokens, at the same place or further on. -/
structure Reaches (cursor later : Cursor) : Prop where
  rest : later.rest <:+ cursor.rest
  stop : later.stop = cursor.stop
  beyond : later.beyond = cursor.beyond

namespace Reaches

theorem refl (cursor : Cursor) : cursor.Reaches cursor :=
  ⟨List.suffix_rfl, rfl, rfl⟩

theorem trans {cursor later last : Cursor} (first : cursor.Reaches later)
    (second : later.Reaches last) : cursor.Reaches last :=
  ⟨second.rest.trans first.rest, second.stop.trans first.stop, second.beyond.trans first.beyond⟩

theorem advance (cursor : Cursor) : cursor.Reaches cursor.advance :=
  ⟨List.tail_suffix cursor.rest, rfl, rfl⟩

end Reaches

end Cursor

inductive NameRole where
  | module
  | dataType
  | data
  | procedure
  | returnType
  | function
  | trap
  | record
  | componentType
  | component
  | parameterType
  | parameter
  | counter
  | option
  | error
  deriving DecidableEq, Repr

def NameRole.words : NameRole → String
  | .module => "module name"
  | .dataType => "data type"
  | .data => "data name"
  | .procedure => "procedure name"
  | .returnType => "return type"
  | .function => "function name"
  | .trap => "trap name"
  | .record => "record name"
  | .componentType => "component type"
  | .component => "component name"
  | .parameterType => "parameter type"
  | .parameter => "parameter name"
  | .counter => "loop variable"
  | .option => "optional argument name"
  | .error => "error name"

inductive Fault where
  /-- A declaration should begin here. -/
  | noDeclaration
  /-- A token of this kind should stand here. -/
  | noToken (kind : TokenKind)
  /-- A name should stand here. -/
  | noName (role : NameRole)
  /-- An expression should begin here. -/
  | noExpression
  /-- The text of the token denotes no number. -/
  | invalidNumber
  /-- Something other than a name is called. -/
  | invalidCall
  /-- The dots of a name leave an empty part. -/
  | malformedName
  /-- A word has no part that a chain could begin with. -/
  | noHead
  deriving DecidableEq, Repr

/-- A cause, the token that it concerns, and how many tokens are left to read from that one on. -/
structure SyntaxError where
  fault : Fault
  token : Token
  left : Nat

namespace SyntaxError

def message (error : SyntaxError) : String :=
  let token := error.token
  let expected (wanted : String) := "expected " ++ wanted ++ ", found " ++ token.describe
  match error.fault with
  | .noDeclaration => expected "declaration"
  | .noToken .identifier => expected "identifier"
  | .noToken kind => expected ("`" ++ kind.render ++ "`")
  | .noName role => expected role.words
  | .noExpression => expected "expression"
  | .invalidNumber => "invalid number `" ++ token.text ++ "`"
  | .invalidCall => "only named routines can be called"
  | .malformedName => "malformed name `" ++ token.text ++ "`"
  | .noHead => "expected identifier"

def code (error : SyntaxError) : Code :=
  match error.fault with
  | .noDeclaration | .noToken _ | .noName _ => .unexpectedToken
  | .noExpression | .invalidNumber => .expectedExpression
  | .invalidCall => .invalidCallTarget
  | .malformedName | .noHead => .malformedName

def span (error : SyntaxError) : Span :=
  error.token.span

def diagnostic (error : SyntaxError) : Diagnostic :=
  { severity := .error
    stage := .parser
    code := some error.code
    message := error.message
    span := error.span
    labels := [⟨error.span, "here"⟩]
    help := none }

def render (error : SyntaxError) : String :=
  error.message ++ " at " ++ error.span.render

end SyntaxError

namespace Cursor

/-- The error that the next token does not fit. -/
def offence (cursor : Cursor) (fault : Fault) : SyntaxError :=
  ⟨fault, cursor.current, cursor.left⟩

def report (cursor : Cursor) (error : SyntaxError) : Cursor :=
  { cursor with reported := cursor.reported ++ [error.diagnostic] }

theorem Reaches.report {cursor later : Cursor} (reaches : cursor.Reaches later)
    (error : SyntaxError) : cursor.Reaches (later.report error) :=
  ⟨reaches.rest, reaches.stop, reaches.beyond⟩

end Cursor

/-- What a reader makes of the tokens at a cursor: a value or an error, and the cursor where it
ended. -/
abbrev Outcome (α : Type) : Type := Except (SyntaxError × Cursor) (α × Cursor)

namespace Outcome

variable {α : Type}

def cursor : Outcome α → Cursor
  | .ok (_, behind) => behind
  | .error (_, behind) => behind

def value? : Outcome α → Option α
  | .ok (value, _) => some value
  | .error _ => none

/-- The outcome ends at a later cursor, and an error concerns a token between. -/
def Follows (cursor : Cursor) : Outcome α → Prop
  | .ok (_, behind) => cursor.Reaches behind
  | .error (error, behind) =>
    ∃ before : Cursor, cursor.Reaches before ∧ before.Reaches behind ∧
      error = before.offence error.fault

theorem Follows.cursor {cursor : Cursor} {outcome : Outcome α} (follows : outcome.Follows cursor) :
    cursor.Reaches outcome.cursor := by
  cases outcome with
  | ok result => exact follows
  | error failure =>
      obtain ⟨before, first, second, _⟩ := follows
      exact first.trans second

theorem Follows.of_later {cursor later : Cursor} {outcome : Outcome α}
    (reaches : cursor.Reaches later) (follows : outcome.Follows later) :
    outcome.Follows cursor := by
  cases outcome with
  | ok result => exact reaches.trans follows
  | error failure =>
      obtain ⟨before, first, second, same⟩ := follows
      exact ⟨before, reaches.trans first, second, same⟩

end Outcome

/-- A reader of tokens. It only ever moves forward. -/
structure Reader (α : Type) where
  run : Cursor → Outcome α
  forward : ∀ cursor : Cursor, (run cursor).Follows cursor

def fail {α : Type} (fault : Fault) : Reader α where
  run cursor := .error (cursor.offence fault, cursor.report (cursor.offence fault))
  forward cursor := ⟨cursor, .refl cursor, .report (.refl cursor) _, rfl⟩

namespace Reader

variable {α β : Type}

protected def pure (value : α) : Reader α where
  run cursor := .ok (value, cursor)
  forward := Cursor.Reaches.refl

protected def bind (reader : Reader α) (next : α → Reader β) : Reader β where
  run cursor :=
    match reader.run cursor with
    | .ok (value, behind) => (next value).run behind
    | .error failure => .error failure
  forward cursor := by
    have first := reader.forward cursor
    cases outcome : reader.run cursor with
    | error failure =>
        rw [outcome] at first
        exact first
    | ok result =>
        rw [outcome] at first
        exact .of_later first ((next result.1).forward result.2)

instance : Monad Reader where
  pure := Reader.pure
  bind := Reader.bind

/-- Reads on, and fails at the token with which that begins if it yields nothing. -/
def require (fault : Fault) (reader : Reader (Option α)) : Reader α where
  run cursor :=
    match reader.run cursor with
    | .ok (some value, behind) => .ok (value, behind)
    | .ok (none, behind) => .error (cursor.offence fault, behind.report (cursor.offence fault))
    | .error failure => .error failure
  forward cursor := by
    have first := reader.forward cursor
    split
    next outcome =>
      rw [outcome] at first
      exact first
    next outcome =>
      rw [outcome] at first
      exact ⟨cursor, .refl cursor, .report first _, rfl⟩
    next outcome =>
      rw [outcome] at first
      exact first

def delay (reader : Unit → Reader α) : Reader α where
  run cursor := (reader ()).run cursor
  forward cursor := (reader ()).forward cursor

/-- A recursive reader, unrolled to a depth. Deeper down it fails. -/
def unroll (fault : Fault) (step : Reader α → Reader α) : Nat → Reader α
  | 0 => fail fault
  | depth + 1 => delay fun _ => step (unroll fault step depth)

/-- A recursive reader. The step is given the reader itself, which it may use behind the next
token; the tokens that are left therefore bound the depth of the recursion. -/
def knot (fault : Fault) (step : Reader α → Reader α) : Reader α where
  run cursor := (unroll fault step (cursor.left + 1)).run cursor
  forward cursor := (unroll fault step (cursor.left + 1)).forward cursor

/-- Carries out a step for as long as the next token admits one. A step that takes no token is the
last one. -/
def stepsFrom (continues : TokenKind → Bool) (step : α → Reader α) (value : α)
    (cursor : Cursor) : Outcome α :=
  if continues cursor.current.kind then
    match (step value).run cursor with
    | .ok (next, behind) =>
      if behind.left < cursor.left then stepsFrom continues step next behind
      else .ok (next, behind)
    | .error failure => .error failure
  else .ok (value, cursor)
termination_by cursor.left

theorem stepsFrom_forward (continues : TokenKind → Bool) (step : α → Reader α) (value : α)
    (cursor : Cursor) : (stepsFrom continues step value cursor).Follows cursor := by
  fun_induction stepsFrom continues step value cursor with
  | case1 value cursor _ next behind outcome _ ih =>
      have first := (step value).forward cursor
      rw [outcome] at first
      exact .of_later first ih
  | case2 value cursor _ next behind outcome _ =>
      have first := (step value).forward cursor
      rwa [outcome] at first
  | case3 value cursor _ failure outcome =>
      have first := (step value).forward cursor
      rwa [outcome] at first
  | case4 value cursor _ => exact Cursor.Reaches.refl cursor

def steps (continues : TokenKind → Bool) (step : α → Reader α) (value : α) : Reader α where
  run := stepsFrom continues step value
  forward := stepsFrom_forward continues step value

/-- Runs a reader on tokens; what it leaves unread does not matter. -/
def read (reader : Reader α) (tokens : List Token) : Except SyntaxError α :=
  match reader.run (Cursor.ofTokens tokens) with
  | .ok (value, _) => .ok value
  | .error (error, _) => .error error

end Reader

def peek : Reader Token where
  run cursor := .ok (cursor.current, cursor)
  forward := Cursor.Reaches.refl

def peekFollowing : Reader Token where
  run cursor := .ok (cursor.following, cursor)
  forward := Cursor.Reaches.refl

def peekKind : Reader TokenKind := do
  return (← peek).kind

def take : Reader Token where
  run cursor := .ok (cursor.current, cursor.advance)
  forward := Cursor.Reaches.advance

/-- Takes the next token for what it means, and fails at it if it means nothing. -/
def takeAs {α : Type} (fault : Fault) (meaning? : Token → Option α) : Reader α :=
  .require fault do
    let token ← take
    return meaning? token

/-- Takes the next token if it is of a kind, and tells whether it was. -/
def accept (kind : TokenKind) : Reader Bool := do
  if (← peekKind) = kind then
    let _ ← take
    return true
  else return false

def expect (kind : TokenKind) : Reader Token := do
  if (← peekKind) = kind then take else fail (.noToken kind)

def expectName (role : NameRole) : Reader Name := do
  if (← peekKind) = .identifier then
    let token ← take
    return ⟨token.text, token.span⟩
  else fail (.noName role)

/-- Reads items for as long as the next token admits one, onto the earlier ones in reverse. -/
def collect {α : Type} (continues : TokenKind → Bool) (item : Reader α) (reversed : List α) :
    Reader (List α) :=
  Reader.steps continues (fun items => do return (← item) :: items) reversed

def repeatWhile {α : Type} (continues : TokenKind → Bool) (item : Reader α) :
    Reader (List α) := do
  let reversed ← collect continues item []
  return reversed.reverse

def commaSeparated {α : Type} (item : Reader α) : Reader (List α) := do
  let first ← item
  let others ← repeatWhile (· == .comma) do
    let _ ← take
    item
  return first :: others

def optionalAfter {α : Type} (kind : TokenKind) (item : Reader α) : Reader (Option α) := do
  if ← accept kind then
    return some (← item)
  else return none

end RapidLang.Parser
