import RapidLang.Proofs.Parser.Inside

/-!
# Operator precedence

Operands with operators between them form the tree that the table of precedences gives them: among
the operators that bind least, the last one is outermost. The readers for the single levels build
this tree, however many operands there are.
-/

set_option autoImplicit false

namespace RapidLang

open Text Grammar RapidLang.Parser

/-! ## Trees by precedence -/

/-- An operator and the operand behind it, with which an expression goes on. -/
structure Extension where
  operator : BinaryOperator
  operand : Expr

namespace Extension

/-- How tightly the operator binds. -/
def precedence (extension : Extension) : Nat :=
  extension.operator.precedence

/-- Extensions before one of them, this one, and those behind it. -/
structure Split where
  before : List Extension
  here : Extension
  behind : List Extension

/-- Splits extensions at the last one among those whose operators bind least. -/
def splitLoosest? : List Extension → Option Split
  | [] => none
  | first :: rest =>
    match splitLoosest? rest with
    | none => some ⟨[], first, []⟩
    | some split =>
      if split.here.precedence ≤ first.precedence then
        some ⟨first :: split.before, split.here, split.behind⟩
      else some ⟨[], first, rest⟩

/-- The split is one of the extensions, and at the last one among those that bind least. -/
structure Split.IsLoosest (split : Split) (extensions : List Extension) : Prop where
  whole : extensions = split.before ++ split.here :: split.behind
  before : ∀ extension ∈ split.before, split.here.precedence ≤ extension.precedence
  behind : ∀ extension ∈ split.behind, split.here.precedence < extension.precedence

theorem splitLoosest?_eq_none {extensions : List Extension}
    (none : splitLoosest? extensions = none) : extensions = [] := by
  cases extensions with
  | nil => rfl
  | cons first rest =>
      cases found : splitLoosest? rest with
      | none => simp [splitLoosest?, found] at none
      | some split =>
          simp only [splitLoosest?, found] at none
          split at none <;> cases none

theorem splitLoosest?_eq_some {extensions : List Extension} {split : Split}
    (found : splitLoosest? extensions = some split) : split.IsLoosest extensions := by
  induction extensions generalizing split with
  | nil => cases found
  | cons first rest ih =>
      cases inner : splitLoosest? rest with
      | none =>
          have empty := splitLoosest?_eq_none inner
          simp only [splitLoosest?, inner] at found
          cases found
          exact ⟨by rw [empty]; rfl, by simp, by simp⟩
      | some other =>
          obtain ⟨whole, before, behind⟩ := ih inner
          simp only [splitLoosest?, inner] at found
          split at found
          next looser =>
            cases found
            refine ⟨by rw [whole]; rfl, ?_, behind⟩
            intro extension member
            cases member with
            | head => exact looser
            | tail _ member => exact before extension member
          next tighter =>
            cases found
            refine ⟨rfl, by simp, ?_⟩
            intro extension member
            have least : other.here.precedence ≤ extension.precedence := by
              rw [whole] at member
              rcases List.mem_append.mp member with member | member
              · exact before extension member
              · cases member with
                | head => exact Nat.le_refl _
                | tail _ member => exact Nat.le_of_lt (behind extension member)
            exact Nat.lt_of_lt_of_le (Nat.lt_of_not_le tighter) least

end Extension

open Extension

/-- The tree of an operand and the operators behind it with their operands: among the operators
that bind least, the last one has what stands before it as its left operand, and what stands behind
it as its right one. -/
def Expr.extended (first : Expr) (extensions : List Extension) : Expr :=
  match _found : splitLoosest? extensions with
  | none => first
  | some split =>
    .binary split.here.operator (first.extended split.before)
      (split.here.operand.extended split.behind) .origin
termination_by extensions.length
decreasing_by
  all_goals
    rw [(splitLoosest?_eq_some _found).whole]
    simp only [List.length_append, List.length_cons]
    omega

/-! ## Phrases by precedence -/

namespace Grammar

/-- The lexemes form operators with an operand behind each. -/
inductive Extensions : List Lexeme → List Extension → Prop where
  | nil : Extensions [] []
  | cons {sign : Lexeme} {operator : BinaryOperator} {operand lexemes : List Lexeme} {tree : Expr}
      {tail : Tail} {extensions : List Extension} :
      binaryOperator? sign.kind = some operator → Unary operand tree tail →
      Extensions lexemes extensions →
      Extensions (sign :: (operand ++ lexemes)) (⟨operator, tree⟩ :: extensions)

theorem Extensions.split {lexemes : List Lexeme} {before behind : List Extension}
    {here : Extension} (list : Extensions lexemes (before ++ here :: behind)) :
    ∃ front sign operand back tail, lexemes = front ++ sign :: (operand ++ back) ∧
      Extensions front before ∧ binaryOperator? sign.kind = some here.operator ∧
      Unary operand here.operand tail ∧ Extensions back behind := by
  induction before generalizing lexemes with
  | nil =>
      cases list with
      | cons selected operand list => exact ⟨[], _, _, _, _, rfl, .nil, selected, operand, list⟩
  | cons first before ih =>
      cases list with
      | cons selected operand list =>
          obtain ⟨front, sign, operand', back, tail, rfl, list, found⟩ := ih list
          exact ⟨_, sign, operand', back, tail, by simp, .cons selected operand list, found⟩

/-- Operands with operators between them form the tree that the precedences give, on every level
that no operator is below. -/
theorem Unary.extended {level : Nat} {operand lexemes : List Lexeme} {first : Expr} {tail : Tail}
    {extensions : List Extension} (unary : Unary operand first tail)
    (list : Extensions lexemes extensions)
    (tight : ∀ extension ∈ extensions, level ≤ extension.precedence) :
    ∃ last, Operation level (operand ++ lexemes) (first.extended extensions) last := by
  fun_induction Expr.extended first extensions generalizing level operand lexemes tail with
  | case1 first extensions none =>
      rw [splitLoosest?_eq_none none] at list
      cases list with
      | nil => exact ⟨tail, by simpa using Operation.operand unary⟩
  | case2 first extensions split found left right =>
      obtain ⟨whole, before, behind⟩ := splitLoosest?_eq_some found
      rw [whole] at list
      obtain ⟨front, sign, operand', back, _, rfl, list, selected, unary', list'⟩ := list.split
      obtain ⟨_, operation⟩ := left unary list before
      obtain ⟨last, operation'⟩ := right unary' list' behind
      have here : level ≤ split.here.operator.precedence :=
        tight split.here (whole ▸ List.mem_append_right _ List.mem_cons_self)
      refine ⟨last, ?_⟩
      rw [← List.append_assoc]
      exact .binary selected here operation operation'

end Grammar

/-! ## Operands of a text -/

namespace Parser

/-- Tokens of which the reader of operands leaves none, and the operand that it makes of them. -/
structure OperandTokens where
  start : Cursor
  stop : Cursor
  operand : Expr
  taken : (unary expression).run start = .ok (operand, stop)
  finished : stop.rest = []

/-- The tokens of an operand. -/
def OperandTokens.tokens (group : OperandTokens) : List Token :=
  group.start.rest

/-- The token of a binary operator, and the tokens of the operand behind it. -/
structure ExtensionTokens where
  sign : Token
  operator : BinaryOperator
  selected : binaryOperator? sign.kind = some operator
  behind : OperandTokens

namespace ExtensionTokens

/-- All tokens of an extension. -/
def tokens (group : ExtensionTokens) : List Token :=
  group.sign :: group.behind.tokens

/-- The operator, and the operand without its place. -/
def extension (group : ExtensionTokens) : Extension :=
  ⟨group.operator, erase group.behind.operand⟩

end ExtensionTokens

theorem OperandTokens.unary (group : OperandTokens) :
    ∃ tail, Unary (group.tokens.map Token.lexeme) (erase group.operand) tail := by
  obtain ⟨read, split, tail, operation, _⟩ :=
    (unary_meets expression_meets group.start).ok group.taken
  have all : group.tokens.map Token.lexeme = read := by
    simpa [OperandTokens.tokens, Cursor.lexemes, group.finished] using split
  exact ⟨tail, all ▸ operation.unary_of_tight (Nat.lt_succ_self _)⟩

/-- Tokens that form an operand are read completely. -/
theorem OperandTokens.exists_of_unary {tokens : List Token} {tree : Expr} {tail : Tail}
    (whole : Unary (tokens.map Token.lexeme) tree tail) :
    ∃ group : OperandTokens, group.tokens = tokens ∧ erase group.operand = tree := by
  have rest : (Cursor.ofTokens tokens).rest = tokens := by
    rw [Cursor.rest_ofTokens]
    refine List.takeWhile_eq_self_iff.mpr fun token member => ?_
    exact bne_iff_ne.mpr (whole.inside token.lexeme (List.mem_map_of_mem member))
  have split : (Cursor.ofTokens tokens).lexemes = tokens.map Token.lexeme ++ [] := by
    rw [Cursor.lexemes, rest, List.append_nil]
  obtain ⟨operand, stop, taken, same, left⟩ :=
    unary_takes (expression_takesOperations _) (Nat.le_refl _) whole split fun _ => rfl
  exact ⟨⟨.ofTokens tokens, stop, operand, taken, List.map_eq_nil_iff.mp left⟩, rest, same⟩

theorem ExtensionTokens.extensions (groups : List ExtensionTokens) :
    Extensions ((groups.flatMap tokens).map Token.lexeme) (groups.map extension) := by
  induction groups with
  | nil => exact .nil
  | cons group groups ih =>
      obtain ⟨tail, unary⟩ := group.behind.unary
      rw [List.flatMap_cons, List.map_append, tokens, List.map_cons, List.cons_append]
      exact .cons group.selected unary ih

/-- A cursor that has come to certain lexemes stands before the tokens that these were. -/
theorem Cursor.Reaches.rest_eq {cursor behind : Cursor} {front rest : List Token}
    (reaches : cursor.Reaches behind) (split : cursor.rest = front ++ rest)
    (left : behind.lexemes = rest.map Token.lexeme) : behind.rest = rest := by
  have within : rest <:+ cursor.rest := ⟨front, split.symm⟩
  have lengths : behind.rest.length = rest.length := by
    simpa [Cursor.lexemes] using congrArg List.length left
  have inside := List.suffix_of_suffix_length_le reaches.1 within (Nat.le_of_eq lengths)
  exact inside.eq_of_length lengths

/-- Operands with operators between them, up to a token that belongs to no expression before it,
are read as the tree that the precedences of the operators give them, and nothing else is read. -/
theorem expression_extended (cursor : Cursor) (first : OperandTokens)
    (extensions : List ExtensionTokens) (follower : List Token)
    (split : cursor.rest =
      first.tokens ++ extensions.flatMap ExtensionTokens.tokens ++ follower)
    (ends : ∀ token ∈ follower.head?, IsPlain token.kind) :
    ∃ value behind, expression.run cursor = .ok (value, behind) ∧ behind.rest = follower ∧
      erase value =
        (erase first.operand).extended (extensions.map ExtensionTokens.extension) := by
  obtain ⟨_, unary⟩ := first.unary
  obtain ⟨tail, whole⟩ := unary.extended (ExtensionTokens.extensions extensions)
    fun extension _ => one_le_precedence extension.operator
  have lexemes : cursor.lexemes = first.tokens.map Token.lexeme ++
      (extensions.flatMap ExtensionTokens.tokens).map Token.lexeme ++
        follower.map Token.lexeme := by
    simp [Cursor.lexemes, split]
  have plain : IsPlain (nextKind (follower.map Token.lexeme)) := by
    cases follower with
    | nil => exact ⟨rfl, rfl⟩
    | cons token _ => exact ends token rfl
  obtain ⟨value, behind, outcome, same, left⟩ := expression_takes _ whole lexemes plain.stops
  have rest := (Reader.reaches_of_ok outcome).rest_eq split left
  exact ⟨value, behind, outcome, rest, same⟩

/-- Operators of two levels, the lower one twice. -/
def differences : List Token :=
  (Lexed.ofString "a - b * -c - d;").tokens

/-- A token of one character in the first line. -/
def singleToken (kind : TokenKind) (text : String) (column : Nat) : Token :=
  ⟨kind, text, ⟨⟨1, column⟩, ⟨1, column + 1⟩⟩⟩

theorem expression_extended_of_differences :
    ∃ (first : OperandTokens) (extensions : List ExtensionTokens),
      (Cursor.ofTokens differences).rest = first.tokens ++
        extensions.flatMap ExtensionTokens.tokens ++ [singleToken .semicolon ";" 15] ∧
      ∃ value behind, expression.run (Cursor.ofTokens differences) = .ok (value, behind) ∧
        behind.rest = [singleToken .semicolon ";" 15] ∧
        erase value = .binary .subtract
          (.binary .subtract (.variable ⟨"a", .origin⟩)
            (.binary .multiply (.variable ⟨"b", .origin⟩)
              (.unary .minus (.variable ⟨"c", .origin⟩) .origin) .origin) .origin)
          (.variable ⟨"d", .origin⟩) .origin := by
  have name : ∀ (text : String) (column : Nat), '.' ∉ text.toList → text ≠ "" →
      Unary ([singleToken .identifier text column].map Token.lexeme)
        (.variable ⟨text, .origin⟩) .chain :=
    fun text column plain some => .operand (.chain (.word rfl plain some))
  have negative : Unary
      ([singleToken .minus "-" 9, singleToken .identifier "c" 10].map Token.lexeme)
      (.unary .minus (.variable ⟨"c", .origin⟩) .origin) .chain :=
    .operator rfl (name "c" 10 (by decide) (by decide))
  obtain ⟨a, tokensA, treeA⟩ := OperandTokens.exists_of_unary (name "a" 1 (by decide) (by decide))
  obtain ⟨b, tokensB, treeB⟩ := OperandTokens.exists_of_unary (name "b" 5 (by decide) (by decide))
  obtain ⟨c, tokensC, treeC⟩ := OperandTokens.exists_of_unary negative
  obtain ⟨d, tokensD, treeD⟩ := OperandTokens.exists_of_unary (name "d" 14 (by decide) (by decide))
  let extensions : List ExtensionTokens :=
    [⟨singleToken .minus "-" 3, .subtract, rfl, b⟩, ⟨singleToken .star "*" 7, .multiply, rfl, c⟩,
      ⟨singleToken .minus "-" 12, .subtract, rfl, d⟩]
  have split : (Cursor.ofTokens differences).rest = a.tokens ++
      extensions.flatMap ExtensionTokens.tokens ++ [singleToken .semicolon ";" 15] := by
    simp only [extensions, List.flatMap_cons, List.flatMap_nil, ExtensionTokens.tokens, tokensA,
      tokensB, tokensC, tokensD]
    decide +kernel
  have ends : ∀ token ∈ [singleToken .semicolon ";" 15].head?, IsPlain token.kind := by
    rintro _ ⟨⟩
    exact ⟨rfl, rfl⟩
  obtain ⟨value, behind, outcome, left, tree⟩ := expression_extended (.ofTokens differences)
    a extensions [singleToken .semicolon ";" 15] split ends
  refine ⟨a, extensions, split, value, behind, outcome, left, tree.trans ?_⟩
  simp [extensions, ExtensionTokens.extension, treeA, treeB, treeC, treeD, Expr.extended,
    splitLoosest?, Extension.precedence, BinaryOperator.precedence]

end Parser

end RapidLang
