import RapidLang.Proofs.Parser.Phrases.Expression
import RapidLang.Proofs.Parser.Twins.Basic

/-!
# Expressions are read without regard to spans

No reader of expressions lets a span decide what it does.
-/

set_option autoImplicit false

namespace RapidLang.Parser

open Reader

variable {reader : Reader Expr}

/-! ## Chains -/

theorem erase_dottedNames (token : Token) :
    erase (dottedNames token) =
      (Grammar.nameParts token.text).map fun text => ⟨text, .origin⟩ := by
  rw [← map_text_dottedNames, List.map_map]
  rfl

theorem map_text_of_erase {names names' : List Name} (same : erase names = erase names') :
    names.map Name.text = names'.map Name.text := by
  have texts : ∀ names : List Name, (erase names).map Name.text = names.map Name.text := by
    intro names
    exact List.map_map
  rw [← texts, same, texts]

theorem erase_select_all {names names' : List Name} {base base' : Expr}
    (same : erase names = erase names') (bases : erase base = erase base') :
    erase (names.foldl Expr.select base) = erase (names'.foldl Expr.select base') := by
  rw [erase_foldl_select, erase_foldl_select, bases, map_text_of_erase same]

theorem erase_names? (token : Token) :
    erase (names? token) = if "" ∈ Grammar.nameParts token.text then none
      else some ((Grammar.nameParts token.text).map fun text => ⟨text, .origin⟩) := by
  unfold names?
  by_cases empty : "" ∈ Grammar.nameParts token.text
  · rw [if_pos empty, if_pos ((any_dottedNames token).mpr empty)]
    rfl
  · rw [if_neg empty, if_neg (mt (any_dottedNames token).mp empty), ← erase_dottedNames]
    rfl

/-- The names that a dotted word stands for depend on its text, but for their spans. -/
theorem erase_names?_congr (kind : TokenKind) (text : String) (span span' : Text.Span) :
    erase (names? ⟨kind, text, span⟩) = erase (names? ⟨kind, text, span'⟩) := by
  rw [erase_names?, erase_names?]

theorem takeNames_twin : takeNames.Twin takeNames :=
  .takeAs erase_names?_congr

theorem erase_headNames?_congr (kind : TokenKind) (text : String) (span span' : Text.Span)
    (next : TokenKind) :
    erase (headNames? ⟨kind, text, span⟩ next) = erase (headNames? ⟨kind, text, span'⟩ next) := by
  unfold headNames?
  dsimp only
  split
  · rfl
  · exact erase_names?_congr kind text span span'

theorem erase_headOf?_congr {names names' : List Name} (same : erase names = erase names') :
    erase (headOf? names) = erase (headOf? names') := by
  cases names with
  | nil =>
      cases names' with
      | nil => rfl
      | cons head' components' => cases same
  | cons head components =>
      cases names' with
      | nil => cases same
      | cons head' components' =>
          rw [erase_cons, erase_cons, List.cons.injEq] at same
          exact congrArg some (erase_select_all same.2 (congrArg Expr.variable same.1))

theorem headNames_twin : headNames.Twin headNames := by
  unfold headNames
  apply Twin.require
  apply Twin.take_bind
  intro kind text span span'
  apply Twin.peekKind_bind
  intro next
  exact .pure (erase_headNames?_congr kind text span span' next)

theorem chainHead_twin : chainHead.Twin chainHead := by
  unfold chainHead
  apply Twin.require
  apply Twin.bind headNames_twin
  intro names names' same
  exact .pure (erase_headOf?_congr same)

theorem arguments_twin (inner : reader.Twin reader) :
    (arguments reader).Twin (arguments reader) := by
  unfold arguments
  apply Twin.peekKind_bind
  intro kind
  split
  · exact .pure rfl
  · exact .commaSeparated inner

theorem callSuffix_twin (inner : reader.Twin reader) (text : String) (span span' : Text.Span) :
    (callSuffix reader ⟨text, span⟩).Twin (callSuffix reader ⟨text, span'⟩) := by
  unfold callSuffix
  apply Twin.take_bind
  intro _ _ _ _
  apply Twin.bind (arguments_twin inner)
  intro values values' same
  apply Twin.expect_bind
  intro _ _ _ _
  exact .pure (by simp [same])

theorem indexSuffix_twin (inner : reader.Twin reader) {base base' : Expr}
    (same : erase base = erase base') :
    (indexSuffix reader base).Twin (indexSuffix reader base') := by
  unfold indexSuffix
  apply Twin.take_bind
  intro _ _ _ _
  apply Twin.bind inner
  intro position position' same'
  apply Twin.expect_bind
  intro _ _ _ _
  exact .pure (by simp [same, same'])

theorem componentSuffix_twin {base base' : Expr} (same : erase base = erase base') :
    (componentSuffix base).Twin (componentSuffix base') := by
  unfold componentSuffix
  apply Twin.take_bind
  intro _ _ _ _
  apply Twin.peekKind_bind
  intro kind
  split
  · apply Twin.bind takeNames_twin
    intro names names' same'
    exact .pure (erase_select_all same' same)
  · exact .fail

/-- What is a name without its spans is a name. -/
theorem variable_of_erase {value : Expr} {name : Name} (same : erase value = .variable name) :
    ∃ span, value = .variable ⟨name.text, span⟩ := by
  cases value with
  | «variable» other =>
      obtain ⟨text, span⟩ := other
      cases same
      exact ⟨span, rfl⟩
  | number | truth | string | index | component | call | unary | binary =>
      simp at same

/-- Of two expressions that differ in spans only, both are the same name, or neither is one. -/
theorem variable_or_not {value value' : Expr} (same : erase value = erase value') :
    (∃ text span span', value = .variable ⟨text, span⟩ ∧ value' = .variable ⟨text, span'⟩) ∨
      (∀ name, value ≠ .variable name) ∧ ∀ name, value' ≠ .variable name := by
  by_cases named : ∃ name, value = .variable name
  · obtain ⟨⟨text, span⟩, rfl⟩ := named
    obtain ⟨span', rfl⟩ := variable_of_erase same.symm
    exact .inl ⟨text, span, span', rfl, rfl⟩
  · right
    constructor
    · intro name is
      exact named ⟨name, is⟩
    · rintro ⟨text, span⟩ rfl
      obtain ⟨span', rfl⟩ := variable_of_erase same
      exact named ⟨_, rfl⟩

theorem suffix_twin (inner : reader.Twin reader) {base base' : Expr}
    (same : erase base = erase base') : (suffix reader base).Twin (suffix reader base') := by
  unfold suffix
  apply Twin.peekKind_bind
  intro kind
  split
  · rcases variable_or_not same with ⟨text, span, span', rfl, rfl⟩ | ⟨other, other'⟩
    · exact callSuffix_twin inner text span span'
    · split
      next name => exact absurd rfl (other name)
      next => exact .fail
  · exact indexSuffix_twin inner same
  · exact componentSuffix_twin same
  · exact .pure same

theorem nameChain_twin (inner : reader.Twin reader) :
    (nameChain reader).Twin (nameChain reader) := by
  unfold nameChain
  apply Twin.bind chainHead_twin
  intro head head' same
  exact .steps (fun base base' => suffix_twin inner) same

/-! ## Operands -/

theorem numberLiteral_twin : numberLiteral.Twin numberLiteral := by
  unfold numberLiteral
  apply Twin.takeAs
  intro kind text span span'
  unfold number?
  cases Binary64.read? text <;> rfl

theorem parenthesized_twin (inner : reader.Twin reader) :
    (parenthesized reader).Twin (parenthesized reader) := by
  unfold parenthesized
  apply Twin.take_bind
  intro _ _ _ _
  apply Twin.bind inner
  intro value value' same
  apply Twin.expect_bind
  intro _ _ _ _
  exact .pure same

theorem primary_twin (inner : reader.Twin reader) : (primary reader).Twin (primary reader) := by
  unfold primary
  apply Twin.peekKind_bind
  intro kind
  split
  · exact numberLiteral_twin
  · exact .take_bind fun _ _ _ _ => .pure rfl
  · exact .take_bind fun _ _ _ _ => .pure rfl
  · exact .take_bind fun _ _ _ _ => .pure rfl
  · exact parenthesized_twin inner
  · exact nameChain_twin inner
  · exact .fail

theorem erase_foldr_applySign {signs signs' : List Token} (same : erase signs = erase signs')
    {operand operand' : Expr} (operands : erase operand = erase operand') :
    erase (signs.foldr applySign operand) = erase (signs'.foldr applySign operand') := by
  induction signs generalizing signs' with
  | nil =>
      cases signs' with
      | nil => exact operands
      | cons sign' signs' => cases same
  | cons sign signs ih =>
      cases signs' with
      | nil => cases same
      | cons sign' signs' =>
          rw [erase_cons, erase_cons, List.cons.injEq] at same
          have kinds : sign.kind = sign'.kind := congrArg Lexeme.kind ((erase_token_eq_iff _ _).mp same.1)
          rw [List.foldr_cons, List.foldr_cons, applySign, applySign, kinds]
          split
          · rw [erase_unary, erase_unary, ih same.2]
          · exact ih same.2

theorem unary_twin (inner : reader.Twin reader) : (unary reader).Twin (unary reader) := by
  unfold unary
  apply Twin.bind (.repeatWhile .take)
  intro signs signs' same
  apply Twin.bind (primary_twin inner)
  intro operand operand' operands
  exact .pure (erase_foldr_applySign same operands)

/-! ## Operators -/

theorem level_twin {operator? : TokenKind → Option BinaryOperator} {operand : Reader Expr}
    (operands : operand.Twin operand) : (level operator? operand).Twin (level operator? operand) := by
  unfold level
  apply Twin.bind operands
  intro first first' same
  apply Twin.steps _ same
  intro left left' lefts
  unfold operation
  apply Twin.take_bind
  intro kind _ _ _
  apply Twin.bind operands
  intro right right' rights
  dsimp only
  split
  · exact .pure (by rw [erase_join, erase_join, lefts, rights])
  · exact .pure lefts

theorem expressionWith_twin (inner : reader.Twin reader) :
    (expressionWith reader).Twin (expressionWith reader) :=
  level_twin <| level_twin <| level_twin <| level_twin <| level_twin <| level_twin <|
    unary_twin inner

theorem expression_twin : expression.Twin expression :=
  .knot fun _ inner => expressionWith_twin inner

end RapidLang.Parser
