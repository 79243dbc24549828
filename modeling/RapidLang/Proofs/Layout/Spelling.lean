import RapidLang.Layout.Expression
import RapidLang.Proofs.Layout.Printer
import RapidLang.Proofs.Number.ReadBack
import RapidLang.Proofs.Token.Words

/-!
# Spelling

A text that is put together from the texts of lexemes has these lexemes, if each is complete before
the next one begins. `Spells` also tells how the text begins: the parser and the printer decide on
parentheses by the first lexeme and the first character.
-/

set_option autoImplicit false

namespace RapidLang

open Text Grammar RapidLang.Parser

/-! ## Texts put together -/

/-- The text has the lexemes and is complete, whatever stands before and behind it. -/
def Separates (text : String) (lexemes : List Lexeme) : Prop :=
  Lexes text.toList lexemes ∧ startsFresh text.toList ∧ text.toList ≠ [] ∧ isSealed text.toList

instance (text : String) (lexemes : List Lexeme) : Decidable (Separates text lexemes) :=
  inferInstanceAs (Decidable (_ ∧ _ ∧ _ ∧ _))

/-- The text has the lexemes and is complete, whatever stands behind it. -/
def Leads (text : String) (lexemes : List Lexeme) : Prop :=
  Lexes text.toList lexemes ∧ isSealed text.toList

instance (text : String) (lexemes : List Lexeme) : Decidable (Leads text lexemes) :=
  inferInstanceAs (Decidable (_ ∧ _))

namespace Lexes

variable {text between more : String} {lexemes middle rest : List Lexeme}

theorem put (lexes : Lexes text.toList lexemes) (lexes' : Lexes more.toList rest)
    (apart : isSealed text.toList ∨ startsFresh more.toList) :
    Lexes (text ++ more).toList (lexemes ++ rest) := by
  rw [String.toList_append]
  exact lexes.append lexes' apart

theorem isSealed_put (lexes : Lexes text.toList lexemes) (separates : Separates more rest) :
    isSealed (text ++ more).toList := by
  obtain ⟨_, fresh, some, complete⟩ := separates
  rw [String.toList_append]
  exact lexes.isSealed_append (.inr fresh) some complete

theorem separate (lexes : Lexes text.toList lexemes) (separates : Separates between middle)
    (lexes' : Lexes more.toList rest) :
    Lexes (text ++ between ++ more).toList (lexemes ++ middle ++ rest) :=
  (lexes.put separates.1 (.inr separates.2.1)).put lexes' (.inl (lexes.isSealed_put separates))

/-- A text behind a word. -/
theorem behind (leads : Leads between middle) (lexes : Lexes text.toList lexemes) :
    Lexes (between ++ text).toList (middle ++ lexemes) :=
  leads.1.put lexes (.inl leads.2)

/-- A line that ends with a semicolon. -/
theorem closed (lexes : Lexes text.toList lexemes) :
    Lays (LayoutStep.line (text ++ ";")) (lexemes ++ [⟨.semicolon, ";"⟩]) :=
  .line (lexes.put (by decide) (.inr (by decide)))

end Lexes

/-! ## Texts that begin with some lexeme -/

/-- Is a character a parenthesis, a minus or a plus exactly if a kind is? -/
def opensWith (c : Char) (kind : TokenKind) : Bool :=
  (c == '(') == (kind == .leftParen) && (c == '-') == (kind == .minus) &&
    (c == '+') == (kind == .plus)

/-- The text has the lexemes and begins with the first of them. -/
structure Spells (text : String) (lexemes : List Lexeme) : Prop where
  lexes : Lexes text.toList lexemes
  inside : nextKind lexemes ≠ .endOfInput
  opens : ∃ c, text.toList.head? = some c ∧ opensWith c (nextKind lexemes)

namespace Spells

variable {text more : String} {lexemes rest : List Lexeme}

theorem filled (spells : Spells text lexemes) : text.toList ≠ [] := by
  obtain ⟨c, first, _⟩ := spells.opens
  intro empty
  rw [empty] at first
  cases first

theorem put (spells : Spells text lexemes) (lexes : Lexes more.toList rest)
    (apart : isSealed text.toList ∨ startsFresh more.toList) :
    Spells (text ++ more) (lexemes ++ rest) := by
  refine ⟨spells.lexes.put lexes apart, ?_, ?_⟩
  · rw [nextKind_append spells.inside]
    exact spells.inside
  · obtain ⟨c, first, opens⟩ := spells.opens
    refine ⟨c, ?_, ?_⟩
    · rw [String.toList_append, List.head?_append, first]
      rfl
    · rwa [nextKind_append spells.inside]

/-- What stands between two marks behind a text. -/
theorem enclose {opening inner close : String} {first last : Lexeme} (spells : Spells text lexemes)
    (opening' : Separates opening [first]) (lexes : Lexes inner.toList rest)
    (close' : Separates close [last]) :
    Spells (text ++ opening ++ inner ++ close) (lexemes ++ first :: (rest ++ [last])) ∧
      isSealed (text ++ opening ++ inner ++ close).toList := by
  have opened := spells.put opening'.1 (.inr opening'.2.1)
  have within := opened.put lexes (.inl (spells.lexes.isSealed_put opening'))
  refine ⟨?_, within.lexes.isSealed_put close'⟩
  simpa using within.put close'.1 (.inr close'.2.1)

theorem parenthesized (lexes : Lexes text.toList lexemes) :
    Spells ("(" ++ text ++ ")") (⟨.leftParen, "("⟩ :: (lexemes ++ [⟨.rightParen, ")"⟩])) := by
  have opening : Spells "(" [⟨.leftParen, "("⟩] :=
    ⟨by decide, by decide, '(', rfl, by decide⟩
  have close : Lexes ")".toList [⟨.rightParen, ")"⟩] := by decide
  simpa using (opening.put lexes (.inl (by decide))).put close (.inr (by decide))

theorem word (word : IsWord text.toList) : Spells text [wordLexeme text.toList] := by
  refine ⟨.word word, kind_wordLexeme_ne text.toList (by decide), ?_⟩
  obtain ⟨c, rest, split, starts, _⟩ := word
  refine ⟨c, by rw [split]; rfl, ?_⟩
  have apart : ∀ d, Shape.start d ≠ .word → (c == d) = false := by
    rintro d other
    rw [beq_eq_false_iff_ne]
    rintro rfl
    exact other starts
  have mark : ∀ kind : TokenKind, ¬(kind = .identifier ∨ kind.isReserved) →
      ((wordLexeme text.toList).kind == kind) = false := fun kind other =>
    beq_eq_false_iff_ne.mpr (kind_wordLexeme_ne text.toList other)
  simp only [nextKind, opensWith, apart '(' (by decide), apart '-' (by decide),
    apart '+' (by decide), mark .leftParen (by decide), mark .minus (by decide),
    mark .plus (by decide)]
  rfl

/-- A name or reserved word spells its lexeme. -/
theorem of_written {lexeme : Lexeme} (written : Written lexeme)
    (kind : lexeme.kind = .identifier ∨ lexeme.kind.isReserved) : Spells lexeme.text [lexeme] := by
  obtain ⟨word, same⟩ := written.isWord kind
  have spells := Spells.word word
  rwa [same] at spells

/-- A dot and a word behind a name make one word with it. -/
theorem dotted {name : Lexeme} (written : Written name) (kind : name.kind = .identifier)
    (word : IsWord more.toList) :
    Spells (name.text ++ "." ++ more) [wordLexeme (name.text ++ "." ++ more).toList] := by
  have joined := (written.isWord (.inl kind)).1.append_dot word
  exact .word (by simpa using joined)

/-- A dot and a word behind a bracket. -/
theorem component (spells : Spells text lexemes) (complete : isSealed text.toList)
    (word : IsWord more.toList) :
    Spells (text ++ "." ++ more) (lexemes ++ [⟨.dot, "."⟩, wordLexeme more.toList]) := by
  have lexes : Lexes ("." ++ more).toList [⟨.dot, "."⟩, wordLexeme more.toList] := by
    rw [String.toList_append]
    exact .dot_word word
  simpa [String.append_assoc] using spells.put lexes (.inl complete)

theorem of_digit {text : String} {c : Char} {rest : List Char} (starts : text.toList = c :: rest)
    (digit : c.isDigit) (lexes : Lexes text.toList [⟨.number, text⟩]) :
    Spells text [⟨.number, text⟩] := by
  refine ⟨lexes, TokenKind.noConfusion, c, by rw [starts]; rfl, ?_⟩
  have apart : ∀ d : Char, d.isDigit = false → (c == d) = false := by
    rintro d other
    rw [beq_eq_false_iff_ne]
    rintro rfl
    rw [digit] at other
    cases other
  simp only [nextKind, opensWith, apart '(' rfl, apart '-' rfl, apart '+' rfl]
  rfl

end Spells

/-- The lexeme of a binary operator. -/
def BinaryOperator.lexeme : BinaryOperator → Lexeme
  | .add => ⟨.plus, "+"⟩
  | .subtract => ⟨.minus, "-"⟩
  | .multiply => ⟨.star, "*"⟩
  | .divide => ⟨.slash, "/"⟩
  | .equal => ⟨.equal, "="⟩
  | .notEqual => ⟨.notEqual, "<>"⟩
  | .less => ⟨.less, "<"⟩
  | .greater => ⟨.greater, ">"⟩
  | .lessEqual => ⟨.lessEqual, "<="⟩
  | .greaterEqual => ⟨.greaterEqual, ">="⟩
  | .and => ⟨.and, "AND"⟩
  | .or => ⟨.or, "OR"⟩

theorem binaryOperator?_lexeme (operator : BinaryOperator) :
    binaryOperator? operator.lexeme.kind = some operator := by
  cases operator <;> rfl

theorem Spells.operated {left right : String} {lexemes rest : List Lexeme}
    (operator : BinaryOperator) (spells : Spells left lexemes) (lexes : Lexes right.toList rest) :
    Spells (left ++ " " ++ operator.spelling ++ " " ++ right)
      (lexemes ++ operator.lexeme :: rest) := by
  have sign : Separates (" " ++ operator.spelling ++ " ") [operator.lexeme] := by
    cases operator <;> decide
  have signed := spells.put sign.1 (.inr sign.2.1)
  simpa [String.append_assoc] using signed.put lexes (.inl (spells.lexes.isSealed_put sign))

/-- The lexeme of a unary operator. -/
def UnaryOperator.lexeme : UnaryOperator → Lexeme
  | .not => ⟨.not, "NOT"⟩
  | .plus => ⟨.plus, "+"⟩
  | .minus => ⟨.minus, "-"⟩

theorem Spells.signed {text : String} {lexemes : List Lexeme} (operator : UnaryOperator)
    (lexes : Lexes text.toList lexemes) :
    Spells (Expr.unaryText operator ++ text) (operator.lexeme :: lexemes) := by
  have sign : Spells (Expr.unaryText operator) [operator.lexeme] ∧
      isSealed (Expr.unaryText operator).toList := by
    cases operator
    · exact ⟨⟨by decide, by decide, 'N', rfl, by decide⟩, by decide⟩
    · exact ⟨⟨by decide, by decide, '+', rfl, by decide⟩, by decide⟩
    · exact ⟨⟨by decide, by decide, '-', rfl, by decide⟩, by decide⟩
  exact sign.1.put lexes (.inl sign.2)

/-! ## Texts of dotted words -/

theorem flatMap_dot (first : List Char) (rest : List (List Char)) :
    (first :: rest).flatMap (fun part => '.' :: part) = '.' :: ['.'].intercalate (first :: rest) := by
  induction rest generalizing first with
  | nil => simp
  | cons second rest ih =>
      rw [List.flatMap_cons, ih, List.intercalate_cons_cons]
      simp

theorem flatMap_nameParts (word : String) :
    (nameParts word).flatMap (fun part => '.' :: part.toList) = '.' :: word.toList := by
  have whole := intercalate_splitDots word.toList
  cases parts : splitDots word.toList with
  | nil => exact absurd parts (splitDots_ne_nil _)
  | cons first rest =>
      rw [parts] at whole
      rw [nameParts, parts, List.flatMap_map]
      simp only [String.toList_ofList]
      rw [flatMap_dot, whole]

theorem toList_render_selectAll (base : Expr) (parts : List String) :
    (selectAll base parts).render.toList =
      base.render.toList ++ parts.flatMap (fun part => '.' :: part.toList) := by
  induction parts generalizing base with
  | nil => simp [selectAll]
  | cons part parts ih =>
      refine (ih (.component base ⟨part, .origin⟩ .origin)).trans ?_
      simp [Expr.render]

/-- The parts of a word behind a base are printed as the word. -/
theorem render_selectAll (base : Expr) (word : String) :
    (selectAll base (nameParts word)).render = base.render ++ "." ++ word := by
  rw [← String.toList_inj, toList_render_selectAll, flatMap_nameParts]
  simp

/-- A name with components is printed as the word that it was read from. -/
theorem render_selectAll_variable {word head : String} {components : List String}
    (parts : nameParts word = head :: components) :
    (selectAll (.variable ⟨head, .origin⟩) components).render = word := by
  have whole := flatMap_nameParts word
  rw [parts, List.flatMap_cons, List.cons_append, List.cons.injEq] at whole
  rw [← String.toList_inj, toList_render_selectAll]
  exact whole.2

/-- Two words with a dot between them have the parts of both. -/
theorem nameParts_append_dot (word more : String) :
    nameParts (word ++ "." ++ more) = nameParts word ++ nameParts more := by
  have chars : (word ++ "." ++ more).toList = word.toList ++ '.' :: more.toList := by simp
  rw [nameParts, chars, splitDots_append_dot, List.map_append]
  rfl

/-! ## Lexemes of clean texts -/

/-- The lexeme may stand in a text, and if `exact` holds it is no number out of range. -/
def Fit (exact : Prop) (lexeme : Lexeme) : Prop :=
  Written lexeme ∧ (exact → lexeme.kind = .number →
    ∀ value, Binary64.read? lexeme.text = some value → value.isFinite)

theorem Written.startsWithDigit {lexeme : Lexeme} (written : Written lexeme)
    (kind : lexeme.kind = .number) : ∃ c rest, lexeme.text.toList = c :: rest ∧ c.isDigit := by
  cases written with
  | @word text word => exact absurd kind (kind_wordLexeme_ne text (by decide))
  | number starts digit => exact ⟨_, _, starts, digit⟩
  | string => cases kind
  | @mark kind' _ mark =>
      rw [show kind' = .number from kind] at mark
      cases mark

theorem Written.plainString {lexeme : Lexeme} (written : Written lexeme)
    (kind : lexeme.kind = .string) : '"' ∉ lexeme.text.toList ∧ '\n' ∉ lexeme.text.toList := by
  cases written with
  | @word text word => exact absurd kind (kind_wordLexeme_ne text (by decide))
  | number => cases kind
  | string noQuote noNewline => exact ⟨noQuote, noNewline⟩
  | @mark kind' _ mark =>
      rw [show kind' = .string from kind] at mark
      cases mark

theorem Spells.of_numeral {text : String} (numeral : Binary64.IsNumeral text.toList) :
    Spells text [⟨.number, text⟩] := by
  obtain ⟨c, rest, starts, digit⟩ := numeral.cons
  refine .of_digit starts digit ?_
  have same : String.ofList text.toList = text := String.ofList_toList
  rcases numeral with ⟨filled, digits⟩ | ⟨whole, fraction, split, filled, filled', digits, digits'⟩
  · have lexes := Lexes.integer filled digits
    rwa [same] at lexes
  · have lexes := Lexes.decimal filled digits filled' digits'
    rwa [← split, same] at lexes

/-- A number that a text may hold spells one lexeme: itself, or a name if it is out of range. -/
theorem Spells.number {literal : Lexeme} {value : Binary64} (written : Written literal)
    (kind : literal.kind = .number) (found : Binary64.read? literal.text = some value) :
    value = .infinite false ∧ Spells value.sourceText [⟨.identifier, "inf"⟩] ∨
      value.isFinite ∧ Spells value.sourceText [⟨.number, value.sourceText⟩] ∧
        Binary64.read? value.sourceText = some value := by
  obtain ⟨c, rest, starts, digit⟩ := written.startsWithDigit kind
  obtain rfl | ⟨significand, exponent, normal, rfl⟩ := Binary64.read?_cases starts digit found
  · have continues : ['n', 'f'].all continuesWord := by decide
    have word : IsWord "inf".toList :=
      ⟨'i', ['n', 'f'], rfl, by decide, List.all_eq_true.mp continues⟩
    have lexeme : wordLexeme "inf".toList = ⟨.identifier, "inf"⟩ := by decide
    exact .inl ⟨rfl, lexeme ▸ Spells.word word⟩
  · obtain ⟨numeral, reads⟩ := Binary64.read?_sourceText normal
    exact .inr ⟨rfl, .of_numeral numeral, reads⟩

/-- The lexeme of a truth value. -/
def truthLexeme : Bool → Lexeme
  | true => ⟨.true, "TRUE"⟩
  | false => ⟨.false, "FALSE"⟩

theorem Spells.truth (value : Bool) :
    Spells (Expr.truth value .origin).render [truthLexeme value] := by
  cases value with
  | true => exact ⟨by decide, by decide, 'T', rfl, by decide⟩
  | false => exact ⟨by decide, by decide, 'F', rfl, by decide⟩

theorem Spells.string {text : String} (noQuote : '"' ∉ text.toList)
    (noNewline : '\n' ∉ text.toList) : Spells (Expr.string text .origin).render [⟨.string, text⟩] := by
  have chars : (Expr.string text .origin).render.toList = '"' :: (text.toList ++ ['"']) := by
    simp [Expr.render]
  have lexes := Lexes.string noQuote noNewline
  rw [← chars, String.ofList_toList] at lexes
  exact ⟨lexes, TokenKind.noConfusion, '"', by rw [chars]; rfl, rfl⟩

end RapidLang
