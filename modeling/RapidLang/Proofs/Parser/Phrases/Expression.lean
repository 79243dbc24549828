import RapidLang.Proofs.Parser.Outcome

/-!
# Expressions that are read

The lexemes that an expression is read from form it by the grammar, and the lexeme behind them
could not belong to it. The lexemes before an error begin some expression.
-/

set_option autoImplicit false

namespace RapidLang

namespace Grammar

/-- Some lexemes complete those that are read to a phrase. Where nothing has been read they begin
with a name. -/
def Begun (phrase : List Lexeme → Prop) (read : List Lexeme) : Prop :=
  ∃ more, phrase (read ++ more) ∧ (read = [] → nextKind more = .identifier)

/-- The lexemes form an expression whose operators bind at least as tightly as a level. -/
def IsOperation (level : Nat) (lexemes : List Lexeme) : Prop :=
  ∃ tree tail, Operation level lexemes tree tail

theorem Begun.mono {phrase phrase' : List Lexeme → Prop} {read : List Lexeme}
    (front : List Lexeme) (begun : Begun phrase read) (kept : ∀ lexemes, phrase lexemes → phrase' (front ++ lexemes)) :
    Begun phrase' (front ++ read) := by
  obtain ⟨more, whole, name⟩ := begun
  refine ⟨more, by simpa using kept _ whole, fun empty => name ?_⟩
  exact (List.append_eq_nil_iff.mp empty).2

theorem Begun.of_split {phrase : List Lexeme → Prop} {read more whole : List Lexeme}
    (holds : phrase whole) (some : read ≠ []) (split : whole = read ++ more) : Begun phrase read :=
  ⟨more, split ▸ holds, fun empty => absurd empty some⟩

theorem Begun.of_phrase {phrase : List Lexeme → Prop} {lexemes : List Lexeme}
    (whole : phrase lexemes) (some : lexemes ≠ []) : Begun phrase lexemes :=
  .of_split whole some (List.append_nil lexemes).symm

/-- The lexemes are an operand without operators. -/
def IsPrimary (lexemes : List Lexeme) : Prop :=
  ∃ tree tail, Primary lexemes tree tail

theorem Begun.expression {read : List Lexeme} (begun : Begun IsPrimary read) :
    Begun (IsOperation 1) read :=
  begun.mono [] fun _ ⟨tree, tail, primary⟩ =>
    ⟨tree, tail, .operand (.operand primary)⟩

end Grammar

namespace Parser

open Grammar Reader

/-- The lexemes that were read form the expression that was read, and the next one does not belong
to it. -/
def ReadOperation (level : Nat) (read : List Lexeme) (value : Expr) (behind : Cursor) : Prop :=
  ∃ tail, Operation level read (erase value) tail ∧ Stops level tail behind.kind

/-- At every cursor the reader takes an operation of a level or fails within one. -/
def ReadsOperation (level : Nat) (reader : Reader Expr) : Prop :=
  ∀ cursor, reader.Meets cursor (ReadOperation level) (Begun (IsOperation level))

/-! ## Names -/

theorem map_text_placeParts (position : Text.Position) (parts : List (List Char)) :
    (placeParts position parts).map Name.text = parts.map String.ofList := by
  induction parts generalizing position with
  | nil => rfl
  | cons part rest ih => rw [placeParts, List.map_cons, ih]; rfl

theorem map_text_dottedNames (token : Token) :
    (dottedNames token).map Name.text = nameParts token.text :=
  map_text_placeParts _ _

theorem erase_foldl_select (names : List Name) (base : Expr) :
    erase (names.foldl Expr.select base) = selectAll (erase base) (names.map Name.text) := by
  induction names generalizing base with
  | nil => rfl
  | cons name names ih => exact ih (base.select name)

theorem any_dottedNames (token : Token) :
    ((dottedNames token).any fun name => name.text.isEmpty) = true ↔ "" ∈ nameParts token.text := by
  simp [← map_text_dottedNames, List.any_eq_true]

/-- A word stands for names unless one of its parts is empty. -/
theorem names?_eq_some_iff {token : Token} {names : List Name} :
    names? token = some names ↔ "" ∉ nameParts token.text ∧ names = dottedNames token := by
  rw [← any_dottedNames, names?]
  split
  next hollow => simp [hollow]
  next named => simp [named, eq_comm]

theorem takeNames_bind {α : Type} {cursor : Cursor} {next : List Name → Reader α}
    {good : List Lexeme → α → Cursor → Prop} {bad : List Lexeme → Prop}
    (inside : cursor.kind ≠ .endOfInput) (fails : bad [])
    (onward : "" ∉ nameParts cursor.current.text →
      (next (dottedNames cursor.current)).Meets cursor.advance
        (fun more => good (cursor.current.lexeme :: more))
        (fun more => bad (cursor.current.lexeme :: more))) :
    (takeNames >>= next).Meets cursor good bad := by
  have taken : takeNames.Meets cursor
      (fun read names behind => read = [cursor.current.lexeme] ∧ behind = cursor.advance ∧
        "" ∉ nameParts cursor.current.text ∧ names = dottedNames cursor.current)
      (fun read => read = []) := by
    refine .takeAs inside rfl (fun names found => ?_)
    exact ⟨rfl, rfl, names?_eq_some_iff.mp found⟩
  refine .bind taken (fun _ _ _ empty => empty ▸ fails) ?_
  rintro _ _ _ _ ⟨rfl, rfl, named, rfl⟩
  exact onward named

/-! ## Chains -/

/-- What a chain under way has read: a chain, or the name of a routine before its arguments. -/
def ReadChain (read : List Lexeme) (value : Expr) (behind : Cursor) : Prop :=
  Chain read (erase value) ∨
    ∃ word, read = [word] ∧ word.kind = .identifier ∧ word.text ≠ "" ∧
      erase value = .variable ⟨word.text, .origin⟩ ∧ behind.kind = .leftParen

theorem ReadChain.chain {read : List Lexeme} {value : Expr} {behind : Cursor}
    (chain : ReadChain read value behind) (other : behind.kind ≠ .leftParen) :
    Chain read (erase value) := by
  rcases chain with chain | ⟨_, _, _, _, _, opening⟩
  · exact chain
  · exact absurd opening other

/-- Before a parenthesis, a chain that is a plain name is one word, the name of a routine. -/
theorem ReadChain.routine {read : List Lexeme} {name : Name} {behind : Cursor}
    (chain : ReadChain read (.variable name) behind) :
    ∃ word, read = [word] ∧ word.kind = .identifier ∧ word.text ≠ "" ∧ word.text = name.text := by
  rcases chain with chain | ⟨word, rfl, kind, some, same, _⟩
  · obtain ⟨word, rfl, kind, same, some⟩ := chain.of_variable rfl
    exact ⟨word, rfl, kind, some, (congrArg Name.text same).symm⟩
  · exact ⟨word, rfl, kind, some, (congrArg Name.text (Expr.variable.inj same)).symm⟩

theorem ReadChain.begun {read : List Lexeme} {value : Expr} {behind : Cursor}
    (chain : ReadChain read value behind) (other : ∀ name, value ≠ .variable name) :
    Begun IsPrimary read := by
  rcases chain with chain | ⟨word, _, _, _, same, _⟩
  · exact .of_phrase ⟨_, _, .chain chain⟩ (ne_nil_of_nextKind chain.starts (by decide))
  · cases value with
    | «variable» name => exact absurd rfl (other name)
    | _ => cases same

theorem begun_primary_nil : Begun IsPrimary [] := by
  have word := Chain.word (Lexeme.kind_ofKind .identifier) (by decide) (by decide)
  exact ⟨_, ⟨_, _, .chain word⟩, fun _ => rfl⟩

theorem headNames?_eq_some {token : Token} {next : TokenKind} {names : List Name}
    (found : headNames? token next = some names) :
    ('.' ∈ token.text.toList ∧ next = .leftParen ∧ names = [⟨token.text, token.span⟩]) ∨
      "" ∉ nameParts token.text ∧ names = dottedNames token := by
  unfold headNames? at found
  split at found
  next routine =>
    cases found
    exact .inl (by simpa using routine)
  next => exact .inr (names?_eq_some_iff.mp found)

theorem headNames?_of_routine {token : Token} {next : TokenKind}
    (dotted : '.' ∈ token.text.toList) (opening : next = .leftParen) :
    headNames? token next = some [⟨token.text, token.span⟩] := by
  simp [headNames?, dotted, opening]

theorem headNames?_of_names {token : Token} {next : TokenKind} (named : "" ∉ nameParts token.text)
    (apart : '.' ∈ token.text.toList → next ≠ .leftParen) :
    headNames? token next = some (dottedNames token) := by
  unfold headNames?
  rw [if_neg (by simpa using apart)]
  exact names?_eq_some_iff.mpr ⟨named, rfl⟩

/-- A word always has a first part, if only an empty one. -/
theorem dottedNames_ne_nil (token : Token) : dottedNames token ≠ [] := by
  intro empty
  have texts := map_text_dottedNames token
  rw [empty] at texts
  exact splitDots_ne_nil _ (List.map_eq_nil_iff.mp texts.symm)

/-- The names in a word always mean something: the name of a routine, or a variable with
components. -/
theorem headOf?_of_headNames? {token : Token} {next : TokenKind} {names : List Name}
    (found : headNames? token next = some names) :
    ∃ value, headOf? names = some value ∧
      (('.' ∈ token.text.toList ∧ next = .leftParen ∧
          value = .variable ⟨token.text, token.span⟩) ∨
        ∃ (head : Name) (components : List Name), dottedNames token = head :: components ∧
          "" ∉ nameParts token.text ∧ value = components.foldl Expr.select (.variable head)) := by
  rcases headNames?_eq_some found with ⟨dotted, opening, rfl⟩ | ⟨named, rfl⟩
  · exact ⟨_, rfl, .inl ⟨dotted, opening, rfl⟩⟩
  · cases parts : dottedNames token with
    | nil => exact absurd parts (dottedNames_ne_nil token)
    | cons head components => exact ⟨_, rfl, .inr ⟨head, components, rfl, named, rfl⟩⟩

theorem chainHead_meets {cursor : Cursor} (word : cursor.kind = .identifier) :
    chainHead.Meets cursor ReadChain (Begun IsPrimary) := by
  have inside : cursor.kind ≠ .endOfInput := by rw [word]; decide
  cases found : headNames? cursor.current cursor.advance.kind with
  | none =>
      exact .of_error (run_chainHead_of_none found) (List.nil_append _).symm cursor.length_lexemes
        begun_primary_nil
  | some names =>
      have split : cursor.lexemes = [cursor.current.lexeme] ++ cursor.advance.lexemes :=
        Cursor.lexemes_eq_cons inside
      obtain ⟨value, whole, meaning⟩ := headOf?_of_headNames? found
      refine .of_ok (run_chainHead_of_some found whole) split ?_
      rcases meaning with ⟨dotted, opening, rfl⟩ | ⟨head, components, parts, named, rfl⟩
      · refine .inr ⟨cursor.current.lexeme, rfl, word, ?_, rfl, opening⟩
        intro empty
        replace empty : cursor.current.text = "" := empty
        simp [empty] at dotted
      · have texts := map_text_dottedNames cursor.current
        rw [parts] at texts
        refine .inl ?_
        rw [erase_foldl_select]
        exact .name word texts.symm named

/-! ## Calls, indices and components -/

/-- The lexemes are expressions with commas between them. -/
def IsCommaList (lexemes : List Lexeme) : Prop :=
  ∃ values, CommaList lexemes values

theorem commaSeparated_meets {reader : Reader Expr} (inner : ReadsOperation 1 reader)
    (cursor : Cursor) :
    (commaSeparated reader).Meets cursor (fun read values _ => CommaList read (erase values))
      (Begun IsCommaList) := by
  refine (Meets.commaSeparated (fun read values _ => CommaList read (erase values)) ?_ ?_).mono
    (fun _ _ _ _ holds => holds.1) (fun _ fails => fails)
  · refine (inner cursor).mono ?_ ?_
    · rintro read value behind _ ⟨tail, operation, _⟩
      exact .one operation
    · intro read begun
      exact begun.mono [] fun _ ⟨tree, tail, operation⟩ => ⟨[tree], .one operation⟩
  · intro read values here list comma
    refine (inner here.advance).mono ?_ ?_
    · rintro more value behind _ ⟨tail, operation, _⟩
      rw [erase_append]
      exact .more list comma operation
    · rintro more' ⟨more, ⟨tree, tail, operation⟩, _⟩
      exact .of_split ⟨_, .more list comma operation⟩ (by simp) (by simp; rfl)

theorem arguments_meets {reader : Reader Expr} (inner : ReadsOperation 1 reader) (cursor : Cursor) :
    (arguments reader).Meets cursor (fun read values _ => Arguments read (erase values))
      (fun read => ∃ more values, Arguments (read ++ more) values) := by
  unfold arguments
  refine .peekKind_bind ?_
  split
  · exact .pure .none
  · refine (commaSeparated_meets inner cursor).mono (fun _ _ _ _ list => .some list) ?_
    rintro read ⟨more, ⟨values, list⟩, _⟩
    exact ⟨more, values, .some list⟩

theorem callSuffix_meets {reader : Reader Expr} (inner : ReadsOperation 1 reader) {cursor : Cursor}
    {name : Name} {word : Lexeme} (opening : cursor.kind = .leftParen)
    (kind : word.kind = .identifier) (some : word.text ≠ "") (same : word.text = name.text) :
    (callSuffix reader name).Meets cursor
      (fun more value _ => more ≠ [] ∧ Chain (word :: more) (erase value))
      (fun more => Begun IsPrimary (word :: more)) := by
  unfold callSuffix
  refine .take_bind (by rw [opening]; decide) ?_
  replace opening : cursor.current.lexeme.kind = .leftParen := opening
  refine .bind (arguments_meets inner _) ?_ ?_
  · rintro read _ _ ⟨more, values, arguments⟩
    have whole := Chain.call kind some opening arguments (Lexeme.kind_ofKind .rightParen)
    exact .of_split ⟨_, _, .chain whole⟩ (by simp) (by simp; rfl)
  · intro read values behind _ arguments
    refine .expect_bind (by decide) ?_ (fun close => .pure ?_)
    · have whole := Chain.call kind some opening arguments (Lexeme.kind_ofKind .rightParen)
      exact .of_split ⟨_, _, .chain whole⟩ (by simp) (by simp; rfl)
    · rw [erase_call, erase_name, ← same]
      exact ⟨by simp, .call kind some opening arguments close⟩

theorem indexSuffix_meets {reader : Reader Expr} (inner : ReadsOperation 1 reader) {cursor : Cursor}
    {read : List Lexeme} {base : Expr} (chain : Chain read (erase base))
    (opening : cursor.kind = .leftBracket) :
    (indexSuffix reader base).Meets cursor
      (fun more value _ => more ≠ [] ∧ Chain (read ++ more) (erase value))
      (fun more => Begun IsPrimary (read ++ more)) := by
  have some : read ≠ [] := ne_nil_of_nextKind chain.starts (by decide)
  unfold indexSuffix
  refine .take_bind (by rw [opening]; decide) ?_
  replace opening : cursor.current.lexeme.kind = .leftBracket := opening
  refine .bind (inner _) ?_ ?_
  · rintro front _ _ ⟨more, ⟨place, tail, position⟩, _⟩
    have whole := Chain.index chain opening position (Lexeme.kind_ofKind .rightBracket)
    exact .of_split ⟨_, _, .chain whole⟩ (by simp) (by simp; rfl)
  · rintro front place behind _ ⟨tail, position, _⟩
    refine .expect_bind (by decide) ?_ (fun close => .pure ?_)
    · have whole := Chain.index chain opening position (Lexeme.kind_ofKind .rightBracket)
      exact .of_split ⟨_, _, .chain whole⟩ (by simp) (by simp; rfl)
    · rw [erase_index]
      exact ⟨by simp, .index chain opening position close⟩

theorem componentSuffix_meets {cursor : Cursor} {read : List Lexeme} {base : Expr}
    (chain : Chain read (erase base)) (dot : cursor.kind = .dot) :
    (componentSuffix base).Meets cursor
      (fun more value _ => more ≠ [] ∧ Chain (read ++ more) (erase value))
      (fun more => Begun IsPrimary (read ++ more)) := by
  have fails : Begun IsPrimary (read ++ [cursor.current.lexeme]) := by
    replace dot : cursor.current.lexeme.kind = .dot := dot
    have whole := Chain.component chain dot (.inl (Lexeme.kind_ofKind .identifier)) (by decide)
    exact .of_split ⟨_, _, .chain whole⟩ (by simp) (by simp; rfl)
  unfold componentSuffix
  refine .take_bind (by rw [dot]; decide) (.peekKind_bind ?_)
  split
  next named =>
    have word : cursor.advance.kind = .identifier ∨ cursor.advance.kind.isReserved := by
      simpa using named
    have inside : cursor.advance.kind ≠ .endOfInput := by
      rintro finished
      rw [finished] at word
      revert word
      decide
    refine takeNames_bind inside fails (fun parts => .pure ?_)
    rw [erase_foldl_select, map_text_dottedNames]
    exact ⟨by simp, .component chain dot word parts⟩
  next => exact .fail fails

theorem suffix_meets {reader : Reader Expr} (inner : ReadsOperation 1 reader) {cursor : Cursor}
    {read : List Lexeme} {base : Expr} (chain : ReadChain read base cursor)
    (admitted : startsSuffix cursor.kind) :
    (suffix reader base).Meets cursor
      (fun more value behind => more ≠ [] ∧ ReadChain (read ++ more) value behind)
      (fun more => Begun IsPrimary (read ++ more)) := by
  have some : read ≠ [] := by
    rcases chain with chain | ⟨word, rfl, _⟩
    · exact ne_nil_of_nextKind chain.starts (by decide)
    · simp
  unfold suffix
  refine .peekKind_bind ?_
  split
  next opening =>
    split
    next name =>
      obtain ⟨word, rfl, kind, some, same⟩ := chain.routine
      exact (callSuffix_meets inner opening kind some same).mono
        (fun _ _ _ _ ⟨some, holds⟩ => ⟨some, .inl holds⟩) (fun _ fails => fails)
    next other =>
      exact .fail (by simpa using chain.begun (fun name same => other name same))
  next opening =>
    exact (indexSuffix_meets inner (chain.chain (by rw [opening]; decide)) opening).mono
      (fun _ _ _ _ ⟨some, holds⟩ => ⟨some, .inl holds⟩) (fun _ fails => fails)
  next dot =>
    exact (componentSuffix_meets (chain.chain (by rw [dot]; decide)) dot).mono
      (fun _ _ _ _ ⟨some, holds⟩ => ⟨some, .inl holds⟩) (fun _ fails => fails)
  next noCall noIndex noComponent =>
    unfold startsSuffix at admitted
    split at admitted
    · exact absurd ‹_› noCall
    · exact absurd ‹_› noIndex
    · exact absurd ‹_› noComponent
    · cases admitted

theorem nameChain_meets {reader : Reader Expr} (inner : ReadsOperation 1 reader) {cursor : Cursor}
    (word : cursor.kind = .identifier) :
    (nameChain reader).Meets cursor
      (fun read value behind => Chain read (erase value) ∧ startsSuffix behind.kind = false)
      (Begun IsPrimary) := by
  unfold nameChain
  refine .bind (chainHead_meets word) (fun _ _ _ fails => fails) ?_
  intro read head behind _ chain
  refine (Meets.steps (fun more value here => ReadChain (read ++ more) value here)
    (by simpa using chain) ?_).mono ?_ (fun _ fails => fails)
  · intro more value here chain admitted
    simpa using suffix_meets inner chain admitted
  · rintro more value last _ ⟨chain, stops⟩
    refine ⟨chain.chain ?_, stops⟩
    rintro opening
    rw [opening] at stops
    cases stops

/-! ## Operands -/

theorem number?_eq_some {token : Token} {value : Expr} (found : number? token = some value) :
    ∃ number, Binary64.read? token.text = some number ∧ value = .number number token.span := by
  obtain ⟨number, same, rfl⟩ := Option.map_eq_some_iff.mp found
  exact ⟨number, same, rfl⟩

theorem numberLiteral_meets {cursor : Cursor} (kind : cursor.kind = .number) :
    numberLiteral.Meets cursor
      (fun read value _ => Primary read (erase value) .closed) (Begun IsPrimary) := by
  refine .takeAs (by rw [kind]; decide) begun_primary_nil (fun value found => ?_)
  obtain ⟨number, same, rfl⟩ := number?_eq_some found
  exact .number kind same

theorem parenthesized_meets {reader : Reader Expr} (inner : ReadsOperation 1 reader)
    {cursor : Cursor} (opening : cursor.kind = .leftParen) :
    (parenthesized reader).Meets cursor
      (fun read value _ => Primary read (erase value) .closed) (Begun IsPrimary) := by
  have fails : ∀ front more tree tail, Operation 1 (front ++ more) tree tail →
      Begun IsPrimary (cursor.current.lexeme :: front) := by
    intro front more tree tail operation
    replace opening : cursor.current.lexeme.kind = .leftParen := opening
    have whole := Primary.parenthesized opening operation (Lexeme.kind_ofKind .rightParen)
    exact ⟨more ++ [Lexeme.ofKind .rightParen], ⟨tree, .closed, by simpa using whole⟩, by simp⟩
  unfold parenthesized
  refine .take_bind (by rw [opening]; decide) ?_
  refine .bind (inner _) ?_ ?_
  · rintro front _ _ ⟨more, ⟨tree, tail, operation⟩, _⟩
    exact fails _ _ _ _ operation
  · rintro front value behind _ ⟨tail, operation, _⟩
    refine .expect_bind (by decide) ?_ (fun close => .pure ?_)
    · simpa using fails front [] _ _ (by simpa using operation)
    · exact .parenthesized opening operation close

theorem primary_meets {reader : Reader Expr} (inner : ReadsOperation 1 reader) (cursor : Cursor) :
    (primary reader).Meets cursor
      (fun read value behind => ∃ tail, Primary read (erase value) tail ∧
        (tail = .chain → startsSuffix behind.kind = false))
      (Begun IsPrimary) := by
  unfold primary
  refine .peekKind_bind ?_
  split
  next kind =>
    exact (numberLiteral_meets kind).mono (fun _ _ _ _ number => ⟨_, number, by simp⟩)
      (fun _ fails => fails)
  next kind => exact .take_bind (by rw [kind]; decide) (.pure ⟨_, .true kind, by simp⟩)
  next kind => exact .take_bind (by rw [kind]; decide) (.pure ⟨_, .false kind, by simp⟩)
  next kind => exact .take_bind (by rw [kind]; decide) (.pure ⟨_, .string kind, by simp⟩)
  next kind =>
    exact (parenthesized_meets inner kind).mono (fun _ _ _ _ inside => ⟨_, inside, by simp⟩)
      (fun _ fails => fails)
  next kind =>
    exact (nameChain_meets inner kind).mono
      (fun _ _ _ _ ⟨chain, stops⟩ => ⟨_, .chain chain, fun _ => stops⟩) (fun _ fails => fails)
  next => exact .fail begun_primary_nil

theorem erase_applySign {sign : Token} {operator : UnaryOperator}
    (selected : unaryOperator? sign.kind = some operator) (operand : Expr) :
    erase (applySign sign operand) = .unary operator (erase operand) .origin := by
  rw [applySign, selected]
  rfl

/-- The operators that stand before an operand, applied from the inside out. -/
theorem unary_of_tokens {tokens : List Token} {lexemes : List Lexeme} {operand : Expr} {tail : Tail}
    (signs : ∀ token ∈ tokens, (unaryOperator? token.kind).isSome)
    (primary : Primary lexemes (erase operand) tail) :
    Unary (tokens.map Token.lexeme ++ lexemes) (erase (tokens.foldr applySign operand)) tail := by
  induction tokens with
  | nil => exact .operand primary
  | cons token tokens ih =>
      have inner := ih fun token member => signs token (List.mem_cons_of_mem _ member)
      have sign := signs token List.mem_cons_self
      cases selected : unaryOperator? token.kind with
      | none => simp [selected] at sign
      | some operator =>
          rw [List.foldr_cons, erase_applySign selected]
          exact .operator selected inner

theorem exists_unary {tokens : List Token} {lexemes : List Lexeme} {tree : Expr} {tail : Tail}
    (signs : ∀ token ∈ tokens, (unaryOperator? token.kind).isSome)
    (primary : Primary lexemes tree tail) :
    ∃ whole, Unary (tokens.map Token.lexeme ++ lexemes) whole tail := by
  induction tokens with
  | nil => exact ⟨tree, .operand primary⟩
  | cons token tokens ih =>
      obtain ⟨inner, unary⟩ := ih fun other member => signs other (List.mem_cons_of_mem _ member)
      obtain ⟨operator, selected⟩ :=
        Option.isSome_iff_exists.mp (signs token List.mem_cons_self)
      exact ⟨_, .operator selected unary⟩

theorem signs_meets (cursor : Cursor) :
    (repeatWhile (fun kind => (unaryOperator? kind).isSome) take).Meets cursor
      (fun read tokens behind => (read = tokens.map Token.lexeme ∧
        ∀ token ∈ tokens, (unaryOperator? token.kind).isSome) ∧
          (unaryOperator? behind.kind).isSome = false)
      (fun _ => False) := by
  refine .repeatWhile (fun read tokens _ => read = tokens.map Token.lexeme ∧
    ∀ token ∈ tokens, (unaryOperator? token.kind).isSome) ⟨rfl, by simp⟩ ?_
  rintro read tokens here ⟨rfl, signs⟩ sign
  have inside : here.kind ≠ .endOfInput := by
    intro finished
    rw [finished] at sign
    cases sign
  refine .take inside ⟨by simp, by simp, ?_⟩
  intro token member
  rcases List.mem_append.mp member with member | member
  · exact signs token member
  · rw [List.mem_singleton.mp member]
    exact sign

theorem unary_meets {reader : Reader Expr} (inner : ReadsOperation 1 reader) :
    ReadsOperation 7 (unary reader) := by
  intro cursor
  unfold unary
  refine .bind (signs_meets cursor) (fun _ _ _ never => never.elim) ?_
  rintro _ tokens here _ ⟨⟨rfl, signs⟩, _⟩
  refine .bind (primary_meets inner here) ?_ ?_
  · intro read _ _ begun
    refine begun.mono _ ?_
    rintro lexemes ⟨tree, tail, primary⟩
    obtain ⟨whole, unary⟩ := exists_unary signs primary
    exact ⟨whole, tail, .operand unary⟩
  · rintro read operand behind _ ⟨tail, primary, stops⟩
    refine .pure ⟨tail, .operand ?_, fun operator _ => ?_, stops⟩
    · simpa using unary_of_tokens signs primary
    · exact Nat.lt_succ_of_le (precedence_le operator)

/-! ## Operators between operands -/

theorem level_meets {precedence : Nat} {operator? : TokenKind → Option BinaryOperator}
    {operand : Reader Expr}
    (selects : ∀ kind,
      operator? kind = (binaryOperator? kind).filter (·.precedence = precedence))
    (tighter : ReadsOperation (precedence + 1) operand) :
    ReadsOperation precedence (level operator? operand) := by
  intro cursor
  unfold level
  refine .bind (tighter cursor) ?_ ?_
  · intro read _ _ begun
    exact begun.mono [] fun lexemes ⟨tree, tail, operation⟩ =>
      ⟨tree, tail, operation.weaken (Nat.le_succ _)⟩
  · rintro read first here _ ⟨tail, operation, stops⟩
    refine (Meets.steps (fun more left here => ∃ tail,
      Operation precedence (read ++ more) (erase left) tail ∧ Stops (precedence + 1) tail here.kind)
      ?_ ?_).mono ?_ (fun _ fails => fails)
    · exact ⟨tail, by simpa using operation.weaken (Nat.le_succ _), stops⟩
    · rintro more left here ⟨inner, operation, _⟩ admitted
      obtain ⟨operator, selected⟩ := Option.isSome_iff_exists.mp admitted
      obtain ⟨sign, rfl⟩ : binaryOperator? here.kind = some operator ∧
          operator.precedence = precedence := by
        simpa [selects, Option.filter_eq_some_iff] using selected
      have inside : here.kind ≠ .endOfInput := by
        intro finished
        rw [finished] at sign
        cases sign
      have joined : ∀ {right second tail}, Operation (operator.precedence + 1) right second tail →
          Operation operator.precedence (read ++ (more ++ here.current.lexeme :: right))
            (.binary operator (erase left) second .origin) tail := by
        intro right second tail other
        rw [← List.append_assoc]
        exact .binary sign (Nat.le_refl _) operation other
      unfold Parser.operation
      refine .take_bind inside (.bind (tighter _) ?_ ?_)
      · rintro right _ _ ⟨rest, ⟨second, tail, other⟩, _⟩
        refine ⟨rest, ⟨.binary operator (erase left) second .origin, tail, ?_⟩, by simp⟩
        simpa using joined other
      · rintro right second behind _ ⟨tail, other, stops⟩
        have selected : operator? here.current.kind = some operator := selected
        simp only [selected]
        refine .pure ⟨by simp, tail, ?_, stops⟩
        simpa using joined other
    · rintro more left behind _ ⟨⟨tail, operation, stops⟩, none⟩
      refine ⟨tail, operation, fun operator sign => ?_, stops.2⟩
      have below := stops.1 operator sign
      refine Nat.lt_of_le_of_ne (Nat.le_of_lt_succ below) fun same => ?_
      simp [selects, sign, same] at none

theorem expressionWith_meets {reader : Reader Expr} (inner : ReadsOperation 1 reader) :
    ReadsOperation 1 (expressionWith reader) := by
  unfold expressionWith
  repeat refine level_meets (by intro kind; cases kind <;> rfl) ?_
  exact unary_meets inner

/-- What the reader of expressions takes is an expression; what it takes before an error begins
one. -/
theorem expression_meets : ReadsOperation 1 expression :=
  Meets.knot begun_primary_nil.expression fun _ inner => expressionWith_meets inner

end Parser

end RapidLang
