import Mathlib.Data.List.Basic
import RapidLang.Proofs.Grammar.Expression
import RapidLang.Token.Lexer

/-!
# Texts and their lexemes

`Lexes` states that a text has certain lexemes and that there is nothing to report about it. Two
texts put together have the lexemes of both, unless the last piece of the first one would take in
the first character of the second one.
-/

set_option autoImplicit false

namespace RapidLang

/-! ## Shapes and what they take in -/

theorem continuesWord_of_isDigit {c : Char} (digit : c.isDigit) : continuesWord c := by
  have bounds : 48 ≤ c.toNat ∧ c.toNat ≤ 57 := by
    simpa [Char.isDigit, UInt32.le_iff_toNat_le] using digit
  have ascii : c.toNat < 0x80 := by omega
  simp [continuesWord, Text.isAlphanumeric, Text.isNumeric, ascii, digit]

namespace Shape

/-- Does a piece of the shape leave nothing to report, and is it no comment? -/
def isTidy : Shape → Bool
  | .comment | .openString | .unknown => false
  | _ => true

/-- Is a piece of the shape complete, whatever follows it? -/
def isSealed : Shape → Bool
  | .blank | .closedString => true
  | .mark kind => kind != .colon && kind != .less && kind != .greater
  | _ => false

variable {shape : Shape} {c : Char} {ahead other : Option Char}

/-- Only at a point does it matter what comes next. -/
theorem extend?_congr (same : c = '.' → ahead.any Char.isDigit = other.any Char.isDigit) :
    shape.extend? c ahead = shape.extend? c other := by
  cases shape with
  | integer =>
      by_cases point : c = '.'
      · simp only [extend?, same point]
      · simp [extend?, point]
  | mark kind => cases kind <;> rfl
  | _ => rfl

theorem extend?_of_isSealed (complete : shape.isSealed) : shape.extend? c ahead = none := by
  cases shape with
  | mark kind => cases kind <;> first | rfl | cases complete
  | blank | closedString => rfl
  | _ => cases complete

/-- A line feed ends every piece. -/
theorem extend?_newline : shape.extend? '\n' ahead = none := by
  have apart : continuesWord '\n' = false := by decide
  cases shape with
  | mark kind => cases kind <;> rfl
  | word => rw [extend?, apart]; rfl
  | _ => rfl

end Shape

/-- A character that no tidy piece before it takes in. -/
def isFresh (c : Char) : Bool :=
  !continuesWord c && c != '=' && c != '>'

theorem Shape.extend?_of_isFresh {shape : Shape} {c : Char} {ahead : Option Char}
    (tidy : shape.isTidy) (fresh : isFresh c) : shape.extend? c ahead = none := by
  simp only [isFresh, Bool.and_eq_true, bne_iff_ne, Bool.not_eq_true'] at fresh
  obtain ⟨⟨word, equal⟩, greater⟩ := fresh
  have digit : c.isDigit = false := by
    by_contra digit
    rw [continuesWord_of_isDigit (by simpa using digit)] at word
    cases word
  have point : c ≠ '.' := by
    rintro rfl
    exact absurd word (by decide)
  cases shape with
  | mark kind => cases kind <;> simp [extend?, equal, greater]
  | comment | openString | unknown => cases tidy
  | _ => simp [extend?, word, digit, point]

/-! ## Cutting a text in two -/

namespace Piece

variable {shape : Shape} {reversed first second : List Char}

theorem cutFrom_ne_nil (shape : Shape) (reversed rest : List Char) :
    cutFrom shape reversed rest ≠ [] := by
  induction rest generalizing shape reversed with
  | nil => simp [cutFrom]
  | cons c rest ih =>
      rw [cutFrom]
      split
      · exact ih _ _
      · exact List.cons_ne_nil _ _

/-- Where the current piece takes in no more, the rest is cut on its own. -/
theorem cutFrom_of_stops (stops : ∀ c rest, second = c :: rest → shape.extend? c rest.head? = none) :
    cutFrom shape reversed second = ⟨shape, reversed.reverse⟩ :: cut second := by
  cases second with
  | nil => rfl
  | cons c rest => simp only [cutFrom, cut, stops c rest rfl]

theorem cutFrom_append
    (stops : ∀ last ∈ (cutFrom shape reversed first).getLast?, ∀ c rest, second = c :: rest →
      last.shape.extend? c rest.head? = none)
    (point : first.getLast? = some '.' → second.head?.any Char.isDigit = false) :
    cutFrom shape reversed (first ++ second) = cutFrom shape reversed first ++ cut second := by
  induction first generalizing shape reversed with
  | nil => exact cutFrom_of_stops (stops _ rfl)
  | cons c first ih =>
      have ahead : shape.extend? c (first ++ second).head? = shape.extend? c first.head? := by
        refine Shape.extend?_congr fun dot => ?_
        cases first with
        | nil => exact point (by rw [dot]; rfl)
        | cons d first => rfl
      have point' : first.getLast? = some '.' → second.head?.any Char.isDigit = false := by
        intro last
        refine point ?_
        rw [List.getLast?_cons, last]
        rfl
      rw [cutFrom] at stops ⊢
      rw [List.cons_append, cutFrom, ahead]
      split at stops
      · exact ih stops point'
      next =>
        refine congrArg _ (ih (fun last member => stops last ?_) point')
        rw [List.getLast?_cons, Option.mem_def.mp member]
        rfl

theorem cut_append
    (stops : ∀ last ∈ (cut first).getLast?, ∀ c rest, second = c :: rest →
      last.shape.extend? c rest.head? = none)
    (point : first.getLast? = some '.' → second.head?.any Char.isDigit = false) :
    cut (first ++ second) = cut first ++ cut second := by
  cases first with
  | nil => rfl
  | cons c first =>
      refine cutFrom_append stops fun last => point ?_
      rw [List.getLast?_cons, last]
      rfl

/-- A line feed cuts every text. -/
theorem cut_append_newline (first rest : List Char) :
    cut (first ++ '\n' :: rest) = cut first ++ ⟨.blank, ['\n']⟩ :: cut rest := by
  rw [cut_append]
  · refine congrArg _ ?_
    exact cutFrom_of_stops fun _ _ _ => rfl
  · intro last _ c rest split
    cases split
    exact Shape.extend?_newline
  · intro _
    rfl

/-- The lexeme that a piece is. -/
def lexeme? (piece : Piece) : Option Lexeme :=
  piece.token?.map fun (kind, text) => ⟨kind, text⟩

end Piece

/-! ## Texts that have lexemes -/

/-- The text has the lexemes, nothing is to be reported about it, and it has no comments. -/
def Lexes (text : List Char) (lexemes : List Lexeme) : Prop :=
  (∀ piece ∈ Piece.cut text, piece.shape.isTidy) ∧
    (Piece.cut text).filterMap Piece.lexeme? = lexemes

instance (text : List Char) (lexemes : List Lexeme) : Decidable (Lexes text lexemes) :=
  inferInstanceAs (Decidable (_ ∧ _))

/-- Is the last piece of a text complete, whatever follows it? -/
def isSealed (text : List Char) : Bool :=
  (Piece.cut text).getLast?.all (·.shape.isSealed) && text.getLast? != some '.'

/-- Can a text be put behind every other one without taking part in its last piece? -/
def startsFresh (text : List Char) : Bool :=
  text.head?.all isFresh

namespace Piece

variable {first second : List Char}

/-- A text whose last piece is tidy is cut on its own, and so is the text behind it. -/
theorem cut_append_of_apart (tidy : ∀ last ∈ (cut first).getLast?, last.shape.isTidy)
    (apart : isSealed first ∨ startsFresh second) : cut (first ++ second) = cut first ++ cut second := by
  refine cut_append (fun last member c rest split => ?_) fun point => ?_
  · rcases apart with complete | fresh
    · rw [isSealed, Bool.and_eq_true, Option.mem_def.mp member] at complete
      exact Shape.extend?_of_isSealed complete.1
    · rw [split] at fresh
      exact Shape.extend?_of_isFresh (tidy last member) fresh
  · rcases apart with complete | fresh
    · rw [isSealed, Bool.and_eq_true, point] at complete
      exact absurd complete.2 (by decide)
    · cases second with
      | nil => rfl
      | cons c rest =>
          rw [startsFresh, List.head?_cons, Option.all_some, isFresh] at fresh
          rw [List.head?_cons, Option.any_some]
          by_contra digit
          simp [continuesWord_of_isDigit (by simpa using digit)] at fresh

theorem isSealed_append (tidy : ∀ last ∈ (cut first).getLast?, last.shape.isTidy)
    (apart : isSealed first ∨ startsFresh second) (some : second ≠ [])
    (complete : isSealed second) : isSealed (first ++ second) := by
  have pieces : cut second ≠ [] := by
    cases second with
    | nil => exact absurd rfl some
    | cons c rest => exact cutFrom_ne_nil _ _ _
  rw [isSealed, cut_append_of_apart tidy apart, List.getLast?_append_of_ne_nil _ pieces,
    List.getLast?_append_of_ne_nil _ some]
  exact complete

end Piece

namespace Lexes

variable {first second : List Char} {lexemes more : List Lexeme}

theorem nil : Lexes [] [] := by
  decide

theorem cut_append (before : Lexes first lexemes) (apart : isSealed first ∨ startsFresh second) :
    Piece.cut (first ++ second) = Piece.cut first ++ Piece.cut second :=
  Piece.cut_append_of_apart (fun last member => before.1 last (List.mem_of_getLast? member)) apart

theorem append (before : Lexes first lexemes) (behind : Lexes second more)
    (apart : isSealed first ∨ startsFresh second) : Lexes (first ++ second) (lexemes ++ more) := by
  have cut := before.cut_append apart
  obtain ⟨tidy, read⟩ := before
  obtain ⟨tidy', read'⟩ := behind
  refine ⟨?_, ?_⟩
  · rw [cut]
    intro piece member
    rcases List.mem_append.mp member with member | member
    · exact tidy piece member
    · exact tidy' piece member
  · rw [cut, List.filterMap_append, read, read']

theorem isSealed_append (before : Lexes first lexemes) (apart : isSealed first ∨ startsFresh second)
    (some : second ≠ []) (complete : isSealed second) : isSealed (first ++ second) :=
  Piece.isSealed_append (fun last member => before.1 last (List.mem_of_getLast? member)) apart
    some complete

/-- A line feed may be put behind every text, or taken away. -/
theorem append_newline : Lexes (first ++ ['\n']) lexemes ↔ Lexes first lexemes := by
  have blank : Piece.lexeme? ⟨.blank, ['\n']⟩ = none := rfl
  have tidy : (⟨.blank, ['\n']⟩ : Piece).shape.isTidy := rfl
  rw [Lexes, Lexes, Piece.cut_append_newline, List.filterMap_append, List.filterMap_cons_none blank,
    List.forall_mem_append, List.forall_mem_cons]
  simp [Piece.cut, tidy]

end Lexes

theorem isSealed_newline (text : List Char) : isSealed (text ++ ['\n']) := by
  rw [isSealed, Piece.cut_append_newline, List.getLast?_append, List.getLast?_append]
  rfl

/-! ## Words, numbers and strings -/

/-- The characters form one word. -/
def IsWord (text : List Char) : Prop :=
  ∃ c rest, text = c :: rest ∧ Shape.start c = .word ∧ ∀ d ∈ rest, continuesWord d

/-- The lexeme that a word is: a reserved word or an identifier. -/
def wordLexeme (text : List Char) : Lexeme :=
  ⟨(TokenKind.ofWord? (String.ofList text)).getD .identifier, String.ofList text⟩

namespace Piece

variable {shape : Shape} {reversed text : List Char}

/-- Characters that leave the shape as it is are taken in. -/
theorem cutFrom_of_grows (grows : ∀ c ∈ text, ∀ ahead, shape.extend? c ahead = some shape)
    (reversed rest : List Char) :
    cutFrom shape reversed (text ++ rest) = cutFrom shape (text.reverse ++ reversed) rest := by
  induction text generalizing reversed with
  | nil => rfl
  | cons c text ih =>
      rw [List.cons_append, cutFrom, grows c List.mem_cons_self]
      simp [ih fun d member => grows d (List.mem_cons_of_mem c member)]

theorem cut_word (word : IsWord text) : cut text = [⟨.word, text⟩] := by
  obtain ⟨c, rest, rfl, starts, continues⟩ := word
  have grows : ∀ d ∈ rest, ∀ ahead, Shape.word.extend? d ahead = some .word := by
    intro d member ahead
    simp [Shape.extend?, continues d member]
  rw [cut, starts, ← List.append_nil rest, cutFrom_of_grows grows]
  simp [cutFrom]

end Piece

theorem start_of_isDigit {c : Char} (digit : c.isDigit) : Shape.start c = .integer := by
  have apart : ∀ d : Char, d.isDigit = false → c ≠ d := by
    rintro d other rfl
    rw [digit] at other
    cases other
  have blank : isBlank c = false := by
    simp [isBlank, apart ' ' rfl, apart '\t' rfl, apart '\r' rfl, apart '\n' rfl]
  simp [Shape.start, blank, apart '!' rfl, apart '"' rfl, digit]

namespace Lexes

variable {text whole fraction body : List Char}

theorem word (word : IsWord text) : Lexes text [wordLexeme text] := by
  rw [Lexes, Piece.cut_word word]
  simp [Shape.isTidy, Piece.lexeme?, Piece.token?, wordLexeme]

/-- A dot that no word takes in, before a word. -/
theorem dot_word (word : IsWord text) : Lexes ('.' :: text) [⟨.dot, "."⟩, wordLexeme text] := by
  have cut : Piece.cut ('.' :: text) = ⟨.mark .dot, ['.']⟩ :: Piece.cut text :=
    Piece.cutFrom_of_stops fun _ _ _ => rfl
  rw [Lexes, cut, Piece.cut_word word]
  simp [Shape.isTidy, Piece.lexeme?, Piece.token?, wordLexeme, TokenKind.render, TokenKind.word?,
    TokenKind.reservedWords]

theorem integer (filled : text ≠ []) (digits : ∀ c ∈ text, c.isDigit) :
    Lexes text [⟨.number, String.ofList text⟩] := by
  obtain ⟨c, rest, rfl⟩ := List.exists_cons_of_ne_nil filled
  have grows : ∀ d ∈ rest, ∀ ahead, Shape.integer.extend? d ahead = some .integer := by
    intro d member ahead
    simp [Shape.extend?, digits d (List.mem_cons_of_mem c member)]
  have cut : Piece.cut (c :: rest) = [⟨.integer, c :: rest⟩] := by
    rw [Piece.cut, start_of_isDigit (digits c List.mem_cons_self), ← List.append_nil rest,
      Piece.cutFrom_of_grows grows]
    simp [Piece.cutFrom]
  rw [Lexes, cut]
  simp [Shape.isTidy, Piece.lexeme?, Piece.token?]

theorem decimal (filled : whole ≠ []) (digits : ∀ c ∈ whole, c.isDigit) (filled' : fraction ≠ [])
    (digits' : ∀ c ∈ fraction, c.isDigit) :
    Lexes (whole ++ '.' :: fraction) [⟨.number, String.ofList (whole ++ '.' :: fraction)⟩] := by
  obtain ⟨c, rest, rfl⟩ := List.exists_cons_of_ne_nil filled
  obtain ⟨d, more, rfl⟩ := List.exists_cons_of_ne_nil filled'
  have grows : ∀ e ∈ rest, ∀ ahead, Shape.integer.extend? e ahead = some .integer := by
    intro e member ahead
    simp [Shape.extend?, digits e (List.mem_cons_of_mem c member)]
  have grows' : ∀ e ∈ d :: more, ∀ ahead, Shape.decimal.extend? e ahead = some .decimal := by
    intro e member ahead
    simp [Shape.extend?, digits' e member]
  have point : Shape.integer.extend? '.' (d :: more).head? = some .decimal := by
    simp [Shape.extend?, digits' d List.mem_cons_self]
  have cut : Piece.cut (c :: rest ++ '.' :: d :: more) =
      [⟨.decimal, c :: rest ++ '.' :: d :: more⟩] := by
    rw [List.cons_append, Piece.cut, start_of_isDigit (digits c List.mem_cons_self),
      Piece.cutFrom_of_grows grows, Piece.cutFrom, point, ← List.append_nil (d :: more)]
    simp only [Piece.cutFrom_of_grows grows']
    simp [Piece.cutFrom]
  rw [Lexes, cut]
  simp [Shape.isTidy, Piece.lexeme?, Piece.token?]

theorem string (noQuote : '"' ∉ body) (noNewline : '\n' ∉ body) :
    Lexes ('"' :: (body ++ ['"'])) [⟨.string, String.ofList body⟩] := by
  have grows : ∀ c ∈ body, ∀ ahead, Shape.openString.extend? c ahead = some .openString := by
    intro c member ahead
    have quote : c ≠ '"' := fun same => noQuote (same ▸ member)
    have newline : c ≠ '\n' := fun same => noNewline (same ▸ member)
    simp [Shape.extend?, quote, newline]
  have starts : Shape.start '"' = .openString := by decide
  have cut : Piece.cut ('"' :: (body ++ ['"'])) = [⟨.closedString, '"' :: (body ++ ['"'])⟩] := by
    rw [Piece.cut, starts, Piece.cutFrom_of_grows grows, Piece.cutFrom]
    simp [Shape.extend?, Piece.cutFrom]
  rw [Lexes, cut]
  simp [Shape.isTidy, Piece.lexeme?, Piece.token?]

end Lexes

/-! ## Pieces by shape -/

/-- Is it the kind of a punctuation mark or an operator? -/
def TokenKind.isMark (kind : TokenKind) : Bool :=
  !kind.isReserved && kind != .identifier && kind != .number && kind != .string &&
    kind != .endOfInput

theorem TokenKind.render_ne_empty (kind : TokenKind) : kind.render ≠ "" := by
  cases kind <;> decide

/-- What the characters of a piece of some shape are like. -/
def Shape.Formed (shape : Shape) (text : List Char) : Prop :=
  match shape with
  | .word => IsWord text
  | .integer | .decimal => ∃ c rest, text = c :: rest ∧ c.isDigit
  | .openString => ∃ body, text = '"' :: body ∧ '"' ∉ body ∧ '\n' ∉ body
  | .closedString => ∃ body, text = '"' :: (body ++ ['"']) ∧ '"' ∉ body ∧ '\n' ∉ body
  | .mark kind => kind.isMark ∧ String.ofList text = kind.render
  | .blank => ∃ c, text = [c] ∧ isBlank c
  | .comment | .unknown => text ≠ []

theorem Shape.Formed.ne_nil {shape : Shape} {text : List Char} (formed : shape.Formed text) :
    text ≠ [] := by
  rintro rfl
  cases shape with
  | blank | openString | closedString =>
      obtain ⟨_, impossible, _⟩ := formed
      cases impossible
  | integer | decimal | word =>
      obtain ⟨_, _, impossible, _⟩ := formed
      cases impossible
  | comment | unknown => exact formed rfl
  | mark kind => exact kind.render_ne_empty formed.2.symm

theorem Shape.formed_start (c : Char) : (Shape.start c).Formed [c] := by
  by_cases word : Shape.start c = .word
  · rw [word]
    exact ⟨c, [], rfl, word, fun _ member => absurd member List.not_mem_nil⟩
  · unfold Shape.start at word ⊢
    split
    next blank => exact ⟨c, rfl, blank⟩
    split
    · exact List.cons_ne_nil c []
    split
    next _ _ quote => exact ⟨[], by rw [quote], List.not_mem_nil, List.not_mem_nil⟩
    split
    next digit => exact ⟨c, [], rfl, digit⟩
    split
    next blank note quote digit letter =>
      rw [if_neg blank, if_neg note, if_neg quote, if_neg digit, if_pos letter] at word
      exact absurd rfl word
    split
    next kind mark =>
      unfold markOf? at mark
      split at mark <;> cases mark <;> exact ⟨rfl, by decide⟩
    · exact List.cons_ne_nil c []

theorem Shape.formed_extend {shape extended : Shape} {text : List Char} {c : Char}
    {ahead : Option Char} (formed : shape.Formed text)
    (grown : shape.extend? c ahead = some extended) : extended.Formed (text ++ [c]) := by
  cases shape with
  | comment =>
      simp only [extend?] at grown
      split at grown <;> cases grown
      simp [Formed]
  | integer =>
      obtain ⟨d, rest, rfl, digit⟩ := formed
      simp only [extend?] at grown
      split at grown
      · cases grown
        exact ⟨d, rest ++ [c], rfl, digit⟩
      · split at grown <;> cases grown
        exact ⟨d, rest ++ [c], rfl, digit⟩
  | decimal =>
      obtain ⟨d, rest, rfl, digit⟩ := formed
      simp only [extend?] at grown
      split at grown <;> cases grown
      exact ⟨d, rest ++ [c], rfl, digit⟩
  | word =>
      obtain ⟨d, rest, rfl, starts, continues⟩ := formed
      simp only [extend?] at grown
      split at grown <;> cases grown
      next letter =>
        refine ⟨d, rest ++ [c], rfl, starts, fun e member => ?_⟩
        rcases List.mem_append.mp member with member | member
        · exact continues e member
        · rwa [List.mem_singleton.mp member]
  | openString =>
      obtain ⟨body, rfl, noQuote, noNewline⟩ := formed
      simp only [extend?] at grown
      split at grown
      next quote =>
        cases grown
        exact ⟨body, by rw [quote]; rfl, noQuote, noNewline⟩
      next quote =>
        split at grown <;> cases grown
        next newline =>
          refine ⟨body ++ [c], rfl, ?_, ?_⟩
          · simpa using ⟨noQuote, Ne.symm quote⟩
          · simpa using ⟨noNewline, Ne.symm newline⟩
  | mark kind =>
      have spelled := formed.2
      cases kind <;> simp only [extend?] at grown <;> try cases grown
      · split at grown <;> cases grown
        next equal => exact ⟨rfl, by rw [String.ofList_append, spelled, equal]; decide⟩
      · split at grown
        next greater =>
          cases grown
          exact ⟨rfl, by rw [String.ofList_append, spelled, greater]; decide⟩
        next =>
          split at grown <;> cases grown
          next equal => exact ⟨rfl, by rw [String.ofList_append, spelled, equal]; decide⟩
      · split at grown <;> cases grown
        next equal => exact ⟨rfl, by rw [String.ofList_append, spelled, equal]; decide⟩
  | blank | closedString | unknown => cases grown

/-- What holds of every first character and is kept while a piece takes in characters holds of all
pieces of a text. -/
theorem Piece.forall_mem_cut (Good : Shape → List Char → Prop)
    (starts : ∀ c, Good (Shape.start c) [c])
    (grows : ∀ {shape extended text c ahead}, Good shape text →
      Shape.extend? shape c ahead = some extended → Good extended (text ++ [c]))
    (text : List Char) : ∀ piece ∈ cut text, Good piece.shape piece.text := by
  have from_ : ∀ rest shape reversed, Good shape reversed.reverse →
      ∀ piece ∈ cutFrom shape reversed rest, Good piece.shape piece.text := by
    intro rest
    induction rest with
    | nil =>
        intro shape reversed good piece member
        rw [cutFrom, List.mem_singleton] at member
        exact member ▸ good
    | cons c rest ih =>
        intro shape reversed good piece member
        rw [cutFrom] at member
        split at member
        next extended grown =>
          refine ih extended (c :: reversed) ?_ piece member
          rw [List.reverse_cons]
          exact grows good grown
        next =>
          rcases List.mem_cons.mp member with rfl | member
          · exact good
          · exact ih _ _ (starts c) piece member
  cases text with
  | nil => exact fun _ member => absurd member List.not_mem_nil
  | cons c rest => exact from_ rest _ _ (starts c)

theorem Piece.formed_of_mem_cut {text : List Char} {piece : Piece} (member : piece ∈ cut text) :
    piece.shape.Formed piece.text :=
  forall_mem_cut Shape.Formed Shape.formed_start Shape.formed_extend text piece member

/-- Only blanks hold line feeds. -/
theorem Piece.not_mem_newline_of_mem_cut {text : List Char} {piece : Piece}
    (member : piece ∈ cut text) (filled : piece.shape ≠ .blank) : '\n' ∉ piece.text := by
  refine forall_mem_cut (fun shape text => shape ≠ .blank → '\n' ∉ text) ?_ ?_ text piece member
    filled
  · intro c filled newline
    rw [List.mem_singleton] at newline
    exact filled (newline ▸ rfl)
  · intro shape extended text c ahead good grown _ newline
    rcases List.mem_append.mp newline with newline | newline
    · refine good ?_ newline
      rintro rfl
      cases grown
    · rw [← List.mem_singleton.mp newline, Shape.extend?_newline] at grown
      cases grown

/-- The lexemes that a text can have. -/
inductive Written : Lexeme → Prop where
  | word {text : List Char} : IsWord text → Written (wordLexeme text)
  | number {text : String} {c : Char} {rest : List Char} :
      text.toList = c :: rest → c.isDigit → Written ⟨.number, text⟩
  | string {text : String} :
      '"' ∉ text.toList → '\n' ∉ text.toList → Written ⟨.string, text⟩
  | mark {kind : TokenKind} {text : String} : kind.isMark → Written ⟨kind, text⟩

theorem isReserved_of_ofWord? {word : String} {kind : TokenKind}
    (found : TokenKind.ofWord? word = some kind) : kind.isReserved := by
  have reserved : ∀ entry ∈ TokenKind.reservedWords, entry.2.isReserved := by decide
  obtain ⟨before, behind, split, _⟩ := List.lookup_eq_some_iff.mp found
  exact reserved (Text.upperCase word, kind) (split ▸ List.mem_append_right _ List.mem_cons_self)

theorem Piece.written_of_mem_cut {text : List Char} {piece : Piece} {lexeme : Lexeme}
    (member : piece ∈ cut text) (found : piece.lexeme? = some lexeme) : Written lexeme := by
  have formed := formed_of_mem_cut member
  obtain ⟨shape, text⟩ := piece
  cases shape with
  | integer | decimal =>
      obtain ⟨c, rest, rfl, digit⟩ := formed
      cases found
      exact .number String.toList_ofList digit
  | word =>
      cases found
      exact .word formed
  | closedString =>
      obtain ⟨body, rfl, noQuote, noNewline⟩ := formed
      cases found
      have content : ((('"' :: (body ++ ['"'])).drop 1).dropLast) = body := by simp
      exact .string (by rwa [content, String.toList_ofList]) (by rwa [content, String.toList_ofList])
  | mark kind =>
      cases found
      exact .mark formed.1
  | openString =>
      obtain ⟨body, rfl, noQuote, noNewline⟩ := formed
      cases found
      exact .string (by simpa using noQuote) (by simpa using noNewline)
  | blank | comment | unknown => cases found

/-- A word is an identifier, or it is reserved. -/
theorem kind_wordLexeme (text : List Char) :
    (wordLexeme text).kind = .identifier ∨ (wordLexeme text).kind.isReserved := by
  unfold wordLexeme
  cases found : TokenKind.ofWord? (String.ofList text) with
  | none => exact .inl rfl
  | some kind => exact .inr (isReserved_of_ofWord? found)

theorem kind_wordLexeme_ne (text : List Char) {kind : TokenKind}
    (other : ¬(kind = .identifier ∨ kind.isReserved)) : (wordLexeme text).kind ≠ kind := by
  rintro rfl
  exact other (kind_wordLexeme text)

theorem Written.inside {lexeme : Lexeme} (written : Written lexeme) :
    lexeme.kind ≠ .endOfInput := by
  cases written with
  | @word text word => exact kind_wordLexeme_ne text (by decide)
  | number | string => exact TokenKind.noConfusion
  | @mark kind _ mark =>
      rintro rfl
      exact absurd mark (by decide)

/-! ## What the lexer makes of them -/

theorem map_piece_placeFrom (position : Text.Position) (pieces : List Piece) :
    (PlacedPiece.placeFrom position pieces).map PlacedPiece.piece = pieces := by
  induction pieces generalizing position with
  | nil => rfl
  | cons piece pieces ih => rw [PlacedPiece.placeFrom, List.map_cons, ih]

theorem map_lexeme_filterMap_token? (placed : List PlacedPiece) :
    (placed.filterMap PlacedPiece.token?).map Token.lexeme =
      (placed.map PlacedPiece.piece).filterMap Piece.lexeme? := by
  rw [List.map_filterMap, List.filterMap_map]
  congr
  funext piece
  simp [PlacedPiece.token?, Piece.lexeme?, Option.map_map, Function.comp_def, Token.lexeme]

/-- Nothing is reported about a text whose pieces are no unknown characters or open strings. -/
theorem diagnostics_eq_nil_iff (source : String) :
    (Lexed.ofString source).diagnostics = [] ↔
      ∀ piece ∈ Piece.cut source.toList, piece.shape ≠ .unknown ∧ piece.shape ≠ .openString := by
  have placed := map_piece_placeFrom Text.Position.start (Piece.cut source.toList)
  have reported : ∀ piece : PlacedPiece, piece.diagnostic? = none ↔
      piece.piece.shape ≠ .unknown ∧ piece.piece.shape ≠ .openString := by
    rintro ⟨⟨shape, text⟩, span⟩
    cases shape <;> simp [PlacedPiece.diagnostic?]
  rw [← placed, List.forall_mem_map]
  simp only [← reported]
  exact List.filterMap_eq_nil_iff

theorem map_lexeme_tokens (source : String) :
    (Lexed.ofString source).tokens.map Token.lexeme =
      (Piece.cut source.toList).filterMap Piece.lexeme? ++ [⟨.endOfInput, ""⟩] := by
  have lexemes := map_lexeme_filterMap_token? (placedPieces source.toList)
  rw [placedPieces, map_piece_placeFrom] at lexemes
  rw [← lexemes]
  exact List.map_append

theorem lexemesOf_tokens (source : String) :
    lexemesOf (Lexed.ofString source).tokens = (Piece.cut source.toList).filterMap Piece.lexeme? ∧
      ∀ lexeme ∈ lexemesOf (Lexed.ofString source).tokens, Written lexeme := by
  have written : ∀ lexeme ∈ (Piece.cut source.toList).filterMap Piece.lexeme?, Written lexeme := by
    intro lexeme member
    obtain ⟨piece, member, found⟩ := List.mem_filterMap.mp member
    exact Piece.written_of_mem_cut member found
  have read : lexemesOf (Lexed.ofString source).tokens =
      (Piece.cut source.toList).filterMap Piece.lexeme? := by
    have inside : ∀ lexeme ∈ (Piece.cut source.toList).filterMap Piece.lexeme?,
        lexeme.kind != .endOfInput := by
      intro lexeme member
      exact bne_iff_ne.mpr (written lexeme member).inside
    rw [lexemesOf_eq_takeWhile, map_lexeme_tokens, List.takeWhile_append_of_pos inside]
    exact List.append_nil _
  exact ⟨read, read ▸ written⟩

/-- The lexer finds the lexemes of a text and has nothing to report. -/
theorem Lexes.lexed {source : String} {lexemes : List Lexeme}
    (lexes : Lexes source.toList lexemes) :
    (Lexed.ofString source).diagnostics = [] ∧
      lexemesOf (Lexed.ofString source).tokens = lexemes := by
  obtain ⟨tidy, read⟩ := lexes
  have clean : (Lexed.ofString source).diagnostics = [] := by
    refine (diagnostics_eq_nil_iff source).mpr fun piece member => ⟨?_, ?_⟩
    · intro shape
      have := tidy piece member
      rw [shape] at this
      cases this
    · intro shape
      have := tidy piece member
      rw [shape] at this
      cases this
  exact ⟨clean, (lexemesOf_tokens source).1.trans read⟩

theorem Lexes.map_lexeme_tokens {source : String} {lexemes : List Lexeme}
    (lexes : Lexes source.toList lexemes) :
    (Lexed.ofString source).tokens.map Token.lexeme = lexemes ++ [⟨.endOfInput, ""⟩] := by
  rw [RapidLang.map_lexeme_tokens, lexes.2]

end RapidLang
