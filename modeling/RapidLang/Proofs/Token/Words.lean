import Mathlib.Data.List.Chain
import RapidLang.Proofs.Token.Lexing

/-!
# Words

Names and reserved words are words, and two words with a dot between them are one. No reserved word
has a dot, so such a word is an identifier. A word takes in all that it can, so no word begins where
another one ends.
-/

set_option autoImplicit false

namespace RapidLang

open Text

theorem startsWord_of_start {c : Char} (starts : Shape.start c = .word) : startsWord c := by
  unfold Shape.start at starts
  split at starts
  · cases starts
  split at starts
  · cases starts
  split at starts
  · cases starts
  split at starts
  · cases starts
  split at starts
  · assumption
  split at starts <;> cases starts

theorem continuesWord_of_start {c : Char} (starts : Shape.start c = .word) : continuesWord c := by
  have letter := startsWord_of_start starts
  rw [startsWord, Bool.or_eq_true] at letter
  rcases letter with letter | line
  · simp [continuesWord, isAlphanumeric, letter]
  · simp [continuesWord, line]

/-- Two words with a dot between them are one word. -/
theorem IsWord.append_dot {text more : List Char} (word : IsWord text) (word' : IsWord more) :
    IsWord (text ++ '.' :: more) := by
  obtain ⟨c, rest, rfl, starts, continues⟩ := word
  obtain ⟨c', rest', rfl, starts', continues'⟩ := word'
  refine ⟨c, rest ++ '.' :: c' :: rest', rfl, starts, fun d member => ?_⟩
  rcases List.mem_append.mp member with member | member
  · exact continues d member
  · rcases List.mem_cons.mp member with rfl | member
    · decide
    rcases List.mem_cons.mp member with rfl | member
    · exact continuesWord_of_start starts'
    · exact continues' d member

theorem IsWord.ne_nil {text : List Char} (word : IsWord text) : text ≠ [] := by
  obtain ⟨c, rest, rfl, _⟩ := word
  exact List.cons_ne_nil c rest

/-- A word with a dot is not reserved. -/
theorem kind_wordLexeme_of_dot {text : List Char} (dotted : '.' ∈ text) :
    (wordLexeme text).kind = .identifier := by
  have plain : ∀ entry ∈ TokenKind.reservedWords, '.' ∉ entry.1.toList := by decide
  unfold wordLexeme
  cases found : TokenKind.ofWord? (String.ofList text) with
  | none => rfl
  | some kind =>
      obtain ⟨before, behind, split, _⟩ := List.lookup_eq_some_iff.mp found
      refine absurd ?_ (plain _ (split ▸ List.mem_append_right _ List.mem_cons_self))
      simp only [upperCase, String.toList_ofList, List.mem_flatMap]
      exact ⟨'.', dotted, by decide⟩

/-- The lexemes of names and reserved words are those of words. -/
theorem Written.isWord {lexeme : Lexeme} (written : Written lexeme)
    (kind : lexeme.kind = .identifier ∨ lexeme.kind.isReserved) :
    IsWord lexeme.text.toList ∧ wordLexeme lexeme.text.toList = lexeme := by
  cases written with
  | @word text word =>
      have same : (wordLexeme text).text.toList = text := String.toList_ofList
      rw [same]
      exact ⟨word, rfl⟩
  | number | string => rcases kind with kind | kind <;> cases kind
  | @mark kind' _ mark =>
      simp only [TokenKind.isMark, Bool.and_eq_true, bne_iff_ne, Bool.not_eq_true'] at mark
      rcases kind with kind | kind
      · exact absurd kind mark.1.1.1.2
      · rw [mark.1.1.1.1] at kind
        cases kind

/-! ## Words next to each other -/

theorem Shape.eq_word_of_extend {shape : Shape} {c : Char} {ahead : Option Char}
    (extended : shape.extend? c ahead = some .word) : shape = .word := by
  unfold Shape.extend? at extended
  split at extended
  all_goals grind

namespace Piece

/-- A piece becomes a word only if it begins as one. -/
theorem eq_word_of_head {shape : Shape} {reversed rest : List Char} {first : Piece}
    (head : first ∈ (cutFrom shape reversed rest).head?) (word : first.shape = .word) :
    shape = .word := by
  induction rest generalizing shape reversed with
  | nil =>
      cases head
      exact word
  | cons c rest ih =>
      rw [cutFrom] at head
      split at head
      next extended taken => exact Shape.eq_word_of_extend (ih head ▸ taken)
      next =>
        cases head
        exact word

theorem isChain_cutFrom (shape : Shape) (reversed rest : List Char) :
    (cutFrom shape reversed rest).IsChain fun first second =>
      first.shape = .word → second.shape ≠ .word := by
  induction rest generalizing shape reversed with
  | nil => exact .singleton _
  | cons c rest ih =>
      rw [cutFrom]
      split
      · exact ih _ _
      next ended =>
        refine List.isChain_cons.mpr ⟨?_, ih _ _⟩
        rintro second head rfl word
        have begins := continuesWord_of_start (eq_word_of_head head word)
        simp [Shape.extend?, begins] at ended

/-- Of two pieces next to each other, at least one is no word. -/
theorem isChain_cut (text : List Char) :
    (cut text).IsChain fun first second => first.shape = .word → second.shape ≠ .word := by
  cases text with
  | nil => exact .nil
  | cons c rest => exact isChain_cutFrom _ _ _

end Piece

end RapidLang
