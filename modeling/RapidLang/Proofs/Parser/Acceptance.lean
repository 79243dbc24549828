import RapidLang.Proofs.Parser.Completeness.Program
import RapidLang.Proofs.Parser.Phrases.Program

/-!
# What the parser accepts

The parser accepts the programs of the grammar and nothing else, and the tree that it builds is,
up to spans, the one that the grammar gives.
-/

set_option autoImplicit false

namespace RapidLang

open Grammar

namespace Parser

theorem lexemes_eq_nil {cursor : Cursor} (finished : cursor.kind = .endOfInput) :
    cursor.lexemes = [] := by
  rw [← List.length_eq_zero_iff, Cursor.length_lexemes]
  exact Cursor.left_eq_zero finished

/-- The tree of an accepted program is one of its lexemes. -/
theorem phrase_of_ofTokens {tokens : List Token} {program : Program}
    (accepted : Program.ofTokens tokens = .ok program) :
    ProgramPhrase (lexemesOf tokens) (erase program) := by
  obtain ⟨behind, outcome⟩ := Reader.run_of_read accepted
  obtain ⟨read, split, phrase, finished⟩ := (program_meets _).ok outcome
  rw [Cursor.lexemes_ofTokens, lexemes_eq_nil finished, List.append_nil] at split
  exact split ▸ phrase

/-- Every program of the grammar is accepted. -/
theorem ofTokens_of_phrase {tokens : List Token} {tree : Program}
    (phrase : ProgramPhrase (lexemesOf tokens) tree) :
    ∃ program, Program.ofTokens tokens = .ok program ∧ erase program = tree := by
  obtain ⟨program, behind, outcome, same, _⟩ := program_takes phrase (Cursor.lexemes_ofTokens tokens)
  exact ⟨program, Reader.read_of_ok outcome, same⟩

/-- Where heads of loops may run on, the parser accepts no other tree, and it does accept that one
if none runs on. -/
theorem ofTokens_of_loose {sure : Prop} {tokens : List Token} {tree : Program}
    (phrase : LooseProgram sure (lexemesOf tokens) tree) :
    (∀ program, Program.ofTokens tokens = .ok program → erase program = tree) ∧
      (sure → ∃ program, Program.ofTokens tokens = .ok program) := by
  have ends := program_ends phrase (Cursor.lexemes_ofTokens tokens)
  constructor
  · intro program accepted
    obtain ⟨behind, outcome⟩ := Reader.run_of_read accepted
    exact (ends.right program behind outcome).1
  · intro holds
    obtain ⟨program, behind, outcome⟩ := ends.total holds
    exact ⟨program, Reader.read_of_ok outcome⟩

/-- The parser accepts exactly the grammar, with the trees of the grammar. -/
theorem ofTokens_ok_iff_phrase (tokens : List Token) (tree : Program) :
    (∃ program, Program.ofTokens tokens = .ok program ∧ erase program = tree) ↔
      ProgramPhrase (lexemesOf tokens) tree := by
  constructor
  · rintro ⟨program, accepted, rfl⟩
    exact phrase_of_ofTokens accepted
  · exact ofTokens_of_phrase

end Parser

end RapidLang
