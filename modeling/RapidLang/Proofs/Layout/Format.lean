import RapidLang.Proofs.Analysis.Reports
import RapidLang.Proofs.Layout.Erasure
import RapidLang.Proofs.Parser.Acceptance

/-!
# Formatted texts

A formatted text says what the text said that it was made from. It may fail to parse only where
the head of a loop runs on into the body of the loop, as the layout leaves out the parentheses that
kept them apart; and where it does parse, formatting it is the same as formatting the first text.
The settings decide on nothing but the space between the tokens.
-/

set_option autoImplicit false

namespace RapidLang

open Grammar RapidLang.Parser

/-- No number among the lexemes is out of range. -/
def InRange (lexemes : List Lexeme) : Prop :=
  ∀ lexeme ∈ lexemes, lexeme.kind = .number →
    (Binary64.read? lexeme.text).all Binary64.isFinite

instance (lexemes : List Lexeme) : Decidable (InRange lexemes) :=
  inferInstanceAs (Decidable (∀ lexeme ∈ lexemes, _))

theorem fit_of_inRange {exact : Prop} {lexemes : List Lexeme}
    (written : ∀ lexeme ∈ lexemes, Written lexeme) (inRange : exact → InRange lexemes) :
    ∀ lexeme ∈ lexemes, Fit exact lexeme := by
  intro lexeme member
  refine ⟨written lexeme member, fun holds kind value found => ?_⟩
  have finite := inRange holds lexeme member kind
  rwa [found] at finite

theorem Except.ok_of_toOption {ε α : Type} {result : Except ε α} {value : α}
    (found : result.toOption = some value) : result = .ok value := by
  cases result with
  | error => cases found
  | ok => exact congrArg _ (Option.some.inj found)

/-- The steps that print an accepted program have lexemes, which form a program that is laid out
alike. -/
theorem Program.lays {sure exact : Prop} {source : String} {program : Program}
    (accepted : Program.ofTokens (Lexed.ofString source).tokens = .ok program)
    (ends : sure → program.headsEnd)
    (inRange : exact → InRange (lexemesOf (Lexed.ofString source).tokens)) :
    ∃ lexemes, Lays program.layout lexemes ∧
      ∃ read : Program, read.layout = program.layout ∧ (exact → read = erase program) ∧
        LooseProgram sure lexemes read := by
  have fit := fit_of_inRange (lexemesOf_tokens source).2 inRange
  have ends' : sure → (RapidLang.erase program).headsEnd := fun holds =>
    program.headsEnd_erase.trans (ends holds)
  obtain ⟨read, back⟩ := (phrase_of_ofTokens accepted).readsBack fit ends'
  obtain ⟨lexemes, lays, phrase⟩ := back.lines
  have same : (RapidLang.erase program).layout = program.layout := program.layout_erase
  exact ⟨lexemes, same ▸ lays, read, back.alike.trans same, back.same, phrase⟩

/-- What is read from the printed text of an accepted program. -/
theorem Program.ofTokens_format {source : String} {program : Program}
    (accepted : Program.ofTokens (Lexed.ofString source).tokens = .ok program)
    (config : LayoutConfig) :
    (Lexed.ofString (program.format config)).diagnostics = [] ∧
      (∀ read, Program.ofTokens (Lexed.ofString (program.format config)).tokens = .ok read →
        read.layout = program.layout ∧
          (InRange (lexemesOf (Lexed.ofString source).tokens) →
            RapidLang.erase read = RapidLang.erase program)) ∧
      (program.headsEnd → ∃ read,
        Program.ofTokens (Lexed.ofString (program.format config)).tokens = .ok read) := by
  obtain ⟨lexemes, lays, read, alike, same, phrase⟩ := Program.lays accepted id id
  obtain ⟨clean, lexed⟩ := (lays.print config).lexed
  rw [← lexed] at phrase
  obtain ⟨only, total⟩ := ofTokens_of_loose phrase
  refine ⟨clean, fun other accepted' => ?_, total⟩
  have erased := only other accepted'
  refine ⟨?_, fun inRange => erased.trans (same inRange)⟩
  rw [← alike, ← erased]
  exact other.layout_erase.symm

/-- A formatted text gives the lexer nothing to report. The parser reads no program from it but one
that is laid out like the program of the first text, and up to spans this is the same one unless a
number of the first text is out of range. If the heads of all loops end, the parser does read it. -/
theorem format_preserves_program (config : LayoutConfig) (source text : String)
    (formatted : format config source = .ok text) :
    ∃ program, Program.ofTokens (Lexed.ofString source).tokens = .ok program ∧
      (Lexed.ofString text).diagnostics = [] ∧
      (∀ read, Program.ofTokens (Lexed.ofString text).tokens = .ok read →
        read.layout = program.layout ∧
          (InRange (lexemesOf (Lexed.ofString source).tokens) → erase read = erase program)) ∧
      (program.headsEnd → ∃ read, Program.ofTokens (Lexed.ofString text).tokens = .ok read) := by
  obtain ⟨_, program, accepted, rfl⟩ := (format_eq_ok_iff config source text).mp formatted
  exact ⟨program, accepted, Program.ofTokens_format accepted config⟩

/-- A call in a loop, with a list of arguments. -/
def callInLoop : String :=
  "MODULE M PROC p() WHILE (a) p 1.50,2; ENDWHILE ENDPROC ENDMODULE"

/-- Settings with tabs and narrow lines. -/
def narrowLayout : LayoutConfig := { indent := .tab, maxWidth := 6 }

/-- The loop under narrow settings. -/
def narrowCallInLoop : String :=
  "MODULE M\n\tPROC p()\n\t\tWHILE a\n\t\t\tp 1.5,\n\t\t\t\t2;\n" ++
    "\t\tENDWHILE\n\tENDPROC\nENDMODULE\n"

/-- The loop under the default settings. -/
def wideCallInLoop : String :=
  "MODULE M\n    PROC p()\n        WHILE a\n            p 1.5, 2;\n" ++
    "        ENDWHILE\n    ENDPROC\nENDMODULE\n"

/-- How the loop is formatted, first and again. -/
theorem format_callInLoop :
    (format narrowLayout callInLoop).toOption = some narrowCallInLoop ∧
      (format {} narrowCallInLoop).toOption = some wideCallInLoop ∧
      (format {} wideCallInLoop).toOption = some wideCallInLoop ∧
      (Program.ofTokens (Lexed.ofString callInLoop).tokens).toOption.map Program.headsEnd =
        some true ∧
      InRange (lexemesOf (Lexed.ofString callInLoop).tokens) := by
  decide +kernel

theorem format_preserves_program_of_callInLoop :
    format narrowLayout callInLoop = .ok narrowCallInLoop ∧
      ∃ program read, Program.ofTokens (Lexed.ofString callInLoop).tokens = .ok program ∧
        Program.ofTokens (Lexed.ofString narrowCallInLoop).tokens = .ok read ∧
        erase read = erase program := by
  obtain ⟨narrow, _, _, ends, inRange⟩ := format_callInLoop
  have formatted := Except.ok_of_toOption narrow
  obtain ⟨program, accepted, _, only, total⟩ :=
    format_preserves_program narrowLayout callInLoop narrowCallInLoop formatted
  rw [accepted] at ends
  obtain ⟨read, accepted'⟩ := total (Option.some.inj ends)
  exact ⟨formatted, program, read, accepted, accepted', (only read accepted').2 inRange⟩

/-- A loop whose head is kept apart from the first statement by parentheses alone. -/
def parenthesizedHead : String :=
  "MODULE M PROC p() WHILE (ready) (a + b) * c; ENDWHILE ENDPROC ENDMODULE"

/-- The same program under the default settings, where nothing keeps the two apart. -/
def bareHead : String :=
  "MODULE M\n    PROC p()\n        WHILE ready\n            (a + b) * c;\n" ++
    "        ENDWHILE\n    ENDPROC\nENDMODULE\n"

/-- Where the head of a loop runs on into its body, the formatted text does not parse. -/
theorem format_parenthesizedHead : format {} parenthesizedHead = .ok bareHead ∧
    (Program.ofTokens (Lexed.ofString bareHead).tokens).toOption.isNone := by
  have both : (format {} parenthesizedHead).toOption = some bareHead ∧
      (Program.ofTokens (Lexed.ofString bareHead).tokens).toOption.isNone := by
    decide +kernel
  exact ⟨Except.ok_of_toOption both.1, both.2⟩

/-- Formatting forgets the layout of a text: where a formatted text can be formatted again, this
gives the same as formatting the first text under the last settings. Under the same settings a
formatted text therefore does not change, and counts as formatted. -/
theorem format_forgets_layout (config config' : LayoutConfig) (source text text' : String)
    (formatted : format config source = .ok text) (again : format config' text = .ok text') :
    format config' source = .ok text' ∧
      (config = config' → text' = text ∧ isFormatted config' text = .ok true) := by
  obtain ⟨clean, program, accepted, printed⟩ := (format_eq_ok_iff config source text).mp formatted
  obtain ⟨_, read, accepted', rfl⟩ := (format_eq_ok_iff config' text text').mp again
  obtain ⟨_, only, _⟩ := Program.ofTokens_format accepted config
  rw [printed] at only
  have same : read.format config' = program.format config' :=
    congrArg (Printer.print config') (only read accepted').1
  have whole : format config' source = .ok (read.format config') := by
    rw [same]
    exact format_of_ok config' source clean accepted
  refine ⟨whole, ?_⟩
  rintro rfl
  have unchanged : read.format config = text := Except.ok.inj (whole.symm.trans formatted)
  refine ⟨unchanged, ?_⟩
  rw [isFormatted, again, unchanged]
  simp [Except.map]

theorem format_forgets_layout_of_callInLoop :
    format narrowLayout callInLoop = .ok narrowCallInLoop ∧
      format {} narrowCallInLoop = .ok wideCallInLoop ∧
      format {} callInLoop = .ok wideCallInLoop ∧
      isFormatted {} wideCallInLoop = .ok true := by
  obtain ⟨narrow, wide, fixed, _⟩ := format_callInLoop
  have formatted := Except.ok_of_toOption narrow
  have again := Except.ok_of_toOption wide
  have fixed' := Except.ok_of_toOption fixed
  refine ⟨formatted, again, ?_, ?_⟩
  · exact (format_forgets_layout narrowLayout {} callInLoop narrowCallInLoop wideCallInLoop
      formatted again).1
  · exact ((format_forgets_layout {} {} wideCallInLoop wideCallInLoop wideCallInLoop fixed'
      fixed').2 rfl).2

/-- Under any two settings a program that the parser made is printed as the same tokens, and the
lexer has nothing to report about either text. -/
theorem settings_decide_space (config config' : LayoutConfig) (source : String) (program : Program)
    (accepted : Program.ofTokens (Lexed.ofString source).tokens = .ok program) :
    (Lexed.ofString (program.format config)).diagnostics = [] ∧
      (Lexed.ofString (program.format config')).diagnostics = [] ∧
      (Lexed.ofString (program.format config)).tokens.map Token.lexeme =
        (Lexed.ofString (program.format config')).tokens.map Token.lexeme := by
  obtain ⟨lexemes, lays, _⟩ :=
    @Program.lays False False source program accepted False.elim False.elim
  have lexes := lays.print config
  have lexes' := lays.print config'
  refine ⟨lexes.lexed.1, lexes'.lexed.1, ?_⟩
  exact lexes.map_lexeme_tokens.trans lexes'.map_lexeme_tokens.symm

theorem settings_decide_space_for_callInLoop :
    ∃ program, Program.ofTokens (Lexed.ofString callInLoop).tokens = .ok program ∧
      program.format {} = wideCallInLoop ∧ program.format narrowLayout = narrowCallInLoop ∧
      (Lexed.ofString wideCallInLoop).tokens.map Token.lexeme =
        (Lexed.ofString narrowCallInLoop).tokens.map Token.lexeme := by
  have wide : (format {} callInLoop).toOption = some wideCallInLoop := by decide +kernel
  have formatted := Except.ok_of_toOption format_callInLoop.1
  obtain ⟨_, program, accepted, printed⟩ :=
    (format_eq_ok_iff {} callInLoop wideCallInLoop).mp (Except.ok_of_toOption wide)
  obtain ⟨_, other, accepted', printed'⟩ :=
    (format_eq_ok_iff narrowLayout callInLoop narrowCallInLoop).mp formatted
  obtain rfl : program = other := Except.ok.inj (accepted.symm.trans accepted')
  obtain ⟨_, _, same⟩ := settings_decide_space {} narrowLayout callInLoop program accepted
  rw [printed, printed'] at same
  exact ⟨program, accepted, printed, printed', same⟩

end RapidLang
