import RapidLang.Analysis
import RapidLang.Layout.Format
import RapidLang.Proofs.Parser.Reported

/-!
# What is reported of a syntax error

A text that does not parse has exactly one report of the parser and none of the checker, and the
formatter refuses it with that same report.
-/

set_option autoImplicit false

namespace RapidLang

/-! ## The stage of a report -/

theorem PlacedPiece.stage_of_diagnostic? {placed : PlacedPiece} {report : Diagnostic}
    (found : placed.diagnostic? = some report) : report.stage = .lexer ∧ report.isError := by
  unfold PlacedPiece.diagnostic? at found
  split at found
  · cases found
    exact ⟨rfl, rfl⟩
  · cases found
    exact ⟨rfl, rfl⟩
  · cases found

theorem Lexed.stage_of_mem {source : String} {report : Diagnostic}
    (member : report ∈ (Lexed.ofString source).diagnostics) :
    report.stage = .lexer ∧ report.isError := by
  obtain ⟨placed, _, found⟩ := List.mem_filterMap.mp member
  exact PlacedPiece.stage_of_diagnostic? found

theorem Program.stage_of_mem {program : Program} {report : Diagnostic}
    (member : report ∈ program.diagnostics) : report.stage = .semantic := by
  obtain ⟨problem, _, rfl⟩ := List.mem_map.mp member
  rfl

/-! ## Sorting loses nothing -/

namespace Diagnostic

theorem perm_insertByStart (report : Diagnostic) (reports : List Diagnostic) :
    (insertByStart report reports).Perm (report :: reports) := by
  induction reports with
  | nil => exact .refl _
  | cons first rest ih =>
      unfold insertByStart
      split
      · exact .refl _
      · exact (ih.cons first).trans (.swap report first rest)

theorem perm_sortByStart (reports : List Diagnostic) : (sortByStart reports).Perm reports := by
  induction reports with
  | nil => exact .refl _
  | cons first rest ih =>
      exact (perm_insertByStart first (sortByStart rest)).trans (ih.cons first)

/-- The report tells of the error: an error of the parser with the wording and the span of the
syntax error, and with one label on that span. -/
structure Reports (report : Diagnostic) (error : Parser.SyntaxError) : Prop where
  severity : report.severity = .error
  stage : report.stage = .parser
  message : report.message = error.message
  span : report.span = error.span
  label : ∃ message, report.labels = [⟨error.span, message⟩]

end Diagnostic

/-! ## Tokens -/

theorem Parsed.ofTokens_of_ok {tokens : List Token} {program : Program}
    (accepted : Program.ofTokens tokens = .ok program) :
    Parsed.ofTokens tokens = ⟨some program, []⟩ := by
  obtain ⟨behind, outcome⟩ := Parser.Reader.run_of_read accepted
  have reported := Parser.reported_of_ok outcome
  rw [Parsed.ofTokens, outcome]
  exact congrArg (Parsed.mk (some program)) reported

theorem Parsed.ofTokens_of_error {tokens : List Token} {error : Parser.SyntaxError}
    (failed : Program.ofTokens tokens = .error error) :
    Parsed.ofTokens tokens = ⟨none, [error.diagnostic]⟩ := by
  obtain ⟨behind, outcome⟩ := Parser.Reader.run_of_read_error failed
  have reported := Parser.reported_of_error outcome
  rw [Parsed.ofTokens, outcome]
  exact congrArg (Parsed.mk none) reported

theorem Parser.SyntaxError.reports (error : SyntaxError) : error.diagnostic.Reports error :=
  ⟨rfl, rfl, rfl, rfl, "here", rfl⟩

/-- Tokens form a program and nothing is reported, or there is one syntax error and one report. -/
theorem Parsed.ofTokens_cases (tokens : List Token) :
    (∃ program, Program.ofTokens tokens = .ok program ∧
      Parsed.ofTokens tokens = ⟨some program, []⟩) ∨
    ∃ error report, Program.ofTokens tokens = .error error ∧
      Parsed.ofTokens tokens = ⟨none, [report]⟩ ∧ report.Reports error := by
  cases outcome : Program.ofTokens tokens with
  | ok program => exact .inl ⟨program, rfl, Parsed.ofTokens_of_ok outcome⟩
  | error error =>
      exact .inr ⟨error, error.diagnostic, rfl, Parsed.ofTokens_of_error outcome, error.reports⟩

theorem Parsed.stage_of_mem {tokens : List Token} {report : Diagnostic}
    (member : report ∈ (Parsed.ofTokens tokens).diagnostics) :
    report.stage = .parser ∧ report.isError := by
  rcases Parsed.ofTokens_cases tokens with ⟨_, _, parsed⟩ | ⟨error, only, _, parsed, reports⟩
  · rw [parsed] at member
    cases member
  · rw [parsed] at member
    cases List.mem_singleton.mp member
    refine ⟨reports.stage, ?_⟩
    rw [Diagnostic.isError, reports.severity]
    rfl

/-! ## Analysis -/

section Analysis

variable (source : String)

private theorem filter_parser_eq_nil {reports : List Diagnostic}
    (other : ∀ report ∈ reports, report.stage ≠ .parser) :
    (reports.filter fun report => report.stage == .parser) = [] := by
  rw [List.filter_eq_nil_iff]
  intro report member
  simpa using other report member

theorem Analysis.ofString_of_ok {program : Program}
    (accepted : Program.ofTokens (Lexed.ofString source).tokens = .ok program) :
    Analysis.ofString source = ⟨some program,
      Diagnostic.sortByStart ((Lexed.ofString source).diagnostics ++ program.diagnostics)⟩ := by
  simp only [Analysis.ofString, Parsed.ofTokens_of_ok accepted, List.append_nil]

theorem Analysis.ofString_of_error {error : Parser.SyntaxError}
    (failed : Program.ofTokens (Lexed.ofString source).tokens = .error error) :
    Analysis.ofString source = ⟨none,
      Diagnostic.sortByStart ((Lexed.ofString source).diagnostics ++ [error.diagnostic])⟩ := by
  simp only [Analysis.ofString, Parsed.ofTokens_of_error failed, List.append_nil]

/-- The reports of the parser on a text are those on its tokens. -/
theorem Analysis.filter_parser :
    ((Analysis.ofString source).diagnostics.filter fun report => report.stage == .parser) =
      (Parsed.ofTokens (Lexed.ofString source).tokens).diagnostics := by
  have lexical : ((Lexed.ofString source).diagnostics.filter
      fun report => report.stage == .parser) = [] := by
    apply filter_parser_eq_nil
    intro report member
    rw [(Lexed.stage_of_mem member).1]
    decide
  have sorted (more : List Diagnostic) :=
    (Diagnostic.perm_sortByStart ((Lexed.ofString source).diagnostics ++ more)).filter
      fun report => report.stage == .parser
  simp only [List.filter_append, lexical, List.nil_append] at sorted
  -- A list of at most one report has no other order.
  cases outcome : Program.ofTokens (Lexed.ofString source).tokens with
  | ok program =>
      have semantic : (program.diagnostics.filter fun report => report.stage == .parser) = [] := by
        apply filter_parser_eq_nil
        intro report member
        rw [Program.stage_of_mem member]
        decide
      rw [Analysis.ofString_of_ok source outcome, Parsed.ofTokens_of_ok outcome]
      exact (semantic ▸ sorted program.diagnostics).eq_nil
  | error error =>
      rw [Analysis.ofString_of_error source outcome, Parsed.ofTokens_of_error outcome]
      exact (sorted [error.diagnostic]).eq_singleton

theorem Analysis.program_eq :
    (Analysis.ofString source).program =
      (Parsed.ofTokens (Lexed.ofString source).tokens).program := rfl

/-- There is no program exactly if the parser has one report. -/
theorem Analysis.program_eq_none_iff :
    (Analysis.ofString source).program = none ↔
      ∃ report, ((Analysis.ofString source).diagnostics.filter
        fun report => report.stage == .parser) = [report] := by
  rw [Analysis.program_eq, Analysis.filter_parser]
  rcases Parsed.ofTokens_cases (Lexed.ofString source).tokens with
    ⟨program, _, parsed⟩ | ⟨_, report, _, parsed, _⟩
  · simp [parsed]
  · simp [parsed]

/-- Without a program there is nothing to check. -/
theorem Analysis.stage_ne_semantic (missing : (Analysis.ofString source).program = none) :
    ∀ report ∈ (Analysis.ofString source).diagnostics, report.stage ≠ .semantic := by
  intro report member
  cases outcome : Program.ofTokens (Lexed.ofString source).tokens with
  | ok program =>
      rw [Analysis.ofString_of_ok source outcome] at missing
      cases missing
  | error error =>
      rw [Analysis.ofString_of_error source outcome, (Diagnostic.perm_sortByStart _).mem_iff,
        List.mem_append] at member
      rcases member with member | member
      · rw [(Lexed.stage_of_mem member).1]
        decide
      · rw [List.mem_singleton.mp member, error.reports.stage]
        decide

end Analysis

/-! ## Formatting -/

section Formatting

variable (config : LayoutConfig) (source : String)

/-- The first error of the lexer is the first of its reports. -/
theorem Parsed.firstError?_lexer :
    (Parsed.ofString source).firstError? .lexer = (Lexed.ofString source).diagnostics.head? := by
  have parser : ((Parsed.ofTokens (Lexed.ofString source).tokens).diagnostics.find?
      fun report => report.stage == .lexer && report.isError) = none := by
    rw [List.find?_eq_none]
    intro report member
    simp [(Parsed.stage_of_mem member).1]
  rw [Parsed.firstError?, Parsed.ofString, List.find?_append, parser, Option.or_none]
  cases reports : (Lexed.ofString source).diagnostics with
  | nil => rfl
  | cons first rest =>
      obtain ⟨stage, error⟩ := Lexed.stage_of_mem (reports ▸ List.mem_cons_self)
      rw [List.find?_cons_of_pos (by simp [stage, error])]
      rfl

theorem Parsed.firstError?_parser :
    (Parsed.ofString source).firstError? .parser =
      (Parsed.ofTokens (Lexed.ofString source).tokens).diagnostics.head? := by
  have lexer : ((Lexed.ofString source).diagnostics.find?
      fun report => report.stage == .parser && report.isError) = none := by
    rw [List.find?_eq_none]
    intro report member
    simp [(Lexed.stage_of_mem member).1]
  rw [Parsed.firstError?, Parsed.ofString, List.find?_append, lexer, Option.none_or]
  cases reports : (Parsed.ofTokens (Lexed.ofString source).tokens).diagnostics with
  | nil => rfl
  | cons first rest =>
      obtain ⟨stage, error⟩ := Parsed.stage_of_mem (reports ▸ List.mem_cons_self)
      rw [List.find?_cons_of_pos (by simp [stage, error])]
      rfl

theorem format_of_lexical {first : Diagnostic} {rest : List Diagnostic}
    (reported : (Lexed.ofString source).diagnostics = first :: rest) :
    format config source = .error (.lexical first) := by
  simp only [format, Parsed.firstError?_lexer, reported, List.head?_cons]

theorem format_of_ok {program : Program} (clean : (Lexed.ofString source).diagnostics = [])
    (accepted : Program.ofTokens (Lexed.ofString source).tokens = .ok program) :
    format config source = .ok (program.format config) := by
  have parsed : (Parsed.ofString source).program = some program := by
    rw [Parsed.ofString, Parsed.ofTokens_of_ok accepted]
  simp only [format, Parsed.firstError?_lexer, clean, List.head?_nil, parsed]

theorem format_of_error {error : Parser.SyntaxError}
    (clean : (Lexed.ofString source).diagnostics = [])
    (failed : Program.ofTokens (Lexed.ofString source).tokens = .error error) :
    format config source = .error (.syntactic error.diagnostic) := by
  have parsed : (Parsed.ofString source).program = none := by
    rw [Parsed.ofString, Parsed.ofTokens_of_error failed]
  simp only [format, Parsed.firstError?_lexer, Parsed.firstError?_parser, clean, List.head?_nil,
    parsed, Parsed.ofTokens_of_error failed]
  rfl

/-- A text that is formatted leaves nothing to report and has a program. -/
theorem format_eq_ok_iff (text : String) :
    format config source = .ok text ↔
      (Lexed.ofString source).diagnostics = [] ∧
        ∃ program, Program.ofTokens (Lexed.ofString source).tokens = .ok program ∧
          program.format config = text := by
  cases clean : (Lexed.ofString source).diagnostics with
  | cons first rest => simp [format_of_lexical config source clean]
  | nil =>
      cases outcome : Program.ofTokens (Lexed.ofString source).tokens with
      | error error => simp [format_of_error config source clean outcome]
      | ok program => simp [format_of_ok config source clean outcome]

theorem format_eq_lexical_iff (report : Diagnostic) :
    format config source = .error (.lexical report) ↔
      (Lexed.ofString source).diagnostics.head? = some report := by
  cases clean : (Lexed.ofString source).diagnostics with
  | cons first rest => simp [format_of_lexical config source clean]
  | nil =>
      cases outcome : Program.ofTokens (Lexed.ofString source).tokens with
      | error error => simp [format_of_error config source clean outcome]
      | ok program => simp [format_of_ok config source clean outcome]

theorem format_eq_syntactic_iff (report : Diagnostic) :
    format config source = .error (.syntactic report) ↔
      (Lexed.ofString source).diagnostics = [] ∧
        (Parsed.ofTokens (Lexed.ofString source).tokens).diagnostics = [report] := by
  cases clean : (Lexed.ofString source).diagnostics with
  | cons first rest => simp [format_of_lexical config source clean]
  | nil =>
      cases outcome : Program.ofTokens (Lexed.ofString source).tokens with
      | error error =>
          simp [format_of_error config source clean outcome, Parsed.ofTokens_of_error outcome]
      | ok program =>
          simp [format_of_ok config source clean outcome, Parsed.ofTokens_of_ok outcome]

end Formatting

/-- One syntax error is reported once, wherever a text is parsed. Tokens form a program and nothing
is reported, or they have one error and one report of it. An analysis lacks a program exactly if it
holds one report of the parser, and then the checker has reported nothing. The formatter refuses a
text with the first report of the lexer, if there is any, and else with the report of the parser, if
there is one; it formats all other texts. -/
theorem syntaxError_reported_once :
    (∀ tokens : List Token,
      (∃ program, Program.ofTokens tokens = .ok program ∧
        Parsed.ofTokens tokens = ⟨some program, []⟩) ∨
      ∃ error report, Program.ofTokens tokens = .error error ∧
        Parsed.ofTokens tokens = ⟨none, [report]⟩ ∧ report.Reports error) ∧
    (∀ source : String,
      ((Analysis.ofString source).diagnostics.filter fun report => report.stage == .parser) =
          (Parsed.ofTokens (Lexed.ofString source).tokens).diagnostics ∧
        ((Analysis.ofString source).program = none ↔
          ∃ report, ((Analysis.ofString source).diagnostics.filter
            fun report => report.stage == .parser) = [report]) ∧
        ((Analysis.ofString source).program = none →
          ∀ report ∈ (Analysis.ofString source).diagnostics, report.stage ≠ .semantic)) ∧
    ∀ (config : LayoutConfig) (source : String),
      (∀ report, format config source = .error (.lexical report) ↔
        (Lexed.ofString source).diagnostics.head? = some report) ∧
      (∀ report, format config source = .error (.syntactic report) ↔
        (Lexed.ofString source).diagnostics = [] ∧
          (Parsed.ofTokens (Lexed.ofString source).tokens).diagnostics = [report]) ∧
      ∀ text, format config source = .ok text ↔
        (Lexed.ofString source).diagnostics = [] ∧
          ∃ program, Program.ofTokens (Lexed.ofString source).tokens = .ok program ∧
            program.format config = text := by
  refine ⟨Parsed.ofTokens_cases, fun source => ⟨?_, ?_, ?_⟩, fun config source => ⟨?_, ?_, ?_⟩⟩
  · exact Analysis.filter_parser source
  · exact Analysis.program_eq_none_iff source
  · exact Analysis.stage_ne_semantic source
  · exact format_eq_lexical_iff config source
  · exact format_eq_syntactic_iff config source
  · exact format_eq_ok_iff config source

end RapidLang
