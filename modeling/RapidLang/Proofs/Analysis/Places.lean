import Mathlib.Order.Basic
import RapidLang.Proofs.Analysis.Reports
import RapidLang.Proofs.Checker.Places
import RapidLang.Proofs.Parser.FirstError

/-!
# Where an analysis points

All reports on a text, and all their labels, point at spans of this text. The spans of tokens cover
characters, those of trees are merged from them, and the checker points only at what a tree has. The
reports are sorted by where they start, and those that start together keep the order in which they
were found.
-/

set_option autoImplicit false

namespace RapidLang

open Text

/-! ## Spans of a text -/

namespace Text

theorem LineIndex.position_offset_afterAll (front behind : List Char) :
    (ofChars (front ++ behind)).position
        ((ofChars (front ++ behind)).offset (Position.start.afterAll front)) =
      Position.start.afterAll front := by
  rw [offset_afterAll, position_length]

namespace Span

/-- The span does not end before it begins, and both its ends are positions of the text. -/
structure LiesIn (index : LineIndex) (span : Span) : Prop where
  ordered : span.start ≤ span.stop
  start : index.position (index.offset span.start) = span.start
  stop : index.position (index.offset span.stop) = span.stop

theorem Covers.liesIn {characters front part : List Char} {span : Span}
    (covers : span.Covers characters front part) : span.LiesIn (LineIndex.ofChars characters) := by
  obtain ⟨⟨behind, rfl⟩, rfl⟩ := covers
  constructor
  · change Position.start.afterAll front ≤ Position.start.afterAll (front ++ part)
    rw [Position.afterAll_append]
    exact Position.le_afterAll _ _
  · rw [List.append_assoc]
    exact LineIndex.position_offset_afterAll front (part ++ behind)
  · exact LineIndex.position_offset_afterAll (front ++ part) behind

/-- A span that is merged from spans of a text begins and ends where one of these does. -/
theorem merging_liesIn (index : LineIndex) : Merging (LiesIn index) := by
  intro left right lies lies'
  constructor
  · exact le_trans (min_le_left _ _) (le_trans lies.ordered (le_max_left _ _))
  · exact min_rec' (fun place => index.position (index.offset place) = place) lies.start lies'.start
  · exact max_rec' (fun place => index.position (index.offset place) = place) lies.stop lies'.stop

end Span

end Text

/-- The report and its labels point at spans of the text. -/
structure Diagnostic.LiesIn (index : LineIndex) (report : Diagnostic) : Prop where
  span : report.span.LiesIn index
  labels : ∀ label ∈ report.labels, label.span.LiesIn index

/-- If the report is that a name is declared again, it has one label, and that points at the same
name. -/
def Diagnostic.PointsBack (characters : List Char) (report : Diagnostic) : Prop :=
  report.code = some .duplicateDefinition → ∃ first,
    report.labels = [⟨first, "first defined here"⟩] ∧
      slice characters ((LineIndex.ofChars characters).range first) =
        slice characters ((LineIndex.ofChars characters).range report.span)

theorem Diagnostic.PointsBack.of_code {characters : List Char} {report : Diagnostic}
    (other : report.code ≠ some .duplicateDefinition) : report.PointsBack characters :=
  fun code => absurd code other

/-! ## The reports of the stages -/

/-- The reports of a stage on a text, in the order in which they are found. The checker has none
where there is no tree. -/
def Stage.reports (source : String) : Stage → List Diagnostic
  | .lexer => (Lexed.ofString source).diagnostics
  | .parser => (Parsed.ofTokens (Lexed.ofString source).tokens).diagnostics
  | .semantic => (Analysis.ofString source).program.toList.flatMap Program.diagnostics

/-- The stages in the order in which a text passes through them. -/
def Stage.all : List Stage :=
  [.lexer, .parser, .semantic]

section Stages

variable {characters : List Char} {report : Diagnostic}

theorem PlacedPiece.liesIn_of_diagnostic? {placed : PlacedPiece}
    (member : placed ∈ placedPieces characters) (found : placed.diagnostic? = some report) :
    report.LiesIn (LineIndex.ofChars characters) := by
  obtain ⟨front, covers⟩ := covers member
  have formed := formed member
  unfold diagnostic? at found
  split at found
  next =>
    cases found
    exact ⟨covers.liesIn, fun _ member => absurd member List.not_mem_nil⟩
  next shape =>
    cases found
    rw [shape] at formed
    obtain ⟨body, text, _, plain⟩ := formed
    -- The label covers the quote that the string begins with.
    rw [text] at covers
    have whole : placed.span.Covers characters front ([] ++ ['"'] ++ body) := covers
    have quote := whole.within_word (by simpa using plain)
    refine ⟨covers.liesIn, List.forall_mem_singleton.mpr ?_⟩
    simpa [Position.right] using quote.liesIn
  next => cases found

theorem Parser.fits_tokens (characters : List Char) :
    (Cursor.ofTokens (Lexed.ofChars characters).tokens).Fits
      (Span.LiesIn (LineIndex.ofChars characters)) := by
  obtain ⟨rest, stop⟩ := ofTokens_ofChars characters
  constructor
  · rw [rest]
    intro token member
    obtain ⟨placed, member, found⟩ := List.mem_filterMap.mp member
    obtain ⟨_, covers⟩ := PlacedPiece.covers member
    rw [PlacedPiece.span_of_token? found]
    exact covers.liesIn
  · rw [stop]
    exact (Lexed.covers_end characters).liesIn

theorem Parser.SyntaxError.liesIn_of_failed {error : SyntaxError}
    (failed : Program.ofTokens (Lexed.ofChars characters).tokens = .error error) :
    error.diagnostic.LiesIn (LineIndex.ofChars characters) := by
  obtain ⟨_, outcome⟩ := Reader.run_of_read_error failed
  obtain ⟨before, reaches, _, offence⟩ := Reader.follows_of_error outcome
  have place := ((fits_tokens characters).of_reaches reaches).current
  rw [offence]
  exact ⟨place, List.forall_mem_singleton.mpr place⟩

section Accepted

variable {program : Program} {problem : Problem}
  (accepted : Program.ofTokens (Lexed.ofChars characters).tokens = .ok program)

include accepted

theorem Program.fits_of_accepted :
    program.Fits (Span.LiesIn (LineIndex.ofChars characters)) := by
  obtain ⟨_, outcome⟩ := Parser.Reader.run_of_read accepted
  have fits : ∀ name : Name, name.Covering characters →
      name.Fits (Span.LiesIn (LineIndex.ofChars characters)) :=
    fun _ covering => covering.elim fun _ covers => covers.liesIn
  have laid := (Parser.laid_covering characters).mono fits
  have nested := (Parser.program_reads.ends laid _ _ outcome).1
  have statements := Parser.program_fits (Span.merging_liesIn _) (Parser.fits_tokens characters)
  refine ⟨List.forall_mem_map.mpr fun identifier member => ?_, statements.ends laid _ _ outcome⟩
  exact (nested.identifiers identifier member).2

/-- A problem with a program that is read from a text points at spans of this text. -/
theorem Problem.liesIn_of_accepted (member : problem ∈ program.check) :
    problem.diagnostic.LiesIn (LineIndex.ofChars characters) ∧
      problem.diagnostic.PointsBack characters := by
  have fit := Program.fits_of_accepted accepted
  have span := Program.fits_of_mem_check fit member
  by_cases code : problem.code = .duplicateDefinition
  · obtain ⟨later, named, first, named', same, rfl⟩ := Program.repeated_of_mem_check member code
    have stands : ∀ name ∈ Identifier.names program.identifiers, name.StandsIn characters :=
      List.forall_mem_map.mpr fun identifier member =>
        ((Parser.nested_of_ok accepted).1.identifiers identifier member).2
    refine ⟨⟨span, List.forall_mem_singleton.mpr (fit.names first named')⟩, fun _ => ?_⟩
    refine ⟨first.span, rfl, String.ofList_injective ?_⟩
    exact (stands first named').trans (same.trans (stands later named).symm)
  · refine ⟨⟨span, fun label inside => ?_⟩, .of_code (mt Option.some.inj code)⟩
    rw [show problem.diagnostic.labels = [] from Problem.labels_eq_nil code] at inside
    cases inside

end Accepted

/-- Every stage reports what it finds at spans of the text. -/
theorem Stage.of_mem_reports {source : String} {stage : Stage}
    (member : report ∈ stage.reports source) :
    report.stage = stage ∧ report.LiesIn (LineIndex.ofString source) ∧
      report.PointsBack source.toList := by
  cases stage with
  | lexer =>
      obtain ⟨placed, inside, found⟩ := List.mem_filterMap.mp member
      refine ⟨(Lexed.stage_of_mem member).1, placed.liesIn_of_diagnostic? inside found, .of_code ?_⟩
      obtain ⟨_, ⟨_, code⟩ | ⟨_, code⟩⟩ := PlacedPiece.of_diagnostic? found <;> simp [code]
  | parser =>
      refine ⟨(Parsed.stage_of_mem member).1, ?_⟩
      cases outcome : Program.ofTokens (Lexed.ofString source).tokens with
      | ok program =>
          rw [Stage.reports, Parsed.ofTokens_of_ok outcome] at member
          cases member
      | error error =>
          rw [Stage.reports, Parsed.ofTokens_of_error outcome] at member
          cases List.mem_singleton.mp member
          refine ⟨Parser.SyntaxError.liesIn_of_failed outcome, .of_code ?_⟩
          obtain ⟨fault, _⟩ := error
          cases fault <;> exact nofun
  | semantic =>
      obtain ⟨program, parsed, member⟩ := List.mem_flatMap.mp member
      have accepted := Parser.ofTokens_of_parsed (Option.mem_toList.mp parsed)
      refine ⟨Program.stage_of_mem member, ?_⟩
      obtain ⟨problem, found, rfl⟩ := List.mem_map.mp member
      exact Problem.liesIn_of_accepted accepted found

end Stages

/-! ## The order of reports -/

namespace Diagnostic

variable {report : Diagnostic} {reports : List Diagnostic}

theorem pairwise_insertByStart
    (ascending : reports.Pairwise fun first later => first.span.start ≤ later.span.start) :
    (insertByStart report reports).Pairwise
      fun first later => first.span.start ≤ later.span.start := by
  induction reports with
  | nil => exact List.pairwise_singleton _ _
  | cons first rest ih =>
      obtain ⟨below, behind⟩ := List.pairwise_cons.mp ascending
      unfold insertByStart
      split
      next before =>
        refine .cons (List.forall_mem_cons.mpr ⟨before, fun later member => ?_⟩) ascending
        exact le_trans before (below later member)
      next before =>
        refine .cons (fun later member => ?_) (ih behind)
        rcases List.mem_cons.mp ((perm_insertByStart report rest).mem_iff.mp member) with
          rfl | member
        · exact le_of_lt (not_le.mp before)
        · exact below later member

theorem pairwise_sortByStart (reports : List Diagnostic) :
    (sortByStart reports).Pairwise fun first later => first.span.start ≤ later.span.start := by
  induction reports with
  | nil => exact .nil
  | cons first rest ih => exact pairwise_insertByStart ih

/-- A report is only put behind reports that start elsewhere. -/
theorem filter_insertByStart (place : Position) (report : Diagnostic) (reports : List Diagnostic) :
    ((insertByStart report reports).filter fun other => other.span.start == place) =
      (report :: reports).filter fun other => other.span.start == place := by
  induction reports with
  | nil => rfl
  | cons first rest ih =>
      unfold insertByStart
      split
      next => rfl
      next before =>
        rw [List.filter_cons, ih]
        by_cases here : report.span.start = place
        · have elsewhere : first.span.start ≠ place := by
            rintro rfl
            exact before (le_of_eq here)
          simp [here, elsewhere]
        · simp [List.filter_cons, here]

/-- Reports that start at the same place keep their order. -/
theorem filter_sortByStart (place : Position) (reports : List Diagnostic) :
    ((sortByStart reports).filter fun report => report.span.start == place) =
      reports.filter fun report => report.span.start == place := by
  induction reports with
  | nil => rfl
  | cons first rest ih =>
      rw [sortByStart, List.foldr_cons]
      refine (filter_insertByStart place first (sortByStart rest)).trans ?_
      rw [List.filter_cons, ih, List.filter_cons]

end Diagnostic

/-! ## All reports on a text -/

/-- The reports lie in the text and stand in order. -/
structure Analysis.Orderly (source : String) (reports : List Diagnostic) : Prop where
  /-- The reports are those of the stages. -/
  perm : reports.Perm (Stage.all.flatMap (Stage.reports source))
  /-- Each report tells by which stage it was found. -/
  stage : ∀ stage : Stage, ∀ report ∈ stage.reports source, report.stage = stage
  /-- All reports and their labels point at spans of the text. -/
  lies : ∀ report ∈ reports, report.LiesIn (LineIndex.ofString source)
  /-- The reports ascend by where they start. -/
  ascending : reports.Pairwise fun first later => first.span.start ≤ later.span.start
  /-- Those that start together are in the order of the stages, and those of one stage in the order
  in which they were found. -/
  together : ∀ place : Position, (reports.filter fun report => report.span.start == place) =
    (Stage.all.flatMap (Stage.reports source)).filter fun report => report.span.start == place
  /-- The report that a name is declared again has its label. -/
  labelled : ∀ report ∈ reports, report.PointsBack source.toList

theorem Analysis.diagnostics_eq (source : String) :
    (ofString source).diagnostics =
      Diagnostic.sortByStart (Stage.all.flatMap (Stage.reports source)) := by
  have found : Stage.all.flatMap (Stage.reports source) = (Lexed.ofString source).diagnostics ++
      (Parsed.ofTokens (Lexed.ofString source).tokens).diagnostics ++
        (Parsed.ofTokens (Lexed.ofString source).tokens).program.toList.flatMap
          Program.diagnostics := by
    simp [Stage.all, Stage.reports, ofString]
  rw [found, ofString]
  cases (Parsed.ofTokens (Lexed.ofString source).tokens).program with
  | none => rfl
  | some program => rw [Option.toList_some, List.flatMap_singleton]

/-- The reports of every analysis lie in the text and stand in order. -/
theorem Analysis.orderly_ofString (source : String) :
    Orderly source (ofString source).diagnostics := by
  have sorted := diagnostics_eq source
  have perm : (ofString source).diagnostics.Perm (Stage.all.flatMap (Stage.reports source)) :=
    sorted ▸ Diagnostic.perm_sortByStart _
  have found : ∀ report ∈ (ofString source).diagnostics,
      report.LiesIn (LineIndex.ofString source) ∧ report.PointsBack source.toList := by
    intro report member
    obtain ⟨stage, _, member⟩ := List.mem_flatMap.mp (perm.mem_iff.mp member)
    exact (Stage.of_mem_reports member).2
  constructor
  · exact perm
  · exact fun stage report member => (Stage.of_mem_reports member).1
  · exact fun report member => (found report member).1
  · exact sorted ▸ Diagnostic.pairwise_sortByStart _
  · exact fun place => sorted ▸ Diagnostic.filter_sortByStart place _
  · exact fun report member => (found report member).2

end RapidLang
