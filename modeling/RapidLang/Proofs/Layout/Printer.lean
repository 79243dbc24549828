import RapidLang.Layout.Program
import RapidLang.Proofs.Token.Lexing

/-!
# The lexemes of printed steps

Under every setting the printer puts no more than blanks between the texts that it is told to
write. What steps describe therefore has the lexemes of these texts. `Lays` states this for steps
that begin and end at the beginning of a line.
-/

set_option autoImplicit false

namespace RapidLang

/-! ## Blanks -/

theorem start_of_isBlank {c : Char} (blank : isBlank c) : Shape.start c = .blank :=
  if_pos blank

theorem isFresh_of_isBlank {c : Char} (blank : isBlank c) : isFresh c := by
  simp only [isBlank, Bool.or_eq_true, beq_iff_eq] at blank
  rcases blank with ((rfl | rfl) | rfl) | rfl <;> decide

theorem Lexes.blanks {text : List Char} (blank : ∀ c ∈ text, isBlank c) :
    Lexes text [] ∧ isSealed text := by
  induction text with
  | nil => exact ⟨.nil, rfl⟩
  | cons c rest ih =>
      have here := blank c List.mem_cons_self
      have one : Lexes [c] [] ∧ isSealed [c] := by
        have cut : Piece.cut [c] = [⟨.blank, [c]⟩] := by
          rw [Piece.cut, Piece.cutFrom, start_of_isBlank here]
          rfl
        refine ⟨⟨?_, ?_⟩, ?_⟩
        · simp [cut, Shape.isTidy]
        · rw [cut]
          rfl
        · have point : c ≠ '.' := by
            rintro rfl
            exact absurd here (by decide)
          simp [isSealed, cut, Shape.isSealed, point]
      obtain ⟨more, complete⟩ := ih fun d member => blank d (List.mem_cons_of_mem c member)
      refine ⟨one.1.append more (.inl one.2), ?_⟩
      cases rest with
      | nil => exact one.2
      | cons d rest =>
          exact one.1.isSealed_append (.inl one.2) (List.cons_ne_nil _ _) complete

namespace Printer

variable {printer : Printer} {text : String} {lexemes more : List Lexeme}

theorem isBlank_of_mem_margin {config : LayoutConfig} {level : Nat} {c : Char}
    (member : c ∈ margin config level) : isBlank c := by
  obtain ⟨unit, repeated, member⟩ := List.mem_flatten.mp member
  rw [List.eq_of_mem_replicate repeated] at member
  unfold Indent.unit at member
  split at member
  · rw [List.eq_of_mem_replicate member]
    decide
  · rw [List.mem_singleton.mp member]
    decide

/-! ## The text so far -/

/-- The text that has been printed, with the line in progress. -/
def output (printer : Printer) : List Char :=
  printer.flush.written.reverse

theorem lineLevel_flush (printer : Printer) : printer.flush.lineLevel = none := by
  unfold flush
  split
  · assumption
  · rfl

theorem output_of_lineLevel (ended : printer.lineLevel = none) :
    printer.output = printer.written.reverse := by
  unfold output flush
  rw [ended]

theorem output_flush (printer : Printer) : printer.flush.output = printer.output :=
  output_of_lineLevel (lineLevel_flush printer)

theorem output_endLine (printer : Printer) : printer.endLine.output = printer.output ++ ['\n'] := by
  have ended : printer.endLine.lineLevel = none := lineLevel_flush printer
  rw [output_of_lineLevel ended]
  exact List.reverse_cons

theorem output_indent (printer : Printer) : printer.indent.output = printer.output := by
  unfold output indent flush
  cases printer.lineLevel <;> simp

theorem output_dedent (printer : Printer) : printer.dedent.output = printer.output := by
  unfold output dedent flush
  cases printer.lineLevel <;> simp

theorem output_blankLine (printer : Printer) :
    printer.blankLine.output = printer.output ∨
      printer.blankLine.output = printer.output ++ ['\n'] := by
  unfold blankLine
  dsimp only
  split
  · exact .inl printer.output_flush
  · exact .inl printer.output_flush
  · refine .inr ((output_of_lineLevel ?_).trans List.reverse_cons)
    exact printer.lineLevel_flush

/-- The lexemes of the text so far; nothing stands on a line that has not begun. -/
structure Prints (printer : Printer) (lexemes : List Lexeme) : Prop where
  lexes : Lexes printer.output lexemes
  line : printer.lineLevel = none → printer.line = []

namespace Prints

theorem output_write (prints : printer.Prints lexemes) (filled : text.toList ≠ []) :
    ∃ blanks, (∀ c ∈ blanks, isBlank c) ∧
      (printer.write text).output = printer.output ++ blanks ++ text.toList := by
  have nonempty : text.isEmpty = false := by
    rw [← Bool.not_eq_true, String.isEmpty_iff]
    rintro rfl
    exact filled rfl
  unfold write output flush
  rw [nonempty]
  cases started : printer.lineLevel with
  | none =>
      refine ⟨(margin printer.config printer.level).reverse, fun c member =>
        isBlank_of_mem_margin (List.mem_reverse.mp member), ?_⟩
      simp [prints.line started]
  | some level =>
      refine ⟨[], fun c member => absurd member List.not_mem_nil, ?_⟩
      simp

theorem write (prints : printer.Prints lexemes) (lexes : Lexes text.toList more)
    (apart : isSealed printer.output ∨ startsFresh text.toList) :
    (printer.write text).Prints (lexemes ++ more) ∧
      (text.toList ≠ [] → isSealed text.toList → isSealed (printer.write text).output) := by
  by_cases filled : text.toList = []
  · have empty : text = "" := String.toList_inj.mp filled
    subst empty
    have none : more = [] := lexes.2.symm
    rw [none, List.append_nil]
    exact ⟨prints, fun filled => absurd rfl filled⟩
  · obtain ⟨blanks, blank, written⟩ := prints.output_write filled
    obtain ⟨silent, complete⟩ := Lexes.blanks blank
    have before : Lexes (printer.output ++ blanks) lexemes := by
      have fresh : startsFresh blanks := by
        cases blanks with
        | nil => rfl
        | cons c rest => exact isFresh_of_isBlank (blank c List.mem_cons_self)
      simpa using prints.lexes.append silent (.inr fresh)
    have apart' : isSealed (printer.output ++ blanks) ∨ startsFresh text.toList := by
      cases blanks with
      | nil => simpa using apart
      | cons c rest =>
          refine .inl (prints.lexes.isSealed_append (.inr ?_) (List.cons_ne_nil _ _) complete)
          exact isFresh_of_isBlank (blank c List.mem_cons_self)
    refine ⟨⟨?_, ?_⟩, fun filled complete' => ?_⟩
    · rw [written]
      exact before.append lexes apart'
    · unfold Printer.write
      split
      · exact prints.line
      · exact fun none => absurd none (by simp)
    · rw [written]
      exact before.isSealed_append apart' filled complete'

theorem flush (prints : printer.Prints lexemes) : printer.flush.line = [] := by
  unfold Printer.flush
  split
  · next none => exact prints.line none
  · rfl

theorem endLine (prints : printer.Prints lexemes) :
    printer.endLine.Prints lexemes ∧ isSealed printer.endLine.output := by
  rw [output_endLine]
  refine ⟨⟨?_, fun _ => prints.flush⟩, isSealed_newline _⟩
  rw [output_endLine]
  exact Lexes.append_newline.mpr prints.lexes

theorem indent (prints : printer.Prints lexemes) : printer.indent.Prints lexemes :=
  ⟨by rw [output_indent]; exact prints.lexes, prints.line⟩

theorem dedent (prints : printer.Prints lexemes) : printer.dedent.Prints lexemes :=
  ⟨by rw [output_dedent]; exact prints.lexes, prints.line⟩

theorem blankLine (prints : printer.Prints lexemes) (complete : isSealed printer.output) :
    printer.blankLine.Prints lexemes ∧ isSealed printer.blankLine.output := by
  have line : printer.blankLine.lineLevel = none → printer.blankLine.line = [] := by
    unfold Printer.blankLine
    dsimp only
    split <;> exact fun _ => prints.flush
  rcases output_blankLine printer with same | longer
  · exact ⟨⟨same ▸ prints.lexes, line⟩, same ▸ complete⟩
  · rw [longer]
    refine ⟨⟨?_, line⟩, isSealed_newline _⟩
    rw [longer]
    exact Lexes.append_newline.mpr prints.lexes

end Prints

end Printer

/-! ## Steps -/

/-- Wherever the steps begin on a new line, they print texts that have the lexemes, and end behind
a complete one. -/
def Lays (steps : List LayoutStep) (lexemes : List Lexeme) : Prop :=
  ∀ (printer : Printer) (before : List Lexeme), printer.Prints before → isSealed printer.output →
    (steps.foldl Printer.step printer).Prints (before ++ lexemes) ∧
      isSealed (steps.foldl Printer.step printer).output

/-- Several items with a comma between any two neighbours have the lexemes. -/
inductive ListLexes : List String → List Lexeme → Prop where
  | one {text : String} {lexemes : List Lexeme} (lexes : Lexes text.toList lexemes)
      (filled : text.toList ≠ []) : ListLexes [text] lexemes
  | more {text : String} {texts : List String} {lexemes rest : List Lexeme}
      (lexes : Lexes text.toList lexemes) (filled : text.toList ≠ [])
      (behind : ListLexes texts rest) :
      ListLexes (text :: texts) (lexemes ++ ⟨.comma, ","⟩ :: rest)

namespace ListLexes

variable {texts : List String} {lexemes : List Lexeme}

theorem snoc {text : String} {rest : List Lexeme} (list : ListLexes texts lexemes)
    (lexes : Lexes text.toList rest) (filled : text.toList ≠ []) :
    ListLexes (texts ++ [text]) (lexemes ++ ⟨.comma, ","⟩ :: rest) := by
  induction list with
  | one lexes' filled' => exact .more lexes' filled' (.one lexes filled)
  | more lexes' filled' _ ih =>
      rw [List.append_assoc]
      exact .more lexes' filled' ih

theorem joined (list : ListLexes texts lexemes) :
    Lexes (", ".intercalate texts).toList lexemes := by
  induction list with
  | one lexes filled => simpa using lexes
  | @more text texts lexemes rest lexes filled behind ih =>
      have some : texts ≠ [] := by
        cases behind <;> exact List.cons_ne_nil _ _
      have comma : Lexes ", ".toList [⟨.comma, ","⟩] := by
        decide
      rw [String.intercalate_cons_of_ne_nil some, String.toList_append, String.toList_append]
      simpa using (lexes.append comma (.inr rfl)).append ih
        (.inl (lexes.isSealed_append (.inr rfl) (by decide) (by decide)))

end ListLexes

namespace Printer.Prints

variable {printer : Printer} {texts : List String} {before lexemes : List Lexeme}

theorem writeBroken (prints : printer.Prints before) (complete : isSealed printer.output)
    (list : ListLexes texts lexemes) :
    (printer.writeBroken texts).Prints (before ++ lexemes) := by
  induction list generalizing printer before with
  | one lexes filled => exact (prints.write lexes (.inl complete)).1
  | @more text texts lexemes rest lexes filled behind ih =>
      have some : texts ≠ [] := by
        cases behind <;> exact List.cons_ne_nil _ _
      have comma : Lexes ",".toList [⟨.comma, ","⟩] := by
        decide
      obtain ⟨ended, complete'⟩ :=
        ((prints.write lexes (.inl complete)).1.write comma (.inr rfl)).1.endLine
      rw [Printer.writeBroken.eq_3 _ _ _ some]
      simpa using ih ended complete'

theorem writeList (prints : printer.Prints before) (complete : isSealed printer.output)
    (list : ListLexes texts lexemes) :
    (printer.writeList texts).Prints (before ++ lexemes) := by
  unfold Printer.writeList
  dsimp only
  split
  · exact (prints.write list.joined (.inl complete)).1
  · refine (prints.indent.writeBroken ?_ list).dedent
    rw [output_indent]
    exact complete

end Printer.Prints

namespace Lays

variable {steps more : List LayoutStep} {text : String} {texts : List String}
  {lexemes rest : List Lexeme}

theorem nil : Lays [] [] := by
  intro printer before prints complete
  rw [List.append_nil]
  exact ⟨prints, complete⟩

theorem append (lays : Lays steps lexemes) (behind : Lays more rest) :
    Lays (steps ++ more) (lexemes ++ rest) := by
  intro printer before prints complete
  obtain ⟨prints, complete⟩ := lays printer before prints complete
  rw [List.foldl_append, ← List.append_assoc]
  exact behind _ _ prints complete

theorem line (lexes : Lexes text.toList lexemes) : Lays (LayoutStep.line text) lexemes := by
  intro printer before prints complete
  exact (prints.write lexes (.inl complete)).1.endLine

theorem indented (lays : Lays steps lexemes) : Lays (LayoutStep.indented steps) lexemes := by
  intro printer before prints complete
  rw [← Printer.output_indent] at complete
  obtain ⟨prints, complete⟩ := lays _ _ prints.indent complete
  rw [LayoutStep.indented, List.cons_append, List.foldl_cons, List.foldl_append]
  refine ⟨prints.dedent, ?_⟩
  rw [← Printer.output_dedent] at complete
  exact complete

/-- An indented part between two lines. -/
theorem bracketed {close : String} {last : List Lexeme} (lays : Lays steps rest)
    (opening : Lexes text.toList lexemes) (closing : Lexes close.toList last) :
    Lays (LayoutStep.line text ++ LayoutStep.indented steps ++ LayoutStep.line close)
      (lexemes ++ rest ++ last) :=
  ((line opening).append lays.indented).append (line closing)

theorem blankLine : Lays [.blankLine] [] := by
  intro printer before prints complete
  rw [List.append_nil]
  exact prints.blankLine complete

theorem itemGap : Lays [.itemGap] [] := by
  intro printer before prints complete
  rw [List.append_nil, List.foldl_cons, List.foldl_nil, Printer.step]
  split
  · exact prints.blankLine complete
  · exact ⟨prints, complete⟩

/-- A list behind an opening, with a semicolon at its end. -/
theorem listed (lexes : Lexes text.toList lexemes) (filled : text.toList ≠ [])
    (complete : isSealed text.toList) (list : ListLexes texts rest) :
    Lays [.write text, .list texts, .write ";", .endLine]
      (lexemes ++ rest ++ [⟨.semicolon, ";"⟩]) := by
  intro printer before prints sealed
  have semicolon : Lexes ";".toList [⟨.semicolon, ";"⟩] := by
    decide
  obtain ⟨opened, sealed'⟩ := prints.write lexes (.inl sealed)
  have written := opened.writeList (sealed' filled complete) list
  have ended := (written.write semicolon (.inr rfl)).1.endLine
  rw [List.append_assoc before, List.append_assoc before] at ended
  exact ended

end Lays

/-- What a tree is laid out as is read back as a tree that is laid out alike; under the condition
`exact` it is the same one. -/
structure ReadsBack {α : Type} (exact : Prop) (layout : α → List LayoutStep)
    (phrase : List Lexeme → α → Prop) (tree read : α) : Prop where
  alike : layout read = layout tree
  same : exact → read = tree
  lines : ∃ lexemes, Lays (layout tree) lexemes ∧ phrase lexemes read

/-- Two trees, one laid out behind the other. -/
theorem ReadsBack.append {α β γ : Type} {exact : Prop} {layout : α → List LayoutStep}
    {layout' : β → List LayoutStep} {whole : γ → List LayoutStep}
    {phrase : List Lexeme → α → Prop} {phrase' : List Lexeme → β → Prop}
    {joint : List Lexeme → γ → Prop} {tree read : α} {tree' read' : β}
    (front : ReadsBack exact layout phrase tree read)
    (behind : ReadsBack exact layout' phrase' tree' read') (join : α → β → γ)
    (split : whole (join tree tree') = layout tree ++ layout' tree')
    (split' : whole (join read read') = layout read ++ layout' read')
    (joined : ∀ lexemes rest, phrase lexemes read → phrase' rest read' →
      joint (lexemes ++ rest) (join read read')) :
    ReadsBack exact whole joint (join tree tree') (join read read') := by
  obtain ⟨lexemes, lays, holds⟩ := front.lines
  obtain ⟨rest, lays', holds'⟩ := behind.lines
  refine ⟨?_, fun exactly => ?_, lexemes ++ rest, ?_, joined _ _ holds holds'⟩
  · rw [split, split', front.alike, behind.alike]
  · rw [front.same exactly, behind.same exactly]
  · rw [split]
    exact lays.append lays'

/-! ## The whole text -/

theorem Lexes.dropLast_newline {text : List Char} {lexemes : List Lexeme} :
    Lexes ((text.dropWhile (· == '\n')).reverse) lexemes ↔ Lexes text.reverse lexemes := by
  induction text with
  | nil => exact Iff.rfl
  | cons c rest ih =>
      rw [List.dropWhile_cons]
      split
      · next newline =>
          rw [beq_iff_eq.mp newline, List.reverse_cons, Lexes.append_newline]
          exact ih
      · exact Iff.rfl

/-- Under every setting the text that steps describe has their lexemes. -/
theorem Lays.print {steps : List LayoutStep} {lexemes : List Lexeme} (lays : Lays steps lexemes)
    (config : LayoutConfig) : Lexes (Printer.print config steps).toList lexemes := by
  have blank : ({ config } : Printer).Prints [] := ⟨Lexes.nil, fun _ => rfl⟩
  have lexes := (lays _ _ blank rfl).1.lexes
  rw [Printer.output, List.nil_append, ← Lexes.dropLast_newline] at lexes
  unfold Printer.print Printer.finish
  dsimp only
  rw [String.toList_ofList]
  split
  · rw [List.reverse_cons, Lexes.append_newline]
    exact lexes
  · exact lexes

end RapidLang
