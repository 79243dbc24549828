import RapidLang.Proofs.Layout.Printer

/-!
# The lines of printed texts

Steps are neat if what they write on a line neither begins nor ends with white space and holds no
line feed, and if they close the levels that they open. The printer then keeps lines of this kind:
behind the margin of a line stands something visible, and no more than one blank line follows it.
The text that neat steps describe is made of such lines.
-/

set_option autoImplicit false

namespace RapidLang

/-! ## White space -/

/-- The characters of Unicode that are white space. -/
def whiteSpace : List Char :=
  ['\t', '\n', '\x0b', '\x0c', '\r', ' ', '\u0085', '\u00a0', '\u1680', '\u2000', '\u2001',
    '\u2002', '\u2003', '\u2004', '\u2005', '\u2006', '\u2007', '\u2008', '\u2009', '\u200a',
    '\u2028', '\u2029', '\u202f', '\u205f', '\u3000']

/-- Is the character white space? -/
def isWhite (c : Char) : Bool :=
  whiteSpace.contains c

/-- Does the text begin with a visible character? -/
def beginsInked (text : List Char) : Bool :=
  text.head?.any (!isWhite ·)

/-- Does the text end with a visible character? -/
def endsInked (text : List Char) : Bool :=
  text.getLast?.any (!isWhite ·)

/-- The text may begin a line. -/
def Opens (text : List Char) : Prop :=
  beginsInked text ∧ '\n' ∉ text

/-- The text may end a line. -/
def Closes (text : List Char) : Prop :=
  endsInked text ∧ '\n' ∉ text

/-- The text may be all that stands on a line. -/
def Inline (text : List Char) : Prop :=
  Opens text ∧ Closes text

instance (text : List Char) : Decidable (Opens text) :=
  inferInstanceAs (Decidable (_ ∧ _))

instance (text : List Char) : Decidable (Closes text) :=
  inferInstanceAs (Decidable (_ ∧ _))

instance (text : List Char) : Decidable (Inline text) :=
  inferInstanceAs (Decidable (_ ∧ _))

section Texts

variable {front rest : List Char}

theorem Opens.ne_nil (opens : Opens front) : front ≠ [] := by
  rintro rfl
  cases opens.1

theorem Opens.append (opens : Opens front) (within : '\n' ∉ rest) : Opens (front ++ rest) := by
  obtain ⟨begins, within'⟩ := opens
  refine ⟨?_, by simp [within, within']⟩
  cases front with
  | nil => cases begins
  | cons c front => exact begins

theorem Closes.prepend (closes : Closes rest) (within : '\n' ∉ front) : Closes (front ++ rest) := by
  obtain ⟨ends, within'⟩ := closes
  refine ⟨?_, by simp [within, within']⟩
  cases rest using List.reverseRecOn with
  | nil => cases ends
  | append_singleton rest c =>
      rw [endsInked, ← List.append_assoc, List.getLast?_concat]
      rwa [endsInked, List.getLast?_concat] at ends

theorem Opens.close (opens : Opens front) (closes : Closes rest) : Inline (front ++ rest) :=
  ⟨opens.append closes.2, closes.prepend opens.2⟩

/-- A text without white space may be all that stands on a line. -/
theorem Inline.of_inked {text : List Char} (filled : text ≠ [])
    (inked : ∀ c ∈ text, isWhite c = false) : Inline text := by
  have within : '\n' ∉ text := fun member => absurd (inked _ member) (by decide)
  refine ⟨⟨?_, within⟩, ?_, within⟩
  · obtain ⟨c, rest, rfl⟩ := List.exists_cons_of_ne_nil filled
    simpa [beginsInked] using inked c List.mem_cons_self
  · obtain ⟨rest, c, rfl⟩ := (List.eq_nil_or_concat text).resolve_left filled
    simpa [endsInked] using inked c (by simp)

end Texts

/-- Texts that may stand on a line hold no line feed when they are joined. -/
theorem newline_not_mem_joined {texts : List String} (within : ∀ text ∈ texts, '\n' ∉ text.toList) :
    '\n' ∉ (", ".intercalate texts).toList := by
  induction texts with
  | nil => decide
  | cons text texts ih =>
      obtain ⟨here, behind⟩ := List.forall_mem_cons.mp within
      cases texts with
      | nil => simpa using here
      | cons next texts =>
          rw [String.intercalate_cons_of_ne_nil (List.cons_ne_nil _ _), String.toList_append,
            String.toList_append, List.mem_append, List.mem_append]
          rintro ((first | comma) | later)
          · exact here first
          · exact absurd comma (by decide)
          · exact ih behind later

/-! ## Neat steps -/

/-- The steps write only what may stand on a line, and close the levels that they open. -/
inductive Neat : List LayoutStep → Prop where
  | nil : Neat []
  | line {text : String} (inline : Inline text.toList) : Neat (LayoutStep.line text)
  | listed {text : String} {items : List String} (opens : Opens text.toList)
      (inline : ∀ item ∈ items, Inline item.toList) :
      Neat [.write text, .list items, .write ";", .endLine]
  | append {front rest : List LayoutStep} : Neat front → Neat rest → Neat (front ++ rest)
  | indented {steps : List LayoutStep} : Neat steps → Neat (LayoutStep.indented steps)
  | blankLine : Neat [.blankLine]
  | itemGap : Neat [.itemGap]

namespace Printer

variable {printer : Printer} {config : LayoutConfig}

/-! ## Levels -/

/-- The level that is closed in the course of a step. Behind a list it is the one that is opened
where the list is broken. -/
def closed? (printer : Printer) : LayoutStep → Option Nat
  | .dedent => some printer.level
  | .list items => some (printer.indent.writeBroken items).level
  | _ => none

/-- No level is closed where none is open. -/
def ClosesOpened (printer : Printer) : List LayoutStep → Prop
  | [] => True
  | step :: rest =>
    (∀ level ∈ printer.closed? step, 0 < level) ∧ ClosesOpened (printer.step step) rest

@[simp] theorem level_write (printer : Printer) (text : String) :
    (printer.write text).level = printer.level := by
  unfold write
  split <;> rfl

@[simp] theorem level_flush (printer : Printer) : printer.flush.level = printer.level := by
  unfold flush
  split <;> rfl

@[simp] theorem level_endLine (printer : Printer) : printer.endLine.level = printer.level :=
  level_flush printer

@[simp] theorem level_blankLine (printer : Printer) : printer.blankLine.level = printer.level := by
  unfold blankLine
  dsimp only
  split <;> exact level_flush printer

@[simp] theorem level_writeBroken (printer : Printer) (items : List String) :
    (printer.writeBroken items).level = printer.level := by
  fun_induction writeBroken printer items with
  | case1 => rfl
  | case2 printer last => exact level_write printer last
  | case3 printer first rest _ ih => simpa using ih

@[simp] theorem level_writeList (printer : Printer) (items : List String) :
    (printer.writeList items).level = printer.level := by
  unfold writeList
  dsimp only
  split
  · exact level_write printer _
  · simp [dedent, indent]

theorem closesOpened_append (printer : Printer) (front rest : List LayoutStep) :
    printer.ClosesOpened (front ++ rest) ↔
      printer.ClosesOpened front ∧ (front.foldl step printer).ClosesOpened rest := by
  induction front generalizing printer with
  | nil => simp [ClosesOpened]
  | cons first front ih => simp [ClosesOpened, ih, and_assoc]

end Printer

/-- Behind neat steps the level is the one before them, and they close none but their own. -/
theorem Neat.balanced {steps : List LayoutStep} (neat : Neat steps) (printer : Printer) :
    (steps.foldl Printer.step printer).level = printer.level ∧ printer.ClosesOpened steps := by
  induction neat generalizing printer with
  | nil => exact ⟨rfl, trivial⟩
  | line =>
      exact ⟨by simp [LayoutStep.line, Printer.step],
        by simp [LayoutStep.line, Printer.ClosesOpened, Printer.closed?]⟩
  | listed =>
      exact ⟨by simp [Printer.step],
        by simp [Printer.ClosesOpened, Printer.closed?, Printer.indent]⟩
  | append _ _ frontIH restIH =>
      obtain ⟨front, opened⟩ := frontIH printer
      obtain ⟨rest, opened'⟩ := restIH (List.foldl Printer.step printer _)
      rw [List.foldl_append, Printer.closesOpened_append]
      exact ⟨rest.trans front, opened, opened'⟩
  | @indented steps _ ih =>
      obtain ⟨inner, opened⟩ := ih printer.indent
      have open' : 0 < (steps.foldl Printer.step printer.indent).level := by
        rw [inner]
        exact Nat.succ_pos printer.level
      rw [LayoutStep.indented, List.cons_append, List.foldl_cons, List.foldl_append]
      constructor
      · exact congrArg (· - 1) inner
      · constructor
        · intro level none
          cases none
        · apply (Printer.closesOpened_append _ steps [.dedent]).mpr
          exact ⟨opened, fun level closed => Option.some.inj closed ▸ open', trivial⟩
  | blankLine =>
      exact ⟨Printer.level_blankLine printer, by simp [Printer.ClosesOpened, Printer.closed?]⟩
  | itemGap =>
      constructor
      · rw [List.foldl_cons, List.foldl_nil, Printer.step]
        split
        · exact printer.level_blankLine
        · rfl
      · simp [Printer.ClosesOpened, Printer.closed?]

/-! ## Finished lines -/

/-- A finished line. -/
structure FinishedLine where
  level : Nat
  /-- What stands behind the margin. -/
  words : List Char
  /-- Does a blank line follow? -/
  spaced : Bool

namespace FinishedLine

/-- The line as it is printed, without the line feed behind it. -/
def text (config : LayoutConfig) (line : FinishedLine) : List Char :=
  Printer.margin config line.level ++ line.words

/-- The characters of the line, with the line feeds behind it. -/
def chars (config : LayoutConfig) (line : FinishedLine) : List Char :=
  line.text config ++ '\n' :: if line.spaced then ['\n'] else []

end FinishedLine

/-- The printer has finished the lines, and the line in progress holds the words. -/
structure Printer.Holds (config : LayoutConfig) (printer : Printer) (lines : List FinishedLine)
    (words : List Char) : Prop where
  settings : printer.config = config
  written : printer.written.reverse = lines.flatMap (FinishedLine.chars config)
  line : printer.line.reverse = words
  begun : printer.lineLevel = none ↔ words = []
  inline : ∀ line ∈ lines, Inline line.words

namespace Printer.Holds

variable {config : LayoutConfig} {printer : Printer} {lines : List FinishedLine}
  {words : List Char} {items : List String}

theorem write (holds : printer.Holds config lines words) (text : String) :
    (printer.write text).Holds config lines (words ++ text.toList) := by
  obtain ⟨rfl, written, line, begun, inline⟩ := holds
  unfold Printer.write
  split
  next empty =>
    obtain rfl := String.isEmpty_iff.mp empty
    exact ⟨rfl, written, by simpa using line, by simpa using begun, inline⟩
  next filled =>
    rw [String.isEmpty_iff, ← String.toList_eq_nil_iff] at filled
    exact ⟨rfl, written, by simp [line], by simp [filled], inline⟩

/-- A line that holds something is finished. -/
theorem endLine (holds : printer.Holds config lines words) (filled : Inline words) :
    ∃ level, printer.endLine.Holds config (lines ++ [⟨level, words, false⟩]) [] := by
  obtain ⟨rfl, written, line, begun, inline⟩ := holds
  unfold Printer.endLine Printer.flush
  cases started : printer.lineLevel with
  | none => exact absurd (begun.mp started) filled.1.ne_nil
  | some level =>
      have margins : (margin printer.config level).reverse = margin printer.config level := by
        unfold margin Indent.unit
        split <;> simp
      exists level
      constructor
      · rfl
      · simp [written, line, margins, FinishedLine.chars, FinishedLine.text]
      · rfl
      · simp
      · exact List.forall_mem_append.mpr ⟨inline, List.forall_mem_singleton.mpr filled⟩

theorem flush_eq (holds : printer.Holds config lines []) : printer.flush = printer := by
  unfold flush
  rw [holds.begun.mpr rfl]

/-- A blank line becomes part of the line before it. -/
theorem blankLine (holds : printer.Holds config lines []) :
    ∃ lines', printer.blankLine.Holds config lines' [] ∧ lines'.length = lines.length := by
  have ended := holds.flush_eq
  obtain ⟨rfl, written, line, begun, inline⟩ := holds
  unfold Printer.blankLine
  dsimp only
  rw [ended]
  split
  · exact ⟨lines, ⟨rfl, written, line, begun, inline⟩, rfl⟩
  · exact ⟨lines, ⟨rfl, written, line, begun, inline⟩, rfl⟩
  next filled single =>
    cases lines using List.reverseRecOn with
    | nil => exact absurd (List.reverse_eq_nil_iff.mp written) filled
    | append_singleton front last =>
        obtain ⟨level, words, spaced⟩ := last
        rw [List.reverse_eq_iff] at written
        cases spaced with
        | true =>
            simp [written, FinishedLine.chars] at single
        | false =>
            obtain ⟨before, here⟩ := List.forall_mem_append.mp inline
            exists front ++ [⟨level, words, true⟩]
            constructor
            · constructor
              · rfl
              · simp [written, FinishedLine.chars, FinishedLine.text]
              · exact line
              · exact begun
              · exact List.forall_mem_append.mpr ⟨before, by simpa using here⟩
            · simp

theorem indent (holds : printer.Holds config lines words) : printer.indent.Holds config lines words :=
  ⟨holds.settings, holds.written, holds.line, holds.begun, holds.inline⟩

theorem dedent (holds : printer.Holds config lines words) : printer.dedent.Holds config lines words :=
  ⟨holds.settings, holds.written, holds.line, holds.begun, holds.inline⟩

/-- Where a list is broken, each item but the last ends a line. -/
theorem writeBroken (holds : printer.Holds config lines words)
    (begins : Opens words ∨ words = [] ∧ items ≠ [])
    (inline : ∀ item ∈ items, Inline item.toList) :
    ∃ lines' words', (printer.writeBroken items).Holds config lines' words' ∧ Opens words' ∧
      lines.length ≤ lines'.length := by
  induction items generalizing printer lines words with
  | nil =>
      cases begins with
      | inl opens => exact ⟨lines, words, holds, opens, Nat.le_refl _⟩
      | inr empty => exact absurd rfl empty.2
  | cons first rest ih =>
      obtain ⟨here, behind⟩ := List.forall_mem_cons.mp inline
      have opens : Opens (words ++ first.toList) := by
        cases begins with
        | inl opens => exact opens.append here.2.2
        | inr empty =>
            rw [empty.1]
            exact here.1
      cases rest with
      | nil => exact ⟨lines, _, holds.write first, opens, Nat.le_refl _⟩
      | cons next rest =>
          have comma : Closes ",".toList := by decide
          obtain ⟨level, ended⟩ := ((holds.write first).write ",").endLine (opens.close comma)
          obtain ⟨lines', words', holds', opens', longer⟩ :=
            ih ended (.inr ⟨rfl, List.cons_ne_nil _ _⟩) behind
          rw [List.length_append] at longer
          exact ⟨lines', words', holds', opens', by omega⟩

theorem writeList (holds : printer.Holds config lines words) (opens : Opens words)
    (inline : ∀ item ∈ items, Inline item.toList) :
    ∃ lines' words', (printer.writeList items).Holds config lines' words' ∧ Opens words' ∧
      lines.length ≤ lines'.length := by
  unfold Printer.writeList
  dsimp only
  split
  · have within := newline_not_mem_joined fun item member => (inline item member).1.2
    exact ⟨lines, _, holds.write _, opens.append within, Nat.le_refl _⟩
  · obtain ⟨lines', words', holds', rest⟩ := holds.indent.writeBroken (.inl opens) inline
    exact ⟨lines', words', holds'.dedent, rest⟩

end Printer.Holds

/-- Neat steps that begin on a new line finish whole lines, at least one for each that they end. -/
theorem Neat.holds {steps : List LayoutStep} (neat : Neat steps) {config : LayoutConfig}
    {printer : Printer} {lines : List FinishedLine} (holds : printer.Holds config lines []) :
    ∃ lines', (steps.foldl Printer.step printer).Holds config lines' [] ∧
      lines.length + steps.count .endLine ≤ lines'.length := by
  induction neat generalizing printer lines with
  | nil => exact ⟨lines, holds, Nat.le_refl _⟩
  | @line text inline =>
      obtain ⟨level, ended⟩ := (holds.write text).endLine inline
      exact ⟨_, ended, by simp [LayoutStep.line]⟩
  | @listed text items opens inline =>
      have semicolon : Closes ";".toList := by decide
      obtain ⟨lines', words', listed, opens', longer⟩ := (holds.write text).writeList opens inline
      obtain ⟨level, ended⟩ := (listed.write ";").endLine (opens'.close semicolon)
      exact ⟨_, ended, by simpa using longer⟩
  | append _ _ frontIH restIH =>
      obtain ⟨lines', holds', longer⟩ := frontIH holds
      obtain ⟨lines'', holds'', longer'⟩ := restIH holds'
      rw [List.foldl_append, List.count_append]
      exact ⟨lines'', holds'', by omega⟩
  | @indented steps _ ih =>
      obtain ⟨lines', holds', longer⟩ := ih holds.indent
      rw [LayoutStep.indented, List.cons_append, List.foldl_cons, List.foldl_append]
      exact ⟨lines', holds'.dedent, by simpa using longer⟩
  | blankLine =>
      obtain ⟨lines', holds', same⟩ := holds.blankLine
      exact ⟨lines', holds', by simp [same]⟩
  | itemGap =>
      rw [List.foldl_cons, List.foldl_nil, Printer.step]
      split
      · obtain ⟨lines', holds', same⟩ := holds.blankLine
        exact ⟨lines', holds', by simp [same]⟩
      · exact ⟨lines, holds, Nat.le_refl _⟩

/-! ## Texts made of finished lines -/

theorem Closes.exists_concat {text : List Char} (closes : Closes text) :
    ∃ front last, text = front ++ [last] ∧ isWhite last = false := by
  cases text using List.reverseRecOn with
  | nil => cases closes.1
  | append_singleton front last => exact ⟨front, last, rfl, by simpa [endsInked] using closes.1⟩

theorem Closes.getLast?_ne {text : List Char} (closes : Closes text) {c : Char}
    (white : isWhite c) : text.getLast? ≠ some c := by
  intro last
  simpa [endsInked, last, white] using closes.1

theorem Printer.mem_margin {config : LayoutConfig} {level : Nat} {c : Char}
    (member : c ∈ margin config level) : c = ' ' ∨ c = '\t' := by
  unfold margin Indent.unit at member
  obtain ⟨unit, repeated, member⟩ := List.mem_flatten.mp member
  rw [List.eq_of_mem_replicate repeated] at member
  cases found : config.indent with
  | spaces count =>
      rw [found] at member
      exact .inl (List.eq_of_mem_replicate member)
  | tab =>
      rw [found] at member
      exact .inr (List.mem_singleton.mp member)

namespace FinishedLine

variable {config : LayoutConfig} {line : FinishedLine} {lines : List FinishedLine}

theorem closes_text (config : LayoutConfig) (inline : Inline line.words) : Closes (line.text config) := by
  apply inline.2.prepend
  intro member
  cases Printer.mem_margin member <;> contradiction

theorem takeWhile_text (inline : Inline line.words) :
    (line.text config).takeWhile isWhite = Printer.margin config line.level := by
  have white : ∀ c ∈ Printer.margin config line.level, isWhite c := by
    intro c member
    cases Printer.mem_margin member with
    | inl space => exact space ▸ rfl
    | inr tab => exact tab ▸ rfl
  obtain ⟨c, rest, words⟩ := List.exists_cons_of_ne_nil inline.1.ne_nil
  have inked : isWhite c = false := by
    simpa [beginsInked, words] using inline.1.1
  rw [text, List.takeWhile_append_of_pos white, words, List.takeWhile_cons, inked]
  simp

theorem head?_flatMap_chars (config : LayoutConfig)
    (inline : ∀ line ∈ lines, Inline line.words) :
    (lines.flatMap (chars config)).head? ≠ some '\n' := by
  cases lines with
  | nil => simp
  | cons first rest =>
      have closes := closes_text config (inline first List.mem_cons_self)
      cases starts : first.text config with
      | nil => simp [Closes, starts, endsInked] at closes
      | cons c text =>
          rw [starts] at closes
          simp only [List.flatMap_cons, chars, starts, List.cons_append, List.head?_cons]
          rintro ⟨⟩
          exact closes.2 List.mem_cons_self

theorem splitOn_flatMap_chars (inline : ∀ line ∈ lines, Inline line.words) (rest : List Char) :
    (lines.flatMap (chars config) ++ rest).splitOn '\n' =
      lines.flatMap (fun line => line.text config :: if line.spaced then [[]] else []) ++
        rest.splitOn '\n' := by
  induction lines with
  | nil => rfl
  | cons first lines ih =>
      obtain ⟨here, behind⟩ := List.forall_mem_cons.mp inline
      have within := (closes_text config here).2
      rw [List.flatMap_cons, List.flatMap_cons, chars, List.append_assoc, List.append_assoc,
        List.cons_append, List.splitOn_append_cons_self_of_not_mem within]
      cases first.spaced with
      | false => simp [ih behind]
      | true =>
          have blank := List.splitOn_append_cons_self_of_not_mem (List.not_mem_nil (a := '\n'))
          simp only [if_true, List.cons_append, List.nil_append] at blank ⊢
          rw [blank, ih behind]

end FinishedLine

/-- Three line feeds in a row. -/
def wideGap : List Char :=
  ['\n', '\n', '\n']

theorem wideGap_infix_append {front rest : List Char} (within : '\n' ∉ front)
    (gap : wideGap <:+: front ++ rest) : wideGap <:+: rest := by
  induction front with
  | nil => exact gap
  | cons c front ih =>
      rw [List.mem_cons, not_or] at within
      cases List.infix_cons_iff.mp gap with
      | inl here => exact absurd (List.cons_prefix_cons.mp here).1 within.1
      | inr later => exact ih within.2 later

/-- Before a visible line stands at most one blank one. -/
theorem not_wideGap_infix {rest : List Char} (next : rest.head? ≠ some '\n')
    (narrow : ¬ wideGap <:+: rest) (spaced : Bool) :
    ¬ wideGap <:+: ('\n' :: if spaced then ['\n'] else []) ++ rest := by
  cases rest with
  | nil => cases spaced <;> decide
  | cons c rest =>
      have other : '\n' ≠ c := fun same => next (same ▸ rfl)
      cases spaced <;> simpa [wideGap, List.infix_cons_iff, other] using narrow

theorem FinishedLine.not_wideGap_infix_flatMap {config : LayoutConfig} {lines : List FinishedLine}
    (inline : ∀ line ∈ lines, Inline line.words) :
    ¬ wideGap <:+: lines.flatMap (chars config) := by
  induction lines with
  | nil => simp [wideGap]
  | cons first lines ih =>
      obtain ⟨here, behind⟩ := List.forall_mem_cons.mp inline
      intro gap
      rw [List.flatMap_cons, chars, List.append_assoc] at gap
      exact not_wideGap_infix (head?_flatMap_chars config behind) (ih behind) first.spaced
        (wideGap_infix_append (closes_text config here).2 gap)

/-- What makes the layout of a text clean. -/
structure CleanLayout (config : LayoutConfig) (text : String) : Prop where
  filled : text ≠ ""
  start : text.toList.head? ≠ some '\n'
  /-- The line feed at the end is there or not as the settings ask for it, and is the only one. -/
  ending : ∃ body, body.getLast? ≠ some '\n' ∧
    text.toList = body ++ if config.trailingNewline then ['\n'] else []
  gaps : ¬ ['\n', '\n', '\n'] <:+: text.toList
  ends : ∀ line ∈ text.toList.splitOn '\n', line.getLast? ≠ some ' ' ∧ line.getLast? ≠ some '\t'
  /-- The white space before a line is a whole number of units of indentation. -/
  indented : ∀ line ∈ text.toList.splitOn '\n',
    ∃ level, line.takeWhile isWhite = Printer.margin config level

namespace Printer.Holds

variable {config : LayoutConfig} {printer : Printer} {front : List FinishedLine}
  {last : FinishedLine}

theorem finish_nil (holds : printer.Holds config [] []) : printer.finish = "" := by
  have empty := List.reverse_eq_nil_iff.mp holds.written
  unfold finish
  rw [holds.flush_eq, empty]
  simp

/-- The text is that of the lines, without the line feeds behind the last one. -/
theorem toList_finish (holds : printer.Holds config (front ++ [last]) []) :
    printer.finish.toList =
      front.flatMap (FinishedLine.chars config) ++
        (last.text config ++ if config.trailingNewline then ['\n'] else []) := by
  have closes := FinishedLine.closes_text config (holds.inline last (by simp))
  have breaks : ∀ c ∈ ('\n' :: if last.spaced then ['\n'] else []).reverse, c == '\n' := by
    cases last.spaced <;> simp
  obtain ⟨text, c, ends, inked⟩ := closes.exists_concat
  have other : (c == '\n') = false := by
    rw [beq_eq_false_iff_ne]
    rintro rfl
    contradiction
  have body : printer.written.dropWhile (· == '\n') =
      c :: (text.reverse ++ (front.flatMap (FinishedLine.chars config)).reverse) := by
    rw [List.reverse_eq_iff.mp holds.written, List.flatMap_append, List.reverse_append,
      List.flatMap_singleton, FinishedLine.chars, List.reverse_append, List.append_assoc,
      List.dropWhile_append_of_pos breaks, ends]
    simp [other]
  unfold finish
  rw [holds.flush_eq, holds.settings, body, ends]
  cases config.trailingNewline <;> simp

/-- The lines of the text are finished ones and blank ones. -/
theorem mem_splitOn_finish (holds : printer.Holds config (front ++ [last]) []) {line : List Char}
    (member : line ∈ printer.finish.toList.splitOn '\n') :
    line = [] ∨ ∃ finished, Inline finished.words ∧ line = FinishedLine.text config finished := by
  obtain ⟨before, here⟩ := List.forall_mem_append.mp holds.inline
  have inline := here last (List.mem_singleton_self last)
  have within := (FinishedLine.closes_text config inline).2
  rw [holds.toList_finish, FinishedLine.splitOn_flatMap_chars before, List.mem_append,
    List.mem_flatMap] at member
  cases member with
  | inl earlier =>
      obtain ⟨finished, member, part⟩ := earlier
      cases List.mem_cons.mp part with
      | inl whole => exact .inr ⟨finished, before finished member, whole⟩
      | inr blank => exact .inl (by cases spaced : finished.spaced <;> simp_all)
  | inr final =>
      have parts : line = last.text config ∨ line = [] := by
        cases trailing : config.trailingNewline with
        | false => exact .inl (by simpa [trailing, List.splitOn_eq_singleton within] using final)
        | true =>
            simpa [trailing, List.splitOn_append_cons_self_of_not_mem within] using final
      cases parts with
      | inl whole => exact .inr ⟨last, inline, whole⟩
      | inr blank => exact .inl blank

theorem cleanLayout (holds : printer.Holds config (front ++ [last]) []) :
    CleanLayout config printer.finish := by
  have inline := List.forall_mem_append.mp holds.inline
  have closes := FinishedLine.closes_text config (inline.2 last (by simp))
  -- The text begins like that of the lines, and these neither begin with a line feed nor have gaps.
  let lines := front ++ [{ last with spaced := false }]
  have whole : ∀ line ∈ lines, Inline line.words :=
    List.forall_mem_append.mpr ⟨inline.1, by simpa using inline.2⟩
  have begins : printer.finish.toList <+: lines.flatMap (FinishedLine.chars config) := by
    exists if config.trailingNewline then [] else ['\n']
    rw [holds.toList_finish]
    cases config.trailingNewline <;> simp [lines, FinishedLine.chars, FinishedLine.text]
  constructor
  · rw [Ne, ← String.toList_eq_nil_iff, holds.toList_finish]
    obtain ⟨text, c, ends, -⟩ := closes.exists_concat
    simp [ends]
  · intro start
    apply FinishedLine.head?_flatMap_chars config whole
    obtain ⟨rest, whole⟩ := begins
    rw [← whole, List.head?_append, start]
    rfl
  · exists front.flatMap (FinishedLine.chars config) ++ last.text config
    constructor
    · obtain ⟨text, c, ends, inked⟩ := closes.exists_concat
      rw [ends, ← List.append_assoc, List.getLast?_concat]
      rintro ⟨⟩
      contradiction
    · rw [holds.toList_finish, List.append_assoc]
  · exact fun gap => FinishedLine.not_wideGap_infix_flatMap whole (gap.trans begins.isInfix)
  · intro line member
    cases holds.mem_splitOn_finish member with
    | inl blank => simp [blank]
    | inr filled =>
        obtain ⟨finished, inline, rfl⟩ := filled
        have closes := FinishedLine.closes_text config inline
        exact ⟨closes.getLast?_ne rfl, closes.getLast?_ne rfl⟩
  · intro line member
    cases holds.mem_splitOn_finish member with
    | inl blank => exact ⟨0, by rw [blank]; rfl⟩
    | inr filled =>
        obtain ⟨finished, inline, rfl⟩ := filled
        exact ⟨finished.level, FinishedLine.takeWhile_text inline⟩

end Printer.Holds

end RapidLang
