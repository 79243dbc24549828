import RapidLang.Proofs.Text.LineIndex
import RapidLang.Proofs.Text.Span

/-!
# Offsets and positions

The lines of a text are what stands between its line feeds. Positions are moved to the nearest one
that the lines have before an offset is looked up, so the offset of a position leads back to that
nearest position. From this it follows that offsets and positions are inverse to each other in the
text, that both conversions keep the order, and that neither leaves the text.
-/

set_option autoImplicit false

namespace RapidLang.Text

/-! ## Positions that lines have -/

/-- The lines of a text, without the line feeds that end them. -/
def linesOf (characters : List Char) : List (List Char) :=
  characters.splitOn '\n'

namespace Position

/-- The position names a character of one of the lines, or the end of one. -/
structure Names (lines : List (List Char)) (position : Position) : Prop where
  line_pos : 1 ≤ position.line
  column_pos : 1 ≤ position.column
  inside : ∃ content, lines[position.line - 1]? = some content ∧
    position.column ≤ content.length + 1

/-- The nearest position that lines have: first the line is moved to one that there is, then the
column to a character of that line or to its end. -/
def clamped (lines : List (List Char)) (position : Position) : Position :=
  let line := min (max position.line 1) lines.length
  ⟨line, min (max position.column 1) ((lines.getD (line - 1) []).length + 1)⟩

variable {lines : List (List Char)} {position other : Position}

theorem clamped_line (lines : List (List Char)) (position : Position) :
    (position.clamped lines).line = min (max position.line 1) lines.length := rfl

theorem Names.line_le (names : position.Names lines) : position.line ≤ lines.length := by
  obtain ⟨content, found, _⟩ := names.inside
  have bound := (List.getElem?_eq_some_iff.mp found).1
  have first := names.line_pos
  omega

/-- Where there are any lines, the nearest position is one that they have. -/
theorem names_clamped (filled : lines ≠ []) (position : Position) :
    (position.clamped lines).Names lines := by
  have some := List.length_pos_iff.mpr filled
  have inside : (position.clamped lines).line - 1 < lines.length := by
    rw [clamped_line]
    omega
  refine ⟨?_, ?_, lines[(position.clamped lines).line - 1], List.getElem?_eq_getElem inside, ?_⟩
  · rw [clamped_line]
    omega
  · simp only [clamped]
    omega
  · have found : lines.getD ((position.clamped lines).line - 1) [] =
        lines[(position.clamped lines).line - 1] := List.getD_eq_getElem _ _ inside
    rw [← found]
    exact Nat.min_le_right _ _

/-- A position that the lines have is the nearest one to itself. -/
theorem Names.clamped_eq (names : position.Names lines) : position.clamped lines = position := by
  have bound := names.line_le
  obtain ⟨line, column⟩ := position
  obtain ⟨first, first', content, found, inside⟩ := names
  simp only at bound first first' found inside
  have same : min (max line 1) lines.length = line := by omega
  have content_eq : lines.getD (line - 1) [] = content := by
    rw [List.getD_eq_getElem?_getD, found, Option.getD_some]
  simp only [clamped, same, content_eq, Position.mk.injEq, true_and]
  omega

/-- Positions on lines that there are stay in order when they are moved to the nearest ones. -/
theorem clamped_mono (lines : List (List Char)) (exists_ : 1 ≤ position.line)
    (exists' : other.line ≤ lines.length) (before : position ≤ other) :
    position.clamped lines ≤ other.clamped lines := by
  rw [le_iff] at before ⊢
  rw [clamped_line, clamped_line]
  rcases before with above | ⟨same, left⟩
  · exact .inl (by omega)
  · refine .inr ⟨by rw [same], ?_⟩
    simp only [clamped, same]
    omega

end Position

/-! ## The lines of a text and its characters -/

theorem linesOf_ne_nil (characters : List Char) : linesOf characters ≠ [] :=
  List.splitOn_ne_nil '\n' characters

theorem linesOf_of_not_mem {characters : List Char} (plain : '\n' ∉ characters) :
    linesOf characters = [characters] :=
  List.splitOn_eq_singleton plain

theorem linesOf_append_newline {first rest : List Char} (plain : '\n' ∉ first) :
    linesOf (first ++ '\n' :: rest) = first :: linesOf rest :=
  List.splitOn_append_cons_self_of_not_mem plain rest

/-- Each line of a text has its characters in the text, between line feeds, and walking up to it
leads to its first column. -/
theorem exists_of_getElem?_linesOf {characters content : List Char} {line : Nat}
    (found : (linesOf characters)[line]? = some content) (first : Nat) :
    ∃ above below, characters = above ++ content ++ below ∧ '\n' ∉ content ∧
      below.head?.all (· == '\n') ∧
      (⟨first, 1⟩ : Position).afterAll above = ⟨first + line, 1⟩ := by
  induction line generalizing characters first with
  | zero =>
      by_cases newline : '\n' ∈ characters
      · obtain ⟨front, rest, rfl, plain⟩ := List.eq_append_cons_of_mem newline
        rw [linesOf_append_newline plain] at found
        cases found
        exact ⟨[], '\n' :: rest, rfl, plain, rfl, rfl⟩
      · rw [linesOf_of_not_mem newline] at found
        cases found
        exact ⟨[], [], by simp, newline, rfl, rfl⟩
  | succ line ih =>
      by_cases newline : '\n' ∈ characters
      · obtain ⟨front, rest, rfl, plain⟩ := List.eq_append_cons_of_mem newline
        rw [linesOf_append_newline plain, List.getElem?_cons_succ] at found
        obtain ⟨above, below, rfl, plain', ends, leads⟩ := ih found (first + 1)
        refine ⟨front ++ '\n' :: above, below, by simp, plain', ends, ?_⟩
        have next : (⟨first, 1⟩ : Position).afterAll (front ++ '\n' :: above) =
            (⟨first + 1, 1⟩ : Position).afterAll above := by
          rw [Position.afterAll_append, Position.afterAll_of_not_mem plain]
          rfl
        rw [next, leads, Nat.add_right_comm, Nat.add_assoc]
      · rw [linesOf_of_not_mem newline] at found
        cases found

/-- Characters without a line feed stand on one line of their text: on the one that walking up to
them leads to. The line may have been begun before. -/
theorem exists_line_of_begun {begun part : List Char} (plain : '\n' ∉ begun) (plain' : '\n' ∉ part)
    (front behind : List Char) (first : Nat) :
    let place := (⟨first, begun.length + 1⟩ : Position).afterAll front
    first ≤ place.line ∧ ∃ before after,
      (linesOf (begun ++ (front ++ part ++ behind)))[place.line - first]? =
          some (before ++ part ++ after) ∧
        before.length + 1 = place.column := by
  induction front generalizing begun first with
  | nil =>
      refine ⟨Nat.le_refl first, begun, ?_⟩
      rw [List.nil_append, ← List.append_assoc]
      have both : '\n' ∉ begun ++ part := by simp [plain, plain']
      by_cases newline : '\n' ∈ behind
      · obtain ⟨after, rest, rfl, plain''⟩ := List.eq_append_cons_of_mem newline
        refine ⟨after, ?_, rfl⟩
        rw [← List.append_assoc, linesOf_append_newline (by simp [plain, plain', plain''])]
        simp [Position.afterAll]
      · refine ⟨behind, ?_, rfl⟩
        rw [linesOf_of_not_mem (by simp [plain, plain', newline])]
        simp [Position.afterAll]
  | cons c front ih =>
      by_cases newline : c = '\n'
      · subst newline
        obtain ⟨above, before, after, found, column⟩ := ih List.not_mem_nil (first + 1)
        have next : (⟨first, begun.length + 1⟩ : Position).afterAll ('\n' :: front) =
            (⟨first + 1, 1⟩ : Position).afterAll front := rfl
        rw [next]
        simp only [List.length_nil, Nat.zero_add, List.nil_append] at above found column
        refine ⟨by omega, before, after, ?_, column⟩
        rw [List.cons_append, List.cons_append, linesOf_append_newline plain,
          show ∀ line, first + 1 ≤ line → line - first = line - (first + 1) + 1 by omega]
        · exact found
        · exact above
      · have plain'' : '\n' ∉ begun ++ [c] := by simp [plain, Ne.symm newline]
        have moved := ih plain'' first
        have next : (⟨first, begun.length + 1⟩ : Position).afterAll (c :: front) =
            (⟨first, (begun ++ [c]).length + 1⟩ : Position).afterAll front := by
          rw [List.length_append, List.length_singleton]
          exact congrArg (Position.afterAll · front) (if_neg newline)
        rw [next]
        simpa using moved

/-- Characters without a line feed stand on one line of their text, from the column on at which they
begin. -/
theorem exists_line {part : List Char} (plain : '\n' ∉ part) (front behind : List Char) :
    ∃ before after,
      (linesOf (front ++ part ++ behind))[(Position.start.afterAll front).line - 1]? =
          some (before ++ part ++ after) ∧
        before.length = (Position.start.afterAll front).column - 1 := by
  obtain ⟨_, before, after, found, column⟩ :=
    exists_line_of_begun List.not_mem_nil plain front behind 1
  exact ⟨before, after, found, Nat.eq_sub_of_add_eq column⟩

/-- Walking over a text goes down one line at each of its line feeds. -/
theorem Position.line_afterAll (position : Position) (characters : List Char) :
    (position.afterAll characters).line = position.line + characters.count '\n' := by
  induction characters generalizing position with
  | nil => rfl
  | cons c rest ih =>
      rw [List.count_cons, show position.afterAll (c :: rest) = (position.after c).afterAll rest from
        rfl, ih, after]
      by_cases newline : c = '\n'
      · simp [newline, Nat.add_assoc, Nat.add_comm 1]
      · simp [newline, right]

namespace LineIndex

theorem lineCount_ofChars (characters : List Char) :
    (ofChars characters).lineCount = (linesOf characters).length := by
  have each : ∀ offset, (lineStartsFrom offset characters).length + 1 =
      (linesOf characters).length := by
    induction characters with
    | nil => exact fun _ => rfl
    | cons c rest ih =>
        intro offset
        rw [linesOf, List.splitOn_cons_eq_if_modifyHead, lineStartsFrom]
        by_cases newline : c = '\n'
        · simp only [newline, if_true, List.length_cons, beq_self_eq_true]
          exact congrArg (· + 1) (ih (offset + 1))
        · simp only [newline, if_false, beq_iff_eq, List.length_modifyHead]
          exact ih (offset + 1)
  exact each 0

theorem lineStartsFrom_of_not_mem {characters : List Char} (plain : '\n' ∉ characters)
    (offset : Nat) : lineStartsFrom offset characters = [] := by
  induction characters generalizing offset with
  | nil => rfl
  | cons c rest ih =>
      rw [List.mem_cons, not_or] at plain
      rw [lineStartsFrom, if_neg (Ne.symm plain.1), ih plain.2]

/-- The table has a line of a text where its characters are. -/
theorem bounds_of_line {above content below : List Char} {line : Nat} (plain : '\n' ∉ content)
    (ends : below.head?.all (· == '\n'))
    (leads : Position.start.afterAll above = ⟨line + 1, 1⟩) :
    (ofChars (above ++ content ++ below)).lineStart line = above.length ∧
      (ofChars (above ++ content ++ below)).lineEnd line = above.length + content.length := by
  rw [Position.afterAll_start, Position.mk.injEq] at leads
  obtain ⟨count, column⟩ := leads
  have bound := lastLineStart_le above
  have last : (ofChars above).lineCount - 1 = line := by omega
  constructor
  · have starts := lineStart_append above (content ++ below)
    rw [← List.append_assoc, last] at starts
    omega
  · have next : (ofChars (above ++ content ++ below)).starts[line + 1]? =
        (lineStartsFrom (above.length + content.length) below)[0]? := by
      rw [List.append_assoc, starts_append, lineStartsFrom_append, lineStartsFrom_of_not_mem plain,
        List.nil_append, ← count, lineCount, List.getElem?_append_right (Nat.le_refl _),
        Nat.sub_self]
    rw [lineEnd, next]
    cases below with
    | nil => simp [lineStartsFrom, ofChars]
    | cons c below =>
        have newline : c = '\n' := by simpa using ends
        simp [lineStartsFrom, newline]

/-- Looking up a position finds a part of the text behind which the nearest position stands. -/
theorem exists_of_offset (characters : List Char) (position : Position) :
    ∃ front behind, characters = front ++ behind ∧
      Position.start.afterAll front = position.clamped (linesOf characters) ∧
      (ofChars characters).offset position = front.length := by
  have names := Position.names_clamped (linesOf_ne_nil characters) position
  have line_eq := Position.clamped_line (linesOf characters) position
  obtain ⟨content, found, inside⟩ := names.inside
  have column_eq : (position.clamped (linesOf characters)).column =
      min (max position.column 1) (content.length + 1) := by
    simp only [Position.clamped] at found ⊢
    rw [List.getD_eq_getElem?_getD, found, Option.getD_some]
  obtain ⟨above, below, split, plain, ends, leads⟩ := exists_of_getElem?_linesOf found 1
  have count := lineCount_ofChars characters
  generalize position.clamped (linesOf characters) = place at *
  have first := names.line_pos
  obtain ⟨lineStart, lineEnd⟩ := bounds_of_line plain ends (leads.trans (by rw [Nat.add_comm]))
  rw [← split] at lineStart lineEnd
  refine ⟨above ++ content.take (place.column - 1), content.drop (place.column - 1) ++ below,
    ?_, ?_, ?_⟩
  · rw [split, List.append_assoc, List.append_assoc, ← List.append_assoc (content.take _),
      List.take_append_drop]
  · have rest : '\n' ∉ content.take (place.column - 1) := fun member =>
      plain (List.mem_of_mem_take member)
    rw [Position.afterAll_append, show Position.start.afterAll above = _ from leads,
      Position.afterAll_of_not_mem rest, Position.right, List.length_take]
    have column := names.column_pos
    obtain ⟨line, column⟩ := place
    simp only [Position.mk.injEq] at *
    omega
  · have line : min (max position.line 1 - 1) ((ofChars characters).lineCount - 1) =
        place.line - 1 := by omega
    simp only [offset, line, lineStart, lineEnd, List.length_append, List.length_take]
    omega

variable (characters : List Char)

/-- The offset of any position leads back to the nearest position of the text. -/
theorem position_offset (position : Position) :
    (ofChars characters).position ((ofChars characters).offset position) =
      position.clamped (linesOf characters) := by
  obtain ⟨front, behind, rfl, leads, found⟩ := exists_of_offset characters position
  rw [found, position_length, leads]

theorem names_afterAll (front behind : List Char) :
    (Position.start.afterAll front).Names (linesOf (front ++ behind)) := by
  have found := position_offset (front ++ behind) (Position.start.afterAll front)
  rw [offset_afterAll, position_length] at found
  rw [found]
  exact Position.names_clamped (linesOf_ne_nil _) _

theorem offset_le (position : Position) :
    (ofChars characters).offset position ≤ characters.length := by
  obtain ⟨front, behind, split, _, found⟩ := exists_of_offset characters position
  rw [found, split, List.length_append]
  exact Nat.le_add_right _ _

/-- The position of an offset is found by walking up to it. -/
theorem position_eq {offset : Nat} (inside : offset ≤ characters.length) :
    (ofChars characters).position offset = Position.start.afterAll (characters.take offset) := by
  have found := position_length (characters.take offset) (characters.drop offset)
  rwa [List.take_append_drop, List.length_take_of_le inside] at found

theorem offset_position {offset : Nat} (inside : offset ≤ characters.length) :
    (ofChars characters).offset ((ofChars characters).position offset) = offset := by
  have found := offset_afterAll (characters.take offset) (characters.drop offset)
  rwa [← position_eq characters inside, List.take_append_drop, List.length_take_of_le inside]
    at found

theorem position_lt {left right : Nat} (before : left < right)
    (inside : right ≤ characters.length) :
    (ofChars characters).position left < (ofChars characters).position right := by
  have between : (characters.take right).drop left ≠ [] := by
    rw [Ne, List.drop_eq_nil_iff, List.length_take_of_le inside]
    omega
  rw [position_eq characters (by omega), position_eq characters inside,
    ← List.take_append_drop left (characters.take right), List.take_take,
    Nat.min_eq_left (Nat.le_of_lt before), Position.afterAll_append]
  exact Position.lt_afterAll between

theorem position_of_ge {offset : Nat} (beyond : characters.length ≤ offset) :
    (ofChars characters).position offset = (ofChars characters).position characters.length := by
  simp only [position, show (ofChars characters).length = characters.length from rfl,
    Nat.min_eq_right beyond, Nat.min_self]

theorem offset_mono {left right : Position} (first : 1 ≤ left.line)
    (last : right.line ≤ (linesOf characters).length) (before : left ≤ right) :
    (ofChars characters).offset left ≤ (ofChars characters).offset right := by
  by_contra inverted
  have places := position_lt characters (Nat.lt_of_not_le inverted) (offset_le characters left)
  rw [position_offset, position_offset] at places
  exact absurd (Position.clamped_mono (linesOf characters) first last before) (not_le_of_gt places)

/-- An offset that a position leads to stands behind as many line feeds as there are lines above
the nearest line. -/
theorem count_take_offset (position : Position) :
    (characters.take ((ofChars characters).offset position)).count '\n' =
      min (max position.line 1) (linesOf characters).length - 1 := by
  have found := position_offset characters position
  rw [position_eq characters (offset_le characters position)] at found
  have lines := congrArg Position.line found
  rw [Position.line_afterAll, Position.clamped_line,
    show Position.start.line = 1 from rfl] at lines
  omega

theorem lineCount_le : (ofChars characters).lineCount ≤ characters.length + 1 := by
  have counted := Position.line_afterAll Position.start characters
  rw [Position.afterAll_start] at counted
  have some := List.count_le_length (a := '\n') (l := characters)
  simp only [show Position.start.line = 1 from rfl] at counted
  omega

theorem pairwise_starts : (ofChars characters).starts.Pairwise (· < ·) := by
  have each : ∀ offset, (lineStartsFrom offset characters).Pairwise (· < ·) := by
    induction characters with
    | nil => exact fun _ => .nil
    | cons c rest ih =>
        intro offset
        rw [lineStartsFrom]
        split
        · exact .cons (fun start member => (bounds_of_mem_lineStartsFrom member).1) (ih _)
        · exact ih _
  exact .cons (fun start member => (bounds_of_mem_lineStartsFrom member).1) (each 0)

theorem position_le_limit (small : characters.length < positionLimit) (offset : Nat) :
    ((ofChars characters).position offset).line ≤ positionLimit ∧
      ((ofChars characters).position offset).column ≤ positionLimit := by
  have inside : ((ofChars characters).starts.takeWhile
      (· ≤ min offset characters.length)).length ≤ (ofChars characters).lineCount :=
    (List.takeWhile_prefix _).length_le
  have lines := lineCount_le characters
  have short : min offset characters.length ≤ characters.length := Nat.min_le_right _ _
  simp only [position, show (ofChars characters).length = characters.length from rfl]
  omega

/-! ## Both conversions of a text -/

/-- Offsets and positions of a text are converted into each other safely. -/
structure Converts (index : LineIndex) (characters : List Char) : Prop where
  /-- Every offset of the text is found again from its position. -/
  offset_position : ∀ offset, offset ≤ characters.length →
    index.offset (index.position offset) = offset
  /-- Every position of a character or of the end of a line is found again from its offset. -/
  position_offset : ∀ position, position.Names (linesOf characters) →
    index.position (index.offset position) = position
  /-- Every other position leads to the nearest one. -/
  nearest : ∀ position,
    index.position (index.offset position) = position.clamped (linesOf characters) ∧
      (position.clamped (linesOf characters)).Names (linesOf characters)
  /-- No position leads out of the text. -/
  offset_le : ∀ position, index.offset position ≤ characters.length
  /-- Every position leads to a character or to the end of the nearest line. -/
  offset_line : ∀ position, (characters.take (index.offset position)).count '\n' =
    min (max position.line 1) (linesOf characters).length - 1
  /-- The order of positions on lines that there are is kept. -/
  offset_mono : ∀ left right : Position, 1 ≤ left.line → right.line ≤ (linesOf characters).length →
    left ≤ right → index.offset left ≤ index.offset right
  /-- The order of the offsets of the text is kept, and different ones have different positions. -/
  position_lt : ∀ left right, left < right → right ≤ characters.length →
    index.position left < index.position right
  /-- All offsets beyond the text have the position of its end. -/
  position_beyond : ∀ offset, characters.length ≤ offset →
    index.position offset = index.position characters.length
  /-- The ends of any span are in order and in the text, also those of an inverted span. -/
  range_le : ∀ span, (index.range span).1 ≤ (index.range span).2 ∧
    (index.range span).2 ≤ characters.length
  /-- Some line begins at or before any offset, so there is a line before the next one. -/
  line_before : ∀ offset, 0 < (index.starts.takeWhile (· ≤ min offset index.length)).length
  /-- A line that follows another one does not begin with the text, so a line feed ends before it. -/
  line_behind : ∀ line next, index.starts[line + 1]? = some next → 0 < next
  /-- The lines begin in ascending order, so that they can be searched. -/
  ascending : index.starts.Pairwise (· < ·)
  /-- In a text that is not too long, lines and columns are numbers of 32 bits. -/
  bounded : characters.length < positionLimit → ∀ offset,
    (index.position offset).line ≤ positionLimit ∧ (index.position offset).column ≤ positionLimit

/-- The offsets and positions of every text are converted into each other safely. -/
theorem converts_ofString (text : String) : (ofString text).Converts text.toList where
  offset_position _ := offset_position text.toList
  position_offset position names := (position_offset text.toList position).trans names.clamped_eq
  nearest position := ⟨position_offset text.toList position,
    Position.names_clamped (linesOf_ne_nil text.toList) position⟩
  offset_le := offset_le text.toList
  offset_line := count_take_offset text.toList
  offset_mono _ _ := offset_mono text.toList
  position_lt _ _ := position_lt text.toList
  position_beyond _ := position_of_ge text.toList
  range_le _ := ⟨Nat.le_max_right _ _, Nat.max_le.mpr ⟨offset_le _ _, offset_le _ _⟩⟩
  line_before _ := Nat.succ_pos _
  line_behind _ _ found := (bounds_of_mem_lineStartsFrom (List.mem_of_getElem? found)).1
  ascending := pairwise_starts text.toList
  bounded := position_le_limit text.toList

end LineIndex

end RapidLang.Text
