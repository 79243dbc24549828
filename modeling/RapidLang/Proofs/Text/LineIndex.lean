import Mathlib.Data.List.GetD
import Mathlib.Data.List.Induction
import RapidLang.Text.LineIndex

/-!
# Positions counted and positions looked up

A position can be found by walking through a text character by character, or from the table of the
line starts of the whole text. Both ways agree at every character of the text, and the characters
of a span are those that were walked through between its ends.
-/

set_option autoImplicit false

namespace RapidLang.Text

/-! ## The table of line starts -/

theorem lineStartsFrom_append (offset : Nat) (front behind : List Char) :
    lineStartsFrom offset (front ++ behind) =
      lineStartsFrom offset front ++ lineStartsFrom (offset + front.length) behind := by
  induction front generalizing offset with
  | nil => rfl
  | cons c front ih =>
      have moved : offset + (c :: front).length = offset + 1 + front.length := by
        rw [List.length_cons]
        omega
      rw [moved, List.cons_append, lineStartsFrom, lineStartsFrom, ih]
      split
      · rfl
      · rfl

theorem bounds_of_mem_lineStartsFrom {offset start : Nat} {characters : List Char}
    (member : start ∈ lineStartsFrom offset characters) :
    offset < start ∧ start ≤ offset + characters.length := by
  induction characters generalizing offset with
  | nil => cases member
  | cons c characters ih =>
      rw [List.length_cons]
      rw [lineStartsFrom] at member
      split at member
      · rcases List.mem_cons.mp member with rfl | member
        · omega
        · have := ih member
          omega
      · have := ih member
        omega

/-- Where the last line of a text begins. -/
def lastLineStart (characters : List Char) : Nat :=
  (lineStartsFrom 0 characters).getLastD 0

theorem lastLineStart_le (characters : List Char) : lastLineStart characters ≤ characters.length := by
  unfold lastLineStart
  cases found : (lineStartsFrom 0 characters).getLast? with
  | none => simp [List.getLastD_eq_getLast?, found]
  | some start =>
      have := bounds_of_mem_lineStartsFrom (List.mem_of_getLast? found)
      rw [List.getLastD_eq_getLast?, found, Option.getD_some]
      omega

namespace Position

theorem afterAll_append (position : Position) (front behind : List Char) :
    position.afterAll (front ++ behind) = (position.afterAll front).afterAll behind :=
  List.foldl_append

/-- The position behind a text counts its lines and the characters of its last line. -/
theorem afterAll_start (characters : List Char) :
    start.afterAll characters =
      ⟨(LineIndex.ofChars characters).lineCount,
        characters.length - lastLineStart characters + 1⟩ := by
  induction characters using List.reverseRecOn with
  | nil => rfl
  | append_singleton characters c ih =>
      have bound := lastLineStart_le characters
      have starts := lineStartsFrom_append 0 characters [c]
      rw [afterAll_append, ih]
      by_cases newline : c = '\n'
      · rw [newline] at starts ⊢
        simp [afterAll, after, LineIndex.lineCount, LineIndex.ofChars, lastLineStart, starts,
          lineStartsFrom]
      · simp only [lineStartsFrom, newline, if_false, List.append_nil] at starts
        have same : lastLineStart (characters ++ [c]) = lastLineStart characters := by
          rw [lastLineStart, lastLineStart, starts]
        have column : characters.length - lastLineStart characters + 1 + 1 =
            (characters ++ [c]).length - lastLineStart (characters ++ [c]) + 1 := by
          rw [same, List.length_append, List.length_singleton]
          omega
        rw [← column]
        simp [afterAll, after, newline, right, LineIndex.lineCount, LineIndex.ofChars, starts]

end Position

namespace LineIndex

variable (front behind : List Char)

/-- The lines of a front part of a text are the first lines of the text. -/
theorem starts_append :
    (ofChars (front ++ behind)).starts =
      (ofChars front).starts ++ lineStartsFrom front.length behind := by
  rw [ofChars, ofChars, lineStartsFrom_append, Nat.zero_add, List.cons_append]

theorem lineStart_append :
    (ofChars (front ++ behind)).lineStart ((ofChars front).lineCount - 1) =
      lastLineStart front := by
  have inside : (ofChars front).lineCount - 1 < (ofChars front).starts.length := by
    simp [lineCount, ofChars]
  rw [lineStart, starts_append, List.getD_append _ _ _ _ inside]
  simp only [ofChars, lineCount, List.length_cons, Nat.add_sub_cancel, lastLineStart]
  cases lineStartsFrom 0 front using List.reverseRecOn with
  | nil => rfl
  | append_singleton starts start => simp

theorem le_lineEnd_append :
    front.length ≤ (ofChars (front ++ behind)).lineEnd ((ofChars front).lineCount - 1) := by
  have next : (ofChars front).lineCount - 1 + 1 = (ofChars front).starts.length := by
    simp [lineCount, ofChars]
  rw [lineEnd, next, starts_append, List.getElem?_append_right (Nat.le_refl _), Nat.sub_self]
  cases found : (lineStartsFrom front.length behind)[0]? with
  | none => simp [ofChars]
  | some start =>
      have := bounds_of_mem_lineStartsFrom (List.mem_of_getElem? found)
      simp only
      omega

/-- The offset of the position behind a front part of a text is the length of that part. -/
theorem offset_afterAll :
    (ofChars (front ++ behind)).offset (Position.start.afterAll front) = front.length := by
  have first : 1 ≤ (ofChars front).lineCount := by simp [lineCount, ofChars]
  have lines : (ofChars front).lineCount ≤ (ofChars (front ++ behind)).lineCount := by
    rw [lineCount, lineCount, starts_append, List.length_append]
    omega
  have line : min (max (ofChars front).lineCount 1 - 1)
      ((ofChars (front ++ behind)).lineCount - 1) = (ofChars front).lineCount - 1 := by
    omega
  have bound := lastLineStart_le front
  have stop := le_lineEnd_append front behind
  rw [Position.afterAll_start]
  simp only [offset, line, lineStart_append]
  omega

/-- The position of an offset is found by walking up to it. -/
theorem position_length :
    (ofChars (front ++ behind)).position front.length = Position.start.afterAll front := by
  have inside : min front.length (ofChars (front ++ behind)).length = front.length := by
    simp [ofChars]
  have before : ∀ start ∈ (ofChars front).starts, decide (start ≤ front.length) = true := by
    intro start member
    rcases List.mem_cons.mp member with rfl | member
    · simp
    · have := bounds_of_mem_lineStartsFrom member
      simp only [decide_eq_true_eq]
      omega
  have beyond : (lineStartsFrom front.length behind).takeWhile (decide <| · ≤ front.length) = [] := by
    cases found : lineStartsFrom front.length behind with
    | nil => rfl
    | cons start starts =>
        have := bounds_of_mem_lineStartsFrom (found ▸ List.mem_cons_self)
        exact List.takeWhile_cons_of_neg (by simp only [decide_eq_true_eq]; omega)
  have lines : ((ofChars (front ++ behind)).starts.takeWhile (· ≤ front.length)).length =
      (ofChars front).lineCount := by
    rw [starts_append, List.takeWhile_append_of_pos before, beyond, List.append_nil, lineCount]
  have first : 1 ≤ (ofChars front).lineCount := by simp [lineCount, ofChars]
  rw [Position.afterAll_start]
  simp only [position, inside, lines, lineStart_append]
  rw [Nat.sub_add_cancel first]

theorem endPosition_ofChars (characters : List Char) :
    (ofChars characters).endPosition = Position.start.afterAll characters := by
  have found := position_length characters []
  rwa [List.append_nil] at found

end LineIndex

/-! ## The characters of a span -/

/-- The span covers a part of a text: the part that begins behind `front`. -/
def Span.Covers (span : Span) (characters front part : List Char) : Prop :=
  (∃ behind, characters = front ++ part ++ behind) ∧
    span = ⟨Position.start.afterAll front, Position.start.afterAll (front ++ part)⟩

namespace Span.Covers

variable {span : Span} {characters front part : List Char}

theorem range (covers : span.Covers characters front part) :
    (LineIndex.ofChars characters).range span = (front.length, front.length + part.length) := by
  obtain ⟨⟨behind, rfl⟩, rfl⟩ := covers
  have stop := LineIndex.offset_afterAll (front ++ part) behind
  have start := LineIndex.offset_afterAll front (part ++ behind)
  rw [← List.append_assoc] at start
  rw [LineIndex.range, start, stop, List.length_append]
  simp

theorem slice (covers : span.Covers characters front part) :
    slice characters ((LineIndex.ofChars characters).range span) = part := by
  rw [covers.range]
  obtain ⟨⟨behind, rfl⟩, rfl⟩ := covers
  simp [Text.slice]

end Span.Covers

end RapidLang.Text
