import Mathlib.Order.Defs.LinearOrder
import Mathlib.Order.Lattice
import RapidLang.Text.LineIndex

/-!
# Spans inside and before others

Positions are linearly ordered. A span lies within another one, or before it; merging spans gives
the smallest one that both lie within.
-/

set_option autoImplicit false

namespace RapidLang.Text

/-! ## The order of positions -/

namespace Position

theorem le_iff {left right : Position} :
    left ≤ right ↔ left.line < right.line ∨ (left.line = right.line ∧ left.column ≤ right.column) :=
  Iff.rfl

theorem lt_iff {left right : Position} :
    left < right ↔ left.line < right.line ∨ (left.line = right.line ∧ left.column < right.column) :=
  Iff.rfl

instance : LinearOrder Position where
  le_refl position := .inr ⟨rfl, Nat.le_refl _⟩
  le_trans left middle right := by
    simp only [le_iff]
    omega
  lt_iff_le_not_ge left right := by
    simp only [le_iff, lt_iff]
    omega
  le_antisymm left right := by
    obtain ⟨line, column⟩ := left
    obtain ⟨line', column'⟩ := right
    simp only [le_iff, Position.mk.injEq]
    omega
  le_total left right := by
    simp only [le_iff]
    omega
  toDecidableLE := inferInstance

theorem earlier_eq_min (left right : Position) : left.earlier right = min left right := rfl

theorem later_eq_max (left right : Position) : left.later right = max left right := rfl

theorem lt_after (position : Position) (c : Char) : position < position.after c := by
  rw [after]
  split
  · exact .inl (Nat.lt_succ_self _)
  · exact .inr ⟨rfl, Nat.lt_succ_self _⟩

theorem le_afterAll (position : Position) (characters : List Char) :
    position ≤ position.afterAll characters := by
  induction characters generalizing position with
  | nil => exact le_refl position
  | cons c rest ih => exact le_trans (le_of_lt (lt_after position c)) (ih (position.after c))

theorem lt_afterAll {position : Position} {characters : List Char} (filled : characters ≠ []) :
    position < position.afterAll characters := by
  obtain ⟨c, rest, rfl⟩ := List.exists_cons_of_ne_nil filled
  exact lt_of_lt_of_le (lt_after position c) (le_afterAll (position.after c) rest)

/-- Characters without a line feed lead to the right on the same line. -/
theorem afterAll_of_not_mem {position : Position} {characters : List Char}
    (plain : '\n' ∉ characters) : position.afterAll characters = position.right characters.length := by
  induction characters generalizing position with
  | nil => rfl
  | cons c rest ih =>
      rw [List.mem_cons, not_or] at plain
      have first : position.after c = position.right 1 := if_neg (Ne.symm plain.1)
      show (position.after c).afterAll rest = _
      rw [ih plain.2, first, List.length_cons, right, right, right]
      simp only [Position.mk.injEq, true_and]
      omega

end Position

/-- Places counted from zero, in reading order: line and character. -/
def EditorLe (left right : Nat × Nat) : Prop :=
  left.1 < right.1 ∨ (left.1 = right.1 ∧ left.2 ≤ right.2)

/-- From the first line on, editors see positions in the same order. -/
theorem Position.toEditor_le {left right : Position} (inside : 1 ≤ left.line)
    (before : left ≤ right) : EditorLe left.toEditor right.toEditor := by
  rw [le_iff] at before
  simp only [EditorLe, toEditor]
  omega

/-! ## Spans -/

namespace Span

/-- The span is not empty. -/
def Filled (span : Span) : Prop :=
  span.start < span.stop

/-- The span is a part of another one. -/
def Within (inner outer : Span) : Prop :=
  outer.start ≤ inner.start ∧ inner.stop ≤ outer.stop

/-- The span ends before another one begins. -/
def Before (left right : Span) : Prop :=
  left.stop ≤ right.start

/-- The span is not empty, and others are parts of it. -/
def Holds (span : Span) (parts : List Span) : Prop :=
  span.Filled ∧ ∀ part ∈ parts, part.Within span

variable {span left right inner outer : Span}

theorem Within.refl (span : Span) : span.Within span :=
  ⟨le_refl _, le_refl _⟩

theorem Within.trans (first : inner.Within span) (second : span.Within outer) :
    inner.Within outer :=
  ⟨le_trans second.1 first.1, le_trans first.2 second.2⟩

theorem within_merge_left (left right : Span) : left.Within (left.merge right) :=
  ⟨min_le_left _ _, le_max_left _ _⟩

theorem within_merge_right (left right : Span) : right.Within (left.merge right) :=
  ⟨min_le_right _ _, le_max_right _ _⟩

theorem merge_within (first : left.Within outer) (second : right.Within outer) :
    (left.merge right).Within outer :=
  ⟨le_min first.1 second.1, max_le first.2 second.2⟩

theorem Filled.mono (filled : inner.Filled) (within : inner.Within outer) : outer.Filled :=
  lt_of_le_of_lt within.1 (lt_of_lt_of_le filled within.2)

theorem Filled.merge_left (filled : left.Filled) : (left.merge right).Filled :=
  filled.mono (within_merge_left left right)

end Span

end RapidLang.Text
