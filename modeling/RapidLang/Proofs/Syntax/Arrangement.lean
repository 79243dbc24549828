import Mathlib.Data.List.Flatten
import Mathlib.Data.List.Pairwise
import RapidLang.Index.Occurrence
import RapidLang.Proofs.Syntax.Bodies
import RapidLang.Proofs.Syntax.Nesting

/-!
# How the parts of a tree are arranged

In a tree that is read from a text, the names in expressions stand apart from each other. In a
statement they also stand apart from its nested bodies, and between any two of these bodies, and
around them, something else is written.
-/

set_option autoImplicit false

namespace RapidLang

open Text

/-! ## Spans apart -/

namespace Text.Span

/-- One of the spans ends before the other begins. -/
def Apart (left right : Span) : Prop :=
  left.Before right ∨ right.Before left

/-- The spans do not even touch. -/
def Parted (left right : Span) : Prop :=
  left.stop < right.start ∨ right.stop < left.start

variable {left right left' right' : Span}

theorem Apart.symm (apart : left.Apart right) : right.Apart left :=
  Or.symm apart

theorem Parted.symm (parted : left.Parted right) : right.Parted left :=
  Or.symm parted

instance : Std.Symm Parted := ⟨fun _ _ => Parted.symm⟩

theorem Apart.mono (apart : left.Apart right) (within : left'.Within left)
    (within' : right'.Within right) : left'.Apart right' :=
  apart.imp (fun before => le_trans within.2 (le_trans before within'.1))
    fun before => le_trans within'.2 (le_trans before within.1)

theorem Parted.mono (parted : left.Parted right) (within : left'.Within left)
    (within' : right'.Within right) : left'.Parted right' :=
  parted.imp (fun before => lt_of_le_of_lt within.2 (lt_of_lt_of_le before within'.1))
    fun before => lt_of_le_of_lt within'.2 (lt_of_lt_of_le before within.1)

/-- A span that is not empty does not stand apart from itself. -/
theorem Apart.ne (apart : left.Apart right) (filled : left.Filled) : left ≠ right := by
  rintro rfl
  exact apart.elim (not_le_of_gt filled) (not_le_of_gt filled)

/-- Of items that stand in order, any two are apart. -/
theorem apart_of_ordered {α : Type} {items : List α} {place : α → Span} {item other : α}
    (ordered : items.Pairwise fun first later => (place first).Before (place later))
    (member : item ∈ items) (member' : other ∈ items) (different : item ≠ other) :
    (place item).Apart (place other) := by
  have symm : Std.Symm fun first later => (place first).Apart (place later) :=
    ⟨fun _ _ => Apart.symm⟩
  have apart : items.Pairwise fun first later => (place first).Apart (place later) :=
    ordered.imp .inl
  exact apart.forall member member' different

end Text.Span

/-- The spans lie between two places; none is empty, and each stands apart from the others. -/
structure Spread (lower upper : Position) (spans : List Span) : Prop where
  lie : ∀ span ∈ spans, span.Filled ∧ span.Within ⟨lower, upper⟩
  apart : spans.Pairwise Span.Apart

namespace Spread

variable {lower middle middle' upper lower' upper' : Position} {span : Span}
  {spans others : List Span}

theorem nil : Spread lower upper [] :=
  ⟨fun _ member => absurd member List.not_mem_nil, .nil⟩

theorem one (filled : span.Filled) (below : lower ≤ span.start) (above : span.stop ≤ upper) :
    Spread lower upper [span] :=
  ⟨List.forall_mem_singleton.mpr ⟨filled, below, above⟩, List.pairwise_singleton _ _⟩

theorem widen (spread : Spread lower upper spans) (below : lower' ≤ lower) (above : upper ≤ upper') :
    Spread lower' upper' spans := by
  refine ⟨fun span member => ?_, spread.apart⟩
  obtain ⟨filled, starts, stops⟩ := spread.lie span member
  exact ⟨filled, le_trans below starts, le_trans stops above⟩

theorem append (first : Spread lower middle spans) (second : Spread middle' upper others)
    (between : middle ≤ middle') (below : lower ≤ middle') (above : middle ≤ upper) :
    Spread lower upper (spans ++ others) := by
  constructor
  · have first' := first.widen (le_refl lower) above
    have second' := second.widen below (le_refl upper)
    exact List.forall_mem_append.mpr ⟨first'.lie, second'.lie⟩
  · refine List.pairwise_append.mpr ⟨first.apart, second.apart, ?_⟩
    intro span member other member'
    have stops := (first.lie span member).2.2
    have starts := (second.lie other member').2.1
    exact .inl (le_trans stops (le_trans between starts))

theorem perm (spread : Spread lower upper spans) (same : spans.Perm others) :
    Spread lower upper others :=
  ⟨fun span member => spread.lie span (same.mem_iff.mpr member),
    (same.pairwise_iff fun apart => apart.symm).mp spread.apart⟩

theorem sublist (spread : Spread lower upper spans) (part : others.Sublist spans) :
    Spread lower upper others :=
  ⟨fun span member => spread.lie span (part.subset member), spread.apart.sublist part⟩

end Spread

/-- Each of the parts lies within one of the wholes, and the parts stand apart if the wholes do. -/
structure Refines (parts wholes : List Span) : Prop where
  within : ∀ part ∈ parts, part.Filled ∧ ∃ whole ∈ wholes, part.Within whole
  apart : wholes.Pairwise Span.Apart → parts.Pairwise Span.Apart

namespace Refines

variable {parts parts' wholes wholes' spans : List Span}

theorem nil : Refines [] wholes :=
  ⟨fun _ member => absurd member List.not_mem_nil, fun _ => .nil⟩

theorem refl (filled : ∀ span ∈ spans, span.Filled) : Refines spans spans :=
  ⟨fun span member => ⟨filled span member, span, member, .refl span⟩, id⟩

theorem trans (refines : Refines parts spans) (refines' : Refines spans wholes) :
    Refines parts wholes := by
  refine ⟨fun part member => ?_, fun apart => refines.apart (refines'.apart apart)⟩
  obtain ⟨filled, span, member', within⟩ := refines.within part member
  obtain ⟨_, whole, member'', within'⟩ := refines'.within span member'
  exact ⟨filled, whole, member'', within.trans within'⟩

theorem append (refines : Refines parts wholes) (refines' : Refines parts' wholes') :
    Refines (parts ++ parts') (wholes ++ wholes') where
  within := by
    refine List.forall_mem_append.mpr ⟨fun part member => ?_, fun part member => ?_⟩
    · obtain ⟨filled, whole, member', within⟩ := refines.within part member
      exact ⟨filled, whole, List.mem_append_left _ member', within⟩
    · obtain ⟨filled, whole, member', within⟩ := refines'.within part member
      exact ⟨filled, whole, List.mem_append_right _ member', within⟩
  apart := by
    intro apart
    obtain ⟨apart, apart', between⟩ := List.pairwise_append.mp apart
    refine List.pairwise_append.mpr ⟨refines.apart apart, refines'.apart apart', ?_⟩
    intro part member part' member'
    obtain ⟨_, whole, holds, within⟩ := refines.within part member
    obtain ⟨_, whole', holds', within'⟩ := refines'.within part' member'
    exact (between whole holds whole' holds').mono within within'

theorem flatMap {α : Type} {items : List α} {part whole : α → List Span}
    (each : ∀ item ∈ items, Refines (part item) (whole item)) :
    Refines (items.flatMap part) (items.flatMap whole) := by
  induction items with
  | nil => exact .nil
  | cons first rest ih =>
      rw [List.forall_mem_cons] at each
      rw [List.flatMap_cons, List.flatMap_cons]
      exact each.1.append (ih each.2)

theorem gather {α : Type} {items : List α} {part : α → List Span} {whole : α → Span}
    (each : ∀ item ∈ items, Refines (part item) [whole item]) :
    Refines (items.flatMap part) (items.map whole) := by
  rw [List.map_eq_flatMap]
  exact flatMap each

theorem of_spread {lower upper : Position} {whole : Span} (spread : Spread lower upper spans)
    (below : whole.start ≤ lower) (above : upper ≤ whole.stop) : Refines spans [whole] := by
  have within := spread.widen below above
  exact ⟨fun span member => ⟨(within.lie span member).1, whole, List.mem_singleton_self _,
    (within.lie span member).2⟩, fun _ => spread.apart⟩

/-- Spans in order refine one that holds them all. -/
theorem of_ordered {whole : Span} (filled : ∀ span ∈ spans, span.Filled)
    (ordered : spans.Pairwise Span.Before) (within : ∀ span ∈ spans, span.Within whole) :
    Refines spans [whole] :=
  of_spread ⟨fun span member => ⟨filled span member, within span member⟩, ordered.imp .inl⟩
    (le_refl _) (le_refl _)

end Refines

theorem Spread.refine {lower upper : Position} {parts wholes : List Span}
    (spread : Spread lower upper wholes) (refines : Refines parts wholes) :
    Spread lower upper parts := by
  refine ⟨fun part member => ?_, refines.apart spread.apart⟩
  obtain ⟨filled, whole, member', within⟩ := refines.within part member
  exact ⟨filled, within.trans (spread.lie whole member').2⟩

/-! ## Names in expressions -/

/-- A use of a name: of data, or of a routine that is called. -/
inductive Use where
  | variable (name : Name)
  | routine (name : Name)
  deriving DecidableEq, Repr

/-- The name that is used. -/
def Use.name : Use → Name
  | .variable name | .routine name => name

/-- A name that stands in an expression: one that is used, or a component that is selected. -/
inductive Mention where
  | use (use : Use)
  | selection (base : Expr) (name : Name)

/-- The name that is mentioned. -/
def Mention.name : Mention → Name
  | .use used => used.name
  | .selection _ name => name

/-- The place of a mentioned name. -/
def Mention.span (mention : Mention) : Span :=
  mention.name.span

/-- The use of a name, if the mention is one. -/
def Mention.use? : Mention → Option Use
  | .use used => some used
  | .selection _ _ => none

mutual

/-- The names that stand in an expression, in the order of the text. -/
def Expr.mentions : Expr → List Mention
  | .number _ _ | .truth _ _ | .string _ _ => []
  | .variable name => [.use (.variable name)]
  | .index base position _ => Expr.mentions base ++ Expr.mentions position
  | .component base name _ => Expr.mentions base ++ [.selection base name]
  | .call routine arguments _ => .use (.routine routine) :: Expr.allMentions arguments
  | .unary _ operand _ => Expr.mentions operand
  | .binary _ left right _ => Expr.mentions left ++ Expr.mentions right

/-- The names that stand in several expressions. -/
def Expr.allMentions : List Expr → List Mention
  | [] => []
  | first :: rest => Expr.mentions first ++ Expr.allMentions rest

end

theorem Expr.allMentions_eq (expressions : List Expr) :
    Expr.allMentions expressions = expressions.flatMap Expr.mentions := by
  induction expressions with
  | nil => rfl
  | cons first rest ih => rw [Expr.allMentions, List.flatMap_cons, ih]

/-- The occurrence where a name is used. -/
def Use.occurrence (use : Use) : Occurrence :=
  .use use.name

mutual

/-- The occurrences in an expression are the uses of names in it. -/
theorem Expr.occurrences_eq : ∀ expression : Expr, expression.occurrences =
    (expression.mentions.filterMap Mention.use?).map Use.occurrence
  | .number _ _ | .truth _ _ | .string _ _ | .variable _ => rfl
  | .index base position _ => by
      rw [Expr.occurrences, Expr.mentions, List.filterMap_append, List.map_append,
        Expr.occurrences_eq base, Expr.occurrences_eq position]
  | .component base _ _ => by
      rw [Expr.occurrences, Expr.mentions, List.filterMap_append, Expr.occurrences_eq base,
        List.map_append]
      exact (List.append_nil _).symm
  | .call routine arguments _ => by
      rw [Expr.occurrences, Expr.mentions, Expr.allOccurrences_eq arguments]
      rfl
  | .unary _ operand _ => Expr.occurrences_eq operand
  | .binary _ left right _ => by
      rw [Expr.occurrences, Expr.mentions, List.filterMap_append, List.map_append,
        Expr.occurrences_eq left, Expr.occurrences_eq right]

theorem Expr.allOccurrences_eq : ∀ expressions : List Expr, Expr.allOccurrences expressions =
    ((Expr.allMentions expressions).filterMap Mention.use?).map Use.occurrence
  | [] => rfl
  | first :: rest => by
      rw [Expr.allOccurrences, Expr.allMentions, List.filterMap_append, List.map_append,
        Expr.occurrences_eq first, Expr.allOccurrences_eq rest]

end

/-- The places of the names in an expression. -/
def Expr.marks (expression : Expr) : List Span :=
  expression.mentions.map Mention.span

/-! ## Statements -/

namespace Stmt

/-- The places of the names in a statement outside its nested bodies. -/
def marks (statement : Stmt) : List Span :=
  statement.expressions.flatMap Expr.marks

variable {body : List Stmt} {span : Span}

/-- The first and the last statement hold the others between them. -/
theorem within_extent_of_filled (filled : ∀ statement ∈ body, statement.span.Filled)
    (ordered : (body.map Stmt.span).Pairwise Span.Before) :
    ∀ statement ∈ body, statement.span.Within (extent body) := by
  intro statement member
  cases body with
  | nil => cases member
  | cons first rest =>
      obtain ⟨front, last, split⟩ := (first :: rest).eq_nil_or_concat.resolve_left
        (List.cons_ne_nil first rest)
      rw [List.concat_eq_append] at split
      have covers : extent (first :: rest) = first.span.merge last.span := by
        rw [extent, split, List.getLast?_append, ← split]
        rfl
      have starts : first.span.start ≤ statement.span.start := by
        rcases List.mem_cons.mp member with rfl | later
        · exact le_refl _
        · have before := (List.pairwise_cons.mp ordered).1 _ (List.mem_map_of_mem later)
          exact le_trans (le_of_lt (filled first List.mem_cons_self)) before
      have stops : statement.span.stop ≤ last.span.stop := by
        rw [split] at member ordered filled
        rcases List.mem_append.mp member with earlier | final
        · rw [List.map_append, List.pairwise_append] at ordered
          have before := ordered.2.2 _ (List.mem_map_of_mem earlier) _ List.mem_cons_self
          exact le_trans before (le_of_lt (filled last (List.mem_append_right _ List.mem_cons_self)))
        · rw [List.mem_singleton.mp final]
      rw [covers]
      exact ⟨le_trans (min_le_left _ _) starts, le_trans stops (le_max_right _ _)⟩

theorem extent_within (within : ∀ statement ∈ body, statement.span.Within span)
    (some : body ≠ []) : (extent body).Within span := by
  cases body with
  | nil => exact absurd rfl some
  | cons first rest =>
      cases ends : (first :: rest).getLast? with
      | none => exact absurd (List.getLast?_eq_none_iff.mp ends) some
      | some last =>
          have covers : extent (first :: rest) = first.span.merge last.span := by
            rw [extent, ends]
            rfl
          rw [covers]
          exact Span.merge_within (within first List.mem_cons_self)
            (within last (List.mem_of_getLast? ends))

/-- The stretch of a body, unless it is empty. -/
def stretch (body : List Stmt) : List Span :=
  if body.isEmpty then [] else [extent body]

/-- The stretches of the nested bodies that are not empty. -/
def stretches (statement : Stmt) : List Span :=
  statement.bodies.flatMap fun nested => stretch nested.statements

end Stmt

/-- Names and bodies lie between two places, each apart from the others. Something else stands in
front of each body, and between any two of them. -/
structure Arrangement (lower upper : Position) (marks stretches : List Span) : Prop where
  spread : Spread lower upper (marks ++ stretches)
  behind : ∀ stretch ∈ stretches, lower < stretch.start
  parted : stretches.Pairwise Span.Parted

/-- The parts of the statement are arranged, and it goes on behind them. -/
def Stmt.Arranged (statement : Stmt) : Prop :=
  ∃ upper, upper < statement.span.stop ∧
    Arrangement statement.span.start upper statement.marks statement.stretches

namespace Arrangement

variable {lower middle middle' upper lower' upper' : Position}
  {marks stretches marks' stretches' : List Span}

theorem of_spread (spread : Spread lower upper marks) : Arrangement lower upper marks [] :=
  ⟨by rwa [List.append_nil], fun _ member => absurd member List.not_mem_nil, .nil⟩

theorem widen (arranged : Arrangement lower upper marks stretches) (below : lower' ≤ lower)
    (above : upper ≤ upper') : Arrangement lower' upper' marks stretches :=
  ⟨arranged.spread.widen below above,
    fun stretch member => lt_of_le_of_lt below (arranged.behind stretch member), arranged.parted⟩

theorem append (first : Arrangement lower middle marks stretches)
    (second : Arrangement middle' upper marks' stretches') (between : middle ≤ middle')
    (below : lower ≤ middle') (above : middle ≤ upper) :
    Arrangement lower upper (marks ++ marks') (stretches ++ stretches') where
  spread := by
    apply (first.spread.append second.spread between below above).perm
    rw [List.append_assoc, List.append_assoc]
    apply List.Perm.append_left
    rw [← List.append_assoc, ← List.append_assoc]
    exact List.perm_append_comm.append_right _
  behind := List.forall_mem_append.mpr ⟨first.behind,
    fun stretch member => lt_of_le_of_lt below (second.behind stretch member)⟩
  parted := by
    refine List.pairwise_append.mpr ⟨first.parted, second.parted, ?_⟩
    intro stretch member other member'
    have stops := (first.spread.lie stretch (List.mem_append_right _ member)).2.2
    have starts := second.behind other member'
    exact .inl (lt_of_le_of_lt (le_trans stops between) starts)

theorem sublist (arranged : Arrangement lower upper marks stretches)
    (part : marks'.Sublist marks) (part' : stretches'.Sublist stretches) :
    Arrangement lower upper marks' stretches' :=
  ⟨arranged.spread.sublist (part.append part'),
    fun stretch member => arranged.behind stretch (part'.subset member),
    arranged.parted.sublist part'⟩

theorem perm (arranged : Arrangement lower upper marks stretches) (same : marks.Perm marks')
    (same' : stretches.Perm stretches') : Arrangement lower upper marks' stretches' :=
  ⟨arranged.spread.perm (same.append same'),
    fun stretch member => arranged.behind stretch (same'.mem_iff.mpr member),
    (same'.pairwise_iff fun parted => parted.symm).mp arranged.parted⟩

end Arrangement

/-! ## Nested bodies -/

/-- The statements of a body, with nested spans and one behind the other. -/
structure Stmt.Row (named : Name → Prop) (body : List Stmt) : Prop where
  nested : ∀ statement ∈ body, statement.Nested named
  ordered : (body.map Stmt.span).Pairwise Span.Before

/-- In every body of a statement with nested spans, the statements stand in a row. -/
theorem Stmt.Nested.row {named : Name → Prop} {statement : Stmt} (nested : statement.Nested named) :
    ∀ inner ∈ statement.bodies, Stmt.Row named inner.statements := by
  cases nested with
  | block lists nested | «while» _ _ lists nested | «for» _ _ _ _ lists nested =>
      exact List.forall_mem_singleton.mpr ⟨nested, lists.2⟩
  | conditional _ nested lists' nested' =>
      intro inner member
      rcases List.mem_append.mp (Stmt.mem_of_mem_map_plain member) with member | member
      · obtain ⟨branch, inside, same⟩ := List.mem_map.mp member
        rw [← same]
        cases nested branch inside with
        | mk _ _ lists nested => exact ⟨nested, lists.2⟩
      · have last := Option.mem_toList.mp member
        exact ⟨nested' _ last, (lists' _ last).2⟩
  | test _ _ _ nested lists' nested' =>
      intro inner member
      rcases List.mem_append.mp (Stmt.mem_of_mem_map_plain member) with member | member
      · obtain ⟨arm, inside, same⟩ := List.mem_map.mp member
        rw [← same]
        cases nested arm inside with
        | mk _ _ lists nested => exact ⟨nested, lists.2⟩
      · have last := Option.mem_toList.mp member
        exact ⟨nested' _ last, (lists' _ last).2⟩
  | _ => exact fun _ member => absurd member List.not_mem_nil

namespace Stmt.Row

variable {named : Name → Prop} {first : Stmt} {rest : List Stmt}

theorem tail (row : Row named (first :: rest)) : Row named rest :=
  ⟨(List.forall_mem_cons.mp row.nested).2, (List.pairwise_cons.mp row.ordered).2⟩

theorem head (row : Row named (first :: rest)) : first.Nested named :=
  row.nested first List.mem_cons_self

end Stmt.Row

end RapidLang
