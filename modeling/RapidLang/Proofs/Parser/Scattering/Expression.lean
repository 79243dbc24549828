import RapidLang.Proofs.Parser.Arrangement.Expression

/-!
# The occurrences in expressions stand apart

Occurrences are scattered if their names are spread out, and what is declared there has these names.
The occurrences in an expression are the names in it that are used.
-/

set_option autoImplicit false

namespace RapidLang

open Text

/-! ## Occurrences between two places -/

/-- One of the two occurrences ends before the other begins. -/
def Occurrence.Apart (first second : Occurrence) : Prop :=
  first.name.span.Before second.name.span ∨ second.name.span.Before first.name.span

/-- The occurrence has a name that lies between two places and is not empty. A symbol that is
declared there has the same name. -/
structure Occurrence.Lies (lower upper : Position) (occurrence : Occurrence) : Prop where
  lower_le : lower ≤ occurrence.name.span.start
  filled : occurrence.name.span.Filled
  le_upper : occurrence.name.span.stop ≤ upper
  declares : ∀ symbol ∈ occurrence.declares, symbol.name = occurrence.name

/-- The occurrences lie between two places, each apart from the others. -/
structure Scattered (lower upper : Position) (occurrences : List Occurrence) : Prop where
  lie : ∀ occurrence ∈ occurrences, occurrence.Lies lower upper
  apart : occurrences.Pairwise Occurrence.Apart

theorem Occurrence.Apart.symm {first second : Occurrence} (apart : first.Apart second) :
    second.Apart first :=
  Or.symm apart

namespace Scattered

variable {lower middle upper lower' middle' upper' : Position}
  {occurrences others : List Occurrence} {named : Name → Prop}

theorem nil : Scattered lower upper [] :=
  ⟨fun _ member => absurd member List.not_mem_nil, .nil⟩

theorem declaration {symbol : Symbol} (sits : Sits named lower upper symbol.name) :
    Scattered lower upper [.declaration symbol] := by
  refine ⟨List.forall_mem_singleton.mpr ⟨sits.lower_le, sits.nested.1, sits.le_upper, ?_⟩,
    List.pairwise_singleton _ _⟩
  rintro _ ⟨⟩
  rfl

theorem use {name : Name} (sits : Sits named lower upper name) :
    Scattered lower upper [.use name] :=
  ⟨List.forall_mem_singleton.mpr
    ⟨sits.lower_le, sits.nested.1, sits.le_upper, fun _ none => nomatch none⟩,
    List.pairwise_singleton _ _⟩

theorem widen (scattered : Scattered lower upper occurrences) (below : lower' ≤ lower)
    (above : upper ≤ upper') : Scattered lower' upper' occurrences := by
  refine ⟨fun occurrence member => ?_, scattered.apart⟩
  obtain ⟨starts, filled, stops, declares⟩ := scattered.lie occurrence member
  exact ⟨le_trans below starts, filled, le_trans stops above, declares⟩

theorem append (first : Scattered lower middle occurrences)
    (second : Scattered middle' upper others) (between : middle ≤ middle')
    (below : lower ≤ middle') (above : middle ≤ upper) :
    Scattered lower upper (occurrences ++ others) := by
  constructor
  · have first' := first.widen (le_refl lower) above
    have second' := second.widen below (le_refl upper)
    exact List.forall_mem_append.mpr ⟨first'.lie, second'.lie⟩
  · refine List.pairwise_append.mpr ⟨first.apart, second.apart, ?_⟩
    intro occurrence member other member'
    have stops := (first.lie occurrence member).le_upper
    have starts := (second.lie other member').lower_le
    exact .inl (le_trans stops (le_trans between starts))

theorem perm (scattered : Scattered lower upper occurrences) (same : occurrences.Perm others) :
    Scattered lower upper others :=
  ⟨fun occurrence member => scattered.lie occurrence (same.mem_iff.mpr member),
    (same.pairwise_iff fun apart => apart.symm).mp scattered.apart⟩

theorem sublist (scattered : Scattered lower upper occurrences) (part : others.Sublist occurrences) :
    Scattered lower upper others :=
  ⟨fun occurrence member => scattered.lie occurrence (part.subset member),
    scattered.apart.sublist part⟩

end Scattered

theorem Scattered.additive : Additive Scattered :=
  ⟨.nil, .widen, .append⟩

namespace Parser

open Reader

/-! ## Readers -/

variable {α : Type} {named : Name → Prop} {cursor : Cursor} {lower : Position}

/-- At every cursor the reader ends with a value whose occurrences lie where its tokens are. -/
def Reader.Scatters (named : Name → Prop) (reader : Reader α)
    (occurrences : α → List Occurrence) : Prop :=
  ∀ cursor : Cursor, reader.Reads named cursor
    fun value behind => Scattered cursor.here behind.here (occurrences value)

namespace Reader.Reads

variable {occurrences : α → List Occurrence} {item : Reader α}

theorem scatterWhile {continues : TokenKind → Bool} (once : item.Scatters named occurrences) :
    (Parser.repeatWhile continues item).Reads named cursor
      fun values behind => Scattered cursor.here behind.here (values.flatMap occurrences) :=
  gatherWhile Scattered.additive once

theorem scatterCommas (once : item.Scatters named occurrences) :
    (Parser.commaSeparated item).Reads named cursor
      fun values behind => Scattered cursor.here behind.here (values.flatMap occurrences) :=
  gatherCommas Scattered.additive once

theorem scatterOptional {kind : TokenKind} {optional : Option α → List Occurrence}
    (once : item.Scatters named occurrences) (absent : optional none = [])
    (present : ∀ value, optional (some value) = occurrences value) :
    (Parser.optionalAfter kind item).Reads named cursor
      fun found behind => Scattered cursor.here behind.here (optional found) := by
  apply optionalAfter
  · intro later
    apply (once cursor.advance).mono
    intro value behind _ scattered
    rw [present]
    exact scattered.widen later (le_refl _)
  · rw [absent]
    exact .nil

end Reader.Reads

/-! ## Expressions -/

theorem allOccurrences_eq_flatMap (expressions : List Expr) :
    Expr.allOccurrences expressions = expressions.flatMap Expr.occurrences := by
  induction expressions with
  | nil => rfl
  | cons first rest ih => rw [Expr.allOccurrences, List.flatMap_cons, ih]

/-- Names that are spread out are scattered occurrences where they are used. -/
theorem scattered_of_spread {upper : Position} {mentions : List Mention}
    (spread : Spread lower upper (mentions.map Mention.span)) :
    Scattered lower upper ((mentions.filterMap Mention.use?).map Use.occurrence) := by
  constructor
  · refine List.forall_mem_map.mpr fun use member => ?_
    obtain ⟨mention, member, found⟩ := List.mem_filterMap.mp member
    obtain ⟨filled, within⟩ := spread.lie _ (List.mem_map_of_mem member)
    cases mention with
    | use => cases found; exact ⟨within.1, filled, within.2, fun _ none => nomatch none⟩
    | selection => cases found
  · rw [List.pairwise_map, List.pairwise_filterMap]
    apply (List.pairwise_map.mp spread.apart).imp
    intro mention other apart use found use' found'
    cases mention with
    | selection => cases found
    | use =>
        cases other with
        | selection => cases found'
        | use => cases found; cases found'; exact apart

/-- The names of an expression lie where its tokens are, each apart from the others. -/
theorem expression_scatters : expression.Scatters named Expr.occurrences := by
  intro cursor
  apply (expression_spreads cursor).mono
  intro value behind _ spread
  rw [Expr.occurrences_eq]
  exact scattered_of_spread spread

end Parser

end RapidLang
