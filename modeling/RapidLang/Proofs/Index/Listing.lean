import Mathlib.Data.List.Nodup
import Mathlib.Data.Prod.Lex
import Mathlib.Data.String.Basic
import RapidLang.Proofs.Index.Occurrence

/-!
# Lists in order

An index lists occurrences by position, and symbols by position or by name. No two names of a
program begin at the same place, so all these orders are strict, and none of the lists depends on
the order in which a table of symbols yields them.
-/

set_option autoImplicit false

namespace RapidLang

open Text

/-! ## Sorting by a key -/

section Keys

variable {α β : Type} [LinearOrder β] {key : α → β} {values others : List α}

/-- Values with different keys are in strict order when they are sorted. -/
theorem ascending_mergeSort (distinct : values.Pairwise fun left right => key left ≠ key right) :
    (values.mergeSort fun left right => key left ≤ key right).Pairwise
      fun left right => key left < key right := by
  have sorted : (values.mergeSort fun left right => key left ≤ key right).Pairwise
      fun left right => key left ≤ key right := by
    refine (List.pairwise_mergeSort ?_ ?_ values).imp of_decide_eq_true
    · intro left middle right
      simp only [decide_eq_true_eq]
      exact le_trans
    · intro left right
      simpa using le_total (key left) (key right)
  have distinct' : (values.mergeSort fun left right => key left ≤ key right).Pairwise
      fun left right => key left ≠ key right :=
    ((List.mergeSort_perm values _).symm.pairwise_iff Ne.symm).mp distinct
  exact (sorted.and distinct').imp fun both => lt_of_le_of_ne both.1 both.2

/-- In which order values with different keys are given to be sorted does not matter. -/
theorem mergeSort_congr_perm (distinct : values.Pairwise fun left right => key left ≠ key right)
    (same : others.Perm values) :
    (others.mergeSort fun left right => key left ≤ key right) =
      values.mergeSort fun left right => key left ≤ key right := by
  have distinct' : others.Pairwise fun left right => key left ≠ key right :=
    (same.symm.pairwise_iff Ne.symm).mp distinct
  apply List.Perm.eq_of_pairwise _ (ascending_mergeSort distinct') (ascending_mergeSort distinct)
  · exact (List.mergeSort_perm others _).trans (same.trans (List.mergeSort_perm values _).symm)
  · exact fun _ _ _ _ before after => absurd before (lt_asymm after)

end Keys

/-! ## The orders of an index -/

/-- The place of a name in alphabetical order. -/
def Name.rank (name : Name) : String ×ₗ Position :=
  toLex (name.text, name.span.start)

theorem Name.sortsBefore_eq (left right : Name) :
    left.sortsBefore right = decide (left.rank ≤ right.rank) := by
  rw [sortsBefore, precedes, Bool.eq_iff_iff]
  simp [rank, Prod.Lex.toLex_le_toLex]

section Orders

variable {symbols others : List Symbol} {occurrences : List Occurrence} {lower upper : Position}

/-- The names of no two of the symbols begin at the same place. -/
def Symbol.Distinct (symbols : List Symbol) : Prop :=
  symbols.Pairwise fun symbol other => symbol.name.span.start ≠ other.name.span.start

namespace Symbol.Distinct

theorem nodup (distinct : Distinct symbols) : symbols.Nodup :=
  distinct.imp fun different same =>
    different (congrArg (fun symbol : Symbol => symbol.name.span.start) same)

theorem ranks (distinct : Distinct symbols) :
    symbols.Pairwise fun symbol other => symbol.name.rank ≠ other.name.rank :=
  distinct.imp fun different same => different (congrArg (fun rank => (ofLex rank).2) same)

theorem ascending_byPosition (distinct : Distinct symbols) :
    (byPosition symbols).Pairwise
      fun symbol other => symbol.name.span.start < other.name.span.start :=
  ascending_mergeSort distinct

theorem byPosition_congr_perm (distinct : Distinct symbols) (same : others.Perm symbols) :
    byPosition others = byPosition symbols :=
  mergeSort_congr_perm distinct same

theorem byName_eq (symbols : List Symbol) :
    byName symbols = symbols.mergeSort fun left right => left.name.rank ≤ right.name.rank := by
  unfold byName
  simp only [Name.sortsBefore_eq]

theorem ascending_byName (distinct : Distinct symbols) :
    (byName symbols).Pairwise fun symbol other => symbol.name.text < other.name.text ∨
      (symbol.name.text = other.name.text ∧
        symbol.name.span.start < other.name.span.start) := by
  rw [byName_eq]
  exact (ascending_mergeSort distinct.ranks).imp Prod.Lex.toLex_lt_toLex.mp

theorem byName_congr_perm (distinct : Distinct symbols) (same : others.Perm symbols) :
    byName others = byName symbols := by
  rw [byName_eq, byName_eq]
  exact mergeSort_congr_perm distinct.ranks same

end Symbol.Distinct

/-- Each occurrence of an index stands before the next one. -/
theorem Scattered.ascending {program : Program}
    (scattered : Scattered lower upper program.occurrences) :
    (Index.ofProgram program).occurrences.Pairwise
      fun first second => first.name.span.start < second.name.span.start :=
  ascending_mergeSort scattered.starts_apart

end Orders

/-! ## Tables of symbols -/

namespace Index

variable {index : Index} {listed : List Symbol}

/-- The symbols of a name, in the order in which they are declared. -/
def bucket (index : Index) (name : String) : List Symbol :=
  index.symbols.filter fun symbol => symbol.name.text == name

/-- The symbols are listed in one bucket for each declared name; the order of the buckets is left
open. -/
def Yields (index : Index) (listed : List Symbol) : Prop :=
  ∃ names : List String, names.Nodup ∧
    (∀ name ∈ names, ∃ symbol ∈ index.symbols, symbol.name.text = name) ∧
    (∀ symbol ∈ index.symbols, symbol.name.text ∈ names) ∧
    listed = names.flatMap index.bucket

/-- Whatever the order of the buckets, each symbol is listed once. -/
theorem Yields.perm (yields : index.Yields listed) (nodup : index.symbols.Nodup) :
    listed.Perm index.symbols := by
  obtain ⟨names, different, _, covered, rfl⟩ := yields
  refine (List.perm_ext_iff_of_nodup ?_ nodup).mpr ?_
  · refine List.nodup_flatMap.mpr ⟨fun name _ => nodup.filter _, different.imp ?_⟩
    intro name other apart symbol member member'
    have own := beq_iff_eq.mp (List.mem_filter.mp member).2
    have own' := beq_iff_eq.mp (List.mem_filter.mp member').2
    exact apart (own.symm.trans own')
  · intro symbol
    rw [List.mem_flatMap]
    constructor
    · rintro ⟨name, _, member⟩
      exact (List.mem_filter.mp member).1
    · intro member
      exact ⟨symbol.name.text, covered symbol member,
        List.mem_filter.mpr ⟨member, beq_self_eq_true _⟩⟩

theorem mem_symbolsStartingWith {letters : String} {symbol : Symbol} :
    symbol ∈ index.symbolsStartingWith letters ↔ symbol ∈ index.symbols ∧
      (lowerCase letters).toList <+: (lowerCase symbol.name.text).toList := by
  rw [symbolsStartingWith, Symbol.byName, List.mem_mergeSort, List.mem_filter, beginsWith,
    List.isPrefixOf_iff_prefix]

/-- However a table of the symbols orders its buckets, the same lists come out: all symbols, each
once, in strict order of their places, and those that begin with some letters, in strict order of
their names and places. -/
theorem listings_ignore_buckets {source : String} {program : Program} {listed : List Symbol}
    (parsed : (Parsed.ofString source).program = some program)
    (yields : (ofProgram program).Yields listed) :
    (Symbol.byPosition listed = (ofProgram program).symbolsByPosition ∧
      (ofProgram program).symbolsByPosition.Perm (ofProgram program).symbols ∧
      (ofProgram program).symbolsByPosition.Pairwise fun symbol other =>
        symbol.name.span.start < other.name.span.start) ∧
    ∀ letters,
      Symbol.byName (listed.filter fun symbol => beginsWith letters symbol.name.text) =
          (ofProgram program).symbolsStartingWith letters ∧
        (∀ symbol, symbol ∈ (ofProgram program).symbolsStartingWith letters ↔
          symbol ∈ (ofProgram program).symbols ∧
            (lowerCase letters).toList <+: (lowerCase symbol.name.text).toList) ∧
        ((ofProgram program).symbolsStartingWith letters).Pairwise fun symbol other =>
          symbol.name.text < other.name.text ∨ (symbol.name.text = other.name.text ∧
            symbol.name.span.start < other.name.span.start) := by
  obtain ⟨_, _, scattered⟩ := Parser.scattered_of_ok (Parser.ofTokens_of_parsed parsed)
  have distinct : Symbol.Distinct (ofProgram program).symbols := scattered.symbol_starts_apart
  have same := yields.perm distinct.nodup
  refine ⟨⟨distinct.byPosition_congr_perm same, List.mergeSort_perm _ _,
    distinct.ascending_byPosition⟩, fun letters => ?_⟩
  have selected : Symbol.Distinct ((ofProgram program).symbols.filter fun symbol =>
      beginsWith letters symbol.name.text) := distinct.filter _
  exact ⟨selected.byName_congr_perm (same.filter _), fun _ => mem_symbolsStartingWith,
    selected.ascending_byName⟩

/-- A program that declares the name `x` three times. -/
def repeatedName : String :=
  "MODULE M VAR num x; PROC p(num x) ENDPROC PROC q() VAR num X1; VAR num x; ENDPROC ENDMODULE"

theorem listings_ignore_buckets_of_repeatedName :
    ∃ program, (Parsed.ofString repeatedName).program = some program ∧
      (ofProgram program).Yields (["q", "X1", "x", "p"].flatMap (ofProgram program).bucket) ∧
      Symbol.byPosition (["q", "X1", "x", "p"].flatMap (ofProgram program).bucket) =
        (ofProgram program).symbolsByPosition ∧
      Symbol.byName ((["q", "X1", "x", "p"].flatMap (ofProgram program).bucket).filter
        fun symbol => beginsWith "X" symbol.name.text) =
          (ofProgram program).symbolsStartingWith "X" := by
  have meets : ((Parsed.ofString repeatedName).program.any fun program =>
      decide ((∀ name ∈ ["q", "X1", "x", "p"],
          ∃ symbol ∈ (ofProgram program).symbols, symbol.name.text = name) ∧
        ∀ symbol ∈ (ofProgram program).symbols, symbol.name.text ∈ ["q", "X1", "x", "p"])) =
      true := by
    decide +kernel
  obtain ⟨program, parsed, meets⟩ := (Option.any_eq_true _ _).mp meets
  obtain ⟨declared, covered⟩ := of_decide_eq_true meets
  have yields : (ofProgram program).Yields
      (["q", "X1", "x", "p"].flatMap (ofProgram program).bucket) :=
    ⟨_, by decide, declared, covered, rfl⟩
  obtain ⟨⟨byPosition, _⟩, byName⟩ := listings_ignore_buckets parsed yields
  exact ⟨program, parsed, yields, byPosition, (byName "X").1⟩

end Index

end RapidLang
