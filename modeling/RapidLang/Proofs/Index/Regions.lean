import RapidLang.Proofs.Index.Definition
import RapidLang.Proofs.Parser.Arrangement.Names

/-!
# The innermost local name

Of the regions of two local names one lies within the other, or they do not even touch: something
stands around each nested body, and routines and loops with a counter are set off by reserved words.
So among the regions that hold a place, one that begins last lies within the others, except for those
that begin at the same place.
-/

set_option autoImplicit false

namespace RapidLang

open Text

/-! ## Regions within regions -/

/-- One of the spans lies within the other, or they do not even touch. -/
def Text.Span.Laminar (left right : Span) : Prop :=
  left.Within right ∨ right.Within left ∨ left.Parted right

/-- The region lies within a span. It reaches the ends of it only if it runs from a reserved word to a
reserved word. -/
structure Text.Span.Firm (tokens : List Token) (region outer : Span) : Prop where
  within : region.Within outer
  held : (outer.start < region.start ∧ region.stop < outer.stop) ∨ region.Bracketed tokens

/-- No reserved word begins where another one ends. -/
def WordsApart (tokens : List Token) : Prop :=
  ∀ first ∈ tokens, ∀ second ∈ tokens, first.kind.isReserved → second.kind.isReserved →
    first.span.stop ≠ second.span.start

/-- Each of the regions lies firmly within one of some spans, and where these stand in order, the
regions are laminar. -/
structure Settles (tokens : List Token) (regions outers : List Span) : Prop where
  firm : ∀ region ∈ regions, ∃ outer ∈ outers, region.Firm tokens outer
  laminar : outers.Pairwise Span.Before → regions.Pairwise Span.Laminar

section Spans

variable {tokens : List Token} {left right region region' outer outer' : Span}

namespace Text.Span

instance : Std.Symm Laminar where
  symm _ _ laminar := by
    rcases laminar with within | within | parted
    · exact .inr (.inl within)
    · exact .inl within
    · exact .inr (.inr parted.symm)

theorem Firm.mono (firm : region.Firm tokens outer) (within : outer.Within outer') :
    region.Firm tokens outer' :=
  ⟨firm.within.trans within, firm.held.imp_left fun inside =>
    ⟨lt_of_le_of_lt within.1 inside.1, lt_of_lt_of_le inside.2 within.2⟩⟩

/-- Regions that lie firmly in spans one before the other do not touch, even if the spans do. -/
theorem Firm.parted (words : WordsApart tokens) (before : outer.Before outer')
    (firm : region.Firm tokens outer) (firm' : region'.Firm tokens outer') :
    region.Parted region' := by
  -- Only if both regions reach the ends of their spans can they meet, and then two words do.
  have before : outer.stop ≤ outer'.start := before
  have stops := firm.within.2
  have starts := firm'.within.1
  refine .inl ?_
  rcases firm.held with inside | ⟨_, _, last, member, _, reserved, rfl⟩
  · order
  rcases firm'.held with inside | ⟨first, member', _, _, reserved', _, rfl⟩
  · order
  · have apart := words last member first member' reserved reserved'
    exact lt_of_le_of_ne (le_trans stops (le_trans before starts)) apart

theorem Laminar.within {place : Position} (laminar : left.Laminar right)
    (holds : left.contains place = true) (holds' : right.contains place = true) :
    left.Within right ∨ right.Within left := by
  simp only [contains, Bool.and_eq_true, decide_eq_true_eq] at holds holds'
  rcases laminar with within | within | before | before
  · exact .inl within
  · exact .inr within
  · order
  · order

end Text.Span

namespace Settles

variable {regions regions' outers outers' : List Span}

theorem nil : Settles tokens [] outers :=
  ⟨fun _ member => absurd member List.not_mem_nil, fun _ => .nil⟩

theorem one (firm : ∀ region ∈ regions, region.Firm tokens outer)
    (laminar : regions.Pairwise Span.Laminar) : Settles tokens regions [outer] :=
  ⟨fun region member => ⟨outer, List.mem_cons_self, firm region member⟩, fun _ => laminar⟩

theorem append (words : WordsApart tokens) (settles : Settles tokens regions outers)
    (settles' : Settles tokens regions' outers') :
    Settles tokens (regions ++ regions') (outers ++ outers') where
  firm := by
    refine List.forall_mem_append.mpr ⟨fun region member => ?_, fun region member => ?_⟩
    · obtain ⟨outer, member', firm⟩ := settles.firm region member
      exact ⟨outer, List.mem_append_left _ member', firm⟩
    · obtain ⟨outer, member', firm⟩ := settles'.firm region member
      exact ⟨outer, List.mem_append_right _ member', firm⟩
  laminar := by
    intro ordered
    obtain ⟨ordered, ordered', between⟩ := List.pairwise_append.mp ordered
    refine List.pairwise_append.mpr ⟨settles.laminar ordered, settles'.laminar ordered', ?_⟩
    intro region member region' member'
    obtain ⟨outer, held, firm⟩ := settles.firm region member
    obtain ⟨outer', held', firm'⟩ := settles'.firm region' member'
    exact .inr (.inr (firm.parted words (between outer held outer' held') firm'))

theorem gather {α : Type} {items : List α} {gather : α → List Span} {place : α → Span}
    (words : WordsApart tokens)
    (each : ∀ item ∈ items, Settles tokens (gather item) [place item]) :
    Settles tokens (items.flatMap gather) (items.map place) := by
  induction items with
  | nil => exact .nil
  | cons first rest ih =>
      rw [List.forall_mem_cons] at each
      exact append words each.1 (ih each.2)

end Settles

end Spans

/-! ## Regions in statements -/

section Statements

variable {named : Name → Prop} {tokens : List Token} {statement : Stmt} {body : List Stmt}
  {region whole : Span}

namespace Stmt

/-- What lies within a nested body lies firmly within the statement. -/
theorem Arranged.firm (arranged : statement.Arranged) (member : whole ∈ statement.stretches)
    (within : region.Within whole) : region.Firm tokens statement.span := by
  obtain ⟨upper, inside, arrangement⟩ := arranged
  have starts := lt_of_lt_of_le (arrangement.behind whole member) within.1
  have stops := (arrangement.spread.lie whole (List.mem_append_right _ member)).2.2
  have stops' := lt_of_le_of_lt (le_trans within.2 stops) inside
  exact ⟨⟨le_of_lt starts, le_of_lt stops'⟩, .inl ⟨starts, stops'⟩⟩

theorem Placed.own_firm (placed : statement.Placed tokens) :
    ∀ region ∈ statement.ownRegions, region.Firm tokens statement.span := by
  have stretches : ∀ region ∈ statement.stretches, region.Firm tokens statement.span :=
    fun region member => placed.arranged.firm member (.refl region)
  have bracketed := placed.bracketed
  cases statement with
  | block => cases bracketed
  | «for» => exact List.forall_mem_singleton.mpr ⟨.refl _, .inr bracketed⟩
  | _ => exact stretches

theorem Placed.own_parted (placed : statement.Placed tokens) :
    statement.ownRegions.Pairwise Span.Parted := by
  obtain ⟨_, _, arrangement⟩ := placed.arranged
  cases statement with
  | block | «for» => exact List.pairwise_singleton _ _
  | _ => exact arrangement.parted

/-- A nested body lies within a region of the statement, or apart from it. -/
theorem Placed.own_stretches (placed : statement.Placed tokens)
    (own : region ∈ statement.ownRegions) (member : whole ∈ statement.stretches) :
    whole.Within region ∨ region.Parted whole := by
  have firm : whole.Firm tokens statement.span := placed.arranged.firm member (.refl whole)
  obtain ⟨_, _, arrangement⟩ := placed.arranged
  have stretches : region ∈ statement.stretches → whole.Within region ∨ region.Parted whole := by
    intro own
    by_cases same : region = whole
    · exact .inl (same ▸ .refl whole)
    · exact .inr (arrangement.parted.forall own member same)
  cases statement with
  | block | «for» => exact .inl (List.mem_singleton.mp own ▸ firm.within)
  | _ => exact stretches own

/-- The regions in a statement settle in it, if those in each nested body are laminar and lie within
the body. -/
theorem Placed.settles (placed : statement.Placed tokens)
    (laminar : ∀ nested ∈ statement.bodies, (regions nested.statements).Pairwise Span.Laminar)
    (inside : ∀ nested ∈ statement.bodies, ∀ region ∈ regions nested.statements,
      ∃ whole ∈ stretch nested.statements, region.Within whole) :
    Settles tokens (statement.ownRegions
      ++ statement.bodies.flatMap fun nested => regions nested.statements) [statement.span] := by
  obtain ⟨_, _, arrangement⟩ := placed.arranged
  have parted := List.pairwise_flatMap.mp arrangement.parted
  apply Settles.one
  · refine List.forall_mem_append.mpr ⟨placed.own_firm, fun region member => ?_⟩
    obtain ⟨nested, among, member⟩ := List.mem_flatMap.mp member
    obtain ⟨whole, held, within⟩ := inside nested among region member
    exact placed.arranged.firm (List.mem_flatMap.mpr ⟨nested, among, held⟩) within
  -- Two regions of the statement itself, two in different nested bodies, and one of each.
  · refine List.pairwise_append.mpr ⟨?_, List.pairwise_flatMap.mpr ⟨laminar, ?_⟩, ?_⟩
    · exact placed.own_parted.imp fun parted => .inr (.inr parted)
    · refine parted.2.imp_of_mem ?_
      intro nested nested' among among' parted region member region' member'
      obtain ⟨whole, held, within⟩ := inside nested among region member
      obtain ⟨whole', held', within'⟩ := inside nested' among' region' member'
      exact .inr (.inr ((parted whole held whole' held').mono within within'))
    · intro own member region member'
      obtain ⟨nested, among, member'⟩ := List.mem_flatMap.mp member'
      obtain ⟨whole, held, within⟩ := inside nested among region member'
      rcases placed.own_stretches member (List.mem_flatMap.mpr ⟨nested, among, held⟩) with
        holds | parted
      · exact .inr (.inl (within.trans holds))
      · exact .inr (.inr (parted.mono (.refl own) within))

theorem regions_settle (words : WordsApart tokens) (row : Row named body)
    (placed : ∀ part ∈ all body, part.Placed tokens) :
    Settles tokens (regions body) (body.map Stmt.span) := by
  -- That the regions of a nested body lie in its statements keeps them apart from those of others.
  induction body using body_induction with
  | nil =>
      rw [regions, all_nil]
      exact .nil
  | cons first rest innerIH restIH =>
      rw [all_cons, List.forall_mem_append, List.forall_mem_cons] at placed
      obtain ⟨⟨own, inner⟩, behind⟩ := placed
      have below : ∀ nested ∈ first.bodies,
          Settles tokens (regions nested.statements) (nested.statements.map Stmt.span) :=
        fun nested member => innerIH nested member (row.head.row nested member)
          fun part held => inner part (List.mem_flatMap.mpr ⟨nested, member, held⟩)
      rw [regions_cons]
      refine .append words (own.settles ?_ ?_) (restIH row.tail behind)
      · exact fun nested member => (below nested member).laminar (row.head.row nested member).ordered
      · intro nested member region held
        obtain ⟨outer, held', firm⟩ := (below nested member).firm region held
        obtain ⟨_, whole, held, within⟩ := (row.head.row nested member).refines.within outer held'
        exact ⟨whole, held, firm.within.trans within⟩

end Stmt

end Statements

/-! ## Regions in programs -/

section Programs

variable {named : Name → Prop} {tokens : List Token} {declaration : Decl} {program : Program}

theorem Decl.Placed.settles (words : WordsApart tokens) (nested : declaration.Nested named)
    (placed : declaration.Placed tokens) :
    Settles tokens declaration.regions [declaration.span] := by
  have routine : ∀ {body : List Stmt} {span : Span}, span.Bracketed tokens →
      span.Lists (body.map Stmt.span) → (∀ statement ∈ body, statement.Nested named) →
      (∀ statement ∈ Stmt.all body, statement.Placed tokens) →
      Settles tokens (span :: Stmt.regions body) [span] := by
    intro body span bracketed lists nested placed
    have statements := Stmt.regions_settle words ⟨nested, lists.2⟩ placed
    have inside : ∀ region ∈ Stmt.regions body, region.Firm tokens span := by
      intro region member
      obtain ⟨outer, held, firm⟩ := statements.firm region member
      exact firm.mono (lists.1.2 outer held)
    apply Settles.one
    · exact List.forall_mem_cons.mpr ⟨⟨.refl span, .inr bracketed⟩, inside⟩
    · refine .cons (fun region member => .inr (.inl (inside region member).within)) ?_
      exact statements.laminar lists.2
  cases placed with
  | data | record => exact .nil
  | proc bracketed placed =>
      cases nested with
      | proc _ _ _ _ lists nested => exact routine bracketed lists nested placed
  | func bracketed placed =>
      cases nested with
      | func _ _ _ _ _ lists nested => exact routine bracketed lists nested placed
  | trap bracketed placed =>
      cases nested with
      | trap _ _ lists nested => exact routine bracketed lists nested placed

/-- Of two regions of a program one lies within the other, or they do not touch. -/
theorem Program.regions_laminar (words : WordsApart tokens) (nested : program.Nested named)
    (placed : ∀ content ∈ program.modules, ∀ declaration ∈ content.declarations,
      declaration.Placed tokens) :
    ∀ region ∈ program.regions, ∀ region' ∈ program.regions, region.Laminar region' := by
  have declarations : Settles tokens program.regions
      ((program.modules.flatMap Module.declarations).map Decl.span) := by
    apply Settles.gather words
    intro declaration member
    obtain ⟨content, inside, among⟩ := List.mem_flatMap.mp member
    exact (placed content inside declaration among).settles words (nested.nested_of_mem member)
  have laminar := declarations.laminar (List.pairwise_map.mpr nested.spans_ordered)
  intro region member region' member'
  exact laminar.forall_of_forall (fun region _ => .inl (.refl region)) member member'

end Programs

/-! ## The innermost local symbol -/

/-- The symbol is a local one of the name, and its region holds the place. -/
structure Symbol.Around (name : String) (place : Position) (region : Span) (symbol : Symbol) :
    Prop where
  named : symbol.name.text = name
  scope : symbol.scope = some region
  holds : region.contains place = true

instance (name : String) (place : Position) (region : Span) (symbol : Symbol) :
    Decidable (symbol.Around name place region) :=
  decidable_of_iff (symbol.name.text = name ∧ symbol.scope = some region ∧
      region.contains place = true)
    ⟨fun ⟨named, scope, holds⟩ => ⟨named, scope, holds⟩,
      fun ⟨named, scope, holds⟩ => ⟨named, scope, holds⟩⟩

instance (inner outer : Span) : Decidable (inner.Within outer) :=
  inferInstanceAs (Decidable (_ ∧ _))

section Innermost

variable {index : Index} {program : Program} {source name : String} {place : Position}
  {symbol : Symbol} {region : Span}

theorem Symbol.Around.isLocalAt (around : symbol.Around name place region) :
    symbol.isLocalAt place = true :=
  (Option.any_eq_true _ _).mpr ⟨region, around.scope, around.holds⟩

/-- Where a local symbol of a name counts, the index finds one, and no other one begins after it. -/
theorem Index.resolve?_of_around (near : ∃ symbol ∈ index.symbols, ∃ region,
      symbol.Around name place region) :
    ∃ symbol ∈ index.symbols, ∃ region, index.resolve? name place = some symbol ∧
      symbol.Around name place region ∧
      ∀ other ∈ index.symbols, ∀ region', other.Around name place region' →
        region'.start ≤ region.start := by
  let visible := (index.symbols.filter fun symbol => symbol.name.text == name).filter
    fun symbol => symbol.isLocalAt place
  have counts : ∀ symbol ∈ index.symbols, ∀ region, symbol.Around name place region →
      symbol ∈ visible := by
    intro symbol listed region around
    exact mem_locals listed around.named around.isLocalAt
  cases found : Symbol.innermost? visible with
  | none =>
      obtain ⟨symbol, listed, region, around⟩ := near
      have member := counts symbol listed region around
      rw [Symbol.innermost?_eq_none_iff.mp found] at member
      cases member
  | some symbol =>
      obtain ⟨member, here⟩ := List.mem_filter.mp (Symbol.mem_of_innermost? found)
      obtain ⟨listed, same⟩ := List.mem_filter.mp member
      obtain ⟨region, scope, holds⟩ := (Option.any_eq_true _ _).mp here
      refine ⟨symbol, listed, region, ?_, ⟨beq_iff_eq.mp same, scope, holds⟩, ?_⟩
      · show (Symbol.innermost? visible).or _ = _
        rw [found, Option.some_or]
      · intro other listed' region' around
        have begins := Symbol.not_beginsAfter_innermost? found other
          (counts other listed' region' around)
        rw [Symbol.beginsAfter_iff] at begins
        exact not_lt.mp fun after => begins ⟨region', around.scope, region, scope, after⟩

theorem Program.symbols_laminar (parsed : (Parsed.ofString source).program = some program)
    {first second : Symbol} {region' : Span} (listed : first ∈ (Index.ofProgram program).symbols)
    (listed' : second ∈ (Index.ofProgram program).symbols) (scope : first.scope = some region)
    (scope' : second.scope = some region') : region.Laminar region' := by
  have accepted := Parser.ofTokens_of_parsed parsed
  obtain ⟨nested, _⟩ := Parser.nested_of_ok accepted
  have placed := Parser.placed_of_ok accepted
  exact Program.regions_laminar
    (fun _ member _ member' => Parser.apart_of_reserved member member') nested placed
    region (Program.mem_regions listed scope) region' (Program.mem_regions listed' scope')

/-- Where a local symbol of a name counts, the index finds one whose region lies within that of every
other one, except for those that begin at the same place and end before it. -/
theorem Index.resolve?_innermost (parsed : (Parsed.ofString source).program = some program)
    (near : ∃ symbol ∈ (Index.ofProgram program).symbols, ∃ region,
      symbol.Around name place region) :
    ∃ symbol ∈ (Index.ofProgram program).symbols, ∃ region,
      (Index.ofProgram program).resolve? name place = some symbol ∧
      symbol.Around name place region ∧
      ∀ other ∈ (Index.ofProgram program).symbols, ∀ region', other.Around name place region' →
        region.Within region' ∨ (region'.start = region.start ∧ region'.stop < region.stop) := by
  obtain ⟨symbol, listed, region, found, around, starts⟩ := resolve?_of_around near
  refine ⟨symbol, listed, region, found, around, ?_⟩
  intro other listed' region' around'
  have starts := starts other listed' region' around'
  have laminar := Program.symbols_laminar parsed listed listed' around.scope around'.scope
  rcases laminar.within around.holds around'.holds with within | within
  · exact .inl within
  · rcases eq_or_lt_of_le within.2 with same | shorter
    · exact .inl ⟨starts, ge_of_eq same⟩
    · exact .inr ⟨le_antisymm starts within.1, shorter⟩

/-- A procedure that declares data with the name of the counter of a loop in front of the loop. -/
def loopBehindData : String :=
  "MODULE M PROC p() VAR num i; FOR i FROM 1 TO 2 TPWrite i; ENDFOR ENDPROC ENDMODULE"

theorem resolve?_innermost_for_loopBehindData :
    ∃ program, (Parsed.ofString loopBehindData).program = some program ∧
      ∃ symbol ∈ (Index.ofProgram program).symbols, ∃ region,
        (Index.ofProgram program).resolve? "i" ⟨1, 56⟩ = some symbol ∧
        symbol.Around "i" ⟨1, 56⟩ region ∧
        ∀ other ∈ (Index.ofProgram program).symbols, ∀ region', other.Around "i" ⟨1, 56⟩ region' →
          region.Within region' ∨ (region'.start = region.start ∧ region'.stop < region.stop) := by
  have meets : ((Parsed.ofString loopBehindData).program.any fun program =>
      (Index.ofProgram program).symbols.any fun symbol =>
        decide (symbol.Around "i" ⟨1, 56⟩ ⟨⟨1, 30⟩, ⟨1, 65⟩⟩)) = true := by
    decide +kernel
  obtain ⟨program, parsed, meets⟩ := (Option.any_eq_true _ _).mp meets
  obtain ⟨symbol, listed, meets⟩ := List.any_eq_true.mp meets
  exact ⟨program, parsed, Index.resolve?_innermost parsed
    ⟨symbol, listed, _, of_decide_eq_true meets⟩⟩

/-- A loop whose body begins with another loop, and declares data with the name of its counter. -/
def dataBehindLoop : String :=
  "MODULE M PROC p() WHILE TRUE FOR i FROM 1 TO 2 TPWrite i; ENDFOR " ++
  "VAR num i; ENDWHILE ENDPROC ENDMODULE"

/-- In the inner loop the index finds the data, although the region of the counter is smaller. -/
theorem resolve?_of_dataBehindLoop :
    ∃ program, (Parsed.ofString dataBehindLoop).program = some program ∧
      ∃ symbol ∈ (Index.ofProgram program).symbols, ∃ counter ∈ (Index.ofProgram program).symbols,
        (Index.ofProgram program).resolve? "i" ⟨1, 56⟩ = some symbol ∧
        symbol.Around "i" ⟨1, 56⟩ ⟨⟨1, 30⟩, ⟨1, 76⟩⟩ ∧
        counter.Around "i" ⟨1, 56⟩ ⟨⟨1, 30⟩, ⟨1, 65⟩⟩ ∧
        ¬(⟨⟨1, 30⟩, ⟨1, 76⟩⟩ : Span).Within ⟨⟨1, 30⟩, ⟨1, 65⟩⟩ := by
  have meets : ((Parsed.ofString dataBehindLoop).program.any fun program =>
      decide (∃ symbol ∈ (Index.ofProgram program).symbols,
        ∃ counter ∈ (Index.ofProgram program).symbols,
        (Index.ofProgram program).resolve? "i" ⟨1, 56⟩ = some symbol ∧
        symbol.Around "i" ⟨1, 56⟩ ⟨⟨1, 30⟩, ⟨1, 76⟩⟩ ∧
        counter.Around "i" ⟨1, 56⟩ ⟨⟨1, 30⟩, ⟨1, 65⟩⟩ ∧
        ¬(⟨⟨1, 30⟩, ⟨1, 76⟩⟩ : Span).Within ⟨⟨1, 30⟩, ⟨1, 65⟩⟩)) = true := by
    decide +kernel
  obtain ⟨program, parsed, meets⟩ := (Option.any_eq_true _ _).mp meets
  exact ⟨program, parsed, of_decide_eq_true meets⟩

end Innermost

end RapidLang
