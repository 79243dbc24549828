import RapidLang.Proofs.Checker.Duplicates
import RapidLang.Proofs.Index.Bodies
import RapidLang.Proofs.Index.Regions
import RapidLang.Proofs.Parser.Arrangement.Headings

/-!
# Blocks

A block is a region with the names that are declared directly in it. Two blocks of a program stand
apart, or one of them lies within the other and reaches none of the names declared directly there. So a
name is in the regions of the blocks around its own, and in no others.
-/

set_option autoImplicit false

namespace RapidLang

open Text

/-! ## Blocks within blocks -/

/-- The name is not empty, and lies in a span, behind its beginning. -/
structure Name.Behind (name : Name) (span : Span) : Prop where
  opens : span.start < name.span.start
  filled : name.span.Filled
  stops : name.span.stop ≤ span.stop

/-- A region with the names that are declared directly in it. -/
structure Block where
  region : Span
  names : List Name

namespace Block

/-- The block lies within another one, and reaches none of its names. -/
def Inside (inner outer : Block) : Prop :=
  inner.region.Within outer.region ∧
    ∀ name ∈ outer.names, inner.region.contains name.span.start = false

/-- The blocks are the same, or one is inside the other, or they do not touch. -/
def Apart (left right : Block) : Prop :=
  left = right ∨ left.Inside right ∨ right.Inside left ∨ left.region.Parted right.region

theorem Apart.symm {left right : Block} (apart : left.Apart right) : right.Apart left := by
  rcases apart with same | inside | inside | parted
  · exact .inl same.symm
  · exact .inr (.inr (.inl inside))
  · exact .inr (.inl inside)
  · exact .inr (.inr (.inr parted.symm))

end Block

section Places

variable {name : Name} {span outer : Span}

theorem Name.Behind.mono (behind : name.Behind span) (within : span.Within outer) :
    name.Behind outer :=
  ⟨lt_of_le_of_lt within.1 behind.opens, behind.filled, le_trans behind.stops within.2⟩

theorem Name.Behind.contains (behind : name.Behind span) :
    span.contains name.span.start = true := by
  have filled : name.span.start < name.span.stop := behind.filled
  simp only [Span.contains, Bool.and_eq_true, decide_eq_true_eq]
  exact ⟨le_of_lt behind.opens, le_trans (le_of_lt filled) behind.stops⟩

theorem Text.Span.Parted.not_contains {region : Span} (parted : span.Parted region)
    (behind : name.Behind span) : region.contains name.span.start = false := by
  have opens := behind.opens
  have filled : name.span.start < name.span.stop := behind.filled
  have stops := behind.stops
  simp only [Span.contains, Bool.and_eq_false_iff, decide_eq_false_iff_not, not_le]
  rcases parted with before | before
  · exact .inl (by order)
  · exact .inr (by order)

/-- A region that lies behind a name does not reach it. -/
theorem Text.Span.Before.not_contains {region : Span} (before : name.span.Before outer)
    (filled : name.span.Filled) (within : region.Within outer) :
    region.contains name.span.start = false := by
  have before : name.span.stop ≤ outer.start := before
  have filled : name.span.start < name.span.stop := filled
  have starts := within.1
  simp only [Span.contains, Bool.and_eq_false_iff, decide_eq_false_iff_not, not_le]
  exact .inl (by order)

/-- A region that lies in front of a name does not reach it. -/
theorem Text.Span.not_contains_of_within {region : Span} (within : region.Within outer)
    (before : outer.stop < name.span.start) : region.contains name.span.start = false := by
  have stops := within.2
  simp only [Span.contains, Bool.and_eq_false_iff, decide_eq_false_iff_not, not_le]
  exact .inr (by order)

end Places

namespace Block.Apart

variable {left right : Block} {name other : Name}

/-- If one block is around a name of another one, it is around the whole block. -/
theorem within (apart : left.Apart right) (held : name ∈ left.names)
    (behind : name.Behind left.region) (holds : right.region.contains name.span.start = true) :
    left.region.Within right.region := by
  rcases apart with rfl | inside | inside | parted
  · exact .refl left.region
  · exact inside.1
  · exact absurd holds (Bool.eq_false_iff.mp (inside.2 name held))
  · exact absurd holds (Bool.eq_false_iff.mp (parted.not_contains behind))

/-- Different blocks have different regions. -/
theorem eq_of_region (apart : left.Apart right) (same : left.region = right.region)
    (held : name ∈ left.names) (behind : name.Behind left.region) (held' : other ∈ right.names)
    (behind' : other.Behind right.region) : left = right := by
  have holds : right.region.contains name.span.start = true := same ▸ behind.contains
  have holds' : left.region.contains other.span.start = true := same ▸ behind'.contains
  rcases apart with equal | inside | inside | parted
  · exact equal
  · exact absurd holds' (Bool.eq_false_iff.mp (inside.2 other held'))
  · exact absurd holds (Bool.eq_false_iff.mp (inside.2 name held))
  · exact absurd holds (Bool.eq_false_iff.mp (parted.not_contains behind))

end Block.Apart

/-! ## Blocks in spans -/

/-- Each of the blocks lies firmly in one of some spans and holds its names, and each of some other
names lies in one of the spans. Where these stand in order, no block reaches the other names, and the
blocks are apart. -/
structure Houses (tokens : List Token) (blocks : List Block) (names : List Name)
    (outers : List Span) : Prop where
  firm : ∀ block ∈ blocks, ∃ outer ∈ outers, block.region.Firm tokens outer
  holds : ∀ block ∈ blocks, ∀ name ∈ block.names, name.Behind block.region
  behind : ∀ name ∈ names, ∃ outer ∈ outers, name.Behind outer
  clear : outers.Pairwise Span.Before →
    ∀ block ∈ blocks, ∀ name ∈ names, block.region.contains name.span.start = false
  apart : outers.Pairwise Span.Before → ∀ left ∈ blocks, ∀ right ∈ blocks, left.Apart right

namespace Houses

variable {tokens : List Token} {blocks blocks' : List Block} {names names' : List Name}
  {outers outers' : List Span}

theorem nil : Houses tokens [] [] outers where
  firm _ member := absurd member List.not_mem_nil
  holds _ member := absurd member List.not_mem_nil
  behind _ member := absurd member List.not_mem_nil
  clear _ _ member := absurd member List.not_mem_nil
  apart _ _ member := absurd member List.not_mem_nil

theorem append (words : WordsApart tokens) (houses : Houses tokens blocks names outers)
    (houses' : Houses tokens blocks' names' outers') :
    Houses tokens (blocks ++ blocks') (names ++ names') (outers ++ outers') where
  firm := by
    refine List.forall_mem_append.mpr ⟨fun block member => ?_, fun block member => ?_⟩
    · obtain ⟨outer, inside, firm⟩ := houses.firm block member
      exact ⟨outer, List.mem_append_left _ inside, firm⟩
    · obtain ⟨outer, inside, firm⟩ := houses'.firm block member
      exact ⟨outer, List.mem_append_right _ inside, firm⟩
  holds := List.forall_mem_append.mpr ⟨houses.holds, houses'.holds⟩
  behind := by
    refine List.forall_mem_append.mpr ⟨fun name member => ?_, fun name member => ?_⟩
    · obtain ⟨outer, inside, behind⟩ := houses.behind name member
      exact ⟨outer, List.mem_append_left _ inside, behind⟩
    · obtain ⟨outer, inside, behind⟩ := houses'.behind name member
      exact ⟨outer, List.mem_append_right _ inside, behind⟩
  clear := by
    intro ordered
    obtain ⟨ordered, ordered', between⟩ := List.pairwise_append.mp ordered
    refine List.forall_mem_append.mpr ⟨fun block member => ?_, fun block member => ?_⟩
    · refine List.forall_mem_append.mpr ⟨houses.clear ordered block member, fun name held => ?_⟩
      obtain ⟨outer, inside, firm⟩ := houses.firm block member
      obtain ⟨outer', inside', behind⟩ := houses'.behind name held
      have before : outer.stop ≤ outer'.start := between outer inside outer' inside'
      exact Span.not_contains_of_within firm.within (lt_of_le_of_lt before behind.opens)
    · refine List.forall_mem_append.mpr ⟨fun name held => ?_, houses'.clear ordered' block member⟩
      obtain ⟨outer', inside', firm⟩ := houses'.firm block member
      obtain ⟨outer, inside, behind⟩ := houses.behind name held
      have before : outer.stop ≤ outer'.start := between outer inside outer' inside'
      have before' : name.span.Before outer' := le_trans behind.stops before
      exact before'.not_contains behind.filled firm.within
  apart := by
    intro ordered
    obtain ⟨ordered, ordered', between⟩ := List.pairwise_append.mp ordered
    have across : ∀ left ∈ blocks, ∀ right ∈ blocks', left.Apart right := by
      intro left member right member'
      obtain ⟨outer, inside, firm⟩ := houses.firm left member
      obtain ⟨outer', inside', firm'⟩ := houses'.firm right member'
      exact .inr (.inr (.inr (firm.parted words (between outer inside outer' inside') firm')))
    refine List.forall_mem_append.mpr ⟨fun left member => ?_, fun left member => ?_⟩
    · exact List.forall_mem_append.mpr ⟨houses.apart ordered left member, across left member⟩
    · exact List.forall_mem_append.mpr ⟨fun right member' => (across right member' left member).symm,
        houses'.apart ordered' left member⟩

theorem gather {α : Type} {items : List α} {gather : α → List Block} {place : α → Span}
    (words : WordsApart tokens)
    (each : ∀ item ∈ items, Houses tokens (gather item) [] [place item]) :
    Houses tokens (items.flatMap gather) [] (items.map place) := by
  induction items with
  | nil => exact .nil
  | cons first rest ih =>
      rw [List.forall_mem_cons] at each
      exact append words each.1 (ih each.2)

end Houses

/-! ## Blocks in statements -/

namespace Stmt

/-- The block of a nested body, if something is declared directly there. -/
def ownBlocks (statement : Stmt) (nested : NestedBody) : List Block :=
  let names := nested.counter.toList ++ names nested.statements
  if names.isEmpty then [] else [⟨statement.regionOf nested, names⟩]

/-- The blocks inside a body. -/
def blocks : List Stmt → List Block
  | [] => []
  | first :: rest =>
    (first.bodies.attach.flatMap fun nested =>
        first.ownBlocks nested.val ++ blocks nested.val.statements)
      ++ blocks rest
termination_by body => sizeOf body
decreasing_by
  · exact sizeOf_lt_cons_of_mem_bodies nested.property rest
  · exact sizeOf_lt_cons first rest

theorem blocks_cons (first : Stmt) (rest : List Stmt) :
    blocks (first :: rest) =
      (first.bodies.flatMap fun nested => first.ownBlocks nested ++ blocks nested.statements)
        ++ blocks rest := by
  rw [blocks, ← flatMap_bodies_attach]

variable {named : Name → Prop} {tokens : List Token} {statement : Stmt} {nested other : NestedBody}
  {block : Block} {body : List Stmt}

theorem mem_ownBlocks : block ∈ statement.ownBlocks nested ↔
    block = ⟨statement.regionOf nested, nested.counter.toList ++ names nested.statements⟩ ∧
      block.names ≠ [] := by
  unfold ownBlocks
  dsimp only
  split
  next empty =>
    rw [List.isEmpty_iff] at empty
    constructor
    · exact fun member => absurd member List.not_mem_nil
    · rintro ⟨rfl, some⟩
      exact absurd empty some
  next some =>
    rw [List.isEmpty_iff] at some
    rw [List.mem_singleton]
    constructor
    · rintro rfl
      exact ⟨rfl, some⟩
    · exact And.left

/-- A nested body in which something is declared directly has a block. -/
theorem ownBlock_mem_blocks {first : Stmt} {name : Name} (member : nested ∈ first.bodies)
    (held : name ∈ nested.counter.toList ++ names nested.statements) (rest : List Stmt) :
    ⟨first.regionOf nested, nested.counter.toList ++ names nested.statements⟩ ∈
      blocks (first :: rest) := by
  rw [blocks_cons]
  refine List.mem_append_left _ (List.mem_flatMap.mpr ⟨nested, member, ?_⟩)
  exact List.mem_append_left _ (mem_ownBlocks.mpr ⟨rfl, List.ne_nil_of_mem held⟩)

/-- The names of a block are a table of the checker. -/
theorem names_mem_innerTables (member : block ∈ blocks body) : block.names ∈ innerTables body := by
  induction body using body_induction with
  | nil =>
      rw [blocks] at member
      cases member
  | cons first rest innerIH restIH =>
      rw [blocks_cons, List.mem_append, List.mem_flatMap] at member
      rw [innerTables_cons, List.mem_append, List.mem_flatMap]
      rcases member with ⟨nested, inside, member⟩ | member
      · refine .inl ⟨nested, inside, ?_⟩
        rcases List.mem_append.mp member with own | inner
        · rw [(mem_ownBlocks.mp own).1]
          exact List.mem_cons_self
        · exact List.mem_cons_of_mem _ (innerIH nested inside inner)
      · exact .inr (restIH member)

/-! ### One statement -/

/-- A statement has a single body, or all its bodies have no counter and extend from the first to the
last statement. -/
theorem alone_or_plain (statement : Stmt) :
    (∀ nested ∈ statement.bodies, ∀ other ∈ statement.bodies, nested = other) ∨
      ∀ nested ∈ statement.bodies, nested.counter = none ∧
        statement.regionOf nested = extent nested.statements := by
  have plain : ∀ (lists : List (List Stmt)), ∀ nested ∈ lists.map NestedBody.plain,
      nested.counter = none := by
    intro lists nested member
    obtain ⟨_, _, rfl⟩ := List.mem_map.mp member
    rfl
  cases statement with
  | block | «while» | «for» =>
      refine .inl (List.forall_mem_singleton.mpr fun other member => ?_)
      exact (List.mem_singleton.mp member).symm
  | conditional | test => exact .inr fun nested member => ⟨plain _ nested member, rfl⟩
  | _ => exact .inr fun _ member => absurd member List.not_mem_nil

theorem extent_mem_stretches (member : nested ∈ statement.bodies) (some : nested.statements ≠ []) :
    extent nested.statements ∈ statement.stretches :=
  List.mem_flatMap.mpr ⟨nested, member, by simp [stretch, some]⟩

/-- The region of a nested body lies firmly in the statement. -/
theorem Placed.regionOf_firm (placed : statement.Placed tokens) (member : nested ∈ statement.bodies)
    (some : nested.counter.toList ++ names nested.statements ≠ []) :
    (statement.regionOf nested).Firm tokens statement.span := by
  have bracketed := placed.bracketed
  have plain : nested.counter = none →
      (extent nested.statements).Firm tokens statement.span := by
    intro none
    have filled : nested.statements ≠ [] := by
      intro empty
      rw [none, empty] at some
      exact some rfl
    exact placed.arranged.firm (extent_mem_stretches member filled) (.refl _)
  cases statement with
  | block => cases bracketed
  | «for» => exact ⟨.refl _, .inr bracketed⟩
  | «while» => exact plain (List.mem_singleton.mp member ▸ rfl)
  | conditional | test =>
      obtain ⟨_, _, rfl⟩ := List.mem_map.mp member
      exact plain rfl
  | _ => cases member

/-- The region of a nested body holds the statements of the body. -/
theorem Placed.within_regionOf (placed : statement.Placed tokens) (row : Row named nested.statements)
    (member : nested ∈ statement.bodies) :
    ∀ part ∈ nested.statements, part.span.Within (statement.regionOf nested) := by
  intro part inside
  have within := within_extent row.nested row.ordered part inside
  have bracketed := placed.bracketed
  cases statement with
  | block => cases bracketed
  | «for» =>
      have some := List.ne_nil_of_mem inside
      have firm : (extent nested.statements).Firm tokens _ :=
        placed.arranged.firm (extent_mem_stretches member some) (.refl _)
      exact within.trans firm.within
  | _ => exact within

/-- Different nested bodies do not touch. -/
theorem Placed.bodies_parted (placed : statement.Placed tokens) (member : nested ∈ statement.bodies)
    (member' : other ∈ statement.bodies) (different : nested ≠ other)
    (some : nested.counter = none → nested.statements ≠ [])
    (some' : other.counter = none → other.statements ≠ []) :
    (statement.regionOf nested).Parted (statement.regionOf other) := by
  obtain ⟨_, _, arrangement⟩ := placed.arranged
  rcases statement.alone_or_plain with alone | plain
  · exact absurd (alone nested member other member') different
  · obtain ⟨none, region⟩ := plain nested member
    obtain ⟨none', region'⟩ := plain other member'
    have parted := (List.pairwise_flatMap.mp arrangement.parted).2
    have symm : Std.Symm fun left right : NestedBody => ∀ whole ∈ stretch left.statements,
        ∀ whole' ∈ stretch right.statements, whole.Parted whole' :=
      ⟨fun _ _ parted whole held whole' held' => (parted whole' held' whole held).symm⟩
    rw [region, region']
    exact parted.forall member member' different _ (by simp [stretch, some none])
      _ (by simp [stretch, some' none'])

/-- The counter of a loop stands in the region of the loop, in front of the body. -/
theorem Headed.counter_behind (headed : statement.Headed) (spans : statement.Nested named)
    (member : nested ∈ statement.bodies) :
    ∀ name ∈ nested.counter, name.Behind (statement.regionOf nested) ∧
      ∀ part ∈ nested.statements, name.span.Before part.span := by
  cases spans with
  | «for» holds counter =>
      rw [List.mem_singleton.mp member]
      rintro _ ⟨⟩
      have within := holds.2 _ List.mem_cons_self
      exact ⟨⟨headed.opens, counter.1, within.2⟩, headed.before⟩
  | conditional | test =>
      obtain ⟨_, _, rfl⟩ := List.mem_map.mp member
      exact fun _ none => nomatch none
  | block | «while» =>
      rw [List.mem_singleton.mp member]
      exact fun _ none => nomatch none
  | _ => cases member

/-- The name of the data that a statement declares stands in the statement. -/
theorem Headed.item_behind (headed : statement.Headed) (spans : statement.Nested named) :
    ∀ name ∈ statement.item?.toList.map DataItem.name, name.Behind statement.span := by
  cases spans with
  | data nested =>
      refine List.forall_mem_singleton.mpr ⟨headed.opens, nested.name.1, ?_⟩
      exact (nested.holds.2 _ (List.mem_cons_of_mem _ List.mem_cons_self)).2
  | _ => exact fun _ member => absurd member List.not_mem_nil

section Statement

variable (placed : statement.Placed tokens) (headed : statement.Headed)
  (spans : statement.Nested named)
  (inner : ∀ nested ∈ statement.bodies, Houses tokens (blocks nested.statements)
    (names nested.statements) (nested.statements.map Stmt.span))

include placed spans inner

/-- The blocks of a nested body lie in the region of the body. -/
theorem Placed.block_within (member : nested ∈ statement.bodies)
    (held : block ∈ statement.ownBlocks nested ++ blocks nested.statements) :
    block.region.Within (statement.regionOf nested) ∧
      (nested.counter = none → nested.statements ≠ []) := by
  rcases List.mem_append.mp held with own | below
  · obtain ⟨rfl, some⟩ := mem_ownBlocks.mp own
    refine ⟨.refl _, fun none empty => ?_⟩
    rw [none, empty] at some
    exact some rfl
  · obtain ⟨_, inside, firm⟩ := (inner nested member).firm block below
    obtain ⟨part, among, rfl⟩ := List.mem_map.mp inside
    have within := placed.within_regionOf (spans.row nested member) member part among
    exact ⟨firm.within.trans within, fun _ => List.ne_nil_of_mem among⟩

theorem Placed.block_firm (member : nested ∈ statement.bodies)
    (held : block ∈ statement.ownBlocks nested ++ blocks nested.statements) :
    block.region.Firm tokens statement.span := by
  rcases List.mem_append.mp held with own | below
  · obtain ⟨rfl, some⟩ := mem_ownBlocks.mp own
    exact placed.regionOf_firm member some
  · obtain ⟨_, inside, firm⟩ := (inner nested member).firm block below
    obtain ⟨part, among, rfl⟩ := List.mem_map.mp inside
    have row := spans.row nested member
    have within := within_extent row.nested row.ordered part among
    exact placed.arranged.firm (extent_mem_stretches member (List.ne_nil_of_mem among))
      (firm.within.trans within)

include headed

/-- The block of a nested body holds its names. -/
theorem Placed.ownBlocks_hold (member : nested ∈ statement.bodies)
    (own : block ∈ statement.ownBlocks nested) :
    ∀ name ∈ block.names, name.Behind block.region := by
  obtain ⟨rfl, _⟩ := mem_ownBlocks.mp own
  refine List.forall_mem_append.mpr ⟨fun name counter => ?_, fun name held => ?_⟩
  · exact (headed.counter_behind spans member name (Option.mem_toList.mp counter)).1
  · obtain ⟨_, inside, behind⟩ := (inner nested member).behind name held
    obtain ⟨part, among, rfl⟩ := List.mem_map.mp inside
    exact behind.mono (placed.within_regionOf (spans.row nested member) member part among)

/-- The blocks inside a nested body are inside the block of the body. -/
theorem Placed.inside_ownBlocks {outer : Block} (member : nested ∈ statement.bodies)
    (own : outer ∈ statement.ownBlocks nested) (below : block ∈ blocks nested.statements) :
    block.Inside outer := by
  have within := placed.block_within spans inner member (List.mem_append_right _ below)
  obtain ⟨rfl, _⟩ := mem_ownBlocks.mp own
  refine ⟨within.1, List.forall_mem_append.mpr ⟨fun name counter => ?_, ?_⟩⟩
  · obtain ⟨behind, before⟩ := headed.counter_behind spans member name (Option.mem_toList.mp counter)
    obtain ⟨_, inside, firm⟩ := (inner nested member).firm block below
    obtain ⟨part, among, rfl⟩ := List.mem_map.mp inside
    exact (before part among).not_contains behind.filled firm.within
  · exact (inner nested member).clear (spans.row nested member).ordered block below

/-- The blocks of a statement lie in it, and are apart. -/
theorem Placed.houses : Houses tokens
    (statement.bodies.flatMap fun nested => statement.ownBlocks nested ++ blocks nested.statements)
    (statement.item?.toList.map DataItem.name) [statement.span] where
  firm := by
    intro block held
    obtain ⟨nested, member, held⟩ := List.mem_flatMap.mp held
    exact ⟨_, List.mem_cons_self, placed.block_firm spans inner member held⟩
  holds := by
    intro block held
    obtain ⟨nested, member, held⟩ := List.mem_flatMap.mp held
    rcases List.mem_append.mp held with own | below
    · exact placed.ownBlocks_hold headed spans inner member own
    · exact (inner nested member).holds block below
  behind := fun name member => ⟨_, List.mem_cons_self, headed.item_behind spans name member⟩
  clear := by
    -- Data has no nested bodies.
    intro _ block held name declared
    cases statement with
    | data => cases held
    | _ => cases declared
  apart := by
    intro _ left held right held'
    obtain ⟨nested, member, held⟩ := List.mem_flatMap.mp held
    obtain ⟨other, member', held'⟩ := List.mem_flatMap.mp held'
    by_cases same : nested = other
    · subst same
      rcases List.mem_append.mp held with own | below <;>
        rcases List.mem_append.mp held' with own' | below'
      · exact .inl ((mem_ownBlocks.mp own).1.trans (mem_ownBlocks.mp own').1.symm)
      · exact .inr (.inr (.inl (placed.inside_ownBlocks headed spans inner member own below')))
      · exact .inr (.inl (placed.inside_ownBlocks headed spans inner member own' below))
      · exact (inner nested member).apart (spans.row nested member).ordered left below right below'
    · obtain ⟨within, some⟩ := placed.block_within spans inner member held
      obtain ⟨within', some'⟩ := placed.block_within spans inner member' held'
      have parted := placed.bodies_parted member member' same some some'
      exact .inr (.inr (.inr (parted.mono within within')))

end Statement

/-- The blocks inside a body lie in its statements, and are apart. -/
theorem blocks_housed (words : WordsApart tokens) (row : Row named body)
    (placed : ∀ part ∈ all body, part.Placed tokens) (headed : ∀ part ∈ all body, part.Headed) :
    Houses tokens (blocks body) (names body) (body.map Stmt.span) := by
  induction body using body_induction with
  | nil =>
      rw [blocks]
      exact .nil
  | cons first rest innerIH restIH =>
      rw [all_cons, List.forall_mem_append, List.forall_mem_cons] at placed headed
      obtain ⟨⟨own, inner⟩, behind⟩ := placed
      obtain ⟨⟨own', inner'⟩, behind'⟩ := headed
      have below : ∀ nested ∈ first.bodies, Houses tokens (blocks nested.statements)
          (names nested.statements) (nested.statements.map Stmt.span) :=
        fun nested member => innerIH nested member (row.head.row nested member)
          (fun part held => inner part (List.mem_flatMap.mpr ⟨nested, member, held⟩))
          (fun part held => inner' part (List.mem_flatMap.mpr ⟨nested, member, held⟩))
      rw [blocks_cons]
      exact .append words (own.houses own' row.head below) (restIH row.tail behind behind')

end Stmt

/-! ## Blocks in programs -/

namespace Decl

/-- The blocks of a declaration. A routine has one for its parameters and the data of its body. -/
def blocks (declaration : Decl) : List Block :=
  match declaration with
  | .data _ _ | .record _ _ _ => []
  | .proc _ parameters body span | .func _ _ parameters body span =>
    ⟨span, parameters.map Parameter.name ++ Stmt.names body⟩ :: Stmt.blocks body
  | .trap _ body span => ⟨span, Stmt.names body⟩ :: Stmt.blocks body

variable {named : Name → Prop} {tokens : List Token} {declaration : Decl} {block : Block}

theorem names_mem_tables (member : block ∈ declaration.blocks) : block.names ∈ declaration.tables := by
  have routine : ∀ {names : List Name} {body : List Stmt} {span : Span},
      block ∈ ⟨span, names⟩ :: Stmt.blocks body → block.names ∈ names :: Stmt.innerTables body := by
    intro names body span member
    rcases List.mem_cons.mp member with rfl | inner
    · exact List.mem_cons_self
    · exact List.mem_cons_of_mem _ (Stmt.names_mem_innerTables inner)
  cases declaration with
  | data | record => cases member
  | proc | func | trap => exact routine member

theorem Nested.body (nested : declaration.Nested named) :
    declaration.span.Lists (declaration.body.map Stmt.span) ∧
      Stmt.Row named declaration.body := by
  have none : declaration.span.Lists [] ∧ Stmt.Row named [] :=
    ⟨⟨.nil nested.filled, .nil⟩, fun _ member => absurd member List.not_mem_nil, .nil⟩
  cases nested with
  | data | record => exact none
  | proc _ _ _ _ lists body => exact ⟨lists, body, lists.2⟩
  | func _ _ _ _ _ lists body => exact ⟨lists, body, lists.2⟩
  | trap _ _ lists body => exact ⟨lists, body, lists.2⟩

theorem Placed.body (placed : declaration.Placed tokens) :
    ∀ part ∈ Stmt.all declaration.body, part.Placed tokens := by
  have none : ∀ part ∈ Stmt.all [], part.Placed tokens := by
    rw [Stmt.all_nil]
    exact fun _ member => absurd member List.not_mem_nil
  cases placed with
  | data | record => exact none
  | proc _ body | func _ body | trap _ body => exact body

theorem Nested.parameter_within (nested : declaration.Nested named) :
    ∀ parameter ∈ declaration.parameters, parameter.name.span.Filled ∧
      parameter.name.span.Within declaration.span := by
  have each : ∀ {parameters : List Parameter} {span : Span},
      span.Lists (parameters.map Parameter.span) →
      (∀ parameter ∈ parameters, parameter.Nested named) → ∀ parameter ∈ parameters,
        parameter.name.span.Filled ∧ parameter.name.span.Within span := by
    intro parameters span lists nested parameter member
    have within := (nested parameter member).holds.2 parameter.name.span (by simp)
    exact ⟨(nested parameter member).name.1, within.trans (lists.within parameter member)⟩
  cases nested with
  | proc _ _ lists nested => exact each lists nested
  | func _ _ _ lists nested => exact each lists nested
  | _ => exact fun _ member => absurd member List.not_mem_nil

/-- The names in the heading of a declaration stand in it. -/
theorem Headed.behind (headed : declaration.Headed) (nested : declaration.Nested named) :
    ∀ name ∈ declaration.headNames, name.Behind declaration.span := by
  intro name member
  have opens := (headed.heads name member).opens
  rcases List.mem_cons.mp member with rfl | member
  · exact ⟨opens, nested.name.2, nested.name.1.2⟩
  · obtain ⟨parameter, inside, rfl⟩ := List.mem_map.mp member
    obtain ⟨filled, within⟩ := nested.parameter_within parameter inside
    exact ⟨opens, filled, within.2⟩

/-- No block inside the body of a routine reaches a name in the heading. -/
theorem Headed.not_contains (headed : declaration.Headed) (nested : declaration.Nested named)
    (houses : Houses tokens (Stmt.blocks declaration.body) (Stmt.names declaration.body)
      (declaration.body.map Stmt.span)) :
    ∀ block ∈ Stmt.blocks declaration.body, ∀ name ∈ declaration.headNames,
      block.region.contains name.span.start = false := by
  intro block member name heading
  obtain ⟨_, inside, firm⟩ := houses.firm block member
  obtain ⟨part, among, rfl⟩ := List.mem_map.mp inside
  have filled := (headed.behind nested name heading).filled
  exact ((headed.heads name heading).before part among).not_contains filled firm.within

theorem body_housed (words : WordsApart tokens) (nested : declaration.Nested named)
    (placed : declaration.Placed tokens) (headed : declaration.Headed) :
    Houses tokens (Stmt.blocks declaration.body) (Stmt.names declaration.body)
      (declaration.body.map Stmt.span) :=
  Stmt.blocks_housed words nested.body.2 placed.body headed.parts

/-- The blocks of a routine lie in it, and are apart. -/
theorem routine_housed (words : WordsApart tokens) (nested : declaration.Nested named)
    (placed : declaration.Placed tokens) (headed : declaration.Headed)
    (bracketed : declaration.span.Bracketed tokens) :
    Houses tokens (⟨declaration.span, declaration.parameters.map Parameter.name
      ++ Stmt.names declaration.body⟩ :: Stmt.blocks declaration.body) [] [declaration.span] := by
  have houses := body_housed words nested placed headed
  obtain ⟨lists, row⟩ := nested.body
  have inside : ∀ block ∈ Stmt.blocks declaration.body, block.Inside ⟨declaration.span,
      declaration.parameters.map Parameter.name ++ Stmt.names declaration.body⟩ := by
    intro block member
    obtain ⟨outer, held, firm⟩ := houses.firm block member
    refine ⟨firm.within.trans (lists.1.2 outer held), List.forall_mem_append.mpr ⟨?_, ?_⟩⟩
    · exact fun name heading =>
        headed.not_contains nested houses block member name (List.mem_cons_of_mem _ heading)
    · exact houses.clear row.ordered block member
  constructor
  · refine List.forall_mem_cons.mpr
      ⟨⟨_, List.mem_cons_self, .refl _, .inr bracketed⟩, fun block member => ?_⟩
    obtain ⟨outer, held, firm⟩ := houses.firm block member
    exact ⟨_, List.mem_cons_self, firm.mono (lists.1.2 outer held)⟩
  · refine List.forall_mem_cons.mpr ⟨List.forall_mem_append.mpr ⟨?_, ?_⟩, houses.holds⟩
    · exact fun name heading => headed.behind nested name (List.mem_cons_of_mem _ heading)
    · intro name held
      obtain ⟨outer, among, behind⟩ := houses.behind name held
      exact behind.mono (lists.1.2 outer among)
  · exact fun _ member => absurd member List.not_mem_nil
  · exact fun _ _ _ _ member => absurd member List.not_mem_nil
  · intro _
    refine List.forall_mem_cons.mpr ⟨List.forall_mem_cons.mpr ⟨.inl rfl, ?_⟩, ?_⟩
    · exact fun block member => .inr (.inr (.inl (inside block member)))
    · intro block member
      exact List.forall_mem_cons.mpr
        ⟨.inr (.inl (inside block member)), houses.apart row.ordered block member⟩

theorem blocks_housed (words : WordsApart tokens) (nested : declaration.Nested named)
    (placed : declaration.Placed tokens) (headed : declaration.Headed) :
    Houses tokens declaration.blocks [] [declaration.span] := by
  have routine := routine_housed words nested placed headed
  cases placed with
  | data | record => exact .nil
  | proc bracketed | func bracketed | trap bracketed => exact routine bracketed

/-- Of the blocks of a declaration only that of a routine as a whole is around its name. -/
theorem region_of_contains (words : WordsApart tokens) (nested : declaration.Nested named)
    (placed : declaration.Placed tokens) (headed : declaration.Headed)
    (member : block ∈ declaration.blocks)
    (holds : block.region.contains declaration.name.span.start = true) :
    block.region = declaration.span := by
  have reach := headed.not_contains nested (body_housed words nested placed headed) block
  have routine : ∀ {names : List Name}, block ∈ ⟨declaration.span, names⟩ ::
      Stmt.blocks declaration.body → block.region = declaration.span := by
    intro names member
    rcases List.mem_cons.mp member with rfl | inner
    · rfl
    · exact absurd holds (Bool.eq_false_iff.mp (reach inner _ List.mem_cons_self))
  cases declaration with
  | data | record => cases member
  | proc | func | trap => exact routine member

end Decl

namespace Program

/-- The blocks of a program. -/
def blocks (program : Program) : List Block :=
  (program.modules.flatMap Module.declarations).flatMap Decl.blocks

variable {named : Name → Prop} {tokens : List Token} {program : Program} {block : Block}

theorem names_mem_tables (member : block ∈ program.blocks) : block.names ∈ program.tables := by
  obtain ⟨declaration, among, member⟩ := List.mem_flatMap.mp member
  obtain ⟨content, inside, among⟩ := List.mem_flatMap.mp among
  refine List.mem_flatMap.mpr ⟨content, inside, List.mem_cons_of_mem _ ?_⟩
  exact List.mem_flatMap.mpr ⟨declaration, among, Decl.names_mem_tables member⟩

section Source

variable {characters : List Char}
  (accepted : Program.ofTokens (Lexed.ofChars characters).tokens = .ok program)

include accepted

theorem declaration_housed {declaration : Decl}
    (member : declaration ∈ program.modules.flatMap Module.declarations) :
    WordsApart (Parser.Cursor.ofTokens (Lexed.ofChars characters).tokens).rest ∧
      declaration.Nested (Name.StandsIn characters) ∧
      declaration.Placed (Parser.Cursor.ofTokens (Lexed.ofChars characters).tokens).rest ∧
      declaration.Headed := by
  obtain ⟨content, inside, among⟩ := List.mem_flatMap.mp member
  exact ⟨fun _ member _ member' => Parser.apart_of_reserved member member',
    (Parser.nested_of_ok accepted).1.nested_of_mem member,
    Parser.placed_of_ok accepted content inside declaration among,
    Parser.headed_of_ok accepted content inside declaration among⟩

/-- The blocks of a program that is read from a text hold their names, and are apart. -/
theorem blocks_apart : (∀ block ∈ program.blocks, ∀ name ∈ block.names, name.Behind block.region) ∧
    ∀ left ∈ program.blocks, ∀ right ∈ program.blocks, left.Apart right := by
  have houses : Houses (Parser.Cursor.ofTokens (Lexed.ofChars characters).tokens).rest program.blocks []
      ((program.modules.flatMap Module.declarations).map Decl.span) := by
    apply Houses.gather fun _ member _ member' => Parser.apart_of_reserved member member'
    intro declaration member
    obtain ⟨words, nested, placed, headed⟩ := declaration_housed accepted member
    exact Decl.blocks_housed words nested placed headed
  have ordered := (Parser.nested_of_ok accepted).1.spans_ordered
  exact ⟨houses.holds, houses.apart (List.pairwise_map.mpr ordered)⟩

end Source

end Program

end RapidLang
