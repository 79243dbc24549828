import RapidLang.Proofs.Index.Blocks
import RapidLang.Proofs.Index.References

/-!
# What declarations lead to

In a document without diagnostics the names of a block differ. So where a name is declared, the index
finds what is declared there, unless the symbol gives way to another one: the name of a routine to a
local name that the routine declares, and the name of a module to the same name of an earlier one.
-/

set_option autoImplicit false

namespace RapidLang

open Text

/-! ## Symbols in blocks -/

/-- The symbol is a local one that is declared directly in the block. -/
structure Symbol.In (symbol : Symbol) (block : Block) : Prop where
  scope : symbol.scope = some block.region
  held : symbol.name ∈ block.names

theorem Expr.declares_nothing (expression : Expr) :
    ∀ occurrence ∈ expression.occurrences, occurrence.declares = none := by
  have declared : DeclaredIn [] expression.occurrences := expression.declaredIn
  intro occurrence member
  rw [Option.eq_none_iff_forall_ne_some]
  intro symbol declares
  obtain ⟨_, inside, _⟩ := declared occurrence member symbol declares
  cases inside

namespace Stmt

/-- What is declared in the head of a statement is its data, or the counter of a nested body. -/
theorem head_declared_in (region : Span) (statement : Stmt) :
    ∀ occurrence ∈ statement.headOccurrences region, ∀ symbol ∈ occurrence.declares,
      (symbol.scope = some region ∧
        symbol.name ∈ statement.item?.toList.map DataItem.name) ∨
      ∃ nested ∈ statement.bodies, symbol.scope = some (statement.regionOf nested) ∧
        symbol.name ∈ nested.counter.toList := by
  intro occurrence member symbol declares
  cases statement with
  | «for» counter lowest highest body span =>
      rw [List.mem_singleton.mp member] at declares
      cases declares
      exact .inr ⟨⟨some counter, body⟩, List.mem_singleton_self _, rfl, List.mem_cons_self⟩
  | data item span =>
      rcases List.mem_cons.mp member with rfl | member
      · cases declares
      · rw [List.mem_singleton.mp member] at declares
        cases declares
        exact .inl ⟨rfl, List.mem_cons_self⟩
  | connect trap error =>
      rcases List.mem_cons.mp member with rfl | member
      · cases declares
      · rw [List.mem_singleton.mp member] at declares
        cases declares
  | raise error =>
      rw [List.mem_singleton.mp member] at declares
      cases declares
  | _ => cases member

/-- What is declared in a body is declared directly there, or in a block inside. -/
theorem declared_in (region : Span) (body : List Stmt) :
    ∀ occurrence ∈ allOccurrences region body, ∀ symbol ∈ occurrence.declares,
      (symbol.scope = some region ∧ symbol.name ∈ names body) ∨
        ∃ block ∈ blocks body, symbol.In block := by
  induction body using body_induction generalizing region with
  | nil => exact fun _ member => absurd member List.not_mem_nil
  | cons first rest innerIH restIH =>
      intro occurrence member symbol declares
      rcases List.mem_append.mp member with own | later
      · have own := (first.occurrences_perm region).mem_iff.mp own
        rw [List.mem_append, List.mem_append] at own
        obtain (head | value) | inner := own
        · rcases first.head_declared_in region occurrence head symbol declares with
            ⟨scope, named⟩ | ⟨nested, inside, scope, counter⟩
          · exact .inl ⟨scope, List.mem_append_left _ named⟩
          · have held := List.mem_append_left (names nested.statements) counter
            exact .inr ⟨_, ownBlock_mem_blocks inside held rest, scope, held⟩
        · obtain ⟨expression, _, member⟩ := List.mem_flatMap.mp value
          rw [expression.declares_nothing occurrence member] at declares
          cases declares
        · obtain ⟨nested, inside, member⟩ := List.mem_flatMap.mp inner
          rcases innerIH nested inside _ occurrence member symbol declares with
            ⟨scope, named⟩ | ⟨block, among, within⟩
          · have held := List.mem_append_right nested.counter.toList named
            exact .inr ⟨_, ownBlock_mem_blocks inside held rest, scope, held⟩
          · refine .inr ⟨block, ?_, within⟩
            rw [blocks_cons]
            exact List.mem_append_left _ (List.mem_flatMap.mpr
              ⟨nested, inside, List.mem_append_right _ among⟩)
      · rcases restIH region occurrence later symbol declares with
          ⟨scope, named⟩ | ⟨block, among, within⟩
        · exact .inl ⟨scope, List.mem_append_right _ named⟩
        · refine .inr ⟨block, ?_, within⟩
          rw [blocks_cons]
          exact List.mem_append_right _ among

end Stmt

/-- What is declared inside a declaration of a module is declared in one of its blocks. -/
theorem Decl.declared_in (declaration : Decl) :
    ∀ occurrence ∈ declaration.innerOccurrences, ∀ symbol ∈ occurrence.declares,
      ∃ block ∈ declaration.blocks, symbol.In block := by
  have body : ∀ {parameters : List Parameter} {body : List Stmt} {span : Span},
      ∀ occurrence ∈ routineOccurrences parameters body span, ∀ symbol ∈ occurrence.declares,
        ∃ block ∈ ⟨span, parameters.map Parameter.name ++ Stmt.names body⟩ :: Stmt.blocks body,
          symbol.In block := by
    intro parameters body span occurrence member symbol declares
    rcases List.mem_append.mp member with heading | inner
    · obtain ⟨parameter, inside, member⟩ := List.mem_flatMap.mp heading
      rcases List.mem_cons.mp member with rfl | member
      · cases declares
      · rw [List.mem_singleton.mp member] at declares
        cases declares
        exact ⟨_, List.mem_cons_self, rfl, List.mem_append_left _ (List.mem_map_of_mem inside)⟩
    · rcases Stmt.declared_in span body occurrence inner symbol declares with
        ⟨scope, named⟩ | ⟨block, among, within⟩
      · exact ⟨_, List.mem_cons_self, scope, List.mem_append_right _ named⟩
      · exact ⟨block, List.mem_cons_of_mem _ among, within⟩
  cases declaration with
  | data item =>
      intro occurrence member symbol declares
      obtain ⟨_, inside, _⟩ := (item.declaredIn : DeclaredIn [] _) occurrence member symbol declares
      cases inside
  | proc => exact body
  | func type =>
      intro occurrence member
      rcases List.mem_cons.mp member with rfl | inner
      · exact fun _ declares => nomatch declares
      · exact body occurrence inner
  | record =>
      intro occurrence member
      obtain ⟨_, _, rfl⟩ := List.mem_map.mp member
      exact fun _ declares => nomatch declares
  | trap => exact body

namespace Program

variable {program : Program} {symbol : Symbol} {region : Span}

/-- A symbol is that of a declaration of a module, or it is declared in a block. -/
theorem mem_symbols (listed : symbol ∈ (Index.ofProgram program).symbols) :
    (∃ declaration ∈ program.modules.flatMap Module.declarations, symbol = .ofDecl declaration) ∨
      ∃ block ∈ program.blocks, symbol.In block := by
  have listed : symbol ∈ declaredSymbols program.occurrences := listed
  obtain ⟨occurrence, member, declares⟩ := List.mem_filterMap.mp listed
  rcases List.mem_append.mp member with outer | inner
  · obtain ⟨declaration, among, rfl⟩ := List.mem_map.mp outer
    exact .inl ⟨declaration, among, (Option.some.inj declares).symm⟩
  · obtain ⟨declaration, among, member⟩ := List.mem_flatMap.mp inner
    obtain ⟨block, held, within⟩ := declaration.declared_in occurrence member symbol declares
    exact .inr ⟨block, List.mem_flatMap.mpr ⟨declaration, among, held⟩, within⟩

theorem exists_block (listed : symbol ∈ (Index.ofProgram program).symbols)
    (scope : symbol.scope = some region) :
    ∃ block ∈ program.blocks, symbol.In block ∧ block.region = region := by
  rcases mem_symbols listed with ⟨_, _, rfl⟩ | ⟨block, held, within⟩
  · cases scope
  · exact ⟨block, held, within, Option.some.inj (within.scope.symm.trans scope)⟩

theorem exists_declaration (listed : symbol ∈ (Index.ofProgram program).symbols)
    (top : symbol.scope = none) :
    ∃ declaration ∈ program.modules.flatMap Module.declarations, symbol = .ofDecl declaration := by
  rcases mem_symbols listed with declared | ⟨_, _, within⟩
  · exact declared
  · cases top.symm.trans within.scope

/-- The name of a declaration stands in the module. -/
theorem Nested.name_within {named : Name → Prop} {content : Module} {declaration : Decl}
    (nested : program.Nested named) (inside : content ∈ program.modules)
    (member : declaration ∈ content.declarations) :
    declaration.name.span.Filled ∧ declaration.name.span.Within content.span := by
  obtain ⟨_, _, lists, declarations⟩ := nested.modules content inside
  obtain ⟨within, filled⟩ := (declarations declaration member).name
  exact ⟨filled, within.trans (lists.within declaration member)⟩

end Program

/-! ## Names that differ -/

/-- If no name is repeated, the texts of the names differ. -/
theorem texts_differ_of_repeatedAfter {earlier names : List Name}
    (none : repeatedAfter earlier names = []) :
    (∀ first ∈ earlier, ∀ later ∈ names, first.text ≠ later.text) ∧
      names.Pairwise fun first later => first.text ≠ later.text := by
  induction names generalizing earlier with
  | nil => exact ⟨fun _ _ _ member => absurd member List.not_mem_nil, .nil⟩
  | cons name rest ih =>
      obtain ⟨own, behind⟩ := List.append_eq_nil_iff.mp none
      rw [List.map_eq_nil_iff, Option.toList_eq_nil_iff, List.find?_eq_none] at own
      obtain ⟨apart, differ⟩ := ih behind
      rw [List.forall_mem_append, List.forall_mem_singleton] at apart
      refine ⟨fun first member => List.forall_mem_cons.mpr ⟨?_, apart.1 first member⟩,
        .cons apart.2 differ⟩
      exact fun same => own first member (beq_iff_eq.mpr same)

/-- In a program without problems no two names of a table are written alike. -/
theorem Program.name_unique {program : Program} (clean : program.check = []) {names : List Name}
    {first later : Name} (member : names ∈ program.tables) (held : first ∈ names)
    (held' : later ∈ names) (same : first.text = later.text) : first = later := by
  have problems := program.check_repeated
  rw [clean] at problems
  have none : program.tables.flatMap repeated = [] :=
    List.map_eq_nil_iff.mp (List.nil_perm.mp problems)
  have symm : Std.Symm fun first later : Name => first.text ≠ later.text := ⟨fun _ _ => Ne.symm⟩
  have differ := (texts_differ_of_repeatedAfter (List.flatMap_eq_nil_iff.mp none names member)).2
  by_contra different
  exact differ.forall held held' different same

/-! ## What the index finds at a declaration -/

/-- The region of a local symbol begins where that of another one of its name begins, and ends behind
it. -/
def Symbol.Overhangs (other symbol : Symbol) : Prop :=
  other.name.text = symbol.name.text ∧ ∃ region ∈ symbol.scope, ∃ region' ∈ other.scope,
    region'.start = region.start ∧ region.stop < region'.stop

instance (other symbol : Symbol) : Decidable (other.Overhangs symbol) :=
  inferInstanceAs (Decidable (_ ∧ _))

/-- The symbol of a module gives way to another one of its name: to a local one whose region is the
whole declaration, or to that of a module in front of its own. -/
structure Program.Displaces (program : Program) (other symbol : Symbol) : Prop where
  same : other.name.text = symbol.name.text
  top : symbol.scope = none
  stands : other.scope = some symbol.extent ∨ (other.scope = none ∧
    ∃ content ∈ program.modules, symbol.name.span.Within content.span ∧
      other.name.span.Before content.span)

instance (left right : Span) : Decidable (left.Before right) :=
  inferInstanceAs (Decidable (_ ≤ _))

instance (program : Program) (other symbol : Symbol) : Decidable (program.Displaces other symbol) :=
  decidable_of_iff (other.name.text = symbol.name.text ∧ symbol.scope = none ∧
      (other.scope = some symbol.extent ∨ (other.scope = none ∧
        ∃ content ∈ program.modules, symbol.name.span.Within content.span ∧
          other.name.span.Before content.span)))
    ⟨fun ⟨same, top, stands⟩ => ⟨same, top, stands⟩, fun ⟨same, top, stands⟩ => ⟨same, top, stands⟩⟩

namespace Program

variable {characters : List Char} {program : Program} {symbol other : Symbol} {block : Block}
  {declaration : Decl} {region : Span}
  (accepted : Program.ofTokens (Lexed.ofChars characters).tokens = .ok program)

include accepted

/-- No two symbols have their names at the same place. -/
theorem symbol_unique (listed : symbol ∈ (Index.ofProgram program).symbols)
    (listed' : other ∈ (Index.ofProgram program).symbols)
    (same : symbol.name.span.start = other.name.span.start) : symbol = other := by
  obtain ⟨_, _, scattered⟩ := Parser.scattered_of_ok accepted
  exact scattered.symbol_unique listed listed' same

/-- At the place of a symbol the index finds an occurrence of its name. -/
theorem occurrence_of_symbol (listed : symbol ∈ (Index.ofProgram program).symbols) :
    ∃ occurrence,
      (Index.ofProgram program).occurrenceAt? symbol.name.span.start = some occurrence ∧
        occurrence.name = symbol.name ∧ symbol.name.span.Filled := by
  obtain ⟨_, _, scattered⟩ := Parser.scattered_of_ok accepted
  have listed : symbol ∈ declaredSymbols program.occurrences := listed
  obtain ⟨occurrence, member, declares⟩ := List.mem_filterMap.mp listed
  have lies := scattered.lie occurrence member
  have name := lies.declares symbol declares
  rw [name]
  exact ⟨occurrence, Index.occurrenceAt?_start scattered member, rfl, lies.filled⟩

theorem name_filled (listed : symbol ∈ (Index.ofProgram program).symbols) :
    symbol.name.span.Filled := by
  obtain ⟨_, _, _, filled⟩ := occurrence_of_symbol accepted listed
  exact filled

/-- The blocks around the name of a declaration are the declaration as a whole. -/
theorem region_of_contains (member : declaration ∈ program.modules.flatMap Module.declarations)
    (held : block ∈ program.blocks)
    (holds : block.region.contains declaration.name.span.start = true) :
    block.region = declaration.span := by
  obtain ⟨words, nested, placed, headed⟩ := declaration_housed accepted member
  obtain ⟨owner, member', held⟩ := List.mem_flatMap.mp held
  have behind := headed.behind nested declaration.name List.mem_cons_self
  obtain ⟨_, nested', placed', headed'⟩ := declaration_housed accepted member'
  obtain ⟨_, inside, firm⟩ := (Decl.blocks_housed words nested' placed' headed').firm block held
  have within := List.mem_singleton.mp inside ▸ firm.within
  have ordered := (Parser.nested_of_ok accepted).1.spans_ordered
  by_cases same : owner = declaration
  · subst same
    exact Decl.region_of_contains words nested placed headed held holds
  · refine absurd holds (Bool.eq_false_iff.mp ?_)
    rcases Span.apart_of_ordered ordered member' member same with before | before
    · exact Span.not_contains_of_within within (lt_of_le_of_lt before behind.opens)
    · have before' : declaration.name.span.Before owner.span := le_trans behind.stops before
      exact before'.not_contains behind.filled within

/-- If a local symbol is around the name of a symbol of a module, its region is the declaration. -/
theorem scope_of_around (listed : symbol ∈ (Index.ofProgram program).symbols)
    (top : symbol.scope = none) (listed' : other ∈ (Index.ofProgram program).symbols)
    (around : other.Around symbol.name.text symbol.name.span.start region) :
    other.scope = some symbol.extent := by
  obtain ⟨declaration, member, rfl⟩ := exists_declaration listed top
  obtain ⟨block, held, _, rfl⟩ := exists_block listed' around.scope
  rw [around.scope, region_of_contains accepted member held around.holds]
  rfl

/-- Where no local symbol of a name counts, the index finds the first one of a module. -/
theorem resolve?_of_far {name : String} {place : Position}
    (far : ∀ other ∈ (Index.ofProgram program).symbols, ∀ region, ¬other.Around name place region)
    (listed : symbol ∈ (Index.ofProgram program).symbols) (named : symbol.name.text = name)
    (top : symbol.scope = none) :
    ∃ found ∈ (Index.ofProgram program).symbols,
      (Index.ofProgram program).resolve? name place = some found ∧ found.name.text = name ∧
      found.scope = none ∧ ∀ other ∈ (Index.ofProgram program).symbols, other.name.text = name →
        other.scope = none → other = found ∨ found.name.span.Before other.name.span := by
  have outside : ∀ other ∈ (Index.ofProgram program).symbols, other.name.text = name →
      other.isLocalAt place = false := by
    intro other listed' same
    refine Bool.eq_false_iff.mpr fun near => ?_
    obtain ⟨region, scope, holds⟩ := (Option.any_eq_true _ _).mp near
    exact far other listed' region ⟨same, scope, holds⟩
  have candidate : ∀ other ∈ (Index.ofProgram program).symbols, other.name.text = name → other ∈
      (Index.ofProgram program).symbols.filter fun symbol => symbol.name.text == name :=
    fun other listed' same => List.mem_filter.mpr ⟨listed', beq_iff_eq.mpr same⟩
  cases found : ((Index.ofProgram program).symbols.filter fun symbol =>
      symbol.name.text == name).find? fun symbol => symbol.scope.isNone with
  | none =>
      have missed := List.find?_eq_none.mp found symbol (candidate symbol listed named)
      rw [top] at missed
      exact absurd rfl missed
  | some first =>
      obtain ⟨top', front, back, split, locals⟩ := List.find?_eq_some_iff_append.mp found
      obtain ⟨listed', same⟩ := List.mem_filter.mp (List.mem_of_find?_eq_some found)
      have ordered := (Parser.nested_of_ok accepted).1.symbols_ordered.filter
        fun symbol => symbol.name.text == name
      rw [split] at ordered
      refine ⟨first, listed', ?_, beq_iff_eq.mp same, Option.isNone_iff_eq_none.mp top', ?_⟩
      · rw [Index.resolve?_eq_find? outside, found]
      · intro other listed'' same' top''
        have member := candidate other listed'' same'
        rw [split, List.mem_append, List.mem_cons] at member
        obtain earlier | equal | later := member
        · have hidden := locals other earlier
          rw [top''] at hidden
          cases hidden
        · exact .inl equal
        · have behind := (List.pairwise_append.mp ordered).2.1
          exact .inr ((List.pairwise_cons.mp behind).1 other later top'')

section Clean

variable (clean : program.check = [])

include clean

/-- Symbols of one name in one region are the same. -/
theorem eq_of_region (listed : symbol ∈ (Index.ofProgram program).symbols)
    (listed' : other ∈ (Index.ofProgram program).symbols) (scope : symbol.scope = some region)
    (scope' : other.scope = some region) (same : symbol.name.text = other.name.text) :
    symbol = other := by
  obtain ⟨holds, apart⟩ := blocks_apart accepted
  obtain ⟨block, held, within, region_eq⟩ := exists_block listed scope
  obtain ⟨block', held', within', region_eq'⟩ := exists_block listed' scope'
  have equal : block = block' := (apart block held block' held').eq_of_region
    (region_eq.trans region_eq'.symm) within.held (holds block held _ within.held) within'.held
    (holds block' held' _ within'.held)
  subst equal
  have names := name_unique clean (names_mem_tables held) within.held within'.held same
  exact symbol_unique accepted listed listed' (congrArg (fun name => name.span.start) names)

/-- At its own name a local symbol is found, unless another one of the name begins with it and ends
behind it. -/
theorem resolve?_of_local (listed : symbol ∈ (Index.ofProgram program).symbols)
    (scope : symbol.scope = some region)
    (plain : ∀ other ∈ (Index.ofProgram program).symbols, ¬other.Overhangs symbol) :
    (Index.ofProgram program).resolve? symbol.name.text symbol.name.span.start = some symbol := by
  obtain ⟨holds, apart⟩ := blocks_apart accepted
  obtain ⟨block, held, within, rfl⟩ := exists_block listed scope
  have behind := holds block held symbol.name within.held
  have own : symbol.Around symbol.name.text symbol.name.span.start block.region :=
    ⟨rfl, scope, behind.contains⟩
  obtain ⟨found, listed', region', resolved, around, starts⟩ :=
    Index.resolve?_of_around ⟨symbol, listed, block.region, own⟩
  obtain ⟨block', held', _, rfl⟩ := exists_block listed' around.scope
  -- The region of what is found holds the region of the symbol, and does not begin before it.
  have wide := (apart block held block' held').within within.held behind around.holds
  have begins := le_antisymm wide.1 (starts symbol listed block.region own)
  have ends : block.region.stop = block'.region.stop := by
    refine le_antisymm wide.2 (not_lt.mp fun longer => plain found listed' ⟨around.named, ?_⟩)
    exact ⟨block.region, scope, block'.region, around.scope, begins, longer⟩
  have region_eq : block'.region = block.region := congrArg₂ Span.mk begins ends.symm
  rw [resolved, eq_of_region accepted clean listed' listed (region_eq ▸ around.scope) scope
    around.named]

/-- Of two symbols of modules with one name, the first one stands in an earlier module. -/
theorem earlier_module (listed : symbol ∈ (Index.ofProgram program).symbols)
    (listed' : other ∈ (Index.ofProgram program).symbols) (top : symbol.scope = none)
    (top' : other.scope = none) (same : other.name.text = symbol.name.text)
    (before : other.name.span.Before symbol.name.span) :
    ∃ content ∈ program.modules, symbol.name.span.Within content.span ∧
      other.name.span.Before content.span := by
  have nested := (Parser.nested_of_ok accepted).1
  obtain ⟨declaration, member, rfl⟩ := exists_declaration listed top
  obtain ⟨declaration', member', rfl⟩ := exists_declaration listed' top'
  obtain ⟨content, inside, among⟩ := List.mem_flatMap.mp member
  obtain ⟨content', inside', among'⟩ := List.mem_flatMap.mp member'
  obtain ⟨filled, within⟩ := nested.name_within inside among
  obtain ⟨filled', within'⟩ := nested.name_within inside' among'
  refine ⟨content, inside, within, ?_⟩
  have filled : declaration.name.span.start < declaration.name.span.stop := filled
  have filled' : declaration'.name.span.start < declaration'.name.span.stop := filled'
  have before : declaration'.name.span.stop ≤ declaration.name.span.start := before
  by_cases equal : content' = content
  · subst equal
    have table : content'.declarations.map Decl.name ∈ program.tables :=
      List.mem_flatMap.mpr ⟨content', inside', List.mem_cons_self⟩
    have names : declaration'.name = declaration.name :=
      name_unique clean table (List.mem_map_of_mem among') (List.mem_map_of_mem among) same
    rw [names] at before
    order
  · rcases Span.apart_of_ordered (List.pairwise_map.mp nested.ordered) inside' inside equal with
      front | behind
    · exact le_trans within'.2 front
    · have behind : content.span.stop ≤ content'.span.start := behind
      have starts := within'.1
      have stops := within.2
      order

/-- At its own name a symbol of a module is found, unless another one displaces it; then one that does
is found. -/
theorem resolve?_of_top (listed : symbol ∈ (Index.ofProgram program).symbols)
    (top : symbol.scope = none) :
    ∃ found ∈ (Index.ofProgram program).symbols,
      (Index.ofProgram program).resolve? symbol.name.text symbol.name.span.start = some found ∧
      (found = symbol ∨ program.Displaces found symbol) ∧
      ((∃ other ∈ (Index.ofProgram program).symbols, program.Displaces other symbol) →
        found ≠ symbol) := by
  have nested := (Parser.nested_of_ok accepted).1
  by_cases near : ∃ other ∈ (Index.ofProgram program).symbols, ∃ region,
      other.Around symbol.name.text symbol.name.span.start region
  · obtain ⟨found, listed', region, resolved, around, _⟩ := Index.resolve?_of_around near
    have scope := scope_of_around accepted listed top listed' around
    refine ⟨found, listed', resolved, .inr ⟨around.named, top, .inl scope⟩, fun _ same => ?_⟩
    rw [same, top] at scope
    cases scope
  · have far : ∀ other ∈ (Index.ofProgram program).symbols, ∀ region,
        ¬other.Around symbol.name.text symbol.name.span.start region :=
      fun other listed' region around => near ⟨other, listed', region, around⟩
    obtain ⟨found, listed', resolved, same, top', first⟩ :=
      resolve?_of_far accepted far listed rfl top
    refine ⟨found, listed', resolved, ?_, ?_⟩
    · rcases first symbol listed rfl top with equal | before
      · exact .inl equal.symm
      · exact .inr ⟨same, top, .inr ⟨top', earlier_module accepted clean listed listed' top top' same
          before⟩⟩
    · rintro ⟨other, listed'', same', _, scope | ⟨top'', content, inside, within, front⟩⟩ rfl
      · obtain ⟨declaration, member, rfl⟩ := exists_declaration listed top
        have behind := (declaration_housed accepted member).2.2.2.behind
          (declaration_housed accepted member).2.1 declaration.name List.mem_cons_self
        exact far other listed'' _ ⟨same', scope, behind.contains⟩
      · have filled : found.name.span.start < found.name.span.stop := name_filled accepted listed
        have filled' : other.name.span.start < other.name.span.stop := name_filled accepted listed''
        have front : other.name.span.stop ≤ content.span.start := front
        have starts := within.1
        rcases first other listed'' same' top'' with rfl | behind
        · order
        · have behind : found.name.span.stop ≤ other.name.span.start := behind
          order

end Clean

end Program

end RapidLang
