import RapidLang.Index.Lookup
import RapidLang.Proofs.Parser.Scattering.Program

/-!
# Occurrences and symbols of an index

The occurrences of a program stand apart, so the one at a place is the only one there, and no two
symbols have their names at the same place. Symbols that are declared inside routines are local,
and those of modules stand in the order of the text.
-/

set_option autoImplicit false

namespace RapidLang

open Text

/-- The symbols that are declared among occurrences. -/
def declaredSymbols (occurrences : List Occurrence) : List Symbol :=
  occurrences.filterMap Occurrence.declares

/-! ## Places of names -/

section Places

variable {lower upper : Position} {occurrences : List Occurrence}

theorem Occurrence.Apart.outside {first second : Occurrence} (apart : first.Apart second)
    (filled : second.name.span.Filled) :
    ¬(first.name.span.start ≤ second.name.span.start ∧
      second.name.span.start < first.name.span.stop) := by
  rintro ⟨starts, inside⟩
  have filled : second.name.span.start < second.name.span.stop := filled
  rcases apart with before | before
  · exact absurd (lt_of_lt_of_le inside before) (lt_irrefl _)
  · have before : second.name.span.stop ≤ first.name.span.start := before
    exact absurd (lt_of_lt_of_le filled (le_trans before starts)) (lt_irrefl _)

instance : Std.Symm Occurrence.Apart :=
  ⟨fun _ _ apart => apart.symm⟩

namespace Scattered

/-- The name that holds the first letter of an occurrence is the name of that occurrence. -/
theorem eq_of_covers (scattered : Scattered lower upper occurrences) {occurrence other : Occurrence}
    (member : occurrence ∈ occurrences) (member' : other ∈ occurrences)
    (starts : other.name.span.start ≤ occurrence.name.span.start)
    (inside : occurrence.name.span.start < other.name.span.stop) : other = occurrence := by
  by_contra different
  have apart : other.Apart occurrence := scattered.apart.forall member' member different
  exact apart.outside (scattered.lie occurrence member).filled ⟨starts, inside⟩

/-- No two occurrences begin at the same place. -/
theorem starts_apart (scattered : Scattered lower upper occurrences) :
    occurrences.Pairwise fun first second =>
      first.name.span.start ≠ second.name.span.start := by
  refine scattered.apart.imp_of_mem ?_
  intro first second member member' apart same
  have filled : first.name.span.start < first.name.span.stop := (scattered.lie first member).filled
  exact apart.outside (scattered.lie second member').filled ⟨le_of_eq same, same ▸ filled⟩

theorem symbol_starts_apart (scattered : Scattered lower upper occurrences) :
    (declaredSymbols occurrences).Pairwise fun symbol other =>
      symbol.name.span.start ≠ other.name.span.start := by
  unfold declaredSymbols
  rw [List.pairwise_filterMap]
  refine scattered.starts_apart.imp_of_mem ?_
  intro first second member member' apart symbol declared other declared'
  rw [(scattered.lie first member).declares symbol declared,
    (scattered.lie second member').declares other declared']
  exact apart

/-- No two symbols have their names at the same place. -/
theorem symbol_unique (scattered : Scattered lower upper occurrences) {symbol other : Symbol}
    (listed : symbol ∈ declaredSymbols occurrences) (listed' : other ∈ declaredSymbols occurrences)
    (same : symbol.name.span.start = other.name.span.start) : symbol = other := by
  have symm : Std.Symm fun symbol other : Symbol =>
      symbol.name.span.start ≠ other.name.span.start := ⟨fun _ _ => Ne.symm⟩
  by_contra different
  exact scattered.symbol_starts_apart.forall listed listed' different same

end Scattered

/-- At the first letter of an occurrence the index finds that occurrence. -/
theorem Index.occurrenceAt?_start {program : Program}
    (scattered : Scattered lower upper program.occurrences) {occurrence : Occurrence}
    (member : occurrence ∈ program.occurrences) :
    (Index.ofProgram program).occurrenceAt? occurrence.name.span.start = some occurrence := by
  have filled : occurrence.name.span.start < occurrence.name.span.stop :=
    (scattered.lie occurrence member).filled
  unfold occurrenceAt?
  dsimp only
  cases found : (Index.ofProgram program).occurrences.find? fun other =>
      decide (other.name.span.start ≤ occurrence.name.span.start) &&
        decide (occurrence.name.span.start < other.name.span.stop) with
  | none =>
      rw [List.find?_eq_none] at found
      have missed := found occurrence (List.mem_mergeSort.mpr member)
      simp [filled] at missed
  | some other =>
      have covers := List.find?_some found
      simp only [Bool.and_eq_true, decide_eq_true_eq] at covers
      have member' : other ∈ program.occurrences :=
        List.mem_mergeSort.mp (List.mem_of_find?_eq_some found)
      rw [scattered.eq_of_covers member member' covers.1 covers.2]
      rfl

end Places

/-! ## Local symbols -/

/-- The regions of what is declared in the bodies of a statement. A loop with a counter and a block
are regions as a whole; any other body is one from its first statement to its last. -/
def Stmt.ownRegions : Stmt → List Span
  | .for _ _ _ _ span | .block _ span => [span]
  | statement => statement.stretches

/-- The regions inside a body. -/
def Stmt.regions (body : List Stmt) : List Span :=
  (Stmt.all body).flatMap Stmt.ownRegions

/-- The regions of what is declared inside a declaration. -/
def Decl.regions : Decl → List Span
  | .proc _ _ body span | .func _ _ _ body span | .trap _ body span => span :: Stmt.regions body
  | .data _ _ | .record _ _ _ => []

/-- Every symbol that is declared among the occurrences is local, in one of the regions. -/
def DeclaredIn (regions : List Span) (occurrences : List Occurrence) : Prop :=
  ∀ occurrence ∈ occurrences, ∀ symbol ∈ occurrence.declares,
    ∃ region ∈ regions, symbol.scope = some region

namespace DeclaredIn

variable {regions others : List Span} {occurrence : Occurrence} {first rest : List Occurrence}

theorem nil : DeclaredIn regions [] :=
  fun _ member => absurd member List.not_mem_nil

theorem use (name : Name) (declared : DeclaredIn regions rest) :
    DeclaredIn regions (.use name :: rest) :=
  List.forall_mem_cons.mpr ⟨(nomatch ·, ·), declared⟩

theorem declaration {symbol : Symbol} {region : Span} (scope : symbol.scope = some region)
    (member : region ∈ regions) (declared : DeclaredIn regions rest) :
    DeclaredIn regions (.declaration symbol :: rest) := by
  refine List.forall_mem_cons.mpr ⟨?_, declared⟩
  rintro _ ⟨⟩
  exact ⟨region, member, scope⟩

theorem append (declared : DeclaredIn regions first) (declared' : DeclaredIn regions rest) :
    DeclaredIn regions (first ++ rest) :=
  List.forall_mem_append.mpr ⟨declared, declared'⟩

theorem mono (declared : DeclaredIn regions first) (part : regions ⊆ others) :
    DeclaredIn others first := by
  intro occurrence member symbol declares
  obtain ⟨region, held, scope⟩ := declared occurrence member symbol declares
  exact ⟨region, part held, scope⟩

theorem flatMap {α : Type} {items : List α} {gather : α → List Occurrence}
    (each : ∀ item ∈ items, DeclaredIn regions (gather item)) :
    DeclaredIn regions (items.flatMap gather) := by
  intro occurrence member
  obtain ⟨item, inside, member⟩ := List.mem_flatMap.mp member
  exact each item inside occurrence member

end DeclaredIn

section Regions

variable {regions : List Span}

mutual

theorem Expr.declaredIn (expression : Expr) : DeclaredIn regions expression.occurrences := by
  cases expression with
  | number | truth | string => exact .nil
  | «variable» name => exact .use name .nil
  | index base position => exact .append (Expr.declaredIn base) (Expr.declaredIn position)
  | component base => exact Expr.declaredIn base
  | call routine arguments => exact .use routine (Expr.declaredIn_list arguments)
  | unary operator operand => exact Expr.declaredIn operand
  | binary operator left right => exact .append (Expr.declaredIn left) (Expr.declaredIn right)

theorem Expr.declaredIn_list (expressions : List Expr) :
    DeclaredIn regions (Expr.allOccurrences expressions) := by
  cases expressions with
  | nil => exact .nil
  | cons first rest => exact .append (Expr.declaredIn first) (Expr.declaredIn_list rest)

end

theorem Expr.declaredIn_optional (value : Option Expr) :
    DeclaredIn regions (Expr.optionalOccurrences value) := by
  cases value with
  | none => exact .nil
  | some value => exact value.declaredIn

theorem DataItem.declaredIn (item : DataItem) : DeclaredIn regions item.occurrences :=
  .use item.type (Expr.declaredIn_optional item.initial)

variable {region : Span} {statement : Stmt}

theorem Stmt.declaredIn_extent (plain : statement.ownRegions = statement.stretches)
    (inside : ∀ nested ∈ statement.bodies, ∀ region ∈ statement.ownRegions,
      DeclaredIn regions (Stmt.allOccurrences region nested.statements)) :
    ∀ nested ∈ statement.bodies,
      DeclaredIn regions (Stmt.allOccurrences (Stmt.extent nested.statements) nested.statements) := by
  intro nested member
  cases body : nested.statements with
  | nil => exact .nil
  | cons first rest =>
      rw [← body]
      apply inside nested member
      rw [plain]
      exact List.mem_flatMap.mpr ⟨nested, member, by simp [stretch, body]⟩

/-- A statement declares something where it stands, or in its bodies. -/
theorem Stmt.declaredIn (own : region ∈ regions)
    (inside : ∀ nested ∈ statement.bodies, ∀ region ∈ statement.ownRegions,
      DeclaredIn regions (Stmt.allOccurrences region nested.statements))
    (inside' : ∀ region ∈ statement.ownRegions, region ∈ regions) :
    DeclaredIn regions (statement.occurrences region) := by
  cases statement with
  | block body span => exact inside _ List.mem_cons_self _ List.mem_cons_self
  | assign target value => exact .append target.declaredIn value.declaredIn
  | expression value => exact value.declaredIn
  | conditional branches otherwise span =>
      have bodies := Stmt.declaredIn_extent rfl inside
      rw [Stmt.occurrences, Parser.allOccurrences_eq_flatMap_branch]
      apply DeclaredIn.append
      · apply DeclaredIn.flatMap
        rintro ⟨condition, body, _⟩ member
        have held := List.mem_map_of_mem (f := Branch.body) member
        have inner := bodies (.plain body) (List.mem_map_of_mem (List.mem_append_left _ held))
        exact .append condition.declaredIn inner
      · cases otherwise with
        | none => exact .nil
        | some last =>
            exact bodies (.plain last)
              (List.mem_map_of_mem (List.mem_append_right _ List.mem_cons_self))
  | «while» condition body =>
      have bodies := Stmt.declaredIn_extent rfl inside
      exact .append condition.declaredIn (bodies _ List.mem_cons_self)
  | «for» counter first last body span =>
      have body' := inside _ List.mem_cons_self span List.mem_cons_self
      exact .append (.append first.declaredIn last.declaredIn)
        (.declaration rfl (inside' span List.mem_cons_self) body')
  | «return» value => exact Expr.declaredIn_optional value
  | move move =>
      exact .append (Expr.declaredIn_list _) (Expr.declaredIn_optional move.workObject)
  | test subject arms default span =>
      have bodies := Stmt.declaredIn_extent rfl inside
      rw [Stmt.occurrences, Parser.allOccurrences_eq_flatMap_arm]
      apply DeclaredIn.append
      · apply DeclaredIn.append subject.declaredIn
        apply DeclaredIn.flatMap
        rintro ⟨values, body, _⟩ member
        have held := List.mem_map_of_mem (f := Arm.body) member
        have inner := bodies (.plain body) (List.mem_map_of_mem (List.mem_append_left _ held))
        exact .append (Expr.declaredIn_list values) inner
      · cases default with
        | none => exact .nil
        | some last =>
            exact bodies (.plain last)
              (List.mem_map_of_mem (List.mem_append_right _ List.mem_cons_self))
  | connect trap error => exact .use error (.use trap .nil)
  | raise error => exact .use error .nil
  | data item span => exact .append item.declaredIn (.declaration rfl own .nil)

theorem Stmt.regions_cons (first : Stmt) (rest : List Stmt) :
    Stmt.regions (first :: rest) = first.ownRegions
      ++ (first.bodies.flatMap fun nested => Stmt.regions nested.statements)
      ++ Stmt.regions rest := by
  rw [regions, all_cons, List.flatMap_append, List.flatMap_cons, List.flatMap_assoc]
  rfl

theorem Stmt.declaredIn_body (region : Span) (body : List Stmt) :
    DeclaredIn (region :: Stmt.regions body) (Stmt.allOccurrences region body) := by
  induction body using Stmt.body_induction generalizing region with
  | nil => exact .nil
  | cons first rest innerIH restIH =>
      rw [regions_cons, Stmt.allOccurrences]
      apply DeclaredIn.append
      · apply Stmt.declaredIn List.mem_cons_self
        · intro nested member own held
          apply (innerIH nested member own).mono
          grind
        · grind
      · apply (restIH region).mono
        grind

/-- Everything inside a declaration is declared in one of its regions. -/
theorem Decl.declaredIn (declaration : Decl) :
    DeclaredIn declaration.regions declaration.innerOccurrences := by
  have routine : ∀ (parameters : List Parameter) (body : List Stmt) (span : Span),
      DeclaredIn (span :: Stmt.regions body) (routineOccurrences parameters body span) := by
    intro parameters body span
    apply DeclaredIn.append _ (Stmt.declaredIn_body span body)
    exact .flatMap fun parameter _ =>
      .use parameter.type (.declaration rfl List.mem_cons_self .nil)
  cases declaration with
  | data item => exact item.declaredIn
  | proc _ parameters body span => exact routine parameters body span
  | func type _ parameters body span => exact .use type (routine parameters body span)
  | record _ components =>
      intro occurrence member
      obtain ⟨component, _, rfl⟩ := List.mem_map.mp member
      exact (nomatch ·, ·)
  | trap _ body span => exact routine [] body span

end Regions

/-! ## Symbols of modules -/

section Modules

variable {named : Name → Prop} {program : Program}

/-- The regions of what is declared inside the declarations of a program. -/
def Program.regions (program : Program) : List Span :=
  (program.modules.flatMap Module.declarations).flatMap Decl.regions

theorem Program.declaredIn (program : Program) : DeclaredIn program.regions
    ((program.modules.flatMap Module.declarations).flatMap Decl.innerOccurrences) := by
  apply DeclaredIn.flatMap
  intro declaration member
  apply declaration.declaredIn.mono
  exact fun region held => List.mem_flatMap.mpr ⟨declaration, member, held⟩

theorem Program.mem_regions {symbol : Symbol} {region : Span}
    (listed : symbol ∈ (Index.ofProgram program).symbols) (scope : symbol.scope = some region) :
    region ∈ program.regions := by
  have listed : symbol ∈ declaredSymbols program.occurrences := listed
  rw [declaredSymbols, Program.occurrences, List.filterMap_append, List.mem_append] at listed
  rcases listed with outer | inner
  · obtain ⟨occurrence, among, declares⟩ := List.mem_filterMap.mp outer
    obtain ⟨declaration, _, rfl⟩ := List.mem_map.mp among
    cases declares
    cases scope
  · obtain ⟨occurrence, among, declares⟩ := List.mem_filterMap.mp inner
    obtain ⟨own, held, scope'⟩ := program.declaredIn occurrence among symbol declares
    cases scope.symm.trans scope'
    exact held

theorem Program.Nested.spans_ordered (nested : program.Nested named) :
    (program.modules.flatMap Module.declarations).Pairwise
      fun declaration other => declaration.span.Before other.span := by
  rw [List.pairwise_flatMap]
  constructor
  · exact fun content member => List.pairwise_map.mp (nested.modules content member).lists.2
  · refine (List.pairwise_map.mp nested.ordered).imp_of_mem ?_
    intro first second member member' before declaration among other among'
    have within := (nested.modules first member).lists.within declaration among
    have within' := (nested.modules second member').lists.within other among'
    exact le_trans within.2 (le_trans before within'.1)

theorem Program.Nested.nested_of_mem (nested : program.Nested named) {declaration : Decl}
    (member : declaration ∈ program.modules.flatMap Module.declarations) :
    declaration.Nested named := by
  obtain ⟨content, inside, among⟩ := List.mem_flatMap.mp member
  exact (nested.modules content inside).declarations declaration among

/-- The names that modules declare stand in the order of the text. -/
theorem Program.Nested.declarations_ordered (nested : program.Nested named) :
    (program.modules.flatMap Module.declarations).Pairwise
      fun declaration other => declaration.name.span.Before other.name.span := by
  refine nested.spans_ordered.imp_of_mem ?_
  intro first second member member' before
  have within := (nested.nested_of_mem member).name.1
  have within' := (nested.nested_of_mem member').name.1
  exact le_trans within.2 (le_trans before within'.1)

/-- Of the symbols of modules, an earlier one has its name earlier in the text. -/
theorem Program.Nested.symbols_ordered (nested : program.Nested named) :
    (Index.ofProgram program).symbols.Pairwise fun symbol other =>
      other.scope = none → symbol.name.span.Before other.name.span := by
  show (declaredSymbols program.occurrences).Pairwise _
  unfold declaredSymbols Program.occurrences
  have inner : ∀ symbol ∈ List.filterMap Occurrence.declares
      ((program.modules.flatMap Module.declarations).flatMap Decl.innerOccurrences),
      symbol.scope ≠ none := by
    intro symbol member
    obtain ⟨occurrence, listed, declared⟩ := List.mem_filterMap.mp member
    obtain ⟨region, _, scope⟩ := program.declaredIn occurrence listed symbol declared
    exact scope ▸ Option.some_ne_none region
  rw [List.filterMap_append, List.pairwise_append]
  refine ⟨?_, ?_, ?_⟩
  · rw [List.filterMap_map, List.pairwise_filterMap]
    refine nested.declarations_ordered.imp ?_
    rintro first second before _ ⟨⟩ _ ⟨⟩ _
    exact before
  · exact List.pairwise_of_forall_mem_list fun _ _ other member absent =>
      absurd absent (inner other member)
  · exact fun _ _ other member absent => absurd absent (inner other member)

end Modules

end RapidLang
