import Mathlib.Data.List.Flatten
import RapidLang.Index.Basic
import RapidLang.Proofs.Checker.Chain
import RapidLang.Proofs.Checker.Lookup
import RapidLang.Proofs.Index.Occurrence

/-!
# What the checker sees stands in the index

Wherever the checker looks up a name, the declarations that it sees there are symbols of the index,
in the same order, and the regions of the local ones hold the name. A later one has its region
inside the regions of the earlier ones. This is kept by each step of the checker through the tree.
-/

set_option autoImplicit false

namespace RapidLang

open Text

namespace Text.Span

variable {span part : Span} {parts : List Span}

theorem Holds.head (holds : span.Holds (part :: parts)) : part.Within span :=
  holds.2 part List.mem_cons_self

theorem Holds.tail (holds : span.Holds (part :: parts)) : span.Holds parts :=
  ⟨holds.1, fun part member => holds.2 part (List.mem_cons_of_mem _ member)⟩

end Text.Span

/-! ## Scopes at a place -/

/-- The second symbol may be declared where the first one is visible: if that one is local, in a
part of its region, and otherwise as a local name or under another name. -/
structure Symbol.Encloses (outer inner : Symbol) : Prop where
  inside : ∀ region ∈ outer.scope, ∃ part ∈ inner.scope, part.Within region
  apart : inner.scope = none → outer.name.text ≠ inner.name.text

/-- The scope shows symbols that are declared among the occurrences, in their order, each enclosing
the later ones, and the regions of the local ones hold the place. -/
structure Scope.Shows.Around (occurrences : List Occurrence) (place : Span) (scope : Scope)
    (chain : List Symbol) : Prop where
  shows : scope.Shows chain
  listed : chain.Sublist (declaredSymbols occurrences)
  nested : chain.Pairwise Symbol.Encloses
  holds : ∀ symbol ∈ chain, ∀ region ∈ symbol.scope, place.Within region

/-- The scope fits to a place behind the occurrences. -/
def Scope.Fits (occurrences : List Occurrence) (place : Span) (scope : Scope) : Prop :=
  ∃ chain, Scope.Shows.Around occurrences place scope chain

/-- The name that is looked up is used among the occurrences, and its scope fits to it. -/
structure Lookup.Stands (occurrences : List Occurrence) (lookup : Lookup) : Prop where
  used : .use lookup.name ∈ occurrences
  fits : lookup.scope.Fits occurrences lookup.name.span

section Steps

variable {occurrences others : List Occurrence} {place part : Span} {scope : Scope}

namespace Scope.Fits

theorem mono (fits : scope.Fits occurrences place) (more : occurrences.Sublist others)
    (within : part.Within place) : scope.Fits others part := by
  obtain ⟨chain, shows, listed, nested, holds⟩ := fits
  exact ⟨chain, shows, listed.trans (more.filterMap _), nested,
    fun symbol member region own => within.trans (holds symbol member region own)⟩

theorem push (fits : scope.Fits occurrences place) : scope.push.Fits occurrences place := by
  obtain ⟨chain, shows, listed, nested, holds⟩ := fits
  exact ⟨chain, shows.push, listed, nested, holds⟩

/-- A local name is declared in the region that is the place. -/
theorem declare (fits : scope.Fits occurrences place) {symbol : Symbol} {binding : Binding}
    (name : Name) (own : symbol.scope = some place) (text : binding.name = symbol.name.text)
    (span : binding.span = some symbol.name.span) :
    (scope.declare name binding).1.Fits (occurrences ++ [.declaration symbol]) place := by
  obtain ⟨chain, shows, listed, nested, holds⟩ := fits
  have more : declaredSymbols (occurrences ++ [.declaration symbol]) =
      declaredSymbols occurrences ++ [symbol] := List.filterMap_append
  rcases shows.declare name text span with shows | ⟨_, shows⟩
  · exact ⟨chain, shows, more ▸ listed.trans (List.sublist_append_left _ _), nested, holds⟩
  · refine ⟨chain ++ [symbol], shows, more ▸ listed.append (.refl _), ?_, ?_⟩
    · refine List.pairwise_append.mpr ⟨nested, List.pairwise_singleton _ _, ?_⟩
      intro outer member inner single
      rw [List.mem_singleton.mp single]
      exact ⟨fun region held => ⟨place, own, holds outer member region held⟩,
        fun absent => absurd (own.symm.trans absent) (Option.some_ne_none _)⟩
    · intro shown member region held
      rcases List.mem_append.mp member with member | member
      · exact holds shown member region held
      · rw [List.mem_singleton.mp member, own] at held
        cases held
        exact .refl _

end Scope.Fits

theorem Lookup.Stands.mono {lookup : Lookup} (stands : lookup.Stands occurrences)
    (more : occurrences.Sublist others) : lookup.Stands others :=
  ⟨more.subset stands.used, stands.fits.mono more (.refl _)⟩

end Steps

/-! ## Names in expressions -/

/-- The occurrence is a use of a name that lies within a place. -/
structure Occurrence.UsedIn (place : Span) (occurrence : Occurrence) : Prop where
  use : occurrence = .use occurrence.name
  within : occurrence.name.span.Within place

section Expressions

variable {named : Name → Prop}

theorem Occurrence.UsedIn.mono {place part : Span} {occurrence : Occurrence} (used : occurrence.UsedIn part)
    (within : part.Within place) : occurrence.UsedIn place :=
  ⟨used.use, used.within.trans within⟩

namespace Expr

mutual

theorem usedIn (expression : Expr) (nested : expression.Nested named) :
    ∀ occurrence ∈ expression.occurrences, occurrence.UsedIn expression.span := by
  cases expression with
  | number | truth | string => exact fun _ member => absurd member List.not_mem_nil
  | «variable» name => exact List.forall_mem_singleton.mpr ⟨rfl, .refl _⟩
  | index base position span =>
      cases nested with
      | index holds nested nested' =>
          exact List.forall_mem_append.mpr
            ⟨fun occurrence member => (usedIn base nested occurrence member).mono holds.head,
              fun occurrence member =>
                (usedIn position nested' occurrence member).mono holds.tail.head⟩
  | component base name span =>
      cases nested with
      | component holds nested _ =>
          exact fun occurrence member => (usedIn base nested occurrence member).mono holds.head
  | call routine arguments span =>
      cases nested with
      | call holds _ lists nested =>
          exact List.forall_mem_cons.mpr ⟨⟨rfl, holds.head⟩,
            allUsedIn arguments lists.within nested⟩
  | unary operator operand span =>
      cases nested with
      | unary holds nested =>
          exact fun occurrence member => (usedIn operand nested occurrence member).mono holds.head
  | binary operator left right span =>
      cases nested with
      | binary lists nested nested' =>
          exact List.forall_mem_append.mpr
            ⟨fun occurrence member => (usedIn left nested occurrence member).mono lists.1.head,
              fun occurrence member =>
                (usedIn right nested' occurrence member).mono lists.1.tail.head⟩

theorem allUsedIn {place : Span} (expressions : List Expr)
    (within : ∀ expression ∈ expressions, expression.span.Within place)
    (nested : ∀ expression ∈ expressions, expression.Nested named) :
    ∀ occurrence ∈ allOccurrences expressions, occurrence.UsedIn place := by
  cases expressions with
  | nil => exact fun _ member => absurd member List.not_mem_nil
  | cons first rest =>
      rw [List.forall_mem_cons] at within nested
      exact List.forall_mem_append.mpr
        ⟨fun occurrence member => (usedIn first nested.1 occurrence member).mono within.1,
          allUsedIn rest within.2 nested.2⟩

end

/-- The names of an expression that lies within a place. -/
theorem usedWithin {place : Span} {expression : Expr} (nested : expression.Nested named)
    (within : expression.span.Within place) :
    ∀ occurrence ∈ expression.occurrences, occurrence.UsedIn place :=
  fun occurrence member => (usedIn expression nested occurrence member).mono within

theorem optionalUsedIn {place : Span} {value : Option Expr}
    (nested : ∀ expression ∈ value, expression.span.Within place ∧ expression.Nested named) :
    ∀ occurrence ∈ optionalOccurrences value, occurrence.UsedIn place := by
  cases value with
  | none => exact fun _ member => absurd member List.not_mem_nil
  | some value =>
      obtain ⟨within, nested⟩ := nested value rfl
      exact usedWithin nested within

end Expr

theorem Move.Nested.usedIn {place : Span} {move : Move} (nested : move.Nested named place) :
    ∀ occurrence ∈ move.occurrences, occurrence.UsedIn place := by
  have operands : ∀ expression ∈ [move.target, move.speed, move.zone, move.tool],
      expression.span.Within place ∧ expression.Nested named := by
    obtain ⟨holds, target, speed, zone, tool, _⟩ := nested
    simpa using ⟨⟨holds.head, target⟩, ⟨holds.tail.head, speed⟩, ⟨holds.tail.tail.head, zone⟩,
      holds.tail.tail.tail.head, tool⟩
  exact List.forall_mem_append.mpr
    ⟨Expr.allUsedIn _ (fun expression member => (operands expression member).1)
      fun expression member => (operands expression member).2,
      Expr.optionalUsedIn nested.workObject⟩

end Expressions

/-! ## Bodies -/

namespace Stmt

variable {named : Name → Prop} {body : List Stmt} {span : Span}

theorem within_extent (nested : ∀ statement ∈ body, statement.Nested named)
    (ordered : (body.map Stmt.span).Pairwise Span.Before) :
    ∀ statement ∈ body, statement.span.Within (extent body) :=
  within_extent_of_filled (fun statement member => (nested statement member).filled) ordered

end Stmt

/-! ## Statements -/

section Statements

variable {named : Name → Prop} {before first second : List Occurrence} {place : Span}
  {scope : Scope}

namespace Lookup

theorem stands_inScope (fits : scope.Fits before place)
    (used : ∀ occurrence ∈ first, occurrence.UsedIn place) :
    ∀ lookup ∈ inScope scope first, lookup.Stands (before ++ first) := by
  intro lookup member
  obtain ⟨occurrence, listed, rfl⟩ := List.mem_map.mp member
  obtain ⟨use, within⟩ := used occurrence listed
  exact ⟨List.mem_append_right _ (use ▸ listed), fits.mono (List.sublist_append_left _ _) within⟩

theorem stands_append {lookups others : List Lookup}
    (stands : ∀ lookup ∈ lookups, lookup.Stands (before ++ first))
    (stands' : ∀ lookup ∈ others, lookup.Stands (before ++ first ++ second)) :
    ∀ lookup ∈ lookups ++ others, lookup.Stands (before ++ (first ++ second)) := by
  rw [← List.append_assoc]
  exact List.forall_mem_append.mpr
    ⟨fun lookup member => (stands lookup member).mono (List.sublist_append_left _ _), stands'⟩

end Lookup

theorem Scope.Fits.behind (fits : scope.Fits before place) (more : List Occurrence) :
    scope.Fits (before ++ more) place :=
  fits.mono (List.sublist_append_left _ _) (.refl _)

/-- The scope of a nested body fits to the stretch of its statements. -/
theorem Scope.Fits.extent {body : List Stmt} (fits : scope.Fits before place)
    (lists : place.Lists (body.map Stmt.span)) (filled : body ≠ []) :
    scope.push.Fits before (Stmt.extent body) :=
  (fits.mono (.refl _) (Stmt.extent_within lists.within filled)).push

/-- Behind a statement, the scope fits to what follows in the same region. -/
theorem Stmt.check_fits (routine : RoutineKind) (statement : Stmt) (fits : scope.Fits before place) :
    (Stmt.check routine scope statement).1.Fits (before ++ statement.occurrences place) place := by
  cases statement with
  | data item span =>
      rw [Stmt.occurrences, ← List.append_assoc]
      exact (fits.behind item.occurrences).declare item.name rfl rfl rfl
  | _ => exact fits.behind _

variable {routine : RoutineKind}

mutual

theorem Stmt.lookups_stand (statement : Stmt) {scope : Scope} {before : List Occurrence}
    {place : Span} (nested : statement.Nested named) (within : statement.span.Within place)
    (fits : scope.Fits before place) :
    ∀ lookup ∈ statement.lookups routine scope,
      lookup.Stands (before ++ statement.occurrences place) := by
  replace fits := fits.mono (.refl _) within
  cases statement with
  | block body span =>
      cases nested with
      | block lists nested =>
          exact Stmt.bodyLookups_stand body nested lists.within fun _ => fits.push
  | assign target value span =>
      cases nested with
      | assign holds target' value' =>
          exact Lookup.stands_inScope fits (List.forall_mem_append.mpr
            ⟨Expr.usedWithin target' holds.head, Expr.usedWithin value' holds.tail.head⟩)
  | expression value span =>
      cases nested with
      | expression holds value' => exact Lookup.stands_inScope fits (Expr.usedWithin value' holds.head)
  | conditional branches otherwise span =>
      cases nested with
      | conditional lists nested lists' nested' =>
          exact Lookup.stands_append (Branch.lookups_stand branches nested lists.within fits)
            (Stmt.optionalLookups_stand otherwise nested' lists' (fits.behind _))
  | «while» condition body span =>
      cases nested with
      | «while» holds condition' lists nested =>
          exact Lookup.stands_append
            (Lookup.stands_inScope fits (Expr.usedWithin condition' holds.head))
            (Stmt.bodyLookups_stand body nested (Stmt.within_extent nested lists.2)
              ((fits.behind _).extent lists))
  | «for» counter first last body span =>
      cases nested with
      | «for» holds _ first' last' lists nested =>
          have bounds := Lookup.stands_inScope fits (List.forall_mem_append.mpr
            ⟨Expr.usedWithin first' holds.tail.head, Expr.usedWithin last' holds.tail.tail.head⟩)
          have inner : (scope.push.declare counter (counterBinding counter)).1.Fits
              (before ++ (first.occurrences ++ last.occurrences)
                ++ [.declaration (.ofCounter counter span)]) span :=
            (fits.behind _).push.declare counter rfl rfl rfl
          have body' := Stmt.bodyLookups_stand body nested lists.within fun _ => inner
          rw [List.append_assoc, List.singleton_append] at body'
          exact Lookup.stands_append bounds body'
  | «return» value span =>
      cases nested with
      | «return» _ value' => exact Lookup.stands_inScope fits (Expr.optionalUsedIn value')
  | move move span =>
      cases nested with
      | move nested =>
          exact Lookup.stands_inScope fits nested.usedIn
  | test subject arms default span =>
      cases nested with
      | test holds subject' lists nested lists' nested' =>
          have arms' := Lookup.stands_append
            (Lookup.stands_inScope fits (Expr.usedWithin subject' holds.head))
            (Arm.lookups_stand arms nested lists.within (fits.behind _))
          exact Lookup.stands_append arms'
            (Stmt.optionalLookups_stand default nested' lists' (fits.behind _))
  | connect | raise => exact fun _ member => absurd member List.not_mem_nil
  | data item span =>
      cases nested with
      | data nested =>
          have initial := Lookup.stands_inScope fits (Expr.optionalUsedIn nested.initial)
          intro lookup member
          exact (initial lookup member).mono
            ((List.append_sublist_append_left before).mpr (.cons _ (List.sublist_append_left _ _)))

theorem Stmt.bodyLookups_stand (body : List Stmt) {scope : Scope} {before : List Occurrence}
    {place : Span} (nested : ∀ statement ∈ body, statement.Nested named)
    (within : ∀ statement ∈ body, statement.span.Within place)
    (fits : body ≠ [] → scope.Fits before place) :
    ∀ lookup ∈ Stmt.bodyLookups routine scope body,
      lookup.Stands (before ++ Stmt.allOccurrences place body) := by
  cases body with
  | nil => exact fun _ member => absurd member List.not_mem_nil
  | cons first rest =>
      rw [List.forall_mem_cons] at nested within
      have fits' := fits (List.cons_ne_nil _ _)
      exact Lookup.stands_append (Stmt.lookups_stand first nested.1 within.1 fits')
        (Stmt.bodyLookups_stand rest nested.2 within.2
          fun _ => Stmt.check_fits routine first fits')

theorem Stmt.optionalLookups_stand (body : Option (List Stmt)) {scope : Scope}
    {before : List Occurrence} {span : Span}
    (nested : ∀ statements ∈ body, ∀ statement ∈ statements, statement.Nested named)
    (lists : ∀ statements ∈ body, span.Lists (statements.map Stmt.span))
    (fits : scope.Fits before span) :
    ∀ lookup ∈ Stmt.optionalLookups routine scope body,
      lookup.Stands (before ++ Stmt.optionalOccurrences body) := by
  cases body with
  | none => exact fun _ member => absurd member List.not_mem_nil
  | some body =>
      have nested' := nested body rfl
      have lists' := lists body rfl
      exact Stmt.bodyLookups_stand body nested' (Stmt.within_extent nested' lists'.2)
        (fits.extent lists')

theorem Branch.lookups_stand (branches : List Branch) {scope : Scope} {before : List Occurrence}
    {span : Span} (nested : ∀ branch ∈ branches, branch.Nested named)
    (within : ∀ branch ∈ branches, branch.span.Within span) (fits : scope.Fits before span) :
    ∀ lookup ∈ Branch.allLookups routine scope branches,
      lookup.Stands (before ++ Branch.allOccurrences branches) := by
  cases branches with
  | nil => exact fun _ member => absurd member List.not_mem_nil
  | cons first rest =>
      obtain ⟨condition, body, place⟩ := first
      rw [List.forall_mem_cons] at nested within
      have fits' := fits.mono (.refl _) within.1
      cases nested.1 with
      | mk holds condition' lists nested' =>
          have first := Lookup.stands_append
            (Lookup.stands_inScope fits' (Expr.usedWithin condition' holds.head))
            (Stmt.bodyLookups_stand body nested' (Stmt.within_extent nested' lists.2)
              ((fits'.behind _).extent lists))
          exact Lookup.stands_append first
            (Branch.lookups_stand rest nested.2 within.2 (fits.behind _))

theorem Arm.lookups_stand (arms : List Arm) {scope : Scope} {before : List Occurrence}
    {span : Span} (nested : ∀ arm ∈ arms, arm.Nested named)
    (within : ∀ arm ∈ arms, arm.span.Within span) (fits : scope.Fits before span) :
    ∀ lookup ∈ Arm.allLookups routine scope arms,
      lookup.Stands (before ++ Arm.allOccurrences arms) := by
  cases arms with
  | nil => exact fun _ member => absurd member List.not_mem_nil
  | cons first rest =>
      obtain ⟨values, body, place⟩ := first
      rw [List.forall_mem_cons] at nested within
      have fits' := fits.mono (.refl _) within.1
      cases nested.1 with
      | mk lists values' lists' nested' =>
          have first := Lookup.stands_append
            (Lookup.stands_inScope fits' (Expr.allUsedIn values lists.within values'))
            (Stmt.bodyLookups_stand body nested' (Stmt.within_extent nested' lists'.2)
              ((fits'.behind _).extent lists'))
          exact Lookup.stands_append first
            (Arm.lookups_stand rest nested.2 within.2 (fits.behind _))

end

end Statements

/-! ## Declarations -/

section Declarations

variable {named : Name → Prop} {before : List Occurrence} {scope : Scope}

/-- The scope shows declarations of one module and knows their names, which are all different. -/
structure Scope.Shows.TopLevel (scope : Scope) (chain : List Symbol) : Prop where
  shows : scope.Shows chain
  taken : ∀ symbol ∈ chain, scope.findLocal? symbol.name.text ≠ none
  apart : chain.Pairwise fun symbol other => symbol.name.text ≠ other.name.text
  topmost : ∀ symbol ∈ chain, symbol.scope = none

namespace Scope.Shows.TopLevel

variable {chain : List Symbol}

/-- A declaration of the module is shown, unless its name is taken. -/
theorem declare (top : TopLevel scope chain) (declaration : Decl) :
    ∃ chain', TopLevel (scope.declare declaration.name declaration.binding).1 chain' ∧
      chain'.Sublist (chain ++ [.ofDecl declaration]) := by
  have text : declaration.binding.name = (Symbol.ofDecl declaration).name.text := by
    cases declaration <;> rfl
  have span : declaration.binding.span = some (Symbol.ofDecl declaration).name.span := by
    cases declaration <;> rfl
  unfold Scope.declare
  split
  next extended defined =>
    have shows := top.shows.define defined text span
    obtain ⟨absent, rfl⟩ := define?_eq_some defined
    refine ⟨_, ⟨shows, ?_, ?_, ?_⟩, .refl _⟩
    · intro symbol member
      rw [findLocal?, Table.find?, List.find?_append]
      rcases List.mem_append.mp member with member | member
      · exact fun absent => top.taken symbol member (Option.or_eq_none_iff.mp absent).1
      · rw [List.mem_singleton.mp member, ← text]
        simp
    · refine List.pairwise_append.mpr ⟨top.apart, List.pairwise_singleton _ _, ?_⟩
      intro symbol member other single same
      rw [List.mem_singleton.mp single, ← text] at same
      exact top.taken symbol member (same ▸ absent)
    · intro symbol member
      rcases List.mem_append.mp member with member | member
      · exact top.topmost symbol member
      · rw [List.mem_singleton.mp member]
        rfl
  next => exact ⟨chain, top, List.sublist_append_left _ _⟩

theorem declareAll (top : TopLevel scope chain) (declarations : List Decl) :
    ∃ chain', TopLevel (scope.declareAll
        (declarations.map fun declaration => (declaration.name, declaration.binding))).1 chain' ∧
      chain'.Sublist (chain ++ declarations.map .ofDecl) := by
  induction declarations generalizing scope chain with
  | nil => exact ⟨chain, top, List.sublist_append_left _ _⟩
  | cons first rest ih =>
      obtain ⟨chain', top', listed⟩ := top.declare first
      obtain ⟨chain'', top'', listed'⟩ := ih top'
      refine ⟨chain'', top'', listed'.trans ?_⟩
      simpa using listed.append_right (rest.map .ofDecl)

end Scope.Shows.TopLevel

/-- The symbols of the declarations of a module. -/
def Module.heads (content : Module) : List Occurrence :=
  content.declarations.map fun declaration => .declaration (.ofDecl declaration)

/-- The scope of a module fits everywhere. -/
theorem Module.scope_fits (content : Module) (place : Span) :
    content.scope.Fits content.heads place := by
  have top : Scope.Shows.TopLevel Scope.builtin.push [] :=
    ⟨.push .builtin, fun _ member => absurd member List.not_mem_nil, .nil,
      fun _ member => absurd member List.not_mem_nil⟩
  obtain ⟨chain, ⟨shows, _, apart, topmost⟩, listed⟩ := top.declareAll content.declarations
  have symbols : declaredSymbols content.heads = content.declarations.map .ofDecl := by
    rw [declaredSymbols, heads, List.filterMap_map]
    exact congrFun List.filterMap_eq_map content.declarations
  refine ⟨chain, shows, symbols ▸ listed, ?_, ?_⟩
  · refine apart.imp_of_mem ?_
    intro outer inner member _ different
    exact ⟨fun region held => absurd ((topmost outer member).symm.trans held)
      (Option.some_ne_none _).symm, fun _ => different⟩
  · intro symbol member region held
    exact absurd ((topmost symbol member).symm.trans held) (Option.some_ne_none _).symm

/-- Behind the parameters of a routine, the scope fits to the whole routine. -/
theorem Scope.Fits.parameters {routine : Span} (fits : scope.Fits before routine)
    (parameters : List Parameter) :
    (scope.declareAll (parameters.map fun parameter => (parameter.name, parameter.binding))).1.Fits
      (before ++ parameters.flatMap (Parameter.occurrences routine)) routine := by
  induction parameters generalizing scope before with
  | nil => exact fits.behind _
  | cons first rest ih =>
      have declared : (scope.declare first.name first.binding).1.Fits
          (before ++ [.use first.type] ++ [.declaration (.ofParameter routine first)]) routine :=
        (fits.behind _).declare first.name rfl rfl rfl
      have complete := ih declared
      rw [List.append_assoc, List.append_assoc] at complete
      exact complete

theorem routineLookups_stand (routine : RoutineKind) (parameters : List Parameter)
    {body : List Stmt} {span : Span} (fits : scope.Fits before span)
    (nested : ∀ statement ∈ body, statement.Nested named) (lists : span.Lists (body.map Stmt.span)) :
    ∀ lookup ∈ Stmt.bodyLookups routine (scope.ofRoutine parameters) body,
      lookup.Stands (before ++ routineOccurrences parameters body span) := by
  rw [routineOccurrences, ← List.append_assoc]
  exact Stmt.bodyLookups_stand body nested lists.within fun _ => fits.push.parameters parameters

theorem Decl.lookups_stand {declaration : Decl} (nested : declaration.Nested named)
    (fits : ∀ place, scope.Fits before place) :
    ∀ lookup ∈ declaration.lookups scope,
      lookup.Stands (before ++ declaration.innerOccurrences) := by
  cases nested with
  | @data item span nested =>
      intro lookup member
      exact (Lookup.stands_inScope (fits span) (Expr.optionalUsedIn nested.initial) lookup
        member).mono ((List.append_sublist_append_left before).mpr (List.sublist_cons_self _ _))
  | proc _ _ _ _ lists nested => exact routineLookups_stand _ _ (fits _) nested lists
  | @func type name parameters body span _ _ _ _ _ lists nested =>
      have stands := routineLookups_stand (.func (normalizeType type.text)) parameters
        ((fits span).behind [.use type]) nested lists
      rw [List.append_assoc] at stands
      exact stands
  | record => exact fun _ member => absurd member List.not_mem_nil
  | trap _ _ lists nested => exact routineLookups_stand _ _ (fits _) nested lists

/-- Wherever the checker looks up a name, the name is in the index, and the declarations that the
checker sees there are symbols of the index whose regions hold the name. -/
theorem Program.lookups_stand {program : Program} (nested : program.Nested named) :
    ∀ lookup ∈ program.lookups, lookup.Stands program.occurrences := by
  intro lookup member
  obtain ⟨content, among, member⟩ := List.mem_flatMap.mp member
  obtain ⟨declaration, among', member⟩ := List.mem_flatMap.mp member
  have nested' := (nested.modules content among).declarations declaration among'
  have inner := Decl.lookups_stand nested' content.scope_fits lookup member
  have part : content.declarations.Sublist (program.modules.flatMap Module.declarations) := by
    simpa using (List.singleton_sublist.mpr among).flatMap Module.declarations
  have part' : declaration.innerOccurrences.Sublist
      ((program.modules.flatMap Module.declarations).flatMap Decl.innerOccurrences) := by
    simpa using (List.singleton_sublist.mpr (part.subset among')).flatMap Decl.innerOccurrences
  exact inner.mono ((part.map _).append part')

end Declarations

end RapidLang
