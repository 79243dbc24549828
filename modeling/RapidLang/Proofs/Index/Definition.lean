import RapidLang.Editor.Document
import RapidLang.Proofs.Analysis.Reports
import RapidLang.Proofs.Checker.Resolution
import RapidLang.Proofs.Editor.Nesting
import RapidLang.Proofs.Index.Visibility

/-!
# Definitions agree with the checker

The index finds the declaration of a name by the regions of the local names, the checker by the
scopes that it has built up to there. A local declaration counts for the index in its whole region,
also before the checker has seen it, and the declarations of all modules count. Where no such
declaration obscures the one that the checker has bound, the index finds that one; where one
outranks it, the index finds another one.
-/

set_option autoImplicit false

namespace RapidLang

open Text

/-! ## The innermost symbol -/

namespace Symbol

theorem mem_of_innermost? {symbols : List Symbol} {symbol : Symbol}
    (found : innermost? symbols = some symbol) : symbol ∈ symbols := by
  induction symbols generalizing symbol with
  | nil => cases found
  | cons first rest ih =>
      unfold innermost? at found
      cases inner : innermost? rest with
      | none =>
          rw [inner] at found
          cases found
          exact List.mem_cons_self
      | some other =>
          rw [inner] at found
          dsimp only at found
          by_cases after : first.beginsAfter other = true
          · rw [if_pos after] at found
            cases found
            exact List.mem_cons_self
          · rw [if_neg after] at found
            cases found
            exact List.mem_cons_of_mem _ (ih inner)

/-- A symbol is innermost if no earlier one begins after it, and it begins after all later ones. -/
theorem innermost?_split {front back : List Symbol} {symbol : Symbol}
    (earlier : ∀ other ∈ front, other.beginsAfter symbol = false)
    (later : ∀ other ∈ back, symbol.beginsAfter other = true) :
    innermost? (front ++ symbol :: back) = some symbol := by
  induction front with
  | nil =>
      show innermost? (symbol :: back) = some symbol
      unfold innermost?
      cases inner : innermost? back with
      | none => rfl
      | some other =>
          dsimp only
          rw [if_pos (later other (mem_of_innermost? inner))]
  | cons first rest ih =>
      rw [List.forall_mem_cons] at earlier
      rw [List.cons_append, innermost?, ih earlier.2]
      dsimp only
      rw [earlier.1, if_neg Bool.false_ne_true]

theorem innermost?_eq_none_iff {symbols : List Symbol} : innermost? symbols = none ↔ symbols = [] := by
  cases symbols with
  | nil => exact ⟨fun _ => rfl, fun _ => rfl⟩
  | cons first rest =>
      unfold innermost?
      cases innermost? rest <;> simp

theorem beginsAfter_iff {left right : Symbol} :
    left.beginsAfter right = true ↔
      ∃ region ∈ left.scope, ∃ region' ∈ right.scope, region'.start < region.start := by
  unfold beginsAfter
  cases left.scope <;> cases right.scope <;> simp

theorem not_beginsAfter_self (symbol : Symbol) : ¬symbol.beginsAfter symbol = true := by
  rw [beginsAfter_iff]
  rintro ⟨region, own, region', own', after⟩
  cases Option.mem_unique own own'
  exact lt_irrefl _ after

theorem beginsAfter_trans {left middle right : Symbol} (after : left.beginsAfter middle = true)
    (after' : middle.beginsAfter right = true) : left.beginsAfter right = true := by
  rw [beginsAfter_iff] at after after' ⊢
  obtain ⟨first, own, second, own₂, before⟩ := after
  obtain ⟨second', own₂', third, own₃, before'⟩ := after'
  cases Option.mem_unique own₂ own₂'
  exact ⟨first, own, third, own₃, lt_trans before' before⟩

/-- No symbol begins after the innermost one. -/
theorem not_beginsAfter_innermost? {symbols : List Symbol} {symbol : Symbol}
    (found : innermost? symbols = some symbol) :
    ∀ other ∈ symbols, ¬other.beginsAfter symbol = true := by
  induction symbols generalizing symbol with
  | nil => cases found
  | cons first rest ih =>
      rw [List.forall_mem_cons]
      unfold innermost? at found
      cases inner : innermost? rest with
      | none =>
          rw [inner] at found
          cases found
          cases innermost?_eq_none_iff.mp inner
          exact ⟨first.not_beginsAfter_self, fun _ member => absurd member List.not_mem_nil⟩
      | some last =>
          rw [inner] at found
          dsimp only at found
          by_cases after : first.beginsAfter last = true
          · rw [if_pos after] at found
            cases found
            exact ⟨first.not_beginsAfter_self, fun other member after' =>
              ih inner other member (beginsAfter_trans after' after)⟩
          · rw [if_neg after] at found
            cases found
            exact ⟨after, ih inner⟩

section Visible

variable {symbol : Symbol} {place : Position} {region : Span}

theorem isVisibleAt_of_isLocalAt (near : symbol.isLocalAt place = true) :
    symbol.isVisibleAt place = true := by
  unfold isLocalAt at near
  unfold isVisibleAt
  cases scope : symbol.scope with
  | none => rfl
  | some region =>
      rw [scope] at near
      exact near

theorem isLocalAt_of_isVisibleAt (visible : symbol.isVisibleAt place = true)
    (scope : symbol.scope = some region) : symbol.isLocalAt place = true := by
  rw [isVisibleAt, scope] at visible
  rw [isLocalAt, scope]
  exact visible

theorem scope_of_isLocalAt (near : symbol.isLocalAt place = true) :
    ∃ region, symbol.scope = some region := by
  unfold isLocalAt at near
  cases scope : symbol.scope with
  | none =>
      rw [scope] at near
      cases near
  | some region => exact ⟨region, rfl⟩

end Visible

/-- The index prefers the symbol to another one of the same name at a place where both count: a
local one whose region begins later, or, of two that are not local, the one that stands first. -/
def Outranks (symbol other : Symbol) : Prop :=
  match symbol.scope, other.scope with
  | some region, some region' => region'.start < region.start
  | some _, none => True
  | none, some _ => False
  | none, none => symbol.name.span.start < other.name.span.start

instance (symbol other : Symbol) : Decidable (symbol.Outranks other) := by
  unfold Outranks
  split <;> infer_instance

end Symbol

/-! ## What the index takes a name for -/

instance (scope : Scope) (symbol : Symbol) : Decidable (scope.Sees symbol) :=
  inferInstanceAs (Decidable (∃ table ∈ scope.innermost :: scope.enclosing,
    ∃ binding ∈ table, binding.span = some symbol.name.span))

/-- The symbol is a declaration of the name that the index takes into account at the place of the
name, although the checker does not see it there. -/
structure Lookup.Unseen (lookup : Lookup) (symbol : Symbol) : Prop where
  named : symbol.name.text = lookup.name.text
  visible : symbol.isVisibleAt lookup.name.span.start = true
  unseen : ¬lookup.scope.Sees symbol

instance (lookup : Lookup) (symbol : Symbol) : Decidable (lookup.Unseen symbol) :=
  decidable_of_iff (symbol.name.text = lookup.name.text ∧
      symbol.isVisibleAt lookup.name.span.start = true ∧ ¬lookup.scope.Sees symbol)
    ⟨fun ⟨named, visible, unseen⟩ => ⟨named, visible, unseen⟩,
      fun ⟨named, visible, unseen⟩ => ⟨named, visible, unseen⟩⟩

/-- The index takes a declaration into account that the checker does not see, and does not prefer
the one that the checker has bound. -/
def Lookup.Obscured (lookup : Lookup) (symbols : List Symbol) (binding : Binding) : Prop :=
  ∃ rival ∈ symbols, lookup.Unseen rival ∧
    ∀ own ∈ symbols, binding.span = some own.name.span → ¬own.Outranks rival

instance (lookup : Lookup) (symbols : List Symbol) (binding : Binding) :
    Decidable (lookup.Obscured symbols binding) :=
  inferInstanceAs (Decidable (∃ rival ∈ symbols, lookup.Unseen rival ∧
    ∀ own ∈ symbols, binding.span = some own.name.span → ¬own.Outranks rival))

section Resolution

variable {index : Index} {front back : List Symbol} {symbol other : Symbol} {name : String}
  {place : Position}

namespace Index

/-- A local symbol is found if it is the innermost one of its name. -/
theorem resolve?_local (split : index.symbols = front ++ symbol :: back)
    (own : symbol.name.text = name) (here : symbol.isLocalAt place = true)
    (earlier : ∀ other ∈ front, other.name.text = name → other.isLocalAt place = true →
      other.beginsAfter symbol = false)
    (later : ∀ other ∈ back, other.name.text = name → other.isLocalAt place = true →
      symbol.beginsAfter other = true) :
    index.resolve? name place = some symbol := by
  have own' : (symbol.name.text == name) = true := beq_iff_eq.mpr own
  have visible : (index.symbols.filter fun symbol => symbol.name.text == name).filter
      (fun symbol => symbol.isLocalAt place) =
        ((front.filter fun symbol => symbol.name.text == name).filter
          fun symbol => symbol.isLocalAt place) ++ symbol ::
        ((back.filter fun symbol => symbol.name.text == name).filter
          fun symbol => symbol.isLocalAt place) := by
    rw [split, List.filter_append, List.filter_append, List.filter_cons, if_pos own',
      List.filter_cons, if_pos here]
  unfold resolve?
  dsimp only
  rw [visible, Symbol.innermost?_split]
  · rfl
  · intro other member
    obtain ⟨member, near⟩ := List.mem_filter.mp member
    obtain ⟨member, same⟩ := List.mem_filter.mp member
    exact earlier other member (beq_iff_eq.mp same) near
  · intro other member
    obtain ⟨member, near⟩ := List.mem_filter.mp member
    obtain ⟨member, same⟩ := List.mem_filter.mp member
    exact later other member (beq_iff_eq.mp same) near

/-- Where no local symbol of a name counts, the index finds the first other one. -/
theorem resolve?_eq_find? (outside : ∀ other ∈ index.symbols, other.name.text = name →
      other.isLocalAt place = false) :
    index.resolve? name place =
      (index.symbols.filter fun symbol => symbol.name.text == name).find?
        fun symbol => symbol.scope.isNone := by
  have invisible : (index.symbols.filter fun symbol => symbol.name.text == name).filter
      (fun symbol => symbol.isLocalAt place) = [] := by
    rw [List.filter_eq_nil_iff]
    intro other member
    obtain ⟨member, same⟩ := List.mem_filter.mp member
    rw [outside other member (beq_iff_eq.mp same)]
    exact Bool.false_ne_true
  unfold resolve?
  dsimp only
  rw [invisible]
  rfl

/-- A symbol of a module is found if it is the first one of its name. -/
theorem resolve?_first (split : index.symbols = front ++ symbol :: back)
    (own : symbol.name.text = name) (top : symbol.scope = none)
    (outside : ∀ other ∈ index.symbols, other.name.text = name → other.isLocalAt place = false)
    (earlier : ∀ other ∈ front, other.name.text = name → other.scope ≠ none) :
    index.resolve? name place = some symbol := by
  have own' : (symbol.name.text == name) = true := beq_iff_eq.mpr own
  have missed : (front.filter fun symbol => symbol.name.text == name).find?
      (fun symbol => symbol.scope.isNone) = none := by
    rw [List.find?_eq_none]
    intro other member absent
    obtain ⟨member, same⟩ := List.mem_filter.mp member
    exact earlier other member (beq_iff_eq.mp same) (Option.isNone_iff_eq_none.mp absent)
  rw [resolve?_eq_find? outside, split, List.filter_append, List.filter_cons, if_pos own',
    List.find?_append, missed, Option.none_or, List.find?_cons_of_pos]
  rw [top]
  rfl

theorem mem_named (listed : other ∈ index.symbols) (same : other.name.text = name) :
    other ∈ index.symbols.filter fun symbol => symbol.name.text == name :=
  List.mem_filter.mpr ⟨listed, beq_iff_eq.mpr same⟩

theorem mem_locals (listed : other ∈ index.symbols) (same : other.name.text = name)
    (near : other.isLocalAt place = true) :
    other ∈ (index.symbols.filter fun symbol => symbol.name.text == name).filter
      fun symbol => symbol.isLocalAt place :=
  List.mem_filter.mpr ⟨mem_named listed same, near⟩

/-- What the index finds is a symbol of the name that counts at the place. -/
theorem mem_of_resolve? (found : index.resolve? name place = some symbol) :
    symbol ∈ index.symbols ∧ symbol.name.text = name ∧ symbol.isVisibleAt place = true := by
  rcases Option.or_eq_some_iff.mp found with inner | ⟨_, first⟩
  · obtain ⟨member, near⟩ := List.mem_filter.mp (Symbol.mem_of_innermost? inner)
    obtain ⟨listed, same⟩ := List.mem_filter.mp member
    exact ⟨listed, beq_iff_eq.mp same, Symbol.isVisibleAt_of_isLocalAt near⟩
  · obtain ⟨listed, same⟩ := List.mem_filter.mp (List.mem_of_find?_eq_some first)
    obtain ⟨top, _⟩ := List.find?_eq_some_iff_append.mp first
    refine ⟨listed, beq_iff_eq.mp same, ?_⟩
    rw [Symbol.isVisibleAt, Option.isNone_iff_eq_none.mp top, Option.all_none]

/-- Where the index finds nothing, no symbol of the name counts. -/
theorem isVisibleAt_of_resolve?_none (missed : index.resolve? name place = none)
    (listed : other ∈ index.symbols) (same : other.name.text = name) :
    other.isVisibleAt place = false := by
  by_contra hidden
  have visible := Bool.eq_true_of_not_eq_false hidden
  obtain ⟨inner, first⟩ := Option.or_eq_none_iff.mp missed
  cases scope : other.scope with
  | none =>
      exact List.find?_eq_none.mp first other (mem_named listed same)
        (Option.isNone_iff_eq_none.mpr scope)
  | some region =>
      have near := mem_locals listed same (Symbol.isLocalAt_of_isVisibleAt visible scope)
      rw [Symbol.innermost?_eq_none_iff.mp inner] at near
      exact List.not_mem_nil near

/-- No symbol of the name that counts at the place outranks the one that the index finds. -/
theorem not_outranks_of_resolve? (ordered : index.symbols.Pairwise fun symbol other =>
      other.scope = none → symbol.name.span.Before other.name.span)
    (filled : ∀ symbol ∈ index.symbols, symbol.name.span.Filled)
    (found : index.resolve? name place = some symbol) (listed : other ∈ index.symbols)
    (same : other.name.text = name) (visible : other.isVisibleAt place = true) :
    ¬other.Outranks symbol := by
  intro outranks
  rcases Option.or_eq_some_iff.mp found with inner | ⟨missed, first⟩
  · have here := (List.mem_filter.mp (Symbol.mem_of_innermost? inner)).2
    obtain ⟨region, scope⟩ := Symbol.scope_of_isLocalAt here
    cases scope' : other.scope with
    | none => simp only [Symbol.Outranks, scope, scope'] at outranks
    | some region' =>
        have near := mem_locals listed same (Symbol.isLocalAt_of_isVisibleAt visible scope')
        simp only [Symbol.Outranks, scope, scope'] at outranks
        exact Symbol.not_beginsAfter_innermost? inner other near
          (Symbol.beginsAfter_iff.mpr ⟨region', scope', region, scope, outranks⟩)
  · cases scope' : other.scope with
    | some region' =>
        have near := mem_locals listed same (Symbol.isLocalAt_of_isVisibleAt visible scope')
        rw [Symbol.innermost?_eq_none_iff.mp missed] at near
        exact List.not_mem_nil near
    | none =>
        obtain ⟨top, front, back, split, earlier⟩ := List.find?_eq_some_iff_append.mp first
        simp only [Symbol.Outranks, Option.isNone_iff_eq_none.mp top, scope'] at outranks
        have apart := ordered.filter fun symbol => symbol.name.text == name
        have among := mem_named listed same
        rw [split, List.pairwise_append, List.pairwise_cons] at apart
        rw [split, List.mem_append, List.mem_cons] at among
        rcases among with before | rfl | behind
        · have passed := earlier other before
          rw [scope'] at passed
          exact Bool.noConfusion passed
        · exact lt_irrefl _ outranks
        · have later : symbol.name.span.Before other.name.span :=
            apart.2.1.1 other behind scope'
          have filled' := filled symbol (mem_of_resolve? found).1
          exact absurd (lt_of_lt_of_le filled' later) (lt_asymm outranks)

end Index

end Resolution

/-! ## Agreement with the checker -/

section Agreement

variable {named : Name → Prop} {program : Program} {lookup : Lookup} {binding : Binding}
  {lower upper : Position} {symbol other : Symbol} {place : Position}

/-- A symbol that the checker sees is in the chain of what the scope shows. -/
theorem Scope.Shows.Around.mem_of_sees {occurrences : List Occurrence} {place : Span}
    {scope : Scope} {chain : List Symbol} (around : Around occurrences place scope chain)
    (scattered : Scattered lower upper occurrences) (listed : symbol ∈ declaredSymbols occurrences)
    (sees : scope.Sees symbol) : symbol ∈ chain := by
  obtain ⟨shown, member, same⟩ := around.shows.sees sees
  have equal : shown = symbol := scattered.symbol_unique (around.listed.subset member) listed
    (congrArg Span.start same)
  exact equal ▸ member

/-- Where no unseen declaration obscures the bound one, the bound one outranks it. -/
theorem Lookup.outranks_of_unseen {symbols : List Symbol}
    (clear : ¬lookup.Obscured symbols binding) (listed : other ∈ symbols)
    (unseen : lookup.Unseen other) :
    ∃ own ∈ symbols, binding.span = some own.name.span ∧ own.Outranks other := by
  by_contra none
  refine clear ⟨other, listed, unseen, fun own member span outranks => none ?_⟩
  exact ⟨own, member, span, outranks⟩

/-- What is known of the symbol that a name is bound to: the symbols that the checker sees under
the name stand before it and enclose it, and it outranks those that the checker does not see. -/
structure Lookup.Sights (lookup : Lookup) (symbols : List Symbol) (own : Symbol) : Prop where
  same : own.name.text = lookup.name.text
  near : ∀ region ∈ own.scope, lookup.name.span.Within region
  seen : ∀ other ∈ symbols, other.name.text = lookup.name.text → lookup.scope.Sees other →
    other = own ∨ other.Encloses own
  outranks : ∀ other ∈ symbols, lookup.Unseen other → own.Outranks other
  split : ∃ before behind, symbols = before ++ own :: behind ∧
    (∀ other ∈ before, other ≠ own) ∧
    ∀ other ∈ behind, other.name.text = lookup.name.text → ¬lookup.scope.Sees other

/-- A list that holds another one in its order holds each part of it in its place. -/
theorem exists_split_of_sublist {α : Type} {front back whole : List α} {item : α}
    (part : (front ++ item :: back).Sublist whole) :
    ∃ before behind, whole = before ++ item :: behind ∧ front.Sublist before ∧
      back.Sublist behind := by
  obtain ⟨left, right, rfl, front', rest⟩ := List.append_sublist_iff.mp part
  obtain ⟨middle, behind, rfl, member, back'⟩ := List.cons_sublist_iff.mp rest
  obtain ⟨first, last, rfl⟩ := List.append_of_mem member
  refine ⟨left ++ first, last ++ behind, by simp, ?_, ?_⟩
  · exact front'.trans (List.sublist_append_left left first)
  · exact back'.trans (List.sublist_append_right last behind)

theorem Lookup.sights {chain front back : List Symbol} {own : Symbol}
    (scattered : Scattered lower upper program.occurrences)
    (around : Scope.Shows.Around program.occurrences lookup.name.span lookup.scope chain)
    (span : binding.span = some own.name.span) (same : own.name.text = lookup.name.text)
    (split : chain = front ++ own :: back)
    (last : ∀ later ∈ back, later.name.text ≠ lookup.name.text)
    (clear : ¬lookup.Obscured (declaredSymbols program.occurrences) binding) :
    lookup.Sights (declaredSymbols program.occurrences) own := by
  have member : own ∈ chain := split ▸ List.mem_append_right _ List.mem_cons_self
  have placed : ∀ other ∈ declaredSymbols program.occurrences,
      other.name.text = lookup.name.text → lookup.scope.Sees other →
      other ∈ front ∨ other = own := by
    intro other listed same' sees
    have member' := around.mem_of_sees scattered listed sees
    rw [split, List.mem_append, List.mem_cons] at member'
    rcases member' with earlier | rfl | later
    · exact .inl earlier
    · exact .inr rfl
    · exact absurd same' (last other later)
  have nested := around.nested
  rw [split, List.pairwise_append] at nested
  constructor
  · exact same
  · exact around.holds own member
  · intro other listed same' sees
    rcases placed other listed same' sees with earlier | rfl
    · exact .inr (nested.2.2 other earlier own List.mem_cons_self)
    · exact .inl rfl
  · intro other listed unseen
    obtain ⟨own', listed', span', outranks⟩ := Lookup.outranks_of_unseen clear listed unseen
    have spans : own'.name.span = own.name.span := Option.some.inj (span'.symm.trans span)
    have equal : own' = own := scattered.symbol_unique listed' (around.listed.subset member)
      (congrArg Span.start spans)
    exact equal ▸ outranks
  · obtain ⟨before, behind, whole, front', _⟩ := exists_split_of_sublist (split ▸ around.listed)
    have apart := scattered.symbol_starts_apart
    rw [whole, List.pairwise_append, List.pairwise_cons] at apart
    obtain ⟨_, ⟨behindOwn, _⟩, beforeOwn⟩ := apart
    refine ⟨before, behind, whole, ?_, ?_⟩
    · rintro other earlier rfl
      exact absurd rfl (beforeOwn other earlier other List.mem_cons_self)
    · intro other later same' sees
      have listed : other ∈ declaredSymbols program.occurrences := by
        rw [whole]
        exact List.mem_append_right _ (List.mem_cons_of_mem _ later)
      rcases placed other listed same' sees with earlier | rfl
      · exact absurd rfl (beforeOwn other (front'.subset earlier) other
          (List.mem_cons_of_mem _ later))
      · exact absurd rfl (behindOwn other later)

namespace Lookup.Sights

variable {symbols : List Symbol} {own : Symbol} {region : Span}

theorem isLocalAt (sights : lookup.Sights symbols own) (filled : lookup.name.span.Filled)
    (scope : own.scope = some region) : own.isLocalAt lookup.name.span.start = true := by
  have within := sights.near region scope
  rw [Symbol.isLocalAt, scope]
  simp only [Option.any_some, Span.contains, Bool.and_eq_true, decide_eq_true_eq]
  exact ⟨within.1, le_trans (le_of_lt filled) within.2⟩

/-- A bound local name is the innermost one that the index takes into account. -/
theorem resolve?_of_local {index : Index} (sights : lookup.Sights index.symbols own)
    (filled : lookup.name.span.Filled) (scope : own.scope = some region) :
    index.resolve? lookup.name.text lookup.name.span.start = some own := by
  obtain ⟨before, behind, whole, different, unseen⟩ := sights.split
  refine Index.resolve?_local whole sights.same (sights.isLocalAt filled scope) ?_ ?_
  · intro other earlier same near
    have listed : other ∈ index.symbols := whole ▸ List.mem_append_left _ earlier
    obtain ⟨region', scope'⟩ := Symbol.scope_of_isLocalAt near
    simp only [Symbol.beginsAfter, scope, scope', decide_eq_false_iff_not, not_lt]
    by_cases sees : lookup.scope.Sees other
    · rcases sights.seen other listed same sees with equal | encloses
      · exact absurd equal (different other earlier)
      · obtain ⟨part, part', within⟩ := encloses.inside region' scope'
        obtain rfl : part = region := Option.some.inj (part'.symm.trans scope)
        exact within.1
    · have outranks := sights.outranks other listed
        ⟨same, Symbol.isVisibleAt_of_isLocalAt near, sees⟩
      simp only [Symbol.Outranks, scope, scope'] at outranks
      exact le_of_lt outranks
  · intro other later same near
    have listed : other ∈ index.symbols :=
      whole ▸ List.mem_append_right _ (List.mem_cons_of_mem _ later)
    obtain ⟨region', scope'⟩ := Symbol.scope_of_isLocalAt near
    have outranks := sights.outranks other listed
      ⟨same, Symbol.isVisibleAt_of_isLocalAt near, unseen other later same⟩
    simp only [Symbol.Outranks, scope, scope'] at outranks
    simp only [Symbol.beginsAfter, scope, scope', decide_eq_true_eq]
    exact outranks

/-- A bound name of a module is the first one, and no local one counts. -/
theorem resolve?_of_top {index : Index} (sights : lookup.Sights index.symbols own)
    (ordered : index.symbols.Pairwise fun symbol other =>
      other.scope = none → symbol.name.span.Before other.name.span)
    (filled : ∀ other ∈ index.symbols, other.name.span.Filled) (top : own.scope = none) :
    index.resolve? lookup.name.text lookup.name.span.start = some own := by
  obtain ⟨before, behind, whole, different, _⟩ := sights.split
  refine Index.resolve?_first whole sights.same top ?_ ?_
  · intro other listed same
    by_contra local'
    have near := Bool.eq_true_of_not_eq_false local'
    obtain ⟨region', scope'⟩ := Symbol.scope_of_isLocalAt near
    by_cases sees : lookup.scope.Sees other
    · rcases sights.seen other listed same sees with rfl | encloses
      · exact absurd (top.symm.trans scope') (Option.some_ne_none _).symm
      · obtain ⟨part, part', _⟩ := encloses.inside region' scope'
        exact absurd (top.symm.trans part') (Option.some_ne_none _).symm
    · have outranks := sights.outranks other listed
        ⟨same, Symbol.isVisibleAt_of_isLocalAt near, sees⟩
      simp only [Symbol.Outranks, top, scope'] at outranks
  · intro other earlier same top'
    have listed : other ∈ index.symbols := whole ▸ List.mem_append_left _ earlier
    by_cases sees : lookup.scope.Sees other
    · rcases sights.seen other listed same sees with equal | encloses
      · exact different other earlier equal
      · exact encloses.apart top (same.trans sights.same.symm)
    · have visible : other.isVisibleAt lookup.name.span.start = true := by
        rw [Symbol.isVisibleAt, top', Option.all_none]
      have outranks := sights.outranks other listed ⟨same, visible, sees⟩
      simp only [Symbol.Outranks, top, top'] at outranks
      rw [whole, List.pairwise_append] at ordered
      have first : other.name.span.Before own.name.span :=
        ordered.2.2 other earlier own List.mem_cons_self top
      have filled' : other.name.span.start < other.name.span.stop := filled other listed
      exact absurd (lt_of_lt_of_le filled' first) (lt_asymm outranks)

end Lookup.Sights

/-- The names of symbols are not empty. -/
theorem Scattered.symbols_filled {occurrences : List Occurrence}
    (scattered : Scattered lower upper occurrences) :
    ∀ symbol ∈ declaredSymbols occurrences, symbol.name.span.Filled := by
  intro symbol listed
  obtain ⟨occurrence, member, declares⟩ := List.mem_filterMap.mp listed
  have lies := scattered.lie occurrence member
  rw [lies.declares symbol declares]
  exact lies.filled

/-- Unless the bound declaration is obscured, the index takes the name for it. -/
theorem Lookup.resolve?_of_clear (nested : program.Nested named)
    (scattered : Scattered lower upper program.occurrences) (looked : lookup ∈ program.lookups)
    (bound : lookup.binding? = some binding)
    (clear : ¬lookup.Obscured (Index.ofProgram program).symbols binding) :
    ((Index.ofProgram program).resolve? lookup.name.text lookup.name.span.start).map
      (fun symbol => symbol.name.span) = binding.span := by
  obtain ⟨used, chain, around⟩ := Program.lookups_stand nested lookup looked
  rcases around.shows.resolve? lookup.name.text with
    ⟨own, ⟨binding', bound', span⟩, same, front, back, split, last⟩ | ⟨unnamed, builtin⟩
  · obtain rfl : binding' = binding := Option.some.inj (bound'.symm.trans bound)
    have sights : lookup.Sights (Index.ofProgram program).symbols own :=
      Lookup.sights scattered around span same split last clear
    have found : (Index.ofProgram program).resolve? lookup.name.text lookup.name.span.start =
        some own := by
      cases scope : own.scope with
      | some region => exact sights.resolve?_of_local (scattered.lie _ used).filled scope
      | none => exact sights.resolve?_of_top nested.symbols_ordered scattered.symbols_filled scope
    rw [found, span]
    rfl
  · rw [Lookup.binding?, builtin] at bound
    obtain ⟨_, known⟩ := Scope.mem_of_resolve?_builtin bound
    have span := Scope.span_of_builtin known
    have absent : ∀ other ∈ (Index.ofProgram program).symbols, other.name.text = lookup.name.text →
        other.isVisibleAt lookup.name.span.start = false := by
      intro other listed same
      by_contra visible
      have unseen : ¬lookup.scope.Sees other := fun sees =>
        unnamed other (around.mem_of_sees scattered listed sees) same
      obtain ⟨own, _, span', _⟩ := Lookup.outranks_of_unseen clear listed
        ⟨same, Bool.eq_true_of_not_eq_false visible, unseen⟩
      exact absurd (span.symm.trans span') (Option.some_ne_none _).symm
    have missed : (Index.ofProgram program).resolve? lookup.name.text lookup.name.span.start =
        none := by
      rw [Index.resolve?_eq_find?, List.find?_eq_none]
      · intro other member top
        obtain ⟨listed, same⟩ := List.mem_filter.mp member
        have hidden := absent other listed (beq_iff_eq.mp same)
        rw [Symbol.isVisibleAt, Option.isNone_iff_eq_none.mp top] at hidden
        exact Bool.noConfusion hidden
      · intro other listed same
        by_contra near
        have visible := Symbol.isVisibleAt_of_isLocalAt (Bool.eq_true_of_not_eq_false near)
        exact Bool.false_ne_true ((absent other listed same).symm.trans visible)
    rw [missed, span]
    rfl

/-- The index does not take a name for the bound declaration where another one of the name counts
that outranks it. -/
theorem Lookup.resolve?_of_outranked (nested : program.Nested named)
    (scattered : Scattered lower upper program.occurrences)
    (listed : other ∈ (Index.ofProgram program).symbols)
    (same : other.name.text = lookup.name.text)
    (visible : other.isVisibleAt lookup.name.span.start = true)
    (outranks : ∀ own ∈ (Index.ofProgram program).symbols,
      binding.span = some own.name.span → other.Outranks own) :
    ((Index.ofProgram program).resolve? lookup.name.text lookup.name.span.start).map
      (fun symbol => symbol.name.span) ≠ binding.span := by
  intro agrees
  cases found : (Index.ofProgram program).resolve? lookup.name.text lookup.name.span.start with
  | none =>
      have hidden := Index.isVisibleAt_of_resolve?_none found listed same
      exact Bool.false_ne_true (hidden.symm.trans visible)
  | some own =>
      rw [found] at agrees
      exact Index.not_outranks_of_resolve? nested.symbols_ordered scattered.symbols_filled found
        listed same visible (outranks own (Index.mem_of_resolve? found).1 agrees.symm)

end Agreement

/-! ## Definitions in documents -/

namespace Document

variable {source : String} {program : Program} {lookup : Lookup} {binding : Binding}
  {rival : Symbol}

theorem check_eq_nil (parsed : (Document.ofString source).analysis.program = some program)
    (clean : (Document.ofString source).analysis.diagnostics = []) : program.check = [] := by
  have sorted := Diagnostic.perm_sortByStart ((Lexed.ofString source).diagnostics ++
    (Parsed.ofTokens (Lexed.ofString source).tokens).diagnostics ++ program.diagnostics)
  replace parsed : (Parsed.ofTokens (Lexed.ofString source).tokens).program = some program := parsed
  replace clean : (Analysis.ofString source).diagnostics = [] := clean
  rw [Analysis.ofString, parsed] at clean
  dsimp only at clean
  rw [clean] at sorted
  exact List.map_eq_nil_iff.mp (List.append_eq_nil_iff.mp sorted.nil_eq.symm).2

/-- At a name that the checker looks up, the index looks up the same name. -/
theorem symbolAt?_of_lookup
    (parsed : (Document.ofString source).analysis.program = some program)
    (looked : lookup ∈ program.lookups) :
    (Document.ofString source).symbolAt? lookup.name.span.start =
      (Index.ofProgram program).resolve? lookup.name.text lookup.name.span.start := by
  obtain ⟨nested, _⟩ := Parser.nested_of_ok (accepted parsed)
  obtain ⟨_, _, scattered⟩ := Parser.scattered_of_ok (accepted parsed)
  have stands := Program.lookups_stand nested lookup looked
  have found : (Index.ofProgram program).occurrenceAt? lookup.name.span.start =
      some (.use lookup.name) := Index.occurrenceAt?_start scattered stands.used
  rw [symbolAt?, index_of_parsed parsed, Option.bind_some, Index.symbolAt?, found]
  rfl

/-- In a document without diagnostics, the checker binds every name of data or of a routine, and
unless the declaration that it is bound to is obscured, its definition is that declaration. A
built-in name has none. -/
theorem definition_of_bound
    (parsed : (Document.ofString source).analysis.program = some program)
    (clean : (Document.ofString source).analysis.diagnostics = [])
    (looked : lookup ∈ program.lookups) :
    ∃ binding, lookup.binding? = some binding ∧
      (¬lookup.Obscured (Index.ofProgram program).symbols binding →
        ((Document.ofString source).symbolAt? lookup.name.span.start).map
          (fun symbol => symbol.name.span) = binding.span) := by
  obtain ⟨binding, bound⟩ := Program.lookups_bound (check_eq_nil parsed clean) lookup looked
  refine ⟨binding, bound, fun clear => ?_⟩
  obtain ⟨nested, _⟩ := Parser.nested_of_ok (accepted parsed)
  obtain ⟨_, _, scattered⟩ := Parser.scattered_of_ok (accepted parsed)
  rw [symbolAt?_of_lookup parsed looked]
  exact Lookup.resolve?_of_clear nested scattered looked bound clear

/-- A function whose parameter has the name of data of the module. -/
def shadowedData : String :=
  "MODULE M VAR num x; FUNC num f(num x) RETURN Abs(x); ENDFUNC ENDMODULE"

/-- The name in the function is the parameter. -/
theorem definition_of_bound_for_shadowedData :
    ((Document.ofString shadowedData).symbolAt? ⟨1, 50⟩).map (fun symbol => symbol.name.span) =
      some ⟨⟨1, 36⟩, ⟨1, 37⟩⟩ := by
  have clean : (Document.ofString shadowedData).analysis.diagnostics = [] := by decide +kernel
  have meets : ((Document.ofString shadowedData).analysis.program.any fun program =>
      program.lookups.any fun lookup =>
        decide (lookup.name.span.start = ⟨1, 50⟩) && lookup.binding?.all fun binding =>
          decide (binding.span = some ⟨⟨1, 36⟩, ⟨1, 37⟩⟩)
            && !decide (lookup.Obscured (Index.ofProgram program).symbols binding)) = true := by
    decide +kernel
  obtain ⟨program, parsed, meets⟩ := (Option.any_eq_true _ _).mp meets
  obtain ⟨lookup, looked, meets⟩ := List.any_eq_true.mp meets
  simp only [Bool.and_eq_true, decide_eq_true_eq, Bool.not_eq_true', decide_eq_false_iff_not,
    Option.all_eq_true] at meets
  obtain ⟨place, meets⟩ := meets
  obtain ⟨binding, bound, defined⟩ := definition_of_bound parsed clean looked
  obtain ⟨span, clear⟩ := meets binding bound
  rw [← place, ← span]
  exact defined clear

/-- A procedure that declares a local name after it has used the data of the module. -/
def lateLocal : String :=
  "MODULE M VAR num x; PROC p() x := x; VAR num x; ENDPROC ENDMODULE"

/-- The checker binds the name to the data of the module, but its definition is the local name. -/
theorem definition_of_lateLocal :
    (Document.ofString lateLocal).analysis.diagnostics = [] ∧
      ∃ program, (Document.ofString lateLocal).analysis.program = some program ∧
        ∃ lookup ∈ program.lookups, lookup.name = ⟨"x", ⟨⟨1, 30⟩, ⟨1, 31⟩⟩⟩ ∧
          ∃ binding, lookup.binding? = some binding ∧
            binding.span = some ⟨⟨1, 18⟩, ⟨1, 19⟩⟩ ∧
            ((Document.ofString lateLocal).symbolAt? lookup.name.span.start).map
              (fun symbol => symbol.name.span) = some ⟨⟨1, 46⟩, ⟨1, 47⟩⟩ := by
  refine ⟨by decide +kernel, ?_⟩
  have meets : ((Document.ofString lateLocal).analysis.program.any fun program =>
      program.lookups.any fun lookup =>
        decide (lookup.name = ⟨"x", ⟨⟨1, 30⟩, ⟨1, 31⟩⟩⟩) && lookup.binding?.any fun binding =>
          decide (binding.span = some ⟨⟨1, 18⟩, ⟨1, 19⟩⟩) &&
            decide (((Index.ofProgram program).resolve? lookup.name.text lookup.name.span.start).map
              (fun symbol => symbol.name.span) = some ⟨⟨1, 46⟩, ⟨1, 47⟩⟩)) = true := by
    decide +kernel
  obtain ⟨program, parsed, meets⟩ := (Option.any_eq_true _ _).mp meets
  obtain ⟨lookup, looked, meets⟩ := List.any_eq_true.mp meets
  simp only [Bool.and_eq_true, decide_eq_true_eq, Option.any_eq_true] at meets
  obtain ⟨name, binding, bound, span, found⟩ := meets
  refine ⟨program, parsed, lookup, looked, name, binding, bound, span, ?_⟩
  rw [symbolAt?_of_lookup parsed looked]
  exact found

/-- Where another declaration of the name counts and outranks the one that the checker has bound,
the definition is not the bound one. -/
theorem definition_ne_of_outranked
    (parsed : (Document.ofString source).analysis.program = some program)
    (looked : lookup ∈ program.lookups) (listed : rival ∈ (Index.ofProgram program).symbols)
    (same : rival.name.text = lookup.name.text)
    (visible : rival.isVisibleAt lookup.name.span.start = true)
    (outranks : ∀ own ∈ (Index.ofProgram program).symbols,
      binding.span = some own.name.span → rival.Outranks own) :
    ((Document.ofString source).symbolAt? lookup.name.span.start).map
      (fun symbol => symbol.name.span) ≠ binding.span := by
  obtain ⟨nested, _⟩ := Parser.nested_of_ok (accepted parsed)
  obtain ⟨_, _, scattered⟩ := Parser.scattered_of_ok (accepted parsed)
  rw [symbolAt?_of_lookup parsed looked]
  exact Lookup.resolve?_of_outranked nested scattered listed same visible outranks

end Document

end RapidLang
