import Mathlib.Data.Finset.Card
import Mathlib.Data.List.Induction
import RapidLang.Proofs.Checker.Chain

/-!
# Scopes and their history

A scope is what definitions, pushes and pops have made of an empty table. It answers as these steps
say: in each table that is still open the first definition of a name counts, whatever was asked for
later, and nothing is left of the tables that were closed.
-/

set_option autoImplicit false

namespace RapidLang.Scope

/-! ## Steps -/

/-- A step that changes a scope. -/
inductive Step where
  | define (binding : Binding)
  | push
  | pop

/-- The scope after a step. A definition that is refused leaves the scope as it is. -/
def step (scope : Scope) : Step → Scope
  | .define binding => (scope.define? binding).getD scope
  | .push => scope.push
  | .pop => scope.pop

/-- The scope that steps make of a single empty table. -/
def ofSteps (steps : List Step) : Scope :=
  steps.foldl step .empty

/-- What was asked of each open table since it was opened: all definitions in their order, accepted
or refused. -/
structure History where
  innermost : List Binding
  enclosing : List (List Binding)

namespace History

/-- The history after a step. As there is always a table, the outermost one stays open. -/
def note (history : History) : Step → History
  | .define binding => { history with innermost := history.innermost ++ [binding] }
  | .push => ⟨[], history.innermost :: history.enclosing⟩
  | .pop =>
    match history.enclosing with
    | asked :: rest => ⟨asked, rest⟩
    | [] => history

/-- The history that steps leave behind. -/
def ofSteps (steps : List Step) : History :=
  steps.foldl note ⟨[], []⟩

end History

/-- The first of some definitions that has a name. -/
def firstNamed (name : String) (asked : List Binding) : Option Binding :=
  asked.find? fun binding => binding.name == name

/-- The scope answers as the history says. -/
structure Answers (scope : Scope) (history : History) : Prop where
  define : ∀ binding, (scope.define? binding).isSome ↔
    ∀ earlier ∈ history.innermost, earlier.name ≠ binding.name
  findLocal : ∀ name, scope.findLocal? name = firstNamed name history.innermost
  resolve : ∀ name, scope.resolve? name =
    (history.innermost :: history.enclosing).findSome? (firstNamed name)
  size : scope.size = (history.innermost.map Binding.name).toFinset.card

/-! ## Tables that keep the first definitions -/

/-- The table has each name once, with the first definition of it that was asked for. -/
structure Keeps (table : Table) (asked : List Binding) : Prop where
  find : ∀ name, table.find? name = firstNamed name asked
  once : (table.map Binding.name).Nodup

section Tables

variable {table : Table} {asked : List Binding} {scope : Scope} {history : History}

theorem Keeps.nil : Keeps [] [] :=
  ⟨fun _ => rfl, .nil⟩

theorem firstNamed_eq_none_iff {name : String} :
    firstNamed name asked = none ↔ ∀ binding ∈ asked, binding.name ≠ name := by
  simp [firstNamed, List.find?_eq_none]

theorem firstNamed_append_singleton (name : String) (asked : List Binding) (binding : Binding) :
    firstNamed name (asked ++ [binding]) =
      (firstNamed name asked).or (if binding.name = name then some binding else none) := by
  rw [firstNamed, List.find?_append]
  by_cases own : binding.name = name <;> simp [firstNamed, own]

/-- A definition of a new name is kept behind the others. -/
theorem Keeps.accept (keeps : Keeps table asked) {binding : Binding}
    (fresh : table.find? binding.name = none) :
    Keeps (table ++ [binding]) (asked ++ [binding]) := by
  refine ⟨fun name => ?_, ?_⟩
  · rw [firstNamed_append_singleton, ← keeps.find]
    exact firstNamed_append_singleton name table binding
  · rw [List.map_append]
    refine List.nodup_append.mpr ⟨keeps.once, List.nodup_singleton _, ?_⟩
    rintro name member _ other rfl
    obtain ⟨earlier, inside, same⟩ := List.mem_map.mp member
    rw [List.map_singleton, List.mem_singleton] at other
    exact firstNamed_eq_none_iff.mp fresh earlier inside (same.trans other)

/-- A definition of a name that is taken changes nothing. -/
theorem Keeps.refuse (keeps : Keeps table asked) {binding : Binding}
    (taken : (table.find? binding.name).isSome) : Keeps table (asked ++ [binding]) := by
  refine ⟨fun name => ?_, keeps.once⟩
  rw [firstNamed_append_singleton, ← keeps.find]
  by_cases own : binding.name = name
  · subst own
    obtain ⟨first, found⟩ := Option.isSome_iff_exists.mp taken
    rw [found, Option.some_or]
  · rw [if_neg own, Option.or_none]

/-- A table has as many entries as there are names among the definitions. -/
theorem Keeps.length (keeps : Keeps table asked) :
    table.length = (asked.map Binding.name).toFinset.card := by
  have names : (asked.map Binding.name).toFinset = (table.map Binding.name).toFinset := by
    ext name
    have absent : (∀ binding ∈ asked, binding.name ≠ name) ↔
        ∀ binding ∈ table, binding.name ≠ name := by
      rw [← firstNamed_eq_none_iff, ← keeps.find]
      exact firstNamed_eq_none_iff
    simpa using not_congr absent
  rw [names, List.toFinset_card_of_nodup keeps.once, List.length_map]

theorem findSome?_of_keeps {tables : List Table} {questions : List (List Binding)}
    (keeps : List.Forall₂ Keeps tables questions) (name : String) :
    (tables.findSome? fun table => table.find? name) = questions.findSome? (firstNamed name) := by
  induction keeps with
  | nil => rfl
  | cons keeps _ ih => rw [List.findSome?_cons, List.findSome?_cons, keeps.find, ih]

/-- Every open table keeps what was asked of it. -/
structure Records (scope : Scope) (history : History) : Prop where
  innermost : Keeps scope.innermost history.innermost
  enclosing : List.Forall₂ Keeps scope.enclosing history.enclosing

namespace Records

theorem step (records : scope.Records history) (next : Step) :
    (scope.step next).Records (history.note next) := by
  obtain ⟨innermost, enclosing⟩ := records
  cases next with
  | define binding =>
      rw [Scope.step, define?, findLocal?]
      split
      next first found =>
        exact ⟨innermost.refuse (Option.isSome_of_eq_some found), enclosing⟩
      next fresh => exact ⟨innermost.accept fresh, enclosing⟩
  | push => exact ⟨.nil, .cons innermost enclosing⟩
  | pop =>
      obtain ⟨table, tables⟩ := scope
      obtain ⟨asked, others⟩ := history
      cases enclosing with
      | nil => exact ⟨innermost, .nil⟩
      | cons outer rest => exact ⟨outer, rest⟩

theorem ofSteps (steps : List Step) : (Scope.ofSteps steps).Records (.ofSteps steps) := by
  induction steps using List.reverseRecOn with
  | nil => exact ⟨.nil, .nil⟩
  | append_singleton steps next ih =>
      rw [Scope.ofSteps, History.ofSteps, List.foldl_append, List.foldl_append]
      exact ih.step next

theorem answers (records : scope.Records history) : scope.Answers history := by
  obtain ⟨innermost, enclosing⟩ := records
  refine ⟨fun binding => ?_, innermost.find, fun name => ?_, innermost.length⟩
  · rw [← firstNamed_eq_none_iff, ← innermost.find, define?, findLocal?]
    split
    next first found => simp [found]
    next fresh => simp [fresh]
  · exact findSome?_of_keeps (.cons innermost enclosing) name

end Records

end Tables

/-! ## Tables that are closed again -/

/-- The steps close every table that they open, and no other. -/
inductive Balanced : List Step → Prop where
  | nil : Balanced []
  | define {binding : Binding} {rest : List Step} :
      Balanced rest → Balanced (.define binding :: rest)
  | nested {inner rest : List Step} :
      Balanced inner → Balanced rest → Balanced (.push :: (inner ++ .pop :: rest))

theorem Balanced.append {first rest : List Step} (balanced : Balanced first)
    (balanced' : Balanced rest) : Balanced (first ++ rest) := by
  induction balanced with
  | nil => exact balanced'
  | define _ ih => exact .define ih
  | nested inner _ _ ih =>
      rw [List.cons_append, List.append_assoc, List.cons_append]
      exact .nested inner ih

theorem enclosing_define (scope : Scope) (binding : Binding) :
    (scope.step (.define binding)).enclosing = scope.enclosing := by
  rw [step, define?]
  split <;> rfl

theorem pop_of_enclosing {scope : Scope} {table : Table} {rest : List Table}
    (inside : scope.enclosing = table :: rest) : scope.pop = ⟨table, rest⟩ := by
  rw [pop, inside]

/-- Balanced steps end in the table that they began in. -/
theorem Balanced.enclosing {steps : List Step} (balanced : Balanced steps) (scope : Scope) :
    (steps.foldl step scope).enclosing = scope.enclosing := by
  induction balanced generalizing scope with
  | nil => rfl
  | define _ ih => exact (ih _).trans (enclosing_define scope _)
  | @nested inner rest _ _ innerIH restIH =>
      rw [List.foldl_cons, List.foldl_append, List.foldl_cons]
      have back : (inner.foldl step scope.push).step .pop = scope :=
        pop_of_enclosing (innerIH scope.push)
      rw [show step scope .push = scope.push from rfl, back]
      exact restIH scope

/-- A pop leads back to the scope before the push that it belongs to. -/
theorem ofSteps_pop {inner : List Step} (balanced : Balanced inner) (front : List Step) :
    ofSteps (front ++ .push :: inner ++ [.pop]) = ofSteps front := by
  rw [ofSteps, List.foldl_append, List.foldl_append, List.foldl_cons]
  exact pop_of_enclosing (balanced.enclosing (ofSteps front).push)

/-- Inside the outermost table, some push has not met its pop. -/
theorem exists_push (steps : List Step) (inside : (ofSteps steps).enclosing ≠ []) :
    ∃ front inner, Balanced inner ∧ steps = front ++ .push :: inner := by
  induction size : steps.length using Nat.strongRecOn generalizing steps with
  | ind count ih =>
      cases steps using List.reverseRecOn with
      | nil => exact absurd rfl inside
      | append_singleton steps next =>
          have shorter : steps.length < count := by simp [← size]
          have last : ofSteps (steps ++ [next]) = (ofSteps steps).step next := List.foldl_append
          cases next with
          | define binding =>
              rw [last, enclosing_define] at inside
              obtain ⟨front, inner, balanced, rfl⟩ := ih _ shorter steps inside rfl
              refine ⟨front, inner ++ [.define binding], balanced.append (.define .nil), ?_⟩
              rw [List.append_assoc, List.cons_append]
          | push => exact ⟨steps, [], .nil, rfl⟩
          | pop =>
              by_cases outermost : (ofSteps steps).enclosing = []
              · have same : (ofSteps steps).pop = ofSteps steps := by rw [pop, outermost]
                rw [last, step, same] at inside
                exact absurd outermost inside
              · -- The pop belongs to a push, and before that one stands the push that is left.
                obtain ⟨middle, inner, balanced, rfl⟩ := ih _ shorter steps outermost rfl
                rw [ofSteps_pop balanced] at inside
                have shorter' : middle.length < count := by
                  rw [List.length_append] at shorter
                  omega
                obtain ⟨front, inner', balanced', rfl⟩ := ih _ shorter' middle inside rfl
                refine ⟨front, inner' ++ .push :: (inner ++ .pop :: []),
                  balanced'.append (.nested balanced .nil), ?_⟩
                simp

/-! ## The history of a scope -/

/-- The scope that the steps lead to is settled by their history. -/
structure Settled (steps : List Step) : Prop where
  /-- The scope answers as its history says. -/
  answers : (ofSteps steps).Answers (.ofSteps steps)
  /-- A definition that is refused does not matter later on. -/
  refused : ∀ binding later, (ofSteps steps).define? binding = none →
    ofSteps (steps ++ .define binding :: later) = ofSteps (steps ++ later)
  /-- Behind a pop the scope is what it was before the push that the pop belongs to. -/
  popped : ∀ front inner, Balanced inner → steps = front ++ .push :: inner →
    ofSteps (steps ++ [.pop]) = ofSteps front
  /-- Unless only the outermost table is open, there is a push that a pop belongs to. -/
  pushed : (ofSteps steps).enclosing ≠ [] →
    ∃ front inner, Balanced inner ∧ steps = front ++ .push :: inner

theorem settled_ofSteps (steps : List Step) : Settled steps := by
  refine ⟨(Records.ofSteps steps).answers, fun binding later refused => ?_, ?_, exists_push steps⟩
  · have same : (ofSteps steps).step (.define binding) = ofSteps steps := by
      rw [step, refused, Option.getD_none]
    rw [ofSteps, ofSteps, List.foldl_append, List.foldl_append, List.foldl_cons]
    exact congrArg (fun scope => later.foldl step scope) same
  · rintro front inner balanced rfl
    exact ofSteps_pop balanced front

end RapidLang.Scope
