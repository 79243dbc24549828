import RapidLang.Proofs.Checker.Names

/-!
# Names that are declared twice

Every construct that opens a table declares some names there: a module, a routine, and each nested
body. The checker reports exactly those that repeat an earlier name of the same table, and points
at the first declaration of that name there. Which names a table has while a body is checked is
carried along as the list of those that stand before.
-/

set_option autoImplicit false

namespace RapidLang

/-! ## The tables of a program -/

/-- The names in each table that is opened inside some statements. -/
def Stmt.innerTables : List Stmt → List (List Name)
  | [] => []
  | first :: rest =>
    (first.bodies.attach.flatMap fun nested =>
        (nested.val.counter.toList ++ names nested.val.statements)
          :: innerTables nested.val.statements)
      ++ innerTables rest
termination_by body => sizeOf body
decreasing_by
  · exact sizeOf_lt_cons_of_mem_bodies nested.property rest
  · exact sizeOf_lt_cons first rest

/-- The names in each table that is opened by a declaration. A routine has one for its parameters
and the data of its body. -/
def Decl.tables : Decl → List (List Name)
  | .data _ _ | .record _ _ _ => []
  | .proc _ parameters body _ | .func _ _ parameters body _ =>
    (parameters.map Parameter.name ++ Stmt.names body) :: Stmt.innerTables body
  | .trap _ body _ => Stmt.names body :: Stmt.innerTables body

/-- The names in each table that is opened in a module, from that of the module itself. -/
def Module.tables (content : Module) : List (List Name) :=
  content.declarations.map Decl.name :: content.declarations.flatMap Decl.tables

/-- The names in each table that is opened in a program; built-in names are in none. -/
def Program.tables (program : Program) : List (List Name) :=
  program.modules.flatMap Module.tables

/-! ## Names that are repeated -/

/-- Each name that repeats one before it, together with the first that has its text; some names
stand before all of them. -/
def repeatedAfter (earlier : List Name) : List Name → List (Name × Name)
  | [] => []
  | name :: rest =>
    ((earlier.find? fun first => first.text == name.text).toList.map fun first => (name, first))
      ++ repeatedAfter (earlier ++ [name]) rest

/-- Each name that repeats one before it, together with the first that has its text. -/
def repeated (names : List Name) : List (Name × Name) :=
  repeatedAfter [] names

section Repeated

variable {earlier names : List Name} {later first : Name}

theorem repeatedAfter_append (earlier front back : List Name) :
    repeatedAfter earlier (front ++ back) =
      repeatedAfter earlier front ++ repeatedAfter (earlier ++ front) back := by
  induction front generalizing earlier with
  | nil => rw [List.append_nil]; rfl
  | cons name rest ih =>
      rw [List.cons_append, repeatedAfter, repeatedAfter, ih, List.append_assoc, List.append_assoc,
        List.singleton_append]

/-- A single name repeats none. -/
theorem repeated_append_counter (counter : Option Name) (names : List Name) :
    repeated (counter.toList ++ names) = repeatedAfter counter.toList names := by
  rw [repeated, repeatedAfter_append]
  cases counter <;> rfl

theorem mem_repeatedAfter : (later, first) ∈ repeatedAfter earlier names ↔
    ∃ front back, names = front ++ later :: back ∧
      (earlier ++ front).find? (fun name => name.text == later.text) = some first := by
  induction names generalizing earlier with
  | nil => simp [repeatedAfter]
  | cons name rest ih =>
      rw [repeatedAfter, List.mem_append, ih]
      constructor
      · rintro (own | ⟨front, back, split, found⟩)
        · obtain ⟨_, found, same⟩ := List.mem_map.mp own
          cases same
          exact ⟨[], rest, rfl, by simpa using found⟩
        · exact ⟨name :: front, back, by rw [split]; rfl, by simpa using found⟩
      · rintro ⟨front, back, split, found⟩
        cases front with
        | nil =>
            obtain ⟨rfl, rfl⟩ := List.cons.inj split
            exact .inl (by simpa using found)
        | cons head front =>
            obtain ⟨rfl, behind⟩ := List.cons.inj split
            exact .inr ⟨front, back, behind, by simpa using found⟩

/-- A name is repeated if the same text stands before it; the first such name comes with it. -/
theorem mem_repeated : (later, first) ∈ repeated names ↔
    ∃ front middle back, names = front ++ first :: middle ++ later :: back ∧
      first.text = later.text ∧ ∀ other ∈ front, other.text ≠ later.text := by
  rw [repeated, mem_repeatedAfter]
  constructor
  · rintro ⟨before, back, split, found⟩
    obtain ⟨same, front, middle, split', apart⟩ := List.find?_eq_some_iff_append.mp found
    rw [List.nil_append] at split'
    exact ⟨front, middle, back, split' ▸ split, by simpa using same, by simpa using apart⟩
  · rintro ⟨front, middle, back, split, same, apart⟩
    exists front ++ first :: middle, back, split
    exact List.find?_eq_some_iff_append.mpr
      ⟨by simpa using same, front, middle, rfl, by simpa using apart⟩

/-- No name is reported more often than it stands there. -/
theorem repeatedAfter_sublist (earlier names : List Name) :
    ((repeatedAfter earlier names).map Prod.fst).Sublist names := by
  induction names generalizing earlier with
  | nil => exact .slnil
  | cons name rest ih =>
      rw [repeatedAfter, List.map_append]
      cases earlier.find? fun first => first.text == name.text with
      | none => exact (ih _).cons name
      | some first => exact (ih _).cons_cons name

example (a b c d : Text.Span) :
    repeated [⟨"n", a⟩, ⟨"m", b⟩, ⟨"n", c⟩, ⟨"n", d⟩] =
      [(⟨"n", c⟩, ⟨"n", a⟩), (⟨"n", d⟩, ⟨"n", a⟩)] := rfl

end Repeated

/-! ## What a table has -/

/-- The problem that a name repeats another. -/
def repeatedProblem (pair : Name × Name) : Problem :=
  .alreadyDefined pair.1 (some pair.2.span)

/-- The binding of a name has its text, and the place where it stands. -/
structure Binding.Of (binding : Binding) (name : Name) : Prop where
  text : binding.name = name.text
  span : binding.span = some name.span

/-- The innermost table has the first of each of the names, at its place. -/
def Scope.Declares (scope : Scope) (names : List Name) : Prop :=
  ∀ text, (scope.findLocal? text).map Binding.span =
    (names.find? fun name => name.text == text).map fun name => some name.span

namespace Scope.Declares

variable {scope other : Scope} {names : List Name} {name : Name} {binding : Binding}

theorem of_alike (declares : scope.Declares names) (alike : scope.Alike other) :
    other.Declares names := by
  intro text
  rw [← alike.own, declares text]

theorem extend (declares : scope.Declares names) (binds : binding.Of name) :
    (scope.extend [binding]).Declares (names ++ [name]) := by
  intro text
  rw [findLocal?_extend, List.find?_append, Option.map_or, Option.map_or, declares text]
  -- The last binding counts only where the table has none of its name; so does the last name.
  congr 1
  by_cases own : name.text = text
  · simp [Table.find?, binds.text, binds.span, own]
  · simp [Table.find?, binds.text, own]

theorem declare (declares : scope.Declares names) (binds : binding.Of name) :
    (scope.declare name binding).1.Declares (names ++ [name]) :=
  (declares.extend binds).of_alike (scope.declare_alike name binding).symm

theorem declare_problems (declares : scope.Declares names) (binds : binding.Of name) :
    (scope.declare name binding).2 = (repeatedAfter names [name]).map repeatedProblem := by
  have found := declares name.text
  unfold Scope.declare Scope.define?
  rw [binds.text, repeatedAfter, repeatedAfter, List.append_nil]
  cases before : names.find? fun first => first.text == name.text with
  | none =>
      rw [before] at found
      rw [Option.map_eq_none_iff.mp found]
      rfl
  | some first =>
      rw [before] at found
      obtain ⟨previous, local', span⟩ := Option.map_eq_some_iff.mp found
      rw [local']
      simp [repeatedProblem, span]

theorem declareAll (declares : scope.Declares names) {declared : List (Name × Binding)}
    (binds : ∀ entry ∈ declared, entry.2.Of entry.1) :
    (scope.declareAll declared).1.Declares (names ++ declared.map Prod.fst) ∧
      (scope.declareAll declared).2 =
        (repeatedAfter names (declared.map Prod.fst)).map repeatedProblem := by
  induction declared generalizing scope names with
  | nil =>
      rw [List.map_nil, List.append_nil]
      exact ⟨declares, rfl⟩
  | cons first rest ih =>
      obtain ⟨name, binding⟩ := first
      obtain ⟨own, others⟩ := List.forall_mem_cons.mp binds
      obtain ⟨behind, problems⟩ := ih (declares.declare own) others
      have split := repeatedAfter_append names [name] (rest.map Prod.fst)
      rw [List.append_assoc] at behind
      rw [List.singleton_append] at split
      rw [List.map_cons, split, List.map_append, ← problems, ← declares.declare_problems own]
      exact ⟨behind, rfl⟩

theorem push (scope : Scope) : scope.push.Declares [] :=
  fun _ => rfl

end Scope.Declares

/-! ## Statements -/

namespace Stmt

variable {routine : RoutineKind} {scope : Scope} {names : List Name}

theorem redeclared_eq (declares : scope.Declares names) (statement : Stmt) :
    scope.redeclared statement =
      (repeatedAfter names (statement.item?.toList.map DataItem.name)).map repeatedProblem := by
  rw [Scope.redeclared]
  cases statement.item? with
  | none => rfl
  | some item =>
      rw [Option.toList_some, List.flatMap_singleton]
      exact declares.declare_problems ⟨rfl, rfl⟩

theorem check_declares (declares : scope.Declares names) (statement : Stmt) :
    (Stmt.check routine scope statement).1.Declares
      (names ++ statement.item?.toList.map DataItem.name) := by
  apply Scope.Declares.of_alike _ (check_alike statement).symm
  rw [declared]
  cases statement.item? with
  | none =>
      rw [Option.toList_none, List.map_nil, List.map_nil, Scope.extend_nil, List.append_nil]
      exact declares
  | some item => exact declares.extend ⟨rfl, rfl⟩

theorem enter_declares (nested : NestedBody) :
    (scope.enter nested.bindings).Declares nested.counter.toList := by
  obtain ⟨counter, body⟩ := nested
  cases counter with
  | none => exact Scope.Declares.push scope
  | some counter => exact (Scope.Declares.push scope).extend ⟨rfl, rfl⟩

theorem innerTables_cons (first : Stmt) (rest : List Stmt) :
    innerTables (first :: rest) =
      (first.bodies.flatMap fun nested =>
          (nested.counter.toList ++ Stmt.names nested.statements)
            :: innerTables nested.statements) ++ innerTables rest := by
  rw [innerTables, ← flatMap_bodies_attach]

/-- The names that are repeated in a body, behind those that its table has before, and in the
tables of the bodies inside. -/
def repeatedIn (names : List Name) (body : List Stmt) : List (Name × Name) :=
  repeatedAfter names (Stmt.names body) ++ (innerTables body).flatMap repeated

theorem repeatedIn_cons (names : List Name) (first : Stmt) (rest : List Stmt) :
    (repeatedIn names (first :: rest)).Perm
      (repeatedAfter names (first.item?.toList.map DataItem.name)
        ++ (first.bodies.flatMap fun nested => repeatedIn nested.counter.toList nested.statements)
        ++ repeatedIn (names ++ first.item?.toList.map DataItem.name) rest) := by
  have inside : ((first.bodies.flatMap fun nested =>
        (nested.counter.toList ++ Stmt.names nested.statements)
          :: innerTables nested.statements)).flatMap repeated =
      first.bodies.flatMap fun nested => repeatedIn nested.counter.toList nested.statements := by
    rw [List.flatMap_assoc]
    simp only [List.flatMap_cons, repeated_append_counter, repeatedIn]
  rw [repeatedIn, innerTables_cons, List.flatMap_append, inside, Stmt.names, List.flatMap_cons,
    repeatedAfter_append, repeatedIn, List.append_assoc, List.append_assoc]
  -- What is repeated behind the statement changes places with what is repeated inside it.
  exact (List.perm_append_comm_assoc _ _ _).append_left _

theorem checkBody_repeated (routine : RoutineKind) (declares : scope.Declares names)
    (body : List Stmt) :
    (withCode Code.isRepeated (Stmt.checkBody routine scope body)).Perm
      ((repeatedIn names body).map repeatedProblem) := by
  refine (walk_withCode Code.isRepeated routine).perm Scope.Declares
    (fun names body => (repeatedIn names body).map repeatedProblem) (fun names => ?_) ?_ body
    declares
  · rw [repeatedIn, innerTables]
    rfl
  · intro scope names first rest declares
    exists fun nested => nested.counter.toList, names ++ first.item?.toList.map DataItem.name
    refine ⟨fun nested _ => enter_declares nested, check_declares declares first, ?_⟩
    have whole := (repeatedIn_cons names first rest).map repeatedProblem
    rw [List.map_append, List.map_append, List.map_flatMap] at whole
    have own : (withCode Code.isRepeated (first.ownCheck routine scope)).Perm
        (scope.redeclared first) := withCode_isRepeated_ownCheck first
    rw [redeclared_eq declares] at own
    exact whole.trans ((own.symm.append_right _).append_right _)

end Stmt

/-! ## Programs -/

theorem checkRoutine_repeated (scope : Scope) (routine : RoutineKind) (parameters : List Parameter)
    (body : List Stmt) :
    (withCode Code.isRepeated (scope.checkRoutine routine parameters body)).Perm
      ((((parameters.map Parameter.name ++ Stmt.names body) :: Stmt.innerTables body).flatMap
        repeated).map repeatedProblem) := by
  have binds : ∀ entry ∈ parameters.map fun parameter => (parameter.name, parameter.binding),
      entry.2.Of entry.1 := by
    intro entry member
    obtain ⟨parameter, _, rfl⟩ := List.mem_map.mp member
    exact ⟨rfl, rfl⟩
  obtain ⟨declares, problems⟩ := (Scope.Declares.push scope).declareAll binds
  rw [List.map_map] at declares problems
  have inside := Stmt.checkBody_repeated routine declares body
  rw [Scope.checkRoutine_eq, withCode_append, withCode_isRepeated_declareAll, problems,
    List.flatMap_cons, repeated, repeatedAfter_append, List.append_assoc, List.map_append]
  exact inside.append_left _

theorem Decl.check_repeated (scope : Scope) (declaration : Decl) :
    (withCode Code.isRepeated (declaration.check scope)).Perm
      ((declaration.tables.flatMap repeated).map repeatedProblem) := by
  cases declaration with
  | data item =>
      rw [Decl.check, Expr.checkOptional_eq, withCode_isRepeated_problemsIn]
      exact .nil
  | proc _ parameters body => exact checkRoutine_repeated scope .proc parameters body
  | func type name parameters body =>
      rw [Decl.withCode_check_func rfl]
      exact checkRoutine_repeated scope _ parameters body
  | record => exact .nil
  | trap _ body => exact checkRoutine_repeated scope .trap [] body

theorem Module.check_repeated (content : Module) :
    (withCode Code.isRepeated content.check).Perm
      ((content.tables.flatMap repeated).map repeatedProblem) := by
  have binds : ∀ entry ∈ content.declarations.map fun declaration =>
      (declaration.name, declaration.binding), entry.2.Of entry.1 := by
    intro entry member
    obtain ⟨declaration, _, rfl⟩ := List.mem_map.mp member
    cases declaration <;> exact ⟨rfl, rfl⟩
  obtain ⟨_, problems⟩ := (Scope.Declares.push Scope.builtin).declareAll binds
  have inside : (content.declarations.flatMap fun declaration =>
        withCode Code.isRepeated (declaration.check content.scope)).Perm
      (((content.declarations.flatMap Decl.tables).flatMap repeated).map repeatedProblem) := by
    rw [List.flatMap_assoc, List.map_flatMap]
    exact List.Perm.flatMap_left _ fun declaration _ => declaration.check_repeated content.scope
  rw [List.map_map] at problems
  rw [Module.withCode_check rfl, withCode_isRepeated_declareAll, problems, tables,
    List.flatMap_cons, List.map_append]
  exact inside.append_left _

theorem Program.check_repeated (program : Program) :
    (withCode Code.isRepeated program.check).Perm
      ((program.tables.flatMap repeated).map repeatedProblem) := by
  rw [check, withCode_flatMap, tables, List.flatMap_assoc, List.map_flatMap]
  exact List.Perm.flatMap_left _ fun content _ => content.check_repeated

/-- The report that a name repeats one that was declared first. -/
def repeatedReport (later first : Name) : Diagnostic :=
  { severity := .error
    stage := .semantic
    code := some .duplicateDefinition
    message := Problem.quoted later.text ++ " is already defined"
    span := later.span
    labels := [⟨first.span, "first defined here"⟩]
    help := none }

/-- The checker reports a name as defined twice once for each declaration that repeats an earlier
name of its table, where that declaration has the name, with the place of the first declaration of
the name in the table. A name is repeated, as often as it stands there, if its text stands before it
in the same table. -/
theorem repeated_reported_exactly (program : Program) :
    (program.diagnostics.filter fun report => report.code == some .duplicateDefinition).Perm
        ((program.tables.flatMap repeated).map fun pair => repeatedReport pair.1 pair.2) ∧
      ∀ names, ((repeated names).map Prod.fst).Sublist names ∧
        ∀ later first, (later, first) ∈ repeated names ↔
          ∃ front middle back, names = front ++ first :: middle ++ later :: back ∧
            first.text = later.text ∧ ∀ other ∈ front, other.text ≠ later.text := by
  constructor
  · have reports := program.check_repeated.map Problem.diagnostic
    rw [List.map_map] at reports
    rw [Program.diagnostics, List.filter_map]
    exact reports
  · intro names
    exact ⟨repeatedAfter_sublist [] names, fun _ _ => mem_repeated⟩

end RapidLang
