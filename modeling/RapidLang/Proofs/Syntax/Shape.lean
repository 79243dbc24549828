import RapidLang.Proofs.Parser.Arrangement.Headings
import RapidLang.Proofs.Syntax.Bodies
import RapidLang.Proofs.Syntax.Erasure
import RapidLang.Text.AsciiCase

/-!
# The shape of trees

Not every tree can be written down. The types admit numbers with a sign of their own, components of
a sum, conditionals without branches; a tree is shaped if it has none of these at any depth. The
spans of a tree do not matter for its shape.
-/

set_option autoImplicit false

namespace RapidLang

open Text

/-! ## Expressions -/

/-- A word without dots, or what stands between two dots of a word. -/
structure IsPart (text : String) : Prop where
  filled : text ≠ ""
  plain : '.' ∉ text.toList

/-- Is the number neither undefined nor marked as negative? Zero can be marked so as well. -/
def Binary64.isUnsigned : Binary64 → Bool
  | .finite negative _ _ | .infinite negative => !negative
  | .notANumber => false

namespace Expr

/-- Does the expression begin with a name that calls, indices and components may follow? -/
def isChain : Expr → Bool
  | .variable _ | .call _ _ _ | .index _ _ _ | .component _ _ _ => true
  | .number _ _ | .truth _ _ | .string _ _ | .unary _ _ _ | .binary _ _ _ _ => false

/-- An expression that can be written down. The name of a called routine may hold dots. -/
inductive Shaped : Expr → Prop where
  | number {value : Binary64} {span : Span} : value.isUnsigned → Shaped (.number value span)
  | truth {value : Bool} {span : Span} : Shaped (.truth value span)
  | string {text : String} {span : Span} :
      '"' ∉ text.toList → '\n' ∉ text.toList → Shaped (.string text span)
  | variable {name : Name} : IsPart name.text → Shaped (.variable name)
  | index {base position : Expr} {span : Span} :
      base.isChain → Shaped base → Shaped position → Shaped (.index base position span)
  | component {base : Expr} {name : Name} {span : Span} :
      base.isChain → Shaped base → IsPart name.text → Shaped (.component base name span)
  | call {routine : Name} {arguments : List Expr} {span : Span} :
      (∀ argument ∈ arguments, Shaped argument) → Shaped (.call routine arguments span)
  | unary {operator : UnaryOperator} {operand : Expr} {span : Span} :
      Shaped operand → Shaped (.unary operator operand span)
  | binary {operator : BinaryOperator} {left right : Expr} {span : Span} :
      Shaped left → Shaped right → Shaped (.binary operator left right span)

theorem isChain_erase (tree : Expr) : tree.erase.isChain = tree.isChain := by
  cases tree <;> rfl

mutual

theorem Shaped.of_erase : ∀ {tree : Expr}, tree.erase.Shaped → tree.Shaped
  | .number _ _, .number unsigned => .number unsigned
  | .truth _ _, .truth => .truth
  | .string _ _, .string quote newline => .string quote newline
  | .variable _, .variable part => .variable part
  | .index base _ _, .index chain shaped position =>
      .index (base.isChain_erase ▸ chain) shaped.of_erase position.of_erase
  | .component base _ _, .component chain shaped part =>
      .component (base.isChain_erase ▸ chain) shaped.of_erase part
  | .call _ _ _, .call each => .call (Shaped.all_of_erase each)
  | .unary _ _ _, .unary operand => .unary operand.of_erase
  | .binary _ _ _ _, .binary left right => .binary left.of_erase right.of_erase

theorem Shaped.all_of_erase : ∀ {trees : List Expr}, (∀ tree ∈ eraseAll trees, tree.Shaped) →
    ∀ tree ∈ trees, tree.Shaped
  | [], _ => fun _ member => absurd member List.not_mem_nil
  | _ :: _, each => by
      obtain ⟨here, behind⟩ := List.forall_mem_cons.mp each
      exact List.forall_mem_cons.mpr ⟨here.of_erase, Shaped.all_of_erase behind⟩

end

end Expr

/-! ## Statements -/

namespace Stmt

/-- Blocks cannot be written down, nor a conditional without branches or an arm without values. -/
def IsSpelled : Stmt → Prop
  | .block _ _ => False
  | .conditional branches _ _ => branches ≠ []
  | .test _ arms _ _ => ∀ arm ∈ arms, arm.values ≠ []
  | .assign _ _ _ | .expression _ _ | .while _ _ _ | .for _ _ _ _ _ | .return _ _ | .move _ _
  | .connect _ _ _ | .raise _ _ | .data _ _ => True

/-- A statement that can be written down, apart from the statements inside it. -/
structure Shaped (statement : Stmt) : Prop where
  spelled : statement.IsSpelled
  expressions : ∀ expression ∈ statement.expressions, expression.Shaped

/-- All statements are shaped, at every depth. -/
def AllShaped (body : List Stmt) : Prop :=
  ∀ statement ∈ all body, statement.Shaped

variable {statement : Stmt} {first rest : List Stmt}

theorem allShaped_nil : AllShaped [] := by
  rw [AllShaped, all_nil]
  exact fun _ member => absurd member List.not_mem_nil

theorem AllShaped.append (shaped : AllShaped first) (shaped' : AllShaped rest) :
    AllShaped (first ++ rest) := by
  rw [AllShaped, all_append]
  exact List.forall_mem_append.mpr ⟨shaped, shaped'⟩

theorem AllShaped.one (shaped : statement.Shaped)
    (inner : ∀ nested ∈ statement.bodies, AllShaped nested.statements) :
    AllShaped [statement] := by
  intro part member
  rw [all_cons, all_nil, List.append_nil, List.mem_cons] at member
  obtain rfl | inside := member
  · exact shaped
  · obtain ⟨nested, within, member⟩ := List.mem_flatMap.mp inside
    exact inner nested within part member

end Stmt

/-! ### Without spans -/

instance : Erasable NestedBody := ⟨fun nested => ⟨erase nested.counter, erase nested.statements⟩⟩

theorem toList_erase {α : Type} [Erasable α] (value : Option α) :
    (erase value).toList = erase value.toList := by
  cases value <;> rfl

/-- What is found in each of the values without spans is what is found in the values, erased. -/
theorem map_erase {α β : Type} [Erasable α] [Erasable β] {part : α → β}
    (each : ∀ value, part (erase value) = erase (part value)) (values : List α) :
    (erase values).map part = erase (values.map part) := by
  induction values with
  | nil => rfl
  | cons first rest ih => simp [each, ih]

theorem flatMap_part_erase {α β : Type} [Erasable α] [Erasable β] {part : α → List β}
    {values : List α} (each : ∀ value ∈ values, part (erase value) = erase (part value)) :
    (erase values).flatMap part = erase (values.flatMap part) := by
  induction values with
  | nil => rfl
  | cons first rest ih =>
      obtain ⟨here, behind⟩ := List.forall_mem_cons.mp each
      simp [here, ih behind]

theorem Branch.condition_erase (branch : Branch) :
    (RapidLang.erase branch).condition = RapidLang.erase branch.condition := by
  cases branch
  rfl

theorem Branch.body_erase (branch : Branch) :
    (RapidLang.erase branch).body = RapidLang.erase branch.body := by
  cases branch
  simp [body]

theorem Arm.values_erase (arm : Arm) :
    (RapidLang.erase arm).values = RapidLang.erase arm.values := by
  cases arm
  simp [values]

theorem Arm.body_erase (arm : Arm) : (RapidLang.erase arm).body = RapidLang.erase arm.body := by
  cases arm
  simp [body]

namespace Stmt

theorem bodies_erase (statement : Stmt) :
    (RapidLang.erase statement).bodies = RapidLang.erase statement.bodies := by
  have plain (bodies : List (List Stmt)) :
      (RapidLang.erase bodies).map NestedBody.plain = RapidLang.erase (bodies.map .plain) :=
    @map_erase _ _ _ _ NestedBody.plain (fun _ => rfl) bodies
  cases statement with
  | conditional => simp [bodies, map_erase Branch.body_erase, toList_erase, plain]
  | test => simp [bodies, map_erase Arm.body_erase, toList_erase, plain]
  | block | «while» | «for» => simp [bodies]; rfl
  | _ => rfl

theorem expressions_erase (statement : Stmt) :
    (RapidLang.erase statement).expressions = RapidLang.erase statement.expressions := by
  cases statement with
  | conditional => simp [expressions, map_erase Branch.condition_erase]
  | test => simp [expressions, flatMap_part_erase fun arm _ => Arm.values_erase arm]
  | move operands =>
      cases operands
      simp [expressions, toList_erase]
  | data item =>
      cases item
      simp [expressions, toList_erase]
  | «return» => simp [expressions, toList_erase]
  | _ => simp [expressions]

theorem IsSpelled.of_erase {statement : Stmt} (spelled : (RapidLang.erase statement).IsSpelled) :
    statement.IsSpelled := by
  cases statement with
  | block => simp [IsSpelled] at spelled
  | conditional =>
      rw [erase_conditional] at spelled
      exact mt (congrArg RapidLang.erase) spelled
  | test =>
      rw [erase_test] at spelled
      intro arm member none
      refine spelled (RapidLang.erase arm) (List.mem_map_of_mem member) ?_
      rw [arm.values_erase, none]
      rfl
  | _ => trivial

theorem Shaped.of_erase {statement : Stmt} (shaped : (RapidLang.erase statement).Shaped) :
    statement.Shaped := by
  obtain ⟨spelled, expressions⟩ := shaped
  rw [expressions_erase] at expressions
  exact ⟨spelled.of_erase, fun expression member =>
    (expressions _ (List.mem_map_of_mem member)).of_erase⟩

theorem all_erase (body : List Stmt) : all (RapidLang.erase body) = RapidLang.erase (all body) := by
  induction body using body_induction with
  | nil => simp
  | cons first rest inner ih =>
      rw [erase_cons, all_cons, all_cons, ih, bodies_erase, erase_append, erase_cons,
        flatMap_part_erase inner]

theorem AllShaped.of_erase {body : List Stmt} (shaped : AllShaped (RapidLang.erase body)) :
    AllShaped body := by
  rw [AllShaped, all_erase] at shaped
  exact fun statement member => (shaped _ (List.mem_map_of_mem member)).of_erase

end Stmt

/-! ## Programs -/

/-- A parameter without a mode is not of the type that the word for a mode would name. -/
def Parameter.Shaped (parameter : Parameter) : Prop :=
  parameter.mode = .input → sameWord parameter.type.text "INOUT" = false

/-- The initial value of the data that is declared. -/
def Decl.initial? : Decl → Option Expr
  | .data item _ => item.initial
  | .proc _ _ _ _ | .func _ _ _ _ _ | .record _ _ _ | .trap _ _ _ => none

/-- A declaration that can be written down. -/
structure Decl.Shaped (declaration : Decl) : Prop where
  initial : ∀ value ∈ declaration.initial?, value.Shaped
  parameters : ∀ parameter ∈ declaration.parameters, parameter.Shaped
  body : Stmt.AllShaped declaration.body

/-- A program that can be written down. -/
def Program.Shaped (program : Program) : Prop :=
  ∀ content ∈ program.modules, ∀ declaration ∈ content.declarations, declaration.Shaped

section Erasure

variable {declaration : Decl}

theorem Decl.initial?_erase (declaration : Decl) :
    (RapidLang.erase declaration).initial? = RapidLang.erase declaration.initial? := by
  cases declaration <;> rfl

theorem Decl.parameters_erase (declaration : Decl) :
    (RapidLang.erase declaration).parameters = RapidLang.erase declaration.parameters := by
  cases declaration <;> rfl

theorem Decl.body_erase (declaration : Decl) :
    (RapidLang.erase declaration).body = RapidLang.erase declaration.body := by
  cases declaration <;> simp [body]

theorem Decl.Shaped.of_erase (shaped : (RapidLang.erase declaration).Shaped) :
    declaration.Shaped := by
  obtain ⟨initial, parameters, body⟩ := shaped
  rw [declaration.initial?_erase] at initial
  rw [declaration.parameters_erase] at parameters
  rw [declaration.body_erase] at body
  exact ⟨fun value member => (initial _ (Option.mem_map_of_mem _ member)).of_erase,
    fun parameter member => parameters (RapidLang.erase parameter) (List.mem_map_of_mem member),
    body.of_erase⟩

theorem Program.Shaped.of_erase {program : Program} (shaped : (RapidLang.erase program).Shaped) :
    program.Shaped := by
  intro content member declaration inside
  exact (shaped _ (List.mem_map_of_mem member) _ (List.mem_map_of_mem inside)).of_erase

end Erasure

end RapidLang
