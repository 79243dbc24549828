import RapidLang.Checker.Builtin
import RapidLang.Syntax.Program

/-!
# Scopes

A scope is a stack of tables. A name is defined in the innermost table, where the first definition
of a name stands and later ones are refused; it is resolved from the innermost table outwards.
-/

set_option autoImplicit false

namespace RapidLang

open Text

inductive Origin where
  | data
  | parameter
  | proc
  | func
  | record (components : List Component)
  | trap
  | counter
  | builtin
  deriving DecidableEq, Repr

structure Binding where
  name : String
  /-- The type of the data or of the function's value; procedures and traps have none. -/
  type : Option String
  /-- May the name not be assigned to? -/
  isConstant : Bool
  origin : Origin
  /-- Where the name was declared; built-in names were not. -/
  span : Option Span
  deriving DecidableEq, Repr

namespace Binding

def builtin (name : String) (type : Option String) (isConstant : Bool) : Binding :=
  ⟨name, type, isConstant, .builtin, none⟩

def declared (name : Name) (type : Option String) (isConstant : Bool) (origin : Origin) :
    Binding :=
  ⟨name.text, type, isConstant, origin, some name.span⟩

def isRecord (binding : Binding) : Bool :=
  match binding.origin with
  | .record _ => true
  | _ => false

def isTrap (binding : Binding) : Bool :=
  binding.origin == .trap

end Binding

/-- The bindings that one construct introduces, each name once. -/
abbrev Table : Type := List Binding

def Table.find? (table : Table) (name : String) : Option Binding :=
  List.find? (fun binding => binding.name == name) table

/-- The tables that are open at some place, the innermost one first. -/
structure Scope where
  innermost : Table
  enclosing : List Table
  deriving Repr

namespace Scope

def empty : Scope := ⟨[], []⟩

def push (scope : Scope) : Scope :=
  ⟨[], scope.innermost :: scope.enclosing⟩

/-- Closes the innermost table; the outermost one stays open. -/
def pop (scope : Scope) : Scope :=
  match scope.enclosing with
  | table :: rest => ⟨table, rest⟩
  | [] => scope

def findLocal? (scope : Scope) (name : String) : Option Binding :=
  scope.innermost.find? name

/-- The binding of a name in the innermost table that has one. -/
def resolve? (scope : Scope) (name : String) : Option Binding :=
  (scope.innermost :: scope.enclosing).findSome? fun table => table.find? name

/-- Adds a binding to the innermost table, unless its name is already there. -/
def define? (scope : Scope) (binding : Binding) : Option Scope :=
  match scope.findLocal? binding.name with
  | some _ => none
  | none => some { scope with innermost := scope.innermost ++ [binding] }

def size (scope : Scope) : Nat :=
  scope.innermost.length

end Scope

def builtinBindings : List Binding :=
  builtinRoutines.map (fun (name, type) => Binding.builtin name type false)
    ++ predefinedData.map (fun (name, type) => Binding.builtin name (some type) true)

/-- The scope around every module: the built-in names. -/
def Scope.builtin : Scope :=
  builtinBindings.foldl (fun scope binding => (scope.define? binding).getD scope) .empty

end RapidLang
