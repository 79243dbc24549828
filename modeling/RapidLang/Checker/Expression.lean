import RapidLang.Checker.Problem
import RapidLang.Checker.Scope

/-!
# Checking expressions

The type of an expression, where it is known, and the problems in it from left to right. An index
has no known type, and nothing is said about what depends on an unknown type.
-/

set_option autoImplicit false

namespace RapidLang

structure Typing where
  type : Option String
  problems : List Problem
  deriving DecidableEq, Repr

namespace Typing

def known (type : String) : Typing := ⟨some type, []⟩

def ofBinding (binding : Option Binding) (unbound : Problem) : Typing :=
  match binding with
  | some binding => ⟨binding.type, []⟩
  | none => ⟨none, [unbound]⟩

end Typing

/-- The type of a component of a type. Components of built-in types are found in any letter case,
those of declared records only as they are spelled. -/
def Scope.typeOfComponent (scope : Scope) (type : String) (component : Name) : Typing :=
  let found (type? : Option String) : Typing :=
    match type? with
    | some type => .known type
    | none => ⟨none, [.unknownComponent type component]⟩
  match builtinComponents? type with
  | some components =>
    found ((components.find? fun entry => Text.sameWord entry.1 component.text).map Prod.snd)
  | none =>
    match (scope.resolve? type).map Binding.origin with
    | some (.record components) =>
      found ((components.find? fun entry => entry.name.text == component.text).map
        fun entry => normalizeType entry.type.text)
    | _ => ⟨none, [.notARecord type component]⟩

mutual

def Expr.check (scope : Scope) : Expr → Typing
  | .number _ _ => .known numType
  | .truth _ _ => .known boolType
  | .string _ _ => .known stringType
  | .variable name => .ofBinding (scope.resolve? name.text) (.undefinedVariable name)
  | .index base position _ =>
    ⟨none, (Expr.check scope base).problems ++ (Expr.check scope position).problems⟩
  | .component base name _ =>
    let checked := Expr.check scope base
    match checked.type with
    | none => checked
    | some type =>
      let selected := scope.typeOfComponent type name
      ⟨selected.type, checked.problems ++ selected.problems⟩
  | .call routine arguments _ =>
    let bound := Typing.ofBinding (scope.resolve? routine.text) (.undefinedRoutine routine)
    ⟨bound.type, Expr.checkAll scope arguments ++ bound.problems⟩
  | .unary _ operand _ => Expr.check scope operand
  | .binary operator left right _ =>
    ⟨some (if operator.isArithmetic then numType else boolType),
      (Expr.check scope left).problems ++ (Expr.check scope right).problems⟩

def Expr.checkAll (scope : Scope) : List Expr → List Problem
  | [] => []
  | first :: rest => (Expr.check scope first).problems ++ Expr.checkAll scope rest

end

def Expr.checkOptional (scope : Scope) : Option Expr → List Problem
  | some value => (value.check scope).problems
  | none => []

end RapidLang
