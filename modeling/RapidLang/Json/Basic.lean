import RapidLang.Number.Binary64

/-!
# JSON values

The values in which the tools exchange data with editors and other programs. An object keeps its
members in the order in which they were given.
-/

set_option autoImplicit false

namespace RapidLang

/-- A JSON value. Whole numbers are kept apart from other numbers. -/
inductive Json where
  | null
  | bool (value : Bool)
  | integer (value : Int)
  | float (value : Binary64)
  | string (value : String)
  | array (items : List Json)
  | object (members : List (String × Json))
  deriving Repr

namespace Json

def ofNat (value : Nat) : Json :=
  .integer value

def optional {α : Type} (encode : α → Json) : Option α → Json
  | some value => encode value
  | none => .null

def optionalString (value : Option String) : Json :=
  optional .string value

def list {α : Type} (encode : α → Json) (items : List α) : Json :=
  .array (items.map encode)

def member? {α : Type} (key : String) (encode : α → Json) : Option α → List (String × Json)
  | some value => [(key, encode value)]
  | none => []

/-- The member of an object with the given key; the last one counts. -/
def get? (json : Json) (key : String) : Option Json :=
  match json with
  | .object members => members.reverse.lookup key
  | _ => none

/-- The members of an object; other values have none. -/
def members : Json → List (String × Json)
  | .object members => members
  | _ => []

mutual

def depth : Json → Nat
  | .array items => depthOfItems items + 1
  | .object members => depthOfMembers members + 1
  | _ => 0

def depthOfItems : List Json → Nat
  | [] => 0
  | item :: rest => max (depth item) (depthOfItems rest)

def depthOfMembers : List (String × Json) → Nat
  | [] => 0
  | (_, value) :: rest => max (depth value) (depthOfMembers rest)

end

def string? : Json → Option String
  | .string value => some value
  | _ => none

def nat? : Json → Option Nat
  | .integer (.ofNat value) => some value
  | _ => none

def bool? : Json → Option Bool
  | .bool value => some value
  | _ => none

def items? : Json → Option (List Json)
  | .array items => some items
  | _ => none

end Json

end RapidLang
