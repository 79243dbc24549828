import RapidLang.Json.Printer
import RapidLang.Text.Address
import RapidLang.Text.Quoted

/-!
# Shapes of JSON values

What a value from elsewhere must look like. A shape is data; reading a value with it gives the value
in its plain form, where records are objects with known members only, or the first misfit. Of the
members of an object the one with the least key is looked at first, and members that are missing
come last.
-/

set_option autoImplicit false

namespace RapidLang.Json

inductive Misfit where
  /-- The value is of another kind. -/
  | kind (found : Json) (expected : String)
  /-- The value is of the right kind, but no such value is expected. -/
  | range (found : Json) (expected : String)
  /-- An array has another number of items. -/
  | length (found : Nat) (expected : String)
  | missing (key : String)
  | unknownWord (word : String) (known : List String)
  /-- None of several shapes fits. -/
  | noAlternative (name : String)
  | address (text : String) (error : Text.AddressError)
  deriving Repr

def backquoted (word : String) : String :=
  "`" ++ word ++ "`"

def oneOf : List String → String
  | [only] => backquoted only
  | [first, second] => backquoted first ++ " or " ++ backquoted second
  | words => "one of " ++ ", ".intercalate (words.map backquoted)

def described : Json → String
  | .null => "null"
  | .bool value => "boolean " ++ backquoted (toString value)
  | .integer value => "integer " ++ backquoted (toString value)
  | .float value => "floating point " ++ backquoted (floatText value)
  | .string value => "string " ++ Text.quoted value
  | .array _ => "sequence"
  | .object _ => "map"

def Misfit.message : Misfit → String
  | .kind found expected => "invalid type: " ++ found.described ++ ", expected " ++ expected
  | .range found expected => "invalid value: " ++ found.described ++ ", expected " ++ expected
  | .length found expected => "invalid length " ++ toString found ++ ", expected " ++ expected
  | .missing key => "missing field " ++ backquoted key
  | .unknownWord word known => "unknown variant " ++ backquoted word ++ ", expected " ++ oneOf known
  | .noAlternative name => "data did not match any variant of untagged enum " ++ name
  | .address text error => error.message ++ ": " ++ Text.quoted text

mutual

inductive Shape where
  /-- Any value at all. -/
  | any
  /-- A truth value. -/
  | truth
  | text
  /-- A whole number between two bounds, of a kind with the given name. -/
  | whole (least greatest : Int) (name : String)
  /-- The address of a document. -/
  | address
  /-- One of some words. -/
  | word (known : List String)
  /-- A value that may be null. -/
  | optional (inner : Shape)
  | list (item : Shape)
  /-- An object with the given members, or an array of their values. -/
  | record (name : String) (fields : List Field)
  /-- An object that has members of its own and serves as each of some records, too. -/
  | merged (name : String) (fields : List Field) (parts : List Shape)
  /-- A value with the first shape that fits. -/
  | alternatives (name : String) (shapes : List Shape)
  /-- A record; a truth value may stand for its presence. -/
  | orTruth (inner : Shape)

inductive Field where
  /-- One with `omissible` may be left out at the end of an array. -/
  | field (key : String) (shape : Shape) (omissible : Bool)

end

namespace Shape

def natural : Shape := .whole 0 4294967295 "u32"

def integer : Shape := .whole (-2147483648) 2147483647 "i32"

end Shape

namespace Field

def key : Field → String
  | .field key _ _ => key

def omissible : Field → Bool
  | .field _ _ omissible => omissible

def mayMiss : Field → Bool
  | .field _ (.optional _) _ => true
  | .field _ _ omissible => omissible

def required (key : String) (shape : Shape) : Field :=
  .field key shape false

def optional (key : String) (shape : Shape) : Field :=
  .field key (.optional shape) false

/-- A member that may be missing or null, also at the end of an array. -/
def trailing (key : String) (shape : Shape) : Field :=
  .field key (.optional shape) true

def flags (keys : List String) : List Field :=
  keys.map fun key => .optional key .truth

end Field

def recordOf (name : String) (count : Nat) : String :=
  "struct " ++ name ++ " with " ++ toString count ++ " element" ++ (if count = 1 then "" else "s")

/-- The members of an object in the order of their keys. -/
def sortedMembers (members : List (String × Json)) : List (String × Json) :=
  members.mergeSort fun left right => !decide (right.1 < left.1)

def readWhole (least greatest : Int) (name : String) : Json → Except Misfit Json
  | .integer value =>
    if least ≤ value ∧ value ≤ greatest then .ok (.integer value)
    else .error (.range (.integer value) name)
  | other => .error (.kind other name)

def readAddress : Json → Except Misfit Json
  | .string text =>
    match Text.addressProblem? text with
    | none => .ok (.string text)
    | some error => .error (.address text error)
  | other => .error (.kind other "a string representing an URL")

/-- Reads one of some words; the word may be the key of an object with nothing else. -/
def readWord (known : List String) : Json → Except Misfit Json
  | .string word =>
    if known.contains word then .ok (.string word) else .error (.unknownWord word known)
  | .object [(word, content)] =>
    if known.contains word then
      match content with
      | .null => .ok (.string word)
      | other => .error (.kind other "unit")
    else .error (.unknownWord word known)
  | .object members => .error (.range (.object members) "map with a single key")
  | other => .error (.kind other "string or map")

def missingMember? (fields : List Field) (members : List (String × Json)) : Option String :=
  (fields.find? fun field => !field.mayMiss && !members.any fun member => member.1 == field.key).map
    Field.key

mutual

def Shape.read : Shape → Json → Except Misfit Json
  | .any, json => .ok json
  | .truth, .bool value => .ok (.bool value)
  | .truth, other => .error (.kind other "a boolean")
  | .text, .string value => .ok (.string value)
  | .text, other => .error (.kind other "a string")
  | .whole least greatest name, json => json.readWhole least greatest name
  | .address, json => json.readAddress
  | .word known, json => json.readWord known
  | .optional _, .null => .ok .null
  | .optional inner, json => inner.read json
  | .list item, .array items => do return .array (← items.mapM fun json => item.read json)
  | .list _, other => .error (.kind other "a sequence")
  | .record _ fields, .object members => do
    let found ← (sortedMembers members).filterMapM fun member =>
      readMember fields member.1 member.2
    match missingMember? fields members with
    | some key => throw (.missing key)
    | none => return .object found
  | .record name fields, .array items => do
    return .object (← readItems (recordOf name fields.length) items.length fields 0 items)
  | .record name _, other => .error (.kind other ("struct " ++ name))
  | .merged _ fields parts, .object members => do
    let found ← (sortedMembers members).filterMapM fun member =>
      readMember fields member.1 member.2
    match missingMember? fields members with
    | some key => throw (.missing key)
    | none => return .object (found ++ (← readParts parts (.object members)))
  | .merged name _ _, other => .error (.kind other ("struct " ++ name))
  | .alternatives name shapes, json =>
    match readFirst? shapes json with
    | some read => .ok read
    | none => .error (.noAlternative name)
  | .orTruth _, .bool value => .ok (.bool value)
  | .orTruth inner, json => inner.read json

/-- Reads the value of a key, if it is that of a member. -/
def readMember : List Field → String → Json → Except Misfit (Option (String × Json))
  | [], _, _ => .ok none
  | .field key shape _ :: rest, wanted, json =>
    if key = wanted then do return some (key, ← shape.read json)
    else readMember rest wanted json

def readItems (expected : String) (count : Nat) :
    List Field → Nat → List Json → Except Misfit (List (String × Json))
  | [], _, [] => .ok []
  | [], _, _ :: _ => .error (.length count "fewer elements in array")
  | .field _ _ omissible :: rest, position, [] =>
    if omissible then readItems expected count rest (position + 1) []
    else .error (.length position expected)
  | .field key shape _ :: rest, position, item :: items => do
    let value ← shape.read item
    return (key, value) :: (← readItems expected count rest (position + 1) items)

/-- Reads an object as each of some records, and gives all their members. -/
def readParts : List Shape → Json → Except Misfit (List (String × Json))
  | [], _ => .ok []
  | shape :: rest, json => do
    let part ← shape.read json
    return part.members ++ (← readParts rest json)

def readFirst? : List Shape → Json → Option Json
  | [], _ => none
  | shape :: rest, json =>
    match shape.read json with
    | .ok read => some read
    | .error _ => readFirst? rest json

end

end RapidLang.Json
