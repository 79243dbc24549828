import RapidLang.Json.Basic
import RapidLang.Number.Decimal

/-!
# Writing JSON

Two forms: on one line without blanks, and indented by two blanks for each level. Numbers that are
not whole have the fewest digits that read back; they are written with a point or an exponent, the
latter from `10 ^ 16` on and below `10 ^ -5`. JSON has no word for numbers that are not finite, so
they become null.
-/

set_option autoImplicit false

namespace RapidLang

namespace Json

def hexPair (n : Nat) : String :=
  String.ofList [Nat.digitChar (n / 16), Nat.digitChar (n % 16)]

def quoteChar (c : Char) : String :=
  match c with
  | '"' => "\\\""
  | '\\' => "\\\\"
  | '\n' => "\\n"
  | '\r' => "\\r"
  | '\t' => "\\t"
  | '\x08' => "\\b"
  | '\x0c' => "\\f"
  | c => if c.toNat < 0x20 then "\\u00" ++ hexPair c.toNat else c.toString

def quote (text : String) : String :=
  "\"" ++ String.join (text.toList.map quoteChar) ++ "\""

/-- A decimal that is not zero, with a point or an exponent. -/
def decimalText (decimal : Decimal) : String :=
  let digits := Nat.toDigits 10 decimal.digits
  let scale := decimal.exponent + digits.length
  if -5 < scale && scale ≤ 16 then
    let text := decimal.positional
    if 0 ≤ decimal.exponent then text ++ ".0" else text
  else
    let mantissa := match digits with
      | [] => "0"
      | [digit] => digit.toString
      | digit :: rest => String.ofList (digit :: '.' :: rest)
    let exponent := scale - 1
    let sign := if exponent < 0 then "-" else "+"
    mantissa ++ "e" ++ sign ++ toString exponent.natAbs

/-- A floating-point number, or null if it is not finite. -/
def floatText : Binary64 → String
  | .finite negative significand exponent =>
    let text :=
      if significand = 0 then "0.0"
      else decimalText (Decimal.shortest .toEven significand exponent)
    if negative then "-" ++ text else text
  | _ => "null"

mutual

def compact : Json → String
  | .null => "null"
  | .bool value => if value then "true" else "false"
  | .integer value => toString value
  | .float value => floatText value
  | .string value => quote value
  | .array items => "[" ++ ",".intercalate (compactItems items) ++ "]"
  | .object members => "\x7b" ++ ",".intercalate (compactMembers members) ++ "\x7d"

def compactItems : List Json → List String
  | [] => []
  | item :: rest => compact item :: compactItems rest

def compactMembers : List (String × Json) → List String
  | [] => []
  | (key, value) :: rest => (quote key ++ ":" ++ compact value) :: compactMembers rest

end

def margin (level : Nat) : String :=
  "".pushn ' ' (2 * level)

/-- A bracketed list with each entry on a line of its own; an empty one stays together. -/
def layOut (level : Nat) (opening closing : String) (entries : List String) : String :=
  if entries.isEmpty then opening ++ closing
  else
    let inner := "\n" ++ margin (level + 1)
    opening ++ inner ++ ("," ++ inner).intercalate entries ++ "\n" ++ margin level ++ closing

mutual

/-- The value with one entry a line, at a level of nesting. -/
def prettyAt (level : Nat) : Json → String
  | .null => "null"
  | .bool value => if value then "true" else "false"
  | .integer value => toString value
  | .float value => floatText value
  | .string value => quote value
  | .array items => layOut level "[" "]" (prettyItems (level + 1) items)
  | .object members => layOut level "\x7b" "\x7d" (prettyMembers (level + 1) members)

def prettyItems (level : Nat) : List Json → List String
  | [] => []
  | item :: rest => prettyAt level item :: prettyItems level rest

def prettyMembers (level : Nat) : List (String × Json) → List String
  | [] => []
  | (key, value) :: rest =>
    (quote key ++ ": " ++ prettyAt level value) :: prettyMembers level rest

end

def pretty (json : Json) : String :=
  prettyAt 0 json

end Json

end RapidLang
