import RapidLang.Json.Basic
import RapidLang.Number.Decimal
import RapidLang.Text.HexDigit

/-!
# Reading JSON

A reader for one JSON text. It works on a list of characters and returns the value with the
characters that follow it.
-/

set_option autoImplicit false

namespace RapidLang

namespace Json

def skipBlanks (text : List Char) : List Char :=
  text.dropWhile fun c => c == ' ' || c == '\t' || c == '\n' || c == '\r'

def readUnit? : List Char → Option (Nat × List Char)
  | a :: b :: c :: d :: rest => do
    let a ← Text.hexDigit? a
    let b ← Text.hexDigit? b
    let c ← Text.hexDigit? c
    let d ← Text.hexDigit? d
    return (((a * 16 + b) * 16 + c) * 16 + d, rest)
  | _ => none

/-- Reads the character that follows a backslash and the letter `u`: one unit of 16 bits, or two
that make up a character beyond the first 65536. -/
def readEscapedUnits? (text : List Char) : Option (Char × List Char) := do
  let (first, rest) ← readUnit? text
  if 0xDC00 ≤ first && first < 0xE000 then none
  else if 0xD800 ≤ first && first < 0xDC00 then
    match rest with
    | '\\' :: 'u' :: rest =>
      let (second, rest) ← readUnit? rest
      if 0xDC00 ≤ second && second < 0xE000 then
        return (Char.ofNat (0x10000 + (first - 0xD800) * 0x400 + (second - 0xDC00)), rest)
      else none
    | _ => none
  else return (Char.ofNat first, rest)

/-- The character that a single letter after a backslash stands for. -/
def unescape? : Char → Option Char
  | '"' => some '"'
  | '\\' => some '\\'
  | '/' => some '/'
  | 'b' => some '\x08'
  | 'f' => some '\x0c'
  | 'n' => some '\n'
  | 'r' => some '\r'
  | 't' => some '\t'
  | _ => none

/-- Reads the rest of a string after its opening quote, where the characters so far are given last
one first. Fuel beyond the length of the text suffices. -/
def readString? : Nat → List Char → List Char → Option (String × List Char)
  | 0, _, _ => none
  | fuel + 1, reversed, text =>
    match text with
    | [] => none
    | '"' :: rest => some (String.ofList reversed.reverse, rest)
    | '\\' :: 'u' :: rest =>
      match readEscapedUnits? rest with
      | some (c, rest) => readString? fuel (c :: reversed) rest
      | none => none
    | '\\' :: letter :: rest =>
      match unescape? letter with
      | some c => readString? fuel (c :: reversed) rest
      | none => none
    | '\\' :: [] => none
    | c :: rest => if c.toNat < 0x20 then none else readString? fuel (c :: reversed) rest

def isNumberChar (c : Char) : Bool :=
  c.isDigit || c == '-' || c == '+' || c == '.' || c == 'e' || c == 'E'

/-- Is a number that is written as a whole one kept as such? It has to fit into 64 bits, and zero has
no sign. -/
def isKeptWhole (negative : Bool) (value : Int) : Bool :=
  if negative then -0x8000000000000000 ≤ value && value < 0 else value < 0x10000000000000000

def readNumber? (text : List Char) : Option (Json × List Char) := do
  let number := text.takeWhile isNumberChar
  let rest := text.dropWhile isNumberChar
  let (negative, unsigned) := match number with
    | '-' :: digits => (true, digits)
    | _ => (false, number)
  let value : Int := digitsValue unsigned
  let signed := if negative then -value else value
  if unsigned.isEmpty then none
  else if unsigned.all Char.isDigit && isKeptWhole negative signed then
    return (.integer signed, rest)
  else
    let decimal ← Binary64.readDecimal? unsigned
    return (.float (Binary64.ofDecimal negative decimal), rest)

def readWord? (word : String) (value : Json) (text : List Char) : Option (Json × List Char) :=
  if word.toList.isPrefixOf text then some (value, text.drop word.length) else none

/-- Reads the rest of an array after an item, with a reader for one value. -/
def readItems? (readValue : List Char → Option (Json × List Char)) :
    Nat → List Json → List Char → Option (Json × List Char)
  | 0, _, _ => none
  | fuel + 1, reversed, text => do
    let (item, rest) ← readValue text
    match skipBlanks rest with
    | ',' :: rest => readItems? readValue fuel (item :: reversed) rest
    | ']' :: rest => return (.array (item :: reversed).reverse, rest)
    | _ => none

/-- Reads the rest of an object from a key on, with a reader for one value. -/
def readMembers? (readValue : List Char → Option (Json × List Char)) :
    Nat → List (String × Json) → List Char → Option (Json × List Char)
  | 0, _, _ => none
  | fuel + 1, reversed, text => do
    match skipBlanks text with
    | '"' :: rest =>
      let (key, rest) ← readString? fuel [] rest
      match skipBlanks rest with
      | ':' :: rest =>
        let (value, rest) ← readValue rest
        match skipBlanks rest with
        | ',' :: rest => readMembers? readValue fuel ((key, value) :: reversed) rest
        | '\x7d' :: rest => return (.object ((key, value) :: reversed).reverse, rest)
        | _ => none
      | _ => none
    | _ => none

/-- Reads a value. Fuel beyond the length of the text suffices, since every level of nesting takes
a bracket from it. -/
def readValue? : Nat → List Char → Option (Json × List Char)
  | 0, _ => none
  | fuel + 1, text =>
    match skipBlanks text with
    | [] => none
    | '"' :: rest => (readString? fuel [] rest).map fun (value, rest) => (.string value, rest)
    | '[' :: rest =>
      match skipBlanks rest with
      | ']' :: rest => some (.array [], rest)
      | _ => readItems? (readValue? fuel) fuel [] rest
    | '\x7b' :: rest =>
      match skipBlanks rest with
      | '\x7d' :: rest => some (.object [], rest)
      | _ => readMembers? (readValue? fuel) fuel [] rest
    | 't' :: _ => readWord? "true" (.bool true) (skipBlanks text)
    | 'f' :: _ => readWord? "false" (.bool false) (skipBlanks text)
    | 'n' :: _ => readWord? "null" .null (skipBlanks text)
    | _ => readNumber? (skipBlanks text)

/-- Reads a text that holds one value and nothing else but blanks. -/
def read? (text : String) : Option Json :=
  match readValue? (text.length + 1) text.toList with
  | some (value, rest) => if (skipBlanks rest).isEmpty then some value else none
  | none => none

end Json

end RapidLang
