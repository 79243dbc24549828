/-!
# UTF-8

Texts from bytes. The bytes are read one after the other; a byte that cannot follow the ones before
ends a damaged character, which is either refused or replaced.
-/

set_option autoImplicit false

namespace RapidLang.Text

structure PartialCharacter where
  /-- The bits read so far. -/
  bits : Nat
  /-- How many bytes are still to come. -/
  missing : Nat
  /-- The least byte that may follow. -/
  least : Nat
  /-- The greatest byte that may follow. -/
  greatest : Nat
  deriving DecidableEq, Repr

/-- What the first byte of a character of several bytes says. Bounds on the second byte keep out
long forms, surrogates and what lies beyond the last code point. -/
def PartialCharacter.ofFirst? (byte : Nat) : Option PartialCharacter :=
  if 0xC2 ≤ byte ∧ byte ≤ 0xDF then some ⟨byte - 0xC0, 1, 0x80, 0xBF⟩
  else if byte = 0xE0 then some ⟨0, 2, 0xA0, 0xBF⟩
  else if byte = 0xED then some ⟨0xD, 2, 0x80, 0x9F⟩
  else if 0xE1 ≤ byte ∧ byte ≤ 0xEF then some ⟨byte - 0xE0, 2, 0x80, 0xBF⟩
  else if byte = 0xF0 then some ⟨0, 3, 0x90, 0xBF⟩
  else if 0xF1 ≤ byte ∧ byte ≤ 0xF3 then some ⟨byte - 0xF0, 3, 0x80, 0xBF⟩
  else if byte = 0xF4 then some ⟨4, 3, 0x80, 0x8F⟩
  else none

/-- A byte between characters: what is complete after it, and the character that it begins. -/
def beginCharacter (byte : Nat) : List (Option Char) × Option PartialCharacter :=
  if byte < 0x80 then ([some (Char.ofNat byte)], none)
  else
    match PartialCharacter.ofFirst? byte with
    | some begun => ([], some begun)
    | none => ([none], none)

/-- A byte after some bytes of a character. One that may not follow leaves the character damaged and
begins the next one. -/
def continueCharacter (begun : PartialCharacter) (byte : Nat) :
    List (Option Char) × Option PartialCharacter :=
  if begun.least ≤ byte ∧ byte ≤ begun.greatest then
    let bits := begun.bits * 64 + (byte - 0x80)
    if begun.missing ≤ 1 then ([some (Char.ofNat bits)], none)
    else ([], some ⟨bits, begun.missing - 1, 0x80, 0xBF⟩)
  else
    let (complete, next) := beginCharacter byte
    (none :: complete, next)

/-- The characters of some bytes, given the one that has begun before; damaged ones are `none`. -/
def charactersFrom (begun : Option PartialCharacter) : List Nat → List (Option Char)
  | [] =>
    match begun with
    | some _ => [none]
    | none => []
  | byte :: rest =>
    let (complete, next) := match begun with
      | some begun => continueCharacter begun byte
      | none => beginCharacter byte
    complete ++ charactersFrom next rest

/-- The text that some bytes spell, if no character is damaged. -/
def decodeUtf8? (bytes : List Nat) : Option String :=
  ((charactersFrom none bytes).mapM id).map String.ofList

/-- The text that some bytes spell, with a replacement character for each damaged one. -/
def decodeUtf8 (bytes : List Nat) : String :=
  String.ofList ((charactersFrom none bytes).map fun character => character.getD '\ufffd')

end RapidLang.Text
