import RapidLang.Number.Binary64

/-!
# Numbers in decimal

How a number is read from decimal text, and how it is written. A number is written with the fewest
digits that read back as the same number, and of the decimals with so many digits with the one
that is nearest to it.
-/

set_option autoImplicit false

namespace RapidLang

structure Decimal where
  digits : Nat
  exponent : Int
  deriving DecidableEq, Repr

def tenPower (exponent : Nat) : Nat :=
  Nat.pow 10 exponent

/-- The number of decimal digits; zero has none. -/
def digitCount (n : Nat) : Nat :=
  if n = 0 then 0 else (Nat.toDigits 10 n).length

def digitsValue (digits : List Char) : Nat :=
  digits.foldl (fun value digit => 10 * value + (digit.toNat - '0'.toNat)) 0

namespace Binary64

/-- The number nearest to a decimal. Decimals far outside the range are decided by their size
alone, without building the power of ten. -/
def ofDecimal (negative : Bool) (decimal : Decimal) : Binary64 :=
  let size := digitCount decimal.digits + decimal.exponent
  if decimal.digits = 0 then .zero negative
  else if 310 < size then .infinite negative
  else if size < -330 then .zero negative
  else ofQuotient negative (decimal.digits * tenPower decimal.exponent.toNat)
    (tenPower (-decimal.exponent).toNat)

/-- The exponent that a text denotes: digits with an optional sign. -/
def readExponent? (text : List Char) : Option Int :=
  let (negative, digits) := match text with
    | '-' :: rest => (true, rest)
    | '+' :: rest => (false, rest)
    | _ => (false, text)
  if digits.isEmpty || !digits.all Char.isDigit then none
  else some (if negative then -(digitsValue digits : Int) else digitsValue digits)

/-- The decimal that a text without a sign denotes: digits with an optional point, at least one
digit on either side of it, and an optional exponent. -/
def readDecimal? (text : List Char) : Option Decimal :=
  let whole := text.takeWhile Char.isDigit
  let afterWhole := text.dropWhile Char.isDigit
  let (fraction, afterFraction) := match afterWhole with
    | '.' :: rest => (rest.takeWhile Char.isDigit, rest.dropWhile Char.isDigit)
    | _ => ([], afterWhole)
  let digits := whole ++ fraction
  if digits.isEmpty then none
  else
    let exponent? := match afterFraction with
      | [] => some 0
      | mark :: rest => if mark = 'e' || mark = 'E' then readExponent? rest else none
    exponent?.map fun exponent => ⟨digitsValue digits, exponent - fraction.length⟩

/-- The number that a text denotes: a decimal, or in any letter case one of the words `inf`,
`infinity` and `nan`, each with an optional sign. -/
def read? (text : String) : Option Binary64 :=
  let (negative, unsigned) := match text.toList with
    | '-' :: rest => (true, rest)
    | '+' :: rest => (false, rest)
    | characters => (false, characters)
  let word := unsigned.map Char.toLower
  if word = ['i', 'n', 'f'] || word = ['i', 'n', 'f', 'i', 'n', 'i', 't', 'y'] then
    some (.infinite negative)
  else if word = ['n', 'a', 'n'] then some .notANumber
  else (readDecimal? unsigned).map (ofDecimal negative)

end Binary64

/-- Where the middle between two equally short decimals goes. -/
inductive TieRule where
  | toEven
  | awayFromZero
  deriving DecidableEq, Repr

namespace Decimal

/-- Moves a power of ten from the digits to the exponent. -/
def dropZerosFuel : Nat → Decimal → Decimal
  | 0, decimal => decimal
  | fuel + 1, decimal =>
    if decimal.digits ≠ 0 ∧ decimal.digits % 10 = 0 then
      dropZerosFuel fuel ⟨decimal.digits / 10, decimal.exponent + 1⟩
    else decimal

/-- The same decimal with no zero at the end of its digits. -/
def dropZeros (decimal : Decimal) : Decimal :=
  dropZerosFuel (digitCount decimal.digits) decimal

/-- The least power of ten above `numerator / denominator`, for a positive quotient. -/
def scaleOf (numerator denominator : Nat) : Int :=
  if denominator ≤ numerator then digitCount (numerator / denominator)
  else 1 - (digitCount ((denominator - 1) / numerator) : Int)

/-- The decimal with at most `count` digits that is nearest to `numerator / denominator` among
those that read back as `number`. -/
def withDigits? (tie : TieRule) (number : Binary64) (numerator denominator count : Nat) :
    Option Decimal :=
  let exponent := scaleOf numerator denominator - count
  let scaledNumerator := numerator * tenPower (-exponent).toNat
  let scaledDenominator := denominator * tenPower exponent.toNat
  let low := scaledNumerator / scaledDenominator
  let readsBack (digits : Nat) : Bool := Binary64.ofDecimal false ⟨digits, exponent⟩ = number
  match readsBack low, readsBack (low + 1) with
  | true, false => some ⟨low, exponent⟩
  | false, true => some ⟨low + 1, exponent⟩
  | false, false => none
  | true, true =>
    let twice := 2 * scaledNumerator
    let middle := (2 * low + 1) * scaledDenominator
    if twice < middle then some ⟨low, exponent⟩
    else if middle < twice then some ⟨low + 1, exponent⟩
    else
      match tie with
      | .toEven => some ⟨if low % 2 = 0 then low else low + 1, exponent⟩
      | .awayFromZero => some ⟨low + 1, exponent⟩

/-- The shortest decimal that reads back as the positive number with the given significand and
exponent; should none with seventeen digits do so, the exact decimal. -/
def shortest (tie : TieRule) (significand exponent : Nat) : Decimal :=
  let numerator := significand * twoPower exponent
  let number := Binary64.finite false significand exponent
  let found := (List.range 17).findSome? fun count =>
    withDigits? tie number numerator (twoPower 1074) (count + 1)
  match found with
  | some decimal => decimal.dropZeros
  | none => (⟨numerator * Nat.pow 5 1074, -1074⟩ : Decimal).dropZeros

/-- The decimal without an exponent: digits, with zeros and a point where they are needed. -/
def positional (decimal : Decimal) : String :=
  let digits := Nat.toDigits 10 decimal.digits
  if 0 ≤ decimal.exponent then
    String.ofList (digits ++ List.replicate decimal.exponent.toNat '0')
  else
    let places := (-decimal.exponent).toNat
    let padded := List.replicate (places + 1 - digits.length) '0' ++ digits
    let whole := padded.length - places
    String.ofList (padded.take whole ++ '.' :: padded.drop whole)

end Decimal

namespace Binary64

/-- How a program writes the number: in full, without an exponent, and zero without a sign. -/
def sourceText : Binary64 → String
  | .finite negative significand exponent =>
    if significand = 0 then "0"
    else
      let text := (Decimal.shortest .awayFromZero significand exponent).positional
      if negative then "-" ++ text else text
  | .infinite negative => if negative then "-inf" else "inf"
  | .notANumber => "NaN"

end Binary64

end RapidLang
