/-!
# Numbers of 64 bits

The numeric literals of the language denote binary floating-point numbers of 64 bits. A finite
number is a significand times a power of two, kept as exact naturals; a quotient of naturals is
rounded to the nearest such number, and from the middle between two of them to the one with an
even significand.
-/

set_option autoImplicit false

namespace RapidLang

/-- A binary floating-point number of 64 bits. The finite number with significand `m` and exponent
`e` is `m * 2 ^ e / 2 ^ 1074`; its significand is below `2 ^ 53`, and at least `2 ^ 52` unless the
exponent is zero. -/
inductive Binary64 where
  | finite (negative : Bool) (significand exponent : Nat)
  | infinite (negative : Bool)
  | notANumber
  deriving DecidableEq, Repr

def twoPower (exponent : Nat) : Nat :=
  Nat.pow 2 exponent

/-- The natural number nearest to a quotient; the middle goes to the even neighbour. -/
def roundHalfEven (numerator denominator : Nat) : Nat :=
  let floor := numerator / denominator
  let twiceRest := 2 * (numerator % denominator)
  if twiceRest < denominator then floor
  else if denominator < twiceRest then floor + 1
  else if floor % 2 = 0 then floor
  else floor + 1

namespace Binary64

def zero (negative : Bool) : Binary64 := .finite negative 0 0

def maxExponent : Nat := 2045

def ofQuotient (negative : Bool) (numerator denominator : Nat) : Binary64 :=
  let scaled := numerator * twoPower 1074
  let exponent := (scaled / denominator).log2 - 52
  let significand := roundHalfEven scaled (denominator * twoPower exponent)
  let carried := significand = twoPower 53
  let significand := if carried then twoPower 52 else significand
  let exponent := if carried then exponent + 1 else exponent
  if maxExponent < exponent then .infinite negative
  else .finite negative significand exponent

/-- The bits of the number, as a natural below `2 ^ 64`. -/
def toBits : Binary64 → Nat
  | .finite negative significand exponent =>
    (if negative then twoPower 63 else 0) + exponent * twoPower 52 + significand
  | .infinite negative => (if negative then twoPower 63 else 0) + 2047 * twoPower 52
  | .notANumber => 2047 * twoPower 52 + twoPower 51

def isFinite : Binary64 → Bool
  | .finite _ _ _ => true
  | _ => false

end Binary64

end RapidLang
