import DecisionFlow.Decimal.Shortest

/-!
# Writing a double

A notation fixes what the digits alone leave open: which numbers are written positionally and which
with an exponent, what follows a whole number, and which of two equally near decimals is taken.
-/

set_option autoImplicit false

namespace DecisionFlow.Decimal

/-- The decisions of an output format about numbers. -/
structure Notation where
  tie : Tie
  /-- Given the power of ten of the leading digit: the number is written without an exponent. -/
  positional : Int → Bool
  /-- What follows the digits of a whole number in positional notation. -/
  wholeSuffix : String

/-- The decimal digits of a coefficient. -/
def digitChars (coefficient : Nat) : List Char :=
  Nat.toDigits 10 coefficient

/-- Positional notation: zeros fill the places that the digits do not reach. -/
def Digits.positional (wholeSuffix : String) (digits : Digits) : List Char :=
  let chars := digitChars digits.coefficient
  if 0 ≤ digits.exponent then
    chars ++ List.replicate digits.exponent.toNat '0' ++ wholeSuffix.toList
  else
    let places := (-digits.exponent).toNat
    if places < chars.length then
      chars.take (chars.length - places) ++ ['.'] ++ chars.drop (chars.length - places)
    else
      ['0', '.'] ++ List.replicate (places - chars.length) '0' ++ chars

/-- Exponent notation: one digit, the others after a point, and a signed power of ten. -/
def Digits.scientific (leading : Int) (digits : Digits) : List Char :=
  let chars := digitChars digits.coefficient
  let fraction := chars.drop 1
  let power := (if leading < 0 then '-' else '+') :: digitChars leading.natAbs
  chars.take 1 ++ (if fraction.isEmpty then [] else '.' :: fraction) ++ ['e'] ++ power

/-- The text of a positive number in a given notation. -/
def Digits.render (style : Notation) (digits : Digits) : List Char :=
  let leading := digits.exponent + (digitChars digits.coefficient).length - 1
  if style.positional leading then digits.positional style.wholeSuffix
  else digits.scientific leading

/-- The text of a double. A zero keeps its sign. -/
def render (style : Notation) (x : Float) : String :=
  match Binary.ofFloat x with
  | .notANumber => "NaN"
  | .infinite negative => if negative then "-inf" else "inf"
  | .finite negative significand exponent =>
    let sign := if negative then ['-'] else []
    if significand = 0 then String.ofList (sign ++ '0' :: style.wholeSuffix.toList)
    else String.ofList (sign ++ (shortest style.tie significand exponent).render style)

end DecisionFlow.Decimal
