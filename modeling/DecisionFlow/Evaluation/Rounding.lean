/-!
# Rounding to decimal places

A number is scaled by a power of ten, rounded to a whole number with halves away from zero, and
scaled back. A number that has no fraction left at that scale is not touched, so that scaling cannot
lose it.
-/

set_option autoImplicit false

namespace DecisionFlow

/-- Multiplies `product` by `base ^ exponent`, squaring the base for each binary digit. -/
def multiplyByPower (base product : Float) (exponent : Nat) : Float :=
  let product := if exponent % 2 = 1 then product * base else product
  if _more : 1 < exponent then multiplyByPower (base * base) product (exponent / 2) else product
termination_by exponent

/-- A power of ten, as a double. A negative power is the reciprocal of the positive one. -/
def powerOfTen (exponent : Int) : Float :=
  let power := multiplyByPower 10.0 1.0 exponent.natAbs
  if exponent < 0 then 1.0 / power else power

/-- From two to the fifty-second on, doubles have no fraction. -/
def fractionLimit : Float := 4503599627370496.0

/-- Rounds to a number of decimal places, halves away from zero. -/
def roundToPlaces (value : Float) (places : Int) : Float :=
  if places = 0 then value.round
  else
    let factor := powerOfTen places
    let scaled := value * factor
    if scaled.isFinite && scaled.abs < fractionLimit then scaled.round / factor else value

end DecisionFlow
