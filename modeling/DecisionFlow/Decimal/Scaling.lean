import DecisionFlow.Decimal.Reading

/-!
# Reading a decimal by scaling

A decimal may be read faster than to the nearest double. The leading digits that fit into
sixty-four bits make a whole number; it is rounded to a double and then scaled by a power of ten,
which is itself rounded. Decimals with few digits and a small exponent still give the nearest
double, since at most the scaling rounds; others may miss it by some units in the last place.
-/

set_option autoImplicit false

namespace DecisionFlow.Decimal

/-- Appends digits to a number for as long as it fits into sixty-four bits. Gives the number and
the digits from the first one on that does not fit. -/
def appendDigits (value : Nat) : List Char → Nat × List Char
  | [] => (value, [])
  | digit :: rest =>
    let next := value * 10 + (digit.toNat - '0'.toNat)
    if next < wordBound then appendDigits next rest else (value, digit :: rest)

/-- The exponent of the greatest power of ten that is a finite double. -/
def greatestPower : Nat := 308

/-- The double nearest to a power of ten. -/
def nearestPowerOfTen (exponent : Nat) : Float :=
  toFloat false 1 exponent

/-- Scales a number below `2 ^ 64`. Nothing comes out of it beyond the finite doubles. Division
by more than the greatest power of ten takes two steps, and after two full steps nothing is left. -/
def scale? (word : Nat) (exponent : Int) : Option Float :=
  let unscaled := toFloat false word 0
  if 0 ≤ exponent then
    if word = 0 then some unscaled
    else if greatestPower < exponent then none
    else
      let scaled := unscaled * nearestPowerOfTen exponent.toNat
      if isFinite scaled then some scaled else none
  else
    let places := (-exponent).toNat
    if places ≤ greatestPower then some (unscaled / nearestPowerOfTen places)
    else if places ≤ 2 * greatestPower then
      some (unscaled / nearestPowerOfTen greatestPower / nearestPowerOfTen (places - greatestPower))
    else some 0.0

/-- The double that the digits before and after a point and an exponent stand for. Whole digits
that do not fit count as places; fraction digits that do not fit are dropped. -/
def scaled? (negative : Bool) (whole fraction : List Char) (exponent : Int) : Option Float := do
  let (word, unread) := appendDigits 0 whole
  let (word, dropped) := appendDigits word fraction
  let places := Int.ofNat unread.length - Int.ofNat (fraction.length - dropped.length)
  let magnitude ← scale? word (places + exponent)
  return if negative then -magnitude else magnitude

end DecisionFlow.Decimal
