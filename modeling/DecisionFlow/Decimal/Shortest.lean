import DecisionFlow.Decimal.Binary

/-!
# The shortest decimal that identifies a double

The real numbers that round to a given double form an interval. Its ends lie halfway to the two
neighbouring doubles and belong to it exactly when the significand is even. Among the decimals in
the interval those with the fewest digits are candidates, and the one nearest to the double is
chosen; when two are equally near, the caller's convention decides.
-/

set_option autoImplicit false

namespace DecisionFlow.Decimal

/-- Which of two equally near decimals is taken. -/
inductive Tie where
  /-- The one further from zero. -/
  | away
  /-- The one with an even last digit. -/
  | even
  deriving DecidableEq

/-- The positive number `coefficient * 10 ^ exponent`. -/
structure Digits where
  coefficient : Nat
  exponent : Int
  deriving DecidableEq

/-- The power `base ^ exponent` as a numerator and a denominator. -/
def powerRatio (base : Nat) (exponent : Int) : Nat × Nat :=
  if 0 ≤ exponent then (base.pow exponent.toNat, 1) else (1, base.pow (-exponent).toNat)

/-- A positive double together with the two ends of its rounding interval, all three as natural
multiples of one power of two. -/
structure Rounding where
  value : Nat
  below : Nat
  above : Nat
  /-- The ends themselves round to the double. -/
  closed : Bool
  exponent : Int

/-- The rounding interval of `significand * 2 ^ exponent`. Below a power of two the doubles are
twice as dense, unless the exponent is already the least one. -/
def Rounding.of (significand : Nat) (exponent : Int) : Rounding where
  value := 4 * significand
  below := 4 * significand - (if significand = hiddenBit ∧ -1074 < exponent then 1 else 2)
  above := 4 * significand + 2
  closed := significand % 2 == 0
  exponent := exponent - 2

/-- Brings `units` multiples of the interval's power of two and `count` multiples of `10 ^ scale` to
a common denominator, so that they can be compared. -/
def Rounding.compareWith (interval : Rounding) (units count : Nat) (scale : Int) : Ordering :=
  let two := powerRatio 2 interval.exponent
  let ten := powerRatio 10 scale
  compare (units * two.1 * ten.2) (count * ten.1 * two.2)

/-- The decimal `count * 10 ^ scale` rounds to the double. -/
def Rounding.holds (interval : Rounding) (count : Nat) (scale : Int) : Bool :=
  match interval.compareWith interval.below count scale,
      interval.compareWith interval.above count scale with
  | .lt, .gt => true
  | .eq, _ => interval.closed
  | _, .eq => interval.closed
  | _, _ => false

/-- The largest count with `count * 10 ^ scale` at most the double. -/
def Rounding.floorAt (interval : Rounding) (scale : Int) : Nat :=
  let two := powerRatio 2 interval.exponent
  let ten := powerRatio 10 scale
  interval.value * two.1 * ten.2 / (ten.1 * two.2)

/-- The least power of ten above the double. The search starts from an estimate that is never too
large, since two to the power `log2 value` is at most the value. -/
def Rounding.magnitude (interval : Rounding) : Int :=
  let estimate := (Int.ofNat (Nat.log2 interval.value) + interval.exponent) * 30103 / 100000
  match [estimate, estimate + 1, estimate + 2].find?
      fun power => interval.compareWith interval.value 1 power == .lt with
  | some power => power
  | none => estimate + 3

/-- The candidate on the grid of step `10 ^ scale`, if one of the double's two neighbours there
rounds to the double: the nearer one when both do. -/
def Rounding.candidate? (interval : Rounding) (tie : Tie) (scale : Int) : Option Nat :=
  let lower := interval.floorAt scale
  match interval.holds lower scale, interval.holds (lower + 1) scale with
  | false, false => none
  | true, false => some lower
  | false, true => some (lower + 1)
  | true, true =>
    match interval.compareWith (2 * interval.value) (2 * lower + 1) scale with
    | .lt => some lower
    | .gt => some (lower + 1)
    | .eq =>
      match tie with
      | .away => some (lower + 1)
      | .even => some (if lower % 2 = 0 then lower else lower + 1)

/-- The same number without trailing zeros in its coefficient. -/
def Digits.strip : Nat → Digits → Digits
  | 0, digits => digits
  | steps + 1, digits =>
    if digits.coefficient ≠ 0 ∧ digits.coefficient % 10 = 0 then
      strip steps ⟨digits.coefficient / 10, digits.exponent + 1⟩
    else digits

/-- The shortest decimal for the positive double `significand * 2 ^ exponent`. Seventeen digits
always suffice; the exact value stands in for the case that none of them did. -/
def shortest (tie : Tie) (significand : Nat) (exponent : Int) : Digits :=
  let interval := Rounding.of significand exponent
  let magnitude := interval.magnitude
  let found := (List.range 17).findSome? fun (count : Nat) =>
    let scale := magnitude - (count + 1)
    (interval.candidate? tie scale).map fun coefficient => Digits.mk coefficient scale
  match found with
  | some digits => digits.strip 20
  | none =>
    if 0 ≤ exponent then ⟨significand <<< exponent.toNat, 0⟩
    else ⟨significand * Nat.pow 5 (-exponent).toNat, exponent⟩

end DecisionFlow.Decimal
