/-!
# The exact value of a double

A finite double is a sign, a natural significand and a power of two. Everything that is said about
the digits of a number is computed from these three, in exact arithmetic.
-/

set_option autoImplicit false

namespace DecisionFlow

/-- A double as it is held: its sixty-four bits. Undefined numbers may differ in their bits, which no
computation tells apart. -/
structure Double where
  bits : UInt64
  deriving Inhabited

namespace Double

/-- The number that a double stands for. -/
def toFloat (value : Double) : Float :=
  Float.ofBits value.bits

/-- The double that holds a number. -/
def ofFloat (value : Float) : Double :=
  ⟨value.toBits⟩

end Double

namespace Decimal

/-- What the sixty-four bits of a double stand for. -/
inductive Binary where
  | notANumber
  | infinite (negative : Bool)
  /-- The number `significand * 2 ^ exponent`, with its sign. -/
  | finite (negative : Bool) (significand : Nat) (exponent : Int)
  deriving DecidableEq

/-- The bit above the fifty-two stored bits of a significand. -/
def hiddenBit : Nat := 0x10000000000000

/-- Splits a double into its parts. A subnormal number has no hidden bit. -/
def Binary.ofFloat (x : Float) : Binary :=
  let bits := x.toBits.toNat
  let negative := 0x8000000000000000 ≤ bits
  let biased : Nat := bits / hiddenBit % 0x800
  let fraction : Nat := bits % hiddenBit
  if biased = 2047 then
    if fraction = 0 then .infinite negative else .notANumber
  else if biased = 0 then .finite negative fraction (-1074)
  else .finite negative (hiddenBit + fraction) (Int.ofNat biased - 1075)

/-- The integer that a double is equal to, if there is one. Both zeros are the integer zero. -/
def Binary.toInt? : Binary → Option Int
  | .finite negative significand exponent =>
    let signed (magnitude : Nat) : Int := if negative then -Int.ofNat magnitude else Int.ofNat magnitude
    if 0 ≤ exponent then some (signed (significand <<< exponent.toNat))
    else
      let magnitude := significand >>> (-exponent).toNat
      if magnitude <<< (-exponent).toNat = significand then some (signed magnitude) else none
  | _ => none

end Decimal

end DecisionFlow
