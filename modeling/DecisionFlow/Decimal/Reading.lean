/-!
# Reading a decimal as a double

The double nearest to a decimal, with ties to the even significand. Decimals far outside the range
of doubles are recognised by the power of ten of their leading digit, so that reading never builds a
power of ten larger than the answer needs.
-/

set_option autoImplicit false

namespace DecisionFlow.Decimal

/-- The least natural number that does not fit into sixty-four bits. -/
def wordBound : Nat := 0x10000000000000000

/-- The number written by a list of decimal digits. -/
def natOfDigits (digits : List Char) : Nat :=
  digits.foldl (fun value digit => value * 10 + (digit.toNat - '0'.toNat)) 0

/-- The double nearest to `coefficient * 10 ^ exponent`. -/
def toFloat (negative : Bool) (coefficient : Nat) (exponent : Int) : Float :=
  let leading := exponent + (Nat.toDigits 10 coefficient).length
  let magnitude : Float :=
    if coefficient = 0 ∨ leading < -400 then 0.0
    else if 400 < leading then 1.0 / 0.0
    else if 0 ≤ exponent then Float.ofScientific coefficient false exponent.toNat
    else Float.ofScientific coefficient true (-exponent).toNat
  if negative then -magnitude else magnitude

/-- A double that is neither infinite nor undefined. -/
def isFinite (x : Float) : Bool :=
  x.isFinite

/-! ## Decimal numerals

A numeral has an optional sign, digits with at most one point among, before or after them, and an
optional exponent. -/

/-- An exponent that fills the rest of the text, or nothing. -/
def exponentOf? : List Char → Option Int
  | [] => some 0
  | letter :: rest =>
    if letter = 'e' ∨ letter = 'E' then
      let (negative, digits) := match rest with
        | '-' :: digits => (true, digits)
        | '+' :: digits => (false, digits)
        | digits => (false, digits)
      if digits.isEmpty || !digits.all Char.isDigit then none
      else
        let magnitude := Int.ofNat (natOfDigits digits)
        some (if negative then -magnitude else magnitude)
    else none

/-- A numeral after its sign. -/
def unsignedOf? (negative : Bool) (chars : List Char) : Option Float := do
  let (whole, rest) := chars.span Char.isDigit
  let (fraction, rest) := match rest with
    | '.' :: rest => rest.span Char.isDigit
    | rest => ([], rest)
  if whole.isEmpty && fraction.isEmpty then none
  else
    let exponent ← exponentOf? rest
    return toFloat negative (natOfDigits (whole ++ fraction)) (exponent - fraction.length)

/-- The finite double that a numeral stands for. -/
def ofText? (text : String) : Option Float := do
  let value ← match text.toList with
    | '-' :: rest => unsignedOf? true rest
    | '+' :: rest => unsignedOf? false rest
    | chars => unsignedOf? false chars
  if isFinite value then some value else none

end DecisionFlow.Decimal
