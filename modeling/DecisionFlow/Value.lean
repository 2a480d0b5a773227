import DecisionFlow.Decimal.Notation
import DecisionFlow.Json.Basic
import DecisionFlow.Text.Casing
import DecisionFlow.Text.Quoted

/-!
# Values

The values that records hold and flows compute: numbers, strings, booleans and null. A value has a
JSON form, a text that strings are built from, and a display form in which strings are quoted.
-/

set_option autoImplicit false

namespace DecisionFlow

/-- A runtime value. -/
inductive Value where
  /-- A number, with the bits that hold it. -/
  | double (value : Double)
  | string (value : String)
  | bool (value : Bool)
  | null
  deriving Inhabited

namespace Value

/-- A number. -/
def number (value : Float) : Value := .double (.ofFloat value)

/-- Equality as flows see it: numbers are equal as numbers, so the two zeros are equal and an
undefined number differs from itself; values of different types differ. -/
protected def beq : Value → Value → Bool
  | .double left, .double right => left.toFloat == right.toFloat
  | .string left, .string right => left == right
  | .bool left, .bool right => left == right
  | .null, .null => true
  | _, _ => false

instance : BEq Value := ⟨Value.beq⟩

/-- The name of a value's type. -/
def typeName : Value → String
  | .double _ => "Number"
  | .string _ => "String"
  | .bool _ => "Bool"
  | .null => "Null"

/-- The value is null. -/
def isNull : Value → Bool
  | .null => true
  | _ => false

/-- The number, if the value is one. -/
def number? : Value → Option Float
  | .double value => some value.toFloat
  | _ => none

/-- The truth value, if the value is one. -/
def bool? : Value → Option Bool
  | .bool value => some value
  | _ => none

/-! ## Order -/

/-- The order of two numbers; an undefined number has no place in it. -/
def compareNumbers (left right : Float) : Option Ordering :=
  if left < right then some .lt
  else if left == right then some .eq
  else if right < left then some .gt
  else none

/-- Two numbers are ordered as numbers and two strings by their code points. Nothing else is
ordered. -/
def compare : Value → Value → Option Ordering
  | .double left, .double right => compareNumbers left.toFloat right.toFloat
  | .string left, .string right =>
    some (if left < right then .lt else if left = right then .eq else .gt)
  | _, _ => none

/-! ## Text -/

/-- Numbers in text never have an exponent and whole numbers have no point; of two equally short
decimals the one further from zero is taken. -/
def numberNotation : Decimal.Notation where
  tie := .away
  positional _ := true
  wholeSuffix := ""

/-- Below this magnitude no two whole numbers share a double. -/
def exactBound : Nat := 0x20000000000000

/-- The whole number that a number is equal to, as long as whole numbers up to there are exact. -/
def wholeNumber? (value : Float) : Option Int :=
  match (Decimal.Binary.ofFloat value).toInt? with
  | some whole => if whole.natAbs < exactBound then some whole else none
  | none => none

/-- The text of a number. Zero has no sign. -/
def numberText (value : Float) : String :=
  match wholeNumber? value with
  | some whole => toString whole
  | none => Decimal.render numberNotation value

/-- The text that a value contributes to strings. Null contributes nothing. -/
def text : Value → String
  | .double value => numberText value.toFloat
  | .string value => value
  | .bool value => if value then "true" else "false"
  | .null => ""

/-- The display form: strings are quoted and null is named. -/
def display : Value → String
  | .string value => Text.quote value
  | .null => "null"
  | value => value.text

/-! ## JSON -/

/-- The value of a JSON scalar. Arrays and objects have none. -/
def ofJson? : Json → Option Value
  | .null => some .null
  | .bool value => some (.bool value)
  | .string value => some (.string value)
  | .array _ | .object _ => none
  | json => json.number?.map .number

/-- The JSON form. Whole numbers are written as such; a number that is not finite has no JSON form
and is written as null. -/
def toJson : Value → Json
  | .double value =>
    match wholeNumber? value.toFloat with
    | some whole => .int whole
    | none => if Decimal.isFinite value.toFloat then .float value.toFloat else .null
  | .string value => .string value
  | .bool value => .bool value
  | .null => .null

end Value

end DecisionFlow
