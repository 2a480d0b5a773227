import DecisionFlow.Decimal.Reading
import DecisionFlow.Entries

/-!
# JSON values

A JSON value keeps whole numbers apart from other numbers, because documents may ask how a number
was written: `1` and `1.0` are different tokens with equal values. The members of an object are held
in key order and each key occurs once.
-/

set_option autoImplicit false

namespace DecisionFlow

/-- A JSON value. Whole numbers lie between the least signed and the greatest unsigned number of
sixty-four bits; other numbers are finite doubles. -/
inductive Json where
  | null
  | bool (value : Bool)
  | int (value : Int)
  | float (value : Float)
  | string (value : String)
  | array (items : List Json)
  | object (members : List (String × Json))

namespace Json

/-- The object with the listed members, of which the last one with a key stays. -/
def ofMembers (members : List (String × Json)) : Json :=
  .object (Entries.ofList members)

/-- The text, if the value is one. -/
def string? : Json → Option String
  | .string value => some value
  | _ => none

/-- The items, if the value is an array. -/
def array? : Json → Option (List Json)
  | .array items => some items
  | _ => none

/-- The number as a double, if the value is a number. -/
def number? : Json → Option Float
  | .int value => some (Decimal.toFloat (value < 0) value.natAbs 0)
  | .float value => some value
  | _ => none

/-- The whole number, if the value was written as one. -/
def int? : Json → Option Int
  | .int value => some value
  | _ => none

end Json

end DecisionFlow
