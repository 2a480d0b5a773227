import DecisionFlow.Expression.Basic
import DecisionFlow.Json.Printer

/-!
# The JSON form of expressions

A bare scalar is a literal. An object has exactly one of the members `literal`, `field`, `node` and
`op`; an operation has its operands in the array `args`. The connectives `and` and `or` take two or
more arguments and group them to the left, which keeps the order in which they are looked at.
-/

set_option autoImplicit false

namespace DecisionFlow

/-- What is wrong with the JSON form of an expression. -/
inductive ExpressionError where
  /-- An array where an expression is expected. -/
  | arrayForm
  /-- An object without any of the four members. -/
  | noForm (json : Json)
  /-- An object with several of the four members. -/
  | severalForms (forms : List String)
  /-- A literal that is an array or an object. -/
  | literalNotScalar
  /-- A field or node reference that is not a text, or empty. -/
  | emptyName (form : String)
  /-- An operator that is not a text. -/
  | operatorNotText
  /-- An operation without an array of arguments. -/
  | noArguments (operator : String)
  /-- An operation with a wrong number of arguments. -/
  | argumentCount (operator expected : String) (found : Nat)
  | unknownOperator (operator : String)

/-- The text of an expression error. -/
def ExpressionError.message : ExpressionError → String
  | .arrayForm => "an array is not an expression"
  | .noForm json => "expected one of 'literal', 'field', 'node' or 'op' in " ++ json.render
  | .severalForms forms => "ambiguous expression with keys " ++ String.intercalate ", " forms
  | .literalNotScalar => "literal must be a scalar"
  | .emptyName form => "'" ++ form ++ "' must be a non-empty string"
  | .operatorNotText => "'op' must be a string"
  | .noArguments operator => "operator '" ++ operator ++ "' needs an 'args' array"
  | .argumentCount operator expected found =>
    "operator '" ++ operator ++ "' expects " ++ expected ++ " arguments, got " ++ toString found
  | .unknownOperator operator => "unknown operator '" ++ operator ++ "'"

namespace Expression

/-! ## Writing -/

/-- The JSON form of an expression. -/
def toJson : Expression → Json
  | .binary operator left right =>
    Json.ofMembers [("op", .string operator.symbol), ("args", .array [left.toJson, right.toJson])]
  | .not operand => Json.ofMembers [("op", .string "not"), ("args", .array [operand.toJson])]
  | .literal value => Json.ofMembers [("literal", value.toJson)]
  | .field name => Json.ofMembers [("field", .string name)]
  | .node reference => Json.ofMembers [("node", .string reference)]

/-- The JSON form of named expressions. -/
def namedToJson (expressions : List (String × Expression)) : Json :=
  Json.ofMembers (expressions.map fun entry => (entry.1, entry.2.toJson))

/-! ## Reading -/

/-- Applies an operator to its arguments. -/
def ofOperation (operator : String) (arguments : List Expression) :
    Except ExpressionError Expression :=
  let wrongCount (expected : String) : Except ExpressionError Expression :=
    .error (.argumentCount operator expected arguments.length)
  match BinaryOperator.ofSymbol? operator with
  | some binaryOperator =>
    if binaryOperator.isLogical then
      match arguments with
      | first :: second :: rest =>
        .ok ((second :: rest).foldl (Expression.binary binaryOperator) first)
      | _ => wrongCount "at least 2"
    else
      match arguments with
      | [left, right] => .ok (.binary binaryOperator left right)
      | _ => wrongCount "2"
  | none =>
    if operator = "not" then
      match arguments with
      | [operand] => .ok (.not operand)
      | _ => wrongCount "1"
    else .error (.unknownOperator operator)

/-- The members that say what kind of expression an object is. -/
def forms : List String := ["literal", "field", "node", "op"]

/-- Reads the name in a field or node reference. -/
def readName (form : String) (json : Option Json) : Except ExpressionError String :=
  match json with
  | some (.string name) => if name.isEmpty then .error (.emptyName form) else .ok name
  | _ => .error (.emptyName form)

/-- Reads an object, given what was read from its array of arguments, if it has one. -/
def ofMembers (members : List (String × Json))
    (arguments : Option (Except ExpressionError (List Expression))) :
    Except ExpressionError Expression :=
  match forms.filter (Entries.contains members) with
  | [] => .error (.noForm (.object members))
  | ["literal"] =>
    match (Entries.find? members "literal").bind Value.ofJson? with
    | some value => .ok (.literal value)
    | none => .error .literalNotScalar
  | ["field"] => do return .field (← readName "field" (Entries.find? members "field"))
  | ["node"] => do return .node (← readName "node" (Entries.find? members "node"))
  | ["op"] =>
    match Entries.find? members "op" with
    | some (.string operator) =>
      match arguments with
      | none => .error (.noArguments operator)
      | some arguments => do ofOperation operator (← arguments)
    | _ => .error .operatorNotText
  | several => .error (.severalForms several)

mutual

/-- The expression that a JSON value stands for. -/
def ofJson : Json → Except ExpressionError Expression
  | .array _ => .error .arrayForm
  | .object members => ofMembers members (readArguments members)
  | .null => .ok (.literal .null)
  | .bool value => .ok (.literal (.bool value))
  | .string value => .ok (.literal (.string value))
  | .int value => .ok (.literal (.number (Decimal.toFloat (value < 0) value.natAbs 0)))
  | .float value => .ok (.literal (.number value))

/-- The expressions in the array `args`, if the members have such an array. -/
def readArguments : List (String × Json) → Option (Except ExpressionError (List Expression))
  | [] => none
  | (key, value) :: rest => if key == "args" then readItems value else readArguments rest

/-- The expressions in an array. -/
def readItems : Json → Option (Except ExpressionError (List Expression))
  | .array items => some (readAll items)
  | _ => none

/-- Reads expressions one after the other, up to the first error. -/
def readAll : List Json → Except ExpressionError (List Expression)
  | [] => .ok []
  | item :: rest => do
    let expression ← ofJson item
    let expressions ← readAll rest
    return expression :: expressions

end

end Expression

end DecisionFlow
