import DecisionFlow.Evaluation.Bindings
import DecisionFlow.Evaluation.Error

/-!
# Evaluating expressions

Operands are evaluated from left to right. The connectives `and` and `or` look at their second
operand only if the first does not decide; all other operators evaluate both operands and then
check their types. Numbers are combined and compared as doubles, so an undefined number makes every
comparison false.
-/

set_option autoImplicit false

namespace DecisionFlow

/-- The error that an operation met a value of another type than it expects. -/
def mismatch {α : Type} (operation : Operation) (expected : Expectation) (found : Value) :
    Except EvaluationError α :=
  .error (.typeMismatch operation expected found)

namespace BinaryOperator

/-- Combines two numbers. -/
def combine (operator : BinaryOperator) (compute : Float → Float → Float) :
    Value → Value → Except EvaluationError Value
  | .double left, .double right => .ok (.number (compute left.toFloat right.toFloat))
  | .double _, right => mismatch (.binary operator) .number right
  | left, _ => mismatch (.binary operator) .number left

/-- Compares two numbers or two strings. Values without an order do not pass. -/
def order (operator : BinaryOperator) (pass : Ordering → Bool) (left right : Value) :
    Except EvaluationError Value :=
  let passes := Value.bool ((left.compare right).any pass)
  match left, right with
  | .double _, .double _ => .ok passes
  | .string _, .string _ => .ok passes
  | .double _, _ => mismatch (.binary operator) .number right
  | .string _, _ => mismatch (.binary operator) .string right
  | _, _ => mismatch (.binary operator) .numberOrString left

/-- A truth value for the second operand of a connective. -/
def expectBool (operator : BinaryOperator) : Value → Except EvaluationError Value
  | .bool value => .ok (.bool value)
  | found => mismatch (.binary operator) .bool found

/-- Applies an operator to the values of both its operands. -/
def apply (operator : BinaryOperator) (left right : Value) : Except EvaluationError Value :=
  match operator with
  | .add => operator.combine (· + ·) left right
  | .subtract => operator.combine (· - ·) left right
  | .multiply => operator.combine (· * ·) left right
  | .divide => operator.combine (· / ·) left right
  | .greater => operator.order (· == .gt) left right
  | .less => operator.order (· == .lt) left right
  | .greaterOrEqual => operator.order (· != .lt) left right
  | .lessOrEqual => operator.order (· != .gt) left right
  | .equal => .ok (.bool (left == right))
  | .notEqual => .ok (.bool (left != right))
  | .and | .or => operator.expectBool right

/-- The value of the first operand that decides a connective, and the value that does not. All other
operators have none. -/
def deciding? : BinaryOperator → Option Bool
  | .and => some false
  | .or => some true
  | _ => none

end BinaryOperator

namespace Expression

/-- The value of an expression. -/
def evaluate (bindings : Bindings) : Expression → Except EvaluationError Value
  | .binary operator left right => do
    let first ← left.evaluate bindings
    match operator.deciding? with
    | none => do operator.apply first (← right.evaluate bindings)
    | some deciding =>
      match first with
      | .bool value =>
        if value = deciding then .ok (.bool value)
        else do operator.expectBool (← right.evaluate bindings)
      | found => mismatch (.binary operator) .bool found
  | .not operand => do
    match ← operand.evaluate bindings with
    | .bool value => .ok (.bool !value)
    | found => mismatch .not .bool found
  | .literal value => .ok value
  | .field name => .ok (bindings.field name)
  | .node reference => .ok (bindings.node reference)

/-- Evaluates named expressions one after the other. -/
def evaluateNamed (bindings : Bindings) :
    List (String × Expression) → Except EvaluationError (List (String × Value))
  | [] => .ok []
  | (name, expression) :: rest => do
    let value ← expression.evaluate bindings
    let values ← evaluateNamed bindings rest
    return (name, value) :: values

end Expression

end DecisionFlow
