import DecisionFlow.Graph.Basic

/-!
# Why a record cannot be evaluated

An operation meets a value of a type that it does not accept, a table lookup finds no row, or a
called flow fails for one of these reasons. The remaining errors cannot arise in a graph that was
assembled: a way on that is missing, a walk that does not end, and a position without a node. A
record of a batch whose deadline has passed is not evaluated at all.
-/

set_option autoImplicit false

namespace DecisionFlow

/-- The operations that accept only values of certain types. -/
inductive Operation where
  | binary (operator : BinaryOperator)
  | not
  | conditional
  | arithmetic
  | round
  deriving DecidableEq

/-- How an operation is named. -/
def Operation.text : Operation → String
  | .binary operator => operator.symbol
  | .not => "not"
  | .conditional => "conditional"
  | .arithmetic => "arithmetic"
  | .round => "round"

/-- The types of value that an operation accepts. -/
inductive Expectation where
  | bool
  | number
  | string
  | numberOrString
  deriving DecidableEq

namespace Expectation

/-- How an expectation is named. -/
def text : Expectation → String
  | .bool => "Bool"
  | .number => "Number"
  | .string => "String"
  | .numberOrString => "Number or String"

/-- A value is of an expected type. -/
def accepts : Expectation → Value → Bool
  | .bool, .bool _ => true
  | .number, .double _ => true
  | .string, .string _ => true
  | .numberOrString, .double _ => true
  | .numberOrString, .string _ => true
  | _, _ => false

end Expectation

/-- Why a record cannot be evaluated. -/
inductive EvaluationError where
  | typeMismatch (operation : Operation) (expected : Expectation) (found : Value)
  | lookup (node : String) (cause : LookupError)
  | subflow (node : String) (cause : EvaluationError)
  | missingEdge (node : String) (label : EdgeLabel)
  | hopLimit (hops : Nat)
  | noNode (position : Nat)
  | deadline

/-- The text of an evaluation error. -/
def EvaluationError.message : EvaluationError → String
  | .typeMismatch operation expected found =>
    "Type mismatch during operation '" ++ operation.text ++ "': expected " ++ expected.text ++
      ", but found value '" ++ found.display ++ "'"
  | .lookup node cause => "Table lookup in node '" ++ node ++ "' failed: " ++ cause.message
  | .subflow node cause => "Sub-flow call in node '" ++ node ++ "' failed: " ++ cause.message
  | .missingEdge node label =>
    "Node '" ++ node ++ "' has no outgoing '" ++ label.text ++ "' edge"
  | .hopLimit hops =>
    "Traversal exceeded " ++ toString hops ++ " hops without reaching a terminal node"
  | .noNode position => "There is no node at position " ++ toString position
  | .deadline => "Batch deadline expired before the record was evaluated"

end DecisionFlow
