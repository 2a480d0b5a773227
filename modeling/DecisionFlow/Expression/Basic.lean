import DecisionFlow.Value

/-!
# Expressions

Nodes compute their values from expressions. An expression combines literals, fields of the record
and values of nodes with arithmetic, comparison and logic. A node reference may name a further
column of a table lookup as `node.column`; the part before the first point names the node.
-/

set_option autoImplicit false

namespace DecisionFlow

/-- The operators with two operands. -/
inductive BinaryOperator where
  | add | subtract | multiply | divide
  | and | or
  | equal | notEqual
  | greater | greaterOrEqual | less | lessOrEqual
  deriving DecidableEq

namespace BinaryOperator

/-- All binary operators. -/
def all : List BinaryOperator :=
  [.add, .subtract, .multiply, .divide, .and, .or, .equal, .notEqual, .greater, .greaterOrEqual,
    .less, .lessOrEqual]

/-- How an operator is written. -/
def symbol : BinaryOperator → String
  | .add => "+"
  | .subtract => "-"
  | .multiply => "*"
  | .divide => "/"
  | .and => "and"
  | .or => "or"
  | .equal => "=="
  | .notEqual => "!="
  | .greater => ">"
  | .greaterOrEqual => ">="
  | .less => "<"
  | .lessOrEqual => "<="

/-- The operator that is written in a given way. -/
def ofSymbol? (symbol : String) : Option BinaryOperator :=
  all.find? (·.symbol == symbol)

/-- The operator connects truth values, so that it may be written with more than two arguments. -/
def isLogical : BinaryOperator → Bool
  | .and | .or => true
  | _ => false

end BinaryOperator

/-- An operand, predicate or computation attached to a node. -/
inductive Expression where
  | binary (operator : BinaryOperator) (left right : Expression)
  | not (operand : Expression)
  | literal (value : Value)
  /-- A field of the record being evaluated. -/
  | field (name : String)
  /-- The value of a node visited before, or a further column of a table lookup. -/
  | node (reference : String)
  deriving Inhabited

namespace Expression

/-- Equality of expressions, where literals are compared as values. -/
protected def beq : Expression → Expression → Bool
  | .binary operator left right, .binary operator' left' right' =>
    operator == operator' && left.beq left' && right.beq right'
  | .not operand, .not operand' => operand.beq operand'
  | .literal value, .literal value' => value == value'
  | .field name, .field name' => name == name'
  | .node reference, .node reference' => reference == reference'
  | _, _ => false

instance : BEq Expression := ⟨Expression.beq⟩

/-- The node that a reference reads from: what stands before its first point. -/
def referencedNode (reference : String) : String :=
  String.ofList (reference.toList.takeWhile (· ≠ '.'))

/-- The nodes that an expression reads from, in the order of its leaves. -/
def nodes : Expression → List String
  | .binary _ left right => left.nodes ++ right.nodes
  | .not operand => operand.nodes
  | .literal _ | .field _ => []
  | .node reference => [referencedNode reference]

/-- The record fields that an expression reads, in the order of its leaves. -/
def fields : Expression → List String
  | .binary _ left right => left.fields ++ right.fields
  | .not operand => operand.fields
  | .literal _ | .node _ => []
  | .field name => [name]

/-- The expressions of a list of named expressions are equal under equal names. -/
def namedBeq : List (String × Expression) → List (String × Expression) → Bool
  | [], [] => true
  | (name, expression) :: rest, (name', expression') :: rest' =>
    name == name' && expression.beq expression' && namedBeq rest rest'
  | _, _ => false

end Expression

end DecisionFlow
