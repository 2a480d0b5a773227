import DecisionFlow.Expression.Basic

/-!
# Displaying expressions

Operators are written between their operands. Parentheses are kept where the tree would otherwise
be read differently: an operand that binds more loosely than its surroundings is enclosed, and a
right operand is also enclosed when it binds equally, since operators associate to the left.
-/

set_option autoImplicit false

namespace DecisionFlow

/-- How tightly a binary operator binds. -/
def BinaryOperator.precedence : BinaryOperator → Nat
  | .or => 1
  | .and => 2
  | .equal | .notEqual => 4
  | .greater | .greaterOrEqual | .less | .lessOrEqual => 5
  | .add | .subtract => 6
  | .multiply | .divide => 7

namespace Expression

/-- How tightly an expression binds; leaves bind tightest. -/
def precedence : Expression → Nat
  | .binary operator _ _ => operator.precedence
  | .not _ => 8
  | .literal _ | .field _ | .node _ => 9

/-- Parentheses around a text, if they are needed. -/
def parenthesize (needed : Bool) (text : String) : String :=
  if needed then "(" ++ text ++ ")" else text

/-- The text of an expression in surroundings that bind with the given precedence. -/
def displayWithin (surroundings : Nat) : Expression → String
  | .binary operator left right =>
    parenthesize (operator.precedence < surroundings)
      (left.displayWithin operator.precedence ++ " " ++ operator.symbol ++ " " ++
        right.displayWithin (operator.precedence + 1))
  | .not operand => parenthesize (8 < surroundings) ("not " ++ operand.displayWithin 8)
  | .literal value => parenthesize (9 < surroundings) value.display
  | .field name => parenthesize (9 < surroundings) ("$" ++ name)
  | .node reference => parenthesize (9 < surroundings) ("@" ++ reference)

/-- The text of an expression that stands alone. -/
def display (expression : Expression) : String :=
  expression.displayWithin 0

end Expression

end DecisionFlow
