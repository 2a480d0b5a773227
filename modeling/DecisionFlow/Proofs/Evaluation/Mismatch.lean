import DecisionFlow.Evaluation.Expression
import DecisionFlow.Proofs.Outcome

/-!
# Which operands are to blame

An expression fails for one reason only: somewhere in it stands an operation with an operand whose
value is of another type than the operation expects there. The error names the operation and the
expected types and shows the value. The operations check their operands in different ways, and the
second operand is judged by the first where numbers and strings are ordered, but none of them blames
an operand that it could have used, and none fails on operands that it accepts
(`Expression.evaluate_blames_operands`).
-/

set_option autoImplicit false

namespace DecisionFlow

namespace Expectation

/-- The names of the types that are expected. -/
def typeNames : Expectation → List String
  | .bool => ["Bool"]
  | .number => ["Number"]
  | .string => ["String"]
  | .numberOrString => ["Number", "String"]

/-- An expectation is written by naming its types. -/
theorem text_eq_intercalate (expected : Expectation) :
    expected.text = String.intercalate " or " expected.typeNames := by
  cases expected <;> rfl

/-- The expected values are those of the named types. -/
theorem accepts_iff_mem_typeNames {expected : Expectation} {value : Value} :
    expected.accepts value = true ↔ value.typeName ∈ expected.typeNames := by
  cases expected <;> cases value <;> simp [accepts, typeNames, Value.typeName]

variable {value : Value}

theorem exists_double_of_accepts (accepted : number.accepts value = true) :
    ∃ found, value = .double found := by
  cases value with
  | double found => exact ⟨found, rfl⟩
  | string _ | bool _ | null => cases accepted

theorem exists_string_of_accepts (accepted : string.accepts value = true) :
    ∃ found, value = .string found := by
  cases value with
  | string found => exact ⟨found, rfl⟩
  | double _ | bool _ | null => cases accepted

theorem exists_bool_of_accepts (accepted : bool.accepts value = true) :
    ∃ found, value = .bool found := by
  cases value with
  | bool found => exact ⟨found, rfl⟩
  | double _ | string _ | null => cases accepted

theorem accepts_bool_eq_false (noBool : ∀ found, value ≠ .bool found) :
    bool.accepts value = false := by
  by_contra accepted
  obtain ⟨found, isBool⟩ := exists_bool_of_accepts (Bool.of_not_eq_false accepted)
  exact noBool found isBool

end Expectation

/-- The error that an operation met one of the given values, which is not of an expected type. -/
inductive EvaluationError.FaultOf (operation : Operation) (values : List Value) :
    EvaluationError → Prop where
  | mismatch {expected : Expectation} {found : Value} (isValue : found ∈ values)
      (unexpected : expected.accepts found = false) :
      FaultOf operation values (.typeMismatch operation expected found)

open EvaluationError (FaultOf)

namespace BinaryOperator

variable (operator : BinaryOperator)

/-! ## Operators at fault -/

theorem combine_failsByFault (compute : Float → Float → Float) (left right : Value) :
    FailsOnlyWith (FaultOf (.binary operator) [left, right])
      (operator.combine compute left right) := by
  cases left with
  | double _ =>
      cases right with
      | double _ => exact .ok _
      | string _ | bool _ | null => exact .error (.mismatch (by simp) rfl)
  | string _ | bool _ | null => exact .error (.mismatch (by simp) rfl)

theorem order_failsByFault (pass : Ordering → Bool) (left right : Value) :
    FailsOnlyWith (FaultOf (.binary operator) [left, right]) (operator.order pass left right) := by
  cases left with
  | double _ =>
      cases right with
      | double _ => exact .ok _
      | string _ | bool _ | null => exact .error (.mismatch (by simp) rfl)
  | string _ =>
      cases right with
      | string _ => exact .ok _
      | double _ | bool _ | null => exact .error (.mismatch (by simp) rfl)
  | bool _ | null => exact .error (.mismatch (by simp) rfl)

theorem expectBool_failsByFault (left right : Value) :
    FailsOnlyWith (FaultOf (.binary operator) [left, right]) (operator.expectBool right) := by
  cases right with
  | bool _ => exact .ok _
  | double _ | string _ | null => exact .error (.mismatch (by simp) rfl)

theorem apply_failsByFault (left right : Value) :
    FailsOnlyWith (FaultOf (.binary operator) [left, right]) (operator.apply left right) := by
  cases operator with
  | add | subtract | multiply | divide => exact combine_failsByFault _ _ left right
  | greater | less | greaterOrEqual | lessOrEqual => exact order_failsByFault _ _ left right
  | equal | notEqual => exact .ok _
  | and | or => exact expectBool_failsByFault _ left right

/-! ## Accepted operands -/

/-- The types of operands that an operator accepts: numbers are combined, numbers or strings are
ordered among themselves, truth values are connected, and whatever there is can be equal. -/
def Accepts (left right : Value) : Prop :=
  match operator with
  | .add | .subtract | .multiply | .divide =>
    Expectation.number.accepts left = true ∧ Expectation.number.accepts right = true
  | .greater | .greaterOrEqual | .less | .lessOrEqual =>
    (Expectation.number.accepts left = true ∧ Expectation.number.accepts right = true) ∨
      (Expectation.string.accepts left = true ∧ Expectation.string.accepts right = true)
  | .and | .or => Expectation.bool.accepts left = true ∧ Expectation.bool.accepts right = true
  | .equal | .notEqual => True

variable {operator : BinaryOperator} {first second : Value}

theorem exists_apply_of_accepts (accepted : operator.Accepts first second) :
    ∃ value, operator.apply first second = .ok value := by
  cases operator with
  | add | subtract | multiply | divide =>
      obtain ⟨_, rfl⟩ := Expectation.exists_double_of_accepts accepted.1
      obtain ⟨_, rfl⟩ := Expectation.exists_double_of_accepts accepted.2
      exact ⟨_, rfl⟩
  | greater | greaterOrEqual | less | lessOrEqual =>
      rcases accepted with ⟨isLeft, isRight⟩ | ⟨isLeft, isRight⟩
      · obtain ⟨_, rfl⟩ := Expectation.exists_double_of_accepts isLeft
        obtain ⟨_, rfl⟩ := Expectation.exists_double_of_accepts isRight
        exact ⟨_, rfl⟩
      · obtain ⟨_, rfl⟩ := Expectation.exists_string_of_accepts isLeft
        obtain ⟨_, rfl⟩ := Expectation.exists_string_of_accepts isRight
        exact ⟨_, rfl⟩
  | and | or =>
      obtain ⟨_, rfl⟩ := Expectation.exists_bool_of_accepts accepted.2
      exact ⟨_, rfl⟩
  | equal | notEqual => exact ⟨_, rfl⟩

theorem bools_of_accepts {deciding : Bool} (isConnective : operator.deciding? = some deciding)
    (accepted : operator.Accepts first second) :
    (∃ value, first = .bool value) ∧ ∃ value, second = .bool value := by
  cases operator with
  | and | or =>
      exact ⟨Expectation.exists_bool_of_accepts accepted.1,
        Expectation.exists_bool_of_accepts accepted.2⟩
  | _ => cases isConnective

end BinaryOperator

namespace Expression

variable {bindings : Bindings} {part whole : Expression}

/-! ## Parts of expressions -/

/-- The operands of an expression, from left to right. -/
def operands : Expression → List Expression
  | .binary _ left right => [left, right]
  | .not operand => [operand]
  | .literal _ | .field _ | .node _ => []

/-- The operation that an expression applies to its operands, if it is not a leaf. -/
def operation? : Expression → Option Operation
  | .binary operator _ _ => some (.binary operator)
  | .not _ => some .not
  | .literal _ | .field _ | .node _ => none

/-- An expression is a part of itself, and the parts of its operands are parts of it. -/
inductive IsPart (part : Expression) : Expression → Prop where
  | self : IsPart part part
  | operand {whole operand : Expression} (isOperand : operand ∈ whole.operands) :
      IsPart part operand → IsPart part whole

/-! ## Operands at fault -/

/-- The error names the operation of the expression and shows the value of one of its operands,
whose type is not among those that the error says are expected. -/
inductive Blames (bindings : Bindings) (part : Expression) : EvaluationError → Prop where
  | operand {operation : Operation} {expected : Expectation} {operand : Expression} {found : Value}
      (isOperation : part.operation? = some operation) (isOperand : operand ∈ part.operands)
      (evaluates : operand.evaluate bindings = .ok found)
      (unexpected : found.typeName ∉ expected.typeNames) :
      Blames bindings part (.typeMismatch operation expected found)

/-- An operation at fault with the values of its operands blames one of them. -/
theorem Blames.of_fault {operation : Operation} {values : List Value} {problem : EvaluationError}
    (isOperation : part.operation? = some operation)
    (areValues : ∀ value ∈ values, ∃ operand ∈ part.operands, operand.evaluate bindings = .ok value)
    (fault : FaultOf operation values problem) : Blames bindings part problem := by
  cases fault with
  | mismatch isValue unexpected =>
      obtain ⟨operand, isOperand, evaluates⟩ := areValues _ isValue
      refine .operand isOperation isOperand evaluates fun expected => ?_
      cases unexpected.symm.trans (Expectation.accepts_iff_mem_typeNames.2 expected)

/-- Some part of the expression blames one of its operands. -/
def BlamesWithin (bindings : Bindings) (whole : Expression) (problem : EvaluationError) : Prop :=
  ∃ part, IsPart part whole ∧ Blames bindings part problem

theorem failsByBlame_of_operand {operand : Expression} (isOperand : operand ∈ whole.operands)
    (fails : FailsOnlyWith (BlamesWithin bindings operand) (operand.evaluate bindings)) :
    FailsOnlyWith (BlamesWithin bindings whole) (operand.evaluate bindings) := by
  intro problem failed
  obtain ⟨part, isPart, blames⟩ := fails problem failed
  exact ⟨part, .operand isOperand isPart, blames⟩

/-- An expression fails only with an error that blames an operand of one of its parts. -/
theorem evaluate_failsByBlame (bindings : Bindings) (expression : Expression) :
    FailsOnlyWith (BlamesWithin bindings expression) (expression.evaluate bindings) := by
  induction expression with
  | binary operator left right ihLeft ihRight =>
      have isLeft : left ∈ (binary operator left right).operands := by simp [operands]
      have isRight : right ∈ (binary operator left right).operands := by simp [operands]
      apply (failsByBlame_of_operand isLeft ihLeft).bind_of_ok
      intro first isFirst
      have blames : ∀ {second problem}, right.evaluate bindings = .ok second →
          FaultOf (.binary operator) [first, second] problem →
          BlamesWithin bindings (binary operator left right) problem := by
        intro second problem isSecond fault
        refine ⟨_, .self, .of_fault rfl ?_ fault⟩
        simp [operands, isFirst, isSecond]
      have later := failsByBlame_of_operand isRight ihRight
      split
      · apply later.bind_of_ok
        intro second isSecond problem failed
        exact blames isSecond (operator.apply_failsByFault first second problem failed)
      · split
        · split
          · exact .ok _
          · apply later.bind_of_ok
            intro second isSecond problem failed
            exact blames isSecond (operator.expectBool_failsByFault _ second problem failed)
        next noBool =>
          have fault : FaultOf (.binary operator) [first]
              (.typeMismatch (.binary operator) .bool first) :=
            .mismatch (by simp) (Expectation.accepts_bool_eq_false noBool)
          exact .error ⟨_, .self, .of_fault rfl (by simp [operands, isFirst]) fault⟩
  | not operand ih =>
      have isOperand : operand ∈ (not operand).operands := by simp [operands]
      apply (failsByBlame_of_operand isOperand ih).bind_of_ok
      intro value isValue
      split
      · exact .ok _
      next noBool =>
        have fault : FaultOf .not [value] (.typeMismatch .not .bool value) :=
          .mismatch (by simp) (Expectation.accepts_bool_eq_false noBool)
        exact .error ⟨_, .self, .of_fault rfl (by simp [operands, isValue]) fault⟩
  | literal value => exact .ok _
  | field name => exact .ok _
  | node reference => exact .ok _

/-! ## Accepted operands -/

/-- The operation of the expression, if it has one, accepts the values of its operands. -/
def OperandsAccepted (bindings : Bindings) : Expression → Prop
  | .binary operator left right => ∀ first second, left.evaluate bindings = .ok first →
      right.evaluate bindings = .ok second → operator.Accepts first second
  | .not operand => ∀ value, operand.evaluate bindings = .ok value →
      Expectation.bool.accepts value = true
  | .literal _ | .field _ | .node _ => True

/-- An expression whose operations accept their operands does not fail. -/
theorem exists_evaluate_of_accepted {expression : Expression}
    (accepted : ∀ part, IsPart part expression → part.OperandsAccepted bindings) :
    ∃ value, expression.evaluate bindings = .ok value := by
  induction expression with
  | binary operator left right ihLeft ihRight =>
      obtain ⟨first, isFirst⟩ := ihLeft fun part isPart =>
        accepted part (.operand (by simp [operands]) isPart)
      obtain ⟨second, isSecond⟩ := ihRight fun part isPart =>
        accepted part (.operand (by simp [operands]) isPart)
      have here : operator.Accepts first second := accepted _ .self first second isFirst isSecond
      simp only [evaluate, isFirst, isSecond, bind, Except.bind]
      cases isConnective : operator.deciding? with
      | none => exact BinaryOperator.exists_apply_of_accepts here
      | some deciding =>
          obtain ⟨⟨_, rfl⟩, ⟨_, rfl⟩⟩ := BinaryOperator.bools_of_accepts isConnective here
          dsimp only
          split
          · exact ⟨_, rfl⟩
          · exact ⟨_, rfl⟩
  | not operand ih =>
      obtain ⟨value, isValue⟩ := ih fun part isPart =>
        accepted part (.operand (by simp [operands]) isPart)
      obtain ⟨_, rfl⟩ := Expectation.exists_bool_of_accepts (accepted _ .self value isValue)
      rw [evaluate, isValue]
      exact ⟨_, rfl⟩
  | literal value => exact ⟨value, rfl⟩
  | field name => exact ⟨_, rfl⟩
  | node reference => exact ⟨_, rfl⟩

/-- **Expressions fail only by their operands.** An expression that fails blames an operand of one of
its parts: the error names the operation of that part and shows the value that the operand evaluates
to, whose type is not among the expected ones. An expression in which every operation accepts the
values of its operands does not fail. -/
theorem evaluate_blames_operands (bindings : Bindings) (expression : Expression) :
    (∀ problem, expression.evaluate bindings = .error problem →
      ∃ part, IsPart part expression ∧ Blames bindings part problem) ∧
    ((∀ part, IsPart part expression → part.OperandsAccepted bindings) →
      ∃ value, expression.evaluate bindings = .ok value) :=
  ⟨evaluate_failsByBlame bindings expression, exists_evaluate_of_accepted⟩

/-- The negation of a comparison of a truth value with a text. -/
def unordered : Expression :=
  .not (.binary .less (.literal (.bool true)) (.literal (.string "a")))

/-- The comparison fails and shows its first operand. The negation of that operand does not fail. -/
theorem evaluate_blames_operands_of_unordered :
    (∃ part, IsPart part unordered ∧ Blames (.initial .empty) part
      (.typeMismatch (.binary .less) .numberOrString (.bool true))) ∧
    ∃ value, (not (.literal (.bool true))).evaluate (.initial .empty) = .ok value := by
  obtain ⟨fails, -⟩ := evaluate_blames_operands (.initial .empty) unordered
  obtain ⟨-, succeeds⟩ := evaluate_blames_operands (.initial .empty) (not (.literal (.bool true)))
  refine ⟨fails _ rfl, succeeds fun part isPart => ?_⟩
  cases isPart with
  | self =>
      rintro value ⟨⟩
      rfl
  | operand isOperand inner =>
      obtain rfl := List.mem_singleton.1 isOperand
      cases inner with
      | self => trivial
      | operand none => cases none

end Expression

end DecisionFlow
