import DecisionFlow.Proofs.Evaluation.Mismatch

/-!
# How nodes fail

An expression fails with a type mismatch and a table lookup with an error of its own; a call of a
flow passes on the error of the called flow. Errors of this kind are ordinary: they say something
about values. Missing edges, hops that do not suffice and deadlines are not. Which errors of lookups
count as ordinary is left open, as a lookup in a sound table cannot fail in all the ways that a lookup
can.
-/

set_option autoImplicit false

namespace DecisionFlow

namespace EvaluationError

/-- The error that a called flow failed with, below all calls. -/
def root : EvaluationError → EvaluationError
  | .subflow _ cause => cause.root
  | problem => problem

/-- Errors that nodes report themselves, where lookups fail in allowed ways only, or calls of flows
whose nodes report them. -/
inductive Ordinary (allowed : LookupError → Prop) : EvaluationError → Prop where
  | typeMismatch (operation : Operation) (expected : Expectation) (found : Value) :
      Ordinary allowed (.typeMismatch operation expected found)
  | lookup (node : String) {cause : LookupError} (isAllowed : allowed cause) :
      Ordinary allowed (.lookup node cause)
  | subflow (node : String) {cause : EvaluationError} :
      Ordinary allowed cause → Ordinary allowed (.subflow node cause)

/-- Below all calls, an ordinary error is one that a node reports itself. -/
theorem Ordinary.root_eq {allowed : LookupError → Prop} {problem : EvaluationError}
    (ordinary : Ordinary allowed problem) :
    (∃ operation expected found, problem.root = .typeMismatch operation expected found) ∨
      ∃ node cause, problem.root = .lookup node cause ∧ allowed cause := by
  induction ordinary with
  | typeMismatch operation expected found => exact .inl ⟨operation, expected, found, rfl⟩
  | lookup node isAllowed => exact .inr ⟨node, _, rfl, isAllowed⟩
  | subflow _ _ ih => exact ih

end EvaluationError

open EvaluationError (Ordinary)

/-- A computation that fails, if it does, with an ordinary error. -/
abbrev FailsOrdinarily {α : Type} (allowed : LookupError → Prop) (step : Except EvaluationError α) :
    Prop :=
  FailsOnlyWith (Ordinary allowed) step

section

variable {allowed : LookupError → Prop}

theorem FailsOnlyWith.mismatch {α : Type} (operation : Operation) (expected : Expectation)
    (found : Value) :
    FailsOrdinarily allowed (DecisionFlow.mismatch operation expected found : Except _ α) :=
  .error (.typeMismatch operation expected found)

namespace Expression

theorem evaluate_failsOrdinarily (bindings : Bindings) (expression : Expression) :
    FailsOrdinarily allowed (expression.evaluate bindings) := by
  intro problem failed
  obtain ⟨part, -, blames⟩ := evaluate_failsByBlame bindings expression problem failed
  cases blames
  exact .typeMismatch _ _ _

theorem evaluateNamed_failsOrdinarily (bindings : Bindings)
    (expressions : List (String × Expression)) :
    FailsOrdinarily allowed (evaluateNamed bindings expressions) := by
  induction expressions with
  | nil => exact .ok _
  | cons entry rest ih =>
      exact (evaluate_failsOrdinarily bindings entry.2).bind fun value => ih.bind fun values => .ok _

end Expression

end

end DecisionFlow
