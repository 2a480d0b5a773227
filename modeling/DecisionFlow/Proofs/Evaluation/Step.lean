import DecisionFlow.Evaluation.Walk
import DecisionFlow.Graph.Assembly
import DecisionFlow.Proofs.Evaluation.Failure
import DecisionFlow.Proofs.Lists
import DecisionFlow.Proofs.Outcome

/-!
# Steps of nodes

A step fails, if it does, with an ordinary error, and otherwise chooses one of the labels for which
its node has to have an edge. Where it evaluates named expressions, the values have their names.
-/

set_option autoImplicit false

namespace DecisionFlow

/-! ## Named values -/

section

variable {bindings : Bindings} {named : List (String × Expression)} {values : List (String × Value)}

/-- A value with its name, and the expression that has it. -/
def Evaluates (bindings : Bindings) (entry : String × Expression) (value : String × Value) : Prop :=
  value.1 = entry.1 ∧ entry.2.evaluate bindings = .ok value.2

theorem inStep_of_evaluateNamed (evaluated : Expression.evaluateNamed bindings named = .ok values) :
    List.Forall₂ (Evaluates bindings) named values := by
  induction named generalizing values with
  | nil =>
      cases evaluated
      exact .nil
  | cons entry rest ih =>
      obtain ⟨value, isValue, evaluated⟩ := bind_eq_ok_iff.1 evaluated
      obtain ⟨others, later, evaluated⟩ := bind_eq_ok_iff.1 evaluated
      cases evaluated
      exact .cons ⟨rfl, isValue⟩ (ih later)

theorem names_eq_of_inStep (inStep : List.Forall₂ (Evaluates bindings) named values) :
    values.map Prod.fst = named.map Prod.fst :=
  (map_eq_of_inStep inStep fun _ _ same => same.1.symm).symm

end

/-- A message that is not declared is null. -/
theorem OutputSpec.emit_eq (spec : OutputSpec) (bindings : Bindings) : spec.emit bindings = (do
    let output ← spec.output.evaluate bindings
    let message ← (spec.message.getD (.literal .null)).evaluate bindings
    let extras ← Expression.evaluateNamed bindings spec.extras
    return ⟨output, message, Entries.ofList extras⟩) := by
  unfold emit
  cases spec.message <;> rfl

/-! ## How steps fail -/

section

variable {allowed : LookupError → Prop}

theorem branch_failsOrdinarily (value : Value) : FailsOrdinarily allowed (branch value) := by
  unfold branch
  split
  · exact .ok _
  · exact .ok _
  · exact .mismatch _ _ _

theorem computed_failsOrdinarily (rounding : Option Int) (value : Value) :
    FailsOrdinarily allowed (computed rounding value) := by
  unfold computed
  split
  · exact .ok _
  · exact .ok _
  · exact .mismatch _ _ _
  · exact .mismatch _ _ _

/-- A lookup of the node, whatever its values are, fails in allowed ways only. -/
def NodeKind.FailsAsAllowed {callee : Type} (allowed : LookupError → Prop) (kind : NodeKind callee) :
    Prop :=
  ∀ lookup, kind = .tableLookup lookup →
    ∀ node wanted, FailsOnlyWith allowed (lookup.step node wanted)

theorem NodeKind.failsAsAllowed_any {callee : Type} (kind : NodeKind callee) :
    kind.FailsAsAllowed fun _ => True :=
  fun _ _ _ _ _ _ => trivial

theorem NodeKind.stepAlone_failsOrdinarily {callee : Type} {kind : NodeKind callee}
    (allows : kind.FailsAsAllowed allowed) (node : String) (bindings : Bindings) :
    FailsOrdinarily allowed (kind.stepAlone node bindings) := by
  cases kind with
  | start | input | subflowCall => exact .ok _
  | conditional predicate =>
      exact (predicate.evaluate_failsOrdinarily bindings).bind branch_failsOrdinarily
  | arithmetic expression rounding =>
      exact (expression.evaluate_failsOrdinarily bindings).bind fun value =>
        (computed_failsOrdinarily rounding value).bind fun _ => .ok _
  | stringTransform transform source =>
      exact (source.evaluate_failsOrdinarily bindings).bind fun _ => .ok _
  | tableLookup lookup =>
      exact (Expression.evaluateNamed_failsOrdinarily bindings lookup.keys).bind fun wanted =>
        (allows lookup rfl node wanted).mapError fun _ => .lookup node
  | output spec =>
      exact (spec.output.evaluate_failsOrdinarily bindings).bind fun _ => .ok _

theorem SubflowCall.step_failsOrdinarily (call : SubflowCall Evaluator) (node : String)
    (bindings : Bindings) (target : ∀ record, FailsOrdinarily allowed (call.target record).outcome) :
    FailsOrdinarily allowed (call.step node bindings).outcome := by
  unfold SubflowCall.step
  split
  next problem failed =>
    rintro _ ⟨⟩
    exact Expression.evaluateNamed_failsOrdinarily bindings call.inputs problem failed
  next fields evaluated =>
    dsimp only
    split
    · exact .ok _
    next cause failed =>
      rintro _ ⟨⟩
      exact .subflow node (target _ cause failed)

/-- A node that calls no flow steps by itself. -/
theorem NodeKind.outcome_of_alone {kind : NodeKind Evaluator} (alone : kind.callee? = none)
    (node : String) (bindings : Bindings) :
    (kind.step node bindings).outcome = kind.stepAlone node bindings := by
  cases kind with
  | subflowCall call => cases alone
  | _ => rfl

/-- A step fails with an ordinary error if lookups and called flows do. -/
theorem NodeKind.step_failsOrdinarily {kind : NodeKind Evaluator} (node : String)
    (bindings : Bindings) (allows : kind.FailsAsAllowed allowed)
    (target : ∀ callee, kind.callee? = some callee →
      ∀ record, FailsOrdinarily allowed (callee record).outcome) :
    FailsOrdinarily allowed (kind.step node bindings).outcome := by
  cases kind with
  | subflowCall call => exact call.step_failsOrdinarily node bindings (target _ rfl)
  | _ =>
      rw [outcome_of_alone rfl]
      exact stepAlone_failsOrdinarily allows node bindings

theorem OutputSpec.emit_failsOrdinarily (spec : OutputSpec) (bindings : Bindings) :
    FailsOrdinarily allowed (spec.emit bindings) := by
  rw [emit_eq]
  exact (spec.output.evaluate_failsOrdinarily bindings).bind fun _ =>
    (Expression.evaluate_failsOrdinarily bindings _).bind fun _ =>
      (Expression.evaluateNamed_failsOrdinarily bindings spec.extras).bind fun _ => .ok _

end

/-! ## Labels that steps choose -/

theorem NodeKind.isTerminal_iff {callee : Type} {kind : NodeKind callee} :
    kind.isTerminal = true ↔ ∃ spec, kind = .output spec := by
  cases kind <;> simp [isTerminal]

/-- A branch is taken by one of its two labels. -/
theorem step_of_branch {value : Value} {step : Step} (taken : branch value = .ok step) :
    ∃ holds, step = ⟨if holds then .thenBranch else .elseBranch, .bool holds, []⟩ := by
  unfold branch at taken
  split at taken
  · cases taken
    exact ⟨true, rfl⟩
  · cases taken
    exact ⟨false, rfl⟩
  · cases taken

theorem SubflowCall.step_eq_next {call : SubflowCall Evaluator} {node : String}
    {bindings : Bindings} {step : Step}
    (taken : (call.step node bindings).outcome = .ok step) : ∃ value, step = Step.next value := by
  unfold SubflowCall.step at taken
  split at taken
  · cases taken
  · dsimp only at taken
    split at taken
    · cases taken
      exact ⟨_, rfl⟩
    · cases taken

theorem TableLookup.label_of_step {lookup : TableLookup} {node : String}
    {wanted : List (String × Value)} {step : Step}
    (taken : lookup.step node wanted = .ok step) : step.label = .next := by
  obtain ⟨row, -, taken⟩ := bind_eq_ok_iff.1 taken
  obtain ⟨columns, -, taken⟩ := bind_eq_ok_iff.1 taken
  obtain ⟨value, -, taken⟩ := bind_eq_ok_iff.1 taken
  cases taken
  rfl

/-- A step chooses one of the labels for which there has to be an edge. -/
theorem NodeKind.label_mem_requiredLabels {kind : NodeKind Evaluator} {node : String}
    {bindings : Bindings} {step : Step} (onward : kind.isTerminal = false)
    (taken : (kind.step node bindings).outcome = .ok step) :
    step.label ∈ kind.requiredLabels := by
  cases kind with
  | start | input =>
      cases taken
      exact List.mem_singleton_self _
  | conditional predicate =>
      obtain ⟨value, -, taken⟩ := bind_eq_ok_iff.1 taken
      obtain ⟨holds, rfl⟩ := step_of_branch taken
      cases holds
      · exact List.mem_cons_of_mem _ (List.mem_singleton_self _)
      · exact List.mem_cons_self
  | arithmetic expression rounding =>
      obtain ⟨value, -, taken⟩ := bind_eq_ok_iff.1 taken
      obtain ⟨value, -, taken⟩ := bind_eq_ok_iff.1 taken
      cases taken
      exact List.mem_singleton_self _
  | stringTransform transform source =>
      obtain ⟨value, -, taken⟩ := bind_eq_ok_iff.1 taken
      cases taken
      exact List.mem_singleton_self _
  | tableLookup lookup =>
      obtain ⟨wanted, -, taken⟩ := bind_eq_ok_iff.1 taken
      exact List.mem_singleton.2 (TableLookup.label_of_step (mapError_eq_ok_iff.1 taken))
  | subflowCall call =>
      obtain ⟨value, rfl⟩ := SubflowCall.step_eq_next taken
      exact List.mem_singleton_self _
  | output => cases onward

end DecisionFlow
