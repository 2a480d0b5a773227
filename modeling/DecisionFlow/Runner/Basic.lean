import DecisionFlow.Batch.Execution

/-!
# Runners

A runner is a compiled flow together with the settings for its batches. The flow never changes;
settings can be replaced between batches.
-/

set_option autoImplicit false

namespace DecisionFlow

/-- A compiled flow and the settings for its batches. -/
structure Runner where
  graph : Graph
  settings : Settings

namespace Runner

/-- A runner with the standard settings. -/
def ofGraph (graph : Graph) : Runner := ⟨graph, Settings.standard⟩

/-- Replaces the settings. -/
def withSettings (runner : Runner) (settings : Settings) : Runner :=
  { runner with settings }

/-- Sets a deadline. -/
def withTimeout (runner : Runner) (milliseconds : Nat) : Runner :=
  { runner with settings := { runner.settings with timeout := some milliseconds } }

/-- Sets the error policy and the strategy. -/
def withPolicy (runner : Runner) (policy : ErrorPolicy) (strategy : Strategy) : Runner :=
  { runner with settings := { runner.settings with policy, strategy } }

/-- Runs a batch against a clock that stands still, so that only a deadline at the start of the batch
passes. -/
def execute (runner : Runner) (batch : RecordBatch) : Except BatchError BatchResult :=
  Id.run (executeNow (pure 0) runner.graph runner.settings batch)

/-- Evaluates a single record. -/
def evaluate (runner : Runner) (record : Record) : Except EvaluationError FlowResult :=
  runner.graph.evaluate record

end Runner

end DecisionFlow
