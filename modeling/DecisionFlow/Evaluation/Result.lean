import DecisionFlow.Evaluation.Error

/-!
# What a run yields

A run of a flow for one record yields a result or an error, and a trace that tells which nodes were
visited on the way, those of called flows before the node that called them.
-/

set_option autoImplicit false

namespace DecisionFlow

/-- What the terminal node of a run emitted. -/
structure FlowResult where
  output : Value
  message : Value
  extras : Entries Value

namespace FlowResult

/-- The JSON form of a result: the output and the message beside the extras, over which they take
precedence. -/
def toJson (result : FlowResult) : Json :=
  let extras := result.extras.map fun extra => (extra.1, extra.2.toJson)
  Json.ofMembers
    (extras ++ [("output", result.output.toJson), ("message", result.message.toJson)])

end FlowResult

/-- A line of a trace. -/
inductive TraceEntry where
  /-- A node was visited, computed a value and was left by an edge. -/
  | visited (flow node : String) (value : Value) (label : EdgeLabel)
  /-- A terminal node was reached. -/
  | reached (flow node : String)

/-- The text of a line. -/
def TraceEntry.text : TraceEntry → String
  | .visited flow node value label =>
    "[" ++ flow ++ "] " ++ node ++ " -> " ++ value.display ++ " (" ++ label.text ++ ")"
  | .reached flow node => "[" ++ flow ++ "] output '" ++ node ++ "'"

/-- The trace of a run and how it ended. -/
structure Run where
  trace : List TraceEntry
  outcome : Except EvaluationError FlowResult

end DecisionFlow
