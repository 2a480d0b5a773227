import DecisionFlow.Batch.Record
import DecisionFlow.Json.Written

/-!
# Records from text

A batch of records in JSON text. All faults of the text itself count as one.
-/

set_option autoImplicit false

namespace DecisionFlow.RecordBatch

/-- The batch written in a JSON text. -/
def ofText (text : String) : Except RecordError RecordBatch :=
  match Json.ofText? text with
  | none => .error .malformedText
  | some json => ofJson json

end DecisionFlow.RecordBatch
