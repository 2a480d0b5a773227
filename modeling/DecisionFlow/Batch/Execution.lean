import DecisionFlow.Batch.Settings
import DecisionFlow.Evaluation.Walk

/-!
# Running a batch

Every record of a batch is evaluated on its own. Before each one the clock is asked whether the
deadline has passed. When errors are collected, the answer has a row for each record in order; under
the strict policy the first failing row turns into an error of the whole batch, and a sequential run
does not look at the records after it.

The clock is a parameter, so that a batch can be run against a real clock as well as against one
that gives fixed answers.
-/

set_option autoImplicit false

namespace DecisionFlow

/-- Why a batch has no result as a whole. -/
inductive BatchError where
  | recordFailed (index : Nat) (cause : EvaluationError)
  | timeout (completed total : Nat)

/-- The text of a batch error. -/
def BatchError.message : BatchError → String
  | .recordFailed index cause => "Record " ++ toString index ++ " failed: " ++ cause.message
  | .timeout completed total =>
    "Batch deadline expired after " ++ toString completed ++ " of " ++ toString total ++ " records"

/-- The outcome of one record. -/
abbrev Row := Except EvaluationError FlowResult

/-- The record was given up because of the deadline. -/
def Row.isLate : Row → Bool
  | .error .deadline => true
  | _ => false

/-- The error of a failed row. -/
def Row.error? : Row → Option EvaluationError
  | .ok _ => none
  | .error cause => some cause

/-- The outcomes of a batch, in the order of its records. -/
structure BatchResult where
  rows : List Row

namespace BatchResult

/-- The output of each row, which is null if the row failed. -/
def outputs (result : BatchResult) : List Value :=
  result.rows.map fun
    | .ok row => row.output
    | .error _ => .null

/-- The message of each row, which is null if the row failed. -/
def messages (result : BatchResult) : List Value :=
  result.rows.map fun
    | .ok row => row.message
    | .error _ => .null

/-- The number of records that were evaluated, whether they failed or not. -/
def completed (result : BatchResult) : Nat :=
  result.rows.countP fun row => !row.isLate

/-- The failed rows with their positions, counted from `index`. -/
def failuresFrom (index : Nat) : List Row → List (Nat × EvaluationError)
  | [] => []
  | .ok _ :: rest => failuresFrom (index + 1) rest
  | .error cause :: rest => (index, cause) :: failuresFrom (index + 1) rest

/-- The failed rows with their positions. -/
def failures (result : BatchResult) : List (Nat × EvaluationError) :=
  failuresFrom 0 result.rows

/-- Some row failed. -/
def hasFailures (result : BatchResult) : Bool :=
  result.rows.any fun row => row.error?.isSome

/-- The JSON form of a row. A failed row has a text in place of a result. -/
def rowToJson : Row → Json
  | .ok row => row.toJson
  | .error cause =>
    Json.ofMembers [("output", .null), ("message", .null), ("error", .string cause.message)]

/-- The JSON form of all rows. -/
def toJson (result : BatchResult) : Json :=
  .array (result.rows.map rowToJson)

/-- The remarks on a batch: one for each failed record. -/
def warnings (result : BatchResult) : List String :=
  result.failures.map fun failure => (BatchError.recordFailed failure.1 failure.2).message

end BatchResult

/-! ## Execution -/

section Execution

variable {m : Type → Type} [Monad m]

/-- The row of a record: late if the deadline has passed, else the outcome of evaluating it. -/
def runRecord (expired : m Bool) (graph : Graph) (record : Record) : m Row := do
  if ← expired then return .error .deadline else return graph.evaluate record

/-- The rows of all records. -/
def runAll (expired : m Bool) (graph : Graph) : List Record → m (List Row)
  | [] => return []
  | record :: rest => do
    let row ← runRecord expired graph record
    let rows ← runAll expired graph rest
    return row :: rows

/-- The rows of the records up to and including the first that fails. -/
def runUntilFailure (expired : m Bool) (graph : Graph) : List Record → m (List Row)
  | [] => return []
  | record :: rest => do
    match ← runRecord expired graph record with
    | .error cause => return [.error cause]
    | .ok result =>
      let rows ← runUntilFailure expired graph rest
      return .ok result :: rows

/-- The rows that a run computes. Only a strict sequential run stops early. -/
def rowsOf (expired : m Bool) (graph : Graph) (settings : Settings) (records : List Record) :
    m (List Row) :=
  match settings.strategy, settings.policy with
  | .sequential, .strict => runUntilFailure expired graph records
  | _, _ => runAll expired graph records

/-- The outcome of a batch of `total` records with the given rows. -/
def conclude (policy : ErrorPolicy) (total : Nat) (rows : List Row) :
    Except BatchError BatchResult :=
  let result : BatchResult := ⟨rows⟩
  match policy with
  | .collect => .ok result
  | .strict =>
    match result.failures with
    | [] => .ok result
    | (_, .deadline) :: _ => .error (.timeout result.completed total)
    | (index, cause) :: _ => .error (.recordFailed index cause)

/-- Runs a graph for every record of a batch. -/
def execute (expired : m Bool) (graph : Graph) (settings : Settings) (batch : RecordBatch) :
    m (Except BatchError BatchResult) := do
  let rows ← rowsOf expired graph settings batch.records
  return conclude settings.policy batch.records.length rows

/-- By the clock, which gives the time in milliseconds, the deadline of a batch that started at a
given time has passed. Without a timeout the clock is not asked. -/
def isExpired (now : m Nat) (settings : Settings) (started : Nat) : m Bool := do
  match settings.timeout with
  | none => return false
  | some timeout => return started + timeout ≤ (← now)

/-- Runs a graph for every record of a batch, which starts at the time that the clock gives first. -/
def executeNow (now : m Nat) (graph : Graph) (settings : Settings) (batch : RecordBatch) :
    m (Except BatchError BatchResult) := do
  let started ← now
  execute (isExpired now settings started) graph settings batch

end Execution

end DecisionFlow
