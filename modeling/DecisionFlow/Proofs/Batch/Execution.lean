import DecisionFlow.Batch.Execution
import DecisionFlow.Proofs.Evaluation.Step
import Mathlib.Data.List.Basic

/-!
# Outcomes of batches

A strict sequential run stops at the first failing record, and a parallel one evaluates all of them.
The rows that they compute differ, but the first failing row is the same, and it alone decides. What
could tell the two apart is a deadline that passes while the batch runs: the number of records
completed by then depends on the schedule.

So the outcome of a batch is told by the outcomes of its records whenever the clock gives the same
answer for each of them (`outcome_by_policy`): if no deadline passes, and if it has passed at once.
No record is late by itself, since the deadline is no error of an evaluation (`evaluate_ne_deadline`).
-/

set_option autoImplicit false

namespace DecisionFlow

/-! ## No evaluation is late -/

theorem FailsOrdinarily.ne_deadline {α : Type} {step : Except EvaluationError α}
    (ordinary : FailsOrdinarily (fun _ => True) step) : step ≠ .error .deadline := by
  intro late
  cases ordinary .deadline late

theorem NodeKind.step_ne_deadline (kind : NodeKind Evaluator) (node : String)
    (bindings : Bindings) : (kind.step node bindings).outcome ≠ .error .deadline := by
  cases kind with
  | subflowCall call =>
      -- The error of a called flow, even a deadline, comes back below the call.
      intro late
      simp only [step, SubflowCall.step] at late
      split at late
      next problem failed =>
        cases late
        exact (Expression.evaluateNamed_failsOrdinarily bindings call.inputs).ne_deadline failed
      next => split at late <;> cases late
  | _ =>
      rw [outcome_of_alone rfl]
      exact (stepAlone_failsOrdinarily (failsAsAllowed_any _) node bindings).ne_deadline

theorem Terrain.walk_ne_deadline (terrain : Terrain) (hops position : Nat) (bindings : Bindings) :
    (terrain.walk hops position bindings).outcome ≠ .error .deadline := by
  induction hops generalizing position bindings with
  | zero => rintro ⟨⟩
  | succ hops ih =>
      rw [walk]
      split
      · rintro ⟨⟩
      next spec _ => exact (spec.emit_failsOrdinarily bindings).ne_deadline
      next node kind _ _ =>
        dsimp only
        split
        next problem failed =>
          rintro ⟨⟩
          exact kind.step_ne_deadline node bindings failed
        next step taken =>
          split
          next problem failed =>
            unfold follow at failed
            split at failed
            · cases failed
              rintro ⟨⟩
            · split at failed
              · cases failed
                rintro ⟨⟩
              · cases failed
          next next _ => exact ih next _

/-- The deadline is never the error with which a record fails by itself. -/
theorem Graph.evaluate_ne_deadline (graph : Graph) (record : Record) :
    graph.evaluate record ≠ .error .deadline := by
  obtain ⟨id, version, nodes, edges, index, successors, start⟩ := graph
  exact Terrain.walk_ne_deadline _ _ _ _

/-! ## Rows of a run -/

/-- Whenever it is asked, a question about the time gets the same answer. -/
def Answers (expired : StateM Nat Bool) (answer : Bool) : Prop :=
  ∀ asked, (expired.run asked).1 = answer

/-- The row of a record if the deadline has passed and if it has not. -/
def rowWhen (late : Bool) (graph : Graph) (record : Record) : Row :=
  if late then .error .deadline else graph.evaluate record

/-- The rows up to and including the first that failed. -/
def throughFailure : List Row → List Row
  | [] => []
  | .ok result :: rest => .ok result :: throughFailure rest
  | .error cause :: _ => [.error cause]

section Rows

variable {expired : StateM Nat Bool} {answer : Bool}

theorem run_bind_eq {α β : Type} (step : StateM Nat α) (next : α → StateM Nat β) (asked : Nat) :
    (step >>= next).run asked = (next (step.run asked).1).run (step.run asked).2 := rfl

theorem run_runRecord (answers : Answers expired answer) (graph : Graph) (record : Record)
    (asked : Nat) :
    (runRecord expired graph record).run asked =
      (rowWhen answer graph record, (expired.run asked).2) := by
  rw [runRecord, run_bind_eq, answers asked]
  cases answer <;> rfl

theorem run_runAll (answers : Answers expired answer) (graph : Graph) (records : List Record)
    (asked : Nat) :
    ((runAll expired graph records).run asked).1 = records.map (rowWhen answer graph) := by
  induction records generalizing asked with
  | nil => rfl
  | cons record rest ih =>
      rw [runAll, run_bind_eq, run_runRecord answers, run_bind_eq, List.map_cons,
        ← ih (expired.run asked).2]
      rfl

theorem run_runUntilFailure (answers : Answers expired answer) (graph : Graph)
    (records : List Record) (asked : Nat) :
    ((runUntilFailure expired graph records).run asked).1 =
      throughFailure (records.map (rowWhen answer graph)) := by
  induction records generalizing asked with
  | nil => rfl
  | cons record rest ih =>
      rw [runUntilFailure, run_bind_eq, run_runRecord answers, List.map_cons]
      cases rowWhen answer graph record with
      | error cause => rfl
      | ok result =>
          rw [throughFailure, ← ih (expired.run asked).2]
          rfl

/-- The rows that a run of a batch whose records have the given rows computes. -/
def computedRows (settings : Settings) (rows : List Row) : List Row :=
  match settings.strategy, settings.policy with
  | .sequential, .strict => throughFailure rows
  | _, _ => rows

theorem run_execute (answers : Answers expired answer) (graph : Graph) (settings : Settings)
    (batch : RecordBatch) (asked : Nat) :
    ((execute expired graph settings batch).run asked).1 =
      conclude settings.policy batch.records.length
        (computedRows settings (batch.records.map (rowWhen answer graph))) := by
  have rows : ((rowsOf expired graph settings batch.records).run asked).1 =
      computedRows settings (batch.records.map (rowWhen answer graph)) := by
    obtain ⟨policy, strategy, timeout⟩ := settings
    cases strategy with
    | parallel => exact run_runAll answers graph batch.records asked
    | sequential =>
        cases policy with
        | collect => exact run_runAll answers graph batch.records asked
        | strict => exact run_runUntilFailure answers graph batch.records asked
  rw [execute, run_bind_eq, rows]
  rfl

end Rows

/-! ## The first failure decides -/

/-- Either all rows succeeded, or some rows that did precede one that failed. -/
theorem exists_first_failure (rows : List Row) :
    ∃ results : List FlowResult, rows = results.map .ok ∨
      ∃ cause rest, rows = results.map .ok ++ .error cause :: rest := by
  induction rows with
  | nil => exact ⟨[], .inl rfl⟩
  | cons row rest ih =>
      cases row with
      | error cause => exact ⟨[], .inr ⟨cause, rest, rfl⟩⟩
      | ok result =>
          obtain ⟨results, rfl | ⟨cause, others, rfl⟩⟩ := ih
          · exact ⟨result :: results, .inl rfl⟩
          · exact ⟨result :: results, .inr ⟨cause, others, rfl⟩⟩

theorem throughFailure_append (results : List FlowResult) (rows : List Row) :
    throughFailure (results.map .ok ++ rows) = results.map .ok ++ throughFailure rows := by
  induction results with
  | nil => rfl
  | cons result rest ih => exact congrArg (.ok result :: ·) ih

theorem failuresFrom_append (index : Nat) (results : List FlowResult) (rows : List Row) :
    BatchResult.failuresFrom index (results.map .ok ++ rows) =
      BatchResult.failuresFrom (index + results.length) rows := by
  induction results generalizing index with
  | nil => rfl
  | cons result rest ih =>
      rw [List.map_cons, List.cons_append, BatchResult.failuresFrom, ih, List.length_cons,
        Nat.add_assoc, Nat.add_comm 1]

theorem conclude_passed (total : Nat) (results : List FlowResult) :
    conclude .strict total (results.map .ok) = .ok ⟨results.map .ok⟩ := by
  have none : BatchResult.failures ⟨results.map .ok⟩ = [] := by
    simpa [BatchResult.failures, BatchResult.failuresFrom] using failuresFrom_append 0 results []
  simp only [conclude, none]

theorem conclude_failed {cause : EvaluationError} (punctual : cause ≠ .deadline) (total : Nat)
    (results : List FlowResult) (rest : List Row) :
    conclude .strict total (results.map .ok ++ .error cause :: rest) =
      .error (.recordFailed results.length cause) := by
  have first : BatchResult.failures ⟨results.map .ok ++ .error cause :: rest⟩ =
      (results.length, cause) :: BatchResult.failuresFrom (results.length + 1) rest := by
    rw [BatchResult.failures, failuresFrom_append, Nat.zero_add]
    rfl
  simp only [conclude, first]

/-- Neither schedule leaves out a row if none failed. -/
theorem conclude_computed_passed (strategy : Strategy) (timeout : Option Nat) (total : Nat)
    (results : List FlowResult) :
    conclude .strict total (computedRows ⟨.strict, strategy, timeout⟩ (results.map .ok)) =
      .ok ⟨results.map .ok⟩ := by
  cases strategy with
  | sequential =>
      have all : throughFailure (results.map .ok) = results.map .ok := by
        simpa [throughFailure] using throughFailure_append results []
      rw [computedRows, all]
      exact conclude_passed total results
  | parallel => exact conclude_passed total results

/-- Rows after the first failure, which only a parallel run computes, change nothing. -/
theorem conclude_computed_failed {cause : EvaluationError} (punctual : cause ≠ .deadline)
    (strategy : Strategy) (timeout : Option Nat) (total : Nat) (results : List FlowResult)
    (rest : List Row) :
    conclude .strict total (computedRows ⟨.strict, strategy, timeout⟩
        (results.map .ok ++ .error cause :: rest)) =
      .error (.recordFailed results.length cause) := by
  cases strategy with
  | sequential =>
      rw [computedRows, throughFailure_append]
      exact conclude_failed punctual total results []
  | parallel => exact conclude_failed punctual total results rest

/-- How the rows of the records decide the outcome of a batch. Collecting keeps all of them; the
strict policy keeps them if none failed, and else reports the failed one with the lowest index. -/
inductive Concludes (rows : List Row) : ErrorPolicy → Except BatchError BatchResult → Prop where
  | collected : Concludes rows .collect (.ok ⟨rows⟩)
  | passed (succeeded : ∀ row ∈ rows, ∃ result, row = .ok result) :
      Concludes rows .strict (.ok ⟨rows⟩)
  | failed {index : Nat} {cause : EvaluationError} (here : rows[index]? = some (.error cause))
      (lowest : ∀ earlier < index, ∃ result, rows[earlier]? = some (.ok result)) :
      Concludes rows .strict (.error (.recordFailed index cause))

/-- The rows leave no choice. -/
theorem Concludes.unique {rows : List Row} {policy : ErrorPolicy}
    {outcome other : Except BatchError BatchResult} (concludes : Concludes rows policy outcome)
    (again : Concludes rows policy other) : outcome = other := by
  cases concludes with
  | collected =>
      cases again
      rfl
  | passed succeeded =>
      cases again with
      | passed => rfl
      | failed here _ =>
          obtain ⟨_, isOk⟩ := succeeded _ (List.mem_of_getElem? here)
          cases isOk
  | @failed index cause here lowest =>
      cases again with
      | passed succeeded =>
          obtain ⟨_, isOk⟩ := succeeded _ (List.mem_of_getElem? here)
          cases isOk
      | @failed index' cause' here' lowest' =>
          obtain below | rfl | above := Nat.lt_trichotomy index index'
          · obtain ⟨_, isOk⟩ := lowest' index below
            rw [here] at isOk
            cases isOk
          · rw [here] at here'
            cases here'
            rfl
          · obtain ⟨_, isOk⟩ := lowest index' above
            rw [here'] at isOk
            cases isOk

/-- If no row is late, the rows that a run computes decide like all of them. -/
theorem concludes_of_punctual {rows : List Row} (punctual : ∀ row ∈ rows, row ≠ .error .deadline)
    (settings : Settings) (total : Nat) :
    Concludes rows settings.policy
      (conclude settings.policy total (computedRows settings rows)) := by
  obtain ⟨policy, strategy, timeout⟩ := settings
  cases policy with
  | collect =>
      have all : computedRows ⟨.collect, strategy, timeout⟩ rows = rows := by
        cases strategy <;> rfl
      rw [all]
      exact .collected
  | strict =>
      obtain ⟨results, rfl | ⟨cause, rest, rfl⟩⟩ := exists_first_failure rows
      · rw [conclude_computed_passed]
        refine .passed fun row member => ?_
        obtain ⟨result, -, rfl⟩ := List.mem_map.1 member
        exact ⟨result, rfl⟩
      · have inTime : cause ≠ .deadline := by
          rintro rfl
          exact punctual (.error .deadline) (by simp) rfl
        rw [conclude_computed_failed inTime]
        refine .failed (by simp) fun earlier below => ⟨results[earlier], ?_⟩
        rw [List.getElem?_append_left (by simpa using below)]
        simp [below]

/-- If every row is late, a strict batch gives up before any record is completed. -/
theorem conclude_late (settings : Settings) (count : Nat) :
    conclude settings.policy count (computedRows settings (List.replicate count (.error .deadline))) =
      match settings.policy with
      | .collect => .ok ⟨List.replicate count (.error .deadline)⟩
      | .strict => if count = 0 then .ok ⟨[]⟩ else .error (.timeout 0 count) := by
  obtain ⟨policy, strategy, timeout⟩ := settings
  cases policy with
  | collect => cases strategy <;> rfl
  | strict =>
      cases count with
      | zero => cases strategy <;> rfl
      | succ count =>
          have given (late : Nat) : conclude .strict (count + 1)
              (List.replicate (late + 1) (.error .deadline)) = .error (.timeout 0 (count + 1)) := by
            have completed : BatchResult.completed
                ⟨List.replicate (late + 1) (.error .deadline)⟩ = 0 := by
              simp [BatchResult.completed, List.countP_replicate, Row.isLate]
            rw [← completed]
            rfl
          cases strategy with
          | sequential => exact given 0
          | parallel => exact given count

/-! ## Clocks -/

/-- A clock whose readings are given in advance: asked for the first time, it gives the reading with
number zero, and so on. -/
def timetable (times : Nat → Nat) : StateM Nat Nat := fun asked => (times asked, asked + 1)

/-- The outcome of a batch by a clock with the given readings. -/
def outcomeBy (times : Nat → Nat) (graph : Graph) (settings : Settings) (batch : RecordBatch) :
    Except BatchError BatchResult :=
  ((executeNow (timetable times) graph settings batch).run 0).1

/-- There is no deadline, or every reading of the clock is before it. -/
def NeverExpires (times : Nat → Nat) (settings : Settings) : Prop :=
  ∀ timeout, settings.timeout = some timeout → ∀ asked, times asked < times 0 + timeout

/-- The deadline is when the batch starts, and no reading of the clock is before that. -/
def ExpiresAtOnce (times : Nat → Nat) (settings : Settings) : Prop :=
  settings.timeout = some 0 ∧ ∀ asked, times 0 ≤ times asked

variable {times : Nat → Nat} {settings : Settings}

theorem NeverExpires.answers (never : NeverExpires times settings) :
    Answers (isExpired (timetable times) settings (times 0)) false := by
  intro asked
  unfold isExpired
  cases given : settings.timeout with
  | none => rfl
  | some timeout => exact decide_eq_false (Nat.not_le.2 (never timeout given asked))

theorem ExpiresAtOnce.answers (atOnce : ExpiresAtOnce times settings) :
    Answers (isExpired (timetable times) settings (times 0)) true := by
  intro asked
  unfold isExpired
  rw [atOnce.1]
  exact decide_eq_true (atOnce.2 asked)

section

variable (graph : Graph) (batch : RecordBatch)

/-- If no deadline passes, the outcomes of the records decide that of the batch. -/
theorem NeverExpires.concludes (never : NeverExpires times settings) :
    Concludes (batch.records.map graph.evaluate) settings.policy
      (outcomeBy times graph settings batch) := by
  have rows : batch.records.map (rowWhen false graph) = batch.records.map graph.evaluate := rfl
  have outcome := run_execute never.answers graph settings batch 1
  rw [rows] at outcome
  rw [outcomeBy, executeNow, run_bind_eq]
  refine outcome ▸ concludes_of_punctual ?_ settings _
  intro row member
  obtain ⟨record, -, rfl⟩ := List.mem_map.1 member
  exact graph.evaluate_ne_deadline record

/-- If the deadline passes at once, every record is late. -/
theorem ExpiresAtOnce.outcome_eq (atOnce : ExpiresAtOnce times settings) :
    outcomeBy times graph settings batch =
      match settings.policy with
      | .collect => .ok ⟨List.replicate batch.records.length (.error .deadline)⟩
      | .strict =>
        if batch.records.length = 0 then .ok ⟨[]⟩
        else .error (.timeout 0 batch.records.length) := by
  have rows : batch.records.map (rowWhen true graph) =
      List.replicate batch.records.length (.error .deadline) := List.map_const' ..
  rw [← conclude_late, ← rows]
  exact run_execute atOnce.answers graph settings batch 1

end

/-- **Outcomes by policy.** If no deadline passes, the outcomes of the records decide that of the
batch. If the deadline passes at once, every record is late, and a strict batch reports a timeout
unless it has no records. Either way it does not matter how the records are scheduled, and when
exactly the clock is asked. -/
theorem outcome_by_policy (times : Nat → Nat) (graph : Graph) (settings : Settings)
    (batch : RecordBatch) :
    (NeverExpires times settings →
      Concludes (batch.records.map graph.evaluate) settings.policy
        (outcomeBy times graph settings batch)) ∧
    (ExpiresAtOnce times settings →
      outcomeBy times graph settings batch =
        match settings.policy with
        | .collect => .ok ⟨List.replicate batch.records.length (.error .deadline)⟩
        | .strict =>
          if batch.records.length = 0 then .ok ⟨[]⟩
          else .error (.timeout 0 batch.records.length)) ∧
    ∀ others,
      NeverExpires times settings ∧ NeverExpires others settings ∨
          ExpiresAtOnce times settings ∧ ExpiresAtOnce others settings →
        outcomeBy times graph { settings with strategy := .sequential } batch =
          outcomeBy others graph { settings with strategy := .parallel } batch := by
  refine ⟨fun never => never.concludes graph batch, fun atOnce => atOnce.outcome_eq graph batch, ?_⟩
  rintro others (⟨never, neverOthers⟩ | ⟨atOnce, atOnceOthers⟩)
  · have sequential : NeverExpires times { settings with strategy := .sequential } := never
    have parallel : NeverExpires others { settings with strategy := .parallel } := neverOthers
    exact (sequential.concludes graph batch).unique (parallel.concludes graph batch)
  · have sequential : ExpiresAtOnce times { settings with strategy := .sequential } := atOnce
    have parallel : ExpiresAtOnce others { settings with strategy := .parallel } := atOnceOthers
    rw [sequential.outcome_eq, parallel.outcome_eq]

/-- A flow that negates the field `flag`. -/
def negation : Graph where
  id := "negation"
  version := "1"
  nodes := [⟨"start", .start⟩, ⟨"end", .output ⟨.not (.field "flag"), none, []⟩⟩]
  edges := [⟨"start", .next, "end"⟩]
  index := .ofList [("start", 0), ("end", 1)]
  successors := [⟨some 1, none, none⟩, .empty]
  start := 0

/-- Records with a truth value, a text and nothing at all to negate. -/
def flags : RecordBatch where
  records := [.ofList [("flag", .bool true)], .ofList [("flag", .string "no")], .empty]

/-- In time, the second record is reported; with a deadline at the start, none is completed. -/
theorem outcome_by_policy_of_negation :
    (NeverExpires (fun asked => min asked 9) ⟨.strict, .sequential, some 10⟩ ∧
      NeverExpires (fun _ => 7) ⟨.strict, .sequential, some 10⟩ ∧
      Concludes (flags.records.map negation.evaluate) .strict
        (outcomeBy (fun asked => min asked 9) negation ⟨.strict, .sequential, some 10⟩ flags) ∧
      outcomeBy (fun asked => min asked 9) negation ⟨.strict, .sequential, some 10⟩ flags =
        .error (.recordFailed 1 (.typeMismatch .not .bool (.string "no"))) ∧
      outcomeBy (fun asked => min asked 9) negation ⟨.strict, .sequential, some 10⟩ flags =
        outcomeBy (fun _ => 7) negation ⟨.strict, .parallel, some 10⟩ flags) ∧
    ExpiresAtOnce (fun asked => 3 * asked) ⟨.strict, .parallel, some 0⟩ ∧
      outcomeBy (fun asked => 3 * asked) negation ⟨.strict, .parallel, some 0⟩ flags =
        .error (.timeout 0 3) := by
  have inTime : NeverExpires (fun asked => min asked 9) ⟨.strict, .sequential, some 10⟩ := by
    rintro timeout ⟨⟩ asked
    show min asked 9 < 0 + 10
    omega
  have constant : NeverExpires (fun _ => 7) ⟨.strict, .sequential, some 10⟩ := by
    rintro timeout ⟨⟩ asked
    show 7 < 7 + 10
    omega
  have atOnce : ExpiresAtOnce (fun asked => 3 * asked) ⟨.strict, .parallel, some 0⟩ :=
    ⟨rfl, fun asked => Nat.zero_le _⟩
  exact ⟨⟨inTime, constant, (outcome_by_policy _ negation _ flags).1 inTime, rfl,
    (outcome_by_policy _ negation _ flags).2.2 _ (.inl ⟨inTime, constant⟩)⟩,
    atOnce, (outcome_by_policy _ negation _ flags).2.1 atOnce⟩

end DecisionFlow
