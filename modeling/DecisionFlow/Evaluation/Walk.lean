import DecisionFlow.Evaluation.Expression
import DecisionFlow.Evaluation.Result
import DecisionFlow.Evaluation.Rounding

/-!
# Walking a graph

A run begins at the start node and follows one edge after each node until it reaches a terminal
node. Every node computes a value from the bindings and chooses the edge to follow; the value is
then bound under the node's id. A node that calls a flow runs it on a record made from its inputs and
takes the output as its value; nothing else comes back.

A path without repetitions visits no more nodes than there are, so the walk stops after that many.
-/

set_option autoImplicit false

namespace DecisionFlow

/-- How a called flow is run. -/
abbrev Evaluator := Record → Run

/-- What a node that does not end the flow computes. -/
structure Step where
  label : EdgeLabel
  value : Value
  /-- Further columns of a table lookup, with the keys under which they are bound. -/
  columns : List (String × Value)

/-- The trace of a step, which is that of the called flow, and how the step ended. -/
structure StepRun where
  trace : List TraceEntry
  outcome : Except EvaluationError Step

namespace Step

/-- The step to the only next node. -/
def next (value : Value) : Step := ⟨.next, value, []⟩

end Step

/-! ## Steps -/

/-- Branches on the value of a predicate. -/
def branch : Value → Except EvaluationError Step
  | .bool true => .ok ⟨.thenBranch, .bool true, []⟩
  | .bool false => .ok ⟨.elseBranch, .bool false, []⟩
  | found => mismatch .conditional .bool found

/-- Rounds the value of an arithmetic expression, if the node says so. -/
def computed (rounding : Option Int) (value : Value) : Except EvaluationError Value :=
  match value, rounding with
  | .double value, none => .ok (.double value)
  | .double value, some places => .ok (.number (roundToPlaces value.toFloat places))
  | found, none => mismatch .arithmetic .number found
  | found, some _ => mismatch .round .number found

/-- The value of a column in a row that a lookup has found. -/
def TableLookup.cellValue (lookup : TableLookup) (row : Nat) (column : String) :
    Except LookupError Value :=
  match lookup.table.columnIndex? column, lookup.table.rows[row]? with
  | some index, some cells =>
    match cells[index]? with
    | some cell => .ok cell.value
    | none => .error (.shortRow row)
  | _, _ => .ok .null

/-- The values of columns in a row that a lookup has found, with the keys under which they are
bound. -/
def TableLookup.columnValues (lookup : TableLookup) (node : String) (row : Nat) :
    List String → Except LookupError (List (String × Value))
  | [] => .ok []
  | column :: rest => do
    let value ← lookup.cellValue row column
    let values ← lookup.columnValues node row rest
    return (node ++ "." ++ column, value) :: values

/-- The step of a lookup with given values of its keys. -/
def TableLookup.step (lookup : TableLookup) (node : String) (wanted : List (String × Value)) :
    Except LookupError Step := do
  let row ← lookup.table.lookup wanted
  let columns ← lookup.columnValues node row lookup.extraTargets
  let value ← lookup.cellValue row lookup.target
  return ⟨.next, value, columns⟩

/-- The step of a call: the called flow is run on the values of the inputs. -/
def SubflowCall.step (call : SubflowCall Evaluator) (node : String) (bindings : Bindings) :
    StepRun :=
  match Expression.evaluateNamed bindings call.inputs with
  | .error problem => ⟨[], .error problem⟩
  | .ok fields =>
    let run := call.target (Record.ofList fields)
    ⟨run.trace,
      match run.outcome with
      | .ok result => .ok (Step.next result.output)
      | .error cause => .error (.subflow node cause)⟩

/-- The step of a node that calls no flow. -/
def NodeKind.stepAlone {callee : Type} (kind : NodeKind callee) (node : String)
    (bindings : Bindings) : Except EvaluationError Step :=
  match kind with
  | .start => .ok (Step.next .null)
  | .input field => .ok (Step.next (bindings.field field))
  | .conditional predicate => do branch (← predicate.evaluate bindings)
  | .arithmetic expression rounding => do
    return Step.next (← computed rounding (← expression.evaluate bindings))
  | .stringTransform transform source => do
    return Step.next (.string (transform.apply (← source.evaluate bindings)))
  | .tableLookup lookup => do
    let wanted ← Expression.evaluateNamed bindings lookup.keys
    (lookup.step node wanted).mapError (.lookup node)
  | .subflowCall _ => .ok (Step.next .null)
  | .output spec => do return Step.next (← spec.output.evaluate bindings)

/-- The step of a node. -/
def NodeKind.step (kind : NodeKind Evaluator) (node : String) (bindings : Bindings) : StepRun :=
  match kind with
  | .subflowCall call => call.step node bindings
  | kind => ⟨[], kind.stepAlone node bindings⟩

/-- What a terminal node emits. -/
def OutputSpec.emit (spec : OutputSpec) (bindings : Bindings) :
    Except EvaluationError FlowResult := do
  let output ← spec.output.evaluate bindings
  let message ← match spec.message with
    | some message => message.evaluate bindings
    | none => .ok .null
  let extras ← Expression.evaluateNamed bindings spec.extras
  return { output, message, extras := Entries.ofList extras }

/-! ## Walks -/

/-- What a walk goes through: the nodes of a graph, with the called flows ready to be run. -/
structure Terrain where
  flow : String
  nodes : List (Node Evaluator)
  successors : List Successors

namespace Terrain

/-- The bindings after a step: the further columns first, then the value of the node. -/
def bindStep (bindings : Bindings) (node : String) (step : Step) : Bindings :=
  (bindings.bindAll step.columns).bind node step.value

/-- The position that an edge leads to. -/
def follow (terrain : Terrain) (position : Nat) (node : String) (label : EdgeLabel) :
    Except EvaluationError Nat :=
  match terrain.successors[position]? with
  | none => .error (.noNode position)
  | some successors =>
    match successors.get? label with
    | none => .error (.missingEdge node label)
    | some next => .ok next

/-- Walks on from a position, for at most the given number of nodes. -/
def walk (terrain : Terrain) : Nat → Nat → Bindings → Run
  | 0, _, _ => ⟨[], .error (.hopLimit terrain.nodes.length)⟩
  | hops + 1, position, bindings =>
    match terrain.nodes[position]? with
    | none => ⟨[], .error (.noNode position)⟩
    | some ⟨node, .output spec⟩ => ⟨[.reached terrain.flow node], spec.emit bindings⟩
    | some ⟨node, kind⟩ =>
      let taken := kind.step node bindings
      match taken.outcome with
      | .error problem => ⟨taken.trace, .error problem⟩
      | .ok step =>
        let visit := TraceEntry.visited terrain.flow node step.value step.label
        match terrain.follow position node step.label with
        | .error problem => ⟨taken.trace ++ [visit], .error problem⟩
        | .ok next =>
          let rest := terrain.walk hops next (bindStep bindings node step)
          ⟨taken.trace ++ visit :: rest.trace, rest.outcome⟩

end Terrain

/-! ## Runs of graphs -/

namespace Graph

mutual

/-- Runs a graph for a record. -/
def run : Graph → Evaluator
  | ⟨id, _, nodes, _, _, successors, start⟩ => fun record =>
    Terrain.walk ⟨id, runnableNodes nodes, successors⟩ nodes.length start (Bindings.initial record)

/-- Nodes whose called flows are ready to be run. -/
def runnableNodes : List (Node Graph) → List (Node Evaluator)
  | [] => []
  | node :: rest => runnableNode node :: runnableNodes rest

def runnableNode : Node Graph → Node Evaluator
  | ⟨id, kind⟩ => ⟨id, runnableKind kind⟩

def runnableKind : NodeKind Graph → NodeKind Evaluator
  | .start => .start
  | .input field => .input field
  | .conditional predicate => .conditional predicate
  | .arithmetic expression rounding => .arithmetic expression rounding
  | .stringTransform transform source => .stringTransform transform source
  | .tableLookup lookup => .tableLookup lookup
  | .subflowCall call => .subflowCall (runnableCall call)
  | .output spec => .output spec

def runnableCall : SubflowCall Graph → SubflowCall Evaluator
  | ⟨flow, version, inputs, target⟩ => ⟨flow, version, inputs, target.run⟩

end

/-- The nodes that a walk goes through are the graph's own, with each called graph run in turn. -/
theorem runnableNodes_eq_map (nodes : List (Node Graph)) :
    runnableNodes nodes = nodes.map (Node.map run) := by
  induction nodes with
  | nil => rfl
  | cons node rest ih =>
      obtain ⟨id, kind⟩ := node
      cases kind with
      | subflowCall call =>
          obtain ⟨flow, version, inputs, target⟩ := call
          simp [runnableNodes, runnableNode, runnableKind, runnableCall, ih, Node.map, NodeKind.map]
      | _ => simp [runnableNodes, runnableNode, runnableKind, ih, Node.map, NodeKind.map]

/-- The result of a graph for a record, or the reason why there is none. -/
def evaluate (graph : Graph) (record : Record) : Except EvaluationError FlowResult :=
  (graph.run record).outcome

end Graph

end DecisionFlow
