import DecisionFlow.Document.Basic
import DecisionFlow.Expression.Json
import DecisionFlow.Graph.Basic

/-!
# From a graph back to a document

Every graph can be written as a document again. Its nodes use the built-in kinds, its edges carry
resolved labels, and every flow that it calls, directly or through other flows, is embedded once and
without embedded flows of its own.
-/

set_option autoImplicit false

namespace DecisionFlow

/-- The parameters from which a node is read. -/
def NodeKind.parameters {callee : Type} : NodeKind callee → List (String × Json)
  | .start => []
  | .input field => [("field", .string field)]
  | .conditional predicate => [("predicate", predicate.toJson)]
  | .arithmetic expression rounding =>
    [("expression", expression.toJson)] ++
      (match rounding with
        | some places => [("precision", .int places)]
        | none => [])
  | .stringTransform transform source =>
    [("transform", .string transform.name), ("source", source.toJson)]
  | .tableLookup lookup =>
    [("keys", Expression.namedToJson lookup.keys), ("target", .string lookup.target)] ++
      (if lookup.extraTargets.isEmpty then []
        else [("extra_targets", .array (lookup.extraTargets.map .string))]) ++
      [("columns", lookup.table.columnsToJson), ("rows", lookup.table.rowsToJson)]
  | .subflowCall call =>
    [("flow", .string call.flow), ("version", .string call.version.text),
      ("inputs", Expression.namedToJson call.inputs)]
  | .output spec =>
    [("output", spec.output.toJson)] ++
      (match spec.message with
        | some message => [("message", message.toJson)]
        | none => []) ++
      (if spec.extras.isEmpty then [] else [("extras", Expression.namedToJson spec.extras)])

namespace Graph

/-- The document of a node. -/
def nodeDocument (node : Node Graph) : NodeDocument :=
  { id := node.id, kind := node.kind.name, parameters := Entries.ofList node.kind.parameters }

/-- The document of an edge. The only way on from a node needs no label. -/
def edgeDocument (edge : Edge) : EdgeDocument :=
  { source := edge.source
    target := edge.target
    label := match edge.label with
      | .next => none
      | label => some label.text }

/-- The document of a graph without the flows that it calls. -/
def bareDocument (id version : String) (nodes : List (Node Graph)) (edges : List Edge) :
    FlowDocument :=
  { id, version, nodes := nodes.map nodeDocument, edges := edges.map edgeDocument, subflows := [] }

/-- The documents gathered so far, and the keys of all flows that are not gathered again. -/
structure Gathering where
  seen : List String
  documents : List FlowDocument

/-! ### Gathering called flows

A graph is gathered before the graphs that it calls. Of the graphs called by one graph the last is
gathered first, and a flow that is called by several of its nodes counts at its first call. -/

mutual

/-- Gathers a graph and the graphs below it. -/
def gather : Graph → Gathering → Gathering
  | ⟨id, version, nodes, edges, _, _, _⟩, gathering =>
    if gathering.seen.contains (flowKey id version) then gathering
    else gatherNodes [] nodes
      ⟨flowKey id version :: gathering.seen,
        gathering.documents ++ [bareDocument id version nodes edges]⟩

/-- Gathers the graphs called by nodes, from the last to the first, without the flows that nodes
before these call already. -/
def gatherNodes (earlier : List (String × String)) :
    List (Node Graph) → Gathering → Gathering
  | [], gathering => gathering
  | node :: rest, gathering =>
    gatherNode earlier node
      (gatherNodes (earlier ++ (node.kind.callee?.map fun callee =>
        (callee.id, callee.version)).toList) rest gathering)

/-- Gathers the graph called by a node. -/
def gatherNode (earlier : List (String × String)) : Node Graph → Gathering → Gathering
  | ⟨_, kind⟩, gathering => gatherKind earlier kind gathering

def gatherKind (earlier : List (String × String)) : NodeKind Graph → Gathering → Gathering
  | .subflowCall call, gathering => gatherCall earlier call gathering
  | _, gathering => gathering

def gatherCall (earlier : List (String × String)) : SubflowCall Graph → Gathering → Gathering
  | ⟨_, _, _, target⟩, gathering =>
    if earlier.contains (target.id, target.version) then gathering else target.gather gathering

end

/-- The document of a graph, with every flow that it calls embedded once. -/
def toDocument (graph : Graph) : FlowDocument :=
  let gathering := gatherNodes [] graph.nodes ⟨[graph.key], []⟩
  { bareDocument graph.id graph.version graph.nodes graph.edges with
    subflows := gathering.documents }

end Graph

end DecisionFlow
