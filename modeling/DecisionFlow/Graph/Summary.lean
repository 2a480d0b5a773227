import DecisionFlow.Graph.Basic

/-!
# What a graph reads and calls

The record fields that a graph's own nodes read, and the graphs that it calls directly.
-/

set_option autoImplicit false

namespace DecisionFlow.Graph

/-- The fields that a node reads: the one of an input node, and those in its expressions. -/
def fieldsOf (node : Node Graph) : List String :=
  (match node.kind with
    | .input field => [field]
    | _ => []) ++ node.kind.expressions.flatMap Expression.fields

/-- The record fields that the nodes of the graph read, in increasing order. -/
def inputFields (graph : Graph) : List String :=
  sortedNames (graph.nodes.flatMap fieldsOf)

/-- The graphs that nodes call, one for each call. -/
def callees (nodes : List (Node Graph)) : List Graph :=
  nodes.filterMap (·.kind.callee?)

/-- Two graphs were compiled from the same version of the same flow. -/
def sameFlow (graph other : Graph) : Bool :=
  graph.id == other.id && graph.version == other.version

/-- The first graph of each flow and version, in order. -/
def distinctFlows : List Graph → List Graph
  | [] => []
  | graph :: rest => graph :: (distinctFlows rest).filter (!sameFlow graph ·)

/-- The graphs called directly, each flow and version once, in the order of the first calls. -/
def subflows (graph : Graph) : List Graph :=
  distinctFlows (callees graph.nodes)

end DecisionFlow.Graph
