import DecisionFlow.Graph.Basic

/-!
# Nodes that no run can reach

A breadth-first search from the start finds the positions that some path leads to. The others are
reported as a warning; they do not make a graph invalid.
-/

set_option autoImplicit false

namespace DecisionFlow.Graph

/-- The positions found so far, and those that can be reached from the waiting ones. Every position
is expanded at most once and adds at most three waiting ones, so an allowance of four times the
number of positions and one is never used up. -/
def reachFrom (successors : List Successors) :
    Nat → List Nat → List Nat → List Nat
  | 0, _, seen => seen
  | _ + 1, [], seen => seen
  | allowance + 1, current :: waiting, seen =>
    if current ∈ seen then reachFrom successors allowance waiting seen
    else reachFrom successors allowance (waiting ++ targets successors current) (current :: seen)

/-- The positions that can be reached from the start. -/
def reachable (graph : Graph) : List Nat :=
  reachFrom graph.successors (4 * graph.nodes.length + 1) [graph.start] []

/-- The ids of the nodes that cannot be reached, in their order. -/
def unreachableNodes (graph : Graph) : List String :=
  let reached := graph.reachable
  (graph.nodes.zipIdx.filter fun entry => entry.2 ∉ reached).map (·.1.id)

end DecisionFlow.Graph
