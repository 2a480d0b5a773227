import DecisionFlow.Graph.Cycle

/-!
# Assembling graphs

A graph is assembled from nodes and from edges as they were written. On the way everything is
checked that later stages rely on: ids are distinct, one node starts the flow, edges connect existing
nodes and carry labels that fit their source, every way on is there exactly once, every node
reference names a node, and there is no cycle. The first fault in this order is reported.
-/

set_option autoImplicit false

namespace DecisionFlow

/-- Why nodes and edges do not form a graph. -/
inductive GraphError where
  | duplicateNode (id : String)
  | noStart
  | severalStarts (ids : List String)
  /-- An edge whose one end is missing; the other end is named too. -/
  | missingNode (missing other : String)
  | unknownReference (node reference : String)
  | invalidLabel (node label : String)
  | duplicateEdge (node : String) (label : EdgeLabel)
  | missingEdge (node : String) (label : EdgeLabel)
  | terminalWithEdges (node : String)
  /-- A path of node ids that begins and ends with the same one. -/
  | cycle (path : List String)

/-- The text of a graph error. -/
def GraphError.message : GraphError → String
  | .duplicateNode id => "Node id '" ++ id ++ "' is declared more than once"
  | .noStart => "Flow has no start node"
  | .severalStarts ids => "Flow has more than one start node: " ++ String.intercalate ", " ids
  | .missingNode missing other =>
    "Node '" ++ missing ++ "' not found, which is required by a connection from node '" ++ other ++
      "'"
  | .unknownReference node reference =>
    "Node '" ++ node ++ "' references unknown node '" ++ reference ++ "'"
  | .invalidLabel node label => "Edge label '" ++ label ++ "' is not valid for node '" ++ node ++ "'"
  | .duplicateEdge node label =>
    "Node '" ++ node ++ "' has more than one '" ++ label.text ++ "' edge"
  | .missingEdge node label =>
    "Node '" ++ node ++ "' is missing its '" ++ label.text ++ "' edge"
  | .terminalWithEdges node => "Terminal node '" ++ node ++ "' must not have outgoing edges"
  | .cycle path => "Flow contains a cycle: " ++ String.intercalate " -> " path

/-- The labels of the edges that must leave a node. -/
def NodeKind.requiredLabels {callee : Type} : NodeKind callee → List EdgeLabel
  | .output _ => []
  | .conditional _ => [.thenBranch, .elseBranch]
  | _ => [.next]

namespace Graph

/-! ## Nodes -/

/-- The ids of nodes, in order. -/
def ids (nodes : List (Node Graph)) : List String :=
  nodes.map (·.id)

/-- The index of nodes by their ids. -/
def indexOf (nodes : List (Node Graph)) : PositionIndex :=
  PositionIndex.ofList (ids nodes).zipIdx

/-- The only start node. -/
def findStart (nodes : List (Node Graph)) : Except GraphError Nat :=
  match nodes.zipIdx.filter (·.1.kind.isStart) with
  | [] => .error .noStart
  | [only] => .ok only.2
  | several => .error (.severalStarts (several.map (·.1.id)))

/-! ## Edges -/

/-- An edge between positions. -/
structure PlacedEdge where
  source : Nat
  label : EdgeLabel
  target : Nat

/-- Places an edge as written between positions and resolves its label. -/
def placeEdge (nodes : List (Node Graph)) (index : PositionIndex) (edge : EdgeDocument) :
    Except GraphError PlacedEdge :=
  match index.find? edge.source with
  | none => .error (.missingNode edge.source edge.target)
  | some source =>
    match index.find? edge.target with
    | none => .error (.missingNode edge.target edge.source)
    | some target =>
      match nodes[source]? with
      | none => .error (.missingNode edge.source edge.target)
      | some node =>
        if node.kind.isTerminal then .error (.terminalWithEdges edge.source)
        else
          match EdgeLabel.resolve? edge.label node.kind.isBranching with
          | none => .error (.invalidLabel edge.source (edge.label.getD ""))
          | some label => .ok { source, label, target }

/-- Connects the nodes: the successors of each position, and the edges with resolved labels. -/
def connect (nodes : List (Node Graph)) (index : PositionIndex) (successors : List Successors) :
    List EdgeDocument → Except GraphError (List Successors × List Edge)
  | [] => .ok (successors, [])
  | edge :: rest => do
    let placed ← placeEdge nodes index edge
    let outgoing := successors[placed.source]?.getD Successors.empty
    if (outgoing.get? placed.label).isSome then
      throw (.duplicateEdge edge.source placed.label)
    let (successors, edges) ← connect nodes index
      (successors.set placed.source (outgoing.set placed.label placed.target)) rest
    return (successors, { source := edge.source, label := placed.label, target := edge.target } :: edges)

/-! ## Checks -/

/-- The first required label for which no edge leaves. -/
def missingLabel? (outgoing : Successors) (labels : List EdgeLabel) : Option EdgeLabel :=
  labels.find? fun label => (outgoing.get? label).isNone

/-- The nodes that a node reads from, in increasing order. -/
def references (node : Node Graph) : List String :=
  sortedNames (node.kind.expressions.flatMap Expression.nodes)

/-- Checks that a node has all its edges and refers to existing nodes only. -/
def checkNode (index : PositionIndex) (node : Node Graph) (outgoing : Successors) :
    Except GraphError Unit :=
  match missingLabel? outgoing node.kind.requiredLabels with
  | some label => .error (.missingEdge node.id label)
  | none =>
    match (references node).find? fun reference => (index.find? reference).isNone with
    | some reference => .error (.unknownReference node.id reference)
    | none => .ok ()

/-- Checks the nodes together with their successors, in order. -/
def checkNodes (index : PositionIndex) :
    List (Node Graph) → List Successors → Except GraphError Unit
  | node :: nodes, outgoing :: successors => do
    checkNode index node outgoing
    checkNodes index nodes successors
  | _, _ => .ok ()

/-- Checks that no path returns to where it began. -/
def checkAcyclic (nodes : List (Node Graph)) (successors : List Successors) :
    Except GraphError Unit :=
  match findCycle? successors with
  | none => .ok ()
  | some cycle => .error (.cycle (cycle.map fun position => (nodes[position]?.map (·.id)).getD ""))

/-- The graph with the given nodes and edges. -/
def assemble (id version : String) (nodes : List (Node Graph)) (edges : List EdgeDocument) :
    Except GraphError Graph :=
  match firstRepeated (ids nodes) with
  | some repeated => .error (.duplicateNode repeated)
  | none => do
    let index := indexOf nodes
    let start ← findStart nodes
    let (successors, edges) ← connect nodes index (nodes.map fun _ => Successors.empty) edges
    checkNodes index nodes successors
    checkAcyclic nodes successors
    return { id, version, nodes, edges, index, successors, start }

end Graph

end DecisionFlow
