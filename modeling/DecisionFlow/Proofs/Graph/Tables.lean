import DecisionFlow.Proofs.Graph.Assembled

/-!
# The tables of a graph

A graph holds its edges twice, as a list and as the successors of each position, and an index leads
from ids to positions. Later stages trust one of these and do not look at the others: walks and the
search for cycles follow the successors, a document is written from the list. In an assembled graph
they say the same, whatever the order in which nodes and edges were declared
(`tablesAgree_of_assemble`).

Successors and list are filled side by side, edge by edge. The place of a written edge connects
them: it says which slot the edge fills, and the list takes the label from it. Places are unique
because ids are, so nothing can be in one of the two only.
-/

set_option autoImplicit false

namespace DecisionFlow

/-! ## Ways on -/

namespace NodeKind

variable {callee : Type} {kind : NodeKind callee}

/-- How a node continues: an output with nothing, a condition with both of its branches and any
other node with the next one only. -/
inductive ContinuesWith : NodeKind callee → Successors → Prop where
  | output (spec : OutputSpec) : ContinuesWith (.output spec) .empty
  | conditional (predicate : Expression) (thenBranch elseBranch : Nat) :
      ContinuesWith (.conditional predicate) ⟨none, some thenBranch, some elseBranch⟩
  | other {kind : NodeKind callee} (onward : kind.isTerminal = false)
      (straight : kind.isBranching = false) (next : Nat) :
      ContinuesWith kind ⟨some next, none, none⟩

/-- A node continues as its kind says if exactly the edges that it requires leave it. -/
theorem continuesWith_of_forall {outgoing : Successors}
    (filled : ∀ label, (outgoing.get? label).isSome = true ↔ label ∈ kind.requiredLabels) :
    kind.ContinuesWith outgoing := by
  have free (label : EdgeLabel) (spare : label ∉ kind.requiredLabels) :
      outgoing.get? label = none :=
    Option.not_isSome_iff_eq_none.1 (mt (filled label).1 spare)
  have taken (label : EdgeLabel) (required : label ∈ kind.requiredLabels) :
      ∃ position, outgoing.get? label = some position :=
    Option.isSome_iff_exists.1 ((filled label).2 required)
  obtain ⟨next, thenBranch, elseBranch⟩ := outgoing
  cases kind with
  | output spec =>
      obtain rfl : next = none := free .next List.not_mem_nil
      obtain rfl : thenBranch = none := free .thenBranch List.not_mem_nil
      obtain rfl : elseBranch = none := free .elseBranch List.not_mem_nil
      exact .output spec
  | conditional predicate =>
      obtain rfl : next = none := free .next (by simp [requiredLabels])
      obtain ⟨whenTrue, rfl⟩ : ∃ whenTrue, thenBranch = some whenTrue :=
        taken .thenBranch (by simp [requiredLabels])
      obtain ⟨whenFalse, rfl⟩ : ∃ whenFalse, elseBranch = some whenFalse :=
        taken .elseBranch (by simp [requiredLabels])
      exact .conditional predicate whenTrue whenFalse
  | _ =>
      obtain ⟨following, rfl⟩ : ∃ following, next = some following :=
        taken .next (by simp [requiredLabels])
      obtain rfl : thenBranch = none := free .thenBranch (by simp [requiredLabels])
      obtain rfl : elseBranch = none := free .elseBranch (by simp [requiredLabels])
      exact .other rfl rfl following

theorem isStart_iff : kind.isStart = true ↔ kind = .start := by
  cases kind <;> simp [isStart]

/-- A label that is written at a node that goes on means one of the edges that it requires. -/
theorem mem_requiredLabels_of_means (onward : kind.isTerminal = false) {written : Option String}
    {label : EdgeLabel} (means : EdgeLabel.Means kind.isBranching written label) :
    label ∈ kind.requiredLabels := by
  cases kind with
  | output => cases onward
  | conditional => cases means <;> simp [requiredLabels]
  | _ => cases means <;> simp [requiredLabels]

end NodeKind

namespace Graph

variable {nodes : List (Node Graph)} {edges : List EdgeDocument}

/-! ## Edges in the list -/

/-- An edge as it is kept of a written one: with the same ends and with the label that the written
one means at its source. -/
structure Resolves (nodes : List (Node Graph)) (edge : EdgeDocument) (kept : Edge) : Prop where
  source : kept.source = edge.source
  target : kept.target = edge.target
  label : ∃ node ∈ nodes, node.id = edge.source ∧
    EdgeLabel.Means node.kind.isBranching edge.label kept.label

/-- What is kept of an edge with a place resolves it. -/
theorem Places.resolves {edge : EdgeDocument} {placed : PlacedEdge}
    (isPlaced : Places nodes edge placed) : Resolves nodes edge (resolvedEdge edge placed) where
  source := rfl
  target := rfl
  label := by
    obtain ⟨node, atSource, named, -, resolved⟩ := isPlaced.source
    exact ⟨node, List.mem_of_getElem? atSource, named, EdgeLabel.resolve?_eq_some_iff.1 resolved⟩

section Connected

variable {successors : List Successors} {resolved : List Edge}
  (distinct : (ids nodes).Nodup)
  (connected : connect nodes (indexOf nodes) (nodes.map fun _ => Successors.empty) edges =
    .ok (successors, resolved))
include distinct connected

/-- A slot leads from one node to another exactly if the list has this edge: both come from a
written edge with the same place. -/
theorem slot?_eq_some_iff_mem_resolved {position next : Nat} {label : EdgeLabel} :
    slot? successors position label = some next ↔
      ∃ source target, nodes[position]? = some source ∧ nodes[next]? = some target ∧
        ⟨source.id, label, target.id⟩ ∈ resolved := by
  have inStep := inStep_of_connect connected
  simp only [placeEdge_indexOf_eq_ok_iff distinct] at inStep
  rw [slot?_eq_some_iff distinct connected]
  constructor
  · rintro ⟨edge, member, isPlaced⟩
    obtain ⟨kept, isKept, placed, isPlaced', rfl⟩ := exists_right_of_mem inStep member
    obtain rfl := isPlaced.unique distinct isPlaced'
    obtain ⟨source, atSource, named, -⟩ := isPlaced.source
    have atTarget := isPlaced.target
    rw [getElem?_ids] at atTarget
    obtain ⟨target, here, targetNamed⟩ := Option.map_eq_some_iff.1 atTarget
    refine ⟨source, target, atSource, here, ?_⟩
    rwa [named, targetNamed]
  · rintro ⟨source, target, atSource, atTarget, isKept⟩
    obtain ⟨edge, member, placed, isPlaced, same⟩ := exists_left_of_mem inStep isKept
    obtain ⟨sameSource, rfl, sameTarget⟩ := Edge.mk.inj same
    obtain ⟨node, atNode, named, -⟩ := isPlaced.source
    have sourceHere : placed.source = position :=
      place_unique distinct (by rw [getElem?_ids, atNode, Option.map_some, named])
        (by rw [getElem?_ids, atSource, Option.map_some, sameSource])
    have targetHere : placed.target = next :=
      place_unique distinct isPlaced.target
        (by rw [getElem?_ids, atTarget, Option.map_some, sameTarget])
    subst sourceHere targetHere
    exact ⟨edge, member, isPlaced⟩

end Connected

/-! ## Agreement -/

/-- The index, the successors, the list of edges and the start of a graph describe the nodes and the
edges that were declared. -/
structure TablesAgree (nodes : List (Node Graph)) (edges : List EdgeDocument) (graph : Graph) :
    Prop where
  declared : graph.nodes = nodes
  /-- The index leads from the ids of the nodes to their positions, and from nothing else. -/
  indexed : ∀ name position, graph.index.find? name = some position ↔
    ∃ node, graph.nodes[position]? = some node ∧ node.id = name
  counted : graph.successors.length = graph.nodes.length
  /-- The successors and the list have the same edges. -/
  listed : ∀ position label next, slot? graph.successors position label = some next ↔
    ∃ source target, graph.nodes[position]? = some source ∧ graph.nodes[next]? = some target ∧
      ⟨source.id, label, target.id⟩ ∈ graph.edges
  ends : ∀ edge ∈ graph.edges, edge.source ∈ ids graph.nodes ∧ edge.target ∈ ids graph.nodes
  /-- The list has no way on from a node twice. -/
  once : (graph.edges.map fun edge => (edge.source, edge.label)).Nodup
  /-- The list has the declared edges in their order, with resolved labels. -/
  resolved : List.Forall₂ (Resolves graph.nodes) edges graph.edges
  /-- No node lacks a way on, and none has one that it cannot take. -/
  continues : ∀ (position : Nat) (node : Node Graph) (outgoing : Successors),
    graph.nodes[position]? = some node → graph.successors[position]? = some outgoing →
      node.kind.ContinuesWith outgoing
  start : ∃ node, graph.nodes[graph.start]? = some node ∧ node.kind = .start
  onlyStart : ∀ position node, graph.nodes[position]? = some node → node.kind = .start →
    position = graph.start

/-! ## Assembled graphs -/

/-- The kept edges have different sources or different labels. -/
theorem nodup_ways_of_resolves (wellFormed : WellFormed nodes edges) {resolved : List Edge}
    (resolves : List.Forall₂ (Resolves nodes) edges resolved) :
    (resolved.map fun edge => (edge.source, edge.label)).Nodup := by
  refine List.pairwise_map.2 (pairwise_of_inStep resolves wellFormed.apart ?_)
  intro edge _ other _ apart kept kept' here there same
  obtain ⟨sameSource, sameLabel⟩ := Prod.mk.inj same
  obtain ⟨node, member, named, means⟩ := here.label
  obtain ⟨node', member', named', means'⟩ := there.label
  have sameId : node.id = node'.id := by
    rw [named, named', ← here.source, ← there.source, sameSource]
  obtain rfl := eq_of_id_eq wellFormed.distinct member member' sameId
  exact apart node member named named' kept.label means (sameLabel ▸ means')

/-- The kept edges connect nodes. -/
theorem ends_of_resolves (wellFormed : WellFormed nodes edges) {resolved : List Edge}
    (resolves : List.Forall₂ (Resolves nodes) edges resolved) {kept : Edge}
    (isKept : kept ∈ resolved) : kept.source ∈ ids nodes ∧ kept.target ∈ ids nodes := by
  obtain ⟨edge, member, here⟩ := exists_left_of_mem resolves isKept
  rw [here.source, here.target]
  exact wellFormed.ends edge member

/-- Every node continues as its kind says. -/
theorem continuesWith_of_connect (wellFormed : WellFormed nodes edges)
    {successors : List Successors} {resolved : List Edge}
    (connected : connect nodes (indexOf nodes) (nodes.map fun _ => Successors.empty) edges =
      .ok (successors, resolved)) {position : Nat} {node : Node Graph} {outgoing : Successors}
    (here : nodes[position]? = some node) (there : successors[position]? = some outgoing) :
    node.kind.ContinuesWith outgoing := by
  have member := List.mem_of_getElem? here
  have leaves (label : EdgeLabel) : (outgoing.get? label).isSome = true ↔ ∃ edge ∈ edges,
      edge.source = node.id ∧ EdgeLabel.Means node.kind.isBranching edge.label label := by
    rw [← isSome_slot?_iff wellFormed.distinct connected here, slot?, there, Option.bind_some]
  refine NodeKind.continuesWith_of_forall fun label => (leaves label).trans ⟨?_, ?_⟩
  · rintro ⟨edge, isEdge, named, means⟩
    have onward := wellFormed.notTerminal edge isEdge node member named.symm
    exact NodeKind.mem_requiredLabels_of_means onward means
  · exact wellFormed.complete node member label

/-- **The tables of an assembled graph agree.** Whatever nodes and edges were declared, and in
whatever order: the index leads from each id to its position, a position has a successor exactly if
the list has this edge, the list has the declared edges with resolved labels, each node continues as
its kind says, and the graph begins at its only start node. -/
theorem tablesAgree_of_assemble {id version : String} {graph : Graph}
    (assembled : assemble id version nodes edges = .ok graph) : TablesAgree nodes edges graph := by
  have wellFormed := WellFormed.of_assemble assembled
  obtain ⟨distinct, start, successors, resolved, found, connected, -, -, rfl⟩ :=
    assemble_eq_ok_iff.1 assembled
  have resolves : List.Forall₂ (Resolves nodes) edges resolved := by
    refine (inStep_of_connect connected).imp ?_
    rintro edge _ ⟨placed, isPlaced, rfl⟩
    exact ((placeEdge_indexOf_eq_ok_iff distinct).1 isPlaced).resolves
  obtain ⟨⟨startNode, atStart, isStart⟩, onlyStart⟩ := findStart_eq_ok_iff.1 found
  exact {
    declared := rfl
    indexed := fun name position => by
      rw [find?_indexOf distinct, getElem?_ids, Option.map_eq_some_iff]
    counted := length_of_connect connected
    listed := fun _ _ _ => slot?_eq_some_iff_mem_resolved distinct connected
    ends := fun _ isKept => ends_of_resolves wellFormed resolves isKept
    once := nodup_ways_of_resolves wellFormed resolves
    resolved := resolves
    continues := fun _ _ _ here there => continuesWith_of_connect wellFormed connected here there
    start := ⟨startNode, atStart, NodeKind.isStart_iff.1 isStart⟩
    onlyStart := fun position node here starts =>
      onlyStart position node here (NodeKind.isStart_iff.2 starts) }

/-- A price that is reduced for members, declared from its end. -/
def discountNodes : List (Node Graph) :=
  [⟨"end", .output ⟨.field "price", none, []⟩⟩, ⟨"member", .conditional (.field "isMember")⟩,
    ⟨"start", .start⟩, ⟨"reduced", .arithmetic (.field "price") (some 2)⟩]

/-- The edges between them; three of them have labels that depend on what they leave. -/
def discountEdges : List EdgeDocument :=
  [⟨"member", "end", some "default"⟩, ⟨"reduced", "end", some "default"⟩,
    ⟨"member", "reduced", some "then"⟩, ⟨"start", "member", none⟩]

/-- The graph that they form. -/
def discountGraph : Graph where
  id := "discount"
  version := "2"
  nodes := discountNodes
  edges := [⟨"member", .elseBranch, "end"⟩, ⟨"reduced", .next, "end"⟩,
    ⟨"member", .thenBranch, "reduced"⟩, ⟨"start", .next, "member"⟩]
  index := indexOf discountNodes
  successors := [.empty, ⟨none, some 3, some 0⟩, ⟨some 1, none, none⟩, ⟨some 0, none, none⟩]
  start := 2

/-- The list keeps the order of declaration, and `default` means what the source makes of it. -/
theorem tablesAgree_of_discount :
    assemble "discount" "2" discountNodes discountEdges = .ok discountGraph ∧
      TablesAgree discountNodes discountEdges discountGraph := by
  have assembled : assemble "discount" "2" discountNodes discountEdges = .ok discountGraph :=
    assemble_eq_ok_iff.2 ⟨by decide, 2, _, _, by rfl, by rfl, by rfl, by decide +kernel, rfl⟩
  exact ⟨assembled, tablesAgree_of_assemble assembled⟩

end Graph

end DecisionFlow
