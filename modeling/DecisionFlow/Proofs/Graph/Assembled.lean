import DecisionFlow.Proofs.Graph.WellFormed

/-!
# What assembled graphs guarantee

A graph that came out of `Graph.assemble` can be walked: it begins at a node, every label that a
node may choose has an edge, edges lead to nodes, and no path returns to where it began.
-/

set_option autoImplicit false

namespace DecisionFlow.Graph

open Relation

/-- The graph was assembled, and so were the graphs that it calls, at every depth. -/
inductive Assembled : Graph → Prop where
  | intro {id version : String} {nodes : List (Node Graph)} {edges : List EdgeDocument}
      {graph : Graph} (assembled : assemble id version nodes edges = .ok graph)
      (callees : ∀ node ∈ nodes, ∀ callee, node.kind.callee? = some callee → Assembled callee) :
      Assembled graph

/-- The graph can be walked from its start. -/
structure Navigable (graph : Graph) : Prop where
  start : graph.start < graph.nodes.length
  /-- Whichever way a node chooses, there is an edge. -/
  onward : ∀ (position : Nat) (node : Node Graph) (label : EdgeLabel),
    graph.nodes[position]? = some node → label ∈ node.kind.requiredLabels →
      ∃ next, slot? graph.successors position label = some next
  /-- Edges lead to nodes. -/
  inside : ∀ position label next, slot? graph.successors position label = some next →
    next < graph.nodes.length
  acyclic : ∀ position, ¬ TransGen (Leads graph.successors) position position

theorem leads_of_slot? {successors : List Successors} {position next : Nat} {label : EdgeLabel}
    (filled : slot? successors position label = some next) : Leads successors position next :=
  leads_iff_exists_slot?.2 ⟨label, filled⟩

/-- The nodes of an assembled graph are those that it was assembled from. -/
theorem nodes_of_assemble {id version : String} {nodes : List (Node Graph)}
    {edges : List EdgeDocument} {graph : Graph}
    (assembled : assemble id version nodes edges = .ok graph) : graph.nodes = nodes := by
  obtain ⟨-, _, _, _, -, -, -, -, rfl⟩ := assemble_eq_ok_iff.1 assembled
  rfl

theorem id_of_assemble {id version : String} {nodes : List (Node Graph)}
    {edges : List EdgeDocument} {graph : Graph}
    (assembled : assemble id version nodes edges = .ok graph) : graph.id = id := by
  obtain ⟨-, _, _, _, -, -, -, -, rfl⟩ := assemble_eq_ok_iff.1 assembled
  rfl

theorem version_of_assemble {id version : String} {nodes : List (Node Graph)}
    {edges : List EdgeDocument} {graph : Graph}
    (assembled : assemble id version nodes edges = .ok graph) : graph.version = version := by
  obtain ⟨-, _, _, _, -, -, -, -, rfl⟩ := assemble_eq_ok_iff.1 assembled
  rfl

/-- An assembled graph has the key of the flow that it was assembled for. -/
theorem key_of_assemble {id version : String} {nodes : List (Node Graph)}
    {edges : List EdgeDocument} {graph : Graph}
    (assembled : assemble id version nodes edges = .ok graph) :
    graph.key = flowKey id version := by
  rw [key, id_of_assemble assembled, version_of_assemble assembled]

theorem Navigable.of_assemble {id version : String} {nodes : List (Node Graph)}
    {edges : List EdgeDocument} {graph : Graph}
    (assembled : assemble id version nodes edges = .ok graph) : Navigable graph := by
  obtain ⟨distinct, start, successors, resolved, found, connected, checked, acyclic, rfl⟩ :=
    assemble_eq_ok_iff.1 assembled
  have complete := ((checkNodes_connected_iff distinct connected).1 checked).1
  refine ⟨?_, ?_, ?_, findCycle?_eq_none_iff.1 acyclic⟩
  · obtain ⟨⟨node, here, -⟩, -⟩ := findStart_eq_ok_iff.1 found
    exact (List.getElem?_eq_some_iff.1 here).1
  · intro position node label here required
    have leaves := complete node (List.mem_of_getElem? here) label required
    exact Option.isSome_iff_exists.1 ((isSome_slot?_iff distinct connected here).2 leaves)
  · intro position label next filled
    obtain ⟨edge, -, isPlaced⟩ := (slot?_eq_some_iff distinct connected).1 filled
    simpa [ids] using (List.getElem?_eq_some_iff.1 isPlaced.target).1

theorem Assembled.navigable {graph : Graph} (built : Assembled graph) : Navigable graph := by
  cases built with
  | intro assembled _ => exact .of_assemble assembled

/-- The nodes of an assembled graph have different ids. -/
theorem Assembled.nodup_ids {graph : Graph} (built : Assembled graph) : (ids graph.nodes).Nodup := by
  cases built with
  | intro assembled _ =>
      rw [nodes_of_assemble assembled]
      exact (assemble_eq_ok_iff.1 assembled).1

/-- A graph called by an assembled graph was assembled. -/
theorem Assembled.callee {graph callee : Graph} (built : Assembled graph) {node : Node Graph}
    (member : node ∈ graph.nodes) (calls : node.kind.callee? = some callee) : Assembled callee := by
  cases built with
  | intro assembled callees =>
      rw [nodes_of_assemble assembled] at member
      exact callees node member callee calls

end DecisionFlow.Graph
