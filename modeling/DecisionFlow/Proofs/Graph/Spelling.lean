import DecisionFlow.Proofs.Graph.Assembled

/-!
# Edges and the ways to write them

An edge with a given label can be written in several ways: the only way on from a node needs no
label, and `default` means different things at different nodes. Nodes and edges that fit together
(`Fits`) and whose edges only lead upwards by some rank form a graph, however the edges are written
(`Fits.wellFormed`), and in that graph each edge leads from its source to its target
(`Fits.exists_slot?`).
-/

set_option autoImplicit false

namespace DecisionFlow

/-- The label is one of a node that branches. -/
def EdgeLabel.branches : EdgeLabel → Bool
  | .next => false
  | .thenBranch | .elseBranch => true

/-- A written edge has the ends of the edge and a label that means the one of the edge. -/
structure Edge.IsWritten (edge : Edge) (document : EdgeDocument) : Prop where
  source : document.source = edge.source
  target : document.target = edge.target
  label : EdgeLabel.Means edge.label.branches document.label edge.label

theorem NodeKind.isBranching_eq_of_required {callee : Type} {kind : NodeKind callee}
    {label : EdgeLabel} (required : label ∈ kind.requiredLabels) :
    kind.isBranching = label.branches := by
  cases kind <;> cases label <;> simp_all [requiredLabels, isBranching, EdgeLabel.branches]

theorem NodeKind.isTerminal_eq_false_of_required {callee : Type} {kind : NodeKind callee}
    {label : EdgeLabel} (required : label ∈ kind.requiredLabels) : kind.isTerminal = false := by
  cases kind with
  | output => cases required
  | _ => rfl

namespace Graph

open Relation

/-- Every edge is one that its source needs, none is there twice, and none is missing. -/
structure Fits (nodes : List (Node Graph)) (edges : List Edge) : Prop where
  needed : ∀ edge ∈ edges, ∃ node ∈ nodes, node.id = edge.source ∧
    edge.label ∈ node.kind.requiredLabels
  target : ∀ edge ∈ edges, edge.target ∈ ids nodes
  apart : (edges.map fun edge => (edge.source, edge.label)).Nodup
  complete : ∀ node ∈ nodes, ∀ label ∈ node.kind.requiredLabels,
    ∃ edge ∈ edges, edge.source = node.id ∧ edge.label = label

variable {nodes others : List (Node Graph)} {edges further : List Edge}
  {documents : List EdgeDocument}

namespace Fits

/-- The order of declaration does not matter. -/
theorem perm (fits : Fits nodes edges) (sameNodes : others.Perm nodes)
    (sameEdges : further.Perm edges) : Fits others further where
  needed := by
    intro edge member
    obtain ⟨node, isNode, needs⟩ := fits.needed edge (sameEdges.mem_iff.1 member)
    exact ⟨node, sameNodes.mem_iff.2 isNode, needs⟩
  target := by
    intro edge member
    exact (sameNodes.map _).mem_iff.2 (fits.target edge (sameEdges.mem_iff.1 member))
  apart := (sameEdges.map _).nodup_iff.2 fits.apart
  complete := by
    intro node member label required
    obtain ⟨edge, isEdge, leaves⟩ :=
      fits.complete node (sameNodes.mem_iff.1 member) label required
    exact ⟨edge, sameEdges.mem_iff.2 isEdge, leaves⟩

/-- What a written edge is at its source. -/
theorem means (fits : Fits nodes edges) (distinct : (ids nodes).Nodup) {edge : Edge}
    {document : EdgeDocument} (member : edge ∈ edges) (written : edge.IsWritten document)
    {node : Node Graph} (isNode : node ∈ nodes) (named : node.id = document.source) :
    edge.label ∈ node.kind.requiredLabels ∧
      EdgeLabel.Means node.kind.isBranching document.label edge.label := by
  obtain ⟨source, isSource, sourceNamed, required⟩ := fits.needed edge member
  obtain rfl := eq_of_id_eq distinct isNode isSource
    (named.trans (written.source.trans sourceNamed.symm))
  exact ⟨required, NodeKind.isBranching_eq_of_required required ▸ written.label⟩

/-- No two written edges leave a node in the same way. -/
theorem pairwise_apart (fits : Fits nodes edges) (distinct : (ids nodes).Nodup)
    (written : List.Forall₂ Edge.IsWritten edges documents) :
    documents.Pairwise fun document other => ∀ node ∈ nodes, node.id = document.source →
      node.id = other.source → ∀ label,
        EdgeLabel.Means node.kind.isBranching document.label label →
          ¬ EdgeLabel.Means node.kind.isBranching other.label label := by
  refine pairwise_of_inStep written (List.pairwise_map.1 fits.apart) ?_
  intro edge isEdge edge' isEdge' different document other here there node isNode named named'
    label means means'
  have sameSource : edge.source = edge'.source := by
    rw [← here.source, ← there.source, ← named, ← named']
  have isLabel := (fits.means distinct isEdge here isNode named).2.unique means
  have isLabel' := (fits.means distinct isEdge' there isNode named').2.unique means'
  exact different (by rw [sameSource, isLabel, isLabel'])

/-- Nodes and edges that fit together are well formed if there is one start, if references name
nodes, and if edges lead upwards. -/
theorem wellFormed (fits : Fits nodes edges)
    (written : List.Forall₂ Edge.IsWritten edges documents) (distinct : (ids nodes).Nodup)
    (oneStart : nodes.countP (·.kind.isStart) = 1)
    (references : ∀ node ∈ nodes, ∀ expression ∈ node.kind.expressions, ∀ reference,
      expression.Refers reference → Expression.referencedNode reference ∈ nodes.map (·.id))
    (rank : String → Nat) (upwards : ∀ edge ∈ edges, rank edge.source < rank edge.target) :
    WellFormed nodes documents where
  distinct := distinct
  oneStart := oneStart
  references := references
  ends := by
    intro document member
    obtain ⟨edge, isEdge, here⟩ := exists_left_of_mem written member
    obtain ⟨node, isNode, named, -⟩ := fits.needed edge isEdge
    refine ⟨?_, here.target ▸ fits.target edge isEdge⟩
    exact List.mem_map.2 ⟨node, isNode, named.trans here.source.symm⟩
  notTerminal := by
    intro document member node isNode named
    obtain ⟨edge, isEdge, here⟩ := exists_left_of_mem written member
    exact NodeKind.isTerminal_eq_false_of_required (fits.means distinct isEdge here isNode named).1
  labelled := by
    intro document member node isNode named
    obtain ⟨edge, isEdge, here⟩ := exists_left_of_mem written member
    exact ⟨edge.label, (fits.means distinct isEdge here isNode named).2⟩
  apart := fits.pairwise_apart distinct written
  complete := by
    intro node isNode label required
    obtain ⟨edge, isEdge, leaves, rfl⟩ := fits.complete node isNode label required
    obtain ⟨document, member, here⟩ := exists_right_of_mem written isEdge
    have named : node.id = document.source := (here.source.trans leaves).symm
    exact ⟨document, member, named.symm, (fits.means distinct isEdge here isNode named).2⟩
  acyclic := by
    intro name cycle
    have risen : TransGen (· < ·) (rank name) (rank name) := by
      refine cycle.lift rank ?_
      rintro _ _ ⟨document, member, rfl, rfl⟩
      obtain ⟨edge, isEdge, here⟩ := exists_left_of_mem written member
      rw [here.source, here.target]
      exact upwards edge isEdge
    rw [transGen_eq_self] at risen
    exact lt_irrefl _ risen

/-- In the graph that is assembled, every edge leads from its source to its target. -/
theorem exists_slot? (fits : Fits nodes edges)
    (written : List.Forall₂ Edge.IsWritten edges documents) {id version : String} {graph : Graph}
    (assembled : assemble id version nodes documents = .ok graph) {edge : Edge}
    (member : edge ∈ edges) {position : Nat}
    (here : (ids graph.nodes)[position]? = some edge.source) :
    ∃ next, slot? graph.successors position edge.label = some next ∧
      (ids graph.nodes)[next]? = some edge.target := by
  obtain ⟨distinct, start, successors, resolved, -, connected, -, -, rfl⟩ :=
    assemble_eq_ok_iff.1 assembled
  obtain ⟨document, isDocument, isWritten⟩ := exists_right_of_mem written member
  obtain ⟨placed, isPlaced⟩ := exists_places_of_mem distinct connected isDocument
  obtain ⟨node, atSource, named, -, isResolved⟩ := isPlaced.source
  have isNode := List.mem_of_getElem? atSource
  have sameSource : placed.source = position := by
    refine place_unique distinct ?_ here
    rw [getElem?_ids, atSource, Option.map_some, named, isWritten.source]
  have sameLabel : placed.label = edge.label :=
    (EdgeLabel.resolve?_eq_some_iff.1 isResolved).unique
      (fits.means distinct member isWritten isNode named).2
  refine ⟨placed.target, ?_, isWritten.target ▸ isPlaced.target⟩
  rw [← sameSource, ← sameLabel]
  exact (slot?_eq_some_iff distinct connected).2 ⟨document, isDocument, isPlaced⟩

end Fits

end Graph

end DecisionFlow
