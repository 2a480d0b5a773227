import DecisionFlow.Proofs.Compilation.Kind
import DecisionFlow.Proofs.Graph.Assembled
import DecisionFlow.Proofs.Lists

/-!
# Graphs written and assembled again

The edges of a graph are written with the labels that they were resolved to, and its nodes are read
again up to the JSON forms of literals. What makes nodes and edges form a graph does not depend on
either: a well-formed graph is well formed when it is written, and when its nodes are read again,
whatever graphs their calls hold then.
-/

set_option autoImplicit false

namespace DecisionFlow

/-! ## Edges -/

namespace EdgeLabel

variable {branching : Bool} {written : Option String} {label : EdgeLabel}

/-- A label that an edge was resolved to is written such that it is resolved to the same. -/
theorem Means.edgeDocument (means : Means branching written label) (source target : String) :
    Means branching (Graph.edgeDocument ⟨source, label, target⟩).label label := by
  cases means with
  | thenBranch => exact .thenBranch
  | elseBranch | otherwise => exact .elseBranch
  | absent | next | default => exact .absent

end EdgeLabel

namespace Graph

open Relation

/-- An edge as it is written once its label is resolved. -/
def relabelled (nodes : List (Node Graph)) (edge : EdgeDocument) : EdgeDocument :=
  match place? nodes (indexOf nodes) edge with
  | some placed => edgeDocument (resolvedEdge edge placed)
  | none => edge

variable {nodes others : List (Node Graph)} {edges : List EdgeDocument}

@[simp]
theorem source_relabelled (nodes : List (Node Graph)) (edge : EdgeDocument) :
    (relabelled nodes edge).source = edge.source := by
  unfold relabelled
  split <;> rfl

@[simp]
theorem target_relabelled (nodes : List (Node Graph)) (edge : EdgeDocument) :
    (relabelled nodes edge).target = edge.target := by
  unfold relabelled
  split <;> rfl

/-- Resolving a label does not change what it means. -/
theorem means_relabelled_iff (distinct : (ids nodes).Nodup) {edge : EdgeDocument}
    (placeable : ∃ placed, Places nodes edge placed) {node : Node Graph} (member : node ∈ nodes)
    (named : node.id = edge.source) {label : EdgeLabel} :
    EdgeLabel.Means node.kind.isBranching (relabelled nodes edge).label label ↔
      EdgeLabel.Means node.kind.isBranching edge.label label := by
  obtain ⟨placed, isPlaced⟩ := placeable
  obtain ⟨source, atSource, sourceNamed, -, resolved⟩ := isPlaced.source
  obtain rfl : node = source :=
    eq_of_id_eq distinct member (List.mem_of_getElem? atSource) (named.trans sourceNamed.symm)
  have means := EdgeLabel.resolve?_eq_some_iff.1 resolved
  have found : place? nodes (indexOf nodes) edge = some placed :=
    place?_eq_some_iff.2 ((placeEdge_indexOf_eq_ok_iff distinct).2 isPlaced)
  have again := means.edgeDocument edge.source edge.target
  simp only [relabelled, found]
  constructor
  · intro isLabel
    exact again.unique isLabel ▸ means
  · intro isLabel
    exact means.unique isLabel ▸ again

/-- The edges that nodes are connected by are written with resolved labels. -/
theorem map_edgeDocument_of_connect {successors after : List Successors} {resolved : List Edge}
    (connected : connect nodes (indexOf nodes) successors edges = .ok (after, resolved)) :
    resolved.map edgeDocument = edges.map (relabelled nodes) := by
  refine (map_eq_of_inStep (inStep_of_connect connected) ?_).symm
  rintro edge _ ⟨placed, isPlaced, rfl⟩
  rw [relabelled, place?_eq_some_iff.2 isPlaced]

/-- **A graph is well formed as it is written.** -/
theorem WellFormed.of_written {id version : String} {graph : Graph}
    (assembled : assemble id version nodes edges = .ok graph) :
    WellFormed graph.nodes (graph.edges.map edgeDocument) := by
  have wellFormed := WellFormed.of_assemble assembled
  obtain ⟨distinct, start, successors, resolved, -, connected, -, -, rfl⟩ :=
    assemble_eq_ok_iff.1 assembled
  have placeable : ∀ edge ∈ edges, ∃ placed, Places nodes edge placed :=
    fun edge => exists_places_of_mem distinct connected
  simp only [map_edgeDocument_of_connect connected]
  refine ⟨?_, wellFormed.references⟩
  constructor
  case distinct => exact distinct
  case oneStart => exact wellFormed.oneStart
  case ends =>
    rw [List.forall_mem_map]
    intro edge member
    simpa using wellFormed.ends edge member
  case notTerminal =>
    rw [List.forall_mem_map]
    intro edge member node isNode named
    exact wellFormed.notTerminal edge member node isNode (by simpa using named)
  case labelled =>
    rw [List.forall_mem_map]
    intro edge member node isNode named
    rw [source_relabelled] at named
    obtain ⟨label, means⟩ := wellFormed.labelled edge member node isNode named
    exact ⟨label, (means_relabelled_iff distinct (placeable edge member) isNode named).2 means⟩
  case apart =>
    refine List.pairwise_map.2 (wellFormed.apart.imp_of_mem ?_)
    intro edge other member otherMember apart node isNode named otherNamed label means otherMeans
    rw [source_relabelled] at named otherNamed
    rw [means_relabelled_iff distinct (placeable edge member) isNode named] at means
    rw [means_relabelled_iff distinct (placeable other otherMember) isNode otherNamed] at otherMeans
    exact apart node isNode named otherNamed label means otherMeans
  case complete =>
    intro node isNode label required
    obtain ⟨edge, member, leaves, means⟩ := wellFormed.complete node isNode label required
    refine ⟨_, List.mem_map_of_mem member, by simpa using leaves, ?_⟩
    exact (means_relabelled_iff distinct (placeable edge member) isNode leaves.symm).2 means
  case acyclic =>
    intro name cycle
    refine wellFormed.acyclic name (cycle.lift (fun node => node) ?_)
    rintro _ _ ⟨_, isEdge, rfl, rfl⟩
    obtain ⟨edge, member, rfl⟩ := List.mem_map.1 isEdge
    exact ⟨edge, member, by simp, by simp⟩

end Graph

/-! ## Nodes -/

namespace NodeKind

variable {callee : Type}

/-- What a node is read again as, it can be left in the same ways. -/
theorem ways_eq_of_reread {other : Type} {kind : NodeKind callee} {again : NodeKind other}
    (same : again.unresolved = kind.unresolved.reread) :
    again.isStart = kind.isStart ∧ again.isTerminal = kind.isTerminal ∧
      again.isBranching = kind.isBranching ∧ again.requiredLabels = kind.requiredLabels := by
  cases kind <;> cases again <;> first | exact ⟨rfl, rfl, rfl, rfl⟩ | cases same

@[simp]
theorem expressions_unresolved (kind : NodeKind callee) :
    kind.unresolved.expressions = kind.expressions := by
  cases kind <;> rfl

theorem named_unresolved_iff {kind : NodeKind callee} : kind.unresolved.Named ↔ kind.Named := by
  rw [Named, Named, expressions_unresolved]

/-- Reading a node again yields no expressions but those of the node. -/
theorem exists_of_mem_expressions_reread {kind : NodeKind callee} {expression : Expression}
    (member : expression ∈ kind.reread.expressions) :
    ∃ original ∈ kind.expressions, expression = original.reread := by
  cases kind with
  | start => cases member
  | input field => cases member
  | conditional predicate => exact ⟨_, List.mem_singleton_self _, List.mem_singleton.1 member⟩
  | arithmetic original rounding =>
      exact ⟨_, List.mem_singleton_self _, List.mem_singleton.1 member⟩
  | stringTransform transform source =>
      exact ⟨_, List.mem_singleton_self _, List.mem_singleton.1 member⟩
  | tableLookup lookup =>
      obtain ⟨entry, isEntry, rfl⟩ := List.mem_map.1 member
      obtain ⟨original, isOriginal, rfl⟩ := Expression.mem_of_mem_rereadAll isEntry
      exact ⟨_, List.mem_map_of_mem isOriginal, rfl⟩
  | subflowCall call =>
      obtain ⟨entry, isEntry, rfl⟩ := List.mem_map.1 member
      obtain ⟨original, isOriginal, rfl⟩ := Expression.mem_of_mem_rereadAll isEntry
      exact ⟨_, List.mem_map_of_mem isOriginal, rfl⟩
  | output spec =>
      simp only [reread, expressions, List.mem_append, List.mem_singleton, Option.mem_toList,
        Option.map_eq_some_iff, List.mem_map] at member ⊢
      rcases member with (isOutput | ⟨message, isMessage, same⟩) | ⟨entry, isEntry, rfl⟩
      · exact ⟨_, .inl (.inl rfl), isOutput⟩
      · exact ⟨message, .inl (.inr isMessage), same.symm⟩
      · obtain ⟨original, isOriginal, rfl⟩ := Expression.mem_of_mem_rereadAll isEntry
        exact ⟨_, .inr ⟨original, isOriginal, rfl⟩, rfl⟩

end NodeKind

/-- A node as it is read from what another one was written as, with any callee. -/
structure Node.Rereads (node again : Node Graph) : Prop where
  id_eq : again.id = node.id
  kind_eq : again.kind.unresolved = node.kind.unresolved.reread

namespace Node.Rereads

variable {node again : Node Graph}

theorem isStart_eq (rereads : node.Rereads again) : again.kind.isStart = node.kind.isStart :=
  (NodeKind.ways_eq_of_reread rereads.kind_eq).1

theorem isTerminal_eq (rereads : node.Rereads again) :
    again.kind.isTerminal = node.kind.isTerminal :=
  (NodeKind.ways_eq_of_reread rereads.kind_eq).2.1

theorem isBranching_eq (rereads : node.Rereads again) :
    again.kind.isBranching = node.kind.isBranching :=
  (NodeKind.ways_eq_of_reread rereads.kind_eq).2.2.1

theorem requiredLabels_eq (rereads : node.Rereads again) :
    again.kind.requiredLabels = node.kind.requiredLabels :=
  (NodeKind.ways_eq_of_reread rereads.kind_eq).2.2.2

/-- What the node refers to again, it referred to before. -/
theorem exists_refers (rereads : node.Rereads again) {expression : Expression}
    (member : expression ∈ again.kind.expressions) {reference : String}
    (refers : expression.Refers reference) :
    ∃ original ∈ node.kind.expressions, ∃ referred, original.Refers referred ∧
      Expression.referencedNode referred = Expression.referencedNode reference := by
  rw [← NodeKind.expressions_unresolved, rereads.kind_eq] at member
  obtain ⟨original, isOriginal, rfl⟩ := NodeKind.exists_of_mem_expressions_reread member
  rw [NodeKind.expressions_unresolved] at isOriginal
  have named := Expression.mem_nodes_iff.2 ⟨reference, refers, rfl⟩
  rw [Expression.nodes_reread] at named
  exact ⟨original, isOriginal, Expression.mem_nodes_iff.1 named⟩

end Node.Rereads

namespace Graph

variable {nodes again : List (Node Graph)} {edges : List EdgeDocument}

theorem ids_eq_of_rereads (rereads : List.Forall₂ Node.Rereads nodes again) :
    again.map (·.id) = nodes.map (·.id) :=
  (map_eq_of_inStep rereads fun _ _ same => same.id_eq.symm).symm

theorem countP_isStart_of_rereads (rereads : List.Forall₂ Node.Rereads nodes again) :
    again.countP (·.kind.isStart) = nodes.countP (·.kind.isStart) := by
  induction rereads with
  | nil => rfl
  | cons first _ ih => simp [List.countP_cons, first.isStart_eq, ih]

/-- Nodes that are read again are as well connected as before. -/
theorem WellConnected.rereads (wellConnected : WellConnected nodes edges)
    (rereads : List.Forall₂ Node.Rereads nodes again) : WellConnected again edges := by
  have sameIds := ids_eq_of_rereads rereads
  constructor
  case distinct => exact sameIds ▸ wellConnected.distinct
  case oneStart => exact (countP_isStart_of_rereads rereads).trans wellConnected.oneStart
  case acyclic => exact wellConnected.acyclic
  case ends =>
    intro edge member
    rw [sameIds]
    exact wellConnected.ends edge member
  case notTerminal =>
    intro edge member node isNode named
    obtain ⟨original, isOriginal, same⟩ := exists_left_of_mem rereads isNode
    rw [same.isTerminal_eq]
    exact wellConnected.notTerminal edge member original isOriginal (same.id_eq ▸ named)
  case labelled =>
    intro edge member node isNode named
    obtain ⟨original, isOriginal, same⟩ := exists_left_of_mem rereads isNode
    rw [same.isBranching_eq]
    exact wellConnected.labelled edge member original isOriginal (same.id_eq ▸ named)
  case apart =>
    apply wellConnected.apart.imp
    intro edge other apart node isNode named otherNamed
    obtain ⟨original, isOriginal, same⟩ := exists_left_of_mem rereads isNode
    rw [same.isBranching_eq]
    exact apart original isOriginal (same.id_eq ▸ named) (same.id_eq ▸ otherNamed)
  case complete =>
    intro node isNode label required
    obtain ⟨original, isOriginal, same⟩ := exists_left_of_mem rereads isNode
    rw [same.id_eq, same.isBranching_eq]
    exact wellConnected.complete original isOriginal label (same.requiredLabels_eq ▸ required)

/-- **Nodes that are read again are as well formed as before.** -/
theorem WellFormed.rereads (wellFormed : WellFormed nodes edges)
    (rereads : List.Forall₂ Node.Rereads nodes again) : WellFormed again edges := by
  refine ⟨wellFormed.toWellConnected.rereads rereads, ?_⟩
  intro node isNode expression member reference refers
  obtain ⟨original, isOriginal, same⟩ := exists_left_of_mem rereads isNode
  obtain ⟨expression', isExpression, referred, refers', sameNode⟩ :=
    same.exists_refers member refers
  rw [ids_eq_of_rereads rereads, ← sameNode]
  exact wellFormed.references original isOriginal expression' isExpression referred refers'

end Graph

end DecisionFlow
