import DecisionFlow.Proofs.Graph.Assembly
import DecisionFlow.Proofs.Lists

/-!
# Which nodes and edges form a graph

A list of nodes and a list of edges as written are well formed if the nine conditions of
`WellFormed` hold, which speak of ids, labels and paths only. Assembling succeeds for exactly these
lists (`assemble_isOk_iff_wellFormed`).

The conditions on edges are the conditions under which each edge can be placed and finds its slot
free. After that a slot is filled exactly if some edge says so, which turns the remaining checks,
made on slots and positions, into conditions on edges and ids.
-/

set_option autoImplicit false

namespace DecisionFlow

/-- What a written label means at a node that branches, or at one that does not. -/
inductive EdgeLabel.Means : Bool → Option String → EdgeLabel → Prop where
  | thenBranch : Means true (some "then") .thenBranch
  | elseBranch : Means true (some "else") .elseBranch
  | otherwise : Means true (some "default") .elseBranch
  | absent : Means false none .next
  | next : Means false (some "next") .next
  | default : Means false (some "default") .next

theorem EdgeLabel.resolve?_eq_some_iff {written : Option String} {branching : Bool}
    {label : EdgeLabel} :
    EdgeLabel.resolve? written branching = some label ↔ Means branching written label := by
  constructor
  · intro resolved
    unfold EdgeLabel.resolve? at resolved
    split at resolved <;> cases resolved <;> constructor
  · rintro ⟨⟩ <;> rfl

theorem EdgeLabel.Means.unique {branching : Bool} {written : Option String}
    {label other : EdgeLabel} (here : Means branching written label)
    (there : Means branching written other) : label = other := by
  rw [← resolve?_eq_some_iff] at here there
  exact Option.some.inj (here.symm.trans there)

/-- An expression reads the value of a node or a further column of it. -/
inductive Expression.Refers : Expression → String → Prop where
  | node (reference : String) : Refers (.node reference) reference
  | left {operator : BinaryOperator} {left right : Expression} {reference : String} :
      Refers left reference → Refers (.binary operator left right) reference
  | right {operator : BinaryOperator} {left right : Expression} {reference : String} :
      Refers right reference → Refers (.binary operator left right) reference
  | not {operand : Expression} {reference : String} :
      Refers operand reference → Refers (.not operand) reference

theorem Expression.mem_nodes_iff {expression : Expression} {name : String} :
    name ∈ expression.nodes ↔
      ∃ reference, expression.Refers reference ∧ referencedNode reference = name := by
  induction expression with
  | binary operator left right ihLeft ihRight =>
      rw [nodes, List.mem_append, ihLeft, ihRight]
      constructor
      · rintro (⟨reference, refers, rfl⟩ | ⟨reference, refers, rfl⟩)
        · exact ⟨reference, .left refers, rfl⟩
        · exact ⟨reference, .right refers, rfl⟩
      · rintro ⟨reference, refers, rfl⟩
        cases refers with
        | left refers => exact .inl ⟨reference, refers, rfl⟩
        | right refers => exact .inr ⟨reference, refers, rfl⟩
  | not operand ih =>
      rw [nodes, ih]
      constructor
      · rintro ⟨reference, refers, rfl⟩
        exact ⟨reference, .not refers, rfl⟩
      · rintro ⟨reference, refers, rfl⟩
        cases refers with
        | not refers => exact ⟨reference, refers, rfl⟩
  | literal value =>
      constructor
      · intro member
        simp [nodes] at member
      · rintro ⟨reference, ⟨⟩, -⟩
  | field name =>
      constructor
      · intro member
        simp [nodes] at member
      · rintro ⟨reference, ⟨⟩, -⟩
  | node reference =>
      constructor
      · intro member
        exact ⟨reference, .node reference, by simpa [nodes, eq_comm] using member⟩
      · rintro ⟨_, ⟨⟩, rfl⟩
        simp [nodes]

namespace Graph

open Relation

/-- An edge leads from one node id to another. -/
def Links (edges : List EdgeDocument) (source target : String) : Prop :=
  ∃ edge ∈ edges, edge.source = source ∧ edge.target = target

/-- What the nodes and the written edges of a graph have to satisfy, references apart. -/
structure WellConnected (nodes : List (Node Graph)) (edges : List EdgeDocument) : Prop where
  distinct : (nodes.map (·.id)).Nodup
  oneStart : nodes.countP (·.kind.isStart) = 1
  /-- Edges connect nodes of the graph. -/
  ends : ∀ edge ∈ edges, edge.source ∈ nodes.map (·.id) ∧ edge.target ∈ nodes.map (·.id)
  notTerminal : ∀ edge ∈ edges, ∀ node ∈ nodes, node.id = edge.source →
    node.kind.isTerminal = false
  labelled : ∀ edge ∈ edges, ∀ node ∈ nodes, node.id = edge.source →
    ∃ label, EdgeLabel.Means node.kind.isBranching edge.label label
  /-- No two edges leave a node in the same way. -/
  apart : edges.Pairwise fun edge other => ∀ node ∈ nodes, node.id = edge.source →
    node.id = other.source → ∀ label, EdgeLabel.Means node.kind.isBranching edge.label label →
      ¬ EdgeLabel.Means node.kind.isBranching other.label label
  /-- Every way on from a node is there. -/
  complete : ∀ node ∈ nodes, ∀ label ∈ node.kind.requiredLabels,
    ∃ edge ∈ edges, edge.source = node.id ∧
      EdgeLabel.Means node.kind.isBranching edge.label label
  acyclic : ∀ name, ¬ TransGen (Links edges) name name

/-- What the nodes and the written edges of a graph have to satisfy. -/
structure WellFormed (nodes : List (Node Graph)) (edges : List EdgeDocument) : Prop
    extends WellConnected nodes edges where
  /-- Every node reference names a node before its first point. -/
  references : ∀ node ∈ nodes, ∀ expression ∈ node.kind.expressions, ∀ reference,
    expression.Refers reference → Expression.referencedNode reference ∈ nodes.map (·.id)

variable {nodes : List (Node Graph)} {edges : List EdgeDocument}

/-! ## Placing edges -/

/-- A node is known by its id. -/
theorem eq_of_id_eq (distinct : (ids nodes).Nodup) {node other : Node Graph}
    (member : node ∈ nodes) (otherMember : other ∈ nodes) (same : node.id = other.id) :
    node = other :=
  List.inj_on_of_nodup_map distinct member otherMember same

/-- An edge is placed in one way only. -/
theorem Places.unique (distinct : (ids nodes).Nodup) {edge : EdgeDocument}
    {placed other : PlacedEdge} (here : Places nodes edge placed)
    (there : Places nodes edge other) : placed = other := by
  rw [← placeEdge_indexOf_eq_ok_iff distinct] at here there
  exact Except.ok.inj (here.symm.trans there)

/-- An edge can be placed exactly if its ends are nodes and its label fits its source. -/
theorem exists_places_iff (distinct : (ids nodes).Nodup) {edge : EdgeDocument} :
    (∃ placed, Places nodes edge placed) ↔
      (edge.source ∈ ids nodes ∧ edge.target ∈ ids nodes) ∧
        (∀ node ∈ nodes, node.id = edge.source → node.kind.isTerminal = false) ∧
          ∀ node ∈ nodes, node.id = edge.source →
            ∃ label, EdgeLabel.Means node.kind.isBranching edge.label label := by
  constructor
  · rintro ⟨placed, ⟨node, atSource, named, notTerminal, resolved⟩, target⟩
    have member := List.mem_of_getElem? atSource
    refine ⟨⟨List.mem_map.2 ⟨node, member, named⟩, List.mem_of_getElem? target⟩, ?_, ?_⟩
    all_goals intro other otherMember same
    all_goals obtain rfl := eq_of_id_eq distinct member otherMember (named.trans same.symm)
    · exact notTerminal
    · exact ⟨placed.label, EdgeLabel.resolve?_eq_some_iff.1 resolved⟩
  · rintro ⟨⟨source, target⟩, notTerminal, labelled⟩
    obtain ⟨node, member, named⟩ := List.mem_map.1 source
    obtain ⟨sourceAt, atSource⟩ := List.mem_iff_getElem?.1 member
    obtain ⟨targetAt, atTarget⟩ := List.mem_iff_getElem?.1 target
    obtain ⟨label, means⟩ := labelled node member named
    exact ⟨⟨sourceAt, label, targetAt⟩, ⟨node, atSource, named, notTerminal node member named,
      EdgeLabel.resolve?_eq_some_iff.2 means⟩, atTarget⟩

/-- Edges can be connected exactly if each can be placed and no two need the same slot. -/
theorem connect_isOk_iff (distinct : (ids nodes).Nodup) :
    (∃ result, connect nodes (indexOf nodes) (nodes.map fun _ => Successors.empty) edges =
        .ok result) ↔
      (∀ edge ∈ edges, ∃ placed, Places nodes edge placed) ∧
        edges.Pairwise fun edge other => ∀ placed, Places nodes edge placed →
          ∀ placed', Places nodes other placed' → ¬ Collide placed placed' := by
  simp only [Prod.exists, connect_eq_ok_iff (List.length_map _),
    placeEdge_indexOf_eq_ok_iff distinct]
  constructor
  · rintro ⟨_, _, placeable, -, apart, -, -⟩
    refine ⟨placeable, ?_⟩
    simpa only [List.pairwise_filterMap, place?_eq_some_iff,
      placeEdge_indexOf_eq_ok_iff distinct] using apart
  · rintro ⟨placeable, apart⟩
    refine ⟨_, _, placeable, fun placed _ => slot?_empty nodes placed.source placed.label, ?_, rfl,
      rfl⟩
    simpa only [List.pairwise_filterMap, place?_eq_some_iff,
      placeEdge_indexOf_eq_ok_iff distinct] using apart

/-- Two edges need the same slot exactly if they leave the same node in the same way. -/
theorem not_collide_iff (distinct : (ids nodes).Nodup) {edge other : EdgeDocument}
    (edgePlaceable : ∃ placed, Places nodes edge placed)
    (otherPlaceable : ∃ placed, Places nodes other placed) :
    (∀ placed, Places nodes edge placed → ∀ placed', Places nodes other placed' →
        ¬ Collide placed placed') ↔
      ∀ node ∈ nodes, node.id = edge.source → node.id = other.source → ∀ label,
        EdgeLabel.Means node.kind.isBranching edge.label label →
          ¬ EdgeLabel.Means node.kind.isBranching other.label label := by
  obtain ⟨placed, isPlaced⟩ := edgePlaceable
  obtain ⟨placed', isPlaced'⟩ := otherPlaceable
  obtain ⟨node, atSource, named, -, resolved⟩ := isPlaced.source
  obtain ⟨node', atSource', named', -, resolved'⟩ := isPlaced'.source
  have member := List.mem_of_getElem? atSource
  have member' := List.mem_of_getElem? atSource'
  rw [EdgeLabel.resolve?_eq_some_iff] at resolved resolved'
  constructor
  · intro apart known knownMember knownNamed knownNamed' label means means'
    obtain rfl := eq_of_id_eq distinct knownMember member (knownNamed.trans named.symm)
    obtain rfl := eq_of_id_eq distinct knownMember member' (knownNamed'.trans named'.symm)
    have sameSource : placed.source = placed'.source :=
      place_unique distinct (by rw [getElem?_ids, atSource]; rfl)
        (by rw [getElem?_ids, atSource']; rfl)
    rw [← EdgeLabel.resolve?_eq_some_iff] at means means' resolved resolved'
    refine apart placed isPlaced placed' isPlaced' ⟨sameSource, ?_⟩
    exact Option.some.inj (((resolved.symm.trans means).trans means'.symm).trans resolved')
  · intro apart first isFirst second isSecond ⟨sameSource, sameLabel⟩
    obtain rfl := isPlaced.unique distinct isFirst
    obtain rfl := isPlaced'.unique distinct isSecond
    obtain rfl : node = node' := by
      rw [sameSource] at atSource
      exact Option.some.inj (atSource.symm.trans atSource')
    exact apart node member named named' placed.label resolved (sameLabel ▸ resolved')

/-- An edge from one position to another is one with some label. -/
theorem leads_iff_exists_slot? {successors : List Successors} {position next : Nat} :
    Leads successors position next ↔ ∃ label, slot? successors position label = some next := by
  unfold Leads targets slot?
  cases successors[position]? <;> simp [Successors.mem_targets]

/-! ## Connected nodes -/

section Connected

variable {successors : List Successors} {resolved : List Edge}
  (distinct : (ids nodes).Nodup)
  (connected : connect nodes (indexOf nodes) (nodes.map fun _ => Successors.empty) edges =
    .ok (successors, resolved))
include distinct connected

theorem slot?_eq_some_iff {position target : Nat} {label : EdgeLabel} :
    slot? successors position label = some target ↔
      ∃ edge ∈ edges, Places nodes edge ⟨position, label, target⟩ := by
  rw [slot?_connect connected]
  simp only [placeEdge_indexOf_eq_ok_iff distinct]

theorem exists_places_of_mem {edge : EdgeDocument} (member : edge ∈ edges) :
    ∃ placed, Places nodes edge placed :=
  ((connect_isOk_iff distinct).1 ⟨_, connected⟩).1 edge member

/-- The slot of a node and a label is filled exactly if such an edge leaves the node. -/
theorem isSome_slot?_iff {position : Nat} {node : Node Graph} {label : EdgeLabel}
    (here : nodes[position]? = some node) :
    (slot? successors position label).isSome = true ↔
      ∃ edge ∈ edges, edge.source = node.id ∧
        EdgeLabel.Means node.kind.isBranching edge.label label := by
  simp only [Option.isSome_iff_exists, slot?_eq_some_iff distinct connected]
  constructor
  · rintro ⟨target, edge, member, ⟨source, atSource, named, -, resolved⟩, -⟩
    obtain rfl : node = source := Option.some.inj (here.symm.trans atSource)
    exact ⟨edge, member, named.symm, EdgeLabel.resolve?_eq_some_iff.1 resolved⟩
  · rintro ⟨edge, member, named, means⟩
    obtain ⟨placed, isPlaced⟩ := exists_places_of_mem distinct connected member
    obtain ⟨source, atSource, sourceNamed, -, resolved⟩ := isPlaced.source
    have samePosition : placed.source = position :=
      place_unique distinct (by rw [getElem?_ids, atSource, Option.map_some, sourceNamed])
        (by rw [getElem?_ids, here, Option.map_some, named])
    obtain rfl : node = source := by
      rw [samePosition] at atSource
      exact Option.some.inj (here.symm.trans atSource)
    have sameLabel : placed.label = label :=
      Option.some.inj (resolved.symm.trans (EdgeLabel.resolve?_eq_some_iff.2 means))
    exact ⟨placed.target, edge, member, by rwa [← samePosition, ← sameLabel]⟩

/-- The checks of the nodes succeed exactly if every way on is there and every reference names a
node. -/
theorem checkNodes_connected_iff :
    checkNodes (indexOf nodes) nodes successors = .ok () ↔
      (∀ node ∈ nodes, ∀ label ∈ node.kind.requiredLabels, ∃ edge ∈ edges,
        edge.source = node.id ∧ EdgeLabel.Means node.kind.isBranching edge.label label) ∧
      ∀ node ∈ nodes, ∀ expression ∈ node.kind.expressions, ∀ reference,
        expression.Refers reference → Expression.referencedNode reference ∈ ids nodes := by
  have count := length_of_connect connected
  rw [checkNodes_eq_ok_iff count]
  simp only [checkNode_eq_ok_iff, isSome_find?_indexOf distinct, Expression.mem_nodes_iff]
  constructor
  · intro checked
    have each : ∀ node ∈ nodes, ∃ (position : Nat) (outgoing : Successors),
        nodes[position]? = some node ∧ successors[position]? = some outgoing := by
      intro node member
      obtain ⟨position, here⟩ := List.mem_iff_getElem?.1 member
      have inside := (List.getElem?_eq_some_iff.1 here).1
      exact ⟨position, _, here, List.getElem?_eq_getElem (count ▸ inside)⟩
    constructor
    all_goals intro node member
    all_goals obtain ⟨position, outgoing, here, outgoingHere⟩ := each node member
    all_goals obtain ⟨complete, known⟩ := checked position node outgoing here outgoingHere
    · intro label required
      apply (isSome_slot?_iff distinct connected here).1
      simpa [slot?, outgoingHere] using complete label required
    · intro expression used reference refers
      exact known expression used _ ⟨reference, refers, rfl⟩
  · rintro ⟨complete, known⟩ position node outgoing here outgoingHere
    have member := List.mem_of_getElem? here
    constructor
    · intro label required
      have filled := (isSome_slot?_iff distinct connected here).2 (complete node member label required)
      simpa [slot?, outgoingHere] using filled
    · rintro expression used _ ⟨reference, refers, rfl⟩
      exact known node member expression used reference refers

/-- An edge between positions is an edge between the ids at these positions. -/
theorem leads_iff {position next : Nat} :
    Leads successors position next ↔ ∃ edge ∈ edges,
      (ids nodes)[position]? = some edge.source ∧ (ids nodes)[next]? = some edge.target := by
  simp only [leads_iff_exists_slot?, slot?_eq_some_iff distinct connected]
  constructor
  · rintro ⟨label, edge, member, ⟨node, atSource, named, -⟩, target⟩
    exact ⟨edge, member, by rw [getElem?_ids, atSource, Option.map_some, named], target⟩
  · rintro ⟨edge, member, source, target⟩
    obtain ⟨placed, isPlaced⟩ := exists_places_of_mem distinct connected member
    obtain ⟨node, atSource, named, -⟩ := isPlaced.source
    have sameSource := place_unique distinct source
      (by rw [getElem?_ids, atSource, Option.map_some, named] : (ids nodes)[placed.source]? = _)
    have sameTarget := place_unique distinct target isPlaced.target
    exact ⟨placed.label, edge, member, by rwa [sameSource, sameTarget]⟩

/-- A written edge leads between the positions of its ends. -/
theorem leads_of_links {source target : String} (linked : Links edges source target) :
    Leads successors ((ids nodes).idxOf source) ((ids nodes).idxOf target) := by
  obtain ⟨edge, member, rfl, rfl⟩ := linked
  obtain ⟨placed, isPlaced⟩ := exists_places_of_mem distinct connected member
  obtain ⟨⟨source, target⟩, -⟩ := (exists_places_iff distinct).1 ⟨placed, isPlaced⟩
  exact (leads_iff distinct connected).2 ⟨edge, member, List.getElem?_idxOf source,
    List.getElem?_idxOf target⟩

/-- The ids at two positions are linked if one position leads to the other. -/
theorem links_of_leads {position next : Nat} (leads : Leads successors position next) :
    Links edges (((ids nodes)[position]?).getD "") (((ids nodes)[next]?).getD "") := by
  obtain ⟨edge, member, source, target⟩ := (leads_iff distinct connected).1 leads
  exact ⟨edge, member, ((congrArg (·.getD "") source).trans rfl).symm,
    ((congrArg (·.getD "") target).trans rfl).symm⟩

/-- Paths between positions return exactly if paths between ids do. -/
theorem acyclic_connected_iff :
    (∀ position, ¬ TransGen (Leads successors) position position) ↔
      ∀ name, ¬ TransGen (Links edges) name name := by
  constructor
  · intro acyclic name cycle
    exact acyclic _ (cycle.lift (fun name => (ids nodes).idxOf name)
      fun _ _ linked => leads_of_links distinct connected linked)
  · intro acyclic position cycle
    exact acyclic _ (cycle.lift (fun position => ((ids nodes)[position]?).getD "")
      fun _ _ leads => links_of_leads distinct connected leads)

end Connected

/-! ## Acceptance -/

variable {id version : String}

/-- Nodes and edges that form a graph are well formed. -/
theorem WellFormed.of_assemble {graph : Graph}
    (assembled : assemble id version nodes edges = .ok graph) : WellFormed nodes edges := by
  obtain ⟨distinct, start, successors, resolved, found, connected, checked, acyclic, rfl⟩ :=
    assemble_eq_ok_iff.1 assembled
  obtain ⟨placeable, apart⟩ := (connect_isOk_iff distinct).1 ⟨_, connected⟩
  obtain ⟨complete, references⟩ := (checkNodes_connected_iff distinct connected).1 checked
  have fits := fun edge member => (exists_places_iff distinct).1 (placeable edge member)
  exact {
    distinct
    oneStart := findStart_isOk_iff.1 ⟨start, found⟩
    ends := fun edge member => (fits edge member).1
    notTerminal := fun edge member => (fits edge member).2.1
    labelled := fun edge member => (fits edge member).2.2
    apart := apart.imp_of_mem fun {edge other} member otherMember =>
      (not_collide_iff distinct (placeable edge member) (placeable other otherMember)).1
    complete
    references
    acyclic := (acyclic_connected_iff distinct connected).1 (findCycle?_eq_none_iff.1 acyclic) }

/-- Nodes are connected by edges that each can be placed and of which no two leave a node in the
same way. -/
theorem WellConnected.exists_connected (wellConnected : WellConnected nodes edges) :
    ∃ result, connect nodes (indexOf nodes) (nodes.map fun _ => Successors.empty) edges =
      .ok result := by
  have distinct := wellConnected.distinct
  have placeable : ∀ edge ∈ edges, ∃ placed, Places nodes edge placed := fun edge member =>
    (exists_places_iff distinct).2 ⟨wellConnected.ends edge member,
      wellConnected.notTerminal edge member, wellConnected.labelled edge member⟩
  exact (connect_isOk_iff distinct).2 ⟨placeable,
    wellConnected.apart.imp_of_mem fun {edge other} member otherMember =>
      (not_collide_iff distinct (placeable edge member) (placeable other otherMember)).2⟩

/-- Well-formed nodes and edges form a graph. -/
theorem WellFormed.exists_assemble (wellFormed : WellFormed nodes edges) (id version : String) :
    ∃ graph, assemble id version nodes edges = .ok graph := by
  have distinct := wellFormed.distinct
  obtain ⟨start, found⟩ := findStart_isOk_iff.2 wellFormed.oneStart
  obtain ⟨⟨successors, resolved⟩, connected⟩ := wellFormed.exists_connected
  have checked := (checkNodes_connected_iff distinct connected).2
    ⟨wellFormed.complete, wellFormed.references⟩
  have acyclic := (acyclic_connected_iff distinct connected).2 wellFormed.acyclic
  exact ⟨_, assemble_eq_ok_iff.2 ⟨distinct, start, successors, resolved, found, connected, checked,
    findCycle?_eq_none_iff.2 acyclic, rfl⟩⟩

/-- **Nodes and edges form a graph exactly if they are well formed.** -/
theorem assemble_isOk_iff_wellFormed (id version : String) (nodes : List (Node Graph))
    (edges : List EdgeDocument) :
    (∃ graph, assemble id version nodes edges = .ok graph) ↔ WellFormed nodes edges := by
  constructor
  · rintro ⟨graph, assembled⟩
    exact .of_assemble assembled
  · intro wellFormed
    exact wellFormed.exists_assemble id version

end Graph

end DecisionFlow
