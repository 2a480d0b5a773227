import DecisionFlow.Graph.Assembly
import DecisionFlow.Proofs.Graph.Cycle
import DecisionFlow.Proofs.Lists
import DecisionFlow.Proofs.Outcome

/-!
# What assembling a graph checks

Each check of `Graph.assemble` succeeds under a condition on the nodes and on the edges between
their positions. An edge as written is placed between two positions; placed edges fill slots, one
for each position and label, and a slot is never filled twice.
-/

set_option autoImplicit false

namespace DecisionFlow.Graph

variable {nodes : List (Node Graph)}

/-! ## Nodes -/

@[simp]
theorem getElem?_ids (nodes : List (Node Graph)) (position : Nat) :
    (ids nodes)[position]? = nodes[position]?.map (·.id) := by
  simp [ids]

/-- Different ids are found at their positions. -/
theorem find?_indexOf (distinct : (ids nodes).Nodup) {name : String} {position : Nat} :
    (indexOf nodes).find? name = some position ↔ (ids nodes)[position]? = some name := by
  have keys : ((ids nodes).zipIdx.map Prod.fst).Nodup := by simpa using distinct
  rw [indexOf, PositionIndex.find?_ofList keys, List.mem_zipIdx_iff_getElem?]

theorem isSome_find?_indexOf (distinct : (ids nodes).Nodup) {name : String} :
    ((indexOf nodes).find? name).isSome = true ↔ name ∈ ids nodes := by
  rw [Option.isSome_iff_exists, List.mem_iff_getElem?]
  exact exists_congr fun position => find?_indexOf distinct

/-- The start that is found is the only start node. -/
theorem findStart_eq_ok_iff {start : Nat} :
    findStart nodes = .ok start ↔
      (∃ node, nodes[start]? = some node ∧ node.kind.isStart = true) ∧
        ∀ position node, nodes[position]? = some node → node.kind.isStart = true →
          position = start := by
  obtain ⟨starts, isStarts⟩ : ∃ starts, starts = nodes.zipIdx.filter (·.1.kind.isStart) := ⟨_, rfl⟩
  have listed (entry : Node Graph × Nat) :
      entry ∈ starts ↔ nodes[entry.2]? = some entry.1 ∧ entry.1.kind.isStart = true := by
    rw [isStarts, List.mem_filter, List.mem_zipIdx_iff_getElem?]
  have distinct : (starts.map Prod.snd).Nodup := by
    have contained := (List.filter_sublist (p := (·.1.kind.isStart)) (l := nodes.zipIdx)).map Prod.snd
    rw [← isStarts, List.zipIdx_map_snd] at contained
    exact contained.nodup List.nodup_range'
  have starting : (∃ node, nodes[start]? = some node ∧ node.kind.isStart = true) ↔
      start ∈ starts.map Prod.snd := by
    simp [listed]
  have only : (∀ position node, nodes[position]? = some node → node.kind.isStart = true →
      position = start) ↔ ∀ position ∈ starts.map Prod.snd, position = start := by
    simp [listed]
  rw [starting, only, findStart, ← isStarts]
  rcases starts with _ | ⟨first, _ | ⟨second, rest⟩⟩
  · simp
  · simp [eq_comm]
  · have different : first.2 ≠ second.2 := by
      rintro same
      simp [same] at distinct
    simp only [reduceCtorEq, false_iff, not_and]
    intro _ same
    exact different ((same _ (by simp)).trans (same _ (by simp)).symm)

theorem findStart_isOk_iff :
    (∃ start, findStart nodes = .ok start) ↔ nodes.countP (·.kind.isStart) = 1 := by
  have counted : nodes.countP (·.kind.isStart) =
      (nodes.zipIdx.filter (·.1.kind.isStart)).length := by
    rw [← List.countP_eq_length_filter]
    conv_lhs => rw [← List.zipIdx_map_fst 0 nodes, List.countP_map]
    rfl
  rw [counted, findStart]
  generalize nodes.zipIdx.filter (·.1.kind.isStart) = starts
  rcases starts with _ | ⟨only, _ | ⟨second, rest⟩⟩ <;> simp

/-! ## Slots -/

/-- Where the edge with a label leads from a position. -/
def slot? (successors : List Successors) (position : Nat) (label : EdgeLabel) : Option Nat :=
  successors[position]?.bind (·.get? label)

/-- Fills the slot of a placed edge. -/
def fill (successors : List Successors) (placed : PlacedEdge) : List Successors :=
  successors.set placed.source
    ((successors[placed.source]?.getD Successors.empty).set placed.label placed.target)

/-- Two placed edges need the same slot. -/
def Collide (placed other : PlacedEdge) : Prop :=
  placed.source = other.source ∧ placed.label = other.label

theorem get?_getD (successors : List Successors) (position : Nat) (label : EdgeLabel) :
    (successors[position]?.getD Successors.empty).get? label = slot? successors position label := by
  unfold slot?
  cases successors[position]? <;> simp

@[simp]
theorem length_fill (successors : List Successors) (placed : PlacedEdge) :
    (fill successors placed).length = successors.length := by
  simp [fill]

/-- The slot that was filled holds the target of the edge. -/
theorem slot?_fill_self {successors : List Successors} {placed : PlacedEdge}
    (inside : placed.source < successors.length) :
    slot? (fill successors placed) placed.source placed.label = some placed.target := by
  simp [slot?, fill, inside]

/-- Filling a slot leaves the others as they were. -/
theorem slot?_fill_of_ne {successors : List Successors} {placed : PlacedEdge} {position : Nat}
    {label : EdgeLabel} (apart : ¬ (placed.source = position ∧ placed.label = label)) :
    slot? (fill successors placed) position label = slot? successors position label := by
  by_cases same : placed.source = position
  · subst same
    have other : label ≠ placed.label := fun equal => apart ⟨rfl, equal.symm⟩
    by_cases inside : placed.source < successors.length
    · simp [slot?, fill, inside, Successors.get?_set_of_ne other]
    · simp [slot?, fill, Nat.le_of_not_lt inside]
  · simp [slot?, fill, same]

/-- After free slots were filled, they hold the targets of the edges, and the others are as
before. -/
theorem slot?_foldl_fill {placed : List PlacedEdge} {successors : List Successors}
    (inside : ∀ edge ∈ placed, edge.source < successors.length)
    (free : ∀ edge ∈ placed, slot? successors edge.source edge.label = none)
    (apart : placed.Pairwise fun edge other => ¬ Collide edge other)
    {position target : Nat} {label : EdgeLabel} :
    slot? (placed.foldl fill successors) position label = some target ↔
      slot? successors position label = some target ∨ ⟨position, label, target⟩ ∈ placed := by
  induction placed generalizing successors with
  | nil => simp
  | cons edge rest ih =>
      obtain ⟨clear, apart⟩ := List.pairwise_cons.1 apart
      have insideRest : ∀ other ∈ rest, other.source < (fill successors edge).length := by
        simpa using fun other member => inside other (List.mem_cons_of_mem _ member)
      have freeRest : ∀ other ∈ rest,
          slot? (fill successors edge) other.source other.label = none := by
        intro other member
        rw [slot?_fill_of_ne (clear other member)]
        exact free other (List.mem_cons_of_mem _ member)
      rw [List.foldl_cons, ih insideRest freeRest apart, List.mem_cons, ← or_assoc]
      apply or_congr_left
      by_cases here : edge.source = position ∧ edge.label = label
      · obtain ⟨rfl, rfl⟩ := here
        rw [slot?_fill_self (inside edge List.mem_cons_self),
          free edge List.mem_cons_self]
        obtain ⟨source, label, reached⟩ := edge
        simp [eq_comm]
      · rw [slot?_fill_of_ne here]
        refine ⟨.inl, fun either => either.resolve_right fun equal => here ?_⟩
        exact equal ▸ ⟨rfl, rfl⟩

/-! ## Edges -/

/-- A written edge is placed between the positions of its ends, with the label that it resolves
to. -/
structure Places (nodes : List (Node Graph)) (edge : EdgeDocument) (placed : PlacedEdge) :
    Prop where
  source : ∃ node, nodes[placed.source]? = some node ∧ node.id = edge.source ∧
    node.kind.isTerminal = false ∧
    EdgeLabel.resolve? edge.label node.kind.isBranching = some placed.label
  target : (ids nodes)[placed.target]? = some edge.target

theorem placeEdge_eq_ok_iff {index : PositionIndex} {edge : EdgeDocument} {placed : PlacedEdge} :
    placeEdge nodes index edge = .ok placed ↔
      ∃ node, nodes[placed.source]? = some node ∧
        index.find? edge.source = some placed.source ∧
          index.find? edge.target = some placed.target ∧
            node.kind.isTerminal = false ∧
              EdgeLabel.resolve? edge.label node.kind.isBranching = some placed.label := by
  unfold placeEdge
  constructor
  · intro done
    split at done
    · cases done
    next source foundSource =>
      split at done
      · cases done
      next target foundTarget =>
        split at done
        · cases done
        next node atSource =>
          split at done
          · cases done
          next notTerminal =>
            split at done
            · cases done
            next label resolved =>
              obtain rfl : (⟨source, label, target⟩ : PlacedEdge) = placed := by simpa using done
              exact ⟨node, atSource, foundSource, foundTarget, by simpa using notTerminal,
                resolved⟩
  · rintro ⟨node, atSource, foundSource, foundTarget, notTerminal, resolved⟩
    simp [foundSource, foundTarget, atSource, notTerminal, resolved]

theorem placeEdge_indexOf_eq_ok_iff (distinct : (ids nodes).Nodup) {edge : EdgeDocument}
    {placed : PlacedEdge} :
    placeEdge nodes (indexOf nodes) edge = .ok placed ↔ Places nodes edge placed := by
  rw [placeEdge_eq_ok_iff]
  constructor
  · rintro ⟨node, atSource, foundSource, foundTarget, notTerminal, resolved⟩
    have named : node.id = edge.source := by
      simpa [atSource] using (find?_indexOf distinct).1 foundSource
    exact ⟨⟨node, atSource, named, notTerminal, resolved⟩, (find?_indexOf distinct).1 foundTarget⟩
  · rintro ⟨⟨node, atSource, named, notTerminal, resolved⟩, target⟩
    exact ⟨node, atSource, (find?_indexOf distinct).2 (by simp [atSource, named]),
      (find?_indexOf distinct).2 target, notTerminal, resolved⟩

/-- An edge is placed at the position of a node. -/
theorem source_lt_of_placeEdge {index : PositionIndex} {edge : EdgeDocument}
    {placed : PlacedEdge} (done : placeEdge nodes index edge = .ok placed) :
    placed.source < nodes.length := by
  obtain ⟨node, atSource, -⟩ := placeEdge_eq_ok_iff.1 done
  exact (List.getElem?_eq_some_iff.1 atSource).1

/-- The edge that is kept of a written one. -/
def resolvedEdge (edge : EdgeDocument) (placed : PlacedEdge) : Edge where
  source := edge.source
  label := placed.label
  target := edge.target

/-- Connecting one more edge: it can be placed and its slot is free. -/
theorem connect_cons_eq_ok_iff {index : PositionIndex} {edge : EdgeDocument}
    {rest : List EdgeDocument} {successors after : List Successors} {resolved : List Edge} :
    connect nodes index successors (edge :: rest) = .ok (after, resolved) ↔
      ∃ placed, placeEdge nodes index edge = .ok placed ∧
        slot? successors placed.source placed.label = none ∧
          ∃ others, connect nodes index (fill successors placed) rest = .ok (after, others) ∧
            resolved = resolvedEdge edge placed :: others := by
  simp only [connect, bind_eq_ok_iff, get?_getD]
  refine exists_congr fun placed => and_congr_right fun _ => ?_
  cases taken : slot? successors placed.source placed.label with
  | some target =>
      simp only [Option.isSome_some, ↓reduceIte, reduceCtorEq, false_and, iff_false]
      rintro ⟨⟩
  | none =>
      simp only [Option.isSome_none, Bool.false_eq_true, ↓reduceIte, true_and, bind_eq_ok_iff]
      constructor
      · rintro ⟨⟨_, others⟩, connected, ⟨⟩⟩
        exact ⟨others, connected, rfl⟩
      · rintro ⟨others, connected, rfl⟩
        exact ⟨(after, others), connected, rfl⟩

/-- The edges that are kept are in step with the written ones. -/
theorem inStep_of_connect {index : PositionIndex} {edges : List EdgeDocument}
    {successors after : List Successors} {resolved : List Edge}
    (connected : connect nodes index successors edges = .ok (after, resolved)) :
    List.Forall₂ (fun edge kept => ∃ placed, placeEdge nodes index edge = .ok placed ∧
      resolvedEdge edge placed = kept) edges resolved := by
  induction edges generalizing successors resolved with
  | nil =>
      cases connected
      exact .nil
  | cons edge rest ih =>
      obtain ⟨placed, isPlaced, -, later, connectedRest, rfl⟩ := connect_cons_eq_ok_iff.1 connected
      exact .cons ⟨placed, isPlaced, rfl⟩ (ih connectedRest)

/-- The place of an edge, if it has one. -/
def place? (nodes : List (Node Graph)) (index : PositionIndex) (edge : EdgeDocument) :
    Option PlacedEdge :=
  (placeEdge nodes index edge).toOption

theorem place?_eq_some_iff {index : PositionIndex} {edge : EdgeDocument} {placed : PlacedEdge} :
    place? nodes index edge = some placed ↔ placeEdge nodes index edge = .ok placed := by
  unfold place?
  cases placeEdge nodes index edge <;> simp [Except.toOption]

/-- Connecting succeeds exactly if every edge can be placed and finds its slot free. -/
theorem connect_eq_ok_iff {index : PositionIndex} {edges : List EdgeDocument}
    {successors after : List Successors} {resolved : List Edge}
    (count : successors.length = nodes.length) :
    connect nodes index successors edges = .ok (after, resolved) ↔
      (∀ edge ∈ edges, ∃ placed, placeEdge nodes index edge = .ok placed) ∧
        (∀ placed ∈ edges.filterMap (place? nodes index),
          slot? successors placed.source placed.label = none) ∧
        (edges.filterMap (place? nodes index)).Pairwise (fun placed other =>
          ¬ Collide placed other) ∧
        after = (edges.filterMap (place? nodes index)).foldl fill successors ∧
        resolved = List.zipWith resolvedEdge edges (edges.filterMap (place? nodes index)) := by
  induction edges generalizing successors after resolved with
  | nil => simp [connect, eq_comm]
  | cons edge rest ih =>
      rw [connect_cons_eq_ok_iff, List.forall_mem_cons]
      constructor
      · rintro ⟨first, isPlaced, free, others, connected, rfl⟩
        obtain ⟨arePlaced, areFree, apart, rfl, rfl⟩ := (ih (by simpa)).1 connected
        rw [List.filterMap_cons_some (place?_eq_some_iff.2 isPlaced)]
        have clear : ∀ other ∈ rest.filterMap (place? nodes index), ¬ Collide first other := by
          rintro other member ⟨sameSource, sameLabel⟩
          have filled := slot?_fill_self (count ▸ source_lt_of_placeEdge isPlaced)
          rw [sameSource, sameLabel, areFree other member] at filled
          cases filled
        refine ⟨⟨⟨first, isPlaced⟩, arePlaced⟩, List.forall_mem_cons.2 ⟨free, ?_⟩,
          .cons clear apart, rfl, rfl⟩
        intro other member
        rw [← slot?_fill_of_ne (clear other member)]
        exact areFree other member
      · rintro ⟨⟨⟨first, isPlaced⟩, arePlaced⟩, areFree, apart, rfl, rfl⟩
        rw [List.filterMap_cons_some (place?_eq_some_iff.2 isPlaced)] at *
        obtain ⟨clear, apart⟩ := List.pairwise_cons.1 apart
        obtain ⟨free, areFree⟩ := List.forall_mem_cons.1 areFree
        refine ⟨first, isPlaced, free, _,
          (ih (by simpa)).2 ⟨arePlaced, fun other member => ?_, apart, rfl, rfl⟩, rfl⟩
        rw [slot?_fill_of_ne (clear other member)]
        exact areFree other member

/-- Before any edge is connected, every slot is free. -/
theorem slot?_empty (nodes : List (Node Graph)) (position : Nat) (label : EdgeLabel) :
    slot? (nodes.map fun _ => Successors.empty) position label = none := by
  unfold slot?
  cases found : (nodes.map fun _ => Successors.empty)[position]? with
  | none => rfl
  | some outgoing =>
      obtain rfl : Successors.empty = outgoing := by
        obtain ⟨node, -, rfl⟩ := List.mem_map.1 (List.mem_of_getElem? found)
        rfl
      simp

/-- The successors of connected nodes: a slot is filled exactly if an edge was placed there. -/
theorem slot?_connect {index : PositionIndex} {edges : List EdgeDocument}
    {successors : List Successors} {resolved : List Edge}
    (connected : connect nodes index (nodes.map fun _ => Successors.empty) edges =
      .ok (successors, resolved)) {position target : Nat} {label : EdgeLabel} :
    slot? successors position label = some target ↔
      ∃ edge ∈ edges, placeEdge nodes index edge = .ok ⟨position, label, target⟩ := by
  obtain ⟨-, free, apart, rfl, -⟩ := (connect_eq_ok_iff (by simp)).1 connected
  rw [slot?_foldl_fill _ free apart, slot?_empty]
  · simp [place?_eq_some_iff]
  · intro placed member
    obtain ⟨edge, -, isPlaced⟩ := List.mem_filterMap.1 member
    simpa using source_lt_of_placeEdge (place?_eq_some_iff.1 isPlaced)

theorem length_of_connect {index : PositionIndex} {edges : List EdgeDocument}
    {successors : List Successors} {resolved : List Edge}
    (connected : connect nodes index (nodes.map fun _ => Successors.empty) edges =
      .ok (successors, resolved)) : successors.length = nodes.length := by
  obtain ⟨-, -, -, rfl, -⟩ := (connect_eq_ok_iff (by simp)).1 connected
  suffices general : ∀ (placed : List PlacedEdge) (successors : List Successors),
      (placed.foldl fill successors).length = successors.length by
    simp [general]
  intro placed
  induction placed with
  | nil => exact fun _ => rfl
  | cons edge rest ih => exact fun successors => by rw [List.foldl_cons, ih, length_fill]

/-! ## Checks -/

theorem missingLabel?_eq_none_iff {outgoing : Successors} {labels : List EdgeLabel} :
    missingLabel? outgoing labels = none ↔
      ∀ label ∈ labels, (outgoing.get? label).isSome = true := by
  simp [missingLabel?, ← Option.isSome_iff_ne_none]

theorem checkNode_eq_ok_iff {index : PositionIndex} {node : Node Graph} {outgoing : Successors} :
    checkNode index node outgoing = .ok () ↔
      (∀ label ∈ node.kind.requiredLabels, (outgoing.get? label).isSome = true) ∧
        ∀ expression ∈ node.kind.expressions, ∀ name ∈ expression.nodes,
          (index.find? name).isSome = true := by
  have known : ((references node).find? fun name => (index.find? name).isNone) = none ↔
      ∀ expression ∈ node.kind.expressions, ∀ name ∈ expression.nodes,
        (index.find? name).isSome = true := by
    simp only [references, List.find?_eq_none, mem_sortedNames, List.mem_flatMap,
      Option.isNone_iff_eq_none, ← Option.isSome_iff_ne_none]
    exact ⟨fun all expression member name named => all name ⟨expression, member, named⟩,
      fun all name ⟨expression, member, named⟩ => all expression member name named⟩
  rw [← missingLabel?_eq_none_iff, ← known, checkNode]
  split
  next label missing => simp [missing]
  next nothing =>
    split
    next name unknown => simp [unknown]
    next allKnown => simp [nothing, allKnown]

/-- The checks of all nodes succeed exactly if each one does. -/
theorem checkNodes_eq_ok_iff {index : PositionIndex} {successors : List Successors}
    (count : successors.length = nodes.length) :
    checkNodes index nodes successors = .ok () ↔
      ∀ (position : Nat) (node : Node Graph) (outgoing : Successors),
        nodes[position]? = some node → successors[position]? = some outgoing →
          checkNode index node outgoing = .ok () := by
  induction nodes generalizing successors with
  | nil => simp [checkNodes]
  | cons node rest ih =>
      obtain ⟨outgoing, others, rfl⟩ := List.exists_cons_of_length_eq_add_one count
      simp only [checkNodes, bind_eq_ok_iff, ih (Nat.succ.inj count)]
      constructor
      · rintro ⟨⟨⟩, first, later⟩ position node' outgoing' atPosition outgoingAt
        cases position with
        | zero =>
            obtain rfl : node = node' := by simpa using atPosition
            obtain rfl : outgoing = outgoing' := by simpa using outgoingAt
            exact first
        | succ position => exact later position node' outgoing' atPosition outgoingAt
      · intro all
        exact ⟨(), all 0 node outgoing rfl rfl, fun position => all (position + 1)⟩

theorem checkAcyclic_eq_ok_iff {successors : List Successors} :
    checkAcyclic nodes successors = .ok () ↔ findCycle? successors = none := by
  unfold checkAcyclic
  split <;> simp_all

/-- Assembling succeeds exactly if every check does. -/
theorem assemble_eq_ok_iff {id version : String} {edges : List EdgeDocument} {graph : Graph} :
    assemble id version nodes edges = .ok graph ↔
      (ids nodes).Nodup ∧ ∃ start successors resolved,
        findStart nodes = .ok start ∧
          connect nodes (indexOf nodes) (nodes.map fun _ => Successors.empty) edges =
            .ok (successors, resolved) ∧
          checkNodes (indexOf nodes) nodes successors = .ok () ∧
            findCycle? successors = none ∧
              graph = ⟨id, version, nodes, resolved, indexOf nodes, successors, start⟩ := by
  unfold assemble
  split
  next repeated found =>
    have notDistinct : ¬ (ids nodes).Nodup := by
      rw [← firstRepeated_eq_none_iff, found]
      simp
    simp [notDistinct]
  next distinct =>
    simp only [firstRepeated_eq_none_iff.1 distinct, true_and, bind_eq_ok_iff]
    constructor
    · rintro ⟨start, found, ⟨successors, resolved⟩, connected, ⟨⟩, checked, ⟨⟩, acyclic, ⟨⟩⟩
      exact ⟨start, successors, resolved, found, connected, checked,
        checkAcyclic_eq_ok_iff.1 acyclic, rfl⟩
    · rintro ⟨start, successors, resolved, found, connected, checked, acyclic, rfl⟩
      exact ⟨start, found, (successors, resolved), connected, (), checked, (),
        checkAcyclic_eq_ok_iff.2 acyclic, rfl⟩

end DecisionFlow.Graph
