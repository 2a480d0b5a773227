import DecisionFlow.Proofs.Graph.Alike
import DecisionFlow.Proofs.Graph.Assembled
import DecisionFlow.Proofs.Table.Json

/-!
# Intact graphs

A graph is intact if its parts fit together: its index and its successors belong to its nodes, it
begins at its only start node, every way on is there, no path returns to where it began, and its
tables have as many cells in each row as there are columns. Assembled graphs are intact, and so is
everything that they call (`Assembled.intactWithin`). A graph that was stored need not be.

Whether a graph is intact can be found out by making the checks of the assembly once more
(`isIntact_iff`). References to nodes and the list of edges are left out, as no evaluation looks at
them.
-/

set_option autoImplicit false

namespace DecisionFlow

/-- The rows of the table are as long as its header. -/
def DecisionTable.Rectangular (table : DecisionTable) : Prop :=
  ∀ row ∈ table.rows, row.length = table.columns.length

namespace Graph

open Relation

/-- The parts of the graph fit together, whatever it calls. -/
structure Intact (graph : Graph) : Prop where
  distinct : (ids graph.nodes).Nodup
  /-- The index has every node at its position. -/
  indexed : ∀ position name, (ids graph.nodes)[position]? = some name →
    graph.index.find? name = some position
  /-- The graph begins at a start node. -/
  start : ∃ node, graph.nodes[graph.start]? = some node ∧ node.kind.isStart = true
  onlyStart : ∀ position node, graph.nodes[position]? = some node → node.kind.isStart = true →
    position = graph.start
  counted : graph.successors.length = graph.nodes.length
  /-- Edges lead to nodes. -/
  inside : ∀ position next, Leads graph.successors position next → next < graph.nodes.length
  /-- Whichever way a node chooses, there is an edge. -/
  onward : ∀ position node label, graph.nodes[position]? = some node →
    label ∈ node.kind.requiredLabels → ∃ next, slot? graph.successors position label = some next
  acyclic : ∀ position, ¬ TransGen (Leads graph.successors) position position
  rectangular : ∀ node ∈ graph.nodes, ∀ lookup, node.kind = .tableLookup lookup →
    lookup.table.Rectangular

/-- The graph is intact, and so is every graph that is called within it. -/
structure IntactWithin (graph : Graph) : Prop where
  own : Intact graph
  within : ∀ call, CallsWithin graph.nodes call → Intact call.target

variable {graph other : Graph} {call : SubflowCall Graph}

theorem IntactWithin.target (intact : IntactWithin graph) (calls : Calls graph.nodes call) :
    IntactWithin call.target where
  own := intact.within call (.own calls)
  within inner deeper := intact.within inner (.trans (.own calls) deeper)

theorem intactWithin_iff : IntactWithin graph ↔
    Intact graph ∧ ∀ call, Calls graph.nodes call → IntactWithin call.target := by
  constructor
  · exact fun intact => ⟨intact.own, fun call calls => intact.target calls⟩
  · rintro ⟨own, target⟩
    refine ⟨own, fun call within => ?_⟩
    suffices intact : IntactWithin call.target from intact.own
    induction within with
    | own calls => exact target _ calls
    | nested _ calls ih => exact ih.target calls

/-- An edge is one with some label. -/
theorem exists_slot?_of_leads {successors : List Successors} {position next : Nat}
    (leads : Leads successors position next) :
    ∃ label, slot? successors position label = some next := by
  cases here : successors[position]? with
  | none => simp [Leads, targets, here] at leads
  | some outgoing =>
      simp only [Leads, targets, here, Option.map_some, Option.getD_some] at leads
      obtain ⟨label, found⟩ := Successors.mem_targets.1 leads
      exact ⟨label, by simp [slot?, here, found]⟩

/-- An intact graph can be walked. -/
theorem Intact.navigable (intact : Intact graph) : Navigable graph where
  start := by
    obtain ⟨node, here, -⟩ := intact.start
    exact (List.getElem?_eq_some_iff.1 here).1
  onward := intact.onward
  inside _ _ _ edge := intact.inside _ _ (leads_of_slot? edge)
  acyclic := intact.acyclic

/-! ## Assembled graphs -/

/-- An assembled graph with tables that were made is intact. -/
theorem Intact.of_assemble {id version : String} {nodes : List (Node Graph)}
    {edges : List EdgeDocument} (assembled : assemble id version nodes edges = .ok graph)
    (shaped : ∀ node ∈ nodes, ∀ lookup, node.kind = .tableLookup lookup →
      lookup.table.WellShaped) : Intact graph := by
  have navigable := Navigable.of_assemble assembled
  obtain ⟨distinct, start, successors, resolved, found, connected, -, -, rfl⟩ :=
    assemble_eq_ok_iff.1 assembled
  obtain ⟨isStart, onlyStart⟩ := findStart_eq_ok_iff.1 found
  exact {
    distinct
    indexed := fun position name here => (find?_indexOf distinct).2 here
    start := isStart
    onlyStart
    counted := length_of_connect connected
    inside := fun position next leads => by
      obtain ⟨label, edge⟩ := exists_slot?_of_leads leads
      exact navigable.inside position label next edge
    onward := navigable.onward
    acyclic := navigable.acyclic
    rectangular := fun node member lookup isLookup =>
      (shaped node member lookup isLookup).rectangular }

/-! ## Alike graphs -/

section

variable {nodes others : List (Node Graph)} {node again : Node Graph}

theorem exists_node_of_map_bareNode_eq (same : nodes.map bareNode = others.map bareNode)
    {position : Nat} (here : others[position]? = some again) :
    ∃ node, nodes[position]? = some node ∧ bareNode node = bareNode again := by
  have found : (nodes.map bareNode)[position]? = some (bareNode again) := by
    rw [same, List.getElem?_map, here, Option.map_some]
  simpa using found

theorem kind_map_of_bareNode_eq (same : bareNode node = bareNode again) :
    node.kind.map (fun _ => ()) = again.kind.map fun _ => () :=
  congrArg Node.kind same

theorem isStart_of_bareNode_eq (same : bareNode node = bareNode again) :
    node.kind.isStart = again.kind.isStart := by
  simpa using congrArg NodeKind.isStart (kind_map_of_bareNode_eq same)

theorem requiredLabels_of_bareNode_eq (same : bareNode node = bareNode again) :
    node.kind.requiredLabels = again.kind.requiredLabels := by
  simpa using congrArg NodeKind.requiredLabels (kind_map_of_bareNode_eq same)

theorem tableLookup_iff_of_bareNode_eq (same : bareNode node = bareNode again)
    {lookup : TableLookup} :
    node.kind = .tableLookup lookup ↔ again.kind = .tableLookup lookup := by
  rw [← NodeKind.map_eq_tableLookup_iff, kind_map_of_bareNode_eq same,
    NodeKind.map_eq_tableLookup_iff]

end

/-- A graph that is alike an intact one is intact. -/
theorem Intact.alike (intact : Intact graph) (alike : graph.Alike other) : Intact other := by
  have same := alike.nodesAlike.map_bareNode_eq
  obtain ⟨id, version, nodes, edges, index, successors, start⟩ := graph
  obtain ⟨id', version', others, edges', index', successors', start'⟩ := other
  obtain ⟨rfl, rfl, -, rfl, agrees, rfl, rfl⟩ := alike
  have sameIds : ids others = ids nodes := by
    simpa [ids, bareNode, Node.map, Function.comp_def] using (congrArg (List.map Node.id) same).symm
  have sameLength : others.length = nodes.length := by simpa using (congrArg List.length same).symm
  constructor
  case distinct => exact sameIds ▸ intact.distinct
  case indexed =>
    intro position name here
    rw [← agrees name]
    exact intact.indexed position name (sameIds ▸ here)
  case start =>
    obtain ⟨node, here, isStart⟩ := intact.start
    obtain ⟨again, there, bare⟩ := exists_node_of_map_bareNode_eq same.symm here
    exact ⟨again, there, isStart_of_bareNode_eq bare ▸ isStart⟩
  case onlyStart =>
    intro position again there isStart
    obtain ⟨node, here, bare⟩ := exists_node_of_map_bareNode_eq same there
    exact intact.onlyStart position node here (isStart_of_bareNode_eq bare ▸ isStart)
  case counted => exact sameLength ▸ intact.counted
  case inside => exact sameLength ▸ intact.inside
  case onward =>
    intro position again label there required
    obtain ⟨node, here, bare⟩ := exists_node_of_map_bareNode_eq same there
    exact intact.onward position node label here (requiredLabels_of_bareNode_eq bare ▸ required)
  case acyclic => exact intact.acyclic
  case rectangular =>
    intro again member lookup isLookup
    obtain ⟨position, there⟩ := List.mem_iff_getElem?.1 member
    obtain ⟨node, here, bare⟩ := exists_node_of_map_bareNode_eq same there
    exact intact.rectangular node (List.mem_of_getElem? here) lookup
      ((tableLookup_iff_of_bareNode_eq bare).2 isLookup)

theorem IntactWithin.alike (intact : IntactWithin graph) (alike : graph.Alike other) :
    IntactWithin other where
  own := intact.own.alike alike
  within _ within := by
    obtain ⟨own, ownWithin, alikeCall⟩ := alike.nodesAlike.callsWithin within
    exact (intact.within own ownWithin).alike alikeCall.target

/-! ## Finding out -/

/-- The rows of the table in which a node looks values up, if it does, are as long as the header. -/
def rowsFit (node : Node Graph) : Bool :=
  match node.kind with
  | .tableLookup lookup =>
    (DecisionTable.checkRows lookup.table.columns.length 0 lookup.table.rows).isOk
  | _ => true

/-- The checks of the assembly, with those that its results pass anyway. -/
def isIntactAlone (graph : Graph) : Bool :=
  (firstRepeated (ids graph.nodes)).isNone &&
  (graph.nodes.zipIdx.all fun entry => graph.index.find? entry.1.id == some entry.2) &&
  (findStart graph.nodes).toOption == some graph.start &&
  graph.successors.length == graph.nodes.length &&
  (graph.successors.all fun outgoing => outgoing.targets.all (· < graph.nodes.length)) &&
  ((graph.nodes.zip graph.successors).all fun entry =>
    (missingLabel? entry.2 entry.1.kind.requiredLabels).isNone) &&
  (findCycle? graph.successors).isNone &&
  graph.nodes.all rowsFit

mutual

/-- The graph passes the checks, and so do the graphs that it calls, at every depth. -/
def isIntact : Graph → Bool
  | ⟨id, version, nodes, edges, index, successors, start⟩ =>
    isIntactAlone ⟨id, version, nodes, edges, index, successors, start⟩ && nodesIntact nodes

def nodesIntact : List (Node Graph) → Bool
  | [] => true
  | node :: rest => nodeIntact node && nodesIntact rest

def nodeIntact : Node Graph → Bool
  | ⟨_, kind⟩ => kindIntact kind

def kindIntact : NodeKind Graph → Bool
  | .subflowCall call => callIntact call
  | _ => true

def callIntact : SubflowCall Graph → Bool
  | ⟨_, _, _, target⟩ => isIntact target

end

section

variable {nodes : List (Node Graph)} {successors : List Successors}

theorem all_indexed_iff {index : PositionIndex} :
    (nodes.zipIdx.all fun entry => index.find? entry.1.id == some entry.2) = true ↔
      ∀ position name, (ids nodes)[position]? = some name → index.find? name = some position := by
  simp only [List.all_eq_true, Prod.forall, List.mem_zipIdx_iff_getElem?, beq_iff_eq, getElem?_ids,
    Option.map_eq_some_iff]
  constructor
  · rintro all position _ ⟨node, here, rfl⟩
    exact all node position here
  · exact fun all node position here => all position node.id ⟨node, here, rfl⟩

theorem findStart_toOption_eq_some_iff {start : Nat} :
    (findStart nodes).toOption = some start ↔ findStart nodes = .ok start := by
  cases findStart nodes <;> simp [Except.toOption]

theorem all_inside_iff {count : Nat} :
    (successors.all fun outgoing => outgoing.targets.all (· < count)) = true ↔
      ∀ position next, Leads successors position next → next < count := by
  simp only [List.all_eq_true, decide_eq_true_eq, Leads, targets]
  constructor
  · intro all position next leads
    cases here : successors[position]? with
    | none => simp [here] at leads
    | some outgoing =>
        rw [here] at leads
        exact all outgoing (List.mem_of_getElem? here) next leads
  · intro all outgoing member next leads
    obtain ⟨position, here⟩ := List.mem_iff_getElem?.1 member
    refine all position next ?_
    rw [here]
    exact leads

theorem all_onward_iff (counted : successors.length = nodes.length) :
    ((nodes.zip successors).all fun entry =>
      (missingLabel? entry.2 entry.1.kind.requiredLabels).isNone) = true ↔
      ∀ position node label, nodes[position]? = some node → label ∈ node.kind.requiredLabels →
        ∃ next, slot? successors position label = some next := by
  have complete (outgoing : Successors) (labels : List EdgeLabel) :
      (missingLabel? outgoing labels).isNone = true ↔
        ∀ label ∈ labels, ∃ next, outgoing.get? label = some next := by
    simp only [Option.isNone_iff_eq_none, missingLabel?_eq_none_iff, Option.isSome_iff_exists]
  simp only [List.all_eq_true, complete]
  constructor
  · intro all position node label here required
    have inside : position < successors.length := counted ▸ (List.getElem?_eq_some_iff.1 here).1
    have there : successors[position]? = some successors[position] := List.getElem?_eq_getElem inside
    have zipped : (nodes.zip successors)[position]? = some (node, successors[position]) :=
      List.getElem?_zip_eq_some.2 ⟨here, there⟩
    obtain ⟨next, edge⟩ := all _ (List.mem_of_getElem? zipped) label required
    exact ⟨next, by simp [slot?, there, edge]⟩
  · rintro all ⟨node, outgoing⟩ member label required
    obtain ⟨position, zipped⟩ := List.mem_iff_getElem?.1 member
    obtain ⟨here, there⟩ := List.getElem?_zip_eq_some.1 zipped
    obtain ⟨next, edge⟩ := all position node label here required
    exact ⟨next, by simpa [slot?, there] using edge⟩

theorem rowsFit_iff {node : Node Graph} :
    rowsFit node = true ↔ ∀ lookup, node.kind = .tableLookup lookup →
      lookup.table.Rectangular := by
  unfold rowsFit
  split
  next lookup isLookup =>
    have checked : (DecisionTable.checkRows lookup.table.columns.length 0 lookup.table.rows).isOk =
        true ↔ lookup.table.Rectangular := by
      rw [isOk_iff, DecisionTable.Rectangular, ← DecisionTable.checkRows_eq_ok_iff]
      exact ⟨fun ⟨⟨⟩, ok⟩ => ok, fun ok => ⟨(), ok⟩⟩
    rw [isLookup, checked]
    simp
  next notLookup =>
    exact ⟨fun _ lookup isLookup => absurd isLookup (notLookup lookup), fun _ => rfl⟩

/-- The checks find out whether the graph itself is intact. -/
theorem isIntactAlone_iff : isIntactAlone graph = true ↔ Intact graph := by
  simp only [isIntactAlone, Bool.and_eq_true, Option.isNone_iff_eq_none,
    firstRepeated_eq_none_iff, all_indexed_iff, beq_iff_eq,
    findStart_toOption_eq_some_iff, findStart_eq_ok_iff, all_inside_iff, findCycle?_eq_none_iff]
  constructor
  · rintro ⟨⟨⟨⟨⟨⟨⟨distinct, indexed⟩, start, onlyStart⟩, counted⟩, inside⟩, onward⟩, acyclic⟩, fits⟩
    exact ⟨distinct, indexed, start, onlyStart, counted, inside, (all_onward_iff counted).1 onward,
      acyclic, fun node member => rowsFit_iff.1 (List.all_eq_true.1 fits node member)⟩
  · intro intact
    exact ⟨⟨⟨⟨⟨⟨⟨intact.distinct, intact.indexed⟩, intact.start, intact.onlyStart⟩, intact.counted⟩,
      intact.inside⟩, (all_onward_iff intact.counted).2 intact.onward⟩, intact.acyclic⟩,
      List.all_eq_true.2 fun node member => rowsFit_iff.2 (intact.rectangular node member)⟩

theorem kindIntact_iff {kind : NodeKind Graph} : kindIntact kind = true ↔
    ∀ call, kind = .subflowCall call → isIntact call.target = true := by
  cases kind with
  | subflowCall call =>
      obtain ⟨flow, version, inputs, target⟩ := call
      simp [kindIntact, callIntact]
  | _ => simp [kindIntact]

theorem nodesIntact_iff :
    nodesIntact nodes = true ↔ ∀ call, Calls nodes call → isIntact call.target = true := by
  induction nodes with
  | nil => simp [nodesIntact]
  | cons node rest ih =>
      obtain ⟨id, kind⟩ := node
      simp only [nodesIntact, nodeIntact, Bool.and_eq_true, ih, kindIntact_iff, calls_cons_iff,
        or_imp, forall_and]

end

/-- **The checks find out whether a graph is intact**, with everything that it calls. -/
theorem isIntact_iff : isIntact graph = true ↔ IntactWithin graph := by
  induction graph using induction_on_calls with
  | step graph ih =>
      obtain ⟨id, version, nodes, edges, index, successors, start⟩ := graph
      rw [isIntact, Bool.and_eq_true, isIntactAlone_iff, nodesIntact_iff, intactWithin_iff]
      exact and_congr_right' (forall₂_congr ih)

end Graph

end DecisionFlow
