import DecisionFlow.Proofs.Compilation.Derivation
import DecisionFlow.Proofs.Graph.Assembled
import Mathlib.Data.Finset.Card

/-!
# Which nodes are out of reach

The search for unreachable nodes keeps a list of positions that it has seen and another of positions
that wait to be looked at. All of them can be reached from the start, and an edge from a seen
position leads to a seen or to a waiting one. Each turn keeps this (`Exploring.skip`,
`Exploring.expand`), and no more turns are needed than the search is allowed to take, so in the end,
when nothing waits any more, the seen positions are those that paths lead to
(`mem_reachable_iff`).

In terms of ids and edges: building a graph gives a warning exactly if no path leads to some node,
and the warning lists these nodes as they were declared (`warns_iff_out_of_reach`). Comparing the
number of positions found with the number of nodes decides the same
(`length_reachable_lt_iff`).
-/

set_option autoImplicit false

namespace DecisionFlow

open Relation

namespace Graph

/-! ## The search -/

/-- What holds between two turns of the search, which has begun at `start`, among `count`
positions. -/
structure Exploring (successors : List Successors) (start count : Nat)
    (waiting seen : List Nat) : Prop where
  distinct : seen.Nodup
  inside : ∀ position ∈ waiting ++ seen, position < count
  reached : ∀ position ∈ waiting ++ seen, ReflTransGen (Leads successors) start position
  begun : start ∈ waiting ++ seen
  /-- Edges from seen positions do not lead out. -/
  closed : ∀ position ∈ seen, ∀ next, Leads successors position next → next ∈ waiting ++ seen

namespace Exploring

variable {successors : List Successors} {start count current : Nat} {waiting seen : List Nat}

theorem initial (inside : start < count) : Exploring successors start count [start] [] where
  distinct := List.nodup_nil
  inside := by simpa using inside
  reached := by simpa using ReflTransGen.refl
  begun := by simp
  closed := by simp

/-- A position that was seen before need not be looked at again. -/
theorem skip (exploring : Exploring successors start count (current :: waiting) seen)
    (again : current ∈ seen) : Exploring successors start count waiting seen := by
  have fewer {position : Nat} :
      position ∈ current :: waiting ++ seen ↔ position ∈ waiting ++ seen := by
    rw [List.cons_append, List.mem_cons, or_iff_right_of_imp]
    rintro rfl
    exact List.mem_append_right _ again
  exact ⟨exploring.distinct, fun position member => exploring.inside position (fewer.2 member),
    fun position member => exploring.reached position (fewer.2 member), fewer.1 exploring.begun,
    fun position member next leads => fewer.1 (exploring.closed position member next leads)⟩

/-- When a position is seen for the first time, those that it leads to have to wait. -/
theorem expand (bounded : ∀ position next, Leads successors position next → next < count)
    (exploring : Exploring successors start count (current :: waiting) seen)
    (fresh : current ∉ seen) :
    Exploring successors start count (waiting ++ targets successors current)
      (current :: seen) := by
  have isKnown : current ∈ current :: waiting ++ seen := List.mem_cons_self
  have more {position : Nat} : position ∈ waiting ++ targets successors current ++ current :: seen ↔
      Leads successors current position ∨ position ∈ current :: waiting ++ seen := by
    simp only [Leads, List.mem_append, List.mem_cons]
    tauto
  constructor
  case distinct => exact exploring.distinct.cons fresh
  case inside =>
    intro position member
    rcases more.1 member with leads | known
    · exact bounded current position leads
    · exact exploring.inside position known
  case reached =>
    intro position member
    rcases more.1 member with leads | known
    · exact (exploring.reached current isKnown).tail leads
    · exact exploring.reached position known
  case begun => exact more.2 (.inr exploring.begun)
  case closed =>
    intro position member next leads
    rcases List.mem_cons.1 member with rfl | earlier
    · exact more.2 (.inl leads)
    · exact more.2 (.inr (exploring.closed position earlier next leads))

theorem toFinset_subset (exploring : Exploring successors start count waiting seen) :
    seen.toFinset ⊆ Finset.range count := by
  intro position member
  exact Finset.mem_range.2
    (exploring.inside position (List.mem_append_right _ (List.mem_toFinset.1 member)))

theorem card_toFinset (exploring : Exploring successors start count waiting seen) :
    seen.toFinset.card = seen.length :=
  List.toFinset_card_of_nodup exploring.distinct

theorem length_seen_le (exploring : Exploring successors start count waiting seen) :
    seen.length ≤ count := by
  simpa [exploring.card_toFinset] using Finset.card_le_card exploring.toFinset_subset

/-- Every waiting position takes a turn, and a position that is seen for the first time makes three
more wait at most. With an allowance for that many turns the search goes on until nothing waits. -/
theorem reachFrom (bounded : ∀ position next, Leads successors position next → next < count)
    {allowance : Nat} (exploring : Exploring successors start count waiting seen)
    (enough : waiting.length + 4 * (count - seen.length) ≤ allowance) :
    Exploring successors start count [] (reachFrom successors allowance waiting seen) := by
  induction allowance generalizing waiting seen with
  | zero =>
      obtain rfl : waiting = [] := List.length_eq_zero_iff.1 (by omega)
      exact exploring
  | succ allowance ih =>
      cases waiting with
      | nil => exact exploring
      | cons current waiting =>
          rw [List.length_cons] at enough
          by_cases again : current ∈ seen
          · rw [Graph.reachFrom, if_pos again]
            exact ih (exploring.skip again) (by omega)
          · rw [Graph.reachFrom, if_neg again]
            have expanded := exploring.expand bounded again
            have room := expanded.length_seen_le
            have few := Search.length_targets_le successors current
            refine ih expanded ?_
            simp only [List.length_append, List.length_cons] at room ⊢
            omega

/-- When nothing waits any more, the positions seen are those that paths lead to. -/
theorem mem_iff (exploring : Exploring successors start count [] seen) {position : Nat} :
    position ∈ seen ↔ ReflTransGen (Leads successors) start position := by
  constructor
  · exact exploring.reached position
  · intro path
    induction path with
    | refl => exact exploring.begun
    | tail _ leads ih => exact exploring.closed _ ih _ leads

/-- Fewer positions are seen than there are exactly if one of them is not seen. -/
theorem length_seen_lt_iff (exploring : Exploring successors start count waiting seen) :
    seen.length < count ↔ ∃ position < count, position ∉ seen := by
  rw [← exploring.card_toFinset]
  constructor
  · intro fewer
    rw [← Finset.card_range count] at fewer
    obtain ⟨position, inside, missed⟩ := Finset.exists_mem_notMem_of_card_lt_card fewer
    exact ⟨position, Finset.mem_range.1 inside, fun member => missed (List.mem_toFinset.2 member)⟩
  · rintro ⟨position, inside, missed⟩
    have proper : seen.toFinset ⊂ Finset.range count :=
      ⟨exploring.toFinset_subset,
        fun all => missed (List.mem_toFinset.1 (all (Finset.mem_range.2 inside)))⟩
    simpa using Finset.card_lt_card proper

end Exploring

theorem Navigable.exploring_reachable {graph : Graph} (navigable : Navigable graph) :
    Exploring graph.successors graph.start graph.nodes.length [] graph.reachable := by
  have bounded (position next : Nat) (leads : Leads graph.successors position next) :
      next < graph.nodes.length := by
    obtain ⟨label, edge⟩ := leads_iff_exists_slot?.1 leads
    exact navigable.inside position label next edge
  refine (Exploring.initial navigable.start).reachFrom bounded ?_
  simp only [List.length_singleton, List.length_nil]
  omega

/-! ## Nodes that can be reached -/

/-- An edge of the graph leads from one node id to another. -/
def Joins (graph : Graph) (source target : String) : Prop :=
  ∃ edge ∈ graph.edges, edge.source = source ∧ edge.target = target

/-- A path along the edges leads from a start node to the node with the given id. -/
def CanReach (graph : Graph) (name : String) : Prop :=
  ∃ node ∈ graph.nodes, node.kind.isStart = true ∧ ReflTransGen graph.Joins node.id name

open Classical in
/-- The nodes to which no path leads, in the order in which they are declared. -/
noncomputable def outOfReach (graph : Graph) : List (Node Graph) :=
  graph.nodes.filter fun node => ¬ graph.CanReach node.id

variable {id version : String} {nodes : List (Node Graph)} {edges : List EdgeDocument}
  {graph : Graph}

/-- The edges that are kept have the ends of those that were written. -/
theorem ends_of_connect {index : PositionIndex} {successors after : List Successors}
    {resolved : List Edge}
    (connected : connect nodes index successors edges = .ok (after, resolved)) :
    resolved.map (fun edge => (edge.source, edge.target)) =
      edges.map fun edge => (edge.source, edge.target) := by
  refine (map_eq_of_inStep (inStep_of_connect connected) ?_).symm
  rintro edge _ ⟨placed, -, rfl⟩
  rfl

/-- A graph has the edges from which it was assembled. -/
theorem joins_of_assemble (assembled : assemble id version nodes edges = .ok graph) :
    graph.Joins = Links edges := by
  obtain ⟨-, start, successors, resolved, -, connected, -, -, rfl⟩ :=
    assemble_eq_ok_iff.1 assembled
  funext source target
  have ends : (source, target) ∈ resolved.map (fun edge => (edge.source, edge.target)) ↔
      (source, target) ∈ edges.map fun edge => (edge.source, edge.target) := by
    rw [ends_of_connect connected]
  simpa [Joins, Links] using ends

/-- A path leads to a position exactly if one leads to the node that is there. -/
theorem canReach_iff (assembled : assemble id version nodes edges = .ok graph) {position : Nat}
    {node : Node Graph} (here : graph.nodes[position]? = some node) :
    graph.CanReach node.id ↔ ReflTransGen (Leads graph.successors) graph.start position := by
  have joins := joins_of_assemble assembled
  obtain ⟨distinct, start, successors, resolved, found, connected, -, -, rfl⟩ :=
    assemble_eq_ok_iff.1 assembled
  obtain ⟨⟨startNode, atStart, isStart⟩, onlyStart⟩ := findStart_eq_ok_iff.1 found
  have nameAt {place : Nat} {node : Node Graph} (there : nodes[place]? = some node) :
      (ids nodes)[place]? = some node.id := by
    rw [getElem?_ids, there, Option.map_some]
  have placeOf {place : Nat} {node : Node Graph} (there : nodes[place]? = some node) :
      (ids nodes).idxOf node.id = place := by
    have inside : node.id ∈ ids nodes := List.mem_of_getElem? (nameAt there)
    exact place_unique distinct (List.getElem?_idxOf inside) (nameAt there)
  rw [CanReach, joins]
  constructor
  · rintro ⟨first, member, isFirst, path⟩
    obtain ⟨firstAt, atFirst⟩ := List.mem_iff_getElem?.1 member
    obtain rfl := onlyStart firstAt first atFirst isFirst
    have lifted : ReflTransGen (Leads successors) ((ids nodes).idxOf first.id)
        ((ids nodes).idxOf node.id) :=
      path.lift (fun name => (ids nodes).idxOf name)
        fun source target linked => leads_of_links distinct connected linked
    rwa [placeOf atFirst, placeOf here] at lifted
  · intro path
    have lifted : ReflTransGen (Links edges) (((ids nodes)[start]?).getD "")
        (((ids nodes)[position]?).getD "") :=
      path.lift (fun place => ((ids nodes)[place]?).getD "")
        fun position next leads => links_of_leads distinct connected leads
    rw [nameAt atStart, nameAt here] at lifted
    exact ⟨startNode, List.mem_of_getElem? atStart, isStart, lifted⟩

/-- A position is found exactly if some path leads to its node. -/
theorem mem_reachable_iff (assembled : assemble id version nodes edges = .ok graph)
    {position : Nat} {node : Node Graph} (here : graph.nodes[position]? = some node) :
    position ∈ graph.reachable ↔ graph.CanReach node.id :=
  (Navigable.of_assemble assembled).exploring_reachable.mem_iff.trans
    (canReach_iff assembled here).symm

/-- The nodes that are reported are those to which no path leads. -/
theorem unreachableNodes_eq (assembled : assemble id version nodes edges = .ok graph) :
    graph.unreachableNodes = ids graph.outOfReach := by
  classical
  have missed : graph.nodes.zipIdx.filter (fun entry => entry.2 ∉ graph.reachable) =
      graph.nodes.zipIdx.filter fun entry => ¬ graph.CanReach entry.1.id := by
    refine List.filter_congr fun entry member => ?_
    exact decide_eq_decide.2
      (not_congr (mem_reachable_iff assembled (List.mem_zipIdx_iff_getElem?.1 member)))
  have unplaced : (graph.nodes.zipIdx.filter fun entry => ¬ graph.CanReach entry.1.id).map Prod.fst =
      graph.nodes.filter fun node => ¬ graph.CanReach node.id := by
    conv_rhs => rw [← List.zipIdx_map_fst 0 graph.nodes, List.filter_map]
    rfl
  simp only [unreachableNodes, ids, outOfReach]
  rw [missed, ← unplaced, List.map_map]
  rfl

theorem outOfReach_eq_nil_iff :
    graph.outOfReach = [] ↔ ∀ node ∈ graph.nodes, graph.CanReach node.id := by
  simp [outOfReach]

/-- Counting the positions that are found tells whether some node is out of reach. -/
theorem length_reachable_lt_iff (assembled : assemble id version nodes edges = .ok graph) :
    graph.reachable.length < graph.nodes.length ↔
      ∃ node ∈ graph.nodes, ¬ graph.CanReach node.id := by
  rw [(Navigable.of_assemble assembled).exploring_reachable.length_seen_lt_iff]
  constructor
  · rintro ⟨position, inside, missed⟩
    have here := List.getElem?_eq_getElem inside
    exact ⟨_, List.getElem_mem inside, mt (mem_reachable_iff assembled here).2 missed⟩
  · rintro ⟨node, member, unreached⟩
    obtain ⟨position, here⟩ := List.mem_iff_getElem?.1 member
    exact ⟨position, (List.getElem?_eq_some_iff.1 here).1,
      mt (mem_reachable_iff assembled here).1 unreached⟩

end Graph

/-! ## Warnings -/

namespace Progress

/-- What has been gathered, with one more warning. -/
def warn (progress : Progress) (warning : CompileWarning) : Progress :=
  { progress with warnings := progress.warnings ++ [warning] }

theorem warn_ne (progress : Progress) (warning : CompileWarning) :
    progress.warn warning ≠ progress := by
  intro same
  simpa [warn] using congrArg warnings same

theorem remark_of_all_reached {graph : Graph} (all : graph.unreachableNodes = [])
    (progress : Progress) : progress.remark graph = progress := by
  simp [remark, all]

theorem remark_of_missed {graph : Graph} (missed : graph.unreachableNodes ≠ [])
    (progress : Progress) :
    progress.remark graph = progress.warn (.unreachableNodes graph.id graph.unreachableNodes) := by
  simp [remark, warn, missed]

end Progress

namespace Compiler

/-- **Nodes out of reach are warned about.** For every graph that is built, the warning is given
exactly if no path along the edges leads from the start node to some node, and it lists the ids of
all these nodes in the order of their declaration. Without such a node nothing is remarked. The
number of positions that the search finds tells the two cases apart. -/
theorem warns_iff_out_of_reach {document : FlowDocument} {nodes : List (Node Graph)} {graph : Graph}
    {before after : Progress} (built : (assemble document nodes).run before = .ok graph after) :
    ((∃ node ∈ graph.nodes, ¬ graph.CanReach node.id) ↔
      after = before.warn (.unreachableNodes graph.id (Graph.ids graph.outOfReach))) ∧
    ((∀ node ∈ graph.nodes, graph.CanReach node.id) ↔ after = before) ∧
    (graph.reachable.length < graph.nodes.length ↔
      ∃ node ∈ graph.nodes, ¬ graph.CanReach node.id) := by
  obtain ⟨assembled, rfl⟩ := assemble_run_eq_ok_iff.1 built
  have listed := Graph.unreachableNodes_eq assembled
  have counted := Graph.length_reachable_lt_iff assembled
  by_cases all : ∀ node ∈ graph.nodes, graph.CanReach node.id
  · have none : graph.unreachableNodes = [] := by
      rw [listed, Graph.outOfReach_eq_nil_iff.2 all]
      rfl
    rw [Progress.remark_of_all_reached none]
    refine ⟨iff_of_false ?_ (before.warn_ne _).symm, iff_of_true all rfl, counted⟩
    rintro ⟨node, member, unreached⟩
    exact unreached (all node member)
  · have missed : graph.unreachableNodes ≠ [] := by
      rw [listed]
      exact fun none => all (Graph.outOfReach_eq_nil_iff.1 (List.map_eq_nil_iff.1 none))
    rw [Progress.remark_of_missed missed, listed]
    exact ⟨iff_of_true (by simpa using all) rfl, iff_of_false all (before.warn_ne _), counted⟩

/-- A flow with two nodes out of reach: a condition that nothing leads to, and one of its branches,
which meets the other one again at the end that the start leads to. -/
def forgotten : FlowDocument where
  id := "main"
  version := "1"
  nodes := []
  edges := [⟨"start", "end", none⟩, ⟨"lost", "end", some "then"⟩, ⟨"lost", "other", some "else"⟩,
    ⟨"other", "end", none⟩]
  subflows := []

/-- The nodes of the flow. -/
def forgottenNodes : List (Node Graph) :=
  [⟨"other", .input "x"⟩, ⟨"start", .start⟩, ⟨"lost", .conditional (.field "x")⟩,
    ⟨"end", .output ⟨.field "x", none, []⟩⟩]

/-- The graph that they form. -/
def forgottenGraph : Graph where
  id := "main"
  version := "1"
  nodes := forgottenNodes
  edges := [⟨"start", .next, "end"⟩, ⟨"lost", .thenBranch, "end"⟩, ⟨"lost", .elseBranch, "other"⟩,
    ⟨"other", .next, "end"⟩]
  index := Graph.indexOf forgottenNodes
  successors := [⟨some 3, none, none⟩, ⟨some 3, none, none⟩, ⟨none, some 3, some 0⟩, .empty]
  start := 1

/-- The branch is listed first, since it is declared first. -/
theorem warns_iff_out_of_reach_of_forgotten :
    (assemble forgotten forgottenNodes).run ⟨Library.empty, [], []⟩ =
      .ok forgottenGraph ⟨Library.empty, [], [.unreachableNodes "main" ["other", "lost"]]⟩ ∧
    (∃ node ∈ forgottenGraph.nodes, ¬ forgottenGraph.CanReach node.id) ∧
      Graph.ids forgottenGraph.outOfReach = ["other", "lost"] := by
  have assembled : Graph.assemble forgotten.id forgotten.version forgottenNodes forgotten.edges =
      .ok forgottenGraph :=
    Graph.assemble_eq_ok_iff.2 ⟨by decide, 1, _, _, by rfl, by rfl, by rfl, by decide +kernel, rfl⟩
  have run : (assemble forgotten forgottenNodes).run ⟨Library.empty, [], []⟩ =
      .ok forgottenGraph ⟨Library.empty, [], [.unreachableNodes "main" ["other", "lost"]]⟩ :=
    assemble_run_eq_ok_iff.2 ⟨assembled, rfl⟩
  obtain ⟨warned, -, counted⟩ := warns_iff_out_of_reach run
  have missed := counted.1 (by decide)
  have listed := congrArg Progress.warnings (warned.1 missed)
  simp only [Progress.warn, List.nil_append, List.cons.injEq, CompileWarning.unreachableNodes.injEq,
    and_true] at listed
  exact ⟨run, missed, listed.2.symm⟩

end Compiler

end DecisionFlow
