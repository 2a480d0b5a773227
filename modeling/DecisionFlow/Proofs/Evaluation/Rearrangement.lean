import DecisionFlow.Proofs.Evaluation.Walk

/-!
# The order of nodes and edges

A walk goes from position to position, and the positions of nodes depend on the order in which they
are listed. What a walk computes does not: if two graphs were assembled from the same edges and from
nodes with the same ids and the same effects, in whatever order, the walks of both visit nodes with
the same ids one after the other and end with the same result or the same error
(`evaluate_eq_of_effects`).

The effect of a node that calls a graph is given by what the called graph evaluates to, so the nodes
of the two graphs may also call different graphs that have the same results.
-/

set_option autoImplicit false

namespace DecisionFlow

/-- What a node does: in place of a called graph stands what that evaluates to. -/
def Node.effect (node : Node Graph) : Node (Record → Except EvaluationError FlowResult) :=
  node.map Graph.evaluate

theorem Node.effect_eq_iff {node other : Node Graph} :
    node.effect = other.effect ↔
      node.id = other.id ∧ node.kind.map Graph.evaluate = other.kind.map Graph.evaluate := by
  simp [effect, map]

/-! ## Steps -/

/-- A step of a node depends on the results of the called graph only. -/
theorem NodeKind.outcome_eq_of_map_evaluate_eq {kind other : NodeKind Graph}
    (same : kind.map Graph.evaluate = other.map Graph.evaluate) (node : String)
    (bindings : Bindings) :
    ((kind.map Graph.run).step node bindings).outcome =
      ((other.map Graph.run).step node bindings).outcome := by
  cases kind with
  | subflowCall call =>
      cases other with
      | subflowCall other =>
          obtain ⟨flow, version, inputs, target⟩ := call
          obtain ⟨flow', version', inputs', target'⟩ := other
          simp only [map, subflowCall.injEq, SubflowCall.mk.injEq] at same
          obtain ⟨rfl, rfl, rfl, sameResults⟩ := same
          have outcomes (record : Record) : (target.run record).outcome = (target'.run record).outcome :=
            congrFun sameResults record
          simp only [map, step, SubflowCall.step]
          split
          · rfl
          · simp only [outcomes]
      | _ => cases same
  | _ =>
      cases other with
      | subflowCall => cases same
      | _ => cases same <;> rfl

namespace Graph

variable {graph other : Graph}

/-! ## Corresponding positions -/

/-- Nodes with the same effect stand at the positions. -/
def Corresponds (graph other : Graph) (position position' : Nat) : Prop :=
  ∃ node node', graph.nodes[position]? = some node ∧ other.nodes[position']? = some node' ∧
    node.effect = node'.effect

/-- Walks of the two graphs begin at corresponding positions, and edges with one label lead from
corresponding positions to corresponding positions. -/
structure InStep (graph other : Graph) : Prop where
  length_eq : graph.nodes.length = other.nodes.length
  start : Corresponds graph other graph.start other.start
  onward : ∀ {position position' : Nat} {label : EdgeLabel} {next : Nat},
    Corresponds graph other position position' →
      slot? graph.successors position label = some next →
        ∃ next', slot? other.successors position' label = some next' ∧
          Corresponds graph other next next'

/-- From corresponding positions walks go on in step. -/
theorem InStep.outcome_walk_eq (inStep : InStep graph other) (navigable : Navigable graph)
    {hops position position' : Nat} {bindings : Bindings}
    (corresponds : Corresponds graph other position position') :
    (graph.terrain.walk hops position bindings).outcome =
      (other.terrain.walk hops position' bindings).outcome := by
  induction hops generalizing position position' bindings with
  | zero => simp only [Terrain.walk, terrain, List.length_map, inStep.length_eq]
  | succ hops ih =>
      obtain ⟨⟨id, kind⟩, ⟨id', kind'⟩, here, there, same⟩ := corresponds
      obtain ⟨rfl, sameKind⟩ := Node.effect_eq_iff.1 same
      have runnable : graph.terrain.nodes[position]? = some ⟨id, kind.map run⟩ := by
        simp [terrain, here, Node.map]
      have runnable' : other.terrain.nodes[position']? = some ⟨id, kind'.map run⟩ := by
        simp [terrain, there, Node.map]
      have sameEnds : kind.isTerminal = kind'.isTerminal := by
        simpa using congrArg NodeKind.isTerminal sameKind
      by_cases ends : kind.isTerminal
      · obtain ⟨spec, rfl⟩ := NodeKind.isTerminal_iff.1 ends
        obtain rfl := NodeKind.map_eq_output_iff.1 sameKind.symm
        simp only [Terrain.walk, runnable, runnable', NodeKind.map]
      · have onward : (kind.map run).isTerminal = false := by simpa using ends
        have onward' : (kind'.map run).isTerminal = false := by simpa [← sameEnds] using ends
        have steps := NodeKind.outcome_eq_of_map_evaluate_eq sameKind id bindings
        cases taken : ((kind.map run).step id bindings).outcome with
        | error problem =>
            rw [Terrain.walk_of_failed runnable onward taken,
              Terrain.walk_of_failed runnable' onward' (steps.symm.trans taken)]
        | ok step =>
            have required := NodeKind.label_mem_requiredLabels onward taken
            rw [NodeKind.requiredLabels_map] at required
            obtain ⟨next, edge⟩ := navigable.onward position _ step.label here required
            obtain ⟨next', edge', later⟩ :=
              inStep.onward ⟨_, _, here, there, Node.effect_eq_iff.2 ⟨rfl, sameKind⟩⟩ edge
            rw [Terrain.walk_of_taken runnable onward taken (Terrain.follow_eq_ok id edge),
              Terrain.walk_of_taken runnable' onward' (steps.symm.trans taken)
                (Terrain.follow_eq_ok id edge')]
            exact ih later

/-- Graphs whose walks go in step evaluate to the same. -/
theorem InStep.evaluate_eq (inStep : InStep graph other) (navigable : Navigable graph)
    (record : Record) : graph.evaluate record = other.evaluate record := by
  rw [evaluate, evaluate, run_eq_walk, run_eq_walk, inStep.length_eq]
  exact inStep.outcome_walk_eq navigable inStep.start

/-! ## Assembled graphs -/

section

variable {id version id' version' : String} {nodes nodes' : List (Node Graph)}
  {edges edges' : List EdgeDocument}

/-- In a graph with the same edges and with nodes of the same effects, everything corresponds. -/
theorem InStep.of_assemble (assembled : assemble id version nodes edges = .ok graph)
    (assembled' : assemble id' version' nodes' edges' = .ok other)
    (sameLength : nodes.length = nodes'.length)
    (sameEffects : ∀ node ∈ nodes, ∃ node' ∈ nodes', node.effect = node'.effect)
    (sameEdges : edges ⊆ edges') : InStep graph other := by
  obtain ⟨distinct, start, successors, resolved, found, connected, -, -, rfl⟩ :=
    assemble_eq_ok_iff.1 assembled
  obtain ⟨distinct', start', successors', resolved', found', connected', -, -, rfl⟩ :=
    assemble_eq_ok_iff.1 assembled'
  constructor
  · exact sameLength
  · obtain ⟨⟨node, here, isStart⟩, -⟩ := findStart_eq_ok_iff.1 found
    obtain ⟨node', member', same⟩ := sameEffects node (List.mem_of_getElem? here)
    obtain ⟨position', there⟩ := List.mem_iff_getElem?.1 member'
    obtain ⟨-, sameKind⟩ := Node.effect_eq_iff.1 same
    have isStart' : node'.kind.isStart = true := by
      have starts := congrArg NodeKind.isStart sameKind
      rw [NodeKind.isStart_map, NodeKind.isStart_map] at starts
      rwa [← starts]
    obtain rfl := (findStart_eq_ok_iff.1 found').2 position' node' there isStart'
    exact ⟨node, node', here, there, same⟩
  · rintro position position' label next ⟨node, node', here, there, same⟩ filled
    obtain ⟨edge, isEdge, ⟨source, atSource, named, notTerminal, resolved⟩, target⟩ :=
      (slot?_eq_some_iff distinct connected).1 filled
    obtain rfl : node = source := Option.some.inj (here.symm.trans atSource)
    rw [getElem?_ids] at target
    obtain ⟨reached, atNext, reachedNamed⟩ := Option.map_eq_some_iff.1 target
    obtain ⟨reached', member', sameReached⟩ := sameEffects reached (List.mem_of_getElem? atNext)
    obtain ⟨next', atNext'⟩ := List.mem_iff_getElem?.1 member'
    refine ⟨next', (slot?_eq_some_iff distinct' connected').2 ⟨edge, sameEdges isEdge, ?_, ?_⟩,
      reached, reached', atNext, atNext', sameReached⟩
    · obtain ⟨sameId, sameKind⟩ := Node.effect_eq_iff.1 same
      have sameEnds : node.kind.isTerminal = node'.kind.isTerminal := by
        simpa using congrArg NodeKind.isTerminal sameKind
      have sameBranches : node.kind.isBranching = node'.kind.isBranching := by
        simpa using congrArg NodeKind.isBranching sameKind
      exact ⟨node', there, sameId ▸ named, sameEnds ▸ notTerminal, sameBranches ▸ resolved⟩
    · rw [getElem?_ids, atNext', Option.map_some, ← (Node.effect_eq_iff.1 sameReached).1,
        reachedNamed]

/-- **The order of nodes and edges carries no meaning.** A graph with the same edges, and with nodes
of the same ids and effects, evaluates every record to the same result or the same error. -/
theorem evaluate_eq_of_effects (assembled : assemble id version nodes edges = .ok graph)
    (assembled' : assemble id' version' nodes' edges' = .ok other)
    (sameLength : nodes.length = nodes'.length)
    (sameEffects : ∀ node ∈ nodes, ∃ node' ∈ nodes', node.effect = node'.effect)
    (sameEdges : edges ⊆ edges') (record : Record) :
    graph.evaluate record = other.evaluate record :=
  (InStep.of_assemble assembled assembled' sameLength sameEffects sameEdges).evaluate_eq
    (.of_assemble assembled) record

end

end Graph

end DecisionFlow
