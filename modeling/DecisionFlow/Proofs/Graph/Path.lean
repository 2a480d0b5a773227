import DecisionFlow.Proofs.Graph.Assembled
import DecisionFlow.Proofs.Graph.Calls

/-!
# Paths of calls

A call in a graph, at any depth, is found by the ids of the nodes that call each other on the way to
it. Two graphs make the same calls if each path leads to flows with the same id and version in both,
or to nothing in both.
-/

set_option autoImplicit false

namespace DecisionFlow.Graph

/-- The graph that the node with an id calls. -/
def callee? (nodes : List (Node Graph)) (id : String) : Option Graph :=
  (nodes.find? fun node => node.id == id).bind (·.kind.callee?)

/-- The graph to which a path of node ids leads. -/
def at? : Graph → List String → Option Graph
  | graph, [] => some graph
  | graph, id :: path => (callee? graph.nodes id).bind (·.at? path)

/-- All paths lead to flows with the same ids and versions. -/
def SameCalls (again graph : Graph) : Prop :=
  ∀ path, (again.at? path).map (fun reached => (reached.id, reached.version)) =
    (graph.at? path).map (fun reached => (reached.id, reached.version))

/-- Two nodes with one id call nothing, or graphs that make the same calls. -/
structure SameCall (node again : Node Graph) : Prop where
  id_eq : again.id = node.id
  callees : Option.Rel (fun target target' => SameCalls target' target) node.kind.callee?
    again.kind.callee?

section

variable {nodes others : List (Node Graph)} {graph again : Graph}

theorem rel_callee?_of_sameCall (same : List.Forall₂ SameCall nodes others) (id : String) :
    Option.Rel (fun target target' => SameCalls target' target) (callee? nodes id)
      (callee? others id) := by
  induction same with
  | nil => exact .none
  | @cons node other rest rest' first _ ih =>
      unfold callee? at ih ⊢
      rw [List.find?_cons, List.find?_cons, first.id_eq]
      split
      · exact first.callees
      · exact ih

/-- Graphs whose nodes make the same calls. -/
theorem SameCalls.of_nodes (sameId : again.id = graph.id) (sameVersion : again.version = graph.version)
    (same : List.Forall₂ SameCall graph.nodes again.nodes) : SameCalls again graph := by
  intro path
  cases path with
  | nil => simp [at?, sameId, sameVersion]
  | cons id path =>
      have related := rel_callee?_of_sameCall same id
      simp only [at?]
      generalize callee? graph.nodes id = target, callee? again.nodes id = target' at related ⊢
      cases related with
      | none => rfl
      | some targets => exact targets path

theorem SameCalls.id_eq (same : SameCalls again graph) : again.id = graph.id := by
  have atRoot := same []
  simp only [at?, Option.map_some, Option.some.injEq, Prod.mk.injEq] at atRoot
  exact atRoot.1

theorem SameCalls.version_eq (same : SameCalls again graph) : again.version = graph.version := by
  have atRoot := same []
  simp only [at?, Option.map_some, Option.some.injEq, Prod.mk.injEq] at atRoot
  exact atRoot.2

theorem SameCalls.key_eq (same : SameCalls again graph) : again.key = graph.key := by
  rw [key, key, same.id_eq, same.version_eq]

theorem callee?_of_mem (distinct : (ids nodes).Nodup) {id : String} {call : SubflowCall Graph}
    (member : ⟨id, .subflowCall call⟩ ∈ nodes) : callee? nodes id = some call.target := by
  induction nodes with
  | nil => cases member
  | cons node rest ih =>
      obtain ⟨fresh, distinct⟩ := List.nodup_cons.1 distinct
      unfold callee? at ih ⊢
      rw [List.find?_cons]
      rcases List.mem_cons.1 member with rfl | later
      · simp [NodeKind.callee?]
      · have different : node.id ≠ id := by
          rintro rfl
          exact fresh (List.mem_map.2 ⟨_, later, rfl⟩)
        simp only [beq_false_of_ne different]
        exact ih distinct later

/-- What a node calls, the node with its id calls in a graph that makes the same calls. -/
theorem SameCalls.exists_call (same : SameCalls again graph) (distinct : (ids graph.nodes).Nodup)
    {id : String} {call : SubflowCall Graph} (member : ⟨id, .subflowCall call⟩ ∈ graph.nodes) :
    ∃ other, ⟨id, .subflowCall other⟩ ∈ again.nodes ∧ SameCalls other.target call.target := by
  have reached : ∀ path, (again.at? (id :: path)).map
      (fun reached => (reached.id, reached.version)) =
        (call.target.at? path).map (fun reached => (reached.id, reached.version)) := by
    intro path
    rw [same (id :: path), at?, callee?_of_mem distinct member, Option.bind_some]
  cases found : callee? again.nodes id with
  | none =>
      have atTarget := reached []
      simp [at?, found] at atTarget
  | some target =>
      obtain ⟨⟨name, kind⟩, isNode, calls⟩ := Option.bind_eq_some_iff.1 found
      obtain ⟨other, rfl, rfl⟩ := NodeKind.callee?_eq_some_iff.1 calls
      obtain rfl : name = id := by simpa using List.find?_some isNode
      refine ⟨other, List.mem_of_find?_eq_some isNode, ?_⟩
      intro path
      rw [← reached path, at?, found, Option.bind_some]

end

end DecisionFlow.Graph
