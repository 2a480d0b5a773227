import DecisionFlow.Proofs.Graph.Fault
import Mathlib.Data.List.TakeWhile

/-!
# Which references are rejected

Assembling checks the node references of expressions by what stands before their first point. Nodes
and edges that satisfy every other condition (`WellConnected`) fail, if they fail, on a reference for
which no node has that text as its id (`WellConnected.unknownReference_of_fails`), and they do fail if
there is one.

What stands after the first point is not checked: a reference to a column is accepted if there is a
node for it, whatever the node does. Every reference for which there is no node and that names
nothing is rejected (`rejectsReference_of_wellConnected`).
-/

set_option autoImplicit false

namespace DecisionFlow.Graph

open Relation

variable {nodes : List (Node Graph)} {edges : List EdgeDocument} {id version : String}
  {problem : GraphError}

/-- Some expression of some node refers to a text. -/
def RefersTo (nodes : List (Node Graph)) (reference : String) : Prop :=
  ∃ node ∈ nodes, ∃ expression ∈ node.kind.expressions, expression.Refers reference

/-- The text names a node or a further column of a table lookup. -/
inductive Names (nodes : List (Node Graph)) : String → Prop where
  | node {node : Node Graph} : node ∈ nodes → Names nodes node.id
  | column {id column : String} {lookup : TableLookup} : ⟨id, .tableLookup lookup⟩ ∈ nodes →
      column ∈ lookup.extraTargets → Names nodes (id ++ "." ++ column)

/-- Assembling fails on a node reference. -/
def RejectsReference (id version : String) (nodes : List (Node Graph))
    (edges : List EdgeDocument) : Prop :=
  ∃ name reference, assemble id version nodes edges = .error (.unknownReference name reference)

/-- The other conditions and the one on references make nodes and edges well formed. -/
theorem wellFormed_iff : WellFormed nodes edges ↔ WellConnected nodes edges ∧
    ∀ reference, RefersTo nodes reference → Expression.referencedNode reference ∈ ids nodes := by
  constructor
  · intro wellFormed
    refine ⟨wellFormed.toWellConnected, ?_⟩
    rintro reference ⟨node, member, expression, used, refers⟩
    exact wellFormed.references node member expression used reference refers
  · rintro ⟨wellConnected, known⟩
    refine ⟨wellConnected, fun node member expression used reference refers => ?_⟩
    exact known reference ⟨node, member, expression, used, refers⟩

/-! ## Before the first point -/

/-- A text is what stands before its first point, or this and something after a point. -/
theorem eq_referencedNode_or (reference : String) :
    reference = Expression.referencedNode reference ∨
      ∃ column, reference = Expression.referencedNode reference ++ "." ++ column := by
  have whole := List.takeWhile_append_dropWhile (p := (· ≠ '.')) (l := reference.toList)
  have starts := List.head?_dropWhile_not (· ≠ '.') reference.toList
  cases rest : reference.toList.dropWhile (· ≠ '.') with
  | nil =>
      rw [rest, List.append_nil] at whole
      exact .inl (by rw [Expression.referencedNode, whole, String.ofList_toList])
  | cons point column =>
      rw [rest] at whole starts
      obtain rfl : point = '.' := by simpa using starts
      refine .inr ⟨.ofList column, String.toList_inj.1 ?_⟩
      rw [Expression.referencedNode, String.toList_append, String.toList_append,
        List.append_assoc]
      simpa using whole.symm

theorem ne_point_of_plain {name : String} (plain : '.' ∉ name.toList) :
    ∀ c ∈ name.toList, decide (c ≠ '.') = true := fun c member => by
  simpa using ne_of_mem_of_not_mem member plain

theorem referencedNode_plain {name : String} (plain : '.' ∉ name.toList) :
    Expression.referencedNode name = name := by
  rw [Expression.referencedNode, List.takeWhile_eq_self_iff.2 (ne_point_of_plain plain),
    String.ofList_toList]

theorem referencedNode_column {name : String} (plain : '.' ∉ name.toList) (column : String) :
    Expression.referencedNode (name ++ "." ++ column) = name := by
  rw [Expression.referencedNode, String.toList_append, String.toList_append, List.append_assoc,
    List.takeWhile_append_of_pos (ne_point_of_plain plain)]
  exact (congrArg String.ofList (List.append_nil _)).trans String.ofList_toList

/-- Where ids have no point, there is a node for a reference exactly if it is the id of a node or
such an id with something after a point. -/
theorem referencedNode_mem_iff (plain : ∀ name ∈ ids nodes, '.' ∉ name.toList)
    {reference : String} : Expression.referencedNode reference ∈ ids nodes ↔
      ∃ name ∈ ids nodes, reference = name ∨ ∃ column, reference = name ++ "." ++ column := by
  constructor
  · intro known
    exact ⟨_, known, eq_referencedNode_or reference⟩
  · rintro ⟨name, member, rfl | ⟨column, rfl⟩⟩
    · rwa [referencedNode_plain (plain _ member)]
    · rwa [referencedNode_column (plain _ member)]

/-! ## Faults of well-connected nodes -/

/-- Well-connected nodes and edges fail only on a reference for which there is no node. -/
theorem WellConnected.unknownReference_of_fails (wellConnected : WellConnected nodes edges)
    (failed : assemble id version nodes edges = .error problem) :
    ∃ node ∈ nodes, ∃ expression ∈ node.kind.expressions, ∃ reference,
      expression.Refers reference ∧ Expression.referencedNode reference ∉ ids nodes ∧
        problem = .unknownReference node.id (Expression.referencedNode reference) := by
  have distinct : (ids nodes).Nodup := wellConnected.distinct
  obtain ⟨start, found⟩ := findStart_isOk_iff.2 wellConnected.oneStart
  obtain ⟨⟨successors, resolved⟩, connected⟩ := wellConnected.exists_connected
  rcases check_fails_of_connected distinct found connected failed with unchecked | cyclic
  · obtain ⟨position, node, outgoing, here, outgoingHere, faulty⟩ :=
      exists_checkNode_of_checkNodes unchecked
    have member := List.mem_of_getElem? here
    rcases checkNode_eq_error_iff.1 faulty with ⟨label, missing, -⟩ | ⟨-, name, unknown, same⟩
    · -- No way on is missing: the edge for it was connected.
      have absent := List.find?_some missing
      have filled := (isSome_slot?_iff distinct connected here).2
        (wellConnected.complete node member label (List.mem_of_find?_eq_some missing))
      rw [slot?, outgoingHere, Option.bind_some] at filled
      simp [Option.isNone_iff_eq_none.1 absent] at filled
    · have referred := mem_sortedNames.1 (List.mem_of_find?_eq_some unknown)
      obtain ⟨expression, used, read⟩ := List.mem_flatMap.1 referred
      obtain ⟨reference, refers, rfl⟩ := Expression.mem_nodes_iff.1 read
      have absent := List.find?_some unknown
      refine ⟨node, member, expression, used, reference, refers, fun known => ?_, same⟩
      rw [← isSome_find?_indexOf distinct] at known
      simp [Option.isNone_iff_eq_none.1 absent] at known
  · have acyclic := findCycle?_eq_none_iff.2
      ((acyclic_connected_iff distinct connected).2 wellConnected.acyclic)
    rw [checkAcyclic_eq_ok_iff.2 acyclic] at cyclic
    cases cyclic

/-- Well-connected nodes and edges fail on a reference exactly if there is one without a node. -/
theorem WellConnected.rejectsReference_iff (wellConnected : WellConnected nodes edges) :
    RejectsReference id version nodes edges ↔
      ∃ reference, RefersTo nodes reference ∧ Expression.referencedNode reference ∉ ids nodes := by
  constructor
  · rintro ⟨_, _, failed⟩
    obtain ⟨node, member, expression, used, reference, refers, unknown, -⟩ :=
      wellConnected.unknownReference_of_fails failed
    exact ⟨reference, ⟨node, member, expression, used, refers⟩, unknown⟩
  · rintro ⟨reference, referred, unknown⟩
    cases assembled : assemble id version nodes edges with
    | ok graph =>
        exact absurd ((wellFormed_iff.1 (.of_assemble assembled)).2 reference referred) unknown
    | error problem =>
        obtain ⟨node, -, _, -, other, -, -, rfl⟩ :=
          wellConnected.unknownReference_of_fails assembled
        exact ⟨_, _, assembled⟩

/-- **Which references are rejected.** A reference that names nothing and for which there is no node
is rejected. When one is rejected, there is one without a node. So where ids have no point, a
reference is rejected exactly if some reference is neither the id of a node nor such an id with
something after a point. -/
theorem rejectsReference_of_wellConnected (wellConnected : WellConnected nodes edges)
    (id version : String) :
    (∀ reference, RefersTo nodes reference → ¬ Names nodes reference →
      Expression.referencedNode reference ∉ ids nodes → RejectsReference id version nodes edges) ∧
    (RejectsReference id version nodes edges →
      ∃ reference, RefersTo nodes reference ∧ Expression.referencedNode reference ∉ ids nodes) ∧
    ((∀ name ∈ ids nodes, '.' ∉ name.toList) →
      (RejectsReference id version nodes edges ↔ ∃ reference, RefersTo nodes reference ∧
        ¬ ∃ name ∈ ids nodes, reference = name ∨ ∃ column, reference = name ++ "." ++ column)) := by
  refine ⟨fun reference referred _ unknown => ?_, wellConnected.rejectsReference_iff.1,
    fun plain => ?_⟩
  · exact wellConnected.rejectsReference_iff.2 ⟨reference, referred, unknown⟩
  · simp only [wellConnected.rejectsReference_iff, referencedNode_mem_iff plain]

/-! ## Two nodes and a reference -/

/-- A flow that takes a field and ends with what a reference reads. -/
def readingNodes (reference : String) : List (Node Graph) :=
  [⟨"start", .start⟩, ⟨"a", .input "x"⟩, ⟨"end", .output ⟨.node reference, none, []⟩⟩]

def readingEdges : List EdgeDocument :=
  [⟨"start", "a", none⟩, ⟨"a", "end", none⟩]

theorem not_links_cycle_reading (name : String) : ¬ TransGen (Links readingEdges) name name := by
  intro cycle
  have rises : ∀ source target, Links readingEdges source target →
      ["start", "a", "end"].idxOf source < ["start", "a", "end"].idxOf target := by
    rintro _ _ ⟨edge, member, rfl, rfl⟩
    revert edge
    decide
  have above := cycle.lift _ rises
  rw [transGen_eq_self] at above
  exact absurd above (Nat.lt_irrefl _)

theorem wellConnected_reading (reference : String) :
    WellConnected (readingNodes reference) readingEdges where
  distinct := (by decide : ["start", "a", "end"].Nodup)
  oneStart := rfl
  ends := (by decide : ∀ edge ∈ readingEdges,
    edge.source ∈ ["start", "a", "end"] ∧ edge.target ∈ ["start", "a", "end"])
  notTerminal := by simp [readingEdges, readingNodes, NodeKind.isTerminal]
  labelled := by
    simpa [readingEdges, readingNodes, NodeKind.isBranching] using
      (⟨_, .absent⟩ : ∃ label, EdgeLabel.Means false none label)
  apart := by simp [readingEdges, readingNodes, NodeKind.isBranching]
  complete := by
    simpa [readingEdges, readingNodes, NodeKind.requiredLabels, NodeKind.isBranching] using
      EdgeLabel.Means.absent
  acyclic := not_links_cycle_reading

theorem refersTo_reading_iff {reference other : String} :
    RefersTo (readingNodes reference) other ↔ other = reference := by
  simp only [RefersTo, readingNodes, List.mem_cons, List.not_mem_nil, or_false,
    exists_eq_or_imp, exists_eq_left, NodeKind.expressions, false_and, exists_false, false_or,
    Option.toList_none, List.append_nil, List.map_nil]
  constructor
  · rintro ⟨⟩
    rfl
  · rintro rfl
    exact .node other

theorem mem_ids_of_names_reading {reference name : String}
    (names : Names (readingNodes reference) name) : name ∈ ["start", "a", "end"] := by
  cases names with
  | node member => exact List.mem_map_of_mem (f := (·.id)) member
  | column member => simp [readingNodes] at member

theorem rejectsReference_of_reading :
    RejectsReference "main" "1" (readingNodes "b") readingEdges :=
  (rejectsReference_of_wellConnected (wellConnected_reading "b") "main" "1").1 "b"
    (refersTo_reading_iff.2 rfl) (fun names => absurd (mem_ids_of_names_reading names) (by decide))
    (by decide)

/-- There is no column `c` of `a`, which is no lookup. -/
theorem not_rejectsReference_of_column :
    WellConnected (readingNodes "a.c") readingEdges ∧ RefersTo (readingNodes "a.c") "a.c" ∧
      ¬ Names (readingNodes "a.c") "a.c" ∧
        ¬ RejectsReference "main" "1" (readingNodes "a.c") readingEdges := by
  refine ⟨wellConnected_reading "a.c", refersTo_reading_iff.2 rfl,
    fun names => absurd (mem_ids_of_names_reading names) (by decide), ?_⟩
  rw [(wellConnected_reading "a.c").rejectsReference_iff]
  rintro ⟨reference, referred, unknown⟩
  rw [refersTo_reading_iff.1 referred] at unknown
  exact absurd unknown (by decide)

end DecisionFlow.Graph
