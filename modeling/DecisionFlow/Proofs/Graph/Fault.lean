import DecisionFlow.Proofs.Graph.WellFormed

/-!
# Which fault is reported

Assembling goes through its checks in a fixed order and reports the first fault. Faults of ids, of
the start and of single edges come first; when none of them is reported, the nodes are connected, and
what is left is that a way on is missing, that a reference names no node, or that there is a cycle.

A reported cycle is one: a closed path along edges of the graph that visits nothing else twice
(`isClosedPath_of_cycle`). The search on positions has found such a path, and different positions
have different ids.
-/

set_option autoImplicit false

namespace DecisionFlow

/-- The fault shows before all edges are connected. -/
def GraphError.IsEarly : GraphError → Prop
  | .missingEdge _ _ | .unknownReference _ _ | .cycle _ => False
  | _ => True

namespace Graph

open Relation

variable {nodes : List (Node Graph)} {edges : List EdgeDocument} {id version : String}
  {index : PositionIndex} {problem : GraphError}

/-! ## Early faults -/

theorem findStart_fails_early : FailsOnlyWith GraphError.IsEarly (findStart nodes) := by
  unfold findStart
  split
  · exact .error trivial
  · exact .ok _
  · exact .error trivial

theorem placeEdge_fails_early {edge : EdgeDocument} :
    FailsOnlyWith GraphError.IsEarly (placeEdge nodes index edge) := by
  unfold placeEdge
  split
  · exact .error trivial
  · split
    · exact .error trivial
    · split
      · exact .error trivial
      · split
        · exact .error trivial
        · split
          · exact .error trivial
          · exact .ok _

theorem connect_fails_early {successors : List Successors} :
    FailsOnlyWith GraphError.IsEarly (connect nodes index successors edges) := by
  induction edges generalizing successors with
  | nil => exact .ok _
  | cons edge rest ih =>
      refine .bind placeEdge_fails_early fun placed => ?_
      dsimp only
      split
      · exact .error trivial
      · exact .bind ih fun _ => .ok _

/-- What is wrong with connected nodes is found by one of the last two checks. -/
theorem check_fails_of_connected {start : Nat} {successors : List Successors}
    {resolved : List Edge} (distinct : (ids nodes).Nodup) (found : findStart nodes = .ok start)
    (connected : connect nodes (indexOf nodes) (nodes.map fun _ => Successors.empty) edges =
      .ok (successors, resolved))
    (failed : assemble id version nodes edges = .error problem) :
    checkNodes (indexOf nodes) nodes successors = .error problem ∨
      checkAcyclic nodes successors = .error problem := by
  rw [assemble, firstRepeated_eq_none_iff.2 distinct] at failed
  dsimp only at failed
  rw [found, connected] at failed
  rcases bind_eq_error_iff.1 (show (checkNodes (indexOf nodes) nodes successors >>= _) = _ from
    failed) with unchecked | ⟨_, -, failed⟩
  · exact .inl unchecked
  · rcases bind_eq_error_iff.1 failed with cyclic | ⟨_, -, failed⟩
    · exact .inr cyclic
    · cases failed

/-- A fault that is not early is found in connected nodes. -/
theorem exists_connected_of_late (failed : assemble id version nodes edges = .error problem)
    (late : ¬ problem.IsEarly) :
    (ids nodes).Nodup ∧ ∃ successors resolved,
      connect nodes (indexOf nodes) (nodes.map fun _ => Successors.empty) edges =
        .ok (successors, resolved) ∧
      (checkNodes (indexOf nodes) nodes successors = .error problem ∨
        checkAcyclic nodes successors = .error problem) := by
  have whole := failed
  unfold assemble at failed
  split at failed
  next repeated _ =>
    cases failed
    exact absurd trivial late
  next distinct =>
    rw [firstRepeated_eq_none_iff] at distinct
    rcases bind_eq_error_iff.1 failed with noStart | ⟨start, found, failed⟩
    · exact absurd (findStart_fails_early problem noStart) late
    · rcases bind_eq_error_iff.1 failed with unconnected | ⟨⟨successors, resolved⟩, connected, -⟩
      · exact absurd (connect_fails_early problem unconnected) late
      · exact ⟨distinct, successors, resolved, connected,
          check_fails_of_connected distinct found connected whole⟩

/-! ## Faults of single nodes -/

/-- A fault that the checks of all nodes find is one that the check of some node finds. -/
theorem exists_checkNode_of_checkNodes {successors : List Successors}
    (failed : checkNodes index nodes successors = .error problem) :
    ∃ (position : Nat) (node : Node Graph) (outgoing : Successors),
      nodes[position]? = some node ∧ successors[position]? = some outgoing ∧
        checkNode index node outgoing = .error problem := by
  induction nodes generalizing successors with
  | nil => cases failed
  | cons node rest ih =>
      cases successors with
      | nil => cases failed
      | cons outgoing others =>
          rcases bind_eq_error_iff.1 failed with here | ⟨_, -, later⟩
          · exact ⟨0, node, outgoing, rfl, rfl, here⟩
          · obtain ⟨position, other, leaving, isNode, isOutgoing, found⟩ := ih later
            exact ⟨position + 1, other, leaving, isNode, isOutgoing, found⟩

/-- A node lacks a way on, or it has all of them and refers to something that is no node. -/
theorem checkNode_eq_error_iff {node : Node Graph} {outgoing : Successors} :
    checkNode index node outgoing = .error problem ↔
      (∃ label, missingLabel? outgoing node.kind.requiredLabels = some label ∧
        problem = .missingEdge node.id label) ∨
      missingLabel? outgoing node.kind.requiredLabels = none ∧ ∃ name,
        (references node).find? (fun name => (index.find? name).isNone) = some name ∧
          problem = .unknownReference node.id name := by
  unfold checkNode
  split
  next label missing => simp [missing, eq_comm]
  next complete =>
    split
    next name unknown => simp [complete, unknown, eq_comm]
    next known => simp [complete, known]

theorem checkNodes_ne_cycle {successors : List Successors} {path : List String} :
    checkNodes index nodes successors ≠ .error (.cycle path) := by
  intro failed
  obtain ⟨_, _, _, -, -, found⟩ := exists_checkNode_of_checkNodes failed
  rcases checkNode_eq_error_iff.1 found with ⟨_, -, same⟩ | ⟨-, _, -, same⟩
  all_goals cases same

/-! ## Cycles -/

/-- The id at a position. -/
def idAt (nodes : List (Node Graph)) (position : Nat) : String :=
  (nodes[position]?.map (·.id)).getD ""

theorem idAt_eq {position : Nat} {name : String} (here : (ids nodes)[position]? = some name) :
    idAt nodes position = name := by
  rw [idAt, ← getElem?_ids, here, Option.getD_some]

/-- Different positions have different ids. -/
theorem idAt_inj (distinct : (ids nodes).Nodup) {position other : Nat}
    (inside : position < nodes.length) (otherInside : other < nodes.length)
    (same : idAt nodes position = idAt nodes other) : position = other := by
  have here : (ids nodes)[position]? = some (idAt nodes position) := by simp [idAt, inside]
  have there : (ids nodes)[other]? = some (idAt nodes other) := by simp [idAt, otherInside]
  exact place_unique distinct here (same ▸ there)

theorem checkAcyclic_eq_error_iff {successors : List Successors} :
    checkAcyclic nodes successors = .error problem ↔
      ∃ cycle, findCycle? successors = some cycle ∧ problem = .cycle (cycle.map (idAt nodes)) := by
  unfold checkAcyclic
  split
  next none => simp [none]
  next cycle found =>
    simp only [found, Option.some.injEq, exists_eq_left', Except.error.injEq]
    exact eq_comm

/-- A path along edges that ends with the id that it begins with and visits no id twice otherwise. -/
structure IsClosedPath (edges : List EdgeDocument) (path : List String) : Prop where
  /-- There is at least one edge. -/
  long : 2 ≤ path.length
  closed : path.head? = path.getLast?
  /-- Without the last one, which is the first again, all ids are different. -/
  distinct : path.dropLast.Nodup
  linked : path.IsChain (Links edges)

/-- On a path every position but the last leads on. -/
theorem IsCycle.lt_length {successors : List Successors} {cycle : List Nat}
    (isCycle : IsCycle successors cycle) {position : Nat} (member : position ∈ cycle) :
    position < successors.length := by
  obtain ⟨root, inner, rfl, -, chain⟩ := isCycle
  have early : position ∈ root :: inner := by
    rcases List.mem_append.1 member with early | last
    · exact early
    · exact List.mem_singleton.1 last ▸ List.mem_cons_self
  obtain ⟨front, back, split⟩ := List.append_of_mem early
  rw [split, List.append_assoc, List.cons_append] at chain
  have onward := chain.right_of_append
  cases back with
  | nil => exact lt_length_of_leads (List.isChain_cons_cons.1 onward).1
  | cons next rest => exact lt_length_of_leads (List.isChain_cons_cons.1 onward).1

/-- The ids along a cycle of positions are a closed path. -/
theorem isClosedPath_of_isCycle {successors : List Successors} {resolved : List Edge}
    (distinct : (ids nodes).Nodup)
    (connected : connect nodes (indexOf nodes) (nodes.map fun _ => Successors.empty) edges =
      .ok (successors, resolved)) {cycle : List Nat} (isCycle : IsCycle successors cycle) :
    IsClosedPath edges (cycle.map (idAt nodes)) := by
  have inside : ∀ position ∈ cycle, position < nodes.length := fun position member =>
    length_of_connect connected ▸ isCycle.lt_length member
  obtain ⟨root, inner, rfl, nodup, chain⟩ := isCycle
  rw [List.map_append, List.map_singleton]
  refine ⟨by simp, by rw [List.getLast?_concat, List.map_cons, List.cons_append]; rfl, ?_, ?_⟩
  · rw [List.dropLast_concat]
    refine nodup.map_on fun position member other otherMember same => ?_
    exact idAt_inj distinct (inside position (List.mem_append_left _ member))
      (inside other (List.mem_append_left _ otherMember)) same
  · rw [← List.map_singleton, ← List.map_append]
    refine List.isChain_map_of_isChain _ (fun position next leads => ?_) chain
    obtain ⟨edge, member, source, target⟩ := (leads_iff distinct connected).1 leads
    exact ⟨edge, member, (idAt_eq source).symm, (idAt_eq target).symm⟩

/-- **A reported cycle is one.** It has at least one edge, ends where it begins, visits nothing else
twice and follows edges of the graph. -/
theorem isClosedPath_of_cycle {path : List String}
    (failed : assemble id version nodes edges = .error (.cycle path)) : IsClosedPath edges path := by
  obtain ⟨distinct, successors, resolved, connected, unchecked | cyclic⟩ :=
    exists_connected_of_late failed not_false
  · exact absurd unchecked checkNodes_ne_cycle
  · obtain ⟨cycle, found, ⟨⟩⟩ := checkAcyclic_eq_error_iff.1 cyclic
    exact isClosedPath_of_isCycle distinct connected (isCycle_of_findCycle? found)

/-- A computation that is repeated until a condition holds. -/
def repeatingNodes : List (Node Graph) :=
  [⟨"start", .start⟩, ⟨"grow", .arithmetic (.field "x") none⟩, ⟨"check", .conditional (.field "y")⟩,
    ⟨"end", .output ⟨.node "grow", none, []⟩⟩]

def repeatingEdges : List EdgeDocument :=
  [⟨"start", "grow", none⟩, ⟨"grow", "check", none⟩, ⟨"check", "end", some "then"⟩,
    ⟨"check", "grow", some "else"⟩]

/-- The path of a reported cycle. -/
def reportedCycle? : Except GraphError Graph → Option (List String)
  | .error (.cycle path) => some path
  | _ => none

/-- The path leaves out the start, from which the search has come. -/
theorem isClosedPath_of_repeating :
    assemble "main" "1" repeatingNodes repeatingEdges = .error (.cycle ["grow", "check", "grow"]) ∧
      IsClosedPath repeatingEdges ["grow", "check", "grow"] := by
  have reported : reportedCycle? (assemble "main" "1" repeatingNodes repeatingEdges) =
      some ["grow", "check", "grow"] := by
    decide +kernel
  have failed : assemble "main" "1" repeatingNodes repeatingEdges =
      .error (.cycle ["grow", "check", "grow"]) := by
    unfold reportedCycle? at reported
    split at reported
    next failed =>
      rw [failed, Option.some.inj reported]
    next => cases reported
  exact ⟨failed, isClosedPath_of_cycle failed⟩

end Graph

end DecisionFlow
