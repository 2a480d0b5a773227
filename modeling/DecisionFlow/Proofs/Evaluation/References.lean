import DecisionFlow.Proofs.Evaluation.Walk

/-!
# What references to nodes read

An expression refers to a node by its id and is to read the value that the node has computed, or
null if the walk has not been there. The value of a node is bound under its id, though, and a further
column of a table lookup under the text `node.column`, and ids may be any text. So a reference reads
what was bound last under its text, be it the node's own value or a column that a lookup has bound
over it (`Arrives.evaluate_node`). It reads what it is meant to read exactly if no such column shows
another value (`readsOwn_iff`), as in every graph where no id has the form of a lookup's further
column.

The nodes that a walk has been through are listed with the steps that they took, the latest first,
in the order in which bindings are searched.
-/

set_option autoImplicit false

namespace DecisionFlow

open Relation

/-- A node that a walk has been through, and the step that it took. -/
structure Visit where
  position : Nat
  node : String
  step : Step

namespace Visit

/-- What the visit has bound, the latest first. -/
def bound (visit : Visit) : List (String × Value) :=
  (visit.node, visit.step.value) :: visit.step.columns.reverse

/-- What the named node has computed on one of the visits. -/
def computed? (visits : List Visit) (name : String) : Option Value :=
  (visits.find? (·.node == name)).map (·.step.value)

/-- The further column that was bound last under a name, by visits after that to the named node. -/
def overlaid? (visits : List Visit) (name : String) : Option Value :=
  ((visits.takeWhile (·.node != name)).flatMap (·.step.columns.reverse)).lookup name

/-- Under a name stands the further column bound over it, or else what the node has computed. -/
theorem lookup_flatMap_bound (visits : List Visit) (name : String) :
    (visits.flatMap bound).lookup name = (overlaid? visits name).or (computed? visits name) := by
  induction visits with
  | nil => rfl
  | cons visit earlier ih =>
      by_cases own : visit.node = name
      · simp [bound, overlaid?, computed?, own]
      · have elsewhere : (name == visit.node) = false := beq_false_of_ne (Ne.symm own)
        have latest : (bound visit).lookup name = visit.step.columns.reverse.lookup name := by
          rw [bound, List.lookup_cons, elsewhere]
        have overlays : overlaid? (visit :: earlier) name =
            (visit.step.columns.reverse.lookup name).or (overlaid? earlier name) := by
          simp [overlaid?, own, List.lookup_append]
        have computes : computed? (visit :: earlier) name = computed? earlier name := by
          simp [computed?, own]
        rw [List.flatMap_cons, List.lookup_append, latest, ih, overlays, computes, Option.or_assoc]

end Visit

/-- A reference to the named node reads what the node has computed, and null if the walk has not been
there. -/
structure ReadsOwn (visits : List Visit) (bindings : Bindings) (name : String) : Prop where
  visited : ∀ visit ∈ visits, visit.node = name →
    (Expression.node name).evaluate bindings = .ok visit.step.value
  unvisited : (∀ visit ∈ visits, visit.node ≠ name) →
    (Expression.node name).evaluate bindings = .ok .null

/-! ## Bindings after a step -/

namespace Bindings

theorem values_bindAll (bindings : Bindings) (values : List (String × Value)) :
    (bindings.bindAll values).values = values.reverse ++ bindings.values := by
  induction values generalizing bindings with
  | nil => rfl
  | cons entry rest ih =>
      rw [List.reverse_cons, List.append_assoc]
      exact ih (bindings.bind entry.1 entry.2)

theorem values_bindStep (bindings : Bindings) (node : String) (step : Step) :
    (Terrain.bindStep bindings node step).values =
      (node, step.value) :: (step.columns.reverse ++ bindings.values) := by
  rw [← values_bindAll]
  rfl

end Bindings

/-! ## Further columns of steps -/

/-- The further columns of a lookup are bound under the id of its node and their own names. -/
theorem TableLookup.keys_of_columnValues {lookup : TableLookup} {node : String} {row : Nat}
    {columns : List String} {values : List (String × Value)}
    (found : lookup.columnValues node row columns = .ok values) :
    values.map Prod.fst = columns.map (node ++ "." ++ ·) := by
  induction columns generalizing values with
  | nil =>
      cases found
      rfl
  | cons column rest ih =>
      obtain ⟨value, -, found⟩ := bind_eq_ok_iff.1 found
      obtain ⟨values, others, found⟩ := bind_eq_ok_iff.1 found
      cases found
      rw [List.map_cons, List.map_cons, ih others]

theorem TableLookup.keys_of_step {lookup : TableLookup} {node : String}
    {wanted : List (String × Value)} {step : Step} (taken : lookup.step node wanted = .ok step) :
    step.columns.map Prod.fst = lookup.extraTargets.map (node ++ "." ++ ·) := by
  obtain ⟨row, -, taken⟩ := bind_eq_ok_iff.1 taken
  obtain ⟨columns, found, taken⟩ := bind_eq_ok_iff.1 taken
  obtain ⟨value, -, taken⟩ := bind_eq_ok_iff.1 taken
  cases taken
  exact keys_of_columnValues found

/-- Only a table lookup binds further columns. -/
theorem NodeKind.lookup_of_mem_columns {kind : NodeKind Evaluator} {node name : String}
    {bindings : Bindings} {step : Step} (taken : (kind.step node bindings).outcome = .ok step)
    (member : name ∈ step.columns.map Prod.fst) :
    ∃ lookup column, kind = .tableLookup lookup ∧ column ∈ lookup.extraTargets ∧
      node ++ "." ++ column = name := by
  cases kind with
  | tableLookup lookup =>
      obtain ⟨wanted, -, taken⟩ := bind_eq_ok_iff.1 taken
      rw [TableLookup.keys_of_step (mapError_eq_ok_iff.1 taken)] at member
      obtain ⟨column, extra, isName⟩ := List.mem_map.1 member
      exact ⟨lookup, column, rfl, extra, isName⟩
  | start | input =>
      cases taken
      cases member
  | conditional predicate =>
      obtain ⟨value, -, taken⟩ := bind_eq_ok_iff.1 taken
      obtain ⟨holds, rfl⟩ := step_of_branch taken
      cases member
  | arithmetic expression rounding =>
      obtain ⟨value, -, taken⟩ := bind_eq_ok_iff.1 taken
      obtain ⟨value, -, taken⟩ := bind_eq_ok_iff.1 taken
      cases taken
      cases member
  | stringTransform | output =>
      obtain ⟨value, -, taken⟩ := bind_eq_ok_iff.1 taken
      cases taken
      cases member
  | subflowCall call =>
      obtain ⟨value, rfl⟩ := SubflowCall.step_eq_next taken
      cases member

/-! ## Nodes that a walk has been through -/

namespace Graph

variable {graph : Graph} {record : Record} {visits : List Visit} {place : Place}

/-- A walk of the graph for a record has been through these nodes, the latest first, and is now at a
place. -/
inductive Arrives (graph : Graph) (record : Record) : List Visit → Place → Prop where
  | start : Arrives graph record [] (graph.startPlace record)
  | step {visits : List Visit} {position next : Nat} {bindings : Bindings} {node : String}
      {kind : NodeKind Evaluator} {step : Step}
      (arrived : Arrives graph record visits ⟨position, bindings⟩)
      (here : graph.terrain.nodes[position]? = some ⟨node, kind⟩)
      (onward : kind.isTerminal = false) (taken : (kind.step node bindings).outcome = .ok step)
      (edge : slot? graph.successors position step.label = some next) :
      Arrives graph record (⟨position, node, step⟩ :: visits)
        ⟨next, Terrain.bindStep bindings node step⟩

/-- A walk arrives at every place of its journey. -/
theorem Arrives.of_journey {places : List Place} {run : Run}
    (arrived : Arrives graph record visits place)
    (journey : graph.terrain.Journey place places run) :
    ∀ visited ∈ places, ∃ visits, Arrives graph record visits visited := by
  induction journey generalizing visits with
  | arrive | fail =>
      intro visited member
      rw [List.mem_singleton.1 member]
      exact ⟨visits, arrived⟩
  | proceed here onward taken edge later ih =>
      intro visited member
      rcases List.mem_cons.1 member with rfl | member
      · exact ⟨visits, arrived⟩
      · exact ih (arrived.step here onward taken edge) visited member

/-- Every place that an evaluation goes through is arrived at. -/
theorem Completes.exists_arrives {places : List Place} (completes : graph.Completes record places) :
    ∀ visited ∈ places, ∃ visits, Arrives graph record visits visited :=
  Arrives.start.of_journey completes.journey

/-- What is bound at a place was bound by the visits. -/
theorem Arrives.values_eq (arrived : Arrives graph record visits place) :
    place.bindings.values = visits.flatMap Visit.bound := by
  induction arrived with
  | start => rfl
  | step _ _ _ _ _ ih =>
      rw [Bindings.values_bindStep, List.flatMap_cons, ← ih]
      rfl

/-- **References read the latest.** A reference reads the further column that was bound over a node's
value, or else the value, or null if there is neither. -/
theorem Arrives.evaluate_node (arrived : Arrives graph record visits place) (name : String) :
    (Expression.node name).evaluate place.bindings =
      .ok (((Visit.overlaid? visits name).or (Visit.computed? visits name)).getD .null) := by
  rw [Expression.evaluate, Bindings.node, arrived.values_eq, Visit.lookup_flatMap_bound]

/-- A walk goes on from each visit along edges. -/
theorem Arrives.leads (arrived : Arrives graph record visits place) :
    ∀ visit ∈ visits, TransGen (Leads graph.successors) visit.position place.position := by
  induction arrived with
  | start => simp
  | step _ _ _ _ edge ih =>
      have last := leads_of_slot? edge
      intro visit member
      rcases List.mem_cons.1 member with rfl | member
      · exact .single last
      · exact (ih visit member).tail last

/-- A visit is to the node at its position. -/
theorem Arrives.exists_node (arrived : Arrives graph record visits place) :
    ∀ visit ∈ visits, ∃ kind bindings, graph.nodes[visit.position]? = some ⟨visit.node, kind⟩ ∧
      ((kind.map run).step visit.node bindings).outcome = .ok visit.step := by
  induction arrived with
  | start => simp
  | @step _ _ _ bindings _ _ _ _ here _ taken _ ih =>
      intro visit member
      rcases List.mem_cons.1 member with rfl | member
      · obtain ⟨⟨node, kind⟩, isNode, rfl, rfl⟩ : ∃ found, graph.nodes[_]? = some found ∧ _ := by
          simpa [terrain, Node.map] using here
        exact ⟨kind, bindings, isNode, taken⟩
      · exact ih visit member

theorem Arrives.getElem?_ids (arrived : Arrives graph record visits place) {visit : Visit}
    (member : visit ∈ visits) : (ids graph.nodes)[visit.position]? = some visit.node := by
  obtain ⟨kind, -, isNode, -⟩ := arrived.exists_node visit member
  rw [Graph.getElem?_ids, isNode, Option.map_some]

/-- No node of an assembled graph is visited twice. -/
theorem Arrives.nodup (arrived : Arrives graph record visits place) (built : Assembled graph) :
    (visits.map Visit.node).Nodup := by
  induction arrived with
  | start => exact List.nodup_nil
  | step arrived here onward taken edge ih =>
      refine List.nodup_cons.2 ⟨?_, ih⟩
      -- An earlier visit to the same node was at the same position, and leads back to it.
      intro again
      obtain ⟨visit, member, same⟩ := List.mem_map.1 again
      have now := (arrived.step here onward taken edge).getElem?_ids List.mem_cons_self
      have before := same ▸ arrived.getElem?_ids member
      have back := arrived.leads visit member
      rw [place_unique built.nodup_ids before now] at back
      exact built.navigable.acyclic _ back

/-- What a node has computed is the value of its only visit. -/
theorem Arrives.computed?_eq_some_iff (arrived : Arrives graph record visits place)
    (built : Assembled graph) {name : String} {value : Value} :
    Visit.computed? visits name = some value ↔
      ∃ visit ∈ visits, visit.node = name ∧ visit.step.value = value := by
  constructor
  · intro computed
    obtain ⟨visit, found, isValue⟩ := Option.map_eq_some_iff.1 computed
    exact ⟨visit, List.mem_of_find?_eq_some found, by simpa using List.find?_some found, isValue⟩
  · rintro ⟨visit, member, isNode, isValue⟩
    obtain ⟨other, found⟩ : ∃ other, visits.find? (·.node == name) = some other :=
      Option.isSome_iff_exists.1 (List.find?_isSome.2 ⟨visit, member, by simpa using isNode⟩)
    have sameNode : other.node = name := by simpa using List.find?_some found
    have same : other = visit := List.inj_on_of_nodup_map (arrived.nodup built)
      (List.mem_of_find?_eq_some found) member (sameNode.trans isNode.symm)
    rw [Visit.computed?, found, Option.map_some, same, isValue]

/-- Some table lookup of the graph binds a further column under the name. -/
def BindsColumn (graph : Graph) (name : String) : Prop :=
  ∃ node lookup column, ⟨node, .tableLookup lookup⟩ ∈ graph.nodes ∧ column ∈ lookup.extraTargets ∧
    node ++ "." ++ column = name

/-- Only a lookup of the graph binds a further column over the value of a node. -/
theorem Arrives.overlaid?_eq_none (arrived : Arrives graph record visits place) {name : String}
    (apart : ¬ graph.BindsColumn name) : Visit.overlaid? visits name = none := by
  rw [Visit.overlaid?, List.lookup_eq_none_iff]
  intro entry member
  obtain ⟨visit, later, bound⟩ := List.mem_flatMap.1 member
  have visited := (List.takeWhile_subset _) later
  obtain ⟨kind, bindings, isNode, taken⟩ := arrived.exists_node visit visited
  apply bne_iff_ne.2
  rintro rfl
  have column := List.mem_map_of_mem (f := Prod.fst) (List.mem_reverse.1 bound)
  obtain ⟨lookup, extra, isLookup, listed, isName⟩ := NodeKind.lookup_of_mem_columns taken column
  rw [NodeKind.map_eq_tableLookup_iff.1 isLookup] at isNode
  exact apart ⟨visit.node, lookup, extra, List.mem_of_getElem? isNode, listed, isName⟩

/-- References are right when they read what the visits have computed. -/
theorem Arrives.readsOwn_iff_eq (arrived : Arrives graph record visits place)
    (built : Assembled graph) {bindings : Bindings} {name : String} :
    ReadsOwn visits bindings name ↔ (Expression.node name).evaluate bindings =
      .ok ((Visit.computed? visits name).getD .null) := by
  cases computed : Visit.computed? visits name with
  | none =>
      have unvisited : ∀ visit ∈ visits, visit.node ≠ name := by
        simpa [Visit.computed?] using computed
      constructor
      · exact fun own => own.unvisited unvisited
      · exact fun reads => ⟨fun visit member isNode => absurd isNode (unvisited visit member),
          fun _ => reads⟩
  | some value =>
      obtain ⟨visit, member, isNode, rfl⟩ := (arrived.computed?_eq_some_iff built).1 computed
      constructor
      · exact fun own => own.visited visit member isNode
      · intro reads
        refine ⟨fun other otherMember otherNode => ?_, fun unvisited => ?_⟩
        · have also := (arrived.computed?_eq_some_iff built).2 ⟨other, otherMember, otherNode, rfl⟩
          rw [reads, Option.some.inj (computed.symm.trans also), Option.getD_some]
        · exact absurd isNode (unvisited visit member)

/-- **References read what nodes compute.** A reference to a node reads the value that the node has
computed, and null if the walk has not been there, exactly if no further column that a table lookup
has bound over it since shows another value. In a graph where no lookup binds a further column under
the id of the node, it always does. This is so wherever a walk arrives, and one arrives at every place
that an evaluation goes through. -/
theorem readsOwn_iff (built : Assembled graph) (arrived : Arrives graph record visits place)
    (name : String) :
    (ReadsOwn visits place.bindings name ↔ ∀ value, Visit.overlaid? visits name = some value →
      value = (Visit.computed? visits name).getD .null) ∧
    (¬ graph.BindsColumn name → ReadsOwn visits place.bindings name) ∧
    ∀ places, graph.Completes record places →
      ∀ visited ∈ places, ∃ visits, Arrives graph record visits visited := by
  have reads := arrived.evaluate_node name
  rw [arrived.readsOwn_iff_eq built, reads]
  refine ⟨?_, fun apart => ?_, fun places completes => completes.exists_arrives⟩
  · cases Visit.overlaid? visits name <;> simp
  · rw [arrived.overlaid?_eq_none apart, Option.none_or]

/-! ## A node with the name of a column -/

/-- The lookup `t` binds its column `c` under `t.c`, the id of a node that the walk visits before. -/
def overlayingNodes : List (Node Graph) :=
  [⟨"start", .start⟩, ⟨"t.c", .input "x"⟩,
    ⟨"t", .tableLookup {
      keys := [("k", .literal (.bool true))]
      target := "k"
      extraTargets := ["c"]
      table := ⟨["k", "c"], [[.literal (.bool true), .literal (.string "column c")]]⟩ }⟩,
    ⟨"end", .output ⟨.node "t.c", none, []⟩⟩]

/-- One node after the other. -/
def overlayingEdges : List EdgeDocument :=
  [⟨"start", "t.c", none⟩, ⟨"t.c", "t", none⟩, ⟨"t", "end", none⟩]

def overlaidRecord : Record := .ofList [("x", .string "node t.c")]

/-- The visits on the way to the output, the latest first. -/
def overlayingVisits : List Visit :=
  [⟨2, "t", .next, .bool true, [("t.c", .string "column c")]⟩,
    ⟨1, "t.c", .next (.string "node t.c")⟩, ⟨0, "start", .next .null⟩]

/-- What they have bound. -/
def overlaidBindings : Bindings :=
  ⟨overlaidRecord, [("t", .bool true), ("t.c", .string "column c"), ("t.c", .string "node t.c"),
    ("start", .null)]⟩

theorem exists_overlaying : ∃ graph,
    assemble "main" "1" overlayingNodes overlayingEdges = .ok graph ∧
      Arrives graph overlaidRecord overlayingVisits ⟨3, overlaidBindings⟩ := by
  refine ⟨_, assemble_eq_ok_iff.2 ⟨by decide, 0,
    [⟨some 1, none, none⟩, ⟨some 2, none, none⟩, ⟨some 3, none, none⟩, .empty], _, by rfl, by rfl,
    by rfl, by decide +kernel, by rfl⟩, ?_⟩
  exact .step (.step (.step .start rfl rfl rfl rfl) rfl rfl rfl rfl) rfl rfl rfl rfl

/-- The node `t.c` has computed one value, and a reference to it reads another. -/
theorem exists_misread_node : ∃ graph,
    assemble "main" "1" overlayingNodes overlayingEdges = .ok graph ∧ Assembled graph ∧
      "t.c" ∈ ids graph.nodes ∧ ∃ visits place, Arrives graph overlaidRecord visits place ∧
        (∃ visit ∈ visits, visit.node = "t.c" ∧ visit.step.value = .string "node t.c") ∧
          (Expression.node "t.c").evaluate place.bindings = .ok (.string "column c") ∧
            ¬ ReadsOwn visits place.bindings "t.c" := by
  obtain ⟨graph, isGraph, arrived⟩ := exists_overlaying
  have built : Assembled graph := .intro isGraph (by simp [overlayingNodes, NodeKind.callee?])
  have visited : ⟨1, "t.c", .next (.string "node t.c")⟩ ∈ overlayingVisits := by
    simp [overlayingVisits]
  have reads : (Expression.node "t.c").evaluate overlaidBindings = .ok (.string "column c") := rfl
  refine ⟨graph, isGraph, built, ?_, _, _, arrived, ⟨_, visited, rfl, rfl⟩, reads, fun own => ?_⟩
  · rw [nodes_of_assemble isGraph]
    decide
  · have meant := reads.symm.trans (own.visited _ visited rfl)
    simp [Step.next] at meant

/-- References to the lookup itself read its value. -/
theorem readsOwn_of_overlaying : ∃ graph visits place,
    Assembled graph ∧ Arrives graph overlaidRecord visits place ∧ ¬ graph.BindsColumn "t" ∧
      (ReadsOwn visits place.bindings "t" ↔ ∀ value, Visit.overlaid? visits "t" = some value →
        value = (Visit.computed? visits "t").getD .null) ∧
      ReadsOwn visits place.bindings "t" := by
  obtain ⟨graph, isGraph, arrived⟩ := exists_overlaying
  have built : Assembled graph := .intro isGraph (by simp [overlayingNodes, NodeKind.callee?])
  have apart : ¬ graph.BindsColumn "t" := by
    rintro ⟨node, lookup, column, member, extra, isName⟩
    rw [nodes_of_assemble isGraph] at member
    obtain ⟨rfl, rfl⟩ := by simpa [overlayingNodes] using member
    rw [List.mem_singleton.1 extra] at isName
    exact absurd isName (by decide)
  obtain ⟨exactly, always, -⟩ := readsOwn_iff built arrived "t"
  exact ⟨graph, _, _, built, arrived, apart, exactly, always apart⟩

end Graph

end DecisionFlow
