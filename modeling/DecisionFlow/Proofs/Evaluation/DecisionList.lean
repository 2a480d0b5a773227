import DecisionFlow.Proofs.Compilation.Derivation
import DecisionFlow.Proofs.Evaluation.Walk
import DecisionFlow.Proofs.Graph.Spelling

/-!
# Decision lists

A decision list tries its rules in order. The predicate of the first rule that does not turn out
false decides: if it is true, the outcome is what the rule puts out, and otherwise the predicate has
failed, or is no truth value, and so does the list. Only if all predicates are false, the fallback is
put out.

As a flow, a decision list is a chain of conditions: one branch of each leads to an output and the
other one to the next condition. Every document that describes such a chain compiles, and its graph
decides as the list does (`decides_in_order`), whatever the number of rules and the order in which
nodes and edges are written. Edges of a chain lead to nodes that come later in it, so there is no
cycle; and a walk that has come to a rule takes its remaining steps as the rules that are left say
(`outcome_of_journey`, by induction on these).
-/

set_option autoImplicit false

namespace DecisionFlow

/-- A predicate and what is put out if it holds, with the ids of the two nodes. -/
structure Rule where
  test : String
  predicate : Expression
  verdict : String
  output : Expression

/-- Rules in the order in which they are tried, and what is put out if no predicate holds. -/
structure DecisionList where
  start : String
  rules : List Rule
  fallback : String
  otherwise : Expression

/-! ## What a list decides -/

/-- The result of a flow that puts out a value and nothing else. -/
def FlowResult.only (value : Value) : FlowResult where
  output := value
  message := .null
  extras := []

/-- The outcome of putting out an expression. -/
def Expression.verdict (bindings : Bindings) (expression : Expression) :
    Except EvaluationError FlowResult :=
  FlowResult.only <$> expression.evaluate bindings

/-- What rules decide. -/
def Rule.decide (bindings : Bindings) (otherwise : Expression) :
    List Rule → Except EvaluationError FlowResult
  | [] => otherwise.verdict bindings
  | rule :: rest =>
    match rule.predicate.evaluate bindings with
    | .error problem => .error problem
    | .ok (.bool true) => rule.output.verdict bindings
    | .ok (.bool false) => decide bindings otherwise rest
    | .ok found => mismatch .conditional .bool found

/-- Rules whose predicates are false are passed. -/
theorem Rule.decide_append {bindings : Bindings} {before : List Rule}
    (passed : ∀ rule ∈ before, rule.predicate.evaluate bindings = .ok (.bool false))
    (otherwise : Expression) (rules : List Rule) :
    decide bindings otherwise (before ++ rules) = decide bindings otherwise rules := by
  induction before with
  | nil => rfl
  | cons rule rest ih =>
      obtain ⟨first, others⟩ := List.forall_mem_cons.1 passed
      rw [List.cons_append, decide, first]
      exact ih others

/-- How the outcome for a record is decided: by the first rule whose predicate is not false, whatever
the later ones say. -/
structure DecisionList.Decides (list : DecisionList) (record : Record)
    (outcome : Except EvaluationError FlowResult) : Prop where
  holds : ∀ before rule after, list.rules = before ++ rule :: after →
    (∀ earlier ∈ before, earlier.predicate.evaluate (.initial record) = .ok (.bool false)) →
      rule.predicate.evaluate (.initial record) = .ok (.bool true) →
        outcome = rule.output.verdict (.initial record)
  none : (∀ rule ∈ list.rules, rule.predicate.evaluate (.initial record) = .ok (.bool false)) →
    outcome = list.otherwise.verdict (.initial record)
  fails : ∀ before rule after problem, list.rules = before ++ rule :: after →
    (∀ earlier ∈ before, earlier.predicate.evaluate (.initial record) = .ok (.bool false)) →
      rule.predicate.evaluate (.initial record) = .error problem → outcome = .error problem
  noTruthValue : ∀ before rule after found, list.rules = before ++ rule :: after →
    (∀ earlier ∈ before, earlier.predicate.evaluate (.initial record) = .ok (.bool false)) →
      rule.predicate.evaluate (.initial record) = .ok found → (∀ truth, found ≠ .bool truth) →
        outcome = mismatch .conditional .bool found

namespace DecisionList

theorem decides_decide (list : DecisionList) (record : Record) :
    list.Decides record (Rule.decide (.initial record) list.otherwise list.rules) where
  holds := by
    rintro before rule after split passed holds
    rw [split, Rule.decide_append passed, Rule.decide, holds]
  none := by
    intro passed
    have all := Rule.decide_append passed list.otherwise []
    rwa [List.append_nil] at all
  fails := by
    rintro before rule after problem split passed fails
    rw [split, Rule.decide_append passed, Rule.decide, fails]
  noTruthValue := by
    rintro before rule after found split passed evaluated noTruth
    rw [split, Rule.decide_append passed, Rule.decide, evaluated]
    cases found with
    | bool truth => exact absurd rfl (noTruth truth)
    | _ => rfl

/-! ## Chains -/

/-- The node that rules are entered by. -/
def entry (fallback : String) : List Rule → String
  | [] => fallback
  | rule :: _ => rule.test

/-- A node that puts out an expression. -/
def outputNode (id : String) (output : Expression) : Node Graph :=
  ⟨id, .output ⟨output, none, []⟩⟩

/-- A condition and an output for each rule, and the fallback. -/
def chainNodes (fallback : String) (otherwise : Expression) : List Rule → List (Node Graph)
  | [] => [outputNode fallback otherwise]
  | rule :: rest =>
    ⟨rule.test, .conditional rule.predicate⟩ :: outputNode rule.verdict rule.output ::
      chainNodes fallback otherwise rest

/-- From each condition to the output of its rule and to the next rule. -/
def chainEdges (fallback : String) : List Rule → List Edge
  | [] => []
  | rule :: rest =>
    ⟨rule.test, .thenBranch, rule.verdict⟩ :: ⟨rule.test, .elseBranch, entry fallback rest⟩ ::
      chainEdges fallback rest

/-- The nodes of a list. -/
def nodes (list : DecisionList) : List (Node Graph) :=
  ⟨list.start, .start⟩ :: chainNodes list.fallback list.otherwise list.rules

/-- The edges of a list. -/
def edges (list : DecisionList) : List Edge :=
  ⟨list.start, .next, entry list.fallback list.rules⟩ :: chainEdges list.fallback list.rules

/-- The ids of the nodes of a list. -/
def ids (list : DecisionList) : List String :=
  Graph.ids list.nodes

/-- No expression of the list reads the value of a node. -/
structure ReadsRecordOnly (list : DecisionList) : Prop where
  rules : ∀ rule ∈ list.rules, rule.predicate.nodes = [] ∧ rule.output.nodes = []
  otherwise : list.otherwise.nodes = []

section Chains

variable {fallback : String} {otherwise : Expression} {rules : List Rule}

theorem entry_mem_ids (fallback : String) (otherwise : Expression) (rules : List Rule) :
    entry fallback rules ∈ Graph.ids (chainNodes fallback otherwise rules) := by
  cases rules <;> exact List.mem_cons_self

/-- Edges lead to nodes that come later in the chain. -/
theorem sublist_of_mem_chainEdges (otherwise : Expression) {edge : Edge}
    (member : edge ∈ chainEdges fallback rules) :
    [edge.source, edge.target].Sublist (Graph.ids (chainNodes fallback otherwise rules)) := by
  induction rules with
  | nil => cases member
  | cons rule rest ih =>
      simp only [chainEdges, List.mem_cons] at member
      rcases member with rfl | rfl | later
      · exact ((List.nil_sublist _).cons_cons _).cons_cons _
      · exact ((List.singleton_sublist.2 (entry_mem_ids fallback otherwise rest)).cons _).cons_cons _
      · exact ((ih later).cons _).cons _

theorem exists_source_of_mem_chainEdges (otherwise : Expression) {edge : Edge}
    (member : edge ∈ chainEdges fallback rules) :
    ∃ node ∈ chainNodes fallback otherwise rules, node.id = edge.source ∧
      edge.label ∈ node.kind.requiredLabels := by
  induction rules with
  | nil => cases member
  | cons rule rest ih =>
      simp only [chainEdges, List.mem_cons] at member
      rcases member with rfl | rfl | later
      · exact ⟨_, List.mem_cons_self, rfl, List.mem_cons_self⟩
      · exact ⟨_, List.mem_cons_self, rfl, List.mem_cons_of_mem _ List.mem_cons_self⟩
      · obtain ⟨node, isNode, leaves⟩ := ih later
        exact ⟨node, List.mem_cons_of_mem _ (List.mem_cons_of_mem _ isNode), leaves⟩

theorem exists_edge_of_mem_chainNodes {node : Node Graph}
    (member : node ∈ chainNodes fallback otherwise rules) {label : EdgeLabel}
    (required : label ∈ node.kind.requiredLabels) :
    ∃ edge ∈ chainEdges fallback rules, edge.source = node.id ∧ edge.label = label := by
  induction rules with
  | nil =>
      obtain rfl := List.mem_singleton.1 member
      cases required
  | cons rule rest ih =>
      simp only [chainNodes, List.mem_cons] at member
      rcases member with rfl | rfl | later
      · simp only [NodeKind.requiredLabels, List.mem_cons, List.not_mem_nil, or_false] at required
        rcases required with rfl | rfl
        · exact ⟨_, List.mem_cons_self, rfl, rfl⟩
        · exact ⟨_, List.mem_cons_of_mem _ List.mem_cons_self, rfl, rfl⟩
      · cases required
      · obtain ⟨edge, isEdge, leaves⟩ := ih later
        exact ⟨edge, List.mem_cons_of_mem _ (List.mem_cons_of_mem _ isEdge), leaves⟩

theorem cases_of_mem_chainNodes {node : Node Graph}
    (member : node ∈ chainNodes fallback otherwise rules) :
    node = outputNode fallback otherwise ∨ ∃ rule ∈ rules,
      node = ⟨rule.test, .conditional rule.predicate⟩ ∨ node = outputNode rule.verdict rule.output := by
  induction rules with
  | nil => exact .inl (List.mem_singleton.1 member)
  | cons rule rest ih =>
      simp only [chainNodes, List.mem_cons] at member
      rcases member with isTest | isVerdict | later
      · exact .inr ⟨rule, List.mem_cons_self, .inl isTest⟩
      · exact .inr ⟨rule, List.mem_cons_self, .inr isVerdict⟩
      · refine (ih later).imp_right ?_
        rintro ⟨other, isRule, isNode⟩
        exact ⟨other, List.mem_cons_of_mem _ isRule, isNode⟩

/-- A node that no edge of the chain leaves. -/
theorem source_ne_of_fresh (otherwise : Expression) {name : String}
    (fresh : name ∉ Graph.ids (chainNodes fallback otherwise rules)) (label : EdgeLabel) :
    (name, label) ∉ (chainEdges fallback rules).map fun edge => (edge.source, edge.label) := by
  intro member
  obtain ⟨edge, isEdge, same⟩ := List.mem_map.1 member
  obtain ⟨node, isNode, named, -⟩ := exists_source_of_mem_chainEdges otherwise isEdge
  exact fresh (List.mem_map.2 ⟨node, isNode, named.trans (congrArg Prod.fst same)⟩)

theorem nodup_chainEdges (distinct : (Graph.ids (chainNodes fallback otherwise rules)).Nodup) :
    ((chainEdges fallback rules).map fun edge => (edge.source, edge.label)).Nodup := by
  induction rules with
  | nil => exact List.nodup_nil
  | cons rule rest ih =>
      obtain ⟨freshTest, distinct⟩ := List.nodup_cons.1 distinct
      have fresh := source_ne_of_fresh otherwise fun member =>
        freshTest (List.mem_cons_of_mem _ member)
      refine List.nodup_cons.2 ⟨?_, List.nodup_cons.2 ⟨fresh _, ih (List.nodup_cons.1 distinct).2⟩⟩
      simpa using fresh .thenBranch

end Chains

section

variable {list : DecisionList}

theorem sublist_of_mem_edges {edge : Edge} (member : edge ∈ list.edges) :
    [edge.source, edge.target].Sublist list.ids := by
  rcases List.mem_cons.1 member with rfl | later
  · exact (List.singleton_sublist.2 (entry_mem_ids _ _ _)).cons_cons _
  · exact (sublist_of_mem_chainEdges list.otherwise later).cons _

/-- The nodes and edges of a list fit together. -/
theorem fits (distinct : list.ids.Nodup) : Graph.Fits list.nodes list.edges where
  needed := by
    intro edge member
    rcases List.mem_cons.1 member with rfl | later
    · exact ⟨_, List.mem_cons_self, rfl, List.mem_cons_self⟩
    · obtain ⟨node, isNode, leaves⟩ := exists_source_of_mem_chainEdges list.otherwise later
      exact ⟨node, List.mem_cons_of_mem _ isNode, leaves⟩
  target := fun edge member => (sublist_of_mem_edges member).subset (by simp)
  apart := by
    obtain ⟨fresh, distinct⟩ := List.nodup_cons.1 distinct
    exact List.nodup_cons.2 ⟨source_ne_of_fresh list.otherwise fresh _, nodup_chainEdges distinct⟩
  complete := by
    intro node member label required
    rcases List.mem_cons.1 member with rfl | later
    · obtain rfl := List.mem_singleton.1 required
      exact ⟨_, List.mem_cons_self, rfl, rfl⟩
    · obtain ⟨edge, isEdge, leaves⟩ := exists_edge_of_mem_chainNodes later required
      exact ⟨edge, List.mem_cons_of_mem _ isEdge, leaves⟩

theorem countP_isStart (list : DecisionList) : list.nodes.countP (·.kind.isStart) = 1 := by
  have none : (chainNodes list.fallback list.otherwise list.rules).countP (·.kind.isStart) = 0 := by
    refine List.countP_eq_zero.2 fun node member => ?_
    rcases cases_of_mem_chainNodes member with rfl | ⟨rule, -, rfl | rfl⟩ <;> exact Bool.noConfusion
  rw [nodes, List.countP_cons_of_pos rfl, none]

theorem ReadsRecordOnly.nodes_eq_nil (plain : list.ReadsRecordOnly) {node : Node Graph}
    (member : node ∈ list.nodes) {expression : Expression}
    (used : expression ∈ node.kind.expressions) : expression.nodes = [] := by
  rcases List.mem_cons.1 member with rfl | later
  · cases used
  · rcases cases_of_mem_chainNodes later with rfl | ⟨rule, isRule, rfl | rfl⟩
    all_goals obtain rfl := List.mem_singleton.1 used
    · exact plain.otherwise
    · exact (plain.rules rule isRule).1
    · exact (plain.rules rule isRule).2

/-- The nodes and edges of a list form a graph, in whatever order they are declared and however the
edges are written. -/
theorem exists_assemble (distinct : list.ids.Nodup) (plain : list.ReadsRecordOnly)
    {nodes : List (Node Graph)} {edges : List Edge} {documents : List EdgeDocument}
    (sameNodes : nodes.Perm list.nodes) (sameEdges : edges.Perm list.edges)
    (written : List.Forall₂ Edge.IsWritten edges documents) (id version : String) :
    ∃ graph, Graph.assemble id version nodes documents = .ok graph := by
  have distinctNodes : (Graph.ids nodes).Nodup := (sameNodes.map _).nodup_iff.2 distinct
  have oneStart : nodes.countP (·.kind.isStart) = 1 := by
    rw [sameNodes.countP_eq, countP_isStart]
  have references : ∀ node ∈ nodes, ∀ expression ∈ node.kind.expressions, ∀ reference,
      expression.Refers reference → Expression.referencedNode reference ∈ nodes.map (·.id) := by
    intro node member expression used reference refers
    have named := Expression.mem_nodes_iff.2 ⟨reference, refers, rfl⟩
    rw [plain.nodes_eq_nil (sameNodes.mem_iff.1 member) used] at named
    cases named
  have upwards : ∀ edge ∈ edges, list.ids.idxOf edge.source < list.ids.idxOf edge.target := by
    intro edge member
    exact idxOf_lt_of_sublist distinct (sublist_of_mem_edges (sameEdges.mem_iff.1 member))
  have fit := (fits distinct).perm sameNodes sameEdges
  exact (fit.wellFormed written distinctNodes oneStart references
    (fun name => list.ids.idxOf name) upwards).exists_assemble id version

end

end DecisionList

/-! ## Evaluation without references -/

theorem Bindings.record_bindAll (bindings : Bindings) (values : List (String × Value)) :
    (bindings.bindAll values).record = bindings.record := by
  induction values generalizing bindings with
  | nil => rfl
  | cons entry rest ih => exact ih (bindings.bind entry.1 entry.2)

theorem Terrain.record_bindStep (bindings : Bindings) (node : String) (step : Step) :
    (bindStep bindings node step).record = bindings.record :=
  bindings.record_bindAll step.columns

/-- An expression without references depends on the record only. -/
theorem Expression.evaluate_eq_initial {bindings : Bindings} {record : Record}
    (same : bindings.record = record) {expression : Expression} (plain : expression.nodes = []) :
    expression.evaluate bindings = expression.evaluate (.initial record) := by
  induction expression with
  | binary operator left right ihLeft ihRight =>
      obtain ⟨first, second⟩ := List.append_eq_nil_iff.1 plain
      simp only [evaluate, ihLeft first, ihRight second]
  | not operand ih => simp only [evaluate, ih plain]
  | literal value => rfl
  | field name => simp only [evaluate, Bindings.field, Bindings.initial, same]
  | node reference => cases plain

theorem Expression.emit_eq_verdict (expression : Expression) (bindings : Bindings) :
    OutputSpec.emit ⟨expression, none, []⟩ bindings = expression.verdict bindings := by
  cases evaluated : expression.evaluate bindings <;>
    simp only [OutputSpec.emit, verdict, evaluated] <;> rfl

/-! ## Walks along a chain -/

namespace DecisionList

section Walks

variable {graph : Graph} {record : Record} {fallback : String} {otherwise : Expression}

theorem terrain_getElem? (distinct : (Graph.ids graph.nodes).Nodup) {node : Node Graph}
    (member : node ∈ graph.nodes) {position : Nat}
    (here : (Graph.ids graph.nodes)[position]? = some node.id) :
    graph.terrain.nodes[position]? = some (node.map Graph.run) := by
  rw [Graph.getElem?_ids] at here
  obtain ⟨other, found, named⟩ := Option.map_eq_some_iff.1 here
  obtain rfl := Graph.eq_of_id_eq distinct (List.mem_of_getElem? found) member named
  simp [Graph.terrain, found]

/-- The graph has these nodes and edges among its own. -/
structure Contains (graph : Graph) (nodes : List (Node Graph)) (edges : List Edge) : Prop where
  distinct : (Graph.ids graph.nodes).Nodup
  nodes : ∀ node ∈ nodes, node ∈ graph.nodes
  edges : ∀ edge ∈ edges, ∀ position,
    (Graph.ids graph.nodes)[position]? = some edge.source →
      ∃ next, Graph.slot? graph.successors position edge.label = some next ∧
        (Graph.ids graph.nodes)[next]? = some edge.target

theorem Contains.rest {rule : Rule} {rules : List Rule}
    (contains : Contains graph (chainNodes fallback otherwise (rule :: rules))
      (chainEdges fallback (rule :: rules))) :
    Contains graph (chainNodes fallback otherwise rules) (chainEdges fallback rules) where
  distinct := contains.distinct
  nodes := fun node member =>
    contains.nodes node (List.mem_cons_of_mem _ (List.mem_cons_of_mem _ member))
  edges := fun edge member =>
    contains.edges edge (List.mem_cons_of_mem _ (List.mem_cons_of_mem _ member))

/-- A walk that has come to an output puts it out. -/
theorem outcome_at_output {id : String} {output : Expression}
    (distinct : (Graph.ids graph.nodes).Nodup) (member : outputNode id output ∈ graph.nodes)
    (plain : output.nodes = []) {position : Nat} {bindings : Bindings}
    (here : (Graph.ids graph.nodes)[position]? = some id) (same : bindings.record = record)
    {places : List Place} {run : Run}
    (journey : graph.terrain.Journey ⟨position, bindings⟩ places run) :
    run.outcome = output.verdict (.initial record) := by
  have isOutput := terrain_getElem? distinct member here
  rw [journey.outcome_eq_emit isOutput, Expression.emit_eq_verdict, Expression.verdict,
    Expression.evaluate_eq_initial same plain]
  rfl

theorem outcome_step_conditional (predicate : Expression) (node : String) (bindings : Bindings) :
    (NodeKind.step (.conditional predicate) node bindings).outcome =
      predicate.evaluate bindings >>= branch := rfl

/-- A walk that has come to a rule goes on as the rules from there on decide. -/
theorem outcome_of_journey {rules : List Rule}
    (contains : Contains graph (chainNodes fallback otherwise rules) (chainEdges fallback rules))
    (plain : ∀ rule ∈ rules, rule.predicate.nodes = [] ∧ rule.output.nodes = [])
    (plainOtherwise : otherwise.nodes = []) {position : Nat} {bindings : Bindings}
    (here : (Graph.ids graph.nodes)[position]? = some (entry fallback rules))
    (same : bindings.record = record) {places : List Place} {run : Run}
    (journey : graph.terrain.Journey ⟨position, bindings⟩ places run) :
    run.outcome = Rule.decide (.initial record) otherwise rules := by
  induction rules generalizing position bindings places run with
  | nil =>
      exact outcome_at_output contains.distinct (contains.nodes _ List.mem_cons_self)
        plainOtherwise here same journey
  | cons rule rest ih =>
      obtain ⟨⟨plainTest, plainVerdict⟩, plainRest⟩ := List.forall_mem_cons.1 plain
      have isTest := terrain_getElem? contains.distinct
        (contains.nodes ⟨rule.test, .conditional rule.predicate⟩ List.mem_cons_self) here
      have step := outcome_step_conditional rule.predicate rule.test bindings
      rw [Expression.evaluate_eq_initial same plainTest] at step
      unfold Rule.decide
      split
      next problem failed =>
        rw [failed] at step
        exact journey.outcome_of_failed isTest rfl step
      next holds =>
        rw [holds] at step
        obtain ⟨next, edge, there⟩ := contains.edges _ List.mem_cons_self position here
        obtain ⟨later, remaining, journey, outcome⟩ := journey.exists_later isTest rfl step edge
        rw [outcome]
        exact outcome_at_output contains.distinct
          (contains.nodes _ (List.mem_cons_of_mem _ List.mem_cons_self)) plainVerdict there
          ((Terrain.record_bindStep _ _ _).trans same) journey
      next passes =>
        rw [passes] at step
        obtain ⟨next, edge, there⟩ :=
          contains.edges _ (List.mem_cons_of_mem _ List.mem_cons_self) position here
        obtain ⟨later, remaining, journey, outcome⟩ := journey.exists_later isTest rfl step edge
        rw [outcome]
        exact ih contains.rest plainRest there ((Terrain.record_bindStep _ _ _).trans same) journey
      next found notTrue notFalse evaluated =>
        rw [evaluated] at step
        have failed : branch found = mismatch .conditional .bool found := by
          cases found with
          | bool truth => cases truth <;> contradiction
          | _ => rfl
        exact journey.outcome_of_failed isTest rfl (step.trans failed)

/-- The graph that is assembled from the nodes and edges of a list has them. -/
theorem contains_of_assemble {list : DecisionList} (distinct : list.ids.Nodup)
    {nodes : List (Node Graph)} {edges : List Edge} {documents : List EdgeDocument}
    (sameNodes : nodes.Perm list.nodes) (sameEdges : edges.Perm list.edges)
    (written : List.Forall₂ Edge.IsWritten edges documents) {id version : String}
    (assembled : Graph.assemble id version nodes documents = .ok graph) :
    Contains graph list.nodes list.edges where
  distinct := by
    rw [Graph.nodes_of_assemble assembled]
    exact (sameNodes.map _).nodup_iff.2 distinct
  nodes := by
    intro node member
    rw [Graph.nodes_of_assemble assembled]
    exact sameNodes.mem_iff.2 member
  edges := by
    intro edge member position here
    exact ((fits distinct).perm sameNodes sameEdges).exists_slot? written assembled
      (sameEdges.mem_iff.2 member) here

/-- The only node that starts is the one that the list names so. -/
theorem getElem?_start {list : DecisionList} {nodes : List (Node Graph)}
    {documents : List EdgeDocument} (sameNodes : nodes.Perm list.nodes) {id version : String}
    (assembled : Graph.assemble id version nodes documents = .ok graph) :
    (Graph.ids graph.nodes)[graph.start]? = some list.start := by
  obtain ⟨-, start, successors, resolved, found, -, -, -, rfl⟩ :=
    Graph.assemble_eq_ok_iff.1 assembled
  obtain ⟨⟨node, here, starts⟩, -⟩ := Graph.findStart_eq_ok_iff.1 found
  rw [Graph.getElem?_ids, here, Option.map_some]
  rcases List.mem_cons.1 (sameNodes.mem_iff.1 (List.mem_of_getElem? here)) with rfl | member
  · rfl
  · rcases cases_of_mem_chainNodes member with rfl | ⟨rule, -, rfl | rfl⟩ <;> cases starts

/-- The graph of a list decides as the list does. -/
theorem evaluate_eq_decide {list : DecisionList} (contains : Contains graph list.nodes list.edges)
    (navigable : Graph.Navigable graph)
    (atStart : (Graph.ids graph.nodes)[graph.start]? = some list.start)
    (plain : list.ReadsRecordOnly) (record : Record) :
    graph.evaluate record = Rule.decide (.initial record) list.otherwise list.rules := by
  obtain ⟨places, journey⟩ := navigable.exists_journey_run record
  have isStart := terrain_getElem? contains.distinct
    (contains.nodes ⟨list.start, .start⟩ List.mem_cons_self) atStart
  obtain ⟨next, edge, there⟩ := contains.edges _ List.mem_cons_self graph.start atStart
  obtain ⟨later, rest, journey, outcome⟩ := journey.exists_later isStart rfl rfl edge
  rw [Graph.evaluate, outcome]
  have chain : Contains graph (chainNodes list.fallback list.otherwise list.rules)
      (chainEdges list.fallback list.rules) :=
    ⟨contains.distinct, fun node member => contains.nodes node (List.mem_cons_of_mem _ member),
      fun edge member => contains.edges edge (List.mem_cons_of_mem _ member)⟩
  exact outcome_of_journey chain plain.rules plain.otherwise there
    (Terrain.record_bindStep _ _ _) journey

end Walks

end DecisionList

/-! ## Documents -/

/-- The document of a node is read as the start, as a condition or as a plain output. -/
inductive NodeDocument.Describes (document : NodeDocument) : Node Graph → Prop where
  | start (kind : document.kind = "start") : Describes document ⟨document.id, .start⟩
  | conditional {json : Json} {predicate : Expression}
      (kind : document.kind = "conditional" ∨ document.kind = "if")
      (given : document.parameter? "predicate" = some json)
      (read : Expression.ofJson json = .ok predicate) :
      Describes document ⟨document.id, .conditional predicate⟩
  | output {json : Json} {output : Expression}
      (kind : document.kind = "output" ∨ document.kind = "end")
      (given : document.parameter? "output" = some json)
      (read : Expression.ofJson json = .ok output)
      (noMessage : document.optional? "message" = none)
      (noExtras : document.optional? "extras" = none) :
      Describes document (DecisionList.outputNode document.id output)

/-- The document has the nodes and edges of the list, in any order, with any labels that mean those
of the edges. -/
structure DecisionList.IsDescribed (list : DecisionList) (document : FlowDocument) : Prop where
  nodes : ∃ nodes, List.Forall₂ NodeDocument.Describes document.nodes nodes ∧
    nodes.Perm list.nodes
  edges : ∃ edges, List.Forall₂ Edge.IsWritten edges document.edges ∧ edges.Perm list.edges

namespace Compiler

variable {compiler : Compiler} {find : String → VersionRequest → Compilation Graph}

theorem compileNode_of_describes (standard : compiler.kinds = KindTable.standard)
    {document : NodeDocument} {node : Node Graph} (describes : document.Describes node)
    (progress : Progress) :
    (compiler.compileNode find document).run progress = .ok node progress := by
  rw [compileNode_run_eq_ok_iff, standard]
  cases describes with
  | start kind => exact ⟨NodeReader.start, by rw [kind]; rfl, rfl, rfl, .inl ⟨rfl, rfl⟩⟩
  | @conditional json predicate kind given read =>
      have isRead : NodeReader.conditional document = .ok (.conditional predicate) := by
        simp only [NodeReader.conditional, NodeDocument.requiredExpression, NodeDocument.required,
          given, NodeDocument.expressionOf, bind, Except.bind, read, Except.mapError]
        rfl
      exact ⟨NodeReader.conditional, by rcases kind with kind | kind <;> rw [kind] <;> rfl, rfl,
        isRead, .inl ⟨rfl, rfl⟩⟩
  | @output json output kind given read noMessage noExtras =>
      have isRead : NodeReader.output document = .ok (.output ⟨output, none, []⟩) := by
        simp only [NodeReader.output, NodeDocument.requiredExpression, NodeDocument.required,
          given, NodeDocument.expressionOf, bind, Except.bind, read, Except.mapError,
          NodeDocument.optionalExpression, NodeDocument.namedExpressions, noMessage, noExtras]
        rfl
      exact ⟨NodeReader.output, by rcases kind with kind | kind <;> rw [kind] <;> rfl, rfl,
        isRead, .inl ⟨rfl, rfl⟩⟩

theorem compileNodes_of_describes (standard : compiler.kinds = KindTable.standard)
    {documents : List NodeDocument} {nodes : List (Node Graph)}
    (describe : List.Forall₂ NodeDocument.Describes documents nodes) (progress : Progress) :
    (compiler.compileNodes find documents).run progress = .ok nodes progress := by
  induction describe with
  | nil => rfl
  | cons describes _ ih =>
      exact run_bind_eq_ok_iff.2 ⟨_, _, compileNode_of_describes standard describes progress,
        run_bind_eq_ok_iff.2 ⟨_, _, ih, rfl⟩⟩

/-- A document whose nodes call no flow compiles if they form a graph. -/
theorem compile_of_describes (standard : compiler.kinds = KindTable.standard)
    {document : FlowDocument} (named : Text.isBlankText document.id = false)
    {nodes : List (Node Graph)}
    (describe : List.Forall₂ NodeDocument.Describes document.nodes nodes) {graph : Graph}
    (assembled : Graph.assemble document.id document.version nodes document.edges = .ok graph) :
    (compiler.compile document).1 = .ok graph := by
  have run : (compiler.compileWithin (compiler.nesting document) [] document).run
      (initialProgress document) =
        .ok graph (((initialProgress document).embed document).remark graph) :=
    compileWithin_succ_run_eq_ok_iff.2
      ⟨named, nodes, _, compileNodes_of_describes standard describe _, assembled, rfl⟩
  rw [compile, run]

end Compiler

/-- **Rules are tried in order.** A document that describes a decision list compiles, whatever else is
embedded in it and whatever resolver is at hand, and for every record its graph decides as the first
rule says whose predicate does not turn out false. -/
theorem DecisionList.decides_in_order (resolver : Resolver) {list : DecisionList}
    {document : FlowDocument} (described : list.IsDescribed document)
    (distinct : list.ids.Nodup) (plain : list.ReadsRecordOnly)
    (named : Text.isBlankText document.id = false) :
    ∃ graph, ((⟨KindTable.standard, resolver⟩ : Compiler).compile document).1 = .ok graph ∧
      ∀ record, list.Decides record (graph.evaluate record) := by
  obtain ⟨nodes, describe, sameNodes⟩ := described.nodes
  obtain ⟨edges, written, sameEdges⟩ := described.edges
  obtain ⟨graph, assembled⟩ := exists_assemble distinct plain sameNodes sameEdges written
    document.id document.version
  refine ⟨graph, Compiler.compile_of_describes rfl named describe assembled, fun record => ?_⟩
  have contains := contains_of_assemble distinct sameNodes sameEdges written assembled
  have atStart := getElem?_start sameNodes assembled
  rw [evaluate_eq_decide contains (.of_assemble assembled) atStart plain]
  exact list.decides_decide record

/-- Members come in, others only if they are not barred. -/
def admission : DecisionList where
  start := "arrival"
  rules := [⟨"member?", .field "member", "welcome", .literal (.string "come in")⟩,
    ⟨"admitted?", .not (.field "barred"), "ask", .field "name"⟩]
  fallback := "refuse"
  otherwise := .literal .null

/-- A document of the list, written from the end. -/
def admissionFlow : FlowDocument where
  id := "admission"
  version := "1"
  nodes := [⟨"refuse", "end", [("output", .null)]⟩,
    ⟨"ask", "output", [("output", .object [("field", .string "name")])]⟩,
    ⟨"admitted?", "if", [("predicate",
      .object [("args", .array [.object [("field", .string "barred")]]), ("op", .string "not")])]⟩,
    ⟨"welcome", "output", [("output", .string "come in")]⟩,
    ⟨"member?", "conditional", [("predicate", .object [("field", .string "member")])]⟩,
    ⟨"arrival", "start", []⟩]
  edges := [⟨"admitted?", "refuse", some "default"⟩, ⟨"admitted?", "ask", some "then"⟩,
    ⟨"member?", "admitted?", some "else"⟩, ⟨"member?", "welcome", some "then"⟩,
    ⟨"arrival", "member?", none⟩]
  subflows := []

theorem isDescribed_admissionFlow : admission.IsDescribed admissionFlow where
  nodes := by
    refine ⟨admission.nodes.reverse, ?_, List.reverse_perm _⟩
    exact .cons (.output (.inr rfl) rfl rfl rfl rfl) <| .cons (.output (.inl rfl) rfl rfl rfl rfl) <|
      .cons (.conditional (.inr rfl) rfl rfl) <| .cons (.output (.inl rfl) rfl rfl rfl rfl) <|
      .cons (.conditional (.inl rfl) rfl rfl) <| .cons (.start rfl) .nil
  edges := by
    refine ⟨admission.edges.reverse, ?_, List.reverse_perm _⟩
    exact .cons ⟨rfl, rfl, .otherwise⟩ <| .cons ⟨rfl, rfl, .thenBranch⟩ <|
      .cons ⟨rfl, rfl, .elseBranch⟩ <| .cons ⟨rfl, rfl, .thenBranch⟩ <|
      .cons ⟨rfl, rfl, .absent⟩ .nil

/-- A member comes in although nothing is known of being barred, and anyone else fails then. -/
theorem decides_in_order_of_admission :
    ∃ graph, (Compiler.plain.compile admissionFlow).1 = .ok graph ∧
      graph.evaluate (.ofList [("member", .bool true)]) = .ok (.only (.string "come in")) ∧
      graph.evaluate (.ofList [("barred", .bool false), ("member", .bool false),
        ("name", .string "Ann")]) = .ok (.only (.string "Ann")) ∧
      graph.evaluate (.ofList [("barred", .bool true), ("member", .bool false)]) =
        .ok (.only .null) ∧
      graph.evaluate (.ofList [("member", .bool false)]) =
        .error (.typeMismatch .not .bool .null) ∧
      graph.evaluate .empty = .error (.typeMismatch .conditional .bool .null) := by
  have plain : admission.ReadsRecordOnly :=
    ⟨by simp [admission, Expression.nodes], rfl⟩
  obtain ⟨graph, compiled, decides⟩ := DecisionList.decides_in_order .none
    isDescribed_admissionFlow (by decide) plain (by decide)
  refine ⟨graph, compiled, ?_, ?_, ?_, ?_, ?_⟩
  · exact (decides _).holds [] _ _ rfl (by simp) rfl
  · exact (decides _).holds [_] _ _ rfl (by rintro _ (_ | ⟨_, ⟨⟩⟩); rfl) rfl
  · exact (decides _).none (by rintro _ (_ | ⟨_, _ | ⟨_, ⟨⟩⟩⟩) <;> rfl)
  · exact (decides _).fails [_] _ _ _ rfl (by rintro _ (_ | ⟨_, ⟨⟩⟩); rfl) rfl
  · exact (decides _).noTruthValue [] _ _ .null rfl (by simp) rfl (by simp)

end DecisionFlow
