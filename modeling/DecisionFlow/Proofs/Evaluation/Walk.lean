import DecisionFlow.Proofs.Evaluation.Step
import DecisionFlow.Proofs.Graph.Assembled
import DecisionFlow.Proofs.Graph.Calls
import Mathlib.Data.Finset.Card

/-!
# Walks of assembled graphs

A journey goes from node to node and ends at an output, or at a node whose own evaluation fails; it
has no other way to end. A walk of an assembled graph is a journey: every step finds its edge, and
as no path returns to where it began, the visited nodes are pairwise distinct, so there are no more
of them than the walk may visit (`exists_journey`).

An assembled graph that calls others runs assembled graphs only. What is reported as an error comes
from an expression or a table lookup of some node, possibly below several calls.
-/

set_option autoImplicit false

namespace DecisionFlow

open Relation

/-- Where a walk is, and the values bound by then. -/
structure Place where
  position : Nat
  bindings : Bindings

/-! ## Journeys -/

/-- A walk ends at an output, or at a node whose own evaluation fails. -/
def Terrain.EndsAt (terrain : Terrain) (place : Place) : Prop :=
  ∃ node kind, terrain.nodes[place.position]? = some ⟨node, kind⟩ ∧
    (kind.isTerminal = true ∨ ∃ problem, (kind.step node place.bindings).outcome = .error problem)

/-- The places visited on the way from a place until a node ends the walk, and the run that this
makes. -/
inductive Terrain.Journey (terrain : Terrain) : Place → List Place → Run → Prop where
  | arrive {position : Nat} {bindings : Bindings} {node : String} {spec : OutputSpec}
      (here : terrain.nodes[position]? = some ⟨node, .output spec⟩) :
      Journey terrain ⟨position, bindings⟩ [⟨position, bindings⟩]
        ⟨[.reached terrain.flow node], spec.emit bindings⟩
  | fail {position : Nat} {bindings : Bindings} {node : String} {kind : NodeKind Evaluator}
      {problem : EvaluationError} (here : terrain.nodes[position]? = some ⟨node, kind⟩)
      (onward : kind.isTerminal = false)
      (failed : (kind.step node bindings).outcome = .error problem) :
      Journey terrain ⟨position, bindings⟩ [⟨position, bindings⟩]
        ⟨(kind.step node bindings).trace, .error problem⟩
  | proceed {position next : Nat} {bindings : Bindings} {node : String}
      {kind : NodeKind Evaluator} {step : Step} {places : List Place} {rest : Run}
      (here : terrain.nodes[position]? = some ⟨node, kind⟩) (onward : kind.isTerminal = false)
      (taken : (kind.step node bindings).outcome = .ok step)
      (edge : Graph.slot? terrain.successors position step.label = some next)
      (later : Journey terrain ⟨next, bindStep bindings node step⟩ places rest) :
      Journey terrain ⟨position, bindings⟩ (⟨position, bindings⟩ :: places)
        ⟨(kind.step node bindings).trace ++
          .visited terrain.flow node step.value step.label :: rest.trace, rest.outcome⟩

namespace Terrain

variable {terrain : Terrain} {place : Place} {places : List Place} {run : Run}

theorem Journey.ends (journey : Journey terrain place places run) :
    ∃ last, places.getLast? = some last ∧ terrain.EndsAt last := by
  induction journey with
  | arrive here => exact ⟨_, rfl, _, _, here, .inl rfl⟩
  | fail here _ failed => exact ⟨_, rfl, _, _, here, .inr ⟨_, failed⟩⟩
  | @proceed _ _ _ _ _ _ places _ _ _ _ _ later ih =>
      obtain ⟨last, isLast, ends⟩ := ih
      refine ⟨last, ?_, ends⟩
      rw [List.getLast?_cons, isLast]
      rfl

/-- The result of a journey is what the output at its end emits. -/
theorem Journey.exists_output (journey : Journey terrain place places run) {result : FlowResult}
    (succeeded : run.outcome = .ok result) :
    ∃ last node spec, places.getLast? = some last ∧
      terrain.nodes[last.position]? = some ⟨node, .output spec⟩ ∧
        spec.emit last.bindings = .ok result := by
  induction journey with
  | arrive here => exact ⟨_, _, _, rfl, here, succeeded⟩
  | fail => cases succeeded
  | proceed _ _ _ _ _ ih =>
      obtain ⟨last, node, spec, isLast, here, emitted⟩ := ih succeeded
      refine ⟨last, node, spec, ?_, here, emitted⟩
      rw [List.getLast?_cons, isLast]
      rfl

/-- Places are visited along edges. -/
theorem Journey.leads (journey : Journey terrain place places run) :
    ∀ visited ∈ places,
      ReflTransGen (Graph.Leads terrain.successors) place.position visited.position := by
  induction journey with
  | arrive | fail =>
      intro visited member
      rw [List.mem_singleton.1 member]
  | proceed _ _ _ edge _ ih =>
      intro visited member
      rcases List.mem_cons.1 member with rfl | member
      · rfl
      · exact .head (Graph.leads_of_slot? edge) (ih visited member)

/-- Without cycles, no node is visited twice. -/
theorem Journey.nodup (journey : Journey terrain place places run)
    (acyclic : ∀ position, ¬ TransGen (Graph.Leads terrain.successors) position position) :
    (places.map Place.position).Nodup := by
  induction journey with
  | arrive | fail => exact List.nodup_singleton _
  | proceed _ _ _ edge later ih =>
      refine List.nodup_cons.2 ⟨?_, ih⟩
      intro again
      obtain ⟨visited, member, same⟩ := List.mem_map.1 again
      have back := TransGen.head' (Graph.leads_of_slot? edge) (later.leads visited member)
      exact acyclic _ (same ▸ back)

theorem Journey.inside (journey : Journey terrain place places run) :
    ∀ visited ∈ places, visited.position < terrain.nodes.length := by
  induction journey with
  | arrive here | fail here =>
      intro visited member
      rw [List.mem_singleton.1 member]
      exact (List.getElem?_eq_some_iff.1 here).1
  | proceed here _ _ _ _ ih =>
      intro visited member
      rcases List.mem_cons.1 member with rfl | member
      · exact (List.getElem?_eq_some_iff.1 here).1
      · exact ih visited member

/-- A journey without repetitions is no longer than there are nodes. -/
theorem Journey.length_le (journey : Journey terrain place places run)
    (distinct : (places.map Place.position).Nodup) : places.length ≤ terrain.nodes.length := by
  have contained : places.map Place.position ⊆ List.range terrain.nodes.length := by
    intro position member
    obtain ⟨visited, isVisited, rfl⟩ := List.mem_map.1 member
    exact List.mem_range.2 (journey.inside visited isVisited)
  simpa using (distinct.subperm contained).length_le

/-- The run of a journey fails with an ordinary error if lookups and called flows do. -/
theorem Journey.failsOrdinarily {allowed : LookupError → Prop}
    (journey : Journey terrain place places run)
    (allows : ∀ node ∈ terrain.nodes, node.kind.FailsAsAllowed allowed)
    (callees : ∀ node ∈ terrain.nodes, ∀ callee, node.kind.callee? = some callee →
      ∀ record, FailsOrdinarily allowed (callee record).outcome) :
    FailsOrdinarily allowed run.outcome := by
  induction journey with
  | arrive => exact OutputSpec.emit_failsOrdinarily _ _
  | fail here onward failed =>
      rintro _ ⟨⟩
      have member := List.mem_of_getElem? here
      exact NodeKind.step_failsOrdinarily _ _ (allows _ member) (callees _ member) _ failed
  | proceed _ _ _ _ _ ih => exact ih

/-- A journey that begins at an output ends there. -/
theorem Journey.outcome_eq_emit {position : Nat} {bindings : Bindings} {node : String}
    {spec : OutputSpec} (journey : terrain.Journey ⟨position, bindings⟩ places run)
    (here : terrain.nodes[position]? = some ⟨node, .output spec⟩) :
    run.outcome = spec.emit bindings := by
  cases journey with
  | arrive here' =>
      obtain ⟨rfl, ⟨⟩⟩ := Node.mk.inj (Option.some.inj (here.symm.trans here'))
      rfl
  | fail here' onward =>
      obtain ⟨rfl, rfl⟩ := Node.mk.inj (Option.some.inj (here.symm.trans here'))
      cases onward
  | proceed here' onward =>
      obtain ⟨rfl, rfl⟩ := Node.mk.inj (Option.some.inj (here.symm.trans here'))
      cases onward

section

variable {position : Nat} {bindings : Bindings} {node : String} {kind : NodeKind Evaluator}

/-- A journey that begins at a node whose step fails fails with the same error. -/
theorem Journey.outcome_of_failed (journey : terrain.Journey ⟨position, bindings⟩ places run)
    (here : terrain.nodes[position]? = some ⟨node, kind⟩) {problem : EvaluationError}
    (onward : kind.isTerminal = false)
    (failed : (kind.step node bindings).outcome = .error problem) :
    run.outcome = .error problem := by
  cases journey with
  | arrive here' =>
      obtain ⟨rfl, rfl⟩ := Node.mk.inj (Option.some.inj (here.symm.trans here'))
      cases onward
  | fail here' _ failed' =>
      obtain ⟨rfl, rfl⟩ := Node.mk.inj (Option.some.inj (here.symm.trans here'))
      cases failed'.symm.trans failed
      rfl
  | proceed here' _ taken =>
      obtain ⟨rfl, rfl⟩ := Node.mk.inj (Option.some.inj (here.symm.trans here'))
      cases taken.symm.trans failed

/-- A journey goes on from where the first step leads, and its outcome is that of the rest. -/
theorem Journey.exists_later (journey : terrain.Journey ⟨position, bindings⟩ places run)
    (here : terrain.nodes[position]? = some ⟨node, kind⟩) {step : Step} {next : Nat}
    (onward : kind.isTerminal = false) (taken : (kind.step node bindings).outcome = .ok step)
    (edge : Graph.slot? terrain.successors position step.label = some next) :
    ∃ later rest, terrain.Journey ⟨next, bindStep bindings node step⟩ later rest ∧
      run.outcome = rest.outcome := by
  cases journey with
  | arrive here' =>
      obtain ⟨rfl, rfl⟩ := Node.mk.inj (Option.some.inj (here.symm.trans here'))
      cases onward
  | fail here' _ failed =>
      obtain ⟨rfl, rfl⟩ := Node.mk.inj (Option.some.inj (here.symm.trans here'))
      cases taken.symm.trans failed
  | proceed here' _ taken' edge' rest =>
      obtain ⟨rfl, rfl⟩ := Node.mk.inj (Option.some.inj (here.symm.trans here'))
      obtain rfl := Except.ok.inj (taken.symm.trans taken')
      obtain rfl := Option.some.inj (edge.symm.trans edge')
      exact ⟨_, _, rest, rfl⟩

end

/-- A step that fails ends the walk. -/
theorem walk_of_failed {hops position : Nat} {bindings : Bindings} {node : String}
    {kind : NodeKind Evaluator} {problem : EvaluationError}
    (here : terrain.nodes[position]? = some ⟨node, kind⟩) (onward : kind.isTerminal = false)
    (failed : (kind.step node bindings).outcome = .error problem) :
    terrain.walk (hops + 1) position bindings =
      ⟨(kind.step node bindings).trace, .error problem⟩ := by
  cases kind with
  | output => cases onward
  | _ => simp only [walk, here, failed]

/-- A step with an edge to follow leads on. -/
theorem walk_of_taken {hops position next : Nat} {bindings : Bindings} {node : String}
    {kind : NodeKind Evaluator} {step : Step}
    (here : terrain.nodes[position]? = some ⟨node, kind⟩) (onward : kind.isTerminal = false)
    (taken : (kind.step node bindings).outcome = .ok step)
    (follows : terrain.follow position node step.label = .ok next) :
    terrain.walk (hops + 1) position bindings =
      ⟨(kind.step node bindings).trace ++ .visited terrain.flow node step.value step.label ::
          (terrain.walk hops next (bindStep bindings node step)).trace,
        (terrain.walk hops next (bindStep bindings node step)).outcome⟩ := by
  cases kind with
  | output => cases onward
  | _ => simp only [walk, here, taken, follows]

theorem follow_eq_ok {position next : Nat} {label : EdgeLabel} (node : String)
    (edge : Graph.slot? terrain.successors position label = some next) :
    terrain.follow position node label = .ok next := by
  obtain ⟨successors, here, leads⟩ := Option.bind_eq_some_iff.1 edge
  simp [follow, here, leads]

end Terrain

/-! ## Walks of graphs -/

namespace Graph

/-- What a walk of the graph goes through. -/
def terrain (graph : Graph) : Terrain :=
  ⟨graph.id, graph.nodes.map (Node.map run), graph.successors⟩

/-- Where a walk of the graph begins. -/
def startPlace (graph : Graph) (record : Record) : Place :=
  ⟨graph.start, Bindings.initial record⟩

theorem run_eq_walk (graph : Graph) (record : Record) :
    graph.run record =
      graph.terrain.walk graph.nodes.length graph.start (Bindings.initial record) := by
  obtain ⟨id, version, nodes, edges, index, successors, start⟩ := graph
  rw [run, terrain, runnableNodes_eq_map]

/-- The positions that can still be visited from a position. -/
noncomputable def ahead (graph : Graph) (position : Nat) : Finset Nat :=
  open Classical in
  {later ∈ Finset.range graph.nodes.length | ReflTransGen (Leads graph.successors) position later}

theorem mem_ahead {graph : Graph} {position later : Nat} :
    later ∈ graph.ahead position ↔
      later < graph.nodes.length ∧ ReflTransGen (Leads graph.successors) position later := by
  simp [ahead]

theorem card_ahead_le (graph : Graph) (position : Nat) :
    (graph.ahead position).card ≤ graph.nodes.length := by
  have contained : graph.ahead position ⊆ Finset.range graph.nodes.length :=
    fun _ member => Finset.mem_range.2 (mem_ahead.1 member).1
  simpa using Finset.card_le_card contained

/-- Every step leaves fewer positions to be visited. -/
theorem card_ahead_lt {graph : Graph} (navigable : Navigable graph) {position next : Nat}
    (here : position < graph.nodes.length) (leads : Leads graph.successors position next) :
    (graph.ahead next).card < (graph.ahead position).card := by
  apply Finset.card_lt_card
  constructor
  · intro later member
    obtain ⟨isNode, reached⟩ := mem_ahead.1 member
    exact mem_ahead.2 ⟨isNode, .head leads reached⟩
  · intro contained
    obtain ⟨-, back⟩ := mem_ahead.1 (contained (mem_ahead.2 ⟨here, .refl⟩))
    exact navigable.acyclic position (.head' leads back)

/-- A walk with enough hops for the positions ahead is a journey. -/
theorem exists_journey {graph : Graph} (navigable : Navigable graph) {hops position : Nat}
    (bindings : Bindings) (here : position < graph.nodes.length)
    (enough : (graph.ahead position).card ≤ hops) :
    ∃ places, graph.terrain.Journey ⟨position, bindings⟩ places
      (graph.terrain.walk hops position bindings) := by
  induction hops generalizing position bindings with
  | zero =>
      have empty := Finset.card_eq_zero.1 (Nat.le_zero.1 enough)
      have member := mem_ahead.2 ⟨here, .refl⟩
      rw [empty] at member
      exact absurd member (Finset.notMem_empty _)
  | succ hops ih =>
      obtain ⟨node, found⟩ : ∃ node, graph.nodes[position]? = some node :=
        ⟨_, List.getElem?_eq_getElem here⟩
      obtain ⟨kind, isKind⟩ : ∃ kind, kind = node.kind.map run := ⟨_, rfl⟩
      have runnable : graph.terrain.nodes[position]? = some ⟨node.id, kind⟩ := by
        simp [terrain, found, Node.map, isKind]
      by_cases onward : kind.isTerminal
      · obtain ⟨spec, rfl⟩ := NodeKind.isTerminal_iff.1 onward
        rw [Terrain.walk, runnable]
        exact ⟨[⟨position, bindings⟩], .arrive runnable⟩
      · replace onward := Bool.eq_false_iff.2 onward
        cases taken : (kind.step node.id bindings).outcome with
        | error problem =>
            rw [Terrain.walk_of_failed runnable onward taken]
            exact ⟨[⟨position, bindings⟩], .fail runnable onward taken⟩
        | ok step =>
            have required := NodeKind.label_mem_requiredLabels onward taken
            rw [isKind, NodeKind.requiredLabels_map] at required
            obtain ⟨next, edge⟩ := navigable.onward position node step.label found required
            have fewer := card_ahead_lt navigable here (leads_of_slot? edge)
            obtain ⟨places, later⟩ := ih (Terrain.bindStep bindings node.id step)
              (navigable.inside _ _ _ edge) (Nat.le_of_lt_succ (fewer.trans_le enough))
            rw [Terrain.walk_of_taken runnable onward taken (Terrain.follow_eq_ok node.id edge)]
            exact ⟨⟨position, bindings⟩ :: places, .proceed runnable onward taken edge later⟩

/-- A run of a graph that can be walked is a journey from its start. -/
theorem Navigable.exists_journey_run {graph : Graph} (navigable : Navigable graph)
    (record : Record) :
    ∃ places, graph.terrain.Journey (graph.startPlace record) places (graph.run record) := by
  rw [run_eq_walk]
  exact exists_journey navigable (Bindings.initial record) navigable.start (card_ahead_le _ _)

/-- How a walk of the graph for a record goes: through these places, which are different nodes of the
graph, until it reaches an output or a node whose own evaluation fails. -/
structure Completes (graph : Graph) (record : Record) (places : List Place) : Prop where
  journey : graph.terrain.Journey (graph.startPlace record) places (graph.run record)
  ends : ∃ last, places.getLast? = some last ∧ graph.terrain.EndsAt last
  distinct : (places.map Place.position).Nodup
  within : places.length ≤ graph.nodes.length

/-- A walk of an assembled graph comes to its end. -/
theorem Assembled.exists_completes {graph : Graph} (built : Assembled graph) (record : Record) :
    ∃ places, graph.Completes record places := by
  obtain ⟨places, journey⟩ := built.navigable.exists_journey_run record
  have distinct := journey.nodup built.navigable.acyclic
  have within := journey.length_le distinct
  exact ⟨places, journey, journey.ends, distinct, by simpa [terrain] using within⟩

/-! ## Called graphs -/

/-- The walks that belong to the evaluation of a graph for a record: its own, and those of the graphs
called on the way, at every depth, for the records made from the inputs of the calls. -/
inductive Walks (graph : Graph) (record : Record) : Graph → Record → Prop where
  | self : Walks graph record graph record
  | call {caller : Graph} {callerRecord : Record} {places : List Place} {place : Place}
      {node : String} {call : SubflowCall Graph} {fields : List (String × Value)}
      (walk : Walks graph record caller callerRecord)
      (journey : caller.terrain.Journey (caller.startPlace callerRecord) places
        (caller.run callerRecord))
      (visited : place ∈ places)
      (here : caller.nodes[place.position]? = some ⟨node, .subflowCall call⟩)
      (inputs : Expression.evaluateNamed place.bindings call.inputs = .ok fields) :
      Walks graph record call.target (Record.ofList fields)

/-- Every graph that the evaluation of an assembled graph walks was assembled. -/
theorem Walks.assembled {graph inner : Graph} {record innerRecord : Record}
    (walks : Walks graph record inner innerRecord) (built : Assembled graph) :
    Assembled inner := by
  induction walks with
  | self => exact built
  | call _ _ _ here _ ih => exact ih.callee (List.mem_of_getElem? here) rfl

/-- A graph that can be walked fails, if it does, with an ordinary error if its lookups and the graphs
that it calls do. -/
theorem Navigable.run_failsOrdinarily {allowed : LookupError → Prop} {graph : Graph}
    (navigable : Navigable graph)
    (allows : ∀ node ∈ graph.nodes, node.kind.FailsAsAllowed allowed)
    (callees : ∀ node ∈ graph.nodes, ∀ callee, node.kind.callee? = some callee →
      ∀ record, FailsOrdinarily allowed (callee.run record).outcome) (record : Record) :
    FailsOrdinarily allowed (graph.run record).outcome := by
  obtain ⟨places, journey⟩ := navigable.exists_journey_run record
  refine journey.failsOrdinarily ?_ ?_
  · intro node member lookup isLookup
    obtain ⟨node, isNode, rfl⟩ := List.mem_map.1 member
    exact allows node isNode lookup (NodeKind.map_eq_tableLookup_iff.1 isLookup)
  · intro node member callee calls inner
    obtain ⟨node, isNode, rfl⟩ := List.mem_map.1 member
    simp only [Node.map, NodeKind.callee?_map] at calls
    obtain ⟨target, isCallee, rfl⟩ := Option.map_eq_some_iff.1 calls
    exact callees node isNode target isCallee inner

/-- An assembled graph fails, if it does, with an ordinary error. -/
theorem Assembled.run_failsOrdinarily {graph : Graph} (built : Assembled graph) (record : Record) :
    FailsOrdinarily (fun _ => True) (graph.run record).outcome := by
  induction built generalizing record with
  | intro assembled _ ih =>
      refine (Navigable.of_assemble assembled).run_failsOrdinarily ?_ ?_ record
      · exact fun node _ => node.kind.failsAsAllowed_any
      · rw [nodes_of_assemble assembled]
        exact ih

/-- **Walks come to an end.** The evaluation of an assembled graph visits no node of a graph twice in
one walk, and every walk, of the graph or of one called at any depth, ends at an output or at a node
whose own evaluation fails, within as many hops as the walked graph has nodes. What is reported as
an error is never, below all calls, a missing edge, a position without a node, too many hops or a
deadline. -/
theorem walks_complete_of_assembled {graph : Graph} (built : Assembled graph) (record : Record) :
    (∀ inner innerRecord, Walks graph record inner innerRecord →
      ∃ places, inner.Completes innerRecord places) ∧
    ∀ problem, graph.evaluate record = .error problem →
      (∀ node label, problem.root ≠ .missingEdge node label) ∧
      (∀ hops, problem.root ≠ .hopLimit hops) ∧
      (∀ position, problem.root ≠ .noNode position) ∧ problem.root ≠ .deadline := by
  constructor
  · intro inner innerRecord walks
    exact (walks.assembled built).exists_completes innerRecord
  · intro problem failed
    rcases (built.run_failsOrdinarily record problem failed).root_eq with
      ⟨_, _, _, isRoot⟩ | ⟨_, _, isRoot⟩
    · simp [isRoot]
    · simp [isRoot]

theorem walks_complete_of_nested_call :
    ∃ graph, Assembled graph ∧ (∃ node ∈ graph.nodes, node.kind.callee?.isSome) ∧
      ∀ record,
        (∀ inner innerRecord, Walks graph record inner innerRecord →
          ∃ places, inner.Completes innerRecord places) ∧
        ∀ problem, graph.evaluate record = .error problem →
          (∀ node label, problem.root ≠ .missingEdge node label) ∧
          (∀ hops, problem.root ≠ .hopLimit hops) ∧
          (∀ position, problem.root ≠ .noNode position) ∧ problem.root ≠ .deadline := by
  let done : Node Graph := ⟨"done", .output ⟨.literal .null, none, []⟩⟩
  obtain ⟨leaf, isLeaf⟩ : ∃ leaf, assemble "leaf" "1" [⟨"start", .start⟩, done]
      [⟨"start", "done", none⟩] = .ok leaf :=
    ⟨_, assemble_eq_ok_iff.2 ⟨by decide, 0, [⟨some 1, none, none⟩, .empty], _, by rfl, by rfl, by rfl,
      by decide +kernel, by rfl⟩⟩
  obtain ⟨graph, isGraph⟩ : ∃ graph, assemble "main" "1"
      [⟨"start", .start⟩, ⟨"call", .subflowCall ⟨"leaf", .any, [], leaf⟩⟩, done]
      [⟨"start", "call", none⟩, ⟨"call", "done", none⟩] = .ok graph :=
    ⟨_, assemble_eq_ok_iff.2 ⟨by simp [ids, done], 0,
      [⟨some 1, none, none⟩, ⟨some 2, none, none⟩, .empty], _, by rfl, by rfl, by rfl,
      by decide +kernel, by rfl⟩⟩
  have builtLeaf : Assembled leaf := .intro isLeaf (by simp [done, NodeKind.callee?])
  have built : Assembled graph := .intro isGraph (by simp [done, NodeKind.callee?, builtLeaf])
  refine ⟨graph, built, ?_, walks_complete_of_assembled built⟩
  simp [nodes_of_assemble isGraph, NodeKind.callee?]

end Graph

end DecisionFlow
