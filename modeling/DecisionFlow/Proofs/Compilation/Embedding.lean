import DecisionFlow.Proofs.Compilation.Nesting
import DecisionFlow.Proofs.Graph.Gathering

/-!
# The flows in the document of a graph

The document of a graph embeds the graphs that it calls, at every depth. Gathering tells them apart by
their keys, and within a compiled graph these tell graphs apart. So each called flow is embedded once,
as the document of its graph alone, and nothing else is embedded (`embeds_each_once`).
-/

set_option autoImplicit false

namespace DecisionFlow.Compiler

open DecisionFlow.Graph (HoldsWithin)

variable {compiler : Compiler} {document : FlowDocument} {graph : Graph}

/-- The document of a compiled graph embeds the documents of the graphs that it holds, which have
different keys, and none of them has the key of the graph. -/
theorem exists_embedded (compiled : (compiler.compile document).1 = .ok graph) :
    ∃ graphs : List Graph, graph.toDocument.subflows = graphs.map Graph.document ∧
      ((graph :: graphs).map Graph.key).Nodup ∧ ∀ inner, inner ∈ graphs ↔ HoldsWithin graph inner :=
  Graph.exists_gathered
    (fun _ _ within otherWithin => target_eq_of_key_eq compiled within otherWithin)
    (fun _ within => key_ne_of_within compiled within)

/-- **The document of a graph embeds every called flow exactly once.** For each graph that a compiled
graph holds, at any depth, its document embeds one flow with the id and version of that graph: it has the
nodes and edges of that graph, in their order, and embeds nothing itself. Whatever is embedded comes from
such a graph and is not the graph's own flow. -/
theorem embeds_each_once (compiled : (compiler.compile document).1 = .ok graph) :
    (∀ inner, HoldsWithin graph inner →
      graph.toDocument.subflows.filter (fun embedded =>
          embedded.id = inner.id ∧ embedded.version = inner.version) =
        [{ id := inner.id
           version := inner.version
           nodes := inner.nodes.map Graph.nodeDocument
           edges := inner.edges.map Graph.edgeDocument
           subflows := [] }]) ∧
    ∀ embedded ∈ graph.toDocument.subflows,
      (∃ inner, HoldsWithin graph inner ∧ embedded.id = inner.id ∧
        embedded.version = inner.version ∧ embedded.nodes = inner.nodes.map Graph.nodeDocument ∧
          embedded.edges = inner.edges.map Graph.edgeDocument) ∧
      embedded.subflows = [] ∧ ¬ (embedded.id = graph.id ∧ embedded.version = graph.version) := by
  obtain ⟨graphs, isSubflows, distinct, held⟩ := exists_embedded compiled
  obtain ⟨apart, keysDistinct⟩ := List.nodup_cons.1 distinct
  have documentsDistinct : (graphs.map Graph.document).Nodup := by
    have keys : (graphs.map Graph.document).map FlowDocument.key = graphs.map Graph.key := by
      rw [List.map_map]
      rfl
    exact .of_map _ (keys ▸ keysDistinct)
  rw [isSubflows]
  constructor
  · intro inner holds
    refine List.perm_singleton.1 ((List.perm_ext_iff_of_nodup (documentsDistinct.filter _)
      (List.nodup_singleton _)).2 fun embedded => ?_)
    rw [List.mem_filter, List.mem_singleton, List.mem_map, decide_eq_true_eq]
    constructor
    · rintro ⟨⟨other, member, rfl⟩, sameId, sameVersion⟩
      have sameKey : other.key = inner.key := congrArg₂ flowKey sameId sameVersion
      rw [List.inj_on_of_nodup_map keysDistinct member ((held inner).2 holds) sameKey]
      rfl
    · rintro rfl
      exact ⟨⟨inner, (held inner).2 holds, rfl⟩, rfl, rfl⟩
  · refine List.forall_mem_map.2 fun inner member => ⟨?_, rfl, ?_⟩
    · exact ⟨inner, (held inner).1 member, rfl, rfl, rfl, rfl⟩
    · rintro ⟨sameId, sameVersion⟩
      have sameKey : inner.key = graph.key := congrArg₂ flowKey sameId sameVersion
      exact apart (sameKey ▸ List.mem_map_of_mem member)

/-- The flow `shared`, which is called by the main flow and again by `relay`, is embedded once. -/
theorem embeds_shared_callee_once : ∃ graph shared,
    (plain.compile sharedCallee).1 = .ok graph ∧ HoldsWithin graph shared ∧
      graph.toDocument.subflows.filter (fun embedded =>
          embedded.id = shared.id ∧ embedded.version = shared.version) =
        [{ id := shared.id
           version := shared.version
           nodes := shared.nodes.map Graph.nodeDocument
           edges := shared.edges.map Graph.edgeDocument
           subflows := [] }] := by
  have called : ((plain.compile sharedCallee).1.toOption.bind fun graph =>
      (Graph.callees graph.nodes)[0]?).isSome = true := by
    decide +kernel
  obtain ⟨shared, found⟩ := Option.isSome_iff_exists.1 called
  obtain ⟨graph, isGraph, isShared⟩ := Option.bind_eq_some_iff.1 found
  have compiled := toOption_eq_some_iff.1 isGraph
  have holds := (Graph.holds_of_mem_callees (List.mem_of_getElem? isShared)).within
  exact ⟨graph, shared, compiled, holds, (embeds_each_once compiled).1 shared holds⟩

end DecisionFlow.Compiler
