import DecisionFlow.Graph.Summary
import DecisionFlow.Proofs.Compilation.Binding

/-!
# Flows do not contain themselves

A call is refused if its flow is being compiled, but a flow that comes from the cache brings along
whatever it calls, and that was compiled below another stack. Still no flow is called below itself:
calls of flows with one key hold one graph (`target_eq_of_key_eq`), and a graph is larger than every
graph that it holds. The main flow is never stored, so that it is not called at all.

Hence the keys along a chain of nested calls are pairwise distinct (`keys_nodup_along_calls`).
-/

set_option autoImplicit false

namespace DecisionFlow

namespace Graph

/-- One of the graph's nodes calls the other graph. -/
def Holds (graph callee : Graph) : Prop :=
  ∃ call, Calls graph.nodes call ∧ call.target = callee

/-- The other graph is called by one of the graph's nodes, or in a graph that they call, at any
depth. -/
def HoldsWithin (graph callee : Graph) : Prop :=
  ∃ call, CallsWithin graph.nodes call ∧ call.target = callee

variable {graph callee inner : Graph}

theorem Holds.within (holds : Holds graph callee) : HoldsWithin graph callee := by
  obtain ⟨call, calls, rfl⟩ := holds
  exact ⟨call, .own calls, rfl⟩

theorem HoldsWithin.trans (outer : HoldsWithin graph callee) (deeper : HoldsWithin callee inner) :
    HoldsWithin graph inner := by
  obtain ⟨call, within, rfl⟩ := outer
  obtain ⟨other, nested, rfl⟩ := deeper
  exact ⟨other, .trans within nested, rfl⟩

instance : Trans HoldsWithin HoldsWithin HoldsWithin := ⟨HoldsWithin.trans⟩

/-- A graph is larger than every graph that it holds. -/
theorem HoldsWithin.sizeOf_lt (holds : HoldsWithin graph callee) : sizeOf callee < sizeOf graph := by
  obtain ⟨call, within, rfl⟩ := holds
  exact within.sizeOf_target_lt.trans (sizeOf_nodes_lt graph)

/-- Along a chain of calls, every graph holds all later ones. -/
theorem holdsWithin_along_chain {graphs : List Graph} (chain : List.IsChain Holds graphs) :
    graphs.Pairwise HoldsWithin :=
  (chain.imp fun _ _ => Holds.within).pairwise

theorem holds_of_mem_callees (member : callee ∈ callees graph.nodes) : Holds graph callee := by
  obtain ⟨⟨id, kind⟩, isNode, found⟩ := List.mem_filterMap.1 member
  obtain ⟨call, rfl, isTarget⟩ := NodeKind.callee?_eq_some_iff.1 found
  exact ⟨call, ⟨id, isNode⟩, isTarget⟩

end Graph

open DecisionFlow.Graph (Holds HoldsWithin)

namespace Compiler

variable {compiler : Compiler} {document : FlowDocument} {graph outer inner : Graph}

/-- Nothing within a compiled graph has its key. -/
theorem key_ne_main (compiled : (compiler.compile document).1 = .ok graph)
    (holds : HoldsWithin graph inner) : inner.key ≠ graph.key := by
  obtain ⟨call, within, rfl⟩ := holds
  exact key_ne_of_within compiled within

/-- Nothing within a called graph has its key: it would be the same graph, inside itself. -/
theorem key_ne_callee (compiled : (compiler.compile document).1 = .ok graph)
    (holds : HoldsWithin graph outer) (deeper : HoldsWithin outer inner) :
    inner.key ≠ outer.key := by
  intro same
  have smaller := deeper.sizeOf_lt
  obtain ⟨call, within, rfl⟩ := holds
  obtain ⟨other, otherWithin, rfl⟩ := HoldsWithin.trans ⟨call, within, rfl⟩ deeper
  rw [target_eq_of_key_eq compiled otherWithin within same] at smaller
  exact Nat.lt_irrefl _ smaller

/-- **No flow contains itself.** Along every chain of nested calls that begins at a compiled graph,
the keys of the graphs are pairwise distinct; so neither that graph nor one that it holds, at any
depth, holds a graph with its own key. -/
theorem keys_nodup_along_calls (compiled : (compiler.compile document).1 = .ok graph) :
    (∀ below, List.IsChain Holds (graph :: below) →
        ((graph :: below).map Graph.key).Nodup) ∧
      ∀ outer, outer = graph ∨ HoldsWithin graph outer →
        ∀ inner, HoldsWithin outer inner → inner.key ≠ outer.key := by
  constructor
  · intro below chain
    obtain ⟨fromMain, nested⟩ := List.pairwise_cons.1 (Graph.holdsWithin_along_chain chain)
    rw [List.map_cons, List.nodup_cons]
    constructor
    · intro again
      obtain ⟨later, member, same⟩ := List.mem_map.1 again
      exact key_ne_main compiled (fromMain later member) same
    · refine List.pairwise_map.2 (nested.imp_of_mem ?_)
      intro outer inner isOuter _ deeper same
      exact key_ne_callee compiled (fromMain outer isOuter) deeper same.symm
  · rintro outer (rfl | holds) inner deeper
    · exact key_ne_main compiled deeper
    · exact key_ne_callee compiled holds deeper

/-- A flow that calls `shared` itself and through `relay`, each time in any version. The second time
the graph of `shared` is taken from the cache. -/
def sharedCallee : FlowDocument where
  id := "main"
  version := "1"
  nodes := [⟨"start", "start", []⟩, callNode "first" ("shared", "*"),
    callNode "second" ("relay", "*"),
    ⟨"end", "output", [("output", .object [("node", .string "second")])]⟩]
  edges := [⟨"start", "first", none⟩, ⟨"first", "second", none⟩, ⟨"second", "end", none⟩]
  subflows := [namedFlow "shared" "2",
    { id := "relay"
      version := "1"
      nodes := [⟨"start", "start", []⟩, callNode "call" ("shared", "*"),
        ⟨"end", "output", [("output", .object [("node", .string "call")])]⟩]
      edges := [⟨"start", "call", none⟩, ⟨"call", "end", none⟩]
      subflows := [] }]

/-- The main flow, `relay` and `shared` form a chain of calls with distinct keys. -/
theorem keys_nodup_of_shared_callee : ∃ graph relay shared,
    (Compiler.plain.compile sharedCallee).1 = .ok graph ∧
      List.IsChain Holds [graph, relay, shared] ∧
        ([graph, relay, shared].map Graph.key).Nodup := by
  have nested : ((Compiler.plain.compile sharedCallee).1.toOption.bind fun graph =>
      (Graph.callees graph.nodes)[1]?.bind fun relay =>
        (Graph.callees relay.nodes)[0]?).isSome = true := by
    decide +kernel
  obtain ⟨shared, found⟩ := Option.isSome_iff_exists.1 nested
  obtain ⟨graph, isGraph, found⟩ := Option.bind_eq_some_iff.1 found
  obtain ⟨relay, isRelay, isShared⟩ := Option.bind_eq_some_iff.1 found
  have compiled : (Compiler.plain.compile sharedCallee).1 = .ok graph := by
    cases result : (Compiler.plain.compile sharedCallee).1 with
    | error problem => simp [result, Except.toOption] at isGraph
    | ok built => simpa [result, Except.toOption] using isGraph
  have chain : List.IsChain Holds [graph, relay, shared] :=
    .cons_cons (Graph.holds_of_mem_callees (List.mem_of_getElem? isRelay))
      (.cons_cons (Graph.holds_of_mem_callees (List.mem_of_getElem? isShared)) (.singleton _))
  exact ⟨graph, relay, shared, compiled, chain,
    (keys_nodup_along_calls compiled).1 _ chain⟩

end Compiler

end DecisionFlow
