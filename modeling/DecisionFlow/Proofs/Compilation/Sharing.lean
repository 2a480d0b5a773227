import DecisionFlow.Proofs.Compilation.Nesting
import DecisionFlow.Proofs.Compilation.Precedence

/-!
# Flows are compiled once

While a document is compiled, other definitions of a flow can turn up under the same id and version:
flows that the resolver supplies bring embedded flows along, which take the places of those registered
before, and a resolver may answer a question for an exact version otherwise than one for any version.
Only the first definition that is called counts. Its graph is stored under the key of the flow before
anything else can be compiled under that key, and it is never replaced, so that all calls of the flow,
wherever they are made, hold that one graph (`targets_eq_of_same_flow`).
-/

set_option autoImplicit false

namespace DecisionFlow

open DecisionFlow.Graph (CallsWithin Holds HoldsWithin)

namespace Compiler

variable {compiler : Compiler} {document : FlowDocument} {graph : Graph}

/-- **Flows are compiled once.** Any two calls in a compiled graph, at any depth, that hold graphs with
the same id and version hold the same graph. -/
theorem targets_eq_of_same_flow {call other : SubflowCall Graph}
    (compiled : (compiler.compile document).1 = .ok graph)
    (within : CallsWithin graph.nodes call) (otherWithin : CallsWithin graph.nodes other)
    (sameId : call.target.id = other.target.id)
    (sameVersion : call.target.version = other.target.version) : call.target = other.target :=
  target_eq_of_key_eq compiled within otherWithin (congrArg₂ flowKey sameId sameVersion)

/-- A flow that calls `x`, which it embeds, and then `r`, which it does not. -/
def callingOwnFirst : FlowDocument :=
  { callingBoth with
    nodes := [⟨"start", "start", []⟩, callNode "first" ("x", "1"), callNode "second" ("r", "1"),
      ⟨"end", "output", [("output", .object [("node", .string "second")])]⟩] }

/-- A compiler whose resolver supplies `r`, which calls the flow `x` that it embeds itself. -/
def relaying : Compiler where
  kinds := KindTable.standard
  resolver := .constant
    { id := "r"
      version := "1"
      nodes := [⟨"start", "start", []⟩, callNode "call" ("x", "1"),
        ⟨"end", "output", [("output", .object [("node", .string "call")])]⟩]
      edges := [⟨"start", "call", none⟩, ⟨"call", "end", none⟩]
      subflows := [quotingFlow "x" "embedded in r"] }

/-- The call of `x` in `r` holds the same graph as the one in the main flow, although `r` has brought
another definition of `x` along in the meantime. -/
theorem targets_eq_of_callingOwnFirst : ∃ graph call other,
    (relaying.compile callingOwnFirst).1 = .ok graph ∧
      CallsWithin graph.nodes call ∧ CallsWithin graph.nodes other ∧
        call.target.id = other.target.id ∧ call.target.version = other.target.version ∧
          call.target = other.target := by
  have nested : ((relaying.compile callingOwnFirst).1.toOption.bind fun graph =>
      (Graph.callees graph.nodes)[0]?.bind fun own =>
        (Graph.callees graph.nodes)[1]?.bind fun relay =>
          (Graph.callees relay.nodes)[0]?.map fun inner =>
            ((own.id, own.version), inner.id, inner.version)) =
      some (("x", "1"), "x", "1") := by
    decide +kernel
  obtain ⟨graph, isGraph, nested⟩ := Option.bind_eq_some_iff.1 nested
  obtain ⟨own, isOwn, nested⟩ := Option.bind_eq_some_iff.1 nested
  obtain ⟨relay, isRelay, nested⟩ := Option.bind_eq_some_iff.1 nested
  obtain ⟨inner, isInner, flows⟩ := Option.map_eq_some_iff.1 nested
  obtain ⟨⟨ownId, ownVersion⟩, innerId, innerVersion⟩ :
      (own.id = "x" ∧ own.version = "1") ∧ inner.id = "x" ∧ inner.version = "1" := by
    simpa using flows
  have holdsOwn := Graph.holds_of_mem_callees (List.mem_of_getElem? isOwn)
  have holdsRelay := Graph.holds_of_mem_callees (List.mem_of_getElem? isRelay)
  have holdsInner := Graph.holds_of_mem_callees (List.mem_of_getElem? isInner)
  obtain ⟨call, within, rfl⟩ := holdsOwn.within
  obtain ⟨other, otherWithin, rfl⟩ := holdsRelay.within.trans holdsInner.within
  have sameId := ownId.trans innerId.symm
  have sameVersion := ownVersion.trans innerVersion.symm
  have compiled := toOption_eq_some_iff.1 isGraph
  exact ⟨graph, call, other, compiled, within, otherWithin, sameId, sameVersion,
    targets_eq_of_same_flow compiled within otherWithin sameId sameVersion⟩

end Compiler

end DecisionFlow
