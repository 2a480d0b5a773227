import DecisionFlow.Proofs.Compilation.Binding
import DecisionFlow.Proofs.Library

/-!
# Embedded flows come first

A call is answered by a flow that the document embeds, if there is one, before the resolver is asked.
But flows that the resolver supplies are registered with what they embed beside the flows of the
document, and take the places of those with the same id and version. So a call for an exact version
that the document embeds is sure to be answered from the document only if no flow of the resolver
brings another definition with this id and version along.

If none does, such a call holds the graph of the document's own definition exactly if it holds a graph
with the id that it names at all (`own_flow_first`); what could come between is another flow with the
same key.
-/

set_option autoImplicit false

namespace DecisionFlow

open DecisionFlow.Graph (Calls CallsWithin)

/-- The definition of a version of a flow that a document embeds at some depth: the last registered
one, if there are several. -/
def FlowDocument.embedded? (document : FlowDocument) (flow version : String) : Option FlowDocument :=
  ((Library.flattenAll document.subflows).filter fun embedded =>
    embedded.id == flow && embedded.version == version).getLast?

/-- No flow that the resolver supplies embeds another definition with the same id and version. -/
def Resolver.Spares (resolver : Resolver) (own : FlowDocument) : Prop :=
  ∀ flow request supplied, resolver.answer flow request = .ok (some supplied) →
    ∀ other ∈ Library.flattenAll supplied.subflows, Library.sameFlow own other = true → other = own

namespace Compiler

variable {compiler : Compiler} {document own : FlowDocument} {graph : Graph}

/-- Documents among which a flow is defined in one way only, with what they embed. -/
def sparingSupply (spares : compiler.resolver.Spares own) : Supply compiler where
  ready library := library.Keeps own ∧ ∀ document ∈ library.documents, document.subflows = []
  source document := (Library.sameFlow own document = true → document = own) ∧
    ∀ other ∈ Library.flattenAll document.subflows, Library.sameFlow own other = true → other = own
  found := by
    rintro library flow request document ⟨keeps, bare⟩ answered
    obtain ⟨answer, isFlow, accepted⟩ := findDocument_eq_ok_iff.1 answered
    rcases answer with embedded | ⟨missing, supplied⟩
    · obtain ⟨member, -, -⟩ := Library.mem_candidates_of_find? embedded
      refine ⟨keeps.only document member, ?_⟩
      rw [bare document member]
      rintro other ⟨⟩
    · refine ⟨fun same => ?_, spares flow request document supplied⟩
      obtain ⟨sameId, sameVersion⟩ := Library.sameFlow_iff.1 same
      have present := Library.isSome_find?_of_mem keeps.member (sameId.trans isFlow)
        (sameVersion ▸ accepted)
      rw [missing] at present
      cases present
  embedded := by
    rintro library document ⟨keeps, bare⟩ ⟨-, spared⟩
    rw [Library.foldl_registerWithEmbedded]
    refine ⟨keeps.registerAll spared, fun other member => ?_⟩
    rcases Library.mem_of_mem_registerAll member with before | flattened
    · exact bare other before
    · exact Library.subflows_of_mem_flattenAll _ flattened

/-- Compilation begins with what the document embeds. -/
theorem ready_of_embedded? (spares : compiler.resolver.Spares own)
    (isOwn : document.embedded? own.id own.version = some own) :
    (sparingSupply spares).ready ((initialProgress document).embed document).embedded := by
  refine ⟨?_, fun other => FlowDocument.subflows_of_mem_library⟩
  have gathered : ((initialProgress document).embed document).embedded =
      (Library.empty.register document.bare).registerAll (Library.flattenAll document.subflows) :=
    document.library_eq
  rw [gathered]
  exact Library.keeps_registerAll_of_getLast? isOwn

theorem id_version_of_embedded? {flow version : String}
    (isOwn : document.embedded? flow version = some own) : own.id = flow ∧ own.version = version := by
  simpa using List.of_mem_filter (List.mem_of_getLast? isOwn)

/-- **Embedded flows come first.** If no flow of the resolver embeds another definition of it, a call
for a version of a flow that the document embeds, wherever the call is made, holds a graph compiled
from the document's own definition exactly if it holds a graph with the id that it names. It does if
no call for a flow with another id holds a graph with the same key. -/
theorem own_flow_first {flow version : String} {call : SubflowCall Graph}
    (compiled : (compiler.compile document).1 = .ok graph)
    (isOwn : document.embedded? flow version = some own) (spares : compiler.resolver.Spares own)
    (within : CallsWithin graph.nodes call) (asksFlow : call.flow = flow)
    (asksVersion : call.version = .exact version) :
    (CompiledFrom compiler own call.target ↔ call.target.id = flow) ∧
    ((∀ other, CallsWithin graph.nodes other → other.target.key = flowKey flow version →
      other.flow = flow) → CompiledFrom compiler own call.target) := by
  obtain ⟨rfl, rfl⟩ := id_version_of_embedded? isOwn
  obtain ⟨-, progress, closed, -, settled⟩ :=
    exists_closed (sparingSupply spares) (ready_of_embedded? spares isOwn) compiled
  obtain ⟨stored, library, answer, -, found, answered⟩ := settled call within
  obtain ⟨source, ⟨spared, -⟩, made⟩ := closed.compiled stored
  have isKey : call.target.key = flowKey own.id own.version := by
    obtain ⟨-, isFlow, accepted⟩ := findDocument_eq_ok_iff.1 found
    rw [asksVersion] at accepted
    rw [← answered, FlowDocument.key, isFlow, asksFlow, eq_of_beq accepted]
  -- Keys join an id and a version, so the key gives the version away only once the id is known.
  have of_id (isId : call.target.id = own.id) : CompiledFrom compiler own call.target := by
    have sameId : own.id = source.id := isId.symm.trans (Graph.id_of_assemble made.assembled)
    have sameVersion : own.version = source.version := by
      rw [made.key_eq, FlowDocument.key, ← sameId] at isKey
      exact (flowKey_right_inj isKey).symm
    rwa [← spared (Library.sameFlow_iff.2 ⟨sameId, sameVersion⟩)]
  refine ⟨⟨fun made => Graph.id_of_assemble made.assembled, of_id⟩, fun apart => of_id ?_⟩
  have bound : call.Matches := matches_of_apart compiled within fun other otherWithin same =>
    (apart other otherWithin (same.trans isKey)).trans asksFlow.symm
  exact bound.1.trans asksFlow

/-! ## A flow that the resolver brings along -/

/-- A flow in version `1` that yields a text. -/
def quotingFlow (id text : String) : FlowDocument where
  id := id
  version := "1"
  nodes := [⟨"start", "start", []⟩, ⟨"end", "output", [("output", .string text)]⟩]
  edges := [⟨"start", "end", none⟩]
  subflows := []

/-- A flow that calls `r`, which it does not embed, and then `x`, which it does. -/
def callingBoth : FlowDocument where
  id := "main"
  version := "1"
  nodes := [⟨"start", "start", []⟩, callNode "first" ("r", "1"), callNode "second" ("x", "1"),
    ⟨"end", "output", [("output", .object [("node", .string "second")])]⟩]
  edges := [⟨"start", "first", none⟩, ⟨"first", "second", none⟩, ⟨"second", "end", none⟩]
  subflows := [quotingFlow "x" "embedded in main"]

/-- A compiler whose resolver supplies `r` with flows that it embeds. -/
def supplying (embedded : List FlowDocument) : Compiler where
  kinds := KindTable.standard
  resolver := .constant { quotingFlow "r" "flow r, version 1" with subflows := embedded }

/-- The graph of a flow that yields a text. -/
def quotingGraph (id text : String) : Graph where
  id := id
  version := "1"
  nodes := [⟨"start", .start⟩, ⟨"end", .output ⟨.literal (.string text), none, []⟩⟩]
  edges := [⟨"start", .next, "end"⟩]
  index := ⟨[("start", 0), ("end", 1)], by decide⟩
  successors := [⟨some 1, none, none⟩, .empty]
  start := 0

/-- The call of `x`, bound to a flow that yields a text. -/
def secondCall (text : String) : SubflowCall Graph :=
  ⟨"x", .exact "1", [], quotingGraph "x" text⟩

/-- The graph of `callingBoth`, whose second call is bound to a flow that yields a text. -/
def boundGraph (text : String) : Graph where
  id := "main"
  version := "1"
  nodes := [⟨"start", .start⟩,
    ⟨"first", .subflowCall ⟨"r", .exact "1", [], quotingGraph "r" "flow r, version 1"⟩⟩,
    ⟨"second", .subflowCall (secondCall text)⟩, ⟨"end", .output ⟨.node "second", none, []⟩⟩]
  edges := [⟨"start", .next, "first"⟩, ⟨"first", .next, "second"⟩, ⟨"second", .next, "end"⟩]
  index := ⟨[("start", 0), ("first", 1), ("second", 2), ("end", 3)], by decide⟩
  successors := [⟨some 1, none, none⟩, ⟨some 2, none, none⟩, ⟨some 3, none, none⟩, .empty]
  start := 0

theorem compile_callingBoth_bringing :
    ((supplying [quotingFlow "x" "embedded in r"]).compile callingBoth).1 =
      .ok (boundGraph "embedded in r") := by
  with_unfolding_all rfl

theorem compile_callingBoth :
    ((supplying []).compile callingBoth).1 = .ok (boundGraph "embedded in main") := by
  with_unfolding_all rfl

/-- A flow that yields a text is not compiled to the graph of one that yields another. -/
theorem text_eq_of_compiledFrom {embedded : List FlowDocument} {id text other : String}
    (made : CompiledFrom (supplying embedded) (quotingFlow id text) (quotingGraph id other)) :
    text = other := by
  obtain _ | ⟨-, _ | ⟨isRead, -⟩⟩ := made.read
  obtain ⟨reader, known, read⟩ := isRead.read
  have isReader : KindTable.standard.find? "output" = some NodeReader.output := by
    with_unfolding_all rfl
  obtain rfl : NodeReader.output = reader := Option.some.inj (isReader.symm.trans known)
  have yields : NodeReader.output ⟨"end", "output", [("output", .string text)]⟩ =
      .ok (.output ⟨.literal (.string text), none, []⟩) := rfl
  cases yields.symm.trans read
  rfl

/-- The flow that the resolver supplies for the first call brings a flow `x` along, to which the second
call is bound although the document embeds a flow `x` itself. -/
theorem exists_call_of_foreign_flow :
    ((supplying [quotingFlow "x" "embedded in r"]).compile callingBoth).1 =
        .ok (boundGraph "embedded in r") ∧
      callingBoth.embedded? "x" "1" = some (quotingFlow "x" "embedded in main") ∧
        ∃ call, Calls (boundGraph "embedded in r").nodes call ∧ call.flow = "x" ∧
          call.version = .exact "1" ∧
            ¬ CompiledFrom (supplying [quotingFlow "x" "embedded in r"])
              (quotingFlow "x" "embedded in main") call.target := by
  refine ⟨compile_callingBoth_bringing, rfl, secondCall "embedded in r", ⟨"second", ?_⟩, rfl, rfl, ?_⟩
  · simp [boundGraph]
  · exact fun made => absurd (text_eq_of_compiledFrom made) (by decide)

/-- If it brings no flow along, the second call is bound to the document's own one. -/
theorem own_flow_first_of_callingBoth :
    ((supplying []).compile callingBoth).1 = .ok (boundGraph "embedded in main") ∧
      callingBoth.embedded? "x" "1" = some (quotingFlow "x" "embedded in main") ∧
        (supplying []).resolver.Spares (quotingFlow "x" "embedded in main") ∧
          CallsWithin (boundGraph "embedded in main").nodes (secondCall "embedded in main") ∧
            CompiledFrom (supplying []) (quotingFlow "x" "embedded in main")
              (secondCall "embedded in main").target := by
  have isOwn : callingBoth.embedded? "x" "1" = some (quotingFlow "x" "embedded in main") := rfl
  have spares : (supplying []).resolver.Spares (quotingFlow "x" "embedded in main") := by
    rintro flow request supplied ⟨⟩ other ⟨⟩
  have within : CallsWithin (boundGraph "embedded in main").nodes (secondCall "embedded in main") :=
    .own ⟨"second", by simp [boundGraph]⟩
  exact ⟨compile_callingBoth, isOwn, spares, within,
    (own_flow_first compile_callingBoth isOwn spares within rfl rfl).1.2 rfl⟩

end Compiler

end DecisionFlow
