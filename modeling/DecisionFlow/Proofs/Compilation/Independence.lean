import DecisionFlow.Proofs.Compilation.Imitation
import DecisionFlow.Proofs.Compilation.Nesting
import DecisionFlow.Proofs.Library

/-!
# Documents that need no resolver

If a document compiles although no resolver supplies anything, then every call was answered by a flow
that the document embeds, and such flows come first. So no resolver is ever asked, and the document
compiles to the same graph with any of them, whatever that would answer and even if it could not
answer at all (`compile_eq_of_unaided`).
-/

set_option autoImplicit false

namespace DecisionFlow

namespace Compiler

/-- The keys of the main flow and of the flows that it embeds, at any depth. -/
def ownKeys (document : FlowDocument) : List String :=
  (document.bare :: Library.flattenAll document.subflows).map FlowDocument.key

theorem length_ownKeys (document : FlowDocument) :
    (ownKeys document).length = document.flowCount := by
  obtain ⟨id, version, nodes, edges, subflows⟩ := document
  simp [ownKeys, Library.length_flattenAll, FlowDocument.flowCount]

/-- With a resolver, calls of embedded flows are answered as without one. -/
def unaidedImitation (kinds : KindTable) (resolver : Resolver) (document : FlowDocument) :
    Imitation ⟨kinds, .none⟩ ⟨kinds, resolver⟩ document.key (ownKeys document) where
  alike library library' := library = document.library ∧ library' = document.library
  asked _ _ := True
  kinds := rfl
  answers := by
    rintro _ _ flow request found ⟨rfl, rfl⟩ - answer -
    obtain ⟨inside | ⟨-, outside⟩, fits⟩ := findDocument_eq_ok_iff.1 answer
    · have member := (Library.mem_candidates_of_find? inside).1
      rw [FlowDocument.subflows_of_mem_library member]
      exact ⟨findDocument_eq_ok_iff.2 ⟨.inl inside, fits⟩,
        List.mem_map_of_mem (FlowDocument.mem_of_mem_library member), rfl, rfl⟩
    · cases outside

/-- **What needs no resolver compiles with any.** A document that compiles without a resolver compiles
with every one, to the same graph and with the same remarks. -/
theorem compile_eq_of_unaided {kinds : KindTable} {document : FlowDocument} {graph : Graph}
    {warnings : List CompileWarning}
    (compiled : (Compiler.mk kinds Resolver.none).compile document = (.ok graph, warnings))
    (resolver : Resolver) :
    (Compiler.mk kinds resolver).compile document = (.ok graph, warnings) := by
  refine (unaidedImitation kinds resolver document).compile_eq compiled rfl ⟨rfl, rfl⟩
    (fun _ _ => trivial) List.mem_cons_self ?_
  rw [length_ownKeys, nesting]
  omega

/-- A resolver that cannot answer any question. -/
def unhelpful : Resolver where
  answer flow _ := .error (.resolverFailed flow "out of service")
  flowCount := 0

/-- A flow that calls one of its embedded flows directly and through another one, in any version, does
not notice that the resolver is out of service. -/
theorem compile_eq_of_unhelpful : ∃ graph warnings,
    (Compiler.mk KindTable.standard Resolver.none).compile sharedCallee = (.ok graph, warnings) ∧
      (Compiler.mk KindTable.standard unhelpful).compile sharedCallee = (.ok graph, warnings) := by
  have succeeds : (Compiler.plain.compile sharedCallee).1.isOk = true := by decide +kernel
  obtain ⟨graph, compiled⟩ := isOk_iff.1 succeeds
  have whole : (Compiler.mk KindTable.standard Resolver.none).compile sharedCallee =
      (.ok graph, (Compiler.plain.compile sharedCallee).2) := by
    rw [← compiled]
    rfl
  exact ⟨graph, _, whole, compile_eq_of_unaided whole unhelpful⟩

end Compiler

end DecisionFlow
