import DecisionFlow.Proofs.Compilation.Binding
import DecisionFlow.Proofs.Compilation.Imitation
import DecisionFlow.Proofs.Library

/-!
# Embedded flows and flows of a library

The flows that a document calls can be embedded in it, or they can be registered in a library with
which a resolver answers. Either way a call finds the same documents, with one exception. The main flow
can be called like an embedded one, and embedded flows come first: a call of any version of the main
flow's own id is answered with the highest of its versions if they are embedded, but always with the
main flow itself, which is being compiled, if they are in a library.

So the document compiles with the library exactly if it compiles with the embedded flows and makes no
such call, and then to the same graph (`compile_supplied_iff`). The two outcomes are the same exactly
if no such call occurs in the graph that the document compiles to with the flows embedded
(`sameOutcome_iff`).
-/

set_option autoImplicit false

namespace DecisionFlow

open DecisionFlow.Graph (CallsWithin)

/-- The library into which documents were registered with what they embed. -/
def Library.ofDocuments (documents : List FlowDocument) : Library :=
  documents.foldl Library.registerWithEmbedded Library.empty

/-- The document with other flows embedded in it. -/
def FlowDocument.embedding (document : FlowDocument) (flows : List FlowDocument) : FlowDocument :=
  { document with subflows := flows }

namespace Library

variable {flows : List FlowDocument}

theorem ofDocuments_eq (flows : List FlowDocument) :
    ofDocuments flows = empty.registerAll (flattenAll flows) :=
  foldl_registerWithEmbedded empty flows

theorem subflows_of_mem_ofDocuments {document : FlowDocument}
    (member : document ∈ (ofDocuments flows).documents) : document.subflows = [] := by
  rw [ofDocuments_eq] at member
  rcases mem_of_mem_registerAll member with nothing | flattened
  · cases nothing
  · exact subflows_of_mem_flattenAll _ flattened

theorem length_ofDocuments_le (flows : List FlowDocument) :
    (ofDocuments flows).documents.length ≤ FlowDocument.flowCounts flows := by
  have lists := lists_empty.registerAll (flattenAll flows)
  rw [ofDocuments_eq, ← length_flattenAll, lists.perm.length_eq]
  simpa using length_foldl_enlist_le [] (flattenAll flows)

end Library

/-- Some call in the graph, at any depth, is for any version of the flow. -/
def Graph.AsksForAny (graph : Graph) (flow : String) : Prop :=
  ∃ call, CallsWithin graph.nodes call ∧ call.flow = flow ∧ call.version = .any

namespace Compiler

variable {kinds : KindTable} {document : FlowDocument} {flows : List FlowDocument}

/-- The outcome for a document with embedded flows and no resolver. -/
def compileEmbedding (kinds : KindTable) (document : FlowDocument) (flows : List FlowDocument) :
    Except CompileError Graph × List CompileWarning :=
  (Compiler.mk kinds Resolver.none).compile (document.embedding flows)

/-- The compiler whose resolver looks flows up in a library. -/
def supplied (kinds : KindTable) (flows : List FlowDocument) : Compiler :=
  ⟨kinds, .ofLibrary (Library.ofDocuments flows)⟩

/-- The outcome for a document that embeds nothing, with the flows in a library. -/
def compileSupplied (kinds : KindTable) (document : FlowDocument) (flows : List FlowDocument) :
    Except CompileError Graph × List CompileWarning :=
  (supplied kinds flows).compile document.bare

/-! ## Answers -/

/-- The main flow can answer the question. -/
def AnswersFor (document : FlowDocument) (flow : String) (request : VersionRequest) : Prop :=
  document.id = flow ∧ request.accepts document.version = true

/-- The question is for any version of the main flow's id. -/
def AsksBack (document : FlowDocument) (flow : String) (request : VersionRequest) : Prop :=
  flow = document.id ∧ request = .any

section

variable {flow : String} {request : VersionRequest} {found : FlowDocument}

/-- What the main flow cannot answer, the embedded flows answer like the library. -/
theorem find?_embedding (apart : ¬ AnswersFor document flow request) :
    (document.embedding flows).library.find? flow request =
      (Library.ofDocuments flows).find? flow request := by
  have candidates : (Library.empty.register document.bare).candidates flow request =
      Library.empty.candidates flow request := by
    have nothing : Library.empty.candidates flow request = [] := rfl
    simpa [Library.candidates_register, nothing, AnswersFor, FlowDocument.bare] using apart
  rw [Library.ofDocuments_eq, FlowDocument.library_eq, Library.find?, Library.find?]
  exact congrArg Library.highest? (Library.candidates_registerAll_congr candidates)

/-- Nothing but the main flow can be called from the document alone. -/
theorem find?_bare (apart : ¬ AnswersFor document flow request) :
    document.bare.library.find? flow request = none := by
  cases found : document.bare.library.find? flow request with
  | none => rfl
  | some answer =>
      obtain ⟨member, isFlow, accepted⟩ := Library.mem_candidates_of_find? found
      obtain rfl := List.mem_singleton.1 (FlowDocument.mem_of_mem_library member)
      exact absurd ⟨isFlow, accepted⟩ apart

theorem find?_bare_of_asksBack (back : AsksBack document flow request) :
    document.bare.library.find? flow request = some document.bare := by
  obtain ⟨rfl, rfl⟩ := back
  have member : document.bare ∈ document.bare.library.documents :=
    Library.mem_documents_register.2 (.inr rfl)
  exact Library.find?_eq_some_of_unique member rfl rfl fun other otherMember _ _ =>
    List.mem_singleton.1 (FlowDocument.mem_of_mem_library otherMember)

/-- Embedded flows and the library give the same answers to what the main flow cannot answer. -/
theorem findDocument_embedding_iff (apart : ¬ AnswersFor document flow request) :
    (Compiler.mk kinds Resolver.none).findDocument (document.embedding flows).library flow request =
        .ok found ↔
      (supplied kinds flows).findDocument document.bare.library flow request = .ok found := by
  rw [findDocument_eq_ok_iff, findDocument_eq_ok_iff, find?_embedding apart, find?_bare apart]
  simp [supplied, Resolver.none, Resolver.ofLibrary]

/-- If a flow with another key is found, the main flow could not have answered, unless any version of
its id was asked for. -/
theorem not_answersFor_of_found {compiler : Compiler} {library : Library}
    (answer : compiler.findDocument library flow request = .ok found)
    (other : found.key ≠ document.key) (notBack : ¬ AsksBack document flow request) :
    ¬ AnswersFor document flow request := by
  obtain ⟨-, isFlow, accepted⟩ := findDocument_eq_ok_iff.1 answer
  rintro ⟨rfl, answers⟩
  cases request with
  | any => exact notBack ⟨rfl, rfl⟩
  | exact version =>
      have sameVersion : found.version = document.version :=
        (eq_of_beq accepted).symm.trans (eq_of_beq answers)
      exact other (congrArg₂ flowKey isFlow sameVersion)

/-- What the main flow cannot answer, a document in the library does. -/
theorem mem_of_supplied (apart : ¬ AnswersFor document flow request)
    (answer : (supplied kinds flows).findDocument document.bare.library flow request = .ok found) :
    found ∈ (Library.ofDocuments flows).documents := by
  obtain ⟨inside | ⟨-, outside⟩, -⟩ := findDocument_eq_ok_iff.1 answer
  · rw [find?_bare apart] at inside
    cases inside
  · exact (Library.mem_candidates_of_find? (Except.ok.inj outside)).1

end

/-! ## Each way imitates the other -/

/-- The keys of the main flow and of the flows in the library. -/
def suppliedKeys (document : FlowDocument) (flows : List FlowDocument) : List String :=
  (document.bare :: (Library.ofDocuments flows).documents).map FlowDocument.key

/-- A library answers like embedded flows. -/
def suppliedImitation (kinds : KindTable) (document : FlowDocument) (flows : List FlowDocument) :
    Imitation ⟨kinds, .none⟩ (supplied kinds flows) (document.embedding flows).key
      (suppliedKeys document flows) where
  alike library library' :=
    library = (document.embedding flows).library ∧ library' = document.bare.library
  asked flow request := ¬ AsksBack document flow request
  kinds := rfl
  answers := by
    rintro _ _ flow request found ⟨rfl, rfl⟩ notBack answer other
    have apart := not_answersFor_of_found answer other notBack
    have answer' := (findDocument_embedding_iff apart).1 answer
    have member := mem_of_supplied apart answer'
    rw [Library.subflows_of_mem_ofDocuments member]
    exact ⟨answer', List.mem_map_of_mem (List.mem_cons_of_mem _ member), rfl, rfl⟩

/-- Embedded flows answer like a library. -/
def embeddingImitation (kinds : KindTable) (document : FlowDocument) (flows : List FlowDocument) :
    Imitation (supplied kinds flows) ⟨kinds, .none⟩ document.bare.key
      (suppliedKeys document flows) where
  alike library library' :=
    library = document.bare.library ∧ library' = (document.embedding flows).library
  asked flow request := ¬ AsksBack document flow request
  kinds := rfl
  answers := by
    rintro _ _ flow request found ⟨rfl, rfl⟩ notBack answer other
    have apart := not_answersFor_of_found answer other notBack
    have member := mem_of_supplied apart answer
    rw [Library.subflows_of_mem_ofDocuments member]
    exact ⟨(findDocument_embedding_iff apart).2 answer,
      List.mem_map_of_mem (List.mem_cons_of_mem _ member), rfl, rfl⟩

/-- With the flows in a library, only the main flow and bare documents are found. -/
def bareSupply (kinds : KindTable) (document : FlowDocument) (flows : List FlowDocument) :
    Supply (supplied kinds flows) where
  ready library := library = document.bare.library
  source found := found.subflows = []
  found := by
    rintro _ flow request found rfl answer
    obtain ⟨inside | ⟨-, outside⟩, -⟩ := findDocument_eq_ok_iff.1 answer
    · exact FlowDocument.subflows_of_mem_library (Library.mem_candidates_of_find? inside).1
    · exact Library.subflows_of_mem_ofDocuments
        (Library.mem_candidates_of_find? (Except.ok.inj outside)).1
  embedded := by
    rintro _ found rfl isBare
    rw [isBare]
    rfl

/-- A call for any version of the main flow's id is answered with the main flow, so that nothing
compiles that makes one. -/
theorem not_asksBack_of_supplied {graph : Graph}
    (compiled : (compileSupplied kinds document flows).1 = .ok graph) {call : SubflowCall Graph}
    (within : CallsWithin graph.nodes call) : ¬ AsksBack document call.flow call.version := by
  intro back
  have ready : (bareSupply kinds document flows).ready
      ((initialProgress document.bare).embed document.bare).embedded := rfl
  obtain ⟨made, progress, -, -, settled⟩ := exists_closed _ ready compiled
  obtain ⟨-, _, found, rfl, answer, isTarget⟩ := settled call within
  obtain ⟨inside | ⟨missing, -⟩, -⟩ := findDocument_eq_ok_iff.1 answer
  · rw [find?_bare_of_asksBack back] at inside
    cases inside
    exact key_ne_of_within compiled within (isTarget.symm.trans made.key_eq.symm)
  · rw [find?_bare_of_asksBack back] at missing
    cases missing

/-! ## Outcomes -/

/-- **A library delivers what can be embedded.** A document compiles with the flows in a library
exactly if it compiles with the flows embedded, to the same graph and with the same remarks, and no
call is for any version of the main flow's id. -/
theorem compile_supplied_iff {graph : Graph} {warnings : List CompileWarning} :
    compileSupplied kinds document flows = (.ok graph, warnings) ↔
      compileEmbedding kinds document flows = (.ok graph, warnings) ∧
        ¬ graph.AsksForAny document.id := by
  have isBare : ∀ found ∈ (Library.ofDocuments flows).documents, found.subflows = [] :=
    fun _ => Library.subflows_of_mem_ofDocuments
  constructor
  · intro compiled
    have notBack : ∀ call, CallsWithin graph.nodes call →
        ¬ AsksBack document call.flow call.version := fun call within =>
      not_asksBack_of_supplied (congrArg Prod.fst compiled) within
    refine ⟨(embeddingImitation kinds document flows).compile_eq compiled rfl ⟨rfl, rfl⟩ notBack
      List.mem_cons_self ?_, fun ⟨call, within, back⟩ => notBack call within back⟩
    have fewer := Library.length_ofDocuments_le flows
    simp only [suppliedKeys, List.length_map, List.length_cons, nesting, FlowDocument.embedding,
      FlowDocument.flowCount]
    omega
  · rintro ⟨compiled, notBack⟩
    refine (suppliedImitation kinds document flows).compile_eq compiled rfl ⟨rfl, rfl⟩
      (fun call within back => notBack ⟨call, within, back⟩) List.mem_cons_self ?_
    simp only [suppliedKeys, List.length_map, List.length_cons, nesting, supplied,
      Resolver.ofLibrary, FlowDocument.flowCounts_of_bare isBare]
    omega

/-- Both yield the same graph, or neither yields one. -/
def SameOutcome (first second : Except CompileError Graph) : Prop :=
  ∀ graph, first = .ok graph ↔ second = .ok graph

/-- **Flows may be embedded or supplied by a library**, with the same outcome, exactly if the document
with the flows embedded does not compile to a graph in which some call is for any version of the main
flow's id. If it does, it does not compile with the library. -/
theorem sameOutcome_iff (kinds : KindTable) (document : FlowDocument) (flows : List FlowDocument) :
    (SameOutcome (compileEmbedding kinds document flows).1 (compileSupplied kinds document flows).1 ↔
      ∀ graph, (compileEmbedding kinds document flows).1 = .ok graph →
        ¬ graph.AsksForAny document.id) ∧
    ∀ graph, (compileSupplied kinds document flows).1 = .ok graph ↔
      (compileEmbedding kinds document flows).1 = .ok graph ∧ ¬ graph.AsksForAny document.id := by
  have supplied_iff (graph : Graph) : (compileSupplied kinds document flows).1 = .ok graph ↔
      (compileEmbedding kinds document flows).1 = .ok graph ∧ ¬ graph.AsksForAny document.id := by
    constructor
    · intro compiled
      obtain ⟨embedding, notBack⟩ := compile_supplied_iff.1 (Prod.ext compiled rfl)
      exact ⟨congrArg Prod.fst embedding, notBack⟩
    · rintro ⟨compiled, notBack⟩
      exact congrArg Prod.fst (compile_supplied_iff.2 ⟨Prod.ext compiled rfl, notBack⟩)
  refine ⟨⟨fun same graph compiled => ?_, fun notBack graph => ?_⟩, supplied_iff⟩
  · exact ((supplied_iff graph).1 ((same graph).1 compiled)).2
  · rw [supplied_iff]
    exact ⟨fun compiled => ⟨compiled, notBack graph compiled⟩, And.left⟩

/-! ## A call of any version of the main flow -/

/-- Version `1` of a flow that calls any version of itself. -/
def callingLatest : FlowDocument where
  id := "main"
  version := "1"
  nodes := [⟨"start", "start", []⟩, callNode "call" ("main", "*"),
    ⟨"end", "output", [("output", .object [("node", .string "call")])]⟩]
  edges := [⟨"start", "call", none⟩, ⟨"call", "end", none⟩]
  subflows := []

/-- Version `2` of the flow is called if it is embedded. If it is in a library, the call is taken for
one of the main flow itself, and nothing compiles. -/
theorem not_sameOutcome_of_callingLatest :
    ¬ SameOutcome (compileEmbedding KindTable.standard callingLatest [namedFlow "main" "2"]).1
      (compileSupplied KindTable.standard callingLatest [namedFlow "main" "2"]).1 := by
  have embedding : (compileEmbedding KindTable.standard callingLatest
      [namedFlow "main" "2"]).1.isOk = true := by decide +kernel
  have supplied : (compileSupplied KindTable.standard callingLatest
      [namedFlow "main" "2"]).1.isOk = false := by decide +kernel
  obtain ⟨graph, compiled⟩ := isOk_iff.1 embedding
  intro same
  rw [(same graph).1 compiled] at supplied
  cases supplied

end Compiler

end DecisionFlow
