import DecisionFlow.Proofs.Compilation.Precedence
import DecisionFlow.Proofs.Evaluation.Rearrangement
import DecisionFlow.Proofs.Graph.Reread

/-!
# The order in which a document lists its nodes

Nodes are compiled in the order in which they are listed, and edges are placed in theirs. Once the
nodes are compiled this order is gone: graphs from the same nodes and edges evaluate every record to
the same, if calls of the same node hold graphs that do.

But the order decides which flow is called first. What a call is answered with depends on the flows
that were registered until then, and what it holds on the graphs that were stored until then, so that
the same call can be bound to different flows. It is not as long as answers are steady: no flow that is
brought along changes the answer to a question, and no two answers have one key. Then every call is
bound to the same graph in whatever order nodes and edges are listed (`evaluate_eq_of_rearranged`).
-/

set_option autoImplicit false

namespace DecisionFlow

open DecisionFlow.Graph (Calls CallsWithin)

namespace Compiler

variable {compiler : Compiler}

/-! ## Nodes that were read from one document -/

/-- Two nodes that were read from one node document differ in what they call at most. -/
theorem ReadsNode.alike {document : NodeDocument} {node node' : Node Graph}
    (reads : compiler.ReadsNode document node) (reads' : compiler.ReadsNode document node') :
    node.id = node'.id ∧ node.kind.unresolved = node'.kind.unresolved := by
  refine ⟨reads.id_eq.trans reads'.id_eq.symm, ?_⟩
  obtain ⟨reader, known, read⟩ := reads.read
  obtain ⟨reader', known', read'⟩ := reads'.read
  obtain rfl : reader = reader' := Option.some.inj (known.symm.trans known')
  exact Except.ok.inj (read.symm.trans read')

/-! ## Calls that are answered alike -/

/-- Calls in the two graphs, at any depth, that ask the same question hold graphs that were compiled
from one document. -/
def AnsweredAlike (compiler : Compiler) (graph other : Graph) : Prop :=
  ∀ ⦃call call' : SubflowCall Graph⦄, CallsWithin graph.nodes call → CallsWithin other.nodes call' →
    call.flow = call'.flow → call.version = call'.version →
      ∃ document, CompiledFrom compiler document call.target ∧
        CompiledFrom compiler document call'.target

variable {graph other : Graph}

/-- Calls that ask the same question hold the same graph, if all such calls hold graphs from one
document. -/
theorem AnsweredAlike.target_eq (alike : compiler.AnsweredAlike graph other)
    {call call' : SubflowCall Graph} (within : CallsWithin graph.nodes call)
    (within' : CallsWithin other.nodes call') (sameFlow : call.flow = call'.flow)
    (sameRequest : call.version = call'.version) : call.target = call'.target := by
  obtain ⟨target, isTarget⟩ : ∃ target, call.target = target := ⟨_, rfl⟩
  induction target using Graph.induction_on_calls generalizing call call' with
  | step target ih =>
      subst isTarget
      obtain ⟨document, made, made'⟩ := alike within within' sameFlow sameRequest
      have sameNodes : call.target.nodes = call'.target.nodes := by
        refine eq_of_inStep made.read made'.read ?_
        rintro ⟨id, kind⟩ member ⟨id', kind'⟩ member' document reads reads'
        obtain ⟨rfl, sameKind⟩ := reads.alike reads'
        suffices same : kind = kind' by rw [same]
        rw [← kind.map_id, ← kind'.map_id]
        refine NodeKind.map_eq_of_unresolved_eq sameKind ?_
        rintro inner inner' rfl rfl sameInnerFlow sameInnerRequest
        have calls : Calls call.target.nodes inner := ⟨id, member⟩
        exact ih inner calls (.nested within calls) (.nested within' ⟨id, member'⟩) sameInnerFlow
          sameInnerRequest rfl
      exact Except.ok.inj (made.assembled.symm.trans (sameNodes ▸ made'.assembled))

end Compiler

/-! ## Rearranged documents -/

/-- The same nodes and edges are listed in some order, and nothing else is different. -/
structure FlowDocument.Rearranges (document arranged : FlowDocument) : Prop where
  id_eq : arranged.id = document.id
  version_eq : arranged.version = document.version
  subflows_eq : arranged.subflows = document.subflows
  nodes : arranged.nodes.Perm document.nodes
  edges : arranged.edges.Perm document.edges

theorem FlowDocument.Rearranges.refl (document : FlowDocument) : document.Rearranges document :=
  ⟨rfl, rfl, rfl, .refl _, .refl _⟩

theorem FlowDocument.Rearranges.key_eq {document arranged : FlowDocument}
    (rearranges : document.Rearranges arranged) : arranged.key = document.key :=
  congrArg₂ flowKey rearranges.id_eq rearranges.version_eq

theorem FlowDocument.Rearranges.bare_equalUnless {document arranged : FlowDocument}
    (rearranges : document.Rearranges arranged) :
    document.bare.EqualUnless document.key arranged.bare :=
  ⟨rearranges.id_eq.symm, rearranges.version_eq.symm, rfl, fun different => absurd rfl different⟩

/-- Calls by nodes with the same id hold graphs with the same results. -/
def Graph.BoundAlike (graph other : Graph) : Prop :=
  ∀ ⦃id : String⦄ ⦃call call' : SubflowCall Graph⦄, ⟨id, .subflowCall call⟩ ∈ graph.nodes →
    ⟨id, .subflowCall call'⟩ ∈ other.nodes →
      ∀ record, call.target.evaluate record = call'.target.evaluate record

namespace Compiler

variable {compiler : Compiler} {document arranged : FlowDocument} {graph other : Graph}

/-- Every node stands in the other graph as well, up to what it calls. -/
theorem exists_node_of_rearranges (rearranges : document.Rearranges arranged)
    (made : CompiledFrom compiler document graph) (made' : CompiledFrom compiler arranged other)
    {node : Node Graph} (member : node ∈ graph.nodes) :
    ∃ node' ∈ other.nodes, node.id = node'.id ∧ node.kind.unresolved = node'.kind.unresolved := by
  obtain ⟨source, isSource, reads⟩ := exists_left_of_mem made.read member
  obtain ⟨node', member', reads'⟩ :=
    exists_right_of_mem made'.read (rearranges.nodes.mem_iff.2 isSource)
  exact ⟨node', member', reads.alike reads'⟩

/-- The order itself does not show: graphs from rearranged documents have the same results if their
calls do. -/
theorem evaluate_eq_of_boundAlike (rearranges : document.Rearranges arranged)
    (made : CompiledFrom compiler document graph) (made' : CompiledFrom compiler arranged other)
    (alike : graph.BoundAlike other) (record : Record) :
    graph.evaluate record = other.evaluate record := by
  have sameLength : graph.nodes.length = other.nodes.length := by
    rw [← made.read.length_eq, ← made'.read.length_eq, rearranges.nodes.length_eq]
  refine Graph.evaluate_eq_of_effects made.assembled made'.assembled sameLength ?_
    rearranges.edges.symm.subset record
  rintro ⟨id, kind⟩ member
  obtain ⟨⟨id', kind'⟩, member', rfl, sameKind⟩ :=
    exists_node_of_rearranges rearranges made made' member
  refine ⟨_, member', Node.effect_eq_iff.2 ⟨rfl, NodeKind.map_eq_of_unresolved_eq sameKind ?_⟩⟩
  rintro call call' rfl rfl - -
  exact funext (alike member member')

/-- Calls by nodes with the same id ask the same question. -/
theorem AnsweredAlike.boundAlike (rearranges : document.Rearranges arranged)
    (made : CompiledFrom compiler document graph) (made' : CompiledFrom compiler arranged other)
    (alike : compiler.AnsweredAlike graph other) : graph.BoundAlike other := by
  intro id call call' member member' record
  obtain ⟨node', isNode, sameId, sameKind⟩ :=
    exists_node_of_rearranges rearranges made made' member
  have distinct := (Graph.assemble_eq_ok_iff.1 made'.assembled).1
  obtain rfl := Graph.eq_of_id_eq distinct isNode member' sameId.symm
  simp only [NodeKind.unresolved, NodeKind.map, NodeKind.subflowCall.injEq,
    SubflowCall.mk.injEq] at sameKind
  rw [alike.target_eq (.own ⟨id, member⟩) (.own ⟨id, member'⟩) sameKind.1 sameKind.2.1]

/-! ## Steady answers -/

/-- What answers a call in one of two libraries has a counterpart that answers it in the other. -/
theorem exists_findDocument_of_equalUnless {key flow : String} {request : VersionRequest}
    {library library' : Library} {answer' : FlowDocument} (equal : library.EqualUnless key library')
    (answered : compiler.findDocument library' flow request = .ok answer') :
    ∃ answer, compiler.findDocument library flow request = .ok answer ∧
      answer.EqualUnless key answer' := by
  have related := equal.find? flow request
  obtain ⟨found | ⟨missing, supplied⟩, isFlow, accepted⟩ := findDocument_eq_ok_iff.1 answered
  · rw [found] at related
    generalize here : library.find? flow request = found at related
    obtain @⟨answer, _, same⟩ := related
    exact ⟨answer, findDocument_eq_ok_iff.2
      ⟨.inl here, same.id_eq.trans isFlow, same.version_eq ▸ accepted⟩, same⟩
  · rw [missing] at related
    generalize here : library.find? flow request = found at related
    cases related
    exact ⟨answer', findDocument_eq_ok_iff.2 ⟨.inr ⟨here, supplied⟩, isFlow, accepted⟩, .refl _ _⟩

/-- The libraries that can be met while a document is compiled, in whatever order its calls are
answered: what it embeds, and then what is embedded in documents that answer calls. -/
inductive Arises (compiler : Compiler) (document : FlowDocument) : Library → Prop where
  | own : Arises compiler document document.library
  | brought {library earlier : Library} {flow : String} {request : VersionRequest}
      {answer : FlowDocument} (arises : Arises compiler document library)
      (before : Arises compiler document earlier)
      (answered : compiler.findDocument earlier flow request = .ok answer) :
      Arises compiler document (answer.subflows.foldl Library.registerWithEmbedded library)

/-- While the document is compiled, the question can be answered like this. -/
def Offers (compiler : Compiler) (document : FlowDocument) (flow : String)
    (request : VersionRequest) (answer : FlowDocument) : Prop :=
  ∃ library, compiler.Arises document library ∧
    compiler.findDocument library flow request = .ok answer

/-- While the document is compiled, a question has one answer only, and a key belongs to one answer
only. The document itself is left out, since it cannot be called. -/
structure Steady (compiler : Compiler) (document : FlowDocument) : Prop where
  answer_eq : ∀ {flow request answer answer'}, compiler.Offers document flow request answer →
    compiler.Offers document flow request answer' → answer.key ≠ document.key →
      answer'.key ≠ document.key → answer = answer'
  eq_of_key_eq : ∀ {flow flow' request request' answer answer'},
    compiler.Offers document flow request answer → compiler.Offers document flow' request' answer' →
      answer.key = answer'.key → answer.key ≠ document.key → answer = answer'

/-- Calls in a rearranged document are answered like those in the document, unless by the document
itself. -/
def arisingSupply (compiler : Compiler) (document : FlowDocument) : Supply compiler where
  ready library' := ∃ library, compiler.Arises document library ∧
    library.EqualUnless document.key library'
  source answer' := ∃ flow request answer, compiler.Offers document flow request answer ∧
    answer.EqualUnless document.key answer'
  found := by
    rintro library' flow request answer' ⟨library, arises, equal⟩ answered'
    obtain ⟨answer, answered, same⟩ := exists_findDocument_of_equalUnless equal answered'
    exact ⟨flow, request, answer, ⟨library, arises, answered⟩, same⟩
  embedded := by
    rintro library' answer' ⟨library, arises, equal⟩ ⟨flow, request, answer, offered, same⟩
    obtain ⟨earlier, before, answered⟩ := offered
    refine ⟨_, .brought arises before answered, ?_⟩
    rw [Library.foldl_registerWithEmbedded, Library.foldl_registerWithEmbedded, same.subflows_eq]
    exact equal.registerAll

/-- Compilation begins with what the document embeds. -/
theorem ready_of_rearranges (rearranges : document.Rearranges arranged) :
    (arisingSupply compiler document).ready ((initialProgress arranged).embed arranged).embedded := by
  refine ⟨document.library, .own, ?_⟩
  have gathered : ((initialProgress arranged).embed arranged).embedded =
      (Library.empty.register arranged.bare).registerAll (Library.flattenAll document.subflows) := by
    rw [← rearranges.subflows_eq]
    exact arranged.library_eq
  rw [gathered, FlowDocument.library_eq]
  have begins := (Library.equalUnless_refl document.key .empty).register rearranges.bare_equalUnless
  exact begins.registerAll

/-- If answers are steady, a call holds a graph that was compiled from an answer to its question. -/
theorem Steady.exists_offered (steady : compiler.Steady document)
    (rearranges : document.Rearranges arranged)
    (compiled : (compiler.compile arranged).1 = .ok graph) {call : SubflowCall Graph}
    (within : CallsWithin graph.nodes call) :
    ∃ answer, compiler.Offers document call.flow call.version answer ∧ answer.key ≠ document.key ∧
      CompiledFrom compiler answer call.target := by
  obtain ⟨made, progress, closed, -, settled⟩ :=
    exists_closed (arisingSupply compiler document) (ready_of_rearranges rearranges) compiled
  obtain ⟨stored, library', answer', ⟨library, arises, equal⟩, answered', isKey⟩ :=
    settled call within
  obtain ⟨answer, answered, same⟩ := exists_findDocument_of_equalUnless equal answered'
  obtain ⟨source', ⟨flow, request, source, offered, sameSource⟩, madeFrom⟩ := closed.compiled stored
  have answerKey : answer.key = call.target.key := same.key_eq.trans isKey
  have sourceKey : source.key = call.target.key := sameSource.key_eq.trans madeFrom.key_eq.symm
  have notMain : call.target.key ≠ document.key := by
    rw [← rearranges.key_eq, ← made.key_eq]
    exact key_ne_of_within compiled within
  -- The graph may have been stored for another call, whose answer has the same key.
  obtain rfl : source = source' := sameSource.eq_of_key_ne (sourceKey ▸ notMain)
  obtain rfl : source = answer := steady.eq_of_key_eq offered ⟨library, arises, answered⟩
    (sourceKey.trans answerKey.symm) (sourceKey ▸ notMain)
  exact ⟨source, ⟨library, arises, answered⟩, sourceKey ▸ notMain, madeFrom⟩

/-- Steady answers do not depend on the order of calls. -/
theorem Steady.answeredAlike (steady : compiler.Steady document)
    (rearranges : document.Rearranges arranged)
    (compiled : (compiler.compile document).1 = .ok graph)
    (compiled' : (compiler.compile arranged).1 = .ok other) :
    compiler.AnsweredAlike graph other := by
  intro call call' within within' sameFlow sameRequest
  obtain ⟨answer, offered, notMain, made⟩ := steady.exists_offered (.refl _) compiled within
  obtain ⟨answer', offered', notMain', made'⟩ := steady.exists_offered rearranges compiled' within'
  rw [← sameFlow, ← sameRequest] at offered'
  obtain rfl := steady.answer_eq offered offered' notMain notMain'
  exact ⟨answer, made, made'⟩

/-- **The order of nodes and edges.** If a document and a rearrangement of it both compile, the two
graphs evaluate every record to the same result or the same error, provided that calls of nodes with
the same id hold graphs which do. They hold such graphs if every question was answered with the same
document in both compilations, and it was if answers are steady. -/
theorem evaluate_eq_of_rearranged (rearranges : document.Rearranges arranged)
    (compiled : (compiler.compile document).1 = .ok graph)
    (compiled' : (compiler.compile arranged).1 = .ok other) :
    (graph.BoundAlike other → ∀ record, graph.evaluate record = other.evaluate record) ∧
      (compiler.AnsweredAlike graph other → graph.BoundAlike other) ∧
        (compiler.Steady document → compiler.AnsweredAlike graph other) := by
  obtain ⟨made, -⟩ := exists_closed (.any compiler) trivial compiled
  obtain ⟨made', -⟩ := exists_closed (.any compiler) trivial compiled'
  exact ⟨evaluate_eq_of_boundAlike rearranges made made',
    AnsweredAlike.boundAlike rearranges made made',
    fun steady => steady.answeredAlike rearranges compiled compiled'⟩

/-! ## Flows that bring nothing along -/

/-- If the flows of the resolver embed nothing, calls are answered from what the document embeds. -/
theorem Arises.eq_library {library : Library}
    (bare : ∀ flow request supplied, compiler.resolver.answer flow request = .ok (some supplied) →
      supplied.subflows = [])
    (arises : compiler.Arises document library) : library = document.library := by
  induction arises with
  | own => rfl
  | @brought library earlier flow request answer _ _ answered isLibrary isEarlier =>
      obtain ⟨embedded | ⟨-, supplied⟩, -⟩ := findDocument_eq_ok_iff.1 answered
      · rw [isEarlier] at embedded
        obtain ⟨member, -⟩ := Library.mem_candidates_of_find? embedded
        rw [FlowDocument.subflows_of_mem_library member, isLibrary]
        rfl
      · rw [bare flow request answer supplied, isLibrary]
        rfl

/-- If the flows of the resolver embed nothing, answers are steady as soon as keys are different. -/
theorem steady_of_bare
    (bare : ∀ flow request supplied, compiler.resolver.answer flow request = .ok (some supplied) →
      supplied.subflows = [])
    (apart : ∀ {flow flow' request request' answer answer'},
      compiler.findDocument document.library flow request = .ok answer →
        compiler.findDocument document.library flow' request' = .ok answer' →
          answer.key = answer'.key → answer = answer') : compiler.Steady document := by
  constructor
  case answer_eq =>
    rintro flow request answer answer' ⟨library, arises, answered⟩ ⟨library', arises', answered'⟩ - -
    rw [arises.eq_library bare] at answered
    rw [arises'.eq_library bare, answered] at answered'
    exact Except.ok.inj answered'
  case eq_of_key_eq =>
    rintro flow flow' request request' answer answer' ⟨library, arises, answered⟩
      ⟨library', arises', answered'⟩ same -
    rw [arises.eq_library bare] at answered
    rw [arises'.eq_library bare] at answered'
    exact apart answered answered' same

/-- The nodes of `callingBoth`, with the call of `x` before that of `r`. -/
def listingSecondFirst : FlowDocument :=
  { callingBoth with
    nodes := [⟨"start", "start", []⟩, callNode "second" ("x", "1"), callNode "first" ("r", "1"),
      ⟨"end", "output", [("output", .object [("node", .string "second")])]⟩] }

theorem rearranges_listingSecondFirst : callingBoth.Rearranges listingSecondFirst :=
  ⟨rfl, rfl, rfl, .cons _ (.swap _ _ _), .refl _⟩

/-- The calls of `callingBoth` are answered with `x` or `r`, if not with the flow itself. -/
theorem eq_of_answers_callingBoth {flow : String} {request : VersionRequest} {answer : FlowDocument}
    (answered : (supplying []).findDocument callingBoth.library flow request = .ok answer) :
    answer ∈ [callingBoth.bare, quotingFlow "x" "embedded in main",
      quotingFlow "r" "flow r, version 1"] := by
  obtain ⟨embedded | ⟨-, supplied⟩, -⟩ := findDocument_eq_ok_iff.1 answered
  · obtain ⟨member, -⟩ := Library.mem_candidates_of_find? embedded
    exact List.mem_append_left [quotingFlow "r" "flow r, version 1"] member
  · cases supplied
    exact List.mem_of_getElem? (i := 2) rfl

theorem steady_callingBoth : (supplying []).Steady callingBoth := by
  refine steady_of_bare ?_ fun answered answered' same => ?_
  · rintro flow request supplied ⟨⟩
    rfl
  · have member := eq_of_answers_callingBoth answered
    have member' := eq_of_answers_callingBoth answered'
    have distinct : ([callingBoth.bare, quotingFlow "x" "embedded in main",
        quotingFlow "r" "flow r, version 1"].map FlowDocument.key).Nodup := by decide
    exact List.inj_on_of_nodup_map distinct member member' same

/-- If `r` brings nothing along, the order of the two calls makes no difference. -/
theorem evaluate_eq_of_listingSecondFirst : ∃ other,
    callingBoth.Rearranges listingSecondFirst ∧
      ((supplying []).compile callingBoth).1 = .ok (boundGraph "embedded in main") ∧
        ((supplying []).compile listingSecondFirst).1 = .ok other ∧
          (supplying []).Steady callingBoth ∧
            ∀ record, (boundGraph "embedded in main").evaluate record = other.evaluate record := by
  have succeeds : ((supplying []).compile listingSecondFirst).1.isOk = true := by decide +kernel
  obtain ⟨other, compiled'⟩ := isOk_iff.1 succeeds
  obtain ⟨same, bound, answered⟩ :=
    evaluate_eq_of_rearranged rearranges_listingSecondFirst compile_callingBoth compiled'
  exact ⟨other, rearranges_listingSecondFirst, compile_callingBoth, compiled', steady_callingBoth,
    same (bound (answered steady_callingBoth))⟩

/-- What the flow yields for the empty record, if it compiles. -/
def yielded? (compiler : Compiler) (document : FlowDocument) : Option String :=
  (compiler.compile document).1.toOption.bind fun graph =>
    (graph.evaluate ⟨[]⟩).toOption.map fun result => result.output.display

theorem yielded?_eq_some_iff {text : String} :
    compiler.yielded? document = some text ↔ ∃ graph, (compiler.compile document).1 = .ok graph ∧
      ∃ result, graph.evaluate ⟨[]⟩ = .ok result ∧ result.output.display = text := by
  simp only [yielded?, Option.bind_eq_some_iff, Option.map_eq_some_iff, toOption_eq_some_iff]

/-- If `r` brings a flow `x` along, the order decides which `x` is called. -/
theorem exists_evaluate_ne_of_listingSecondFirst : callingBoth.Rearranges listingSecondFirst ∧
    ∃ graph other,
      ((supplying [quotingFlow "x" "embedded in r"]).compile callingBoth).1 = .ok graph ∧
        ((supplying [quotingFlow "x" "embedded in r"]).compile listingSecondFirst).1 = .ok other ∧
          ∃ record, graph.evaluate record ≠ other.evaluate record := by
  have yields : (supplying [quotingFlow "x" "embedded in r"]).yielded? callingBoth =
      some "\"embedded in r\"" := by decide +kernel
  have yields' : (supplying [quotingFlow "x" "embedded in r"]).yielded? listingSecondFirst =
      some "\"embedded in main\"" := by decide +kernel
  obtain ⟨graph, compiled, result, evaluated, shown⟩ := yielded?_eq_some_iff.1 yields
  obtain ⟨other, compiled', result', evaluated', shown'⟩ := yielded?_eq_some_iff.1 yields'
  refine ⟨rearranges_listingSecondFirst, graph, other, compiled, compiled', ⟨[]⟩, fun same => ?_⟩
  rw [evaluated, evaluated'] at same
  obtain rfl : result = result' := Except.ok.inj same
  exact absurd (shown.symm.trans shown') (by decide)

end Compiler

end DecisionFlow
