import DecisionFlow.Proofs.Compilation.Binding
import DecisionFlow.Proofs.Compilation.Embedding
import DecisionFlow.Proofs.Compilation.Reader
import DecisionFlow.Proofs.Compilation.Recompilation
import Mathlib.Data.List.Perm.Subperm

/-!
# Compiling the document of a graph

The document of a compiled graph embeds the flows that the graph calls, but each call keeps its
request. Compiling the document resolves the requests anew, among the embedded flows only, so a call
of any version may be answered by another flow than before: one that the graph calls elsewhere, and
that could not be seen where the call was first resolved.

The document of a graph compiles into a graph that makes the same calls exactly if the graph is
self-contained (`makes_same_calls_iff`): the embedded flows answer each call with the flow that it
holds, and all expressions can be read as they are written.
-/

set_option autoImplicit false

namespace DecisionFlow

open DecisionFlow.Graph (Calls CallsWithin SameCalls nodeDocument edgeDocument)

/-! ## Graphs within a graph -/

/-- A graph, or one that it calls at any depth. -/
def Graph.Within (graph inner : Graph) : Prop :=
  inner = graph ∨ ∃ call, CallsWithin graph.nodes call ∧ call.target = inner

namespace Graph.Within

variable {graph inner : Graph} {call : SubflowCall Graph}

theorem self (graph : Graph) : graph.Within graph :=
  .inl rfl

theorem callsWithin (within : graph.Within inner) (calls : Calls inner.nodes call) :
    CallsWithin graph.nodes call := by
  rcases within with rfl | ⟨outer, isOuter, rfl⟩
  · exact .own calls
  · exact .nested isOuter calls

theorem target (within : CallsWithin graph.nodes call) : graph.Within call.target :=
  .inr ⟨call, within, rfl⟩

end Graph.Within

/-- The embedded flows answer each call with the flow that it holds, and the expressions of all nodes
name what they refer to. -/
structure Graph.SelfContained (graph : Graph) : Prop where
  answered : ∀ call, CallsWithin graph.nodes call →
    graph.toDocument.library.find? call.flow call.version = some call.target.document
  named : ∀ inner, graph.Within inner → ∀ node ∈ inner.nodes, node.kind.Named

namespace Compiler

section

variable {compiler : Compiler} {document : FlowDocument} {graph inner : Graph}

theorem coherent_within (compiled : (compiler.compile document).1 = .ok graph) :
    Graph.Coherent graph.Within := by
  constructor
  · intro inner within call calls
    exact .target (within.callsWithin calls)
  · rintro first second (rfl | ⟨call, within, rfl⟩) (rfl | ⟨other, otherWithin, rfl⟩) same
    · rfl
    · exact absurd same.symm (key_ne_of_within compiled otherWithin)
    · exact absurd same (key_ne_of_within compiled within)
    · exact target_eq_of_key_eq compiled within otherWithin same

theorem exists_compiledFrom (compiled : (compiler.compile document).1 = .ok graph)
    (within : graph.Within inner) : ∃ source, CompiledFrom compiler source inner := by
  rcases within with rfl | ⟨call, isCall, rfl⟩
  · exact ⟨document, (exists_closed (.any compiler) trivial compiled).1⟩
  · obtain ⟨source, -, made⟩ :=
      exists_compiledFrom_of_within (.any compiler) trivial compiled isCall
    exact ⟨source, made⟩

/-- The library of the document of a compiled graph holds the documents of the graphs within. -/
theorem exists_documents (compiled : (compiler.compile document).1 = .ok graph) :
    ∃ graphs : List Graph, graph.toDocument.subflows = graphs.map Graph.document ∧
      graph.toDocument.library.documents.Perm ((graph :: graphs).map Graph.document) ∧
        ∀ inner, inner ∈ graph :: graphs ↔ graph.Within inner := by
  obtain ⟨graphs, isSubflows, distinct, gathered⟩ := exists_embedded compiled
  refine ⟨graphs, isSubflows, ?_, ?_⟩
  · have isDocuments : graph.toDocument.bare :: graph.toDocument.subflows =
        (graph :: graphs).map Graph.document := by
      rw [isSubflows]
      rfl
    rw [← isDocuments]
    refine (FlowDocument.lists_library ?_ ?_).perm
    · rw [isSubflows]
      exact List.forall_mem_map.2 fun _ _ => rfl
    · rw [isDocuments, List.map_map]
      exact distinct
  · intro inner
    rw [List.mem_cons, gathered]
    rfl

end

/-- The compiler with the standard kinds, which may have further names, and a resolver. -/
def builtIn (aliases : List (String × String)) (resolver : Resolver) : Compiler where
  kinds := (KindTable.standard.addAliases aliases).1
  resolver := resolver

section

variable {aliases : List (String × String)} {resolver : Resolver} {document : FlowDocument}
  {graph inner : Graph}

/-- The nodes of compiled graphs were read by built-in readers. -/
theorem regular_of_within
    (compiled : ((builtIn aliases resolver).compile document).1 = .ok graph)
    (within : graph.Within inner) {node : Node Graph} (member : node ∈ inner.nodes) :
    NodeReader.Regular node.kind.unresolved := by
  obtain ⟨source, made⟩ := exists_compiledFrom compiled within
  obtain ⟨written, -, isRead⟩ := exists_left_of_mem made.read member
  obtain ⟨reader, known, read⟩ := isRead.read
  exact NodeReader.regular_of_read
    (KindTable.builtIn_of_addAliases KindTable.builtIn_of_standard aliases _ reader known) read

/-! ## Self-contained graphs compile again -/

theorem serves_of_selfContained
    (compiled : ((builtIn aliases resolver).compile document).1 = .ok graph)
    (contained : graph.SelfContained) : graph.toDocument.library.Serves graph.Within where
  toCoherent := coherent_within compiled
  named inner within := by
    obtain ⟨source, made⟩ := exists_compiledFrom compiled within
    rw [Graph.id_of_assemble made.assembled]
    exact made.named
  wellFormed inner within := by
    obtain ⟨source, made⟩ := exists_compiledFrom compiled within
    exact .of_written made.assembled
  portable inner within node member :=
    ⟨(regular_of_within compiled within member).valid,
      NodeKind.named_unresolved_iff.2 (contained.named inner within node member)⟩
  answered inner within call calls := contained.answered call (within.callsWithin calls)

theorem flowCounts_map_document (graphs : List Graph) :
    FlowDocument.flowCounts (graphs.map Graph.document) = graphs.length := by
  have bare : ∀ document ∈ graphs.map Graph.document, document.subflows = [] := by
    rw [List.forall_mem_map]
    exact fun _ _ => rfl
  rw [FlowDocument.flowCounts_of_bare bare, List.length_map]

theorem exists_again_of_selfContained
    (compiled : ((builtIn aliases resolver).compile document).1 = .ok graph)
    (contained : graph.SelfContained) :
    ∃ again, (Compiler.plain.compile graph.toDocument).1 = .ok again ∧ SameCalls again graph := by
  obtain ⟨graphs, isSubflows, -, gathered⟩ := exists_documents compiled
  have bounded : ∀ keys : List String, keys.Nodup →
      (∀ key ∈ keys, ∃ caller, graph.Within caller ∧ caller.key = key) →
        keys.length ≤ (graph :: graphs).length := by
    intro keys distinct known
    rw [← List.length_map Graph.key]
    have contained : keys ⊆ (graph :: graphs).map Graph.key := by
      intro key member
      obtain ⟨caller, within, isKey⟩ := known key member
      exact List.mem_map.2 ⟨caller, (gathered caller).2 within, isKey⟩
    exact (distinct.subperm contained).length_le
  have enough : (graph :: graphs).length ≤ Compiler.plain.nesting graph.toDocument := by
    have count : graph.toDocument.flowCount = graphs.length + 1 := by
      rw [← flowCounts_map_document, ← isSubflows]
      rfl
    rw [nesting, count, List.length_cons]
    omega
  have mirrored : Mirrored graph.Within graph.toDocument.library
      (Compiler.plain.compileWithin (Compiler.plain.nesting graph.toDocument) [] graph.toDocument)
      graph (initialProgress graph.toDocument) :=
    mirrored_of_hasRoom (serves_of_selfContained compiled contained) bounded (.self graph)
      ⟨List.nodup_nil, by simp, enough⟩ rfl ⟨rfl, fun {key again} stored => by cases stored⟩
  obtain ⟨again, after, run, same, -⟩ := mirrored
  refine ⟨again, ?_, same⟩
  rw [compile, run]

/-! ## Graphs that compile again are self-contained -/

/-- The documents of a graph and of what it calls are all that can be called from its document. -/
def ownSupply (compiled : ((builtIn aliases resolver).compile document).1 = .ok graph) :
    Supply Compiler.plain where
  ready embedded := embedded = graph.toDocument.library
  source called := ∃ inner, graph.Within inner ∧ inner.document = called
  found := by
    rintro _ flow request called rfl answer
    obtain ⟨graphs, -, isDocuments, gathered⟩ := exists_documents compiled
    obtain ⟨found | ⟨-, outside⟩, -⟩ := findDocument_eq_ok_iff.1 answer
    · have member := (Library.mem_candidates_of_find? found).1
      obtain ⟨inner, isGathered, isDocument⟩ := List.mem_map.1 (isDocuments.mem_iff.1 member)
      exact ⟨inner, (gathered inner).1 isGathered, isDocument⟩
    · cases outside
  embedded := by
    rintro _ _ rfl ⟨inner, -, rfl⟩
    rfl

/-- A graph was compiled from the document of another one, and makes the same calls. -/
structure Counterpart (inner again : Graph) : Prop where
  same : SameCalls again inner
  made : ∃ source, source.bare = inner.document ∧ CompiledFrom Compiler.plain source again

section

variable {again : Graph}

theorem Counterpart.read (counterpart : Counterpart inner again) :
    List.Forall₂ (fun node other => Compiler.plain.ReadsNode (nodeDocument node) other) inner.nodes
      again.nodes := by
  obtain ⟨source, isInner, made⟩ := counterpart.made
  have sameNodes : source.nodes = inner.nodes.map nodeDocument :=
    congrArg FlowDocument.nodes isInner
  exact List.forall₂_map_left_iff.1 (sameNodes ▸ made.read)

theorem reader_of_readsNode {node other : Node Graph}
    (isRead : Compiler.plain.ReadsNode (nodeDocument node) other) :
    node.kind.unresolved.reader (node.kind.unresolved.document node.id) =
      .ok other.kind.unresolved := by
  obtain ⟨reader, known, read⟩ := isRead.read
  rw [Graph.nodeDocument_eq] at known read
  obtain rfl : node.kind.unresolved.reader = reader :=
    Option.some.inj ((KindTable.find?_name node.kind.unresolved).symm.trans known)
  exact read

theorem Counterpart.named (counterpart : Counterpart inner again)
    (regular : ∀ node ∈ inner.nodes, NodeReader.Regular node.kind.unresolved)
    {node : Node Graph} (member : node ∈ inner.nodes) : node.kind.unresolved.Named := by
  obtain ⟨other, -, isRead⟩ := exists_right_of_mem counterpart.read member
  exact NodeKind.named_of_reader_document (regular node member).named (reader_of_readsNode isRead)

/-- What the graph calls, its counterpart asks for in the same way. -/
theorem Counterpart.exists_call (counterpart : Counterpart inner again)
    (regular : ∀ node ∈ inner.nodes, NodeReader.Regular node.kind.unresolved)
    (distinct : (Graph.ids inner.nodes).Nodup) {call : SubflowCall Graph}
    (calls : Calls inner.nodes call) :
    ∃ other, Calls again.nodes other ∧ other.flow = call.flow ∧ other.version = call.version ∧
      SameCalls other.target call.target := by
  obtain ⟨id, member⟩ := calls
  obtain ⟨other, otherMember, same⟩ := counterpart.same.exists_call distinct member
  obtain ⟨node, isNode, isRead⟩ := exists_left_of_mem counterpart.read otherMember
  obtain rfl := Graph.eq_of_id_eq distinct isNode member isRead.id_eq.symm
  have reread := NodeKind.reader_document (regular _ member).valid
    (counterpart.named regular member) id
  rw [reader_of_readsNode isRead] at reread
  cases other
  cases Except.ok.inj reread
  exact ⟨_, ⟨id, otherMember⟩, rfl, rfl, same⟩

theorem counterpart_self
    (recompiled : (Compiler.plain.compile graph.toDocument).1 = .ok again)
    (same : SameCalls again graph) : Counterpart graph again :=
  ⟨same, _, rfl, (exists_closed (.any _) trivial recompiled).1⟩

/-- Graphs of calls that are the same have counterparts. -/
theorem counterpart_of_within
    (compiled : ((builtIn aliases resolver).compile document).1 = .ok graph)
    (recompiled : (Compiler.plain.compile graph.toDocument).1 = .ok again)
    (within : graph.Within inner) {other : SubflowCall Graph}
    (otherWithin : CallsWithin again.nodes other) (same : SameCalls other.target inner) :
    Counterpart inner other.target := by
  obtain ⟨_, ⟨source, sourceWithin, rfl⟩, made⟩ :=
    exists_compiledFrom_of_within (ownSupply compiled) rfl recompiled otherWithin
  have sameKey : source.key = inner.key := made.key_eq.symm.trans same.key_eq
  obtain rfl := (coherent_within compiled).unique source inner sourceWithin within sameKey
  exact ⟨same, _, rfl, made⟩

/-- Every call has a counterpart that asks for the same. -/
theorem exists_counterpart
    (compiled : ((builtIn aliases resolver).compile document).1 = .ok graph)
    (recompiled : (Compiler.plain.compile graph.toDocument).1 = .ok again)
    (same : SameCalls again graph) {call : SubflowCall Graph}
    (within : CallsWithin graph.nodes call) :
    ∃ other, CallsWithin again.nodes other ∧ other.flow = call.flow ∧
      other.version = call.version ∧ Counterpart call.target other.target := by
  have below : ∀ {inner again' : Graph}, graph.Within inner → Counterpart inner again' →
      ∀ {call : SubflowCall Graph}, Calls inner.nodes call →
        ∃ other, Calls again'.nodes other ∧ other.flow = call.flow ∧
          other.version = call.version ∧ SameCalls other.target call.target := by
    intro inner again' isWithin counterpart call calls
    obtain ⟨source, made⟩ := exists_compiledFrom compiled isWithin
    exact counterpart.exists_call (fun node => regular_of_within compiled isWithin)
      (Graph.WellFormed.of_assemble made.assembled).distinct calls
  induction within with
  | own calls =>
      obtain ⟨other, otherCalls, sameFlow, sameVersion, sameTarget⟩ :=
        below (.self graph) (counterpart_self recompiled same) calls
      exact ⟨other, .own otherCalls, sameFlow, sameVersion,
        counterpart_of_within compiled recompiled (.target (.own calls)) (.own otherCalls) sameTarget⟩
  | nested within calls ih =>
      obtain ⟨outer, outerWithin, -, -, counterpart⟩ := ih
      obtain ⟨other, otherCalls, sameFlow, sameVersion, sameTarget⟩ :=
        below (.target within) counterpart calls
      exact ⟨other, .nested outerWithin otherCalls, sameFlow, sameVersion,
        counterpart_of_within compiled recompiled (.target (.nested within calls))
          (.nested outerWithin otherCalls) sameTarget⟩

theorem selfContained_of_again
    (compiled : ((builtIn aliases resolver).compile document).1 = .ok graph)
    (recompiled : (Compiler.plain.compile graph.toDocument).1 = .ok again)
    (same : SameCalls again graph) : graph.SelfContained := by
  constructor
  · intro call within
    obtain ⟨other, otherWithin, sameFlow, sameVersion, counterpart⟩ :=
      exists_counterpart compiled recompiled same within
    obtain ⟨-, progress, -, -, settled⟩ := exists_closed (ownSupply compiled) rfl recompiled
    obtain ⟨_, answer, rfl, found, isTarget⟩ := (settled other otherWithin).answered
    obtain ⟨inner, innerWithin, rfl⟩ := (ownSupply compiled).found rfl found
    have sameKey : inner.key = call.target.key := isTarget.trans counterpart.same.key_eq
    obtain rfl := (coherent_within compiled).unique inner call.target innerWithin (.target within)
      sameKey
    rw [sameFlow, sameVersion] at found
    obtain ⟨found | ⟨-, outside⟩, -⟩ := findDocument_eq_ok_iff.1 found
    · exact found
    · cases outside
  · intro inner within node member
    have regular : ∀ node ∈ inner.nodes, NodeReader.Regular node.kind.unresolved :=
      fun node => regular_of_within compiled within
    rcases within with rfl | ⟨call, isCall, rfl⟩
    · exact NodeKind.named_unresolved_iff.1 ((counterpart_self recompiled same).named regular member)
    · obtain ⟨other, -, -, -, counterpart⟩ := exists_counterpart compiled recompiled same isCall
      exact NodeKind.named_unresolved_iff.1 (counterpart.named regular member)

end

/-- A call of one version is answered by the flow that it holds if it asked for that flow: only calls
of any version can be answered differently. -/
theorem find?_library_eq_iff_of_exact
    (compiled : ((builtIn aliases resolver).compile document).1 = .ok graph)
    {call : SubflowCall Graph} (within : CallsWithin graph.nodes call) {version : String}
    (exact : call.version = .exact version) :
    graph.toDocument.library.find? call.flow call.version = some call.target.document ↔
      call.Matches := by
  obtain ⟨graphs, -, isDocuments, gathered⟩ := exists_documents compiled
  constructor
  · intro found
    exact (Library.mem_candidates_of_find? found).2
  · rintro ⟨isId, accepted⟩
    apply Library.find?_eq_some_of_unique _ isId accepted
    · intro other member otherId otherAccepted
      obtain ⟨inner, isGathered, rfl⟩ := List.mem_map.1 (isDocuments.mem_iff.1 member)
      rw [exact, VersionRequest.accepts, beq_iff_eq] at accepted otherAccepted
      have sameKey : inner.key = call.target.key :=
        congrArg₂ flowKey (otherId.trans isId.symm) (otherAccepted.symm.trans accepted)
      rw [(coherent_within compiled).unique inner call.target ((gathered inner).1 isGathered)
        (.target within) sameKey]
    · apply isDocuments.mem_iff.2
      exact List.mem_map_of_mem ((gathered call.target).2 (.target within))

/-- **The document of a graph compiles into a graph that makes the same calls** exactly if the graph
is self-contained. -/
theorem makes_same_calls_iff
    (compiled : ((builtIn aliases resolver).compile document).1 = .ok graph) :
    (∃ again, (Compiler.plain.compile graph.toDocument).1 = .ok again ∧ SameCalls again graph) ↔
      graph.SelfContained := by
  constructor
  · rintro ⟨again, recompiled, same⟩
    exact selfContained_of_again compiled recompiled same
  · exact exists_again_of_selfContained compiled

end

/-- Flows that are embedded and called in exact versions are found again. -/
theorem makes_same_calls_iff_of_two_calls : ∃ graph,
    ((builtIn [] Resolver.none).compile (twoCalls ("a", "1") ("b", "1"))).1 = .ok graph ∧
      ((∃ again, (Compiler.plain.compile graph.toDocument).1 = .ok again ∧ SameCalls again graph) ↔
        graph.SelfContained) := by
  have succeeds : ((builtIn [] Resolver.none).compile (twoCalls ("a", "1") ("b", "1"))).1.isOk =
      true := by
    decide +kernel
  obtain ⟨graph, compiled⟩ := isOk_iff.1 succeeds
  exact ⟨graph, compiled, makes_same_calls_iff compiled⟩

/-! ## A call that is bound anew -/

/-- A flow that calls `x` first in any version and then in version `2`, and embeds version `1`. -/
def anyThenSecond : FlowDocument :=
  { twoCalls ("x", "*") ("x", "2") with subflows := [namedFlow "x" "1"] }

/-- A resolver that knows `x` in version `2`. -/
def secondVersion : Resolver :=
  Resolver.ofLibrary (Library.empty.register (namedFlow "x" "2"))

/-- The version of the flow that the first call holds. -/
def firstVersion? (graph : Graph) : Option String :=
  (graph.at? ["first"]).map (·.version)

/-- The first call is answered by the embedded flow when the document is compiled, since embedded
flows come first, and by the later version when that is embedded as well. -/
theorem exists_rebound_call : ∃ graph,
    ((builtIn [] secondVersion).compile anyThenSecond).1 = .ok graph ∧
      ¬ ∃ again, (Compiler.plain.compile graph.toDocument).1 = .ok again ∧
        SameCalls again graph := by
  have versions : (((builtIn [] secondVersion).compile anyThenSecond).1.map fun graph =>
      (firstVersion? graph,
        ((Compiler.plain.compile graph.toDocument).1.map firstVersion?).toOption)).toOption =
          some (some "1", some (some "2")) := by decide +kernel
  cases compiled : ((builtIn [] secondVersion).compile anyThenSecond).1 with
  | error problem => simp [compiled, Except.map, Except.toOption] at versions
  | ok graph =>
      refine ⟨graph, rfl, ?_⟩
      rintro ⟨again, recompiled, same⟩
      simp only [compiled, recompiled, Except.map, Except.toOption, Option.some.injEq,
        Prod.mk.injEq] at versions
      have sameVersion : firstVersion? again = firstVersion? graph := by
        simpa [firstVersion?, Option.map_map, Function.comp_def] using
          congrArg (Option.map Prod.snd) (same ["first"])
      rw [versions.1, versions.2] at sameVersion
      exact absurd sameVersion (by decide)

end Compiler

end DecisionFlow
