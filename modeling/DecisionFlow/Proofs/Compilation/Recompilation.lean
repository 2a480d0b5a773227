import DecisionFlow.Proofs.Compilation.Derivation
import DecisionFlow.Proofs.Graph.Gathering
import DecisionFlow.Proofs.Graph.Path
import DecisionFlow.Proofs.Graph.Reread
import DecisionFlow.Proofs.Library

/-!
# Compiling what was written

Graphs that call each other are written as documents, and the documents are compiled again with the
built-in kinds and without a resolver. This succeeds, and yields graphs that make the same calls, if
the nodes can be read again and each call is answered by the document of the graph that it holds.

The flows on the stack are those of different graphs, each larger than those that it calls, so no
flow is met while it is being compiled, and the stack is never longer than there are graphs. What is
in the cache makes the same calls as the graph with its key.
-/

set_option autoImplicit false

namespace DecisionFlow

open DecisionFlow.Graph (Calls SameCall SameCalls nodeDocument edgeDocument)

/-! ## Nodes -/

/-- The node can be written and read again. -/
structure Node.Portable (node : Node Graph) : Prop where
  valid : node.kind.unresolved.Valid
  named : node.kind.unresolved.Named

namespace NodeKind

theorem unresolved_reread {callee : Type} (kind : NodeKind callee) :
    kind.reread.unresolved = kind.unresolved.reread := by
  cases kind <;> rfl

theorem callee?_reread {callee : Type} (kind : NodeKind callee) :
    kind.reread.callee? = kind.callee? := by
  cases kind <;> rfl

theorem name_unresolved {callee : Type} (kind : NodeKind callee) :
    kind.unresolved.name = kind.name := by
  cases kind with
  | arithmetic _ rounding => cases rounding <;> rfl
  | _ => rfl

end NodeKind

/-- A node is written like the node without its callee. -/
theorem Graph.nodeDocument_eq (node : Node Graph) :
    nodeDocument node = node.kind.unresolved.document node.id := by
  rw [nodeDocument, NodeKind.document, NodeKind.name_unresolved, NodeKind.parameters_unresolved]

theorem Node.Portable.reads {node : Node Graph} (portable : node.Portable) :
    node.kind.unresolved.reader (nodeDocument node) = .ok node.kind.unresolved.reread := by
  rw [Graph.nodeDocument_eq]
  exact NodeKind.reader_document portable.valid portable.named node.id

/-! ## What was compiled again -/

/-- Graphs that can be written, with a library that answers their calls. -/
structure Library.Serves (library : Library) (known : Graph → Prop) : Prop
    extends Graph.Coherent known where
  named : ∀ graph, known graph → Text.isBlankText graph.id = false
  wellFormed : ∀ graph, known graph → Graph.WellFormed graph.nodes (graph.edges.map edgeDocument)
  portable : ∀ graph, known graph → ∀ node ∈ graph.nodes, node.Portable
  answered : ∀ graph, known graph → ∀ call, Calls graph.nodes call →
    library.find? call.flow call.version = some call.target.document

/-- The library can be asked, and stored graphs make the same calls as those with their keys. -/
structure Progress.Mirrors (known : Graph → Prop) (library : Library) (progress : Progress) :
    Prop where
  embedded : progress.embedded = library
  stored : ∀ {key again}, progress.cache.lookup key = some again →
    ∃ graph, known graph ∧ graph.key = key ∧ SameCalls again graph

variable {known : Graph → Prop} {library : Library} {before : Progress}

theorem Progress.Mirrors.store {graph again : Graph} (mirrors : before.Mirrors known library)
    (isKnown : known graph) (same : SameCalls again graph) :
    (before.store graph.key again).Mirrors known library := by
  constructor
  · exact mirrors.embedded
  · intro key found isStored
    by_cases sameKey : key = graph.key
    · subst sameKey
      simp only [lookup_store_self, Option.some.injEq] at isStored
      exact ⟨graph, isKnown, rfl, isStored ▸ same⟩
    · rw [lookup_store_of_ne sameKey] at isStored
      exact mirrors.stored isStored

theorem Progress.Mirrors.remark (mirrors : before.Mirrors known library) (graph : Graph) :
    (before.remark graph).Mirrors known library := by
  constructor
  · rw [remark_embedded, mirrors.embedded]
  · intro key found isStored
    rw [remark_cache] at isStored
    exact mirrors.stored isStored

/-- A step yields a graph that makes the same calls as another one. -/
def Mirrored (known : Graph → Prop) (library : Library) (step : Compilation Graph)
    (graph : Graph) (before : Progress) : Prop :=
  ∃ again after, step.run before = .ok again after ∧ SameCalls again graph ∧
    after.Mirrors known library

namespace Compiler

/-! ## Nodes that are compiled again -/

section

variable {find : String → VersionRequest → Compilation Graph}

/-- A node is compiled again, given how its callee is. -/
theorem exists_compileNode {node : Node Graph} (portable : node.Portable)
    (below : ∀ call, node.kind = .subflowCall call → ∀ before : Progress,
      before.Mirrors known library →
        Mirrored known library (find call.flow call.version) call.target before)
    (mirrors : before.Mirrors known library) :
    ∃ again after, (Compiler.plain.compileNode find (nodeDocument node)).run before =
        .ok again after ∧ node.Rereads again ∧ SameCall node again ∧
          after.Mirrors known library := by
  have known' : Compiler.plain.kinds.find? (nodeDocument node).kind =
      some node.kind.unresolved.reader := by
    rw [Graph.nodeDocument_eq]
    exact KindTable.find?_name _
  obtain ⟨id, kind⟩ := node
  cases calls : kind.callee? with
  | none =>
      have alone : kind.reread.callee? = none := (NodeKind.callee?_reread kind).trans calls
      refine ⟨⟨id, kind.reread⟩, before, compileNode_run_eq_ok_iff.2 ⟨_, known', rfl, ?_,
        .inl ⟨alone, rfl⟩⟩, ⟨rfl, NodeKind.unresolved_reread kind⟩, ⟨rfl, ?_⟩, mirrors⟩
      · rw [portable.reads, NodeKind.unresolved_reread]
      · simp only [alone, calls]
        exact .none
  | some target =>
      obtain ⟨call, rfl, rfl⟩ := NodeKind.callee?_eq_some_iff.1 calls
      obtain ⟨again, after, run, same, mirrorsAfter⟩ := below call rfl before mirrors
      refine ⟨⟨id, .subflowCall ⟨call.flow, call.version, Expression.rereadAll call.inputs, again⟩⟩,
        after, compileNode_run_eq_ok_iff.2 ⟨_, known', rfl, portable.reads, .inr ⟨_, rfl, run⟩⟩,
        ⟨rfl, rfl⟩, ⟨rfl, .some same⟩, mirrorsAfter⟩

/-- Nodes are compiled again, given how their callees are. -/
theorem exists_compileNodes {nodes : List (Node Graph)} (portable : ∀ node ∈ nodes, node.Portable)
    (below : ∀ call, Calls nodes call → ∀ before : Progress, before.Mirrors known library →
      Mirrored known library (find call.flow call.version) call.target before)
    (mirrors : before.Mirrors known library) :
    ∃ again after, (Compiler.plain.compileNodes find (nodes.map nodeDocument)).run before =
        .ok again after ∧ List.Forall₂ Node.Rereads nodes again ∧
          List.Forall₂ SameCall nodes again ∧ after.Mirrors known library := by
  induction nodes generalizing before with
  | nil => exact ⟨[], before, rfl, .nil, .nil, mirrors⟩
  | cons node rest ih =>
      obtain ⟨first, others⟩ := List.forall_mem_cons.1 portable
      obtain ⟨again, between, run, rereads, same, mirrorsBetween⟩ := exists_compileNode first
        (fun call isCall => below call (Graph.calls_cons_iff.2 (.inl isCall))) mirrors
      obtain ⟨rest', after, restRun, restRereads, restSame, mirrorsAfter⟩ := ih others
        (fun call calls => below call (Graph.calls_cons_iff.2 (.inr calls))) mirrorsBetween
      refine ⟨again :: rest', after, ?_, .cons rereads restRereads, .cons same restSame,
        mirrorsAfter⟩
      exact run_bind_eq_ok_iff.2 ⟨again, between, run, run_bind_eq_ok_iff.2 ⟨rest', after, restRun,
        rfl⟩⟩

end

/-! ## Graphs that are compiled again -/

/-- A called flow is in the cache or can be compiled. -/
theorem mirrored_callee (serves : library.Serves known) {graph : Graph} (isKnown : known graph)
    {call : SubflowCall Graph} (calls : Calls graph.nodes call)
    {compile : List String → FlowDocument → Compilation Graph} {stack : List String}
    (inactive : call.target.key ∉ stack)
    (compiles : ∀ before : Progress, before.Mirrors known library →
      Mirrored known library (compile stack call.target.document) call.target before)
    (mirrors : before.Mirrors known library) :
    Mirrored known library (Compiler.plain.callee compile stack call.flow call.version) call.target
      before := by
  have targetKnown := serves.called graph isKnown call calls
  have found := serves.answered graph isKnown call calls
  obtain ⟨-, isFlow, accepted⟩ := Library.mem_candidates_of_find? found
  have answer : Compiler.plain.findDocument before.embedded call.flow call.version =
      .ok call.target.document :=
    findDocument_eq_ok_iff.2 ⟨.inl (mirrors.embedded ▸ found), isFlow, accepted⟩
  cases stored : before.cache.lookup call.target.key with
  | some again =>
      obtain ⟨other, otherKnown, sameKey, same⟩ := mirrors.stored stored
      obtain rfl := serves.unique other call.target otherKnown targetKnown sameKey
      exact ⟨again, before, callee_run_eq_ok_iff.2 ⟨_, answer, inactive, .inl ⟨stored, rfl⟩⟩, same,
        mirrors⟩
  | none =>
      obtain ⟨again, between, run, same, mirrorsBetween⟩ := compiles before mirrors
      exact ⟨again, _, callee_run_eq_ok_iff.2 ⟨_, answer, inactive, .inr ⟨stored, between, run, rfl⟩⟩,
        same, mirrorsBetween.store targetKnown same⟩

/-- The flows on the stack are those of different graphs that are larger than the next one, and as
many as there are graphs may still follow. -/
structure HasRoom (known : Graph → Prop) (bound allowance : Nat) (stack : List String)
    (graph : Graph) : Prop where
  distinct : stack.Nodup
  callers : ∀ key ∈ stack, ∃ caller, known caller ∧ caller.key = key ∧ sizeOf graph < sizeOf caller
  enough : bound ≤ allowance + stack.length

section

variable {bound allowance : Nat} {stack : List String} {graph : Graph}

theorem HasRoom.inactive (serves : library.Serves known) (isKnown : known graph)
    (room : HasRoom known bound allowance stack graph) : graph.key ∉ stack := by
  intro active
  obtain ⟨caller, callerKnown, sameKey, larger⟩ := room.callers _ active
  obtain rfl := serves.unique caller graph callerKnown isKnown sameKey
  exact absurd larger (lt_irrefl _)

/-- There is room for what the graph calls. -/
theorem HasRoom.call (serves : library.Serves known) (isKnown : known graph)
    (room : HasRoom known bound (allowance + 1) stack graph) {call : SubflowCall Graph}
    (calls : Calls graph.nodes call) :
    HasRoom known bound allowance (stack ++ [graph.key]) call.target := by
  have smaller : sizeOf call.target < sizeOf graph :=
    calls.sizeOf_target_lt.trans (Graph.sizeOf_nodes_lt graph)
  constructor
  · exact List.nodup_append.2 ⟨room.distinct, List.nodup_singleton _, fun key active other last => by
      rw [List.mem_singleton.1 last]
      rintro rfl
      exact room.inactive serves isKnown active⟩
  · intro key member
    rcases List.mem_append.1 member with active | last
    · obtain ⟨caller, callerKnown, sameKey, larger⟩ := room.callers key active
      exact ⟨caller, callerKnown, sameKey, smaller.trans larger⟩
    · exact ⟨graph, isKnown, (List.mem_singleton.1 last).symm, smaller⟩
  · have enough := room.enough
    rw [List.length_append, List.length_singleton]
    omega

/-- The allowance is not used up while a graph is left. -/
theorem HasRoom.allowance_ne_zero (serves : library.Serves known) (isKnown : known graph)
    (bounded : ∀ keys : List String, keys.Nodup →
      (∀ key ∈ keys, ∃ caller, known caller ∧ caller.key = key) → keys.length ≤ bound)
    (room : HasRoom known bound allowance stack graph) : allowance ≠ 0 := by
  have fits : (graph.key :: stack).length ≤ bound := by
    refine bounded _ (List.nodup_cons.2 ⟨room.inactive serves isKnown, room.distinct⟩) ?_
    refine List.forall_mem_cons.2 ⟨⟨graph, isKnown, rfl⟩, ?_⟩
    intro key active
    obtain ⟨caller, callerKnown, sameKey, -⟩ := room.callers key active
    exact ⟨caller, callerKnown, sameKey⟩
  have enough := room.enough
  rw [List.length_cons] at fits
  omega

/-- **A graph that was written is compiled again**, whatever it embeds, as long as the library
answers its calls. -/
theorem mirrored_of_hasRoom (serves : library.Serves known)
    (bounded : ∀ keys : List String, keys.Nodup →
      (∀ key ∈ keys, ∃ caller, known caller ∧ caller.key = key) → keys.length ≤ bound)
    (isKnown : known graph) (room : HasRoom known bound allowance stack graph)
    {document : FlowDocument} (same : document.bare = graph.document)
    (mirrors : (before.embed document).Mirrors known library) :
    Mirrored known library (Compiler.plain.compileWithin allowance stack document) graph before := by
  induction graph using Graph.induction_on_calls generalizing allowance stack document before with
  | step graph ih =>
      obtain ⟨allowance, rfl⟩ :=
        Nat.exists_eq_succ_of_ne_zero (room.allowance_ne_zero serves isKnown bounded)
      have sameId : document.id = graph.id := congrArg FlowDocument.id same
      have sameVersion : document.version = graph.version := congrArg FlowDocument.version same
      have sameKey : document.key = graph.key := by
        rw [FlowDocument.key, Graph.key, sameId, sameVersion]
      have sameNodes : document.nodes = graph.nodes.map nodeDocument :=
        congrArg FlowDocument.nodes same
      have sameEdges : document.edges = graph.edges.map edgeDocument :=
        congrArg FlowDocument.edges same
      obtain ⟨nodes, between, run, rereads, sameCalls, mirrorsBetween⟩ :=
        exists_compileNodes (serves.portable graph isKnown) (fun call calls other mirrorsOther =>
          mirrored_callee serves isKnown calls
            ((room.call serves isKnown calls).inactive serves (serves.called graph isKnown call calls))
            (fun progress mirrorsProgress => ih call calls (serves.called graph isKnown call calls)
              (room.call serves isKnown calls) rfl mirrorsProgress)
            mirrorsOther) mirrors
      obtain ⟨again, assembled⟩ := ((serves.wellFormed graph isKnown).rereads rereads).exists_assemble
        graph.id graph.version
      refine ⟨again, between.remark again, compileWithin_succ_run_eq_ok_iff.2 ⟨?_, nodes, between,
        ?_, ?_, rfl⟩, ?_, mirrorsBetween.remark again⟩
      · rw [sameId]
        exact serves.named graph isKnown
      · rw [sameKey, sameNodes]
        exact run
      · rw [sameId, sameVersion, sameEdges]
        exact assembled
      · refine .of_nodes (Graph.id_of_assemble assembled) (Graph.version_of_assemble assembled) ?_
        rw [Graph.nodes_of_assemble assembled]
        exact sameCalls

end

end Compiler

end DecisionFlow
