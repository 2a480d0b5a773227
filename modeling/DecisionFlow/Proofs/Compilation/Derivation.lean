import DecisionFlow.Compilation.Basic
import DecisionFlow.Proofs.Graph.Calls
import DecisionFlow.Proofs.Outcome
import Mathlib.Data.List.Basic

/-!
# Compilations that succeed

How a document becomes a graph, without regard to how deeply calls may nest: a derivation tells for
each compiled document which flows its nodes call, whether a called flow came from the cache, and
what compilation has gathered before and after. A successful run is a derivation
(`compiles_of_run`).
-/

set_option autoImplicit false

namespace DecisionFlow

/-! ## What a step gathers -/

namespace Progress

/-- The flows embedded in a document can be called from now on. -/
def embed (progress : Progress) (document : FlowDocument) : Progress :=
  { progress with
    embedded := document.subflows.foldl Library.registerWithEmbedded progress.embedded }

/-- A compiled flow can be taken from the cache from now on. -/
def store (progress : Progress) (key : String) (graph : Graph) : Progress :=
  { progress with cache := (key, graph) :: progress.cache }

/-- A graph with nodes that no run can reach is remarked on. -/
def remark (progress : Progress) (graph : Graph) : Progress :=
  if graph.unreachableNodes.isEmpty then progress
  else { progress with
    warnings := progress.warnings ++ [.unreachableNodes graph.id graph.unreachableNodes] }

@[simp]
theorem embed_cache (progress : Progress) (document : FlowDocument) :
    (progress.embed document).cache = progress.cache := rfl

@[simp]
theorem remark_cache (progress : Progress) (graph : Graph) :
    (progress.remark graph).cache = progress.cache := by
  unfold remark
  split <;> rfl

@[simp]
theorem remark_embedded (progress : Progress) (graph : Graph) :
    (progress.remark graph).embedded = progress.embedded := by
  unfold remark
  split <;> rfl

@[simp]
theorem lookup_store_self (progress : Progress) (key : String) (graph : Graph) :
    (progress.store key graph).cache.lookup key = some graph := by
  simp [store]

theorem lookup_store_of_ne {key other : String} (different : other ≠ key) (progress : Progress)
    (graph : Graph) : (progress.store key graph).cache.lookup other = progress.cache.lookup other := by
  simp [store, List.lookup_cons, beq_false_of_ne different]

end Progress

/-! ## Derivations -/

namespace Compiler

mutual

/-- Compiling a document below a stack of flows yields a graph. -/
inductive Compiles (compiler : Compiler) :
    List String → FlowDocument → Progress → Graph → Progress → Prop where
  | intro {stack : List String} {document : FlowDocument} {before between : Progress}
      {nodes : List (Node Graph)} {graph : Graph}
      (named : Text.isBlankText document.id = false)
      (compiled : CompilesNodes compiler (stack ++ [document.key]) document.nodes
        (before.embed document) nodes between)
      (assembled : Graph.assemble document.id document.version nodes document.edges = .ok graph) :
      Compiles compiler stack document before graph (between.remark graph)

/-- Compiling nodes one after the other. -/
inductive CompilesNodes (compiler : Compiler) :
    List String → List NodeDocument → Progress → List (Node Graph) → Progress → Prop where
  | nil {stack : List String} {progress : Progress} :
      CompilesNodes compiler stack [] progress [] progress
  | alone {stack : List String} {node : NodeDocument} {rest : List NodeDocument}
      {before after : Progress} {kind : NodeKind Graph} {nodes : List (Node Graph)}
      {reader : NodeReader} (known : compiler.kinds.find? node.kind = some reader)
      (alone : kind.callee? = none) (read : reader node = .ok kind.unresolved)
      (others : CompilesNodes compiler stack rest before nodes after) :
      CompilesNodes compiler stack (node :: rest) before (⟨node.id, kind⟩ :: nodes) after
  | call {stack : List String} {node : NodeDocument} {rest : List NodeDocument}
      {before between after : Progress} {call : SubflowCall Graph} {nodes : List (Node Graph)}
      {reader : NodeReader} (known : compiler.kinds.find? node.kind = some reader)
      (read : reader node = .ok (NodeKind.subflowCall call).unresolved)
      (found : Finds compiler stack call.flow call.version before call.target between)
      (others : CompilesNodes compiler stack rest between nodes after) :
      CompilesNodes compiler stack (node :: rest) before
        (⟨node.id, .subflowCall call⟩ :: nodes) after

/-- Finding the graph of a called flow. -/
inductive Finds (compiler : Compiler) :
    List String → String → VersionRequest → Progress → Graph → Progress → Prop where
  | cached {stack : List String} {flow : String} {request : VersionRequest} {progress : Progress}
      {document : FlowDocument} {graph : Graph}
      (answer : compiler.findDocument progress.embedded flow request = .ok document)
      (inactive : document.key ∉ stack) (stored : progress.cache.lookup document.key = some graph) :
      Finds compiler stack flow request progress graph progress
  | compiled {stack : List String} {flow : String} {request : VersionRequest}
      {before after : Progress} {document : FlowDocument} {graph : Graph}
      (answer : compiler.findDocument before.embedded flow request = .ok document)
      (inactive : document.key ∉ stack) (missing : before.cache.lookup document.key = none)
      (compiles : Compiles compiler stack document before graph after) :
      Finds compiler stack flow request before graph (after.store document.key graph)

end

/-! ## Answers to calls -/

/-- A call is answered by an embedded flow or else by the resolver, and the answer is what was asked
for. -/
theorem findDocument_eq_ok_iff {compiler : Compiler} {embedded : Library} {flow : String}
    {request : VersionRequest} {document : FlowDocument} :
    compiler.findDocument embedded flow request = .ok document ↔
      (embedded.find? flow request = some document ∨
        embedded.find? flow request = none ∧
          compiler.resolver.answer flow request = .ok (some document)) ∧
      document.id = flow ∧ request.accepts document.version = true := by
  have checked (found : FlowDocument) :
      (if found.id = flow ∧ request.accepts found.version = true then .ok found
        else .error (.wrongAnswer flow request found.key) : Except ReferenceError FlowDocument) =
          .ok document ↔
        found = document ∧ document.id = flow ∧ request.accepts document.version = true := by
    split
    next fits =>
      constructor
      · rintro ⟨⟩
        exact ⟨rfl, fits⟩
      · rintro ⟨rfl, -⟩
        rfl
    next unfit =>
      constructor
      · rintro ⟨⟩
      · rintro ⟨rfl, fits⟩
        exact absurd fits unfit
  cases inside : embedded.find? flow request with
  | some found =>
      refine Iff.trans ?_ ((checked found).trans (by simp))
      simp only [findDocument, inside]
      rfl
  | none =>
      cases outside : compiler.resolver.answer flow request with
      | error problem => simp [findDocument, inside, outside, bind, Except.bind]
      | ok answer =>
          cases answer with
          | none => simp [findDocument, inside, outside, bind, Except.bind]
          | some found =>
              refine Iff.trans ?_ ((checked found).trans (by simp))
              simp only [findDocument, inside, outside]
              rfl

/-! ## Runs are derivations -/

section

variable {compiler : Compiler} {compile : List String → FlowDocument → Compilation Graph}
  {find : String → VersionRequest → Compilation Graph} {before after : Progress}

/-- A called flow is found in the cache, or it is compiled and stored there. -/
theorem callee_run_eq_ok_iff {stack : List String} {flow : String} {request : VersionRequest}
    {graph : Graph} :
    (compiler.callee compile stack flow request).run before = .ok graph after ↔
      ∃ document, compiler.findDocument before.embedded flow request = .ok document ∧
        document.key ∉ stack ∧
          ((before.cache.lookup document.key = some graph ∧ before = after) ∨
            before.cache.lookup document.key = none ∧
              ∃ between, (compile stack document).run before = .ok graph between ∧
                between.store document.key graph = after) := by
  cases answer : compiler.findDocument before.embedded flow request with
  | error problem => simp [callee, answer]
  | ok document =>
      by_cases active : document.key ∈ stack
      · simp [callee, answer, active]
      · cases stored : before.cache.lookup document.key with
        | some found => simp [callee, answer, active, stored, -List.lookup_eq_none_iff]
        | none =>
            cases run : (compile stack document).run before with
            | error problem between => simp [callee, answer, active, stored, run]
            | ok compiled between =>
                simp +contextual [callee, answer, active, stored, run, Progress.store, and_assoc,
                  -bind_pure_comp, -List.lookup_eq_none_iff]

theorem resolveCall_run_eq_ok_iff {find : SubflowCall Unit → Compilation Graph}
    {kind : NodeKind Unit} {resolved : NodeKind Graph} :
    (kind.resolveCall find).run before = .ok resolved after ↔
      kind = resolved.unresolved ∧
        ((resolved.callee? = none ∧ before = after) ∨
          ∃ call, resolved = .subflowCall call ∧
            (find { call with target := () }).run before = .ok call.target after) := by
  cases kind with
  | subflowCall call =>
      constructor
      · intro run
        obtain ⟨target, between, found, rest⟩ := run_bind_eq_ok_iff.1 run
        cases rest
        exact ⟨rfl, .inr ⟨_, rfl, found⟩⟩
      · rintro ⟨same, ⟨alone, -⟩ | ⟨call, rfl, found⟩⟩
        · cases resolved with
          | subflowCall => cases alone
          | _ => cases same
        · cases same
          exact run_bind_eq_ok_iff.2 ⟨_, _, found, rfl⟩
  | _ =>
      cases resolved <;>
        simp [NodeKind.resolveCall, NodeKind.unresolved, NodeKind.map, NodeKind.callee?, and_assoc]

/-- A node is read and, if it calls a flow, the graph of that flow is found. -/
theorem compileNode_run_eq_ok_iff {node : NodeDocument} {compiled : Node Graph} :
    (compiler.compileNode find node).run before = .ok compiled after ↔
      ∃ reader, compiler.kinds.find? node.kind = some reader ∧ compiled.id = node.id ∧
        reader node = .ok compiled.kind.unresolved ∧
          ((compiled.kind.callee? = none ∧ before = after) ∨
            ∃ call, compiled.kind = .subflowCall call ∧
              (find call.flow call.version).run before = .ok call.target after) := by
  obtain ⟨id, resolved⟩ := compiled
  cases known : compiler.kinds.find? node.kind with
  | none => simp [compileNode, known]
  | some reader =>
      cases read : reader node with
      | error problem => simp [compileNode, known, read]
      | ok kind =>
          simp only [compileNode, known, read, bind_pure_comp, run_map_eq_ok_iff,
            resolveCall_run_eq_ok_iff, Option.some.injEq, exists_eq_left', Except.ok.injEq]
          constructor
          · rintro ⟨kind, ⟨same, found⟩, equal⟩
            cases equal
            exact ⟨rfl, same, found⟩
          · rintro ⟨rfl, same, found⟩
            exact ⟨resolved, ⟨same, found⟩, rfl⟩

theorem compilesNodes_of_run {stack : List String}
    (sound : ∀ {flow request before graph after},
      (find flow request).run before = .ok graph after →
        Finds compiler stack flow request before graph after)
    {documents : List NodeDocument} {nodes : List (Node Graph)}
    (run : (compiler.compileNodes find documents).run before = .ok nodes after) :
    CompilesNodes compiler stack documents before nodes after := by
  induction documents generalizing before nodes with
  | nil =>
      cases run
      exact .nil
  | cons document rest ih =>
      obtain ⟨⟨id, kind⟩, between, compiled, run⟩ := run_bind_eq_ok_iff.1 run
      obtain ⟨others, later, restRun, run⟩ := run_bind_eq_ok_iff.1 run
      cases run
      obtain ⟨reader, known, rfl, read, ⟨alone, rfl⟩ | ⟨call, rfl, found⟩⟩ :=
        compileNode_run_eq_ok_iff.1 compiled
      · exact .alone known alone read (ih restRun)
      · exact .call known read (sound found) (ih restRun)

theorem finds_of_run {stack : List String}
    (sound : ∀ {stack document before graph after},
      (compile stack document).run before = .ok graph after →
        Compiles compiler stack document before graph after)
    {flow : String} {request : VersionRequest} {graph : Graph}
    (run : (compiler.callee compile stack flow request).run before = .ok graph after) :
    Finds compiler stack flow request before graph after := by
  obtain ⟨document, answer, inactive, ⟨stored, rfl⟩ | ⟨missing, between, compiled, rfl⟩⟩ :=
    callee_run_eq_ok_iff.1 run
  · exact .cached answer inactive stored
  · exact .compiled answer inactive missing (sound compiled)

theorem assemble_run_eq_ok_iff {document : FlowDocument} {nodes : List (Node Graph)}
    {graph : Graph} :
    (assemble document nodes).run before = .ok graph after ↔
      Graph.assemble document.id document.version nodes document.edges = .ok graph ∧
        before.remark graph = after := by
  cases assembled : Graph.assemble document.id document.version nodes document.edges with
  | error problem => simp [assemble, assembled]
  | ok built =>
      have run : (assemble document nodes).run before = .ok built (before.remark built) := by
        by_cases reached : built.unreachableNodes.isEmpty
        · simp only [assemble, assembled, reached, Progress.remark]
          rfl
        · simp only [assemble, assembled, reached, Progress.remark]
          rfl
      rw [run]
      constructor
      · rintro ⟨⟩
        exact ⟨rfl, rfl⟩
      · rintro ⟨⟨⟩, rfl⟩
        rfl

/-- A document compiles if it has an id, its nodes compile, and they form a graph. -/
theorem compileWithin_succ_run_eq_ok_iff {allowance : Nat} {stack : List String}
    {document : FlowDocument} {graph : Graph} :
    (compiler.compileWithin (allowance + 1) stack document).run before = .ok graph after ↔
      Text.isBlankText document.id = false ∧ ∃ nodes between,
        (compiler.compileNodes
          (compiler.callee (compiler.compileWithin allowance) (stack ++ [document.key]))
          document.nodes).run (before.embed document) = .ok nodes between ∧
        Graph.assemble document.id document.version nodes document.edges = .ok graph ∧
          between.remark graph = after := by
  by_cases blank : Text.isBlankText document.id
  · simp [compileWithin, blank]
  · simp only [compileWithin, blank, Bool.false_eq_true, ↓reduceIte, run_bind_eq_ok_iff,
      assemble_run_eq_ok_iff, true_and]
    constructor
    · rintro ⟨_, _, ⟨⟩, nodes, between, compiled, assembled⟩
      exact ⟨nodes, between, compiled, assembled⟩
    · rintro ⟨nodes, between, compiled, assembled⟩
      exact ⟨_, _, rfl, nodes, between, compiled, assembled⟩

/-- A successful run is a derivation. -/
theorem compiles_of_run {allowance : Nat} {stack : List String} {document : FlowDocument}
    {graph : Graph}
    (run : (compiler.compileWithin allowance stack document).run before = .ok graph after) :
    Compiles compiler stack document before graph after := by
  induction allowance generalizing stack document before graph after with
  | zero => cases run
  | succ allowance ih =>
      obtain ⟨named, nodes, between, compiled, assembled, rfl⟩ :=
        compileWithin_succ_run_eq_ok_iff.1 run
      exact .intro named (compilesNodes_of_run (finds_of_run ih) compiled) assembled

/-- A document that compiles has a derivation that begins with the main flow only. -/
theorem exists_compiles {document : FlowDocument} {graph : Graph}
    (compiled : (compiler.compile document).1 = .ok graph) :
    ∃ after, Compiles compiler [] document (initialProgress document) graph after := by
  unfold compile at compiled
  split at compiled
  next run =>
    cases compiled
    exact ⟨_, compiles_of_run run⟩
  next => cases compiled

end

end Compiler

end DecisionFlow
