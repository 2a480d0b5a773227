import DecisionFlow.Proofs.Compilation.Derivation
import DecisionFlow.Proofs.Graph.Assembled
import DecisionFlow.Proofs.Graph.Calls

/-!
# What the cache holds

Compiled flows stay in the cache under their keys, and a flow on the stack is not stored before it
is done. When a graph is stored, the graphs that it calls have been stored before, so every call, at
any depth, holds the graph that the cache has for its key.

What the stored graphs were compiled from depends on where called flows come from. A supply tells of
which documents this is known: whatever answers a call is one of them, and compiling them does not
embed others.
-/

set_option autoImplicit false

namespace DecisionFlow

open DecisionFlow.Graph (Calls CallsWithin)

/-! ## Growth -/

/-- Stored graphs stay, and the flows on the stack are not stored. -/
structure Progress.Extends (stack : List String) (before after : Progress) : Prop where
  kept : ∀ {key graph}, before.cache.lookup key = some graph → after.cache.lookup key = some graph
  apart : ∀ {key}, key ∈ stack → before.cache.lookup key = none → after.cache.lookup key = none

namespace Progress.Extends

variable {stack : List String} {before between after : Progress}

theorem refl (stack : List String) (progress : Progress) : Extends stack progress progress :=
  ⟨fun stored => stored, fun _ missing => missing⟩

theorem trans (first : Extends stack before between) (later : Extends stack between after) :
    Extends stack before after :=
  ⟨fun stored => later.kept (first.kept stored),
    fun active missing => later.apart active (first.apart active missing)⟩

theorem of_cache_eq (stack : List String) (same : after.cache = before.cache) :
    Extends stack before after := by
  constructor <;> simp [same]

/-- Storing the graph of a flow that was on top of the stack. -/
theorem store {key : String} {graph : Graph} (inactive : key ∉ stack)
    (missing : before.cache.lookup key = none)
    (extension : Extends (stack ++ [key]) before after) :
    Extends stack before (after.store key graph) := by
  constructor
  · intro other found stored
    have different : other ≠ key := by
      rintro rfl
      simp [missing] at stored
    rw [lookup_store_of_ne different]
    exact extension.kept stored
  · intro other active absent
    have different : other ≠ key := fun same => inactive (same ▸ active)
    rw [lookup_store_of_ne different]
    exact extension.apart (List.mem_append_left _ active) absent

end Progress.Extends

open Progress (Extends)

namespace Compiler

variable {compiler : Compiler}

mutual

/-- A flow is not stored while it is compiled. -/
theorem Compiles.extends {stack : List String} {document : FlowDocument}
    {before after : Progress} {graph : Graph} :
    Compiles compiler stack document before graph after →
      Extends (stack ++ [document.key]) before after
  | .intro _ compiled _ =>
    .trans (.of_cache_eq _ (Progress.embed_cache _ _))
      (compiled.extends.trans (.of_cache_eq _ (Progress.remark_cache _ _)))

theorem CompilesNodes.extends {stack : List String} {documents : List NodeDocument}
    {before after : Progress} {nodes : List (Node Graph)} :
    CompilesNodes compiler stack documents before nodes after → Extends stack before after
  | .nil => .refl _ _
  | .alone _ _ _ others => others.extends
  | .call _ _ found others => found.extends.trans others.extends

theorem Finds.extends {stack : List String} {flow : String} {request : VersionRequest}
    {before after : Progress} {graph : Graph} :
    Finds compiler stack flow request before graph after → Extends stack before after
  | .cached _ _ _ => .refl _ _
  | .compiled _ inactive missing compiles => .store inactive missing compiles.extends

end

/-! ## Where called flows come from -/

/-- Documents that answer calls, and libraries in which only such documents are found, as long as no
others are compiled. -/
structure Supply (compiler : Compiler) where
  ready : Library → Prop
  source : FlowDocument → Prop
  found : ∀ {embedded : Library} {flow : String} {request : VersionRequest}
    {document : FlowDocument}, ready embedded →
      compiler.findDocument embedded flow request = .ok document → source document
  embedded : ∀ {embedded : Library} {document : FlowDocument}, ready embedded → source document →
    ready (document.subflows.foldl Library.registerWithEmbedded embedded)

/-- Called flows may come from anywhere. -/
def Supply.any (compiler : Compiler) : Supply compiler where
  ready _ := True
  source _ := True
  found _ _ := trivial
  embedded _ _ := trivial

/-- The node was read from the node of a document. -/
structure ReadsNode (compiler : Compiler) (document : NodeDocument) (node : Node Graph) : Prop where
  id_eq : node.id = document.id
  read : ∃ reader, compiler.kinds.find? document.kind = some reader ∧
    reader document = .ok node.kind.unresolved

/-- The graph was compiled from the document, whatever its calls hold. -/
structure CompiledFrom (compiler : Compiler) (document : FlowDocument) (graph : Graph) : Prop where
  named : Text.isBlankText document.id = false
  read : List.Forall₂ compiler.ReadsNode document.nodes graph.nodes
  assembled : Graph.assemble document.id document.version graph.nodes document.edges = .ok graph

theorem CompiledFrom.key_eq {document : FlowDocument} {graph : Graph}
    (made : CompiledFrom compiler document graph) : graph.key = document.key :=
  Graph.key_of_assemble made.assembled

end Compiler

open Compiler (Supply CompiledFrom)

/-! ## Settled calls -/

/-- The graph of the call is stored under its key, which is that of a document that answers the
call. -/
structure Progress.Settles {compiler : Compiler} (supply : Supply compiler) (progress : Progress)
    (call : SubflowCall Graph) : Prop where
  stored : progress.cache.lookup call.target.key = some call.target
  answered : ∃ embedded document, supply.ready embedded ∧
    compiler.findDocument embedded call.flow call.version = .ok document ∧
      document.key = call.target.key

/-- Graphs are stored under their keys and were compiled from known documents, and the graphs that
they call are stored as well. -/
structure Progress.Closed {compiler : Compiler} (supply : Supply compiler) (progress : Progress) :
    Prop where
  keyed : ∀ {key graph}, progress.cache.lookup key = some graph → graph.key = key
  compiled : ∀ {key graph}, progress.cache.lookup key = some graph →
    ∃ document, supply.source document ∧ CompiledFrom compiler document graph
  settled : ∀ {key graph}, progress.cache.lookup key = some graph →
    ∀ call, Calls graph.nodes call → progress.Settles supply call

namespace Progress

variable {compiler : Compiler} {supply : Supply compiler} {stack : List String}
  {before after : Progress} {call : SubflowCall Graph}

theorem Settles.extend (extension : Extends stack before after)
    (settles : before.Settles supply call) : after.Settles supply call :=
  ⟨extension.kept settles.stored, settles.answered⟩

theorem Closed.of_cache_eq (same : after.cache = before.cache) (closed : before.Closed supply) :
    after.Closed supply := by
  constructor
  · intro key graph stored
    rw [same] at stored
    exact closed.keyed stored
  · intro key graph stored
    rw [same] at stored
    exact closed.compiled stored
  · intro key graph stored call calls
    rw [same] at stored
    exact (closed.settled stored call calls).extend (.of_cache_eq [] same)

theorem Closed.of_nil (empty : before.cache = []) : before.Closed supply := by
  constructor <;> simp [empty]

/-- Every call of a stored graph, at any depth, is settled. -/
theorem Closed.settles_within (closed : before.Closed supply) {nodes : List (Node Graph)}
    (own : ∀ call, Calls nodes call → before.Settles supply call)
    (within : CallsWithin nodes call) : before.Settles supply call := by
  induction within with
  | own calls => exact own _ calls
  | nested _ calls ih => exact closed.settled ih.stored _ calls

/-- A graph whose own calls are settled can be stored. -/
theorem Closed.store {graph : Graph} (closed : before.Closed supply)
    (missing : before.cache.lookup graph.key = none)
    (compiled : ∃ document, supply.source document ∧ CompiledFrom compiler document graph)
    (own : ∀ call, Calls graph.nodes call → before.Settles supply call) :
    (before.store graph.key graph).Closed supply := by
  have extension : Extends [] before (before.store graph.key graph) :=
    .store List.not_mem_nil missing (.refl _ _)
  have cases_stored : ∀ {key found}, (before.store graph.key graph).cache.lookup key = some found →
      (key = graph.key ∧ found = graph) ∨ before.cache.lookup key = some found := by
    intro key found stored
    by_cases same : key = graph.key
    · subst same
      simp only [lookup_store_self, Option.some.injEq] at stored
      exact .inl ⟨rfl, stored.symm⟩
    · rw [lookup_store_of_ne same] at stored
      exact .inr stored
  constructor
  · intro key found stored
    rcases cases_stored stored with ⟨rfl, rfl⟩ | stored
    · rfl
    · exact closed.keyed stored
  · intro key found stored
    rcases cases_stored stored with ⟨rfl, rfl⟩ | stored
    · exact compiled
    · exact closed.compiled stored
  · intro key found stored call calls
    rcases cases_stored stored with ⟨rfl, rfl⟩ | stored
    · exact (own call calls).extend extension
    · exact (closed.settled stored call calls).extend extension

end Progress

namespace Compiler

variable {compiler : Compiler} {supply : Supply compiler}

theorem Compiles.id_eq {stack : List String} {document : FlowDocument} {before after : Progress}
    {graph : Graph} (compiles : Compiles compiler stack document before graph after) :
    graph.id = document.id := by
  cases compiles with
  | intro _ _ assembled => exact Graph.id_of_assemble assembled

theorem Compiles.version_eq {stack : List String} {document : FlowDocument}
    {before after : Progress} {graph : Graph}
    (compiles : Compiles compiler stack document before graph after) :
    graph.version = document.version := by
  cases compiles with
  | intro _ _ assembled => exact Graph.version_of_assemble assembled

mutual

theorem Compiles.settles {stack : List String} {document : FlowDocument}
    {before after : Progress} {graph : Graph} :
    Compiles compiler stack document before graph after →
      supply.ready (before.embed document).embedded → before.Closed supply →
        supply.ready after.embedded ∧ after.Closed supply ∧ CompiledFrom compiler document graph ∧
          ∀ call, Calls graph.nodes call → after.Settles supply call
  | .intro named compiled assembled, ready, closed => by
    obtain ⟨stillReady, later, read, own⟩ :=
      compiled.settles ready (closed.of_cache_eq (Progress.embed_cache _ _))
    have isNodes := Graph.nodes_of_assemble assembled
    refine ⟨by rwa [Progress.remark_embedded], later.of_cache_eq (Progress.remark_cache _ _),
      ⟨named, isNodes ▸ read, isNodes ▸ assembled⟩, ?_⟩
    rw [isNodes]
    exact fun call calls =>
      (own call calls).extend (.of_cache_eq [] (Progress.remark_cache _ _))

theorem CompilesNodes.settles {stack : List String} {documents : List NodeDocument}
    {before after : Progress} {nodes : List (Node Graph)} :
    CompilesNodes compiler stack documents before nodes after →
      supply.ready before.embedded → before.Closed supply →
        supply.ready after.embedded ∧ after.Closed supply ∧
          List.Forall₂ compiler.ReadsNode documents nodes ∧
            ∀ call, Calls nodes call → after.Settles supply call
  | .nil, ready, closed => ⟨ready, closed, .nil, fun _ calls => absurd calls Graph.not_calls_nil⟩
  | .alone known alone read others, ready, closed => by
    obtain ⟨stillReady, later, restRead, own⟩ := others.settles ready closed
    refine ⟨stillReady, later, .cons ⟨rfl, _, known, read⟩ restRead, ?_⟩
    intro call calls
    rcases Graph.calls_cons_iff.1 calls with isCall | calls
    · exact absurd isCall (NodeKind.ne_call_of_alone alone call)
    · exact own call calls
  | .call known read found others, ready, closed => by
    obtain ⟨readyBetween, between, stored, answered⟩ := found.settles ready closed
    obtain ⟨stillReady, later, restRead, own⟩ := others.settles readyBetween between
    refine ⟨stillReady, later, .cons ⟨rfl, _, known, read⟩ restRead, ?_⟩
    intro call calls
    rcases Graph.calls_cons_iff.1 calls with isCall | calls
    · cases isCall
      exact ⟨others.extends.kept stored, answered⟩
    · exact own call calls

theorem Finds.settles {stack : List String} {flow : String} {request : VersionRequest}
    {before after : Progress} {graph : Graph} :
    Finds compiler stack flow request before graph after →
      supply.ready before.embedded → before.Closed supply →
        supply.ready after.embedded ∧ after.Closed supply ∧
          after.cache.lookup graph.key = some graph ∧
            ∃ embedded document, supply.ready embedded ∧
              compiler.findDocument embedded flow request = .ok document ∧
                document.key = graph.key
  | .cached answer _ stored, ready, closed => by
    have keyed := closed.keyed stored
    exact ⟨ready, closed, keyed ▸ stored, _, _, ready, answer, keyed.symm⟩
  | .compiled answer inactive missing compiles, ready, closed => by
    have isSource := supply.found ready answer
    obtain ⟨stillReady, later, made, own⟩ :=
      compiles.settles (supply.embedded ready isSource) closed
    have absent := compiles.extends.apart (List.mem_append_right _ List.mem_cons_self) missing
    rw [← made.key_eq] at absent ⊢
    exact ⟨stillReady, later.store absent ⟨_, isSource, made⟩ own,
      Progress.lookup_store_self _ _ _, _, _, ready, answer, made.key_eq.symm⟩

end

/-! ## Compiled graphs -/

section

variable {document : FlowDocument} {graph : Graph} {call : SubflowCall Graph}

/-- A compiled graph leaves a cache in which its calls are settled, and which does not hold it. -/
theorem exists_closed (supply : Supply compiler)
    (ready : supply.ready ((initialProgress document).embed document).embedded)
    (compiled : (compiler.compile document).1 = .ok graph) :
    CompiledFrom compiler document graph ∧ ∃ progress : Progress, progress.Closed supply ∧
      progress.cache.lookup document.key = none ∧
        ∀ call, CallsWithin graph.nodes call → progress.Settles supply call := by
  obtain ⟨after, compiles⟩ := exists_compiles compiled
  obtain ⟨-, closed, made, own⟩ := compiles.settles ready (.of_nil rfl)
  have absent : after.cache.lookup document.key = none :=
    compiles.extends.apart (List.mem_append_right _ List.mem_cons_self) rfl
  exact ⟨made, after, closed, absent, fun call within => closed.settles_within own within⟩

/-- No called flow has the key of the main flow. -/
theorem key_ne_of_within (compiled : (compiler.compile document).1 = .ok graph)
    (within : CallsWithin graph.nodes call) : call.target.key ≠ graph.key := by
  obtain ⟨made, progress, -, absent, settled⟩ := exists_closed (.any compiler) trivial compiled
  intro same
  have stored := (settled call within).stored
  rw [same, made.key_eq, absent] at stored
  cases stored

/-- **Calls of flows with one key hold one graph.** -/
theorem target_eq_of_key_eq {other : SubflowCall Graph}
    (compiled : (compiler.compile document).1 = .ok graph)
    (within : CallsWithin graph.nodes call) (otherWithin : CallsWithin graph.nodes other)
    (same : call.target.key = other.target.key) : call.target = other.target := by
  obtain ⟨-, progress, -, -, settled⟩ := exists_closed (.any compiler) trivial compiled
  have stored := (settled call within).stored
  rw [same, (settled other otherWithin).stored] at stored
  exact (Option.some.inj stored).symm

/-- Every called graph was compiled from a known document. -/
theorem exists_compiledFrom_of_within (supply : Supply compiler)
    (ready : supply.ready ((initialProgress document).embed document).embedded)
    (compiled : (compiler.compile document).1 = .ok graph)
    (within : CallsWithin graph.nodes call) :
    ∃ called, supply.source called ∧ CompiledFrom compiler called call.target := by
  obtain ⟨-, progress, closed, -, settled⟩ := exists_closed supply ready compiled
  exact closed.compiled (settled call within).stored

end

end Compiler

end DecisionFlow
