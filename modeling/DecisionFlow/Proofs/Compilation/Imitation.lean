import DecisionFlow.Proofs.Compilation.Derivation
import DecisionFlow.Proofs.Graph.Assembled
import Mathlib.Data.List.Nodup
import Mathlib.Data.List.Perm.Subperm

/-!
# Compilers that imitate each other

What a compilation does depends on the answers to its calls, and not on where these come from or on
what else could be had. So a document that one compiler compiles is compiled in the same way, with the
same graph and the same remarks, by another compiler that knows the same kinds and answers the same
calls with the same documents, even if the two keep different libraries (`Imitation.compile_eq`).

The other compiler has an allowance of its own for how deeply calls nest. Since the flows on the stack
have different keys, it is enough that there are no more keys than the allowance.
-/

set_option autoImplicit false

namespace DecisionFlow

open DecisionFlow.Graph (CallsWithin)

namespace Compiler

/-- How another compiler answers calls that are made below the main flow `root`: which libraries of
the two stand for each other, and which questions both answer with the same document, unless that is
a flow with the key of the main one. The documents have their keys among the given ones. -/
structure Imitation (compiler other : Compiler) (root : String) (keys : List String) where
  alike : Library → Library → Prop
  asked : String → VersionRequest → Prop
  kinds : other.kinds = compiler.kinds
  answers : ∀ {library library' : Library} {flow : String} {request : VersionRequest}
    {document : FlowDocument}, alike library library' → asked flow request →
      compiler.findDocument library flow request = .ok document → document.key ≠ root →
        other.findDocument library' flow request = .ok document ∧ document.key ∈ keys ∧
          alike (document.subflows.foldl Library.registerWithEmbedded library)
            (document.subflows.foldl Library.registerWithEmbedded library')

/-! ## Room for calls -/

/-- The main flow and others with different keys are being compiled, and the allowance is enough for
all flows that are left. -/
structure HasAllowance (root : String) (keys stack : List String) (allowance : Nat) : Prop where
  active : root ∈ stack
  distinct : stack.Nodup
  known : stack ⊆ keys
  enough : keys.length ≤ allowance + stack.length

/-- There is room for a flow that is not being compiled. -/
theorem HasAllowance.call {root key : String} {keys stack : List String} {allowance : Nat}
    (room : HasAllowance root keys stack allowance) (inactive : key ∉ stack) (isKnown : key ∈ keys) :
    ∃ less, allowance = less + 1 ∧ HasAllowance root keys (stack ++ [key]) less := by
  have distinct : (stack ++ [key]).Nodup := by
    simpa [List.nodup_append, room.distinct] using
      fun other active => ne_of_mem_of_not_mem active inactive
  have known : stack ++ [key] ⊆ keys :=
    List.append_subset.2 ⟨room.known, by simpa using isKnown⟩
  have fits := (distinct.subperm known).length_le
  have enough := room.enough
  rw [List.length_append, List.length_singleton] at fits
  obtain ⟨less, rfl⟩ : ∃ less, allowance = less + 1 := ⟨allowance - 1, by omega⟩
  refine ⟨less, rfl, List.mem_append_left _ room.active, distinct, known, ?_⟩
  rw [List.length_append, List.length_singleton]
  omega

end Compiler

open Compiler (Imitation HasAllowance)

/-! ## What both have gathered -/

variable {compiler other : Compiler} {root : String} {keys : List String}

/-- Two compilations have compiled the same flows and can call flows from libraries that stand for
each other. -/
structure Progress.Alike (imitation : Imitation compiler other root keys)
    (progress progress' : Progress) : Prop where
  embedded : imitation.alike progress.embedded progress'.embedded
  cache : progress'.cache = progress.cache
  warnings : progress'.warnings = progress.warnings

namespace Progress.Alike

variable {imitation : Imitation compiler other root keys} {progress progress' : Progress}

theorem store (alike : progress.Alike imitation progress') (key : String) (graph : Graph) :
    (progress.store key graph).Alike imitation (progress'.store key graph) :=
  ⟨alike.embedded, congrArg (List.cons _) alike.cache, alike.warnings⟩

theorem remark (alike : progress.Alike imitation progress') (graph : Graph) :
    (progress.remark graph).Alike imitation (progress'.remark graph) := by
  unfold Progress.remark
  split
  · exact alike
  · exact ⟨alike.embedded, alike.cache, by rw [alike.warnings]⟩

end Progress.Alike

namespace Compiler

/-! ## Derivations are run again -/

section

variable (imitation : Imitation compiler other root keys)

mutual

theorem Compiles.imitated {stack : List String} {document document' : FlowDocument}
    {before after before' : Progress} {graph : Graph} {allowance : Nat} :
    Compiles compiler stack document before graph after → document'.bare = document.bare →
      (before.embed document).Alike imitation (before'.embed document') →
        (∀ call, CallsWithin graph.nodes call → imitation.asked call.flow call.version) →
          HasAllowance root keys (stack ++ [document.key]) allowance →
            ∃ after', (other.compileWithin (allowance + 1) stack document').run before' =
              .ok graph after' ∧ after.Alike imitation after'
  | .intro named compiled assembled, same, alike, asked, room => by
    obtain ⟨between, run, alikeBetween⟩ :=
      compiled.imitated alike (Graph.nodes_of_assemble assembled ▸ asked) room
    have sameId : document'.id = document.id := (congrArg FlowDocument.id same :)
    have sameVersion : document'.version = document.version := (congrArg FlowDocument.version same :)
    have sameNodes : document'.nodes = document.nodes := (congrArg FlowDocument.nodes same :)
    have sameEdges : document'.edges = document.edges := (congrArg FlowDocument.edges same :)
    have sameKey : document'.key = document.key := congrArg₂ flowKey sameId sameVersion
    refine ⟨between.remark graph, compileWithin_succ_run_eq_ok_iff.2 ?_, alikeBetween.remark graph⟩
    rw [sameKey, sameId, sameVersion, sameNodes, sameEdges]
    exact ⟨named, _, between, run, assembled, rfl⟩

theorem CompilesNodes.imitated {stack : List String} {documents : List NodeDocument}
    {before after before' : Progress} {nodes : List (Node Graph)} {allowance : Nat} :
    CompilesNodes compiler stack documents before nodes after → before.Alike imitation before' →
      (∀ call, CallsWithin nodes call → imitation.asked call.flow call.version) →
        HasAllowance root keys stack allowance →
          ∃ after', (other.compileNodes (other.callee (other.compileWithin allowance) stack)
            documents).run before' = .ok nodes after' ∧ after.Alike imitation after'
  | .nil, alike, _, _ => ⟨before', rfl, alike⟩
  | .alone known alone read others, alike, asked, room => by
    obtain ⟨after', run, alikeAfter⟩ :=
      others.imitated alike (fun call within => asked call within.tail) room
    refine ⟨after', run_bind_eq_ok_iff.2 ⟨_, before', compileNode_run_eq_ok_iff.2 ⟨_, ?_, rfl, read,
      .inl ⟨alone, rfl⟩⟩, run_bind_eq_ok_iff.2 ⟨_, after', run, rfl⟩⟩, alikeAfter⟩
    rw [imitation.kinds]
    exact known
  | .call known read found others, alike, asked, room => by
    obtain ⟨between, foundRun, alikeBetween⟩ := found.imitated alike (asked _ .head)
      (fun call within => asked call (.trans .head within)) room
    obtain ⟨after', run, alikeAfter⟩ :=
      others.imitated alikeBetween (fun call within => asked call within.tail) room
    refine ⟨after', run_bind_eq_ok_iff.2 ⟨_, between, compileNode_run_eq_ok_iff.2 ⟨_, ?_, rfl, read,
      .inr ⟨_, rfl, foundRun⟩⟩, run_bind_eq_ok_iff.2 ⟨_, after', run, rfl⟩⟩, alikeAfter⟩
    rw [imitation.kinds]
    exact known

theorem Finds.imitated {stack : List String} {flow : String} {request : VersionRequest}
    {before after before' : Progress} {graph : Graph} {allowance : Nat} :
    Finds compiler stack flow request before graph after → before.Alike imitation before' →
      imitation.asked flow request →
        (∀ call, CallsWithin graph.nodes call → imitation.asked call.flow call.version) →
          HasAllowance root keys stack allowance →
            ∃ after', (other.callee (other.compileWithin allowance) stack flow request).run before' =
              .ok graph after' ∧ after.Alike imitation after'
  | .cached answer inactive stored, alike, asked, _, room => by
    obtain ⟨answer', -, -⟩ := imitation.answers alike.embedded asked answer
      (ne_of_mem_of_not_mem room.active inactive).symm
    exact ⟨before', callee_run_eq_ok_iff.2 ⟨_, answer', inactive,
      .inl ⟨alike.cache ▸ stored, rfl⟩⟩, alike⟩
  | .compiled answer inactive missing compiles, alike, asked, askedBelow, room => by
    obtain ⟨answer', isKnown, embedded⟩ := imitation.answers alike.embedded asked answer
      (ne_of_mem_of_not_mem room.active inactive).symm
    obtain ⟨less, rfl, roomBelow⟩ := room.call inactive isKnown
    obtain ⟨between, run, alikeBetween⟩ := compiles.imitated rfl
      ⟨embedded, alike.cache, alike.warnings⟩ askedBelow roomBelow
    exact ⟨_, callee_run_eq_ok_iff.2 ⟨_, answer', inactive,
      .inr ⟨alike.cache ▸ missing, between, run, rfl⟩⟩, alikeBetween.store _ _⟩

end

end

/-! ## Documents are compiled again -/

variable {document document' : FlowDocument} {graph : Graph} {warnings : List CompileWarning}

/-- A compilation remarks on what its run has remarked on. -/
theorem compile_eq_ok_iff : compiler.compile document = (.ok graph, warnings) ↔
    ∃ after, (compiler.compileWithin (compiler.nesting document) [] document).run
      (initialProgress document) = .ok graph after ∧ after.warnings = warnings := by
  unfold compile
  cases (compiler.compileWithin (compiler.nesting document) [] document).run
      (initialProgress document) <;> simp

/-- **A document that one compiler compiles is compiled in the same way by another one**, if that
answers all calls in the resulting graph with the same documents. -/
theorem Imitation.compile_eq (imitation : Imitation compiler other document.key keys)
    (compiled : compiler.compile document = (.ok graph, warnings))
    (same : document'.bare = document.bare)
    (alike : imitation.alike ((initialProgress document).embed document).embedded
      ((initialProgress document').embed document').embedded)
    (asked : ∀ call, CallsWithin graph.nodes call → imitation.asked call.flow call.version)
    (isKnown : document.key ∈ keys) (enough : keys.length ≤ other.nesting document') :
    other.compile document' = (.ok graph, warnings) := by
  obtain ⟨after, run, rfl⟩ := compile_eq_ok_iff.1 compiled
  have room : HasAllowance document.key keys ([] ++ [document.key])
      (document'.flowCount + other.resolver.flowCount) :=
    ⟨List.mem_cons_self, List.nodup_singleton _, by simpa using isKnown, enough⟩
  obtain ⟨after', run', alikeAfter⟩ :=
    (compiles_of_run run).imitated imitation same ⟨alike, rfl, rfl⟩ asked room
  exact compile_eq_ok_iff.2 ⟨after', run', alikeAfter.warnings⟩

end Compiler

end DecisionFlow
