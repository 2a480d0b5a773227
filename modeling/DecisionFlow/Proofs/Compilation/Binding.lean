import DecisionFlow.Proofs.Compilation.Cache

/-!
# What calls are bound to

A call names a flow and asks for a version, and compilation checks that the document with which it
is answered has that id and an accepted version. But what the call holds is the graph that is stored
under the key of the document, and that key does not determine id and version: `a@1` in version `2`
and `a` in version `1@2` are different flows with one key. A call is bound to what it asked for
exactly if no flow with another id has the same key among the called ones (`calls_match_iff`).
-/

set_option autoImplicit false

namespace DecisionFlow

open DecisionFlow.Graph (Calls CallsWithin)

/-- The call holds the graph of the flow and version that it asks for. -/
def SubflowCall.Matches (call : SubflowCall Graph) : Prop :=
  call.target.id = call.flow ∧ call.version.accepts call.target.version = true

/-! ## Calls that bring flows into the cache -/

/-- Every graph stored on the way is that of a call which asks for its id and version. -/
def Progress.Introduces (introduced : SubflowCall Graph → Prop) (before after : Progress) : Prop :=
  ∀ key graph, before.cache.lookup key = none → after.cache.lookup key = some graph →
    ∃ call, introduced call ∧ call.target = graph ∧ call.Matches

namespace Progress.Introduces

variable {introduced others : SubflowCall Graph → Prop} {before between after : Progress}

theorem of_cache_eq (same : after.cache = before.cache) : Introduces introduced before after := by
  intro key graph missing stored
  rw [same, missing] at stored
  cases stored

theorem mono (included : ∀ call, introduced call → others call)
    (introduces : Introduces introduced before after) : Introduces others before after := by
  intro key graph missing stored
  obtain ⟨call, isIntroduced, bound⟩ := introduces key graph missing stored
  exact ⟨call, included call isIntroduced, bound⟩

theorem trans {stack : List String} (extension : Extends stack between after)
    (first : Introduces introduced before between) (later : Introduces introduced between after) :
    Introduces introduced before after := by
  intro key graph missing stored
  cases known : between.cache.lookup key with
  | none => exact later key graph known stored
  | some found =>
      cases (extension.kept known).symm.trans stored
      exact first key graph missing known

/-- Storing the graph of a call. -/
theorem store {key : String} {call : SubflowCall Graph} (isIntroduced : introduced call)
    (bound : call.Matches) (introduces : Introduces introduced before after) :
    Introduces introduced before (after.store key call.target) := by
  intro other graph missing stored
  by_cases same : other = key
  · subst same
    simp only [lookup_store_self, Option.some.injEq] at stored
    exact ⟨call, isIntroduced, stored, bound⟩
  · rw [lookup_store_of_ne same] at stored
    exact introduces other graph missing stored

end Progress.Introduces

namespace Compiler

variable {compiler : Compiler}

mutual

theorem Compiles.introduces {stack : List String} {document : FlowDocument}
    {before after : Progress} {graph : Graph} :
    Compiles compiler stack document before graph after →
      Progress.Introduces (CallsWithin graph.nodes) before after
  | .intro _ compiled assembled => by
    rw [Graph.nodes_of_assemble assembled]
    exact .trans (.of_cache_eq [] (Progress.remark_cache _ _))
      (.trans compiled.extends (.of_cache_eq (Progress.embed_cache _ _)) compiled.introduces)
      (.of_cache_eq (Progress.remark_cache _ _))

theorem CompilesNodes.introduces {stack : List String} {documents : List NodeDocument}
    {before after : Progress} {nodes : List (Node Graph)} :
    CompilesNodes compiler stack documents before nodes after →
      Progress.Introduces (CallsWithin nodes) before after
  | .nil => .of_cache_eq rfl
  | .alone _ _ _ others =>
    others.introduces.mono fun _ => .tail
  | .call _ _ found others => by
    refine .trans others.extends ((found.introduces rfl rfl rfl).mono ?_)
      (others.introduces.mono fun _ => .tail)
    rintro inner (rfl | within)
    · exact .head
    · exact .trans .head within

theorem Finds.introduces {stack : List String} {flow : String} {request : VersionRequest}
    {before after : Progress} {graph : Graph} {call : SubflowCall Graph} :
    Finds compiler stack flow request before graph after →
      call.flow = flow → call.version = request → call.target = graph →
        Progress.Introduces (fun inner => inner = call ∨ CallsWithin graph.nodes inner) before after
  | .cached _ _ _, _, _, _ => .of_cache_eq rfl
  | .compiled answer _ _ compiles, isFlow, isRequest, isTarget => by
    have below := compiles.introduces
    obtain ⟨-, isId, accepted⟩ := findDocument_eq_ok_iff.1 answer
    subst isFlow isRequest isTarget
    have bound : call.Matches := ⟨compiles.id_eq.trans isId, compiles.version_eq ▸ accepted⟩
    exact (below.mono fun _ => .inr).store (.inl rfl) bound

end

/-! ## Two flows with one key -/

/-- A flow that yields its id and version. -/
def namedFlow (id version : String) : FlowDocument where
  id := id
  version := version
  nodes := [⟨"start", "start", []⟩,
    ⟨"end", "output", [("output", .string ("flow " ++ id ++ ", version " ++ version))]⟩]
  edges := [⟨"start", "end", none⟩]
  subflows := []

/-- A node that calls a flow in a certain version. -/
def callNode (node : String) (called : String × String) : NodeDocument :=
  ⟨node, "subflow", [("flow", .string called.1), ("version", .string called.2)]⟩

/-- A flow that calls two flows which it embeds, and yields what the second one does. -/
def twoCalls (first second : String × String) : FlowDocument where
  id := "main"
  version := "1"
  nodes := [⟨"start", "start", []⟩, callNode "first" first, callNode "second" second,
    ⟨"end", "output", [("output", .object [("node", .string "second")])]⟩]
  edges := [⟨"start", "first", none⟩, ⟨"first", "second", none⟩, ⟨"second", "end", none⟩]
  subflows := [namedFlow first.1 first.2, namedFlow second.1 second.2]

/-- The flow that a node asks for, with the id of the graph that it holds. -/
def askedAndHeld? : Node Graph → Option (String × String)
  | ⟨_, .subflowCall call⟩ => some (call.flow, call.target.id)
  | _ => none

theorem not_matches_of_asked_ne {nodes : List (Node Graph)} (flow held : String)
    (member : some (flow, held) ∈ nodes.map askedAndHeld?) (different : held ≠ flow) :
    ∃ call, CallsWithin nodes call ∧ ¬ call.Matches := by
  obtain ⟨⟨id, kind⟩, isNode, asked⟩ := List.mem_map.1 member
  cases kind with
  | subflowCall call =>
      cases asked
      exact ⟨call, .own ⟨id, isNode⟩, fun bound => different bound.1⟩
  | _ => cases asked

/-- The flows `a@1` in version `2` and `a` in version `1@2` have the same key, so the second call
holds the graph of the first. -/
theorem exists_mismatch_of_equal_keys : ∃ graph,
    (Compiler.plain.compile (twoCalls ("a@1", "2") ("a", "1@2"))).1 = .ok graph ∧
      ∃ call, CallsWithin graph.nodes call ∧ ¬ call.Matches := by
  have bound : ((Compiler.plain.compile (twoCalls ("a@1", "2") ("a", "1@2"))).1.map
      fun graph => graph.nodes.map askedAndHeld?).toOption =
        some [none, some ("a@1", "a@1"), some ("a", "a@1"), none] := by decide +kernel
  cases compiled : (Compiler.plain.compile (twoCalls ("a@1", "2") ("a", "1@2"))).1 with
  | error problem => simp [compiled, Except.map, Except.toOption] at bound
  | ok graph =>
      simp only [compiled, Except.map, Except.toOption, Option.some.injEq] at bound
      refine ⟨graph, rfl, not_matches_of_asked_ne "a" "a@1" ?_ (by decide)⟩
      simp [bound]

/-! ## Compiled graphs -/

section

variable {document : FlowDocument} {graph : Graph} {call other : SubflowCall Graph}

/-- All calls of a compiled graph, at any depth, are settled in one cache. -/
theorem exists_settled (compiled : (compiler.compile document).1 = .ok graph) :
    ∃ progress : Progress,
      (∀ call, CallsWithin graph.nodes call → progress.Settles (.any compiler) call) ∧
        Progress.Introduces (CallsWithin graph.nodes) (initialProgress document) progress := by
  obtain ⟨after, compiles⟩ := exists_compiles compiled
  have ready : (Supply.any compiler).ready ((initialProgress document).embed document).embedded :=
    trivial
  obtain ⟨-, closed, -, own⟩ := compiles.settles ready (.of_nil rfl)
  exact ⟨after, fun call within => closed.settles_within own within, compiles.introduces⟩

/-- A call holds what it asks for if no call that asks for a flow with another id holds a graph with
the same key. -/
theorem matches_of_apart (compiled : (compiler.compile document).1 = .ok graph)
    (within : CallsWithin graph.nodes call)
    (apart : ∀ other, CallsWithin graph.nodes other → other.target.key = call.target.key →
      other.flow = call.flow) : call.Matches := by
  obtain ⟨progress, settled, introduces⟩ := exists_settled compiled
  obtain ⟨stored, embedded, answer, -, found, answered⟩ := settled call within
  obtain ⟨-, isFlow, accepted⟩ := findDocument_eq_ok_iff.1 found
  obtain ⟨first, firstWithin, isTarget, firstBound⟩ :=
    introduces call.target.key call.target rfl stored
  have sameFlow := apart first firstWithin (by rw [isTarget])
  have isId : call.target.id = call.flow := by
    rw [← isTarget, firstBound.1, sameFlow]
  refine ⟨isId, ?_⟩
  rw [Graph.key, isId, FlowDocument.key, isFlow] at answered
  rwa [← flowKey_right_inj answered]

/-- **What calls are bound to.** Every call in a compiled graph, at any depth, holds the graph of the
flow and version that it asks for, exactly if no two of these calls ask for flows with different ids
and hold graphs with the same key. -/
theorem calls_match_iff (compiled : (compiler.compile document).1 = .ok graph) :
    (∀ call, CallsWithin graph.nodes call → call.Matches) ↔
      ∀ call other, CallsWithin graph.nodes call → CallsWithin graph.nodes other →
        call.target.key = other.target.key → call.flow = other.flow := by
  constructor
  · intro bound call other within otherWithin same
    have sameTarget := target_eq_of_key_eq compiled within otherWithin same
    rw [← (bound call within).1, ← (bound other otherWithin).1, sameTarget]
  · intro apart call within
    exact matches_of_apart compiled within fun other otherWithin => apart other call otherWithin within

end

/-- Flows with different keys are told apart. -/
theorem calls_match_iff_of_two_calls : ∃ graph,
    (Compiler.plain.compile (twoCalls ("a", "1") ("b", "1"))).1 = .ok graph ∧
      ((∀ call, CallsWithin graph.nodes call → call.Matches) ↔
        ∀ call other, CallsWithin graph.nodes call → CallsWithin graph.nodes other →
          call.target.key = other.target.key → call.flow = other.flow) := by
  have succeeds : (Compiler.plain.compile (twoCalls ("a", "1") ("b", "1"))).1.isOk = true := by
    decide +kernel
  obtain ⟨graph, compiled⟩ := isOk_iff.1 succeeds
  exact ⟨graph, compiled, calls_match_iff compiled⟩

end Compiler

end DecisionFlow
